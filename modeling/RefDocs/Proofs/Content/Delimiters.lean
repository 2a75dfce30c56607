import RefDocs.Proofs.Content.Cursor
import RefDocs.Proofs.Content.WrittenLines
import RefDocs.Proofs.Text.Reserved

/-!
# The column delimiters of pipe tables

The columns of a pipe table are delimited by the pipes in its lines, besides those that a backslash
stands in front of.  The pipes of a cell are escaped so, and the pipe behind a cell is escaped too
if the cell ends with a backslash: the line then has a delimiter less.
-/

namespace RefDocs
namespace Text

/-- The number of pipes that no backslash stands immediately in front of, in characters with a
backslash in front of them or not. -/
def delimitersBehind (backslash : Bool) : List Char → Nat
  | [] => 0
  | char :: rest =>
    (if char = '|' ∧ backslash = false then 1 else 0) + delimitersBehind (char == '\\') rest

/-- The number of column delimiters in a line. -/
def delimiters (line : String) : Nat :=
  delimitersBehind false line.toList

theorem delimitersBehind_append (backslash : Bool) (front back : List Char) :
    delimitersBehind backslash (front ++ back) =
      delimitersBehind backslash front +
        delimitersBehind (front.getLast?.elim backslash (· == '\\')) back := by
  induction front generalizing backslash with
  | nil => simp [delimitersBehind]
  | cons char rest ih =>
      have last_eq : (char :: rest).getLast?.elim backslash (· == '\\') =
          rest.getLast?.elim (char == '\\') (· == '\\') := by
        cases rest with
        | nil => rfl
        | cons next others => rw [List.getLast?_cons_cons]; rfl
      rw [List.cons_append, delimitersBehind, ih, last_eq, delimitersBehind, Nat.add_assoc]

/-- Pipes that are escaped delimit nothing. -/
theorem delimitersBehind_escapePipes (backslash : Bool) (text : String) :
    delimitersBehind backslash (replaceChar '|' "\\|" text).toList = 0 := by
  rw [toList_replaceChar]
  induction text.toList generalizing backslash with
  | nil => rfl
  | cons char rest ih =>
      rw [List.flatMap_cons, delimitersBehind_append, ih, Nat.add_zero]
      by_cases char_pipe : char = '|'
      · rw [if_pos char_pipe]
        cases backslash <;> rfl
      · rw [if_neg char_pipe, delimitersBehind, if_neg (fun is_pipe => char_pipe is_pipe.1)]
        rfl

/-! ## Texts that end with a backslash -/

theorem endsWith_backslash_eq (text : String) :
    endsWith "\\" text = (text.toList.getLast? == some '\\') := by
  rw [Bool.eq_iff_iff, endsWith_iff, beq_iff_eq, List.getLast?_eq_some_iff]
  constructor
  · rintro ⟨front, rfl⟩
    exact ⟨front.toList, String.toList_append⟩
  · rintro ⟨front, chars_eq⟩
    refine ⟨String.ofList front, ?_⟩
    rw [← String.toList_inj, chars_eq, String.toList_append, String.toList_ofList]
    rfl

/-- Replacing another character by a text that does not end with a backslash does not change
whether a text ends with one. -/
theorem endsWith_backslash_replaceChar {old : Char} {new : String} (last : Char)
    (new_last : new.toList.getLast? = some last) (old_ne : old ≠ '\\') (last_ne : last ≠ '\\')
    (text : String) : endsWith "\\" (replaceChar old new text) = endsWith "\\" text := by
  have new_ne : new.toList ≠ [] := by
    intro new_nil
    simp [new_nil] at new_last
  rw [endsWith_backslash_eq, endsWith_backslash_eq, toList_replaceChar]
  rcases List.eq_nil_or_concat' text.toList with chars_nil | ⟨front, char, chars_eq⟩
  · rw [chars_nil, List.flatMap_nil]
  · by_cases char_old : char = old
    · rw [chars_eq, getLast?_flatMap_concat front (by simpa [char_old] using new_ne),
        if_pos char_old, new_last, List.getLast?_concat]
      simp [last_ne, char_old, old_ne]
    · rw [chars_eq, getLast?_flatMap_concat front (by simp [char_old]), if_neg char_old,
        List.getLast?_concat, List.getLast?_singleton]

/-! ## Lines of cells -/

/-- The pipe behind a cell is a delimiter, unless the cell ends with a backslash. -/
theorem delimitersBehind_cell_append {cell : String} (undelimited : delimiters cell = 0)
    (rest : List Char) :
    delimitersBehind false ((cell ++ "|").toList ++ rest) =
      (if endsWith "\\" cell then 0 else 1) + delimitersBehind false rest := by
  have pipe_eq : (cell ++ "|").toList ++ rest = cell.toList ++ '|' :: rest := by simp
  rw [pipe_eq, delimitersBehind_append, ← delimiters, undelimited, Nat.zero_add, delimitersBehind,
    endsWith_backslash_eq]
  cases cell.toList.getLast? with
  | none => rfl
  | some last =>
      by_cases last_eq : last = '\\'
      · simp [last_eq]
      · simp [last_eq]

/-- A line of cells has a delimiter in front and one behind each cell that does not end with a
backslash. -/
theorem delimiters_cells {cells : List String} (undelimited : ∀ cell ∈ cells, delimiters cell = 0) :
    delimiters ("|" ++ String.join (cells.map fun cell => cell ++ "|")) +
      cells.countP (endsWith "\\") = cells.length + 1 := by
  have behind : delimiters (String.join (cells.map fun cell => cell ++ "|")) +
      cells.countP (endsWith "\\") = cells.length := by
    induction cells with
    | nil => rfl
    | cons cell rest ih =>
        rw [List.forall_mem_cons] at undelimited
        have rest_count := ih undelimited.2
        rw [delimiters] at rest_count ⊢
        rw [List.map_cons, String.join_cons, String.toList_append,
          delimitersBehind_cell_append undelimited.1, List.countP_cons, List.length_cons]
        split <;> omega
  have first_pipe : delimiters ("|" ++ String.join (cells.map fun cell => cell ++ "|")) =
      1 + delimiters (String.join (cells.map fun cell => cell ++ "|")) := by
    rw [delimiters, String.toList_append]
    rfl
  omega

/-- A count that misses some elements of a list is full exactly if it misses none. -/
theorem eq_iff_of_add_countP {Element : Type} {missed : Element → Bool} {list : List Element}
    {count total : Nat} (count_eq : count + list.countP missed = total) :
    count = total ↔ ∀ element ∈ list, missed element = false := by
  have none_missed : count = total ↔ list.countP missed = 0 := by omega
  rw [none_missed, List.countP_eq_zero]
  simp only [Bool.not_eq_true]

end Text

namespace Content

/-- What a node shows on its last line ends with a backslash. -/
def endsWithBackslash (content : Content) : Bool :=
  Text.endsWith "\\" (Text.trimEndOf '\n' (content.render "\n"))

end Content

namespace TableStyle

open Text (delimiters endsWith)

theorem delimiters_cellText (rendered : String) :
    delimiters (markdown.cellText rendered) = 0 :=
  Text.delimitersBehind_escapePipes false _

theorem endsWith_backslash_cellText (rendered : String) :
    endsWith "\\" (markdown.cellText rendered) = endsWith "\\" (Text.trimEndOf '\n' rendered) := by
  rw [cellText, Text.endsWith_backslash_replaceChar '|' rfl (by decide) (by decide),
    Text.endsWith_backslash_replaceChar '>' rfl (by decide) (by decide)]

/-- The line of column headers. -/
def headerLine (headers : List String) : String :=
  "|" ++ String.join (headers.map fun header => Text.replaceChar '|' "\\|" header ++ "|")

/-- The line between the column headers and the rows. -/
def ruleLine (headers : List String) : String :=
  "|" ++ Text.replicate headers.length "---|"

theorem delimiters_ruleLine (headers : List String) :
    delimiters (ruleLine headers) = headers.length + 1 := by
  have rule_eq : ruleLine headers = "|" ++
      String.join ((List.replicate headers.length "---").map fun cell => cell ++ "|") := by
    rw [List.map_replicate, ruleLine, Text.replicate]
    rfl
  have no_backslash : (List.replicate headers.length "---").countP (endsWith "\\") = 0 := by
    rw [List.countP_replicate, if_neg (by decide)]
  have dashes : ∀ cell ∈ List.replicate headers.length "---", delimiters cell = 0 := by
    intro cell cell_mem
    rw [List.eq_of_mem_replicate cell_mem]
    decide
  have count_eq := Text.delimiters_cells dashes
  rw [no_backslash, List.length_replicate] at count_eq
  rw [rule_eq]
  exact count_eq

theorem delimiters_headerLine (headers : List String) :
    delimiters (headerLine headers) + headers.countP (endsWith "\\") = headers.length + 1 := by
  have undelimited : ∀ cell ∈ headers.map (Text.replaceChar '|' "\\|"), delimiters cell = 0 := by
    intro cell cell_mem
    obtain ⟨header, -, rfl⟩ := List.mem_map.mp cell_mem
    exact Text.delimitersBehind_escapePipes false header
  have ends_eq : endsWith "\\" ∘ Text.replaceChar '|' "\\|" = endsWith "\\" := by
    funext header
    rw [Function.comp_apply,
      Text.endsWith_backslash_replaceChar '|' rfl (by decide) (by decide)]
  have count_eq := Text.delimiters_cells undelimited
  rw [List.map_map, List.countP_map, ends_eq, List.length_map] at count_eq
  exact count_eq

end TableStyle

namespace Table

open Text (Unbroken delimiters endsWith)

/-- A pipe table. -/
def piped (caption : Option String) (headers : List String) (rows : List (List Content)) :
    Table Content :=
  ⟨.markdown, caption, some ⟨headers, rows⟩⟩

section Piped

variable {caption : Option String} {headers : List String} {rows : List (List Content)}

theorem delimiters_line (row : List Content) :
    delimiters ((piped caption headers rows).line row) + row.countP Content.endsWithBackslash =
      row.length + 1 := by
  have undelimited : ∀ cell ∈ Content.cellTexts .markdown row, delimiters cell = 0 := by
    intro cell cell_mem
    rw [Content.cellTexts_eq_map] at cell_mem
    obtain ⟨content, -, rfl⟩ := List.mem_map.mp cell_mem
    exact TableStyle.delimiters_cellText _
  have ends_eq : (Content.cellTexts .markdown row).countP (endsWith "\\") =
      row.countP Content.endsWithBackslash := by
    rw [Content.cellTexts_eq_map, List.countP_map]
    exact List.countP_congr fun cell _ => by
      rw [Function.comp_apply, TableStyle.endsWith_backslash_cellText, Content.endsWithBackslash]
  have length_eq : (Content.cellTexts .markdown row).length = row.length := by
    rw [Content.cellTexts_eq_map, List.length_map]
  have count_eq := Text.delimiters_cells undelimited
  rw [ends_eq, length_eq] at count_eq
  exact count_eq

/-- Behind its caption, a pipe table is the line of its headers, the line that rules them off and
one line for each row. -/
theorem exists_write_piped (rows_ne : rows ≠ []) (separator : LineSeparator)
    (headers_unbroken : ∀ header ∈ headers, Unbroken header) :
    ∃ text, (∀ atLineStart,
        (Content.table (piped caption headers rows)).write separator.text atLineStart =
          ⟨freshLine separator.text atLineStart ++ caption.elim "" (tableLabel separator.text) ++
            text, true⟩) ∧
      Text.split '\n' text =
        (TableStyle.headerLine headers :: TableStyle.ruleLine headers ::
          rows.map (piped caption headers rows).line).map (fun line => line ++ separator.lead) ++
        [""] := by
  have above_eq : TableStyle.markdown.above headers =
      [TableStyle.headerLine headers, TableStyle.ruleLine headers] := rfl
  have lines_unbroken : ∀ line ∈ TableStyle.markdown.above headers ++
      rows.map (piped caption headers rows).line, Unbroken line := by
    rw [List.forall_mem_append, List.forall_mem_map]
    exact ⟨TableStyle.markdown.unbroken_above headers_unbroken, fun row _ => unbroken_line _ row⟩
  have split_eq := Text.split_ofLines separator lines_unbroken
  rw [above_eq, List.cons_append, List.cons_append, List.nil_append] at split_eq
  refine ⟨_, fun atLineStart => ?_, split_eq⟩
  have has_rows : Grid.rowsOf (piped caption headers rows).grid ≠ [] := rows_ne
  rw [write_eq_ofLines has_rows, above, List.append_assoc, List.append_assoc, Text.ofLines_append,
    ofLines_captionLines, ← String.append_assoc]
  simp only [TableStyle.below, piped, List.append_nil]
  rfl

/-- A pipe table without rows writes nothing.  Each line of any other one has a delimiter in front and
one behind each column header or cell, but for those that end with a backslash.  So each line of a
table with as many cells in each row as there are columns has a delimiter more than columns exactly
if no header and no cell ends so. -/
theorem delimiters_piped (separator : LineSeparator)
    (headers_unbroken : ∀ header ∈ headers, Unbroken header) :
    (rows = [] → ∀ atLineStart,
        (Content.table (piped caption headers rows)).write separator.text atLineStart =
          ⟨"", atLineStart⟩) ∧
      (rows ≠ [] → ∃ text, (∀ atLineStart,
          (Content.table (piped caption headers rows)).write separator.text atLineStart =
            ⟨freshLine separator.text atLineStart ++ caption.elim "" (tableLabel separator.text) ++
              text, true⟩) ∧
        Text.split '\n' text =
          (TableStyle.headerLine headers :: TableStyle.ruleLine headers ::
            rows.map (piped caption headers rows).line).map (fun line => line ++ separator.lead) ++
          [""]) ∧
      delimiters (TableStyle.headerLine headers) + headers.countP (endsWith "\\") =
        headers.length + 1 ∧
      delimiters (TableStyle.ruleLine headers) = headers.length + 1 ∧
      (∀ row ∈ rows, delimiters ((piped caption headers rows).line row) +
        row.countP Content.endsWithBackslash = row.length + 1) ∧
      ((∀ row ∈ rows, row.length = headers.length) →
        ((∀ line ∈ TableStyle.headerLine headers :: TableStyle.ruleLine headers ::
            rows.map (piped caption headers rows).line, delimiters line = headers.length + 1) ↔
          (∀ header ∈ headers, endsWith "\\" header = false) ∧
            ∀ row ∈ rows, ∀ cell ∈ row, cell.endsWithBackslash = false)) := by
  have header_count := TableStyle.delimiters_headerLine headers
  have rule_count := TableStyle.delimiters_ruleLine headers
  have row_count : ∀ row, delimiters ((piped caption headers rows).line row) +
      row.countP Content.endsWithBackslash = row.length + 1 := delimiters_line
  have written_of_nil : rows = [] → ∀ atLineStart,
      (Content.table (piped caption headers rows)).write separator.text atLineStart =
        ⟨"", atLineStart⟩ := by
    intro rows_eq
    have grid_nil : Grid.rowsOf (piped caption headers rows).grid = [] := rows_eq
    exact write_of_rows_eq_nil grid_nil separator.text
  refine ⟨written_of_nil, fun rows_ne => exists_write_piped rows_ne separator headers_unbroken,
    header_count, rule_count, fun row _ => row_count row, fun rows_fit => ?_⟩
  have row_iff : ∀ row ∈ rows, (delimiters ((piped caption headers rows).line row) =
      headers.length + 1 ↔ ∀ cell ∈ row, cell.endsWithBackslash = false) := by
    intro row row_mem
    rw [← rows_fit row row_mem]
    exact Text.eq_iff_of_add_countP (row_count row)
  simp only [List.forall_mem_cons, List.forall_mem_map, rule_count, true_and,
    Text.eq_iff_of_add_countP header_count]
  exact and_congr_right fun _ => forall₂_congr row_iff

end Piped

/-- Rows in which a pipe, a backslash in front of a pipe and a backslash at the end are shown. -/
def pathRows : List (List Content) :=
  [[.text "a|b", .text "c\\|d"], [.text "C:\\", .text "root"]]

theorem delimiters_pathRows :
    pathRows ≠ [] ∧ (∀ header ∈ ["Path|Name", "Use"], Unbroken header) ∧
      (∃ text, (Content.table (piped (some "Paths") ["Path|Name", "Use"] pathRows)).write "\r\n" true =
          ⟨"**Paths**\r\n\r\n" ++ text, true⟩ ∧
        Text.split '\n' text =
          ["|Path\\|Name|Use|\r", "|---|---|\r", "|a\\|b|c\\\\|d|\r", "|C:\\|root|\r", ""]) ∧
      delimiters "|a\\|b|c\\\\|d|" + 0 = 3 ∧ delimiters "|C:\\|root|" + 1 = 3 := by
  have rows_ne : pathRows ≠ [] := List.cons_ne_nil _ _
  have headers_unbroken : ∀ header ∈ ["Path|Name", "Use"], Unbroken header := by decide
  obtain ⟨-, lines, -, -, rows_count, -⟩ :=
    @delimiters_piped (some "Paths") _ pathRows .crlf headers_unbroken
  obtain ⟨text, written, split_eq⟩ := lines rows_ne
  refine ⟨rows_ne, headers_unbroken, ⟨text, written true, split_eq.trans (by decide +kernel)⟩, ?_, ?_⟩
  · exact rows_count [.text "a|b", .text "c\\|d"] List.mem_cons_self
  · exact rows_count [.text "C:\\", .text "root"] (List.mem_cons_of_mem _ List.mem_cons_self)

/-- Behind a cell that ends with a backslash, the delimiter is escaped and the columns merge. -/
theorem not_delimited_pathRows :
    (Content.table (piped none ["Path", "Use"] [[.text "C:\\", .text "root"]])).render "\n" =
        "|Path|Use|\n|---|---|\n|C:\\|root|\n" ∧
      ¬ ∀ line ∈ (Text.split '\n' ((Content.table (piped none ["Path", "Use"]
          [[.text "C:\\", .text "root"]])).render "\n")).dropLast,
        delimiters line = ["Path", "Use"].length + 1 := by
  constructor <;> decide +kernel

end Table
end RefDocs
