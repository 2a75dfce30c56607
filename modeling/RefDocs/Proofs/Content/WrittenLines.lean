import RefDocs.Proofs.Content.Grids
import RefDocs.Proofs.Content.LineBreaks

/-!
# The lines that a table is written on

A table is written on the lines of its caption and of its frame and on one line for each row,
whatever is in its cells: the text of a cell never breaks a line.
-/

namespace RefDocs

open Text (Unbroken)

/-- No cell text breaks a line, whatever the cell holds. -/
theorem Content.unbroken_cellTexts (style : TableStyle) (cells : List Content) :
    ∀ text ∈ cellTexts style cells, Unbroken text := by
  intro text text_mem
  rw [cellTexts_eq_map] at text_mem
  obtain ⟨cell, -, rfl⟩ := List.mem_map.mp text_mem
  exact style.unbroken_cellText _

namespace Table

/-- The column headers; there are none before they are set. -/
def headers {Cell : Type} (table : Table Cell) : List String :=
  (Grid.headers? table.grid).getD []

/-- The lines of a caption: the label and an empty line. -/
def captionLines : Option String → List String
  | none => []
  | some caption => ["**" ++ Text.escape caption ++ "**", ""]

/-- The lines of a table above its rows. -/
def above (table : Table Content) : List String :=
  captionLines table.caption ++ table.style.above table.headers

/-- The line of a row of a table. -/
def line (table : Table Content) (row : List Content) : String :=
  table.style.line (Content.cellTexts table.style row)

theorem ofLines_captionLines (newline : String) (caption : Option String) :
    Text.ofLines newline (captionLines caption) = caption.elim "" (tableLabel newline) := by
  cases caption with
  | none => rfl
  | some label =>
      rw [captionLines, Text.ofLines_cons, Text.ofLines_singleton, String.empty_append]
      rfl

theorem writeTable_rowTexts (table : Table Content) (newline : String)
    (headers : List String) (rows : List (List Content)) :
    table.style.writeTable newline headers (Content.rowTexts table.style rows) =
      Text.ofLines newline
        (table.style.above headers ++ rows.map table.line ++ table.style.below) := by
  rw [table.style.writeTable_eq_ofLines, Content.rowTexts_eq_map, List.map_map]
  rfl

/-- A table with rows is written as its lines, on a fresh line. -/
theorem write_eq_ofLines {table : Table Content} (rows_ne : Grid.rowsOf table.grid ≠ [])
    (newline : String) (atLineStart : Bool) :
    (Content.table table).write newline atLineStart =
      ⟨freshLine newline atLineStart ++ Text.ofLines newline
        (table.above ++ (Grid.rowsOf table.grid).map table.line ++ table.style.below), true⟩ := by
  obtain ⟨style, caption, _ | ⟨headers, rows⟩⟩ := table
  · exact absurd rfl rows_ne
  · have not_empty : rows.isEmpty = false := by simpa [Grid.rowsOf] using rows_ne
    have written : (Content.table ⟨style, caption, some ⟨headers, rows⟩⟩).write newline atLineStart =
        ⟨freshLine newline atLineStart ++ caption.elim "" (tableLabel newline) ++
          style.writeTable newline headers (Content.rowTexts style rows), true⟩ := by
      cases caption with
      | none => rw [Content.write, not_empty, if_neg (by simp)]; rfl
      | some label => rw [Content.write, not_empty, if_neg (by simp)]; rfl
    rw [written, writeTable_rowTexts ⟨style, caption, some ⟨headers, rows⟩⟩, ← ofLines_captionLines,
      String.append_assoc, ← Text.ofLines_append]
    simp only [above, Grid.rowsOf, List.append_assoc]
    rfl

theorem write_of_rows_eq_nil {table : Table Content} (rows_eq : Grid.rowsOf table.grid = [])
    (newline : String) (atLineStart : Bool) :
    (Content.table table).write newline atLineStart = ⟨"", atLineStart⟩ := by
  obtain ⟨style, caption, _ | ⟨headers, rows⟩⟩ := table
  · rfl
  · obtain rfl : rows = [] := rows_eq
    cases caption <;> rfl

theorem unbroken_above {table : Table Content}
    (caption_unbroken : ∀ caption ∈ table.caption, Unbroken caption)
    (headers_unbroken : ∀ header ∈ table.headers, Unbroken header) :
    ∀ line ∈ table.above, Unbroken line := by
  have caption_lines : ∀ line ∈ captionLines table.caption, Unbroken line := by
    cases caption_eq : table.caption with
    | none => exact List.forall_mem_nil _
    | some caption =>
        have label_unbroken : Unbroken ("**" ++ Text.escape caption ++ "**") :=
          (Unbroken.append (by decide) (caption_unbroken caption caption_eq).escape).append
            (by decide)
        simp only [captionLines, List.forall_mem_cons]
        exact ⟨label_unbroken, by decide, List.forall_mem_nil _⟩
  intro line line_mem
  rcases List.mem_append.mp line_mem with in_caption | in_head
  · exact caption_lines line in_caption
  · exact table.style.unbroken_above headers_unbroken line in_head

theorem unbroken_line (table : Table Content) (row : List Content) : Unbroken (table.line row) :=
  table.style.unbroken_line (Content.unbroken_cellTexts table.style row)

theorem addRow_eq {Cell : Type} (table : Table Cell) (cells : List Cell) :
    table.addRow cells =
      (Grid.addRow cells cells.length table.grid).map fun grid => { table with grid := some grid } := by
  rw [addRow]
  cases Grid.addRow cells cells.length table.grid with
  | error error => rfl
  | ok grid => rfl

theorem rowsOf_of_addRow {Cell : Type} {table longer : Table Cell} {cells : List Cell}
    (added : table.addRow cells = .ok longer) :
    Grid.rowsOf longer.grid = Grid.rowsOf table.grid ++ [cells] := by
  rw [addRow_eq] at added
  cases grid_eq : Grid.addRow cells cells.length table.grid with
  | error error =>
      rw [grid_eq] at added
      cases added
  | ok grid =>
      rw [grid_eq] at added
      obtain rfl := Except.ok.inj added
      obtain ⟨headers, rows, table_eq, -, rfl⟩ := Grid.addRow_eq_ok_iff.mp grid_eq
      rw [table_eq]
      rfl

/-- No cell text breaks a line.  Any number of rows is written with the lines of the frame and one
line for each row, in order.  A table without rows writes nothing, and any other one is, on a fresh
line, the lines above its rows, one line for each row in the order in which they were added, and the
lines below; apart from the rows these are as many as the form of the table has, and two more for a
caption. -/
theorem split_write_eq_lines (separator : LineSeparator) {table : Table Content}
    (caption_unbroken : ∀ caption ∈ table.caption, Unbroken caption)
    (headers_unbroken : ∀ header ∈ table.headers, Unbroken header) :
    (∀ row ∈ Grid.rowsOf table.grid, ∀ text ∈ Content.cellTexts table.style row, Unbroken text) ∧
      (∀ rows, Text.split '\n' (table.style.writeTable separator.text table.headers
          (Content.rowTexts table.style rows)) =
        (table.style.above table.headers ++ rows.map table.line ++ table.style.below).map
          (fun line => line ++ separator.lead) ++ [""]) ∧
      (Grid.rowsOf table.grid = [] → ∀ atLineStart,
        (Content.table table).write separator.text atLineStart = ⟨"", atLineStart⟩) ∧
      (Grid.rowsOf table.grid ≠ [] → ∃ text,
        (∀ atLineStart, (Content.table table).write separator.text atLineStart =
          ⟨freshLine separator.text atLineStart ++ text, true⟩) ∧
        Text.split '\n' text =
          (table.above ++ (Grid.rowsOf table.grid).map table.line ++ table.style.below).map
            (fun line => line ++ separator.lead) ++ [""]) ∧
      table.above.length + table.style.below.length =
        table.style.frameCount + (if table.caption.isSome then 2 else 0) ∧
      ∀ cells longer, table.addRow cells = .ok longer →
        Grid.rowsOf longer.grid = Grid.rowsOf table.grid ++ [cells] := by
  refine ⟨?_, ?_, ?_, ?_, ?_, fun cells longer added => rowsOf_of_addRow added⟩
  · intro row _
    exact Content.unbroken_cellTexts table.style row
  · intro rows
    rw [table.writeTable_rowTexts]
    refine Text.split_ofLines separator ?_
    simp only [List.forall_mem_append, List.forall_mem_map]
    exact ⟨⟨table.style.unbroken_above headers_unbroken, fun row _ => table.unbroken_line row⟩,
      table.style.unbroken_below⟩
  · intro rows_eq atLineStart
    exact write_of_rows_eq_nil rows_eq separator.text atLineStart
  · intro rows_ne
    refine ⟨_, write_eq_ofLines rows_ne separator.text, Text.split_ofLines separator ?_⟩
    simp only [List.forall_mem_append, List.forall_mem_map]
    exact ⟨⟨unbroken_above caption_unbroken headers_unbroken, fun row _ => table.unbroken_line row⟩,
      table.style.unbroken_below⟩
  · have caption_count : (captionLines table.caption).length =
        if table.caption.isSome then 2 else 0 := by
      cases table.caption with
      | none => rfl
      | some caption => rfl
    rw [above, List.length_append, caption_count, Nat.add_assoc,
      table.style.length_above_add_below, Nat.add_comm]

/-- A table whose cells hold a container and a tab switcher over a table of its own. -/
def orderTable : Table Content where
  style := .html
  caption := some "Orders"
  grid := some ⟨["Name", "Use"],
    [[.text "a\n\nb\n", .container .tip none (.text "one\ntwo")],
      [.tabs ⟨none, [("Java", [.table ⟨.markdown, none, some ⟨["x"], [[.text "1"]]⟩⟩])]⟩, .empty]]⟩

theorem split_write_orderTable :
    (∀ caption ∈ orderTable.caption, Unbroken caption) ∧
      (∀ header ∈ orderTable.headers, Unbroken header) ∧
      Grid.rowsOf orderTable.grid ≠ [] ∧
      ∃ text, (Content.table orderTable).write "\r\n" true = ⟨freshLine "\r\n" true ++ text, true⟩ ∧
        Text.split '\n' text = ["**Orders**\r", "\r", "<table>\r", "  <thead>\r",
          "    <tr><th>Name</th><th>Use</th></tr>\r", "  </thead>\r", "  <tbody>\r",
          "  <tr><td>a<br><br>b</td><td><!-- apidoc-container depth: 1 --><br>::::: tip<br>one" ++
            "<br>two<br>:::::</td></tr>\r",
          "  <tr><td>:::tabs<br>== Java<br>|x|<br>|---|<br>|1|<br>:::</td><td></td></tr>\r",
          "  </tbody>\r", "</table>\r", ""] := by
  have caption_unbroken : ∀ caption ∈ orderTable.caption, Unbroken caption := by
    rintro caption ⟨⟩
    decide
  have headers_unbroken : ∀ header ∈ orderTable.headers, Unbroken header := by decide
  have rows_ne : Grid.rowsOf orderTable.grid ≠ [] := List.cons_ne_nil _ _
  obtain ⟨-, -, -, lines, -⟩ := split_write_eq_lines .crlf caption_unbroken headers_unbroken
  obtain ⟨text, written, split_eq⟩ := lines rows_ne
  exact ⟨caption_unbroken, headers_unbroken, rows_ne, text, written true,
    split_eq.trans (by decide +kernel)⟩

end Table
end RefDocs
