import RefDocs.Content.Write
import RefDocs.Proofs.Text.Lines

/-!
# The lines of tables

A table is the lines of its head, one line for each row, and the lines of its foot.  None of them holds
a line break if the headers and the texts of the cells hold none.
-/

namespace RefDocs

open Text (Unbroken)

namespace TableStyle

/-- The lines of a table above its rows. -/
def headLines (newline : String) (headers : List String) : TableStyle → String
  | .html =>
    "<table>" ++ newline ++ "  <thead>" ++ newline ++ "    <tr>"
      ++ String.join (headers.map fun header => "<th>" ++ Text.escape header ++ "</th>")
      ++ "</tr>" ++ newline ++ "  </thead>" ++ newline ++ "  <tbody>" ++ newline
  | .markdown =>
    "|" ++ String.join (headers.map fun header => Text.replaceChar '|' "\\|" header ++ "|")
      ++ newline ++ "|" ++ Text.replicate headers.length "---|" ++ newline

/-- The line of a row from the texts of its cells. -/
def rowLine (newline : String) (cells : List String) : TableStyle → String
  | .html =>
    "  <tr>" ++ String.join (cells.map fun cell => "<td>" ++ cell ++ "</td>") ++ "</tr>" ++ newline
  | .markdown => "|" ++ String.join (cells.map fun cell => cell ++ "|") ++ newline

/-- The lines of a table below its rows. -/
def footLines (newline : String) : TableStyle → String
  | .html => "  </tbody>" ++ newline ++ "</table>" ++ newline
  | .markdown => ""

theorem writeTable_eq (style : TableStyle) (newline : String) (headers : List String)
    (rows : List (List String)) :
    style.writeTable newline headers rows =
      style.headLines newline headers
        ++ String.join (rows.map fun cells => style.rowLine newline cells)
        ++ style.footLines newline := by
  unfold writeTable headLines rowLine footLines
  cases style with
  | html => simp only [String.append_assoc]
  | markdown => simp only [String.append_empty]

/-! ## The lines without their separators -/

/-- The lines of a table above its rows. -/
def above (headers : List String) : TableStyle → List String
  | .html =>
    ["<table>", "  <thead>",
      "    <tr>" ++ String.join (headers.map fun header => "<th>" ++ Text.escape header ++ "</th>")
        ++ "</tr>",
      "  </thead>", "  <tbody>"]
  | .markdown =>
    ["|" ++ String.join (headers.map fun header => Text.replaceChar '|' "\\|" header ++ "|"),
      "|" ++ Text.replicate headers.length "---|"]

/-- The line of a row from the texts of its cells. -/
def line (cells : List String) : TableStyle → String
  | .html => "  <tr>" ++ String.join (cells.map fun cell => "<td>" ++ cell ++ "</td>") ++ "</tr>"
  | .markdown => "|" ++ String.join (cells.map fun cell => cell ++ "|")

/-- The lines of a table below its rows. -/
def below : TableStyle → List String
  | .html => ["  </tbody>", "</table>"]
  | .markdown => []

/-- The number of lines of a table besides its rows and its caption. -/
def frameCount : TableStyle → Nat
  | .html => 7
  | .markdown => 2

theorem length_above_add_below (style : TableStyle) (headers : List String) :
    (style.above headers).length + style.below.length = style.frameCount := by
  cases style with
  | html => rfl
  | markdown => rfl

theorem rowLine_eq (style : TableStyle) (newline : String) (cells : List String) :
    style.rowLine newline cells = style.line cells ++ newline := by
  cases style with
  | html => rfl
  | markdown => rfl

theorem headLines_eq_ofLines (style : TableStyle) (newline : String) (headers : List String) :
    style.headLines newline headers = Text.ofLines newline (style.above headers) := by
  unfold headLines above
  cases style with
  | html =>
      dsimp only
      rw [Text.ofLines_cons, Text.ofLines_cons, Text.ofLines_cons, Text.ofLines_cons,
        Text.ofLines_singleton]
      simp only [String.append_assoc]
  | markdown =>
      dsimp only
      rw [Text.ofLines_cons, Text.ofLines_singleton]
      simp only [String.append_assoc]

theorem footLines_eq_ofLines (style : TableStyle) (newline : String) :
    style.footLines newline = Text.ofLines newline style.below := by
  cases style with
  | html =>
      rw [below, Text.ofLines_cons, Text.ofLines_singleton, footLines, String.append_assoc]
  | markdown => rfl

theorem writeTable_eq_ofLines (style : TableStyle) (newline : String) (headers : List String)
    (rows : List (List String)) :
    style.writeTable newline headers rows =
      Text.ofLines newline
        (style.above headers ++ rows.map (fun cells => style.line cells) ++ style.below) := by
  have rows_eq : String.join (rows.map fun cells => style.rowLine newline cells) =
      Text.ofLines newline (rows.map fun cells => style.line cells) := by
    simp only [rowLine_eq, Text.ofLines, List.map_map, Function.comp_def]
  rw [writeTable_eq, headLines_eq_ofLines, rows_eq, footLines_eq_ofLines, Text.ofLines_append,
    Text.ofLines_append]

theorem unbroken_above (style : TableStyle) {headers : List String}
    (headers_unbroken : ∀ header ∈ headers, Unbroken header) :
    ∀ line ∈ style.above headers, Unbroken line := by
  cases style with
  | html =>
      have headers_line : Unbroken (String.join (headers.map fun header =>
          "<th>" ++ Text.escape header ++ "</th>")) := by
        refine .join_map ?_
        intro header header_mem
        exact (Unbroken.append (by decide) (headers_unbroken header header_mem).escape).append
          (by decide)
      simp only [above, List.forall_mem_cons]
      exact ⟨by decide, by decide, (Unbroken.append (by decide) headers_line).append (by decide),
        by decide, by decide, List.forall_mem_nil _⟩
  | markdown =>
      have headers_line : Unbroken (String.join (headers.map fun header =>
          Text.replaceChar '|' "\\|" header ++ "|")) := by
        refine .join_map ?_
        intro header header_mem
        exact ((headers_unbroken header header_mem).replaceChar (by decide)).append (by decide)
      simp only [above, List.forall_mem_cons]
      exact ⟨.append (by decide) headers_line,
        .append (by decide) (Unbroken.replicate (by decide) headers.length), List.forall_mem_nil _⟩

theorem unbroken_line (style : TableStyle) {cells : List String}
    (cells_unbroken : ∀ cell ∈ cells, Unbroken cell) : Unbroken (style.line cells) := by
  cases style with
  | html =>
      have cells_line :
          Unbroken (String.join (cells.map fun cell => "<td>" ++ cell ++ "</td>")) := by
        refine .join_map ?_
        intro cell cell_mem
        exact (Unbroken.append (by decide) (cells_unbroken cell cell_mem)).append (by decide)
      exact (Unbroken.append (by decide) cells_line).append (by decide)
  | markdown =>
      have cells_line : Unbroken (String.join (cells.map fun cell => cell ++ "|")) := by
        refine .join_map ?_
        intro cell cell_mem
        exact (cells_unbroken cell cell_mem).append (by decide)
      exact .append (by decide) cells_line

theorem unbroken_below (style : TableStyle) : ∀ line ∈ style.below, Unbroken line := by
  cases style with
  | html => decide
  | markdown => decide

theorem unbroken_lines (style : TableStyle) {headers : List String} {rows : List (List String)}
    (headers_unbroken : ∀ header ∈ headers, Unbroken header)
    (rows_unbroken : ∀ row ∈ rows, ∀ cell ∈ row, Unbroken cell) :
    ∀ line ∈ style.above headers ++ rows.map (fun cells => style.line cells) ++ style.below,
      Unbroken line := by
  simp only [List.forall_mem_append, List.forall_mem_map]
  exact ⟨⟨style.unbroken_above headers_unbroken,
    fun row row_mem => style.unbroken_line (rows_unbroken row row_mem)⟩, style.unbroken_below⟩

end TableStyle
end RefDocs
