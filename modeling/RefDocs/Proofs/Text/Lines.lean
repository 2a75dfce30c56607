import RefDocs.Proofs.Text.Cutting
import RefDocs.Proofs.Text.LineBreaks
import RefDocs.Settings.Basic

/-!
# Texts made of lines

Lines that hold no line breaks are read back off their text, which is cut at its line feeds.
-/

namespace RefDocs

/-- What a line separator has in front of its line feed. -/
def LineSeparator.lead : LineSeparator → String
  | .lf => ""
  | .crlf => "\r"

theorem LineSeparator.text_eq (separator : LineSeparator) :
    separator.text = separator.lead ++ String.singleton '\n' := by
  cases separator with
  | lf => decide
  | crlf => decide

namespace Text

/-- The text of lines that are each closed by a line separator. -/
def ofLines (newline : String) (lines : List String) : String :=
  String.join (lines.map fun line => line ++ newline)

theorem ofLines_cons (newline line : String) (lines : List String) :
    ofLines newline (line :: lines) = line ++ newline ++ ofLines newline lines := by
  rw [ofLines, List.map_cons, String.join_cons, ofLines]

theorem ofLines_singleton (newline line : String) : ofLines newline [line] = line ++ newline := by
  rw [ofLines, List.map_singleton, String.join_cons, String.join_nil, String.append_empty]

theorem ofLines_append (newline : String) (front back : List String) :
    ofLines newline (front ++ back) = ofLines newline front ++ ofLines newline back := by
  rw [ofLines, List.map_append, String.join_append, ofLines, ofLines]

/-- Between the line feeds of a text made of lines stand the lines, each with what its separator has
in front of the line feed, and nothing stands behind the last one. -/
theorem split_ofLines (separator : LineSeparator) {lines : List String}
    (unbroken : ∀ line ∈ lines, Unbroken line) :
    split '\n' (ofLines separator.text lines) =
      lines.map (fun line => line ++ separator.lead) ++ [""] := by
  have lead_unbroken : Unbroken separator.lead := by
    cases separator with
    | lf => decide
    | crlf => decide
  induction lines with
  | nil => rfl
  | cons line rest ih =>
      rw [List.forall_mem_cons] at unbroken
      have line_split : split '\n' (line ++ separator.lead) = [line ++ separator.lead] :=
        split_of_not_mem (unbroken.1.append lead_unbroken)
      rw [ofLines_cons, separator.text_eq, ← String.append_assoc, split_append, line_split,
        ← separator.text_eq, ih unbroken.2, List.map_cons, List.cons_append, List.nil_append,
        List.cons_append]

theorem ofLines_crlf {lines : List String} (unbroken : ∀ line ∈ lines, Unbroken line) :
    ofLines "\r\n" lines = inCrlf (ofLines "\n" lines) := by
  refine inCrlf_join_map ?_
  intro line line_mem
  rw [inCrlf_append, (unbroken line line_mem).inCrlf_eq, inCrlf_break]

end Text
end RefDocs
