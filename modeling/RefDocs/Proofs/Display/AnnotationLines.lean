import RefDocs.Display.AnnotationText
import RefDocs.Member.Anchor
import RefDocs.Proofs.Text.Lines

/-!
# Annotations on lines of their own

In front of a declaration each annotation stands on its own line, and each element but the first on
a further line with an indent.  In running text all stand on one line.  Only blanks differ.
-/

namespace RefDocs

/-! ## Texts without their blanks -/

theorem withoutBlanks_append (left right : String) :
    withoutBlanks (left ++ right) = withoutBlanks left ++ withoutBlanks right := by
  rw [withoutBlanks, String.toList_append, List.filter_append, String.ofList_append, withoutBlanks,
    withoutBlanks]

theorem withoutBlanks_stringJoin (texts : List String) :
    withoutBlanks (String.join texts) = String.join (texts.map withoutBlanks) := by
  induction texts with
  | nil => rfl
  | cons text rest ih =>
      rw [String.join_cons, withoutBlanks_append, ih, List.map_cons, String.join_cons]

theorem withoutBlanks_join (separator : String) (texts : List String) :
    withoutBlanks (Text.join separator texts) =
      Text.join (withoutBlanks separator) (texts.map withoutBlanks) := by
  induction texts with
  | nil => rfl
  | cons text rest ih =>
      by_cases rest_nil : rest = []
      · simp [rest_nil, Text.join]
      · have others_ne : rest.map withoutBlanks ≠ [] := by simpa using rest_nil
        rw [Text.join_cons rest_nil, withoutBlanks_append, withoutBlanks_append, ih, List.map_cons,
          Text.join_cons others_ne]

theorem withoutBlanks_replicate {text : String} (blank : withoutBlanks text = "") (count : Nat) :
    withoutBlanks (Text.replicate count text) = "" := by
  rw [Text.replicate, withoutBlanks_stringJoin, List.map_replicate, blank]
  induction count with
  | zero => rfl
  | succ count ih => rw [List.replicate_succ, String.join_cons, ih, String.append_empty]

theorem withoutBlanks_ofLines {newline : String} (blank : withoutBlanks newline = "")
    (lines : List String) :
    withoutBlanks (Text.ofLines newline lines) = String.join (lines.map withoutBlanks) := by
  rw [Text.ofLines, withoutBlanks_stringJoin, List.map_map]
  refine congrArg String.join (List.map_congr_left fun line _ => ?_)
  rw [Function.comp_apply, withoutBlanks_append, blank, String.append_empty]

namespace AnnotationWriter

variable (writer : AnnotationWriter)

/-! ## One annotation -/

theorem withoutBlanks_elementSeparator (lineBreak : Bool) (name : String) :
    withoutBlanks (elementSeparator lineBreak name) = "," := by
  cases lineBreak with
  | false => exact (by decide : withoutBlanks "," = ",")
  | true =>
      have break_eq : withoutBlanks ",\n" = "," := by decide
      have indent_eq : withoutBlanks (Text.replicate (name.utf8ByteSize + 2) " ") = "" :=
        withoutBlanks_replicate (by decide) _
      rw [elementSeparator, if_pos rfl, withoutBlanks_append, break_eq, indent_eq,
        String.append_empty]

/-- Line breaks between the elements of an annotation are only followed by an indent. -/
theorem withoutBlanks_invocation (lineBreak : Bool) (use : AnnotationUse) :
    withoutBlanks (writer.invocation lineBreak use) =
      withoutBlanks (writer.invocation false use) := by
  obtain ⟨typeName, elements, mandated⟩ := use
  rw [invocation, invocation]
  split
  · rfl
  · simp only [withoutBlanks_append, withoutBlanks_join, withoutBlanks_elementSeparator]

/-- Values that stand for an annotation have no line breaks between them in either mode. -/
theorem withoutBlanks_occurrence (lineBreak : Bool) (use : AnnotationUse) :
    withoutBlanks (writer.occurrence lineBreak use) =
      withoutBlanks (writer.occurrence false use) := by
  rw [occurrence, occurrence]
  split
  · rfl
  · split
    · rfl
    · rfl
    · exact writer.withoutBlanks_invocation lineBreak use

/-! ## Lists of annotations -/

theorem lines_eq_ofLines (uses : List AnnotationUse) :
    writer.lines uses =
      Text.ofLines "\n" ((uses.filter writer.isShown).map (writer.occurrence true)) := by
  rw [lines, Text.ofLines, List.map_map]
  rfl

theorem withoutBlanks_inline (uses : List AnnotationUse) :
    withoutBlanks (writer.inline uses) =
      String.join ((uses.filter writer.isShown).map fun use =>
        withoutBlanks (writer.occurrence false use)) := by
  have blank_eq : withoutBlanks " " = "" := by decide
  -- The induction is on the shown occurrences, with any line in front of them.
  have with_line (texts : List String) (line : String) :
      withoutBlanks (texts.foldl
          (fun line text => if line.isEmpty then text else line ++ " " ++ text) line) =
        withoutBlanks line ++ String.join (texts.map withoutBlanks) := by
    induction texts generalizing line with
    | nil => rw [List.foldl_nil, List.map_nil, String.join_nil, String.append_empty]
    | cons text rest ih =>
        have step_eq : withoutBlanks (if line.isEmpty then text else line ++ " " ++ text) =
            withoutBlanks line ++ withoutBlanks text := by
          split
          · rename_i line_empty
            rw [String.isEmpty_iff.mp line_empty, ← withoutBlanks_append, String.empty_append]
          · rw [withoutBlanks_append, withoutBlanks_append, blank_eq, String.append_empty]
        rw [List.foldl_cons, ih, step_eq, List.map_cons, String.join_cons, String.append_assoc]
  rw [inline, with_line, List.map_map]
  rfl

theorem withoutBlanks_inline_singleton {use : AnnotationUse} (shown : writer.isShown use = true) :
    withoutBlanks (writer.inline [use]) = withoutBlanks (writer.occurrence false use) := by
  rw [withoutBlanks_inline, List.filter_singleton, shown, cond_true, List.map_singleton,
    String.join_cons, String.join_nil, String.append_empty]

/-- With links or without, each annotation that is shown has a text for lines of its own that is,
but for the blanks, its text in running text.  In front of a declaration stand these texts of the
annotations that are shown, in their order, each ended by a line break and nothing else.  So all of
it is, but for the blanks, what running text shows of the annotations. -/
theorem exists_lines_eq_and_withoutBlanks :
    ∃ text : AnnotationUse → String,
      (∀ use, writer.isShown use = true →
        withoutBlanks (text use) = withoutBlanks (writer.inline [use])) ∧
      ∀ uses, writer.lines uses =
          Text.ofLines "\n" ((uses.filter writer.isShown).map text) ∧
        withoutBlanks (writer.lines uses) = withoutBlanks (writer.inline uses) := by
  refine ⟨writer.occurrence true, ?_, fun uses => ⟨writer.lines_eq_ofLines uses, ?_⟩⟩
  · intro use shown
    rw [writer.withoutBlanks_inline_singleton shown, writer.withoutBlanks_occurrence]
  · rw [lines_eq_ofLines, withoutBlanks_ofLines (by decide), withoutBlanks_inline, List.map_map]
    refine congrArg String.join (List.map_congr_left fun use _ => ?_)
    rw [Function.comp_apply, withoutBlanks_occurrence]

end AnnotationWriter
end RefDocs
