import Mathlib.Data.List.Basic
import RefDocs.Content.Write
import RefDocs.Settings.Basic

/-!
# The cursor behind written content

A node that is empty writes nothing and leaves the cursor where it was.  Any other node writes
something, and tells the cursor to be at the start of a line exactly if the text ends with a line
separator.
-/

namespace RefDocs

/-! ## Texts that end with a line separator -/

/-- A text ends with a line separator. -/
def EndsLine (newline text : String) : Prop :=
  newline.toList <:+ text.toList

namespace EndsLine

variable {newline : String}

theorem append_newline (front : String) : EndsLine newline (front ++ newline) := by
  rw [EndsLine, String.toList_append]
  exact List.suffix_append _ _

theorem append_left {text : String} (ends : EndsLine newline text) (front : String) :
    EndsLine newline (front ++ text) := by
  rw [EndsLine, String.toList_append]
  exact ends.trans (List.suffix_append _ _)

theorem append_join {text : String} (ends : EndsLine newline text) {lines : List String}
    (lines_end : ∀ line ∈ lines, EndsLine newline line) :
    EndsLine newline (text ++ String.join lines) := by
  induction lines generalizing text with
  | nil => simpa using ends
  | cons line rest ih =>
      rw [String.join_cons, ← String.append_assoc]
      have line_ends : EndsLine newline (text ++ line) :=
        (lines_end line List.mem_cons_self).append_left text
      refine ih line_ends ?_
      intro other other_mem
      exact lines_end other (List.mem_cons_of_mem line other_mem)

theorem ne_empty {text : String} (ends : EndsLine newline text) (newline_ne : newline ≠ "") :
    text ≠ "" := by
  rintro rfl
  exact newline_ne (String.toList_eq_nil_iff.mp (List.suffix_nil.mp ends))

end EndsLine

theorem LineSeparator.getLast?_text (separator : LineSeparator) :
    separator.text.toList.getLast? = some '\n' := by
  cases separator with
  | lf => rfl
  | crlf => rfl

theorem LineSeparator.text_ne_empty (separator : LineSeparator) : separator.text ≠ "" := by
  cases separator with
  | lf => decide
  | crlf => decide

/-! ## Runs of text -/

namespace Text

theorem getLast?_flatMap_concat {write : Char → List Char} (front : List Char) {last : Char}
    (written_ne : write last ≠ []) :
    ((front ++ [last]).flatMap write).getLast? = (write last).getLast? := by
  rw [List.flatMap_append, List.flatMap_singleton, List.getLast?_append_of_ne_nil _ written_ne]

theorem ofList_flatMap_eq_empty_iff {write : Char → List Char}
    (written_ne : ∀ char, write char ≠ []) (text : String) :
    String.ofList (text.toList.flatMap write) = "" ↔ text = "" := by
  rw [← String.toList_eq_nil_iff, String.toList_ofList, List.flatMap_eq_nil_iff]
  constructor
  · intro all_nil
    refine String.toList_eq_nil_iff.mp (List.eq_nil_iff_forall_not_mem.mpr ?_)
    intro char char_mem
    exact written_ne char (all_nil char char_mem)
  · rintro rfl
    simp

theorem escapeChar_ne_nil (char : Char) : escapeChar char ≠ [] := by
  unfold escapeChar
  split <;> simp

theorem getLast?_escapeChar_eq_iff (char : Char) :
    (escapeChar char).getLast? = some '\n' ↔ char = '\n' := by
  unfold escapeChar
  split <;> simp

theorem getLast?_escape_eq_iff (text : String) :
    (escape text).toList.getLast? = some '\n' ↔ text.toList.getLast? = some '\n' := by
  rw [escape_eq, String.toList_ofList]
  rcases List.eq_nil_or_concat' text.toList with chars_nil | ⟨front, last, chars_eq⟩
  · simp [chars_nil]
  · rw [chars_eq, getLast?_flatMap_concat front (escapeChar_ne_nil last),
      getLast?_escapeChar_eq_iff]
    simp

theorem escape_eq_empty_iff (text : String) : escape text = "" ↔ text = "" := by
  rw [escape_eq, ofList_flatMap_eq_empty_iff escapeChar_ne_nil]

theorem replaceChar_eq_empty_iff (old : Char) {new : String} (new_ne : new ≠ "") (text : String) :
    replaceChar old new text = "" ↔ text = "" := by
  refine ofList_flatMap_eq_empty_iff ?_ text
  intro char
  by_cases char_old : char = old
  · simpa [char_old] using new_ne
  · simp [char_old]

/-- A text ends with a line separator after line breaks are replaced by it exactly if it ended with
a line break before. -/
theorem endsLine_replaceChar_iff (separator : LineSeparator) (text : String) :
    EndsLine separator.text (replaceChar '\n' separator.text text) ↔
      text.toList.getLast? = some '\n' := by
  have separator_ne : separator.text.toList ≠ [] :=
    String.toList_eq_nil_iff.not.mpr separator.text_ne_empty
  rw [EndsLine, replaceChar, String.toList_ofList]
  rcases List.eq_nil_or_concat' text.toList with chars_nil | ⟨front, last, chars_eq⟩
  · simp [chars_nil, separator_ne]
  · rw [chars_eq, List.getLast?_concat]
    by_cases last_breaks : last = '\n'
    · refine iff_of_true ?_ (congrArg some last_breaks)
      rw [List.flatMap_append, List.flatMap_singleton, if_pos last_breaks]
      exact List.suffix_append _ _
    · refine iff_of_false ?_ (by simpa using last_breaks)
      rintro ⟨start, cut_eq⟩
      have lasts_eq := congrArg List.getLast? cut_eq
      rw [List.getLast?_append_of_ne_nil _ separator_ne, separator.getLast?_text,
        getLast?_flatMap_concat front (by simp [last_breaks]), if_neg last_breaks] at lasts_eq
      exact last_breaks (Option.some.inj lasts_eq).symm

end Text

/-- Written text, with its cursor, as a node of the given emptiness leaves it behind a cursor. -/
structure Written.Tracks (written : Written) (newline : String) (isEmpty atLineStart : Bool) :
    Prop where
  /-- An empty node writes nothing and leaves the cursor where it was. -/
  nothing : isEmpty = true → written = ⟨"", atLineStart⟩
  /-- Any other node writes something. -/
  something : isEmpty = false → written.text ≠ ""
  /-- The cursor is at the start of a line exactly if the text ends with a line separator. -/
  cursor : isEmpty = false → (written.atLineStart = true ↔ EndsLine newline written.text)

namespace Written.Tracks

variable {separator : LineSeparator}

theorem of_endsLine {text : String} (ends : EndsLine separator.text text) (atLineStart : Bool) :
    Tracks ⟨text, true⟩ separator.text false atLineStart where
  nothing not_empty := absurd not_empty (by simp)
  something _ := ends.ne_empty separator.text_ne_empty
  cursor _ := iff_of_true rfl ends

/-- Blocks write lines, unless they are empty. -/
theorem of_block (isEmpty atLineStart : Bool) {text : String}
    (ends : isEmpty = false → EndsLine separator.text text) :
    Tracks (if isEmpty = true then ⟨"", atLineStart⟩ else ⟨text, true⟩) separator.text isEmpty
      atLineStart := by
  cases isEmpty with
  | true => exact ⟨fun _ => rfl, by simp, by simp⟩
  | false => exact of_endsLine (ends rfl) atLineStart

theorem endsLine_closed {written : Written} {atLineStart : Bool}
    (tracks : written.Tracks separator.text false atLineStart) :
    EndsLine separator.text (written.closed separator.text) := by
  rw [closed]
  by_cases at_start : written.atLineStart = true
  · rw [if_pos at_start]
    exact (tracks.cursor rfl).mp at_start
  · rw [if_neg at_start]
    exact EndsLine.append_newline written.text

end Written.Tracks

/-! ## Nodes -/

theorem Run.write_tracks (separator : LineSeparator) (run : Run) (atLineStart : Bool) :
    (run.write separator.text atLineStart).Tracks separator.text run.text.isEmpty atLineStart := by
  obtain ⟨shown, shown_eq, same_end, same_empty⟩ : ∃ shown,
      (if run.escaped = true then Text.escape run.text else run.text) = shown ∧
        (shown.toList.getLast? = some '\n' ↔ run.text.toList.getLast? = some '\n') ∧
        (shown = "" ↔ run.text = "") := by
    cases run.escaped with
    | true =>
        exact ⟨_, rfl, Text.getLast?_escape_eq_iff run.text, Text.escape_eq_empty_iff run.text⟩
    | false => exact ⟨_, rfl, Iff.rfl, Iff.rfl⟩
  rw [Run.write, shown_eq]
  cases empty_eq : run.text.isEmpty with
  | true => exact ⟨fun _ => rfl, by simp, by simp⟩
  | false =>
      have shown_ne : shown ≠ "" := same_empty.not.mpr (by simpa using empty_eq)
      refine ⟨by simp, fun _ => ?_, fun _ => ?_⟩
      · exact (Text.replaceChar_eq_empty_iff '\n' separator.text_ne_empty shown).not.mpr shown_ne
      · rw [if_neg (by simp), Text.endsLine_replaceChar_iff, same_end, beq_iff_eq]

namespace TableStyle

theorem endsLine_writeTable (newline : String) (headers : List String) (rows : List (List String))
    (style : TableStyle) : EndsLine newline (style.writeTable newline headers rows) := by
  cases style with
  | html => exact EndsLine.append_newline _
  | markdown =>
      refine EndsLine.append_join (EndsLine.append_newline _) ?_
      intro line line_mem
      obtain ⟨row, -, rfl⟩ := List.mem_map.mp line_mem
      exact EndsLine.append_newline _

end TableStyle

theorem TabbedTable.endsLine_writeTables (newline : String) (table : TabbedTable Content)
    (headers : List String) (rows : List (List String)) :
    EndsLine newline (table.writeTables newline headers rows) := by
  rw [writeTables]
  by_cases switches : (table.forced || (matching table.tabs rows).length > 1) = true
  · rw [if_pos switches]
    exact (EndsLine.append_newline ":::").append_left _
  · rw [if_neg switches]
    exact (table.style.endsLine_writeTable newline headers _).append_left _

namespace Content

mutual

theorem write_tracks (separator : LineSeparator) : (content : Content) → (atLineStart : Bool) →
    (content.write separator.text atLineStart).Tracks separator.text content.isEmpty atLineStart
  | .run piece, atLineStart => piece.write_tracks separator atLineStart
  | .sequence children, atLineStart => by
      obtain ⟨text, ends, written_eq⟩ := writeAll_eq separator children atLineStart
      rw [write, isEmpty, written_eq]
      exact .of_block _ _ ends
  | .container kind header body, atLineStart => by
      rw [write, isEmpty]
      exact .of_block _ _ fun _ => .append_newline _
  | .wrapper frame, atLineStart => by
      rw [write, isEmpty]
      exact write_tracks separator frame atLineStart
  | .anchored anchor body, atLineStart => by
      rw [write, isEmpty]
      exact .of_block _ _ fun _ => .append_newline _
  | .table ⟨style, caption, some ⟨headers, rows⟩⟩, atLineStart => by
      rw [write.eq_def, isEmpty]
      exact .of_block _ _ fun _ => (style.endsLine_writeTable _ headers _).append_left _
  | .table ⟨_, _, none⟩, atLineStart => ⟨fun _ => rfl, nofun, nofun⟩
  | .tabs ⟨key, named⟩, atLineStart => by
      rw [write, isEmpty]
      exact .of_block _ _ fun _ => (EndsLine.append_newline ":::").append_left _
  | .tabbed ⟨style, label, key, forced, selections, some ⟨headers, rows⟩⟩, atLineStart => by
      rw [write, isEmpty]
      exact .of_block _ _ fun _ => (TabbedTable.endsLine_writeTables _ _ headers _).append_left _
  | .tabbed ⟨_, _, _, _, _, none⟩, atLineStart => ⟨fun _ => rfl, nofun, nofun⟩
termination_by structural content => content

/-- Children are closed, so a sequence writes lines like a block. -/
theorem writeAll_eq (separator : LineSeparator) : (children : List Content) → (atLineStart : Bool) →
    ∃ text, (allEmpty children = false → EndsLine separator.text text) ∧
      writeAll separator.text children atLineStart =
        if allEmpty children = true then ⟨"", atLineStart⟩ else ⟨text, true⟩
  | [], atLineStart => ⟨"", by simp [allEmpty], by simp [writeAll, allEmpty]⟩
  | child :: rest, atLineStart => by
      have child_tracks := write_tracks separator child atLineStart
      rw [writeAll, allEmpty]
      cases child_empty : child.isEmpty with
      | true =>
          obtain ⟨text, ends, rest_eq⟩ := writeAll_eq separator rest atLineStart
          refine ⟨text, ?_, ?_⟩
          · simpa using ends
          · simpa using rest_eq
      | false =>
          obtain ⟨text, ends, rest_eq⟩ := writeAll_eq separator rest true
          rw [child_empty] at child_tracks
          have child_ends := child_tracks.endsLine_closed
          -- From here on it only matters that the text of the child ends a line.
          generalize (write separator.text child atLineStart).closed separator.text = front
            at child_ends ⊢
          rw [rest_eq]
          cases rest_empty : allEmpty rest with
          | true => exact ⟨front, fun _ => child_ends, by simp⟩
          | false => exact ⟨front ++ text, fun _ => (ends rest_empty).append_left front, by simp⟩
termination_by structural children => children

end

/-- An empty node writes nothing and leaves the cursor where it was.  Any other node writes
something, and leaves the cursor at the start of a line exactly if that ends with a line
separator. -/
theorem write_cursor (separator : LineSeparator) (content : Content) (atLineStart : Bool) :
    (content.isEmpty = true → content.write separator.text atLineStart = ⟨"", atLineStart⟩) ∧
      (content.isEmpty = false →
        (content.write separator.text atLineStart).text ≠ "" ∧
          ((content.write separator.text atLineStart).atLineStart = true ↔
            EndsLine separator.text (content.write separator.text atLineStart).text)) := by
  have tracks := write_tracks separator content atLineStart
  refine ⟨tracks.nothing, ?_⟩
  intro not_empty
  exact ⟨tracks.something not_empty, tracks.cursor not_empty⟩

end Content

end RefDocs
