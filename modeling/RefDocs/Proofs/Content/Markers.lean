import Mathlib.Data.List.TakeWhile
import RefDocs.Content.Write
import RefDocs.Proofs.Text.LineBreaks

/-!
# Depth markers in texts

A marker is read back from what is written for it.  No marker runs over a character that stands in
none behind its first, so a text is cut in front of such a character without losing or making a
marker, and putting one such text for another leaves the markers as they are.
-/

namespace RefDocs
namespace Depth

/-! ## Reading one marker -/

/-- The digits of a marker that is not passed over. -/
structure IsNumber (digits : List Char) (depth : Nat) : Prop where
  /-- There is a digit. -/
  ne_nil : digits ≠ []
  /-- All are digits. -/
  all_digits : ∀ digit ∈ digits, digit.isDigit = true
  /-- They are the number. -/
  value_eq : digitsValue digits = depth
  /-- The number is not too great for a marker. -/
  le_maxMarked : depth ≤ maxMarked

theorem exists_markerEnd_eq : ∃ rest, markerEnd.toList = ' ' :: rest := ⟨_, rfl⟩

theorem readMarker?_eq_some_iff {chars : List Char} {depth : Nat} :
    readMarker? chars = some depth ↔ ∃ digits rest, IsNumber digits depth ∧
      chars = markerStart.toList ++ (digits ++ (markerEnd.toList ++ rest)) := by
  constructor
  · intro read
    rw [readMarker?] at read
    split at read
    · rename_i starts
      obtain ⟨rest, rfl⟩ := List.isPrefixOf_iff_prefix.mp starts
      rw [List.drop_left] at read
      dsimp only at read
      split at read
      · simp at read
      · rename_i digits_ne
        split at read
        · rename_i ends
          obtain ⟨more, ends_eq⟩ := List.isPrefixOf_iff_prefix.mp ends
          split at read
          · rename_i small
            obtain rfl := Option.some.inj read
            refine ⟨rest.takeWhile Char.isDigit, more, ⟨?_, ?_, rfl, small⟩, ?_⟩
            · simpa using digits_ne
            · intro digit digit_mem
              exact List.mem_takeWhile_imp digit_mem
            · rw [ends_eq, List.takeWhile_append_dropWhile]
          · simp at read
        · simp at read
    · simp at read
  · rintro ⟨digits, rest, number, rfl⟩
    obtain ⟨endRest, end_eq⟩ := exists_markerEnd_eq
    have take_eq : (digits ++ (markerEnd.toList ++ rest)).takeWhile Char.isDigit = digits := by
      rw [end_eq, List.takeWhile_append_of_pos number.all_digits]
      simp
    have drop_eq : (digits ++ (markerEnd.toList ++ rest)).dropWhile Char.isDigit =
        markerEnd.toList ++ rest := by
      rw [end_eq, List.dropWhile_append_of_pos number.all_digits]
      simp
    rw [readMarker?, if_pos (by simp), List.drop_left]
    simp [take_eq, drop_eq, number.ne_nil, number.value_eq, number.le_maxMarked]

theorem readMarker?_append {chars : List Char} {depth : Nat} (read : readMarker? chars = some depth)
    (more : List Char) : readMarker? (chars ++ more) = some depth := by
  obtain ⟨digits, rest, number, rfl⟩ := readMarker?_eq_some_iff.mp read
  refine readMarker?_eq_some_iff.mpr ⟨digits, rest ++ more, number, ?_⟩
  simp only [List.append_assoc]

theorem readMarker?_cons_of_ne {char : Char} (char_ne : char ≠ '<') (rest : List Char) :
    readMarker? (char :: rest) = none := by
  have no_start : ¬markerStart.toList <+: char :: rest := by
    rintro ⟨more, chars_eq⟩
    exact char_ne (List.head_eq_of_cons_eq chars_eq).symm
  rw [readMarker?, if_neg (by simpa using no_start)]

/-! ## Cutting texts between markers -/

theorem markers_cons (char : Char) (rest : List Char) :
    markers (char :: rest) = (readMarker? (char :: rest)).toList ++ markers rest := by
  rw [markers]
  cases readMarker? (char :: rest) with
  | none => rfl
  | some depth => rfl

theorem markers_cons_of_ne {char : Char} (char_ne : char ≠ '<') (rest : List Char) :
    markers (char :: rest) = markers rest := by
  rw [markers_cons, readMarker?_cons_of_ne char_ne, Option.toList_none, List.nil_append]

/-- A text has the markers of its parts, and perhaps more. -/
theorem markers_append_sublist (left right : List Char) :
    (markers left ++ markers right).Sublist (markers (left ++ right)) := by
  induction left with
  | nil => exact List.Sublist.refl _
  | cons char rest ih =>
      rw [List.cons_append, markers_cons, markers_cons]
      cases read : readMarker? (char :: rest) with
      | none => exact ih.trans (List.sublist_append_right _ _)
      | some depth =>
          have read_longer : readMarker? (char :: (rest ++ right)) = some depth :=
            readMarker?_append read right
          rw [read_longer]
          exact ih.cons_cons depth

/-- A character that stands in no marker behind the first character of that. -/
def isBoundary (char : Char) : Bool :=
  !(markerStart.toList.tail.contains char || char.isDigit || markerEnd.toList.contains char)

theorem not_mem_marker_of_isBoundary {char : Char} (boundary : isBoundary char = true)
    {digits : List Char} {depth : Nat} (number : IsNumber digits depth) :
    char ∉ (markerStart.toList ++ (digits ++ markerEnd.toList)).tail := by
  simp only [isBoundary, Bool.not_eq_true', Bool.or_eq_false_iff] at boundary
  obtain ⟨⟨not_start, not_digit⟩, not_end⟩ := boundary
  rw [List.tail_append_of_ne_nil (by decide), List.mem_append, List.mem_append, not_or, not_or]
  refine ⟨by simpa using not_start, ?_, by simpa using not_end⟩
  intro char_mem
  rw [number.all_digits char char_mem] at not_digit
  exact Bool.noConfusion not_digit

/-- A marker that starts in front of a boundary ends there. -/
theorem readMarker?_append_boundary {char : Char} (boundary : isBoundary char = true)
    {left : List Char} (left_ne : left ≠ []) (right : List Char) :
    readMarker? (left ++ char :: right) = readMarker? left := by
  cases read : readMarker? left with
  | some depth => exact readMarker?_append read _
  | none =>
      rw [Option.eq_none_iff_forall_ne_some]
      intro depth longer_read
      obtain ⟨digits, rest, number, chars_eq⟩ := readMarker?_eq_some_iff.mp longer_read
      have marker_eq : left ++ char :: right =
          (markerStart.toList ++ (digits ++ markerEnd.toList)) ++ rest := by
        simpa only [List.append_assoc] using chars_eq
      have read_from (more : List Char)
          (left_eq : left = (markerStart.toList ++ (digits ++ markerEnd.toList)) ++ more) :
          readMarker? left = some depth := by
        refine readMarker?_eq_some_iff.mpr ⟨digits, more, number, ?_⟩
        simpa only [List.append_assoc] using left_eq
      rcases List.append_eq_append_iff.mp marker_eq with
        ⟨passed, marker_eq, passed_eq⟩ | ⟨more, left_eq, -⟩
      · cases passed with
        | nil =>
            rw [List.append_nil] at marker_eq
            rw [read_from [] (by rw [List.append_nil, marker_eq])] at read
            cases read
        | cons first passed =>
            -- The marker would run over the boundary.
            obtain rfl : char = first := List.head_eq_of_cons_eq passed_eq
            refine not_mem_marker_of_isBoundary boundary number ?_
            rw [marker_eq, List.tail_append_of_ne_nil left_ne]
            simp
      · rw [read_from more left_eq] at read
        cases read

theorem markers_append_boundary {char : Char} (boundary : isBoundary char = true)
    (left right : List Char) :
    markers (left ++ char :: right) = markers left ++ markers (char :: right) := by
  induction left with
  | nil => rfl
  | cons first rest ih =>
      have read_eq : readMarker? (first :: (rest ++ char :: right)) = readMarker? (first :: rest) :=
        readMarker?_append_boundary boundary (List.cons_ne_nil first rest) right
      rw [List.cons_append, markers_cons, markers_cons, read_eq, ih, List.append_assoc]

/-! ## Markers in written text -/

/-- The numbers of the markers in a text. -/
def markersIn (text : String) : List Nat :=
  markers text.toList

theorem markersIn_append_sublist (left right : String) :
    (markersIn left ++ markersIn right).Sublist (markersIn (left ++ right)) := by
  rw [markersIn, markersIn, markersIn, String.toList_append]
  exact markers_append_sublist _ _

/-- A text that adds the given markers to whatever it stands in front of. -/
def Carries (text : String) (depths : List Nat) : Prop :=
  ∀ more, markers (text.toList ++ more) = depths ++ markers more

namespace Carries

variable {left right : String} {leftDepths rightDepths : List Nat}

theorem markersIn_eq (carries : Carries left leftDepths) : markersIn left = leftDepths := by
  simpa [markersIn, markers] using carries []

theorem empty : Carries "" [] :=
  fun _ => rfl

theorem append (left_carries : Carries left leftDepths)
    (right_carries : Carries right rightDepths) :
    Carries (left ++ right) (leftDepths ++ rightDepths) := by
  intro more
  rw [String.toList_append, List.append_assoc, left_carries, right_carries, List.append_assoc]

/-- A text without markers may stand in front. -/
theorem behind (front_carries : Carries left []) (carries : Carries right rightDepths) :
    Carries (left ++ right) rightDepths :=
  front_carries.append carries

/-- A text without markers may follow. -/
theorem before (carries : Carries left leftDepths) (back_carries : Carries right []) :
    Carries (left ++ right) leftDepths := by
  rw [← List.append_nil leftDepths]
  exact carries.append back_carries

theorem join {Item : Type} {items : List Item} {write : Item → String} {depths : Item → List Nat}
    (carries : ∀ item ∈ items, Carries (write item) (depths item)) :
    Carries (String.join (items.map write)) (items.flatMap depths) := by
  induction items with
  | nil => exact empty
  | cons item rest ih =>
      rw [List.map_cons, String.join_cons, List.flatMap_cons]
      rw [List.forall_mem_cons] at carries
      exact carries.1.append (ih carries.2)

theorem join_nil {Item : Type} {items : List Item} {write : Item → String}
    (carries : ∀ item ∈ items, Carries (write item) []) :
    Carries (String.join (items.map write)) [] := by
  have joined : Carries (String.join (items.map write)) (items.flatMap fun _ => []) := .join carries
  rwa [List.flatMap_eq_nil_iff.mpr fun _ _ => rfl] at joined

/-- No marker starts in a text without an opening bracket. -/
theorem of_not_mem {text : String} (free : '<' ∉ text.toList) : Carries text [] := by
  intro more
  generalize text.toList = chars at free
  induction chars with
  | nil => rfl
  | cons char rest ih =>
      rw [List.mem_cons, not_or] at free
      rw [List.cons_append, markers_cons_of_ne (Ne.symm free.1)]
      exact ih free.2

/-- Behind a text that starts with a boundary, all of a text is cut off. -/
theorem close (closing_carries : Carries right []) {char : Char} {rest : List Char}
    (closing_eq : right.toList = char :: rest) (boundary : isBoundary char = true)
    (text : String) : Carries (text ++ right) (markersIn text) := by
  intro more
  rw [String.toList_append, closing_eq, List.append_assoc, List.cons_append,
    markers_append_boundary boundary, ← List.cons_append, ← closing_eq, closing_carries,
    List.nil_append, markersIn]

end Carries

theorem readMarker?_marker {depth : Nat} (small : depth ≤ maxMarked) (more : List Char) :
    readMarker? ((marker depth).toList ++ more) = some depth := by
  refine readMarker?_eq_some_iff.mpr ⟨Nat.toDigits 10 depth, more, ⟨?_, ?_, ?_, small⟩, ?_⟩
  · exact Nat.toDigits_ne_nil
  · intro digit digit_mem
    exact Nat.isDigit_of_mem_toDigits (by decide) (by decide) digit_mem
  · exact digitsValue_toDigits depth
  · have digits_eq : (toString depth).toList = Nat.toDigits 10 depth := Nat.toList_repr
    simp only [marker, String.toList_append, digits_eq, List.append_assoc]

theorem not_mem_toDigits {char : Char} (not_digit : char.isDigit = false) (number : Nat) :
    char ∉ (toString number).toList := by
  intro char_mem
  have is_digit : char.isDigit = true :=
    Nat.isDigit_of_mem_toDigits (by decide) (by decide) (Nat.toList_repr ▸ char_mem)
  rw [not_digit] at is_digit
  cases is_digit

/-- What is written as a marker is read as one. -/
theorem carries_marker {depth : Nat} (small : depth ≤ maxMarked) :
    Carries (marker depth) [depth] := by
  intro more
  have rest_carries :
      Carries ("!-- apidoc-container depth: " ++ toString depth ++ markerEnd) [] := by
    refine .of_not_mem ?_
    simp only [String.toList_append, List.mem_append, not_or]
    exact ⟨⟨by decide, not_mem_toDigits (by decide) depth⟩, by decide⟩
  have marker_eq : (marker depth).toList =
      '<' :: ("!-- apidoc-container depth: " ++ toString depth ++ markerEnd).toList := by
    simp only [marker, String.toList_append]
    rfl
  have read := readMarker?_marker small more
  rw [marker_eq, List.cons_append] at read ⊢
  rw [markers_cons, read, rest_carries]
  rfl

/-! ## Texts in other texts -/

/-- The markers of a text are among those of another. -/
def MarkersWithin (part whole : String) : Prop :=
  markersIn part ⊆ markersIn whole

namespace MarkersWithin

variable {part middle whole : String}

theorem refl (text : String) : MarkersWithin text text :=
  List.Subset.refl _

theorem trans (within : MarkersWithin part middle) (outer : MarkersWithin middle whole) :
    MarkersWithin part whole :=
  List.Subset.trans within outer

theorem append_left (within : MarkersWithin part whole) (front : String) :
    MarkersWithin part (front ++ whole) := by
  refine within.trans ?_
  exact ((List.sublist_append_right _ _).trans (markersIn_append_sublist front whole)).subset

theorem append_right (within : MarkersWithin part whole) (back : String) :
    MarkersWithin part (whole ++ back) := by
  refine within.trans ?_
  exact ((List.sublist_append_left _ _).trans (markersIn_append_sublist whole back)).subset

theorem join {Item : Type} {items : List Item} {item : Item} (item_mem : item ∈ items)
    {write : Item → String} (within : MarkersWithin part (write item)) :
    MarkersWithin part (String.join (items.map write)) := by
  induction items with
  | nil => cases item_mem
  | cons first rest ih =>
      rw [List.map_cons, String.join_cons]
      rcases List.mem_cons.mp item_mem with rfl | item_mem
      · exact within.append_right _
      · exact (ih item_mem).append_left _

end MarkersWithin

/-! ## Texts put in place of others -/

/-- Putting a text that makes no marker for a character that stands in none keeps the markers. -/
theorem markersIn_replaceChar {old : Char} {new : String} (old_boundary : isBoundary old = true)
    (old_ne : old ≠ '<') (new_carries : Carries new []) {first : Char} {rest : List Char}
    (new_eq : new.toList = first :: rest) (new_boundary : isBoundary first = true)
    (text : String) : markersIn (Text.replaceChar old new text) = markersIn text := by
  have replaced (chars before : List Char) :
      markers (before ++ chars.flatMap fun char => if char = old then new.toList else [char]) =
        markers (before ++ chars) := by
    induction chars generalizing before with
    | nil => rfl
    | cons char chars ih =>
        rw [List.flatMap_cons]
        by_cases is_old : char = old
        · have ih := ih []
          rw [List.nil_append, List.nil_append] at ih
          rw [if_pos is_old, is_old, markers_append_boundary old_boundary,
            markers_cons_of_ne old_ne, new_eq, List.cons_append,
            markers_append_boundary new_boundary, ← List.cons_append, ← new_eq, new_carries, ih,
            List.nil_append]
        · rw [if_neg is_old]
          simpa using ih (before ++ [char])
  rw [markersIn, Text.toList_replaceChar]
  exact replaced text.toList []

theorem exists_append_dropEndWhile {α : Type} (test : α → Bool) (items : List α) :
    ∃ dropped, items = Text.dropEndWhile test items ++ dropped ∧
      ∀ item ∈ dropped, test item = true := by
  refine ⟨(items.reverse.takeWhile test).reverse, ?_, ?_⟩
  · rw [Text.dropEndWhile, ← List.reverse_append, List.takeWhile_append_dropWhile,
      List.reverse_reverse]
  · intro item item_mem
    exact List.mem_takeWhile_imp (List.mem_reverse.mp item_mem)

theorem markersIn_trimEndOf {char : Char} (boundary : isBoundary char = true)
    (char_ne : char ≠ '<') (text : String) :
    markersIn (Text.trimEndOf char text) = markersIn text := by
  obtain ⟨dropped, text_eq, all_dropped⟩ := exists_append_dropEndWhile (· == char) text.toList
  have dropped_free : '<' ∉ (String.ofList dropped).toList := by
    rw [String.toList_ofList]
    intro bracket_mem
    exact char_ne (beq_iff_eq.mp (all_dropped _ bracket_mem)).symm
  have none_dropped := (Carries.of_not_mem dropped_free).markersIn_eq
  rw [markersIn, String.toList_ofList] at none_dropped
  rw [markersIn, markersIn, Text.trimEndOf, String.toList_ofList]
  conv_rhs => rw [text_eq]
  cases dropped with
  | nil => rw [List.append_nil]
  | cons first rest =>
      obtain rfl : first = char := by simpa using all_dropped first List.mem_cons_self
      rw [markers_append_boundary boundary, none_dropped, List.append_nil]

/-- Flattening a text into a cell keeps its markers. -/
theorem markersIn_cellText (style : TableStyle) (rendered : String) :
    markersIn (style.cellText rendered) = markersIn rendered := by
  have line_eq :
      markersIn (Text.replaceChar '\n' "<br>" (Text.trimEndOf '\n' rendered)) =
        markersIn rendered := by
    rw [markersIn_replaceChar (by decide) (by decide) (fun _ => rfl) rfl (by decide),
      markersIn_trimEndOf (by decide) (by decide)]
  cases style with
  | html => exact line_eq
  | markdown =>
      rw [TableStyle.cellText, markersIn_replaceChar (by decide) (by decide)
        (.of_not_mem (by decide)) rfl (by decide), line_eq]

theorem MarkersWithin.cellText {part rendered : String} (within : MarkersWithin part rendered)
    (style : TableStyle) : MarkersWithin part (style.cellText rendered) := by
  rw [MarkersWithin, markersIn_cellText]
  exact within

theorem markersIn_inCrlf (text : String) : markersIn (Text.inCrlf text) = markersIn text :=
  markersIn_replaceChar (by decide) (by decide) (.of_not_mem (by decide)) rfl (by decide) text

theorem around_inCrlf (body : String) : around (Text.inCrlf body) = around body := by
  have markers_eq := markersIn_inCrlf body
  rw [markersIn, markersIn] at markers_eq
  rw [around, around, markers_eq]

end Depth
end RefDocs
