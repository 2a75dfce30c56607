import Mathlib.Data.List.TakeWhile
import RefDocs.Member.Anchor
import RefDocs.Proofs.Text.Cutting

/-!
# Texts without reserved characters

A text without blanks is not changed by trimming, and a character that it does not hold cuts what
is put behind it off again.
-/

namespace RefDocs
namespace Text

/-- A text without blanks and without the given characters. -/
def FreeOf (reserved : List Char) (text : String) : Prop :=
  ∀ char ∈ text.toList, isBlank char = false ∧ char ∉ reserved

instance (reserved : List Char) (text : String) : Decidable (FreeOf reserved text) :=
  List.decidableBAll (fun char => isBlank char = false ∧ char ∉ reserved) text.toList

namespace FreeOf

variable {reserved : List Char} {left right text : String}

theorem append (left_free : FreeOf reserved left) (right_free : FreeOf reserved right) :
    FreeOf reserved (left ++ right) := by
  rw [FreeOf, String.toList_append, List.forall_mem_append]
  exact ⟨left_free, right_free⟩

theorem mono {fewer : List Char} (free : FreeOf reserved text) (subset : fewer ⊆ reserved) :
    FreeOf fewer text := by
  intro char char_mem
  obtain ⟨not_blank, not_reserved⟩ := free char char_mem
  exact ⟨not_blank, fun char_mem => not_reserved (subset char_mem)⟩

theorem not_mem {char : Char} (free : FreeOf reserved text) (char_mem : char ∈ reserved) :
    char ∉ text.toList :=
  fun in_text => (free char in_text).2 char_mem

theorem join {separator : String} {pieces : List String}
    (separator_free : FreeOf reserved separator)
    (pieces_free : ∀ piece ∈ pieces, FreeOf reserved piece) :
    FreeOf reserved (Text.join separator pieces) := by
  intro char char_mem
  rcases mem_join char_mem with in_separator | ⟨piece, piece_mem, in_piece⟩
  · exact separator_free char in_separator
  · exact pieces_free piece piece_mem char in_piece

theorem withoutBlanks_eq (free : FreeOf reserved text) : withoutBlanks text = text := by
  have kept : text.toList.filter (fun char => !isBlank char) = text.toList := by
    refine List.filter_eq_self.mpr ?_
    intro char char_mem
    simp [(free char char_mem).1]
  rw [withoutBlanks, kept, String.ofList_toList]

end FreeOf

/-- What is left of a text in front of a given end makes up the text with it. -/
theorem dropEnd?_eq_some_iff {tail text front : String} :
    dropEnd? tail text = some front ↔ text = front ++ tail := by
  constructor
  · intro dropped
    rw [dropEnd?] at dropped
    split at dropped
    · rename_i ends
      obtain ⟨start, text_eq⟩ := List.isSuffixOf_iff_suffix.mp ends
      obtain rfl := Option.some.inj dropped
      rw [← String.toList_inj, String.toList_append, String.toList_ofList, ← text_eq]
      simp
    · cases dropped
  · rintro rfl
    rw [dropEnd?, endsWith, String.toList_append,
      if_pos (List.isSuffixOf_iff_suffix.mpr (List.suffix_append _ _))]
    simp

theorem endsWith_iff {tail text : String} :
    endsWith tail text = true ↔ ∃ front, text = front ++ tail := by
  rw [endsWith, List.isSuffixOf_iff_suffix]
  constructor
  · rintro ⟨start, text_eq⟩
    refine ⟨String.ofList start, ?_⟩
    rw [← String.toList_inj, String.toList_append, String.toList_ofList, text_eq]
  · rintro ⟨front, rfl⟩
    rw [String.toList_append]
    exact List.suffix_append _ _

theorem join_ne_empty (separator : String) {first : String} (rest : List String)
    (first_ne : first ≠ "") : join separator (first :: rest) ≠ "" := by
  cases rest with
  | nil => simpa [join] using first_ne
  | cons next others =>
      rw [join_cons (by simp), ne_eq, String.append_eq_empty_iff, String.append_eq_empty_iff]
      exact fun pieces_empty => first_ne pieces_empty.1.1

/-- A list of pieces that are not empty is read off its spelling also where it may have no
pieces. -/
theorem eq_of_join_eq {separator : Char} {left right : List String}
    (left_pieces : ∀ piece ∈ left, piece ≠ "" ∧ separator ∉ piece.toList)
    (right_pieces : ∀ piece ∈ right, piece ≠ "" ∧ separator ∉ piece.toList)
    (joined_eq : join (String.singleton separator) left = join (String.singleton separator) right) :
    left = right := by
  cases left with
  | nil =>
      cases right with
      | nil => rfl
      | cons first rest =>
          exact absurd joined_eq.symm (join_ne_empty _ rest (right_pieces first (by simp)).1)
  | cons first rest =>
      cases right with
      | nil => exact absurd joined_eq (join_ne_empty _ rest (left_pieces first (by simp)).1)
      | cons other others =>
          exact join_inj (by simp) (by simp)
            (fun piece piece_mem => (left_pieces piece piece_mem).2)
            (fun piece piece_mem => (right_pieces piece piece_mem).2) joined_eq

theorem cutFirst?_append {separator : Char} {front : String} (free : separator ∉ front.toList)
    (rest : String) :
    cutFirst? separator (front ++ String.singleton separator ++ rest) = some (front, rest) := by
  have passes : ∀ char ∈ front.toList, (char != separator) = true := by
    intro char char_mem
    simpa using ne_of_mem_of_not_mem char_mem free
  have chars_eq : (front ++ String.singleton separator ++ rest).toList =
      front.toList ++ separator :: rest.toList := by simp
  rw [cutFirst?, chars_eq]
  simp [List.dropWhile_append_of_pos passes, List.takeWhile_append_of_pos passes]

theorem trimEnd_append_singleton {char : Char} (not_blank : isBlank char = false) (front : String) :
    trimEnd (front ++ String.singleton char) = front ++ String.singleton char := by
  rw [trimEnd, dropEndWhile, ← String.toList_inj, String.toList_ofList]
  simp [not_blank]

/-- No blank stands at either end of a text. -/
def IsTrimmed (text : String) : Prop :=
  ∀ char, text.toList.head? = some char ∨ text.toList.getLast? = some char → isBlank char = false

theorem isTrimmed_iff {text : String} : IsTrimmed text ↔
    (text.toList.head?.all (!isBlank ·) && text.toList.getLast?.all (!isBlank ·)) = true := by
  simp only [IsTrimmed, Bool.and_eq_true, Option.all_eq_true, Bool.not_eq_true', or_imp,
    forall_and]

instance (text : String) : Decidable (IsTrimmed text) :=
  decidable_of_iff _ isTrimmed_iff.symm

theorem FreeOf.isTrimmed {reserved : List Char} {text : String} (free : FreeOf reserved text) :
    IsTrimmed text := by
  rintro char (first | last)
  · exact (free char (List.mem_of_mem_head? first)).1
  · exact (free char (List.mem_of_mem_getLast? last)).1

theorem dropWhile_isBlank_eq {chars : List Char}
    (trimmed : ∀ char, chars.head? = some char → isBlank char = false) :
    chars.dropWhile isBlank = chars := by
  cases chars with
  | nil => rfl
  | cons char rest => simp [trimmed char rfl]

theorem IsTrimmed.trim_eq {text : String} (trimmed : IsTrimmed text) : trim text = text := by
  have no_blank_first := dropWhile_isBlank_eq fun char first => trimmed char (.inl first)
  have no_blank_last : text.toList.reverse.dropWhile isBlank = text.toList.reverse := by
    apply dropWhile_isBlank_eq
    intro char last
    rw [List.head?_reverse] at last
    exact trimmed char (.inr last)
  rw [trim, trimStart, no_blank_first, String.ofList_toList, trimEnd, dropEndWhile, no_blank_last,
    List.reverse_reverse, String.ofList_toList]

end Text

end RefDocs
