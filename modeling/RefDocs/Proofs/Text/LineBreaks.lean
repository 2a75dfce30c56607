import Mathlib.Data.List.Basic
import RefDocs.Text.Escape
import RefDocs.Text.Split

/-!
# Line breaks in texts

Replacing a character works character by character, so it distributes over concatenation and leaves
a text without the character as it is.  A text is brought to another line separator by replacing
each of its line breaks.
-/

namespace RefDocs
namespace Text

section Replacement

variable {old : Char} {new : String}

theorem toList_replaceChar (old : Char) (new text : String) :
    (replaceChar old new text).toList =
      text.toList.flatMap fun char => if char = old then new.toList else [char] := by
  rw [replaceChar, String.toList_ofList]

theorem replaceChar_append (left right : String) :
    replaceChar old new (left ++ right) =
      replaceChar old new left ++ replaceChar old new right := by
  simp [replaceChar, String.ofList_append]

theorem replaceChar_of_not_mem {text : String} (free : old ∉ text.toList) :
    replaceChar old new text = text := by
  rw [← String.toList_inj, toList_replaceChar]
  have chars_eq : ∀ char ∈ text.toList,
      (if char = old then new.toList else [char]) = [char] := by
    intro char char_mem
    exact if_neg (ne_of_mem_of_not_mem char_mem free)
  rw [List.flatMap_congr chars_eq, List.flatMap_singleton']

theorem replaceChar_self (char : Char) (text : String) :
    replaceChar char (String.singleton char) text = text := by
  rw [← String.toList_inj, toList_replaceChar]
  have chars_eq : ∀ other ∈ text.toList,
      (if other = char then (String.singleton char).toList else [other]) = [other] := by
    intro other _
    split
    · rename_i other_eq
      rw [String.toList_singleton, other_eq]
    · rfl
  rw [List.flatMap_congr chars_eq, List.flatMap_singleton']

/-- What is replaced is gone, unless it is put in again. -/
theorem not_mem_replaceChar (new_free : old ∉ new.toList) (text : String) :
    old ∉ (replaceChar old new text).toList := by
  rw [toList_replaceChar, List.mem_flatMap]
  rintro ⟨char, -, old_mem⟩
  split at old_mem
  · exact new_free old_mem
  · rename_i char_ne
    exact char_ne (List.mem_singleton.mp old_mem).symm

end Replacement

/-- A text without line breaks. -/
def Unbroken (text : String) : Prop :=
  '\n' ∉ text.toList

instance (text : String) : Decidable (Unbroken text) :=
  inferInstanceAs (Decidable ('\n' ∉ text.toList))

theorem eq_of_break_mem_escapeChar {char : Char} (break_mem : '\n' ∈ escapeChar char) :
    char = '\n' := by
  unfold escapeChar at break_mem
  split at break_mem
  · simp at break_mem
  · simp at break_mem
  · simp at break_mem
  · exact (List.mem_singleton.mp break_mem).symm

namespace Unbroken

variable {left right text : String}

theorem append (left_unbroken : Unbroken left) (right_unbroken : Unbroken right) :
    Unbroken (left ++ right) := by
  simp only [Unbroken, String.toList_append, List.mem_append, not_or]
  exact ⟨left_unbroken, right_unbroken⟩

theorem join {texts : List String} (unbroken : ∀ text ∈ texts, Unbroken text) :
    Unbroken (String.join texts) := by
  induction texts with
  | nil => decide
  | cons text rest ih =>
      rw [String.join_cons]
      rw [List.forall_mem_cons] at unbroken
      exact unbroken.1.append (ih unbroken.2)

theorem join_map {Item : Type} {write : Item → String} {items : List Item}
    (unbroken : ∀ item ∈ items, Unbroken (write item)) :
    Unbroken (String.join (items.map write)) := by
  refine .join ?_
  simpa using unbroken

theorem replicate (unbroken : Unbroken text) (count : Nat) :
    Unbroken (Text.replicate count text) := by
  refine .join ?_
  intro copy copy_mem
  exact List.eq_of_mem_replicate copy_mem ▸ unbroken

theorem replaceChar {old : Char} {new : String} (unbroken : Unbroken text)
    (new_unbroken : Unbroken new) : Unbroken (Text.replaceChar old new text) := by
  rw [Unbroken, toList_replaceChar, List.mem_flatMap]
  rintro ⟨char, char_mem, break_mem⟩
  split at break_mem
  · exact new_unbroken break_mem
  · rw [List.mem_singleton] at break_mem
    exact unbroken (break_mem ▸ char_mem)

theorem escape (unbroken : Unbroken text) : Unbroken (Text.escape text) := by
  rw [Unbroken, escape_eq, String.toList_ofList, List.mem_flatMap]
  rintro ⟨char, char_mem, break_mem⟩
  exact unbroken (eq_of_break_mem_escapeChar break_mem ▸ char_mem)

end Unbroken

/-- A text with a carriage return and a line feed for each of its line breaks. -/
def inCrlf (text : String) : String :=
  replaceChar '\n' "\r\n" text

theorem inCrlf_append (left right : String) :
    inCrlf (left ++ right) = inCrlf left ++ inCrlf right :=
  replaceChar_append left right

theorem inCrlf_break : inCrlf "\n" = "\r\n" := by decide

theorem inCrlf_of_not_mem {text : String} (free : '\n' ∉ text.toList) : inCrlf text = text :=
  replaceChar_of_not_mem free

theorem Unbroken.inCrlf_eq {text : String} (unbroken : Unbroken text) : inCrlf text = text :=
  inCrlf_of_not_mem unbroken

/-- Lines that are brought to the other separator one by one are so together. -/
theorem inCrlf_join_map {Item : Type} {write write' : Item → String} {items : List Item}
    (commutes : ∀ item ∈ items, write' item = inCrlf (write item)) :
    String.join (items.map write') = inCrlf (String.join (items.map write)) := by
  induction items with
  | nil => rfl
  | cons item rest ih =>
      rw [List.forall_mem_cons] at commutes
      rw [List.map_cons, List.map_cons, String.join_cons, String.join_cons, inCrlf_append,
        commutes.1, ih commutes.2]

end Text
end RefDocs
