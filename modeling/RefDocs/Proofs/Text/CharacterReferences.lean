import Mathlib.Data.List.Infix
import RefDocs.Text.Escape

/-!
# Character references

Escaped text holds no angle bracket, and each `&` in it begins one of three character references.
Reading these back undoes escaping, and a text of this form is the escaped form of what is read
from it.
-/

namespace RefDocs
namespace Text

/-! ## Reading references -/

/-- A list of characters with each of the three references read as the character it stands for. -/
def unescapeList : List Char → List Char
  | '&' :: 'a' :: 'm' :: 'p' :: ';' :: rest => '&' :: unescapeList rest
  | '&' :: 'l' :: 't' :: ';' :: rest => '<' :: unescapeList rest
  | '&' :: 'g' :: 't' :: ';' :: rest => '>' :: unescapeList rest
  | char :: rest => char :: unescapeList rest
  | [] => []

/-- A text with each of the three references read as the character it stands for. -/
def unescape (text : String) : String :=
  String.ofList (unescapeList text.toList)

theorem unescapeList_cons {char : Char} (not_amp : char ≠ '&') (rest : List Char) :
    unescapeList (char :: rest) = char :: unescapeList rest := by
  rw [unescapeList.eq_def]
  split <;> simp_all

theorem unescapeList_escapeChar (char : Char) (rest : List Char) :
    unescapeList (escapeChar char ++ rest) = char :: unescapeList rest := by
  unfold escapeChar
  split
  · rfl
  · rfl
  · rfl
  · rename_i not_amp _ _
    exact unescapeList_cons not_amp rest

/-- Reading the references of an escaped text gives the text back. -/
theorem unescape_escape : Function.LeftInverse unescape escape := by
  intro text
  rw [escape_eq, unescape, String.toList_ofList, ← String.toList_inj, String.toList_ofList]
  induction text.toList with
  | nil => rfl
  | cons char rest ih => rw [List.flatMap_cons, unescapeList_escapeChar, ih]

/-- No two texts are escaped alike. -/
theorem escape_injective : Function.Injective escape :=
  unescape_escape.injective

/-! ## Escaped texts -/

/-- The references that stand for reserved characters. -/
def references : List String := ["&amp;", "&lt;", "&gt;"]

/-- Characters without angle brackets, in which each `&` begins a reference. -/
structure IsEscaped (chars : List Char) : Prop where
  /-- There is no opening bracket. -/
  no_opening : '<' ∉ chars
  /-- There is no closing bracket. -/
  no_closing : '>' ∉ chars
  /-- What begins with `&` begins with a reference. -/
  refers : ∀ rest, '&' :: rest <:+ chars →
    ∃ reference ∈ references, reference.toList <+: '&' :: rest

namespace IsEscaped

variable {chars back : List Char}

theorem of_suffix (escaped : IsEscaped chars) (suffix : back <:+ chars) : IsEscaped back where
  no_opening in_back := escaped.no_opening (suffix.subset in_back)
  no_closing in_back := escaped.no_closing (suffix.subset in_back)
  refers rest begins := escaped.refers rest (begins.trans suffix)

theorem nil : IsEscaped [] where
  no_opening := List.not_mem_nil
  no_closing := List.not_mem_nil
  refers rest begins := by simp at begins

/-- A character that is not reserved may stand in front. -/
theorem cons (escaped : IsEscaped chars) {char : Char} (plain : isReserved char = false) :
    IsEscaped (char :: chars) := by
  simp only [isReserved, Bool.or_eq_false_iff, beq_eq_false_iff_ne] at plain
  obtain ⟨⟨not_opening, not_closing⟩, not_amp⟩ := plain
  constructor
  · simpa [Ne.symm not_opening] using escaped.no_opening
  · simpa [Ne.symm not_closing] using escaped.no_closing
  · intro rest begins
    rcases List.suffix_cons_iff.mp begins with chars_eq | begins
    · exact absurd (List.cons.inj chars_eq).1.symm not_amp
    · exact escaped.refers rest begins

theorem append (escaped : IsEscaped back) {front : List Char}
    (plain : ∀ char ∈ front, isReserved char = false) : IsEscaped (front ++ back) := by
  induction front with
  | nil => exact escaped
  | cons char front ih =>
      rw [List.forall_mem_cons] at plain
      exact (ih plain.2).cons plain.1

/-- A reference may stand in front: behind its `&` no character is reserved. -/
theorem reference_append (escaped : IsEscaped back) {reference : String}
    (listed : reference ∈ references) : IsEscaped (reference.toList ++ back) := by
  have shaped : ∀ reference ∈ references, ∃ name : List Char, reference.toList = '&' :: name ∧
      name.any isReserved = false := by
    simp only [references, List.forall_mem_cons]
    exact ⟨⟨['a', 'm', 'p', ';'], rfl, rfl⟩, ⟨['l', 't', ';'], rfl, rfl⟩,
      ⟨['g', 't', ';'], rfl, rfl⟩, by simp⟩
  obtain ⟨name, reference_eq, none_reserved⟩ := shaped reference listed
  have name_plain : ∀ char ∈ name, isReserved char = false := by simpa using none_reserved
  have behind := escaped.append name_plain
  rw [reference_eq, List.cons_append]
  -- Only the `&` in front can begin anything, since the name behind it is made of plain characters.
  constructor
  · simpa using behind.no_opening
  · simpa using behind.no_closing
  · intro rest begins
    rcases List.suffix_cons_iff.mp begins with chars_eq | begins
    · refine ⟨reference, listed, ?_⟩
      rw [chars_eq, reference_eq, ← List.cons_append]
      exact List.prefix_append _ _
    · exact behind.refers rest begins

end IsEscaped

/-- A character is written as it is if it is not reserved, and as a reference otherwise. -/
theorem escapeChar_cases (char : Char) :
    isReserved char = false ∧ escapeChar char = [char] ∨
      ∃ reference ∈ references, escapeChar char = reference.toList := by
  cases reserved : isReserved char with
  | false => exact .inl ⟨rfl, escapeChar_of_not_reserved reserved⟩
  | true =>
      simp only [isReserved, Bool.or_eq_true, beq_iff_eq] at reserved
      right
      rcases reserved with (rfl | rfl) | rfl
      · exact ⟨"&lt;", by decide⟩
      · exact ⟨"&gt;", by decide⟩
      · exact ⟨"&amp;", by decide⟩

theorem isEscaped_escape (text : String) : IsEscaped (escape text).toList := by
  rw [escape_eq, String.toList_ofList]
  induction text.toList with
  | nil => exact .nil
  | cons char rest ih =>
      rw [List.flatMap_cons]
      rcases escapeChar_cases char with ⟨plain, char_eq⟩ | ⟨reference, listed, char_eq⟩
      · rw [char_eq]
        exact ih.cons plain
      · rw [char_eq]
        exact ih.reference_append listed

/-- Where characters are read one by one, none is reserved, for what begins with `&` is read as a
reference. -/
theorem flatMap_escapeChar_unescapeList {chars : List Char} (escaped : IsEscaped chars) :
    (unescapeList chars).flatMap escapeChar = chars := by
  fun_induction unescapeList chars with
  | case1 rest ih | case2 rest ih | case3 rest ih =>
      have rest_escaped : IsEscaped rest := escaped.of_suffix (by simp [List.suffix_cons_iff])
      rw [List.flatMap_cons, ih rest_escaped]
      rfl
  | case4 char rest not_amp not_lt not_gt ih =>
      have plain : isReserved char = false := by
        have not_opening : char ≠ '<' := by
          rintro rfl
          exact escaped.no_opening List.mem_cons_self
        have not_closing : char ≠ '>' := by
          rintro rfl
          exact escaped.no_closing List.mem_cons_self
        have no_reference : char ≠ '&' := by
          rintro rfl
          obtain ⟨reference, listed, others, chars_eq⟩ :=
            escaped.refers rest (List.suffix_refl _)
          simp only [references, List.mem_cons, List.not_mem_nil, or_false] at listed
          rcases listed with rfl | rfl | rfl
          · exact not_amp others rfl (List.cons.inj chars_eq).2.symm
          · exact not_lt others rfl (List.cons.inj chars_eq).2.symm
          · exact not_gt others rfl (List.cons.inj chars_eq).2.symm
        simp [isReserved, not_opening, not_closing, no_reference]
      rw [List.flatMap_cons, escapeChar_of_not_reserved plain,
        ih (escaped.of_suffix (List.suffix_cons _ _)), List.singleton_append]
  | case5 => rfl

/-- A text of the form that escaping writes is the escaped form of what is read from it. -/
theorem escape_unescape {text : String} (escaped : IsEscaped text.toList) :
    escape (unescape text) = text := by
  rw [escape_eq, unescape, String.toList_ofList, flatMap_escapeChar_unescapeList escaped,
    String.ofList_toList]

/-! ## Texts that stay as they are -/

/-- A reference is longer than the character that it stands for. -/
theorem length_escape (text : String) : (escape text).length =
    text.length + 3 * text.toList.count '<' + 3 * text.toList.count '>' +
      4 * text.toList.count '&' := by
  rw [escape_eq, String.length_ofList, ← String.length_toList]
  induction text.toList with
  | nil => rfl
  | cons char rest ih =>
      rw [List.flatMap_cons, List.length_append, ih]
      unfold escapeChar
      split
      · simp
        omega
      · simp
        omega
      · simp
        omega
      · rename_i not_amp not_opening not_closing
        rw [List.count_cons_of_ne not_opening, List.count_cons_of_ne not_closing,
          List.count_cons_of_ne not_amp, List.length_singleton, List.length_cons]
        omega

theorem escape_eq_self_iff {text : String} : escape text = text ↔
    '<' ∉ text.toList ∧ '>' ∉ text.toList ∧ '&' ∉ text.toList := by
  constructor
  · intro text_eq
    have length_eq := length_escape text
    rw [text_eq] at length_eq
    simp only [← List.count_eq_zero]
    omega
  · rintro ⟨no_opening, no_closing, no_amp⟩
    have plain : ∀ char ∈ text.toList, isReserved char = false := by
      intro char char_mem
      have not_reserved {mark : Char} (no_mark : mark ∉ text.toList) : char ≠ mark :=
        ne_of_mem_of_not_mem char_mem no_mark
      simp [isReserved, not_reserved no_opening, not_reserved no_closing, not_reserved no_amp]
    rw [escape_eq, flatMap_escapeChar_of_plain plain, String.ofList_toList]

/-- Escaping distributes over concatenation, and exactly the texts without reserved characters stay
as they are.  What is written holds no angle bracket, and each `&` in it begins one of the three
references; reading these gives the text back, and any text of that form is the escaped form of what
is read from it.  So no two texts are escaped alike. -/
theorem escape_append_and_unescape_escape :
    (∀ left right, escape (left ++ right) = escape left ++ escape right) ∧
      (∀ text, escape text = text ↔
        '<' ∉ text.toList ∧ '>' ∉ text.toList ∧ '&' ∉ text.toList) ∧
      (∀ text, IsEscaped (escape text).toList ∧ unescape (escape text) = text) ∧
      (∀ written, IsEscaped written.toList → escape (unescape written) = written) ∧
      Function.Injective escape :=
  ⟨escape_append, fun _ => escape_eq_self_iff,
    fun text => ⟨isEscaped_escape text, unescape_escape text⟩, fun _ => escape_unescape,
    escape_injective⟩

example : escape "a < b &lt;" = "a &lt; b &amp;lt;" ∧
    unescape "a &lt; b &amp;lt;" = "a < b &lt;" := by
  decide

end Text
end RefDocs
