import Mathlib.Data.List.Basic
import RefDocs.Text.Split

/-!
# Cutting undoes joining

Cutting a text at a character and joining the pieces with that character are inverse to each other
on pieces that do not hold it.  The lists of characters are cut as the standard library cuts them.
-/

namespace RefDocs
namespace Text

theorem splitList_eq_splitOn {α : Type} [DecidableEq α] (separator : α) (items : List α) :
    splitList separator items = items.splitOn separator := by
  induction items with
  | nil => rfl
  | cons item rest ih =>
      rw [splitList, List.splitOn_cons_eq_if_modifyHead, ih]
      by_cases item_separates : item = separator
      · simp [item_separates]
      · obtain ⟨piece, pieces, cut⟩ :=
          List.exists_cons_of_ne_nil (List.splitOn_ne_nil separator rest)
        simp [item_separates, cut]

theorem split_ne_nil (separator : Char) (text : String) : split separator text ≠ [] := by
  simp [split, splitList_eq_splitOn]

theorem split_append (separator : Char) (front rest : String) :
    split separator (front ++ String.singleton separator ++ rest) =
      split separator front ++ split separator rest := by
  simp [split, splitList_eq_splitOn, List.splitOn_append_cons_self]

theorem exists_splitList_append {α : Type} [DecidableEq α] (separator : α) (items others : List α) :
    ∃ pieces last next rest, splitList separator items = pieces ++ [last] ∧
      splitList separator others = next :: rest ∧
      splitList separator (items ++ others) = pieces ++ (last ++ next) :: rest := by
  induction items with
  | nil =>
      obtain ⟨next, rest, cut⟩ : ∃ next rest, splitList separator others = next :: rest := by
        rw [splitList_eq_splitOn]
        exact List.exists_cons_of_ne_nil (List.splitOn_ne_nil separator others)
      exact ⟨[], [], next, rest, rfl, cut, cut⟩
  | cons item items ih =>
      obtain ⟨pieces, last, next, rest, front_eq, rest_eq, whole_eq⟩ := ih
      by_cases item_separates : item = separator
      · refine ⟨[] :: pieces, last, next, rest, ?_, rest_eq, ?_⟩
        · rw [splitList, if_pos item_separates, front_eq, List.cons_append]
        · rw [List.cons_append, splitList, if_pos item_separates, whole_eq, List.cons_append]
      · cases pieces with
        | nil =>
            refine ⟨[], item :: last, next, rest, ?_, rest_eq, ?_⟩
            · rw [splitList, if_neg item_separates, front_eq]
              rfl
            · rw [List.cons_append, splitList, if_neg item_separates, whole_eq]
              rfl
        | cons piece pieces =>
            refine ⟨(item :: piece) :: pieces, last, next, rest, ?_, rest_eq, ?_⟩
            · rw [splitList, if_neg item_separates, front_eq]
              rfl
            · rw [List.cons_append, splitList, if_neg item_separates, whole_eq]
              rfl

/-- Where two texts meet, the last piece of the first and the first piece of the second are one. -/
theorem exists_split_append (separator : Char) (front rest : String) :
    ∃ pieces last next others, split separator front = pieces ++ [last] ∧
      split separator rest = next :: others ∧
      split separator (front ++ rest) = pieces ++ (last ++ next) :: others := by
  obtain ⟨pieces, last, next, others, front_eq, rest_eq, whole_eq⟩ :=
    exists_splitList_append separator front.toList rest.toList
  refine ⟨pieces.map String.ofList, String.ofList last, String.ofList next,
    others.map String.ofList, ?_, ?_, ?_⟩
  · rw [split, front_eq, List.map_append, List.map_singleton]
  · rw [split, rest_eq, List.map_cons]
  · rw [split, String.toList_append, whole_eq, List.map_append, List.map_cons, String.ofList_append]

theorem split_of_not_mem {separator : Char} {text : String} (free : separator ∉ text.toList) :
    split separator text = [text] := by
  simp [split, splitList_eq_splitOn, List.splitOn_eq_singleton free]

theorem flatMap_split_of_not_mem {separator : Char} {pieces : List String}
    (free : ∀ piece ∈ pieces, separator ∉ piece.toList) :
    pieces.flatMap (split separator) = pieces := by
  have cut_eq : ∀ piece ∈ pieces, split separator piece = [piece] := by
    intro piece piece_mem
    exact split_of_not_mem (free piece piece_mem)
  rw [List.flatMap_congr cut_eq, List.flatMap_singleton']

/-- Pieces without the separator are recovered from their joined text. -/
theorem split_join {separator : Char} {pieces : List String} (pieces_ne : pieces ≠ [])
    (pieces_free : ∀ piece ∈ pieces, separator ∉ piece.toList) :
    split separator (join (String.singleton separator) pieces) = pieces := by
  have chars_free : ∀ chars ∈ pieces.map String.toList, separator ∉ chars := by
    intro chars chars_mem
    obtain ⟨piece, piece_mem, rfl⟩ := List.mem_map.mp chars_mem
    exact pieces_free piece piece_mem
  rw [split, join, String.toList_intercalate, String.toList_singleton, splitList_eq_splitOn,
    List.splitOn_intercalate separator chars_free (by simpa using pieces_ne), List.map_map]
  simp [Function.comp_def]

/-- The pieces of a text make up the text. -/
theorem join_split (separator : Char) (text : String) :
    join (String.singleton separator) (split separator text) = text := by
  rw [← String.toList_inj, join, String.toList_intercalate, String.toList_singleton, split,
    splitList_eq_splitOn, List.map_map]
  have chars_eq : String.toList ∘ String.ofList = id := by
    funext chars
    simp
  rw [chars_eq, List.map_id, List.intercalate_splitOn]

theorem join_inj {separator : Char} {left right : List String}
    (left_ne : left ≠ []) (right_ne : right ≠ [])
    (left_free : ∀ piece ∈ left, separator ∉ piece.toList)
    (right_free : ∀ piece ∈ right, separator ∉ piece.toList)
    (texts_eq : join (String.singleton separator) left = join (String.singleton separator) right) :
    left = right := by
  rw [← split_join left_ne left_free, texts_eq, split_join right_ne right_free]

theorem mem_splitOn {α : Type} [DecidableEq α] {separator : α} {items piece : List α}
    (piece_mem : piece ∈ items.splitOn separator) :
    separator ∉ piece ∧ piece ⊆ items := by
  induction items generalizing piece with
  | nil =>
      obtain rfl : piece = [] := by simpa [List.splitOn_nil] using piece_mem
      simp
  | cons item rest ih =>
      rw [List.splitOn_cons_eq_if_modifyHead] at piece_mem
      obtain ⟨first, others, cut⟩ :=
        List.exists_cons_of_ne_nil (List.splitOn_ne_nil separator rest)
      rw [cut] at piece_mem ih
      by_cases item_separates : item = separator
      · simp only [item_separates, beq_self_eq_true, if_true, List.mem_cons] at piece_mem
        rcases piece_mem with rfl | piece_mem
        · simp
        · have known := ih (List.mem_cons.mpr piece_mem)
          exact ⟨known.1, List.Subset.trans known.2 (List.subset_cons_self _ _)⟩
      · simp only [beq_iff_eq, item_separates, if_false, List.modifyHead_cons,
          List.mem_cons] at piece_mem
        rcases piece_mem with rfl | piece_mem
        · have known := ih List.mem_cons_self
          exact ⟨by simpa [Ne.symm item_separates] using known.1,
            List.cons_subset_cons item known.2⟩
        · have known := ih (List.mem_cons_of_mem first piece_mem)
          exact ⟨known.1, List.Subset.trans known.2 (List.subset_cons_self _ _)⟩

/-- A piece does not hold the separator, and holds no character that the text does not hold. -/
theorem mem_split {separator : Char} {text piece : String}
    (piece_mem : piece ∈ split separator text) :
    separator ∉ piece.toList ∧ piece.toList ⊆ text.toList := by
  rw [split, splitList_eq_splitOn] at piece_mem
  obtain ⟨chars, chars_mem, rfl⟩ := List.mem_map.mp piece_mem
  simpa using mem_splitOn chars_mem

theorem join_cons {separator piece : String} {pieces : List String} (pieces_ne : pieces ≠ []) :
    join separator (piece :: pieces) = piece ++ separator ++ join separator pieces :=
  String.intercalate_cons_of_ne_nil pieces_ne

theorem join_append {separator : String} {left right : List String} (left_ne : left ≠ [])
    (right_ne : right ≠ []) :
    join separator (left ++ right) = join separator left ++ separator ++ join separator right := by
  induction left with
  | nil => exact absurd rfl left_ne
  | cons first rest ih =>
      by_cases rest_nil : rest = []
      · rw [rest_nil, List.singleton_append, join_cons right_ne]
        simp [join]
      · rw [List.cons_append, join_cons (by simp [rest_nil]), join_cons rest_nil, ih rest_nil]
        simp only [String.append_assoc]

theorem join_concat {separator piece : String} {pieces : List String} (pieces_ne : pieces ≠ []) :
    join separator (pieces ++ [piece]) = join separator pieces ++ separator ++ piece := by
  rw [join_append pieces_ne (by simp)]
  simp [join]

theorem mem_join {separator : String} {pieces : List String} {char : Char}
    (char_mem : char ∈ (join separator pieces).toList) :
    char ∈ separator.toList ∨ ∃ piece ∈ pieces, char ∈ piece.toList := by
  induction pieces with
  | nil => simp [join] at char_mem
  | cons piece rest ih =>
      by_cases rest_nil : rest = []
      · subst rest_nil
        exact Or.inr ⟨piece, by simp, by simpa [join] using char_mem⟩
      · rw [join_cons rest_nil, String.toList_append, String.toList_append] at char_mem
        rcases List.mem_append.mp char_mem with front_mem | rest_mem
        · rcases List.mem_append.mp front_mem with piece_mem | separator_mem
          · exact Or.inr ⟨piece, by simp, piece_mem⟩
          · exact Or.inl separator_mem
        · rcases ih rest_mem with separator_mem | ⟨other, other_mem, char_in⟩
          · exact Or.inl separator_mem
          · exact Or.inr ⟨other, List.mem_cons_of_mem piece other_mem, char_in⟩

theorem mem_join_cons {separator piece : String} {pieces : List String} {char : Char}
    (char_mem : char ∈ piece.toList) : char ∈ (join separator (piece :: pieces)).toList := by
  by_cases pieces_nil : pieces = []
  · simpa [pieces_nil, join] using char_mem
  · rw [join_cons pieces_nil]
    simp [char_mem]

/-- What is left of a text behind a given start makes up the text with it. -/
theorem dropStart?_eq_some_iff {start text rest : String} :
    dropStart? start text = some rest ↔ text = start ++ rest := by
  constructor
  · intro dropped
    rw [dropStart?] at dropped
    split at dropped
    · rename_i starts
      obtain ⟨others, text_eq⟩ := List.isPrefixOf_iff_prefix.mp starts
      obtain rfl := Option.some.inj dropped
      rw [← String.toList_inj, String.toList_append, String.toList_ofList, ← text_eq,
        List.drop_left]
    · cases dropped
  · rintro rfl
    rw [dropStart?, String.toList_append,
      if_pos (List.isPrefixOf_iff_prefix.mpr (List.prefix_append _ _)), List.drop_left,
      String.ofList_toList]

/-- A text is contained in another exactly if its characters stand in a row there. -/
theorem contains_eq_true_iff {part text : String} :
    contains part text = true ↔ part.toList <:+: text.toList := by
  rw [contains]
  induction text.toList with
  | nil => simp [contains.go]
  | cons char rest ih =>
      rw [contains.go, Bool.or_eq_true, List.isPrefixOf_iff_prefix, ih, List.infix_cons_iff]

end Text
end RefDocs
