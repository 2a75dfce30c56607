import RefDocs.Proofs.Text.Reserved

/-!
# Escaped brackets

In running text the brackets around type arguments stand behind a backslash.  Reading such a text
takes the backslashes away, and it can be read piece by piece where no piece starts with a bracket
that a backslash at the end of the last one would escape.
-/

namespace RefDocs
namespace Text

/-! ## Texts without some characters -/

/-- A text without the given characters. -/
def Lacks (marks : List Char) (text : String) : Prop :=
  ∀ char ∈ text.toList, char ∉ marks

instance (marks : List Char) (text : String) : Decidable (Lacks marks text) :=
  List.decidableBAll (fun char => char ∉ marks) text.toList

theorem Lacks.mono {marks fewer : List Char} {text : String} (lacks : Lacks marks text)
    (subset : fewer ⊆ marks) : Lacks fewer text :=
  fun char char_mem in_fewer => lacks char char_mem (subset in_fewer)

theorem Lacks.not_mem {marks : List Char} {text : String} (lacks : Lacks marks text) {char : Char}
    (char_mem : char ∈ marks) : char ∉ text.toList :=
  fun in_text => lacks char in_text char_mem

theorem afterLast_subset (separator : Char) (text : String) :
    (afterLast separator text).toList ⊆ text.toList := by
  rw [afterLast, List.getLastD_eq_getLast?, List.getLast?_eq_some_getLast (split_ne_nil _ _)]
  exact (mem_split (List.getLast_mem _)).2

theorem Lacks.simpleName {marks : List Char} {name : String} (lacks : Lacks marks name) :
    Lacks marks (simpleName name) :=
  fun char char_mem => lacks char (afterLast_subset '.' name char_mem)

/-! ## Reading escapes -/

/-- A list of characters starts with an angle bracket. -/
def opensWithBracket (chars : List Char) : Bool :=
  chars.head?.any fun char => char == '<' || char == '>'

/-- A list of characters without the backslashes in front of angle brackets. -/
def bareList : List Char → List Char
  | [] => []
  | char :: rest =>
    if char = '\\' ∧ opensWithBracket rest then bareList rest else char :: bareList rest

/-- A text without the backslashes in front of angle brackets. -/
def bare (text : String) : String :=
  .ofList (bareList text.toList)

theorem toList_bare (text : String) : (bare text).toList = bareList text.toList :=
  String.toList_ofList

/-- What does not start with an angle bracket is read apart from what stands in front of it. -/
theorem bareList_append (front : List Char) {back : List Char}
    (no_bracket : opensWithBracket back = false) :
    bareList (front ++ back) = bareList front ++ bareList back := by
  induction front with
  | nil => rfl
  | cons char rest ih =>
      have opens_eq : opensWithBracket (rest ++ back) = opensWithBracket rest := by
        cases rest with
        | nil => exact no_bracket
        | cons next rest => rfl
      rw [List.cons_append, bareList, bareList, opens_eq, ih]
      split
      · rfl
      · rw [List.cons_append]

/-- A piece of a text reads as the given one, whatever stands behind it. -/
def Bares (piece shown : String) : Prop :=
  ∀ rest, bareList (piece.toList ++ rest) = shown.toList ++ bareList rest

theorem Bares.append {piece shown piece' shown' : String} (front : Bares piece shown)
    (back : Bares piece' shown') : Bares (piece ++ piece') (shown ++ shown') := by
  intro rest
  rw [String.toList_append, String.toList_append, List.append_assoc, front, back, List.append_assoc]

theorem Bares.bare_eq {piece shown : String} (bares : Bares piece shown) : bare piece = shown := by
  have whole := bares []
  rw [List.append_nil, bareList, List.append_nil] at whole
  rw [bare, whole, String.ofList_toList]

/-- A text without backslashes reads as itself. -/
theorem bares_of_lacks {text : String} (lacks : Lacks ['\\'] text) : Bares text text := by
  intro rest
  have no_backslash : ∀ char ∈ text.toList, char ≠ '\\' := by simpa [Lacks] using lacks
  generalize text.toList = chars at no_backslash ⊢
  induction chars with
  | nil => rfl
  | cons char chars ih =>
      rw [List.forall_mem_cons] at no_backslash
      rw [List.cons_append, bareList, if_neg (fun escape => no_backslash.1 escape.1),
        ih no_backslash.2, List.cons_append]

theorem bares_opening : Bares "\\<" "<" := fun rest => by
  simp [bareList, opensWithBracket]

theorem bares_closing : Bares "\\>" ">" := fun rest => by
  simp [bareList, opensWithBracket]

/-! ## The ends of texts -/

theorem getLast?_bareList (chars : List Char) : (bareList chars).getLast? = chars.getLast? := by
  induction chars with
  | nil => rfl
  | cons char rest ih =>
      rw [bareList]
      split
      · rename_i escape
        have rest_ne : rest ≠ [] := by
          rintro rfl
          exact absurd escape.2 (by decide)
        rw [ih, List.getLast?_cons_of_ne_nil rest_ne]
      · rw [List.getLast?_cons, ih, List.getLast?_cons]

theorem bare_eq_empty_iff {text : String} : bare text = "" ↔ text = "" := by
  rw [← String.toList_eq_nil_iff, ← String.toList_eq_nil_iff, toList_bare,
    ← List.getLast?_eq_none_iff, getLast?_bareList, List.getLast?_eq_none_iff]

theorem exists_of_bareList_concat {chars front : List Char} {last : Char}
    (no_bracket : opensWithBracket [last] = false) (read_eq : bareList chars = front ++ [last]) :
    ∃ start, chars = start ++ [last] ∧ bareList start = front := by
  have last_eq := getLast?_bareList chars
  rw [read_eq, List.getLast?_concat] at last_eq
  obtain ⟨start, rfl⟩ := List.getLast?_eq_some_iff.mp last_eq.symm
  have single : bareList [last] = [last] := by simp [bareList, opensWithBracket]
  rw [bareList_append start no_bracket, single] at read_eq
  exact ⟨start, rfl, List.append_cancel_right read_eq⟩

/-- The brackets of an array stand at the end of a text exactly if they do when it is read. -/
theorem dropEnd?_brackets_bare (text : String) :
    dropEnd? "[]" (bare text) = (dropEnd? "[]" text).map bare := by
  cases dropped : dropEnd? "[]" text with
  | some front =>
      obtain rfl := dropEnd?_eq_some_iff.mp dropped
      rw [Option.map_some, dropEnd?_eq_some_iff, bare, bare, String.toList_append,
        bareList_append _ (by decide), String.ofList_append]
      rfl
  | none =>
      cases read_dropped : dropEnd? "[]" (bare text) with
      | none => rfl
      | some shown =>
          have read_eq : bareList text.toList = shown.toList ++ ['['] ++ [']'] := by
            rw [← toList_bare, dropEnd?_eq_some_iff.mp read_dropped, String.toList_append]
            simp
          obtain ⟨opened, text_eq, opened_eq⟩ := exists_of_bareList_concat (by decide) read_eq
          obtain ⟨front, rfl, -⟩ := exists_of_bareList_concat (by decide) opened_eq
          have ends : text = String.ofList front ++ "[]" := by
            rw [← String.toList_inj, text_eq, String.toList_append, String.toList_ofList]
            simp
          rw [dropEnd?_eq_some_iff.mpr ends] at dropped
          cases dropped

end Text
end RefDocs
