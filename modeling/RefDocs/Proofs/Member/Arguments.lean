import RefDocs.Proofs.Text.Reserved

/-!
# Type arguments in written parameters

Type arguments stand in angle brackets, which are nested and closed again.  Cutting a parameter list
at its commas passes over them, and erasing them leaves what stands outside.
-/

namespace RefDocs
namespace Reference

/-- Each angle bracket that is opened is closed again, and none is closed that is not open. -/
inductive Balanced : List Char → Prop where
  | nil : Balanced []
  | char {char : Char} {rest : List Char} (not_opening : char ≠ '<') (not_closing : char ≠ '>')
      (rest_balanced : Balanced rest) : Balanced (char :: rest)
  | arguments {inside rest : List Char} (inside_balanced : Balanced inside)
      (rest_balanced : Balanced rest) : Balanced ('<' :: (inside ++ '>' :: rest))

/-- Lists of type arguments, each in angle brackets, one behind the other. -/
inductive ArgumentLists : List Char → Prop where
  | nil : ArgumentLists []
  | cons {inside rest : List Char} (inside_balanced : Balanced inside)
      (rest_lists : ArgumentLists rest) : ArgumentLists ('<' :: (inside ++ '>' :: rest))

/-! ## One character -/

theorem splitOutside_ne_nil (depth : Nat) (chars : List Char) : splitOutside depth chars ≠ [] := by
  cases chars with
  | nil => simp [splitOutside]
  | cons char rest =>
      rw [splitOutside]
      split
      · simp
      · dsimp only
        split
        · simp
        · simp

theorem splitOutside_comma (rest : List Char) :
    splitOutside 0 (',' :: rest) = [] :: splitOutside 0 rest := by
  rw [splitOutside, if_pos ⟨rfl, rfl⟩]

/-- A character that does not cut belongs to the first piece. -/
theorem splitOutside_cons {depth : Nat} {char : Char} (not_cutting : ¬(char = ',' ∧ depth = 0))
    (rest : List Char) :
    splitOutside depth (char :: rest) =
      (splitOutside (if char = '<' then depth + 1 else if char = '>' then depth - 1 else depth)
        rest).modifyHead (char :: ·) := by
  rw [splitOutside, if_neg not_cutting]
  dsimp only
  split
  · rename_i pieces_eq
    rw [pieces_eq, List.modifyHead_cons]
  · rename_i pieces_eq
    exact absurd pieces_eq (splitOutside_ne_nil _ _)

theorem splitOutside_opening (depth : Nat) (rest : List Char) :
    splitOutside depth ('<' :: rest) = (splitOutside (depth + 1) rest).modifyHead ('<' :: ·) :=
  splitOutside_cons (by simp) rest

theorem splitOutside_closing (depth : Nat) (rest : List Char) :
    splitOutside (depth + 1) ('>' :: rest) = (splitOutside depth rest).modifyHead ('>' :: ·) :=
  splitOutside_cons (by simp) rest

theorem splitOutside_char {depth : Nat} {char : Char} (not_cutting : ¬(char = ',' ∧ depth = 0))
    (not_opening : char ≠ '<') (not_closing : char ≠ '>') (rest : List Char) :
    splitOutside depth (char :: rest) = (splitOutside depth rest).modifyHead (char :: ·) := by
  rw [splitOutside_cons not_cutting, if_neg not_opening, if_neg not_closing]

theorem go_char {char : Char} (not_opening : char ≠ '<') (not_closing : char ≠ '>')
    (rest : List Char) :
    eraseArguments.go 0 (char :: rest) = char :: eraseArguments.go 0 rest := by
  rw [eraseArguments.go]
  · exact not_opening
  · exact not_closing

theorem go_char_inside (depth : Nat) {char : Char} (not_opening : char ≠ '<')
    (not_closing : char ≠ '>') (rest : List Char) :
    eraseArguments.go (depth + 1) (char :: rest) = eraseArguments.go (depth + 1) rest := by
  rw [eraseArguments.go]
  · exact not_opening
  · exact not_closing

/-! ## Inside brackets -/

theorem Balanced.splitOutside_append {inside : List Char} (balanced : Balanced inside) (depth : Nat)
    (rest : List Char) :
    splitOutside (depth + 1) (inside ++ rest) =
      (splitOutside (depth + 1) rest).modifyHead (inside ++ ·) := by
  induction balanced generalizing depth rest with
  | nil => exact (congrFun List.modifyHead_id _).symm
  | char not_opening not_closing _ ih =>
      rw [List.cons_append, splitOutside_char (by simp) not_opening not_closing, ih,
        List.modifyHead_modifyHead]
      rfl
  | arguments _ _ inside_ih rest_ih =>
      rw [List.cons_append, List.append_assoc, List.cons_append, splitOutside_opening, inside_ih,
        splitOutside_closing, rest_ih, List.modifyHead_modifyHead, List.modifyHead_modifyHead,
        List.modifyHead_modifyHead]
      congr 1
      funext piece
      simp

theorem Balanced.go_append {inside : List Char} (balanced : Balanced inside) (depth : Nat)
    (rest : List Char) :
    eraseArguments.go (depth + 1) (inside ++ rest) = eraseArguments.go (depth + 1) rest := by
  induction balanced generalizing depth rest with
  | nil => rfl
  | char not_opening not_closing _ ih =>
      rw [List.cons_append, go_char_inside depth not_opening not_closing, ih]
  | arguments _ _ inside_ih rest_ih =>
      rw [List.cons_append, List.append_assoc, List.cons_append, eraseArguments.go, inside_ih,
        eraseArguments.go, Nat.add_sub_cancel, rest_ih]

/-! ## Outside brackets -/

/-- Cutting at commas does not cut a text, and erasing type arguments leaves the given characters of
it, whatever stands behind. -/
structure Outside (text outer : List Char) : Prop where
  /-- The text belongs to the first piece. -/
  splitOutside_append : ∀ rest,
    splitOutside 0 (text ++ rest) = (splitOutside 0 rest).modifyHead (text ++ ·)
  /-- The characters outside brackets are left. -/
  go_append : ∀ rest, eraseArguments.go 0 (text ++ rest) = outer ++ eraseArguments.go 0 rest

namespace Outside

theorem nil : Outside [] [] where
  splitOutside_append _ := (congrFun List.modifyHead_id _).symm
  go_append _ := rfl

theorem append {left right leftOuter rightOuter : List Char} (left_outside : Outside left leftOuter)
    (right_outside : Outside right rightOuter) :
    Outside (left ++ right) (leftOuter ++ rightOuter) where
  splitOutside_append rest := by
    rw [List.append_assoc, left_outside.splitOutside_append, right_outside.splitOutside_append,
      List.modifyHead_modifyHead]
    congr 1
    funext piece
    simp
  go_append rest := by
    rw [List.append_assoc, left_outside.go_append, right_outside.go_append, List.append_assoc]

theorem singleton {char : Char} (not_comma : char ≠ ',') (not_opening : char ≠ '<')
    (not_closing : char ≠ '>') : Outside [char] [char] where
  splitOutside_append rest :=
    splitOutside_char (fun cutting => not_comma cutting.1) not_opening not_closing rest
  go_append rest := go_char not_opening not_closing rest

theorem of_free {chars : List Char} (comma_free : ',' ∉ chars) (opening_free : '<' ∉ chars)
    (closing_free : '>' ∉ chars) : Outside chars chars := by
  induction chars with
  | nil => exact nil
  | cons char rest ih =>
      rw [List.mem_cons, not_or] at comma_free opening_free closing_free
      exact (singleton (Ne.symm comma_free.1) (Ne.symm opening_free.1)
        (Ne.symm closing_free.1)).append (ih comma_free.2 opening_free.2 closing_free.2)

/-- Nothing is left of type arguments. -/
theorem of_argumentLists {arguments : List Char} (lists : ArgumentLists arguments) :
    Outside arguments [] := by
  induction lists with
  | nil => exact nil
  | @cons inside rest inside_balanced _ ih =>
      have list_outside : Outside ('<' :: (inside ++ ['>'])) [] := by
        refine ⟨fun behind => ?_, fun behind => ?_⟩
        · rw [List.cons_append, List.append_assoc, splitOutside_opening,
            inside_balanced.splitOutside_append, List.singleton_append, splitOutside_closing,
            List.modifyHead_modifyHead, List.modifyHead_modifyHead]
          congr 1
          funext piece
          simp
        · rw [List.cons_append, List.append_assoc, eraseArguments.go, inside_balanced.go_append,
            List.singleton_append, eraseArguments.go]
          rfl
      simpa using list_outside.append ih

theorem eraseArguments_eq {text outer : String} (outside : Outside text.toList outer.toList) :
    eraseArguments text = outer := by
  have erased_eq := outside.go_append []
  rw [List.append_nil, eraseArguments.go, List.append_nil] at erased_eq
  rw [eraseArguments, erased_eq, String.ofList_toList]

end Outside

theorem splitOutside_join {texts : List String} (texts_ne : texts ≠ [])
    (outside : ∀ text ∈ texts, ∃ outer, Outside text.toList outer) :
    (splitOutside 0 (Text.join "," texts).toList).map String.ofList = texts := by
  induction texts with
  | nil => exact absurd rfl texts_ne
  | cons text rest ih =>
      rw [List.forall_mem_cons] at outside
      obtain ⟨⟨outer, text_outside⟩, rest_outside⟩ := outside
      cases rest with
      | nil =>
          have cut_eq := text_outside.splitOutside_append []
          rw [List.append_nil] at cut_eq
          simp [Text.join, cut_eq, splitOutside]
      | cons next others =>
          have chars_eq : (Text.join "," (text :: next :: others)).toList =
              text.toList ++ ',' :: (Text.join "," (next :: others)).toList := by
            rw [Text.join_cons (by simp)]
            simp
          rw [chars_eq, text_outside.splitOutside_append, splitOutside_comma, List.modifyHead_cons,
            List.map_cons, ih (by simp) rest_outside]
          simp

/-- The parameters of a list are recovered if none is blank and none is cut. -/
theorem splitParameters_join {texts : List String}
    (outside : ∀ text ∈ texts,
      Text.isBlankText text = false ∧ ∃ outer, Outside text.toList outer) :
    splitParameters (Text.join "," texts) = texts := by
  cases texts with
  | nil => rfl
  | cons first rest =>
      have not_blank : Text.isBlankText (Text.join "," (first :: rest)) = false := by
        have first_not_blank := (outside first List.mem_cons_self).1
        rw [Text.isBlankText, List.all_eq_false] at first_not_blank ⊢
        obtain ⟨char, char_mem, char_not_blank⟩ := first_not_blank
        exact ⟨char, Text.mem_join_cons char_mem, char_not_blank⟩
      rw [splitParameters, not_blank, if_neg (by simp)]
      exact splitOutside_join (by simp) fun text text_mem => (outside text text_mem).2

end Reference
end RefDocs
