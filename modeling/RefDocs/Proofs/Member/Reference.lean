import Mathlib.Data.List.Forall2
import RefDocs.Proofs.Member.Anchor
import RefDocs.Proofs.Member.Arguments

/-!
# References that spell an anchor

A reference leads to the first member that it fits, so one that spells an anchor leads there unless
a member in front of it takes the same parameters: types in a reference may be shortened to their
last segments, and an array stands for any number of values.
-/

namespace RefDocs

namespace Reference

theorem parts_eq {name : String} (opening_free : '(' ∉ name.toList)
    (trimmed : Text.IsTrimmed name) (list : String) :
    parts (name ++ "(" ++ list ++ ")") = (name, some list) := by
  have closing : ")" = String.singleton ')' := rfl
  have end_eq : Text.trimEnd (list ++ ")") = list ++ ")" := by
    rw [closing, Text.trimEnd_append_singleton (by decide)]
  rw [parts, Text.cutFirst?_called opening_free]
  dsimp only
  rw [end_eq, trimmed.trim_eq, Text.dropEnd?_eq_some_iff.mpr rfl]
  rfl

/-- The first word stands between blanks. -/
theorem firstWord?_eq {before word after : String}
    (before_blank : ∀ char ∈ before.toList, isBlank char) (word_ne : word ≠ "")
    (word_free : Text.FreeOf [] word)
    (after_blank : ∀ char, after.toList.head? = some char → isBlank char) :
    firstWord? (before ++ word ++ after) = some word := by
  obtain ⟨char, rest, chars_eq⟩ :=
    List.exists_cons_of_ne_nil (String.toList_eq_nil_iff.not.mpr word_ne)
  have no_blank : ∀ other ∈ word.toList, (!isBlank other) = true := by
    intro other other_mem
    simp [(word_free other other_mem).1]
  have word_starts : (word ++ after).toList.dropWhile isBlank = (word ++ after).toList := by
    apply Text.dropWhile_isBlank_eq
    intro first first_eq
    obtain rfl : char = first := by simpa [chars_eq] using first_eq
    exact (word_free char (by simp [chars_eq])).1
  have word_ends : after.toList.takeWhile (fun other => !isBlank other) = [] := by
    cases after_eq : after.toList with
    | nil => rfl
    | cons first others => simp [after_blank first (by simp [after_eq])]
  have word_eq : ((word ++ after).toList.takeWhile fun other => !isBlank other) = word.toList := by
    rw [String.toList_append, List.takeWhile_append_of_pos no_blank, word_ends, List.append_nil]
  rw [firstWord?, String.append_assoc, String.toList_append,
    List.dropWhile_append_of_pos before_blank, word_starts, word_eq, chars_eq]
  dsimp only
  rw [← chars_eq, String.ofList_toList]

/-- An erased type admits a written one: it is that, or ends in it behind a point, where points and
array brackets at the end are the same. -/
def Admits (expected written : String) : Prop :=
  arrayForm expected = arrayForm written ∨
    ∃ qualifier, arrayForm expected = qualifier ++ "." ++ arrayForm written

/-- A written parameter names a type exactly if the type admits its first word. -/
theorem namesType_iff_of_firstWord? {written word : String}
    (first_word : firstWord? (eraseArguments written) = some word) (expected : String) :
    namesType expected written = true ↔ Admits expected word := by
  rw [namesType, first_word]
  simp only [Bool.or_eq_true, beq_iff_eq, Text.endsWith_iff, Admits, String.append_assoc]

theorem namesType_iff {reserved : List Char} {written : String} (written_ne : written ≠ "")
    (free : Text.FreeOf reserved written) (marks_reserved : ['<', '>', ','] ⊆ reserved)
    (expected : String) : namesType expected written = true ↔ Admits expected written := by
  have outside : Outside written.toList written.toList :=
    .of_free (free.not_mem (marks_reserved (by simp))) (free.not_mem (marks_reserved (by simp)))
      (free.not_mem (marks_reserved (by simp)))
  apply namesType_iff_of_firstWord?
  rw [outside.eraseArguments_eq]
  simpa using @firstWord?_eq "" written "" (by simp) written_ne (free.mono (List.nil_subset _))
    (by simp)

end Reference

/-- A member has the name and the number of parameters of another, and each of its parameter types
admits the other's. -/
structure Member.Takes (member other : Member) : Prop where
  /-- The members have one name. -/
  name_eq : member.name = other.name
  /-- The types of the member admit those of the other, one by one. -/
  types_admit : List.Forall₂ Reference.Admits member.anchorTypes other.anchorTypes

theorem Member.takes_self (member : Member) : member.Takes member where
  name_eq := rfl
  types_admit := List.forall₂_same.mpr fun _ _ => .inl rfl

namespace Reference

/-- A list that is cut into the written parameters fits a member if these name its types. -/
theorem fits_iff_of_splitParameters {list : String} {written : List String}
    (split_eq : splitParameters list = written) (member : Member) :
    fits member list = true ↔
      List.Forall₂ (fun expected text => namesType expected text = true)
        member.anchorTypes written := by
  rw [fits, split_eq, List.forall₂_iff_zip, Bool.and_eq_true, beq_iff_eq, List.all_eq_true,
    Member.anchorTypes, List.length_map, eq_comm]
  refine and_congr_right fun _ => ⟨?_, ?_⟩
  · intro each expected text pair_mem
    exact each (expected, text) pair_mem
  · intro each pair pair_mem
    exact @each pair.1 pair.2 pair_mem

theorem fits_join_iff {types : List String}
    (types_named : ∀ type ∈ types, type ≠ "" ∧ Text.FreeOf ['(', ')', '<', '>', ','] type)
    (member : Member) :
    fits member (Text.join "," types) = true ↔
      List.Forall₂ Admits member.anchorTypes types := by
  have split_eq : splitParameters (Text.join "," types) = types := by
    apply splitParameters_join
    intro type type_mem
    obtain ⟨type_ne, type_free⟩ := types_named type type_mem
    obtain ⟨char, rest, chars_eq⟩ :=
      List.exists_cons_of_ne_nil (String.toList_eq_nil_iff.not.mpr type_ne)
    have not_blank := (type_free char (by simp [chars_eq])).1
    exact ⟨by simp [Text.isBlankText, chars_eq, not_blank], type.toList,
      .of_free (type_free.not_mem (by simp)) (type_free.not_mem (by simp))
        (type_free.not_mem (by simp))⟩
  have names_iff : ∀ expected, ∀ type ∈ types,
      (namesType expected type = true ↔ Admits expected type) := by
    intro expected type type_mem
    obtain ⟨type_ne, type_free⟩ := types_named type type_mem
    exact namesType_iff type_ne type_free (by simp) expected
  rw [fits_iff_of_splitParameters split_eq, List.forall₂_iff_zip, List.forall₂_iff_zip]
  refine and_congr_right fun _ => ⟨?_, ?_⟩
  · intro each expected type pair_mem
    exact (names_iff expected type (List.of_mem_zip pair_mem).2).mp (each pair_mem)
  · intro each expected type pair_mem
    exact (names_iff expected type (List.of_mem_zip pair_mem).2).mpr (each pair_mem)

section Anchors

variable {owner : TypeDecl} {member : Member}

/-- A member with the name that a reference gives, and parameters that fit it, takes what an anchor
says of another. -/
theorem fits_anchorTypes_iff (named : member.PlainlyNamed ['('] ['(', ')', '<', '>', ','])
    (other : Member) :
    (other.name == member.name && fits other (Text.join "," member.anchorTypes)) = true ↔
      other.Takes member := by
  rw [Bool.and_eq_true, beq_iff_eq, fits_join_iff (named.anchorTypes (by decide))]
  exact ⟨fun ⟨name_eq, types⟩ => ⟨name_eq, types⟩, fun ⟨name_eq, types⟩ => ⟨name_eq, types⟩⟩

theorem member?_anchor (executable : member.IsExecutable)
    (named : member.PlainlyNamed ['('] ['(', ')', '<', '>', ',']) :
    member? owner member.anchor = owner.members.find? fun other =>
      other.name == member.name && fits other (Text.join "," member.anchorTypes) := by
  rw [member?, Member.anchor_of_isCalled (.inl executable) named (by decide),
    executable.spelledTypes_eq,
    parts_eq (named.name_free.not_mem (by simp)) named.name_free.isTrimmed]
  rfl

/-- A reference that spells the anchor of a method or constructor leads to it exactly if no method
or constructor in front of it takes the parameters in the reference. -/
theorem anchor_anchor_eq_iff {before after : List Member}
    (members_eq : owner.members = before ++ member :: after) (executable : member.IsExecutable)
    (named : member.PlainlyNamed ['('] ['(', ')', '<', '>', ','])
    (unique : ∀ other ∈ before ++ after, other.anchor ≠ member.anchor)
    (called : ∀ earlier ∈ before, earlier.name = member.name →
      earlier.parameters.length = member.parameters.length → earlier.IsExecutable) :
    anchor owner member.anchor = member.anchor ↔
      ∀ earlier ∈ before, earlier.IsExecutable → ¬earlier.Takes member := by
  have self_found : (member :: after).find? (fun other =>
      other.name == member.name && fits other (Text.join "," member.anchorTypes)) = some member :=
    List.find?_cons_of_pos ((fits_anchorTypes_iff named member).mpr member.takes_self)
  rw [anchor, member?_anchor executable named, members_eq, List.find?_append, self_found]
  cases found : before.find? fun other =>
      other.name == member.name && fits other (Text.join "," member.anchorTypes) with
  | none =>
      refine iff_of_true rfl ?_
      intro earlier earlier_mem _ takes
      exact List.find?_eq_none.mp found earlier earlier_mem
        ((fits_anchorTypes_iff named earlier).mpr takes)
  | some first =>
      have first_mem : first ∈ before := List.mem_of_find?_eq_some found
      have first_fits := List.find?_some found
      have takes : first.Takes member := (fits_anchorTypes_iff named first).mp first_fits
      have length_eq : first.parameters.length = member.parameters.length := by
        simpa [Member.anchorTypes] using takes.types_admit.length_eq
      refine iff_of_false ?_ ?_
      · exact unique first (List.mem_append_left after first_mem)
      · intro none_takes
        exact none_takes first first_mem (called first first_mem takes.name_eq length_eq) takes

end Anchors

/-- A type with a method for an array in front of one for any number of values. -/
def summingOwner : TypeDecl where
  qualifiedName := "shop.Cart"
  simpleName := "Cart"
  kind := .classType
  enclosing := .package "shop"
  members :=
    [{ kind := .method, name := "sum"
       parameters := [{ name := "values", type := .array (.primitive "int" []) [] }] },
     { kind := .method, name := "sum"
       parameters :=
         [{ name := "values", type := .array (.primitive "int" []) [], varargs := true }] }]

/-- The anchor of a member need not lead to it, also where no other member has it. -/
theorem not_forall_anchor_anchor_eq :
    ¬∀ (owner : TypeDecl) (before after : List Member) (member : Member),
      owner.members = before ++ member :: after → member.IsExecutable →
      member.PlainlyNamed ['('] ['(', ')', '<', '>', ','] →
      (∀ other ∈ before ++ after, other.anchor ≠ member.anchor) →
      anchor owner member.anchor = member.anchor := by
  intro resolves
  have anchor_eq := resolves summingOwner (summingOwner.members.take 1) []
    summingOwner.members[1] rfl (.inl rfl) (by decide) (by decide)
  revert anchor_eq
  decide

/-- A type with two methods whose parameters have one simple name. -/
def addingOwner : TypeDecl where
  qualifiedName := "shop.Cart"
  simpleName := "Cart"
  kind := .classType
  enclosing := .package "shop"
  members :=
    [{ kind := .method, name := "add"
       parameters := [{ name := "item", type := .declared "shop.Item" [] none [] }] },
     { kind := .method, name := "add"
       parameters := [{ name := "item", type := .declared "stock.Item" [] none [] }] }]

theorem anchor_addingOwner : anchor addingOwner "add(stock.Item)" = "add(stock.Item)" := by
  have named : addingOwner.members[1].PlainlyNamed ['('] ['(', ')', '<', '>', ','] := by
    decide
  have resolves := @anchor_anchor_eq_iff addingOwner addingOwner.members[1]
    (addingOwner.members.take 1) [] rfl (.inl rfl) named (by decide)
  refine (resolves ?_).mpr ?_
  · rintro _ (_ | ⟨_, ⟨⟩⟩) - -
    exact .inl rfl
  · rintro _ (_ | ⟨_, ⟨⟩⟩) - takes
    rw [← fits_anchorTypes_iff named] at takes
    revert takes
    decide

end Reference
end RefDocs
