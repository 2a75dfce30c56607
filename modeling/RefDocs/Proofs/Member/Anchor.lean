import RefDocs.Proofs.Text.Reserved

/-!
# Anchors of members

Where the names in a member are free of the characters that anchors are put together with, its
anchor shows its name and, for what can be called, the parameter types.  So two members share an
anchor only if they share these.
-/

namespace RefDocs

/-- The characters in the names of a member that its anchor has a use for are none of the
given ones. -/
structure Member.PlainlyNamed (inName inTypes : List Char) (member : Member) : Prop where
  /-- The name holds no blank and none of the first characters. -/
  name_free : Text.FreeOf inName member.name
  /-- The names of parameter types are not empty. -/
  types_named : ∀ parameter ∈ member.parameters, parameter.type.erasedName ≠ ""
  /-- The names of parameter types hold no blank and none of the second characters. -/
  types_free : ∀ parameter ∈ member.parameters,
    Text.FreeOf inTypes parameter.type.erasedName

instance (inName inTypes : List Char) (member : Member) :
    Decidable (member.PlainlyNamed inName inTypes) :=
  decidable_of_iff
    (Text.FreeOf inName member.name ∧
      (∀ parameter ∈ member.parameters, parameter.type.erasedName ≠ "") ∧
      ∀ parameter ∈ member.parameters, Text.FreeOf inTypes parameter.type.erasedName)
    ⟨fun ⟨name_free, types_named, types_free⟩ => ⟨name_free, types_named, types_free⟩,
      fun named => ⟨named.name_free, named.types_named, named.types_free⟩⟩

theorem Text.cutFirst?_called {name : String} (free : '(' ∉ name.toList) (list : String) :
    Text.cutFirst? '(' (name ++ "(" ++ list ++ ")") = some (name, list ++ ")") := by
  have opening : "(" = String.singleton '(' := rfl
  rw [String.append_assoc, opening, Text.cutFirst?_append free]

theorem Parameter.exists_anchorType_eq (parameter : Parameter)
    (varargs : parameter.varargs = true) :
    ∃ component, parameter.anchorType = component ++ "..." ∧
      component.toList ⊆ parameter.type.erasedName.toList := by
  rw [anchorType, if_pos varargs]
  cases dropped : Text.dropEnd? "[]" parameter.type.erasedName with
  | none => exact ⟨_, rfl, List.Subset.refl _⟩
  | some component =>
      refine ⟨component, rfl, ?_⟩
      rw [Text.dropEnd?_eq_some_iff.mp dropped, String.toList_append]
      exact List.subset_append_left _ _

/-- A parameter that takes any number of values is not spelled like an array. -/
theorem Parameter.anchorType_ne_of_array {left right : Parameter} (varargs : left.varargs = true)
    (not_varargs : right.varargs = false) {component : TypeRef} {annotations : List AnnotationUse}
    (array : right.type = .array component annotations) : left.anchorType ≠ right.anchorType := by
  obtain ⟨front, left_eq, -⟩ := left.exists_anchorType_eq varargs
  have right_eq : right.anchorType = component.erasedName ++ "[]" := by
    rw [Parameter.anchorType, if_neg (by simp [not_varargs]), array]
    rfl
  rw [left_eq, right_eq]
  intro types_eq
  have last_eq := congrArg (fun type => type.toList.getLast?) types_eq
  simp at last_eq

namespace Member

variable {inName inTypes : List Char} {member : Member}

theorem PlainlyNamed.anchorTypes (named : member.PlainlyNamed inName inTypes)
    (points_allowed : '.' ∉ inTypes) :
    ∀ type ∈ member.anchorTypes, type ≠ "" ∧ Text.FreeOf inTypes type := by
  rw [Member.anchorTypes, List.forall_mem_map]
  intro parameter parameter_mem
  have erased_free := named.types_free parameter parameter_mem
  cases varargs : parameter.varargs with
  | false =>
      rw [Parameter.anchorType, if_neg (by simp [varargs])]
      exact ⟨named.types_named parameter parameter_mem, erased_free⟩
  | true =>
      obtain ⟨component, type_eq, component_subset⟩ := parameter.exists_anchorType_eq varargs
      rw [type_eq]
      have component_free : Text.FreeOf inTypes component := fun char char_mem =>
        erased_free char (component_subset char_mem)
      refine ⟨?_, component_free.append ?_⟩
      · rw [ne_eq, String.append_eq_empty_iff]
        simp
      · simpa [Text.FreeOf, points_allowed] using (by decide : isBlank '.' = false)

/-- A method or a constructor. -/
def IsExecutable (member : Member) : Prop :=
  member.kind = .method ∨ member.kind = .constructor

/-- A field, an enum constant or a property. -/
def IsValue (member : Member) : Prop :=
  member.kind = .field ∨ member.kind = .enumConstant ∨ member.kind = .property

/-- A method, a constructor or an annotation element. -/
def IsCalled (member : Member) : Prop :=
  member.IsExecutable ∨ member.kind = .annotationElement

/-- The erased parameter types as an anchor spells them; an annotation element has none. -/
def spelledTypes (member : Member) : List String :=
  if member.kind = .annotationElement then [] else member.anchorTypes

instance (member : Member) : Decidable member.IsExecutable :=
  inferInstanceAs (Decidable (_ ∨ _))

instance (member : Member) : Decidable member.IsValue :=
  inferInstanceAs (Decidable (_ ∨ _))

instance (member : Member) : Decidable member.IsCalled :=
  inferInstanceAs (Decidable (_ ∨ _))

theorem isCalled_iff_not_isValue : member.IsCalled ↔ ¬member.IsValue := by
  unfold IsCalled IsExecutable IsValue
  cases member.kind <;> simp

theorem anchor_of_isValue (value : member.IsValue) : member.anchor = member.name := by
  rw [anchor]
  rcases value with kind_eq | kind_eq | kind_eq
  · rw [kind_eq]
  · rw [kind_eq]
  · rw [kind_eq]

theorem IsExecutable.spelledTypes_eq (executable : member.IsExecutable) :
    member.spelledTypes = member.anchorTypes := by
  rw [spelledTypes, if_neg]
  rcases executable with kind_eq | kind_eq
  · simp [kind_eq]
  · simp [kind_eq]

theorem PlainlyNamed.spelledTypes (named : member.PlainlyNamed inName inTypes)
    (points_allowed : '.' ∉ inTypes) :
    ∀ type ∈ member.spelledTypes, type ≠ "" ∧ Text.FreeOf inTypes type := by
  rw [Member.spelledTypes]
  split
  · exact nofun
  · exact named.anchorTypes points_allowed

theorem PlainlyNamed.spelledTypes_commaFree
    (named : member.PlainlyNamed inName ['(', ')', ',']) :
    ∀ type ∈ member.spelledTypes, type ≠ "" ∧ ',' ∉ type.toList := by
  intro type type_mem
  obtain ⟨type_ne, type_free⟩ := named.spelledTypes (by decide) type type_mem
  exact ⟨type_ne, type_free.not_mem (by simp)⟩

theorem anchor_of_isCalled (called : member.IsCalled)
    (named : member.PlainlyNamed inName inTypes) (points_allowed : '.' ∉ inTypes) :
    member.anchor = member.name ++ "(" ++ Text.join "," member.spelledTypes ++ ")" := by
  rcases called with executable | kind_eq
  · have types_free : ∀ type ∈ member.anchorTypes, Text.FreeOf [] type := by
      intro type type_mem
      exact (named.anchorTypes points_allowed type type_mem).2.mono (List.nil_subset _)
    have name_free : Text.FreeOf [] member.name := named.name_free.mono (List.nil_subset _)
    have anchor_free : Text.FreeOf []
        (member.name ++ "(" ++ Text.join "," member.anchorTypes ++ ")") :=
      ((name_free.append (by decide)).append (.join (by decide) types_free)).append (by decide)
    rw [executable.spelledTypes_eq, ← anchor_free.withoutBlanks_eq, anchor]
    rcases executable with kind_eq | kind_eq
    · rw [kind_eq]
    · rw [kind_eq]
  · have no_types : member.spelledTypes = [] := if_pos kind_eq
    have parentheses : "(" ++ (Text.join "," [] ++ ")") = "()" := by decide
    rw [no_types, String.append_assoc, String.append_assoc, parentheses, anchor, kind_eq]

/-- Two members have one name, and either neither is called or both are, with the same parameter
types. -/
def SharesAnchor (left right : Member) : Prop :=
  left.name = right.name ∧
    (left.IsValue ∧ right.IsValue ∨
      left.IsCalled ∧ right.IsCalled ∧ left.spelledTypes = right.spelledTypes)

instance (left right : Member) : Decidable (left.SharesAnchor right) :=
  inferInstanceAs (Decidable (_ ∧ _))

/-- The anchor of what is not called holds no parenthesis, unlike that of what is. -/
theorem anchor_ne_of_isValue_of_isCalled {value called : Member} (is_value : value.IsValue)
    (is_called : called.IsCalled) (value_named : value.PlainlyNamed ['(', ')', ','] ['(', ')', ','])
    (called_named : called.PlainlyNamed ['(', ')', ','] ['(', ')', ',']) :
    value.anchor ≠ called.anchor := by
  rw [anchor_of_isValue is_value, anchor_of_isCalled is_called called_named (by decide)]
  intro anchors_eq
  have free : '(' ∉ value.name.toList := value_named.name_free.not_mem (by simp)
  rw [anchors_eq] at free
  exact free (by simp)

/-- Two members have one anchor exactly if they share what it shows. -/
theorem anchor_eq_iff_sharesAnchor {left right : Member}
    (left_named : left.PlainlyNamed ['(', ')', ','] ['(', ')', ','])
    (right_named : right.PlainlyNamed ['(', ')', ','] ['(', ')', ',']) :
    left.anchor = right.anchor ↔ left.SharesAnchor right := by
  by_cases left_value : left.IsValue
  · by_cases right_value : right.IsValue
    · rw [anchor_of_isValue left_value, anchor_of_isValue right_value, SharesAnchor]
      simp [left_value, right_value]
    · have right_called := isCalled_iff_not_isValue.mpr right_value
      refine iff_of_false
        (anchor_ne_of_isValue_of_isCalled left_value right_called left_named right_named) ?_
      rintro ⟨-, ⟨-, value⟩ | ⟨called, -⟩⟩
      · exact right_value value
      · exact isCalled_iff_not_isValue.mp called left_value
  · have left_called := isCalled_iff_not_isValue.mpr left_value
    by_cases right_value : right.IsValue
    · refine iff_of_false
        (anchor_ne_of_isValue_of_isCalled right_value left_called right_named left_named).symm ?_
      rintro ⟨-, ⟨value, -⟩ | ⟨-, called, -⟩⟩
      · exact left_value value
      · exact isCalled_iff_not_isValue.mp called right_value
    · have right_called := isCalled_iff_not_isValue.mpr right_value
      rw [anchor_of_isCalled left_called left_named (by decide),
        anchor_of_isCalled right_called right_named (by decide)]
      constructor
      · intro anchors_eq
        have cut_eq := congrArg (Text.cutFirst? '(') anchors_eq
        rw [Text.cutFirst?_called (left_named.name_free.not_mem (by simp)),
          Text.cutFirst?_called (right_named.name_free.not_mem (by simp)), Option.some_inj,
          Prod.mk.injEq, String.append_left_inj] at cut_eq
        refine ⟨cut_eq.1, .inr ⟨left_called, right_called, ?_⟩⟩
        have lists_eq : Text.join (String.singleton ',') left.spelledTypes =
            Text.join (String.singleton ',') right.spelledTypes := cut_eq.2
        exact Text.eq_of_join_eq left_named.spelledTypes_commaFree
          right_named.spelledTypes_commaFree lists_eq
      · rintro ⟨names_eq, ⟨value, -⟩ | ⟨-, -, types_eq⟩⟩
        · exact absurd value left_value
        · rw [names_eq, types_eq]

end Member
end RefDocs
