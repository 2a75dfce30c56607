import RefDocs.Member.Anchor
import RefDocs.Proofs.Graph.Enclosing
import RefDocs.Proofs.Related

/-!
# Declarations that others see alike

Other declarations show of a package or type no more than its outline, and link to the members of a
known type.  Two graphs whose declarations agree in this have the same relations between them.
-/

namespace RefDocs

/-- What other declarations show of a package: all but its annotations and comment. -/
def PackageDecl.outline (decl : PackageDecl) : PackageDecl :=
  { decl with annotations := [], doc := [] }

/-- What other declarations show of a type: all but its annotations, members, deprecation and
comment. -/
def TypeDecl.outline (decl : TypeDecl) : TypeDecl :=
  { decl with annotations := [], members := [], deprecated := none, doc := [] }

/-- Two packages that other declarations show alike. -/
def PackageDecl.Alike (decl decl' : PackageDecl) : Prop :=
  decl.outline = decl'.outline

/-- Two types that other declarations show alike.  If they are known, references lead to members
with the same anchors. -/
structure TypeDecl.Alike (decl decl' : TypeDecl) : Prop where
  /-- The types differ at most in what others do not show. -/
  outline_eq : decl.outline = decl'.outline
  /-- References to members of known types have the same anchors. -/
  anchor_eq : decl.included = true → Reference.anchor decl = Reference.anchor decl'

/-- Two graphs whose declarations other declarations show alike. -/
structure Graph.Alike (graph graph' : Graph) : Prop where
  /-- The hierarchy has the same root. -/
  rootType_eq : graph.rootType = graph'.rootType
  /-- The same annotation types declared elsewhere are shown. -/
  mem_shownElsewhere_iff : ∀ name, name ∈ graph.shownElsewhere ↔ name ∈ graph'.shownElsewhere
  /-- The packages are alike, place by place. -/
  packages : List.Forall₂ PackageDecl.Alike graph.packages graph'.packages
  /-- The types are alike, place by place. -/
  types : List.Forall₂ TypeDecl.Alike graph.types graph'.types

/-- What is read off the outline of a package is the same for packages that are alike. -/
theorem PackageDecl.Alike.same {decl decl' : PackageDecl} (alike : decl.Alike decl') {Value : Type}
    (read : PackageDecl → Value)
    (read_outline : ∀ decl : PackageDecl, read decl.outline = read decl) :
    read decl = read decl' :=
  read_eq_of_reduce_eq alike read read_outline

/-- What is read off the outline of a type is the same for types that are alike. -/
theorem TypeDecl.Alike.same {decl decl' : TypeDecl} (alike : decl.Alike decl') {Value : Type}
    (read : TypeDecl → Value)
    (read_outline : ∀ decl : TypeDecl, read decl.outline = read decl) :
    read decl = read decl' :=
  read_eq_of_reduce_eq alike.outline_eq read read_outline

theorem PackageDecl.Alike.name_eq {decl decl' : PackageDecl} (alike : decl.Alike decl') :
    decl.name = decl'.name :=
  alike.same PackageDecl.name fun _ => rfl

theorem PackageDecl.Alike.included_eq {decl decl' : PackageDecl} (alike : decl.Alike decl') :
    decl.included = decl'.included :=
  alike.same PackageDecl.included fun _ => rfl

theorem TypeDecl.Alike.qualifiedName_eq {decl decl' : TypeDecl} (alike : decl.Alike decl') :
    decl.qualifiedName = decl'.qualifiedName :=
  alike.same TypeDecl.qualifiedName fun _ => rfl

theorem TypeDecl.Alike.included_eq {decl decl' : TypeDecl} (alike : decl.Alike decl') :
    decl.included = decl'.included :=
  alike.same TypeDecl.included fun _ => rfl

theorem TypeDecl.Alike.isInterface_eq {decl decl' : TypeDecl} (alike : decl.Alike decl') :
    decl.isInterface = decl'.isInterface :=
  alike.same TypeDecl.isInterface fun _ => rfl

/-! ## Enclosing chains -/

section Outward

variable {types types' : List TypeDecl} {decl decl' : TypeDecl}

theorem optionRel_findType? (types_alike : List.Forall₂ TypeDecl.Alike types types')
    (name : String) : Option.Rel TypeDecl.Alike (findType? types name) (findType? types' name) :=
  optionRel_find? types_alike fun decl decl' alike => by rw [alike.qualifiedName_eq]

theorem optionRel_outerType? (types_alike : List.Forall₂ TypeDecl.Alike types types')
    (alike : decl.Alike decl') :
    Option.Rel TypeDecl.Alike (outerType? types decl) (outerType? types' decl') := by
  rw [outerType?, outerType?, alike.same TypeDecl.enclosingType? fun _ => rfl]
  cases decl'.enclosingType? with
  | none => exact .none
  | some name => exact optionRel_findType? types_alike name

theorem forall₂_outward (types_alike : List.Forall₂ TypeDecl.Alike types types')
    (alike : decl.Alike decl') (steps : Nat) :
    List.Forall₂ TypeDecl.Alike (outward types steps decl) (outward types' steps decl') := by
  -- On the steps: the enclosing types are found in both lists or in neither.
  induction steps generalizing decl decl' with
  | zero => exact .cons alike .nil
  | succ steps ih =>
      rw [outward_succ, outward_succ]
      rcases optionRel_iff.mp (optionRel_outerType? types_alike alike) with
        ⟨outer_eq, outer_eq'⟩ | ⟨outer, outer', outer_eq, outer_eq', outer_alike⟩
      · rw [outer_eq, outer_eq']
        exact .cons alike .nil
      · rw [outer_eq, outer_eq']
        exact .cons alike (ih outer_alike)

theorem ownerOf_eq_of_alike (types_alike : List.Forall₂ TypeDecl.Alike types types')
    (alike : decl.Alike decl') : ownerOf types decl = ownerOf types' decl' := by
  have enclosing_eq := map_eq_of_forall₂ (forall₂_outward types_alike alike types.length)
    fun _ _ outer_alike => outer_alike.same TypeDecl.enclosing fun _ => rfl
  rw [ownerOf, ownerOf, ← List.getLast?_map, ← List.getLast?_map, enclosing_eq,
    types_alike.length_eq]

end Outward

namespace Graph.Alike

variable {graph graph' : Graph} {decl decl' : TypeDecl}

/-! ## Looking declarations up -/

theorem rel_type? (alike : graph.Alike graph') (name : String) :
    Option.Rel TypeDecl.Alike (graph.type? name) (graph'.type? name) :=
  optionRel_findType? alike.types name

theorem rel_package? (alike : graph.Alike graph') (name : String) :
    Option.Rel PackageDecl.Alike (graph.package? name) (graph'.package? name) :=
  optionRel_find? alike.packages fun decl decl' decl_alike => by rw [decl_alike.name_eq]

theorem knowsType_eq (alike : graph.Alike graph') : graph.knowsType = graph'.knowsType :=
  funext fun name =>
    any_eq_of_optionRel (alike.rel_type? name) fun _ _ decl_alike => decl_alike.included_eq

theorem knowsPackage_eq (alike : graph.Alike graph') :
    graph.knowsPackage = graph'.knowsPackage :=
  funext fun name =>
    any_eq_of_optionRel (alike.rel_package? name) fun _ _ decl_alike => decl_alike.included_eq

theorem isVisible_eq (alike : graph.Alike graph') : graph.isVisible = graph'.isVisible := by
  refine funext fun name => all_eq_of_optionRel (alike.rel_type? name) ?_
  intro decl decl' decl_alike
  rw [decl_alike.included_eq, decl_alike.same TypeDecl.hidden fun _ => rfl,
    decl_alike.same TypeDecl.modifiers fun _ => rfl]

theorem showsAnnotation_eq (alike : graph.Alike graph') :
    graph.showsAnnotation = graph'.showsAnnotation := by
  funext name
  have declared_eq := any_eq_of_forall₂ (p := fun decl => decl.kind = .annotationType &&
      decl.documented && decl.qualifiedName == name) alike.types fun decl decl' decl_alike => by
    rw [decl_alike.qualifiedName_eq, decl_alike.same TypeDecl.kind fun _ => rfl,
      decl_alike.same TypeDecl.documented fun _ => rfl]
  have elsewhere_eq : graph.shownElsewhere.contains name = graph'.shownElsewhere.contains name := by
    rw [Bool.eq_iff_iff, List.contains_iff_mem, List.contains_iff_mem]
    exact alike.mem_shownElsewhere_iff name
  unfold showsAnnotation
  rw [declared_eq, elsewhere_eq]

theorem ownerName_eq (alike : graph.Alike graph') (decl_alike : decl.Alike decl') :
    graph.ownerName decl = graph'.ownerName decl' :=
  ownerOf_eq_of_alike alike.types decl_alike

theorem forall₂_enclosingChain (alike : graph.Alike graph') (decl_alike : decl.Alike decl') :
    List.Forall₂ TypeDecl.Alike (graph.enclosingChain decl) (graph'.enclosingChain decl') := by
  rw [enclosingChain, enclosingChain, ← alike.types.length_eq]
  exact forall₂_outward alike.types decl_alike graph.types.length

/-! ## Relations between types -/

theorem rel_directSuperType? (alike : graph.Alike graph') (decl_alike : decl.Alike decl') :
    Option.Rel TypeDecl.Alike (graph.directSuperType? decl) (graph'.directSuperType? decl') := by
  rw [directSuperType?, directSuperType?, decl_alike.included_eq,
    decl_alike.same TypeDecl.superName? fun _ => rfl]
  split
  · have found : Option.Rel TypeDecl.Alike (decl'.superName?.bind graph.type?)
        (decl'.superName?.bind graph'.type?) := by
      cases decl'.superName? with
      | none => exact .none
      | some name => exact alike.rel_type? name
    refine optionRel_mono (optionRel_filter found fun _ _ super_alike => ?_) fun _ _ kept => kept.1
    exact super_alike.included_eq
  · exact .none

theorem forall₂_directSubtypes (alike : graph.Alike graph') (name : String) :
    List.Forall₂ TypeDecl.Alike (graph.directSubtypes name) (graph'.directSubtypes name) := by
  refine (forall₂_filter alike.types fun decl decl' decl_alike => ?_).imp fun _ _ kept => kept.1
  refine any_eq_of_optionRel (alike.rel_directSuperType? decl_alike) ?_
  intro superType superType' super_alike
  rw [super_alike.qualifiedName_eq]

theorem forall₂_directImplementors (alike : graph.Alike graph') (name : String) :
    List.Forall₂ TypeDecl.Alike (graph.directImplementors name)
      (graph'.directImplementors name) := by
  refine (forall₂_filter alike.types fun decl decl' decl_alike => ?_).imp fun _ _ kept => kept.1
  rw [decl_alike.included_eq, decl_alike.same TypeDecl.interfaces fun _ => rfl, alike.knowsType_eq]

/-- The ways up from a superclass show the same superclasses. -/
theorem visibleSuperclasses_eq (alike : graph.Alike graph') :
    graph.visibleSuperclasses = graph'.visibleSuperclasses := by
  funext steps seen superclass
  -- On the steps: the way leads on by the superclass of a declared type, which its outline has.
  induction steps generalizing seen superclass with
  | zero => rfl
  | succ steps ih =>
      cases superclass with
      | none => rfl
      | some reference =>
          rw [visibleSuperclasses, visibleSuperclasses]
          cases reference.declaredName? with
          | none => rfl
          | some name =>
              rcases optionRel_iff.mp (alike.rel_type? name) with
                ⟨found_eq, found_eq'⟩ | ⟨decl, decl', found_eq, found_eq', decl_alike⟩
              · simp only [found_eq, found_eq']
              · have superclass_eq := decl_alike.same TypeDecl.superclass fun _ => rfl
                simp only [found_eq, found_eq', superclass_eq, ih, alike.isVisible_eq]

theorem ancestors_eq (alike : graph.Alike graph') (decl_alike : decl.Alike decl') :
    graph.ancestors decl = graph'.ancestors decl' := by
  rw [ancestors, ancestors, alike.visibleSuperclasses_eq, alike.types.length_eq,
    decl_alike.same TypeDecl.superclass fun _ => rfl]

end Graph.Alike
end RefDocs
