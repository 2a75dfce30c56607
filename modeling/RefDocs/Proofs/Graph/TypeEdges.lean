import RefDocs.Proofs.Graph.Building

/-!
# Superclasses, subclasses and implementors

A known type is below the known type that its superclass reference names, and implements the known
types that its interfaces name.  Subclasses and implementors are these relations read backwards,
and the way up from a type ends.
-/

namespace RefDocs

/-- A reference names a declared type, directly or as the component of arrays. -/
inductive TypeRef.Names (name : String) : TypeRef → Prop where
  | declared {arguments : List TypeRef} {enclosing : Option TypeRef}
      {annotations : List AnnotationUse} :
      TypeRef.Names name (.declared name arguments enclosing annotations)
  | array {component : TypeRef} {annotations : List AnnotationUse}
      (names : TypeRef.Names name component) : TypeRef.Names name (.array component annotations)

theorem TypeRef.declaredName?_eq_some_iff {name : String} {reference : TypeRef} :
    reference.declaredName? = some name ↔ reference.Names name := by
  constructor
  · intro named
    induction reference using TypeRef.declaredName?.induct with
    | case1 other arguments enclosing annotations =>
        obtain rfl : other = name := Option.some.inj named
        exact .declared
    | case2 component annotations ih => exact .array (ih named)
    | case3 reference not_declared not_array =>
        rw [TypeRef.declaredName?] at named
        · cases named
        · exact not_declared
        · exact not_array
  · intro names
    induction names with
    | declared => rfl
    | array _ ih => exact ih

/-- The superclass reference of a type names another type. -/
def TypeDecl.Subclasses (decl superType : TypeDecl) : Prop :=
  ∃ reference, decl.superclass = some reference ∧ reference.Names superType.qualifiedName

/-- One of the interfaces of a type names another type. -/
def TypeDecl.Implements (decl interface : TypeDecl) : Prop :=
  ∃ reference ∈ decl.interfaces, reference.Names interface.qualifiedName

theorem TypeDecl.superName?_eq_some_iff {decl superType : TypeDecl} :
    decl.superName? = some superType.qualifiedName ↔ decl.Subclasses superType := by
  simp only [TypeDecl.superName?, Option.bind_eq_some_iff, TypeRef.declaredName?_eq_some_iff,
    TypeDecl.Subclasses]

namespace Graph

variable {graph : Graph} {decl superType interface : TypeDecl}

theorem directSuperType?_eq_some_iff (sound : Sound graph.packages graph.types) :
    graph.directSuperType? decl = some superType ↔
      superType ∈ graph.types ∧ decl.included = true ∧ superType.included = true ∧
        decl.Subclasses superType := by
  rw [directSuperType?]
  split
  · rename_i known
    rw [Option.filter_eq_some_iff, Option.bind_eq_some_iff, ← TypeDecl.superName?_eq_some_iff]
    simp only [type?, sound.findType?_eq_some_iff, known, true_and]
    constructor
    · rintro ⟨⟨name, name_eq, declared, rfl⟩, super_known⟩
      exact ⟨declared, super_known, name_eq⟩
    · rintro ⟨declared, super_known, name_eq⟩
      exact ⟨⟨_, name_eq, declared, rfl⟩, super_known⟩
  · rename_i unknown
    simp [unknown]

theorem mem_directSubtypes_iff (sound : Sound graph.packages graph.types)
    (superType_mem : superType ∈ graph.types) :
    decl ∈ graph.directSubtypes superType.qualifiedName ↔
      decl ∈ graph.types ∧ graph.directSuperType? decl = some superType := by
  rw [directSubtypes, List.mem_filter, Option.any_eq_true]
  refine and_congr_right fun _ => ⟨?_, ?_⟩
  · rintro ⟨found, found_eq, name_eq⟩
    have found_mem := ((directSuperType?_eq_some_iff sound).mp found_eq).1
    obtain rfl : found = superType :=
      List.inj_on_of_nodup_map sound.types_distinct found_mem superType_mem (beq_iff_eq.mp name_eq)
    exact found_eq
  · intro found_eq
    exact ⟨superType, found_eq, beq_self_eq_true _⟩

theorem mem_directImplementors_iff (sound : Sound graph.packages graph.types)
    (interface_mem : interface ∈ graph.types) :
    decl ∈ graph.directImplementors interface.qualifiedName ↔
      decl ∈ graph.types ∧ decl.included = true ∧ interface.included = true ∧
        decl.Implements interface := by
  have found : graph.type? interface.qualifiedName = some interface :=
    sound.findType?_eq_some_iff.mpr ⟨interface_mem, rfl⟩
  rw [directImplementors, List.mem_filter, knowsType, found]
  simp [TypeDecl.Implements, TypeRef.declaredName?_eq_some_iff, and_assoc]

/-- Types above or below others are known, and so are those that they are above or below. -/
theorem known_of_mem_directSubtypes (sound : Sound graph.packages graph.types) {name : String}
    (decl_mem : decl ∈ graph.directSubtypes name) :
    decl ∈ graph.knownTypes ∧ ∃ superType ∈ graph.knownTypes, superType.qualifiedName = name := by
  obtain ⟨decl_declared, has_super⟩ := List.mem_filter.mp decl_mem
  obtain ⟨superType, found_eq, name_eq⟩ := (Option.any_eq_true _ _).mp has_super
  obtain ⟨super_declared, decl_known, super_known, -⟩ :=
    (directSuperType?_eq_some_iff sound).mp found_eq
  exact ⟨List.mem_filter.mpr ⟨decl_declared, decl_known⟩, superType,
    List.mem_filter.mpr ⟨super_declared, super_known⟩, beq_iff_eq.mp name_eq⟩

theorem known_of_mem_directImplementors {name : String}
    (decl_mem : decl ∈ graph.directImplementors name) :
    decl ∈ graph.knownTypes ∧ ∃ interface ∈ graph.knownTypes, interface.qualifiedName = name := by
  obtain ⟨decl_declared, implements⟩ := List.mem_filter.mp decl_mem
  simp only [Bool.and_eq_true] at implements
  obtain ⟨interface, found, interface_known⟩ := (Option.any_eq_true _ _).mp implements.1.2
  obtain ⟨interface_declared, name_eq⟩ := mem_of_findType? found
  exact ⟨List.mem_filter.mpr ⟨decl_declared, implements.1.1⟩, interface,
    List.mem_filter.mpr ⟨interface_declared, interface_known⟩, name_eq⟩

/-- The way up over known superclasses ends, since the way up over declared ones does. -/
theorem ends_directSuperType? (sound : Sound graph.packages graph.types)
    (decl_mem : decl ∈ graph.types) : Ends graph.directSuperType? decl := by
  have none_found : superclassCycle? graph.types = none :=
    (superclassCycle?_eq_none_iff sound.types_distinct).mpr sound.superclasses_acyclic
  have name_ends := ends_of_superclassCycle?_eq_none none_found decl_mem
  generalize name_eq : decl.qualifiedName = name at name_ends
  induction name_ends generalizing decl with
  | intro name _ ih =>
      refine Acc.intro decl fun superType step => ?_
      obtain ⟨super_mem, -, -, reference, reference_eq, names⟩ :=
        (directSuperType?_eq_some_iff sound).mp step
      have super_name : decl.superName? = some superType.qualifiedName :=
        TypeDecl.superName?_eq_some_iff.mpr ⟨reference, reference_eq, names⟩
      refine ih superType.qualifiedName ?_ super_mem rfl
      exact declaredSuperName?_eq_some_iff.mpr ⟨decl,
        sound.findType?_eq_some_iff.mpr ⟨decl_mem, name_eq⟩, super_name, superType, super_mem, rfl⟩

variable {snapshot : Snapshot} {rootType : String}

/-- In a graph that was built, the type above a known type is the known type that its superclass
reference names.  Its subclasses are the types that it is above, and its implementors the known
types of which an interface names it.  Both ends of such relations are known, and the way up from a
type ends. -/
theorem directSuperType?_iff_and_inverse_and_ends
    (built : build snapshot rootType = .ok graph) :
    (∀ a ∈ graph.types, ∀ b ∈ graph.types,
      (graph.directSuperType? a = some b ↔
        a.included = true ∧ b.included = true ∧ a.Subclasses b) ∧
      (a ∈ graph.directSubtypes b.qualifiedName ↔ graph.directSuperType? a = some b) ∧
      (a ∈ graph.directImplementors b.qualifiedName ↔
        a.included = true ∧ b.included = true ∧ a.Implements b)) ∧
    (∀ a ∈ graph.types, ∀ b, graph.directSuperType? a = some b →
      a ∈ graph.knownTypes ∧ b ∈ graph.knownTypes) ∧
    (∀ name, ∀ a ∈ graph.directSubtypes name ++ graph.directImplementors name,
      a ∈ graph.knownTypes ∧ ∃ b ∈ graph.knownTypes, b.qualifiedName = name) ∧
    ∀ a ∈ graph.types, Ends graph.directSuperType? a := by
  obtain ⟨-, -, sound⟩ := sound_of_build built
  refine ⟨?_, ?_, ?_, fun a a_mem => ends_directSuperType? sound a_mem⟩
  · intro a a_mem b b_mem
    refine ⟨?_, ?_, ?_⟩
    · rw [directSuperType?_eq_some_iff sound]
      simp [b_mem]
    · rw [mem_directSubtypes_iff sound b_mem]
      simp [a_mem]
    · rw [mem_directImplementors_iff sound b_mem]
      simp [a_mem]
  · intro a a_mem b found_eq
    obtain ⟨b_mem, a_known, b_known, -⟩ := (directSuperType?_eq_some_iff sound).mp found_eq
    exact ⟨List.mem_filter.mpr ⟨a_mem, a_known⟩, List.mem_filter.mpr ⟨b_mem, b_known⟩⟩
  · intro name a a_mem
    rcases List.mem_append.mp a_mem with below | implements
    · exact known_of_mem_directSubtypes sound below
    · exact known_of_mem_directImplementors implements

/-- A class under a known one that implements a known interface, under an interface that is not
known, and an excluded class under the known one. -/
def hierarchySnapshot : Snapshot where
  packages := [{ name := "shop" }]
  types :=
    [{ qualifiedName := "shop.Cart", simpleName := "Cart", kind := .classType
       enclosing := .package "shop"
       superclass := some (.array (.declared "shop.Base" [] none []) [])
       interfaces := [.declared "shop.Store" [] none [], .declared "shop.Hidden" [] none []] },
     { qualifiedName := "shop.Base", simpleName := "Base", kind := .classType
       enclosing := .package "shop" },
     { qualifiedName := "shop.Old", simpleName := "Old", kind := .classType
       enclosing := .package "shop", superclass := some (.declared "shop.Base" [] none [])
       included := false },
     { qualifiedName := "shop.Hidden", simpleName := "Hidden", kind := .interfaceType
       enclosing := .package "shop", included := false },
     { qualifiedName := "shop.Store", simpleName := "Store", kind := .interfaceType
       enclosing := .package "shop" }]

theorem directSuperType?_hierarchy : ∃ graph : Graph,
    build hierarchySnapshot defaultRootType = .ok graph ∧
      (∀ a ∈ graph.types, ∀ b ∈ graph.types,
        graph.directSuperType? a = some b ↔
          a.included = true ∧ b.included = true ∧ a.Subclasses b) ∧
      (graph.directSubtypes "shop.Base").map TypeDecl.qualifiedName = ["shop.Cart"] ∧
      (graph.directImplementors "shop.Store").map TypeDecl.qualifiedName = ["shop.Cart"] ∧
      graph.directImplementors "shop.Hidden" = [] := by
  refine ⟨_, rfl, ?_, rfl, rfl, rfl⟩
  have edges :=
    (@directSuperType?_iff_and_inverse_and_ends _ hierarchySnapshot defaultRootType rfl).1
  exact fun a a_mem b b_mem => (edges a a_mem b b_mem).1

end Graph
end RefDocs
