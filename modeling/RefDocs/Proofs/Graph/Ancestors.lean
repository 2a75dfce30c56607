import RefDocs.Proofs.Graph.TypeEdges
import RefDocs.Proofs.Outcome

/-!
# The way up from a class

The superclasses above a class are found by following superclass references, where those that are
not visible are passed over.  Where no class is above itself, this comes to an end without running
into a class that it has passed, so the ancestors of a class are the superclasses shown above it.
-/

namespace RefDocs
namespace Graph

/-- The superclasses that are shown above a superclass reference, nearest first. -/
inductive ShowsAbove (graph : Graph) : Option TypeRef → List TypeRef → Prop where
  /-- There is no reference. -/
  | nothing : graph.ShowsAbove none []
  /-- A reference that names no type ends the way. -/
  | unnamed {reference : TypeRef} (unnamed : ∀ name, ¬reference.Names name) :
      graph.ShowsAbove (some reference) []
  /-- A type that is not declared is shown and ends the way. -/
  | undeclared {reference : TypeRef} {name : String} (names : reference.Names name)
      (undeclared : ¬DeclaresType graph.types name) :
      graph.ShowsAbove (some reference) [reference]
  /-- A visible type is shown, and the way goes on from it. -/
  | visible {reference : TypeRef} {decl : TypeDecl} {above : List TypeRef}
      (names : reference.Names decl.qualifiedName) (decl_mem : decl ∈ graph.types)
      (visible : graph.isVisible decl.qualifiedName = true)
      (shows : graph.ShowsAbove decl.superclass above) :
      graph.ShowsAbove (some reference) (reference :: above)
  /-- A type that is not visible is passed over, and the way goes on from it. -/
  | hidden {reference : TypeRef} {decl : TypeDecl} {above : List TypeRef}
      (names : reference.Names decl.qualifiedName) (decl_mem : decl ∈ graph.types)
      (hidden : graph.isVisible decl.qualifiedName = false)
      (shows : graph.ShowsAbove decl.superclass above) :
      graph.ShowsAbove (some reference) above

variable {graph : Graph} {superclass : Option TypeRef} {above : List TypeRef}

/-! ## The way up ends -/

/-- What is shown above a reference is that above the declared type it names, if it names one. -/
theorem exists_showsAbove_of_forall
    (above_decl : ∀ reference, superclass = some reference → ∀ decl ∈ graph.types,
      reference.Names decl.qualifiedName → ∃ above, graph.ShowsAbove decl.superclass above) :
    ∃ above, graph.ShowsAbove superclass above := by
  cases superclass with
  | none => exact ⟨[], .nothing⟩
  | some reference =>
      cases name_eq : reference.declaredName? with
      | none =>
          refine ⟨[], .unnamed fun name names => ?_⟩
          rw [← TypeRef.declaredName?_eq_some_iff, name_eq] at names
          cases names
      | some name =>
          have names := TypeRef.declaredName?_eq_some_iff.mp name_eq
          by_cases declared : DeclaresType graph.types name
          · obtain ⟨decl, decl_mem, rfl⟩ := declared
            obtain ⟨above, shows⟩ := above_decl reference rfl decl decl_mem names
            cases visible : graph.isVisible decl.qualifiedName with
            | true => exact ⟨reference :: above, .visible names decl_mem visible shows⟩
            | false => exact ⟨above, .hidden names decl_mem visible shows⟩
          · exact ⟨[reference], .undeclared names declared⟩

theorem declaredSuperName?_of_names (sound : Sound graph.packages graph.types)
    {decl superType : TypeDecl} {reference : TypeRef} (decl_mem : decl ∈ graph.types)
    (superType_mem : superType ∈ graph.types) (superclass_eq : decl.superclass = some reference)
    (names : reference.Names superType.qualifiedName) :
    StepsTo (declaredSuperName? graph.types) decl.qualifiedName superType.qualifiedName :=
  declaredSuperName?_eq_some_iff.mpr ⟨decl, sound.findType?_eq_some_iff.mpr ⟨decl_mem, rfl⟩,
    TypeDecl.superName?_eq_some_iff.mpr ⟨reference, superclass_eq, names⟩,
    superType, superType_mem, rfl⟩

theorem exists_showsAbove_decl (sound : Sound graph.packages graph.types) {decl : TypeDecl}
    (decl_mem : decl ∈ graph.types) : ∃ above, graph.ShowsAbove decl.superclass above := by
  have none_found : superclassCycle? graph.types = none :=
    (superclassCycle?_eq_none_iff sound.types_distinct).mpr sound.superclasses_acyclic
  have name_ends := ends_of_superclassCycle?_eq_none none_found decl_mem
  generalize name_eq : decl.qualifiedName = name at name_ends
  induction name_ends generalizing decl with
  | intro name _ ih =>
      subst name_eq
      apply exists_showsAbove_of_forall
      intro reference superclass_eq superType superType_mem names
      have step := declaredSuperName?_of_names sound decl_mem superType_mem superclass_eq names
      exact ih superType.qualifiedName step superType_mem rfl

theorem exists_showsAbove (sound : Sound graph.packages graph.types)
    (superclass : Option TypeRef) : ∃ above, graph.ShowsAbove superclass above := by
  apply exists_showsAbove_of_forall
  intro _ _ decl decl_mem _
  exact exists_showsAbove_decl sound decl_mem

/-! ## The search follows it -/

/-- The search has come to a superclass reference by way of the given types, latest first. -/
def HasCome (graph : Graph) (seen : List String) (superclass : Option TypeRef) : Prop :=
  ∀ reference, superclass = some reference → ∀ decl ∈ graph.types,
    reference.Names decl.qualifiedName →
      Trail (declaredSuperName? graph.types) (graph.types.map TypeDecl.qualifiedName) seen
        decl.qualifiedName

theorem hasCome_start (graph : Graph) (superclass : Option TypeRef) :
    graph.HasCome [] superclass :=
  fun _ _ decl _ _ => Trail.start _ _ decl.qualifiedName

/-- A search that comes to a declared type has not passed it, and comes to its superclass. -/
theorem HasCome.step (sound : Sound graph.packages graph.types) {seen : List String}
    {reference : TypeRef} (come : graph.HasCome seen (some reference)) {decl : TypeDecl}
    (decl_mem : decl ∈ graph.types) (names : reference.Names decl.qualifiedName) :
    decl.qualifiedName ∉ seen ∧ seen.length < graph.types.length ∧
      graph.HasCome (decl.qualifiedName :: seen) decl.superclass := by
  have trail := come reference rfl decl decl_mem names
  have none_found : superclassCycle? graph.types = none :=
    (superclassCycle?_eq_none_iff sound.types_distinct).mpr sound.superclasses_acyclic
  have name_new := trail.not_mem_of_ends (ends_of_superclassCycle?_eq_none none_found decl_mem)
  have name_mem : decl.qualifiedName ∈ graph.types.map TypeDecl.qualifiedName :=
    List.mem_map_of_mem decl_mem
  have seen_lt := trail.length_lt name_mem name_new
  rw [List.length_map] at seen_lt
  refine ⟨name_new, seen_lt, ?_⟩
  intro superReference superclass_eq superType superType_mem super_names
  exact trail.extend name_mem name_new
    (declaredSuperName?_of_names sound decl_mem superType_mem superclass_eq super_names)

/-- At a declared type that it has not passed, the search takes what it finds above the type. -/
theorem visibleSuperclasses_of_names (sound : Sound graph.packages graph.types) {steps : Nat}
    {seen : List String} {reference : TypeRef} {decl : TypeDecl} (decl_mem : decl ∈ graph.types)
    (names : reference.Names decl.qualifiedName) (name_new : decl.qualifiedName ∉ seen)
    (above_eq : graph.visibleSuperclasses steps (decl.qualifiedName :: seen) decl.superclass =
      .ok above) :
    graph.visibleSuperclasses (steps + 1) seen (some reference) =
      .ok (if graph.isVisible decl.qualifiedName then reference :: above else above) := by
  have name_eq := TypeRef.declaredName?_eq_some_iff.mpr names
  have found := sound.findType?_eq_some_iff.mpr ⟨decl_mem, rfl⟩
  simp only [visibleSuperclasses, name_eq, type?, found, List.contains_eq_mem, name_new,
    decide_false, Bool.false_eq_true, if_false, above_eq, ok_bind]
  rfl

/-- With more steps left than types are declared and not yet passed, the search finds what is
shown above a reference. -/
theorem ShowsAbove.visibleSuperclasses_eq (sound : Sound graph.packages graph.types)
    (shows : graph.ShowsAbove superclass above) {steps : Nat} {seen : List String}
    (come : graph.HasCome seen superclass) (seen_le : seen.length ≤ graph.types.length)
    (enough : graph.types.length < seen.length + steps) :
    graph.visibleSuperclasses steps seen superclass = .ok above := by
  induction shows generalizing steps seen with
  | nothing => cases steps <;> rfl
  | @unnamed reference unnamed =>
      obtain ⟨steps, rfl⟩ : ∃ fewer, steps = fewer + 1 := ⟨steps - 1, by omega⟩
      have name_eq : reference.declaredName? = none :=
        Option.eq_none_iff_forall_ne_some.mpr fun name named =>
          unnamed name (TypeRef.declaredName?_eq_some_iff.mp named)
      simp only [visibleSuperclasses, name_eq]
  | undeclared names undeclared =>
      obtain ⟨steps, rfl⟩ : ∃ fewer, steps = fewer + 1 := ⟨steps - 1, by omega⟩
      have name_eq := TypeRef.declaredName?_eq_some_iff.mpr names
      have missing := findType?_eq_none_iff.mpr undeclared
      simp only [visibleSuperclasses, name_eq, type?, missing]
  | @visible reference decl above names decl_mem visible _ ih =>
      obtain ⟨steps, rfl⟩ : ∃ fewer, steps = fewer + 1 := ⟨steps - 1, by omega⟩
      obtain ⟨name_new, seen_lt, come_on⟩ := come.step sound decl_mem names
      have above_eq := @ih steps _ come_on seen_lt (by rw [List.length_cons]; omega)
      rw [visibleSuperclasses_of_names sound decl_mem names name_new above_eq, if_pos visible]
  | @hidden reference decl above names decl_mem hidden _ ih =>
      obtain ⟨steps, rfl⟩ : ∃ fewer, steps = fewer + 1 := ⟨steps - 1, by omega⟩
      obtain ⟨name_new, seen_lt, come_on⟩ := come.step sound decl_mem names
      have above_eq := @ih steps _ come_on seen_lt (by rw [List.length_cons]; omega)
      rw [visibleSuperclasses_of_names sound decl_mem names name_new above_eq,
        if_neg (by simp [hidden])]

theorem ShowsAbove.ancestors_eq (sound : Sound graph.packages graph.types) {decl : TypeDecl}
    (shows : graph.ShowsAbove decl.superclass above) :
    graph.ancestors decl = .ok above.reverse := by
  have found_eq : graph.visibleSuperclasses (graph.types.length + 1) [] decl.superclass =
      .ok above :=
    shows.visibleSuperclasses_eq sound (hasCome_start graph _) (Nat.zero_le _) (by simp)
  rw [ancestors, found_eq]
  rfl

/-- In a graph that was built, no walk over superclasses fails. -/
theorem exists_ancestors (sound : Sound graph.packages graph.types) (decl : TypeDecl) :
    ∃ ancestors, graph.ancestors decl = .ok ancestors := by
  obtain ⟨above, shows⟩ := exists_showsAbove sound decl.superclass
  exact ⟨above.reverse, shows.ancestors_eq sound⟩

/-- In a graph that was built, the ancestors of a type are found, and are the superclasses shown
above it in reverse.  There is one way up, so these are all that can be shown. -/
theorem exists_ancestors_eq_reverse {snapshot : Snapshot} {rootType : String}
    (built : build snapshot rootType = .ok graph) (decl : TypeDecl) :
    ∃ above, graph.ancestors decl = .ok above.reverse ∧
      ∀ other, graph.ShowsAbove decl.superclass other ↔ other = above := by
  obtain ⟨-, -, sound⟩ := sound_of_build built
  obtain ⟨above, shows⟩ := exists_showsAbove sound decl.superclass
  refine ⟨above, shows.ancestors_eq sound, fun other => ⟨?_, ?_⟩⟩
  · intro other_shows
    have chains_eq := (other_shows.ancestors_eq sound).symm.trans (shows.ancestors_eq sound)
    exact List.reverse_injective (Except.ok.inj chains_eq)
  · rintro rfl
    exact shows

/-- A class under two that are left out, one of them public, and above these a known class under one
that is not declared. -/
def descentSnapshot : Snapshot where
  packages := [{ name := "shop" }]
  types :=
    [{ qualifiedName := "shop.Cart", simpleName := "Cart", kind := .classType
       enclosing := .package "shop", superclass := some (.named "shop.Draft") },
     { qualifiedName := "shop.Draft", simpleName := "Draft", kind := .classType
       enclosing := .package "shop", superclass := some (.array (.named "shop.Plan") [])
       included := false },
     { qualifiedName := "shop.Plan", simpleName := "Plan", kind := .classType
       enclosing := .package "shop", superclass := some (.named "shop.Base")
       modifiers := [.isPublic], included := false },
     { qualifiedName := "shop.Base", simpleName := "Base", kind := .classType
       enclosing := .package "shop", superclass := some (.named "stock.Item") }]

theorem showsAbove_descent : ∃ graph : Graph,
    build descentSnapshot defaultRootType = .ok graph ∧
      graph.ShowsAbove (some (.named "shop.Draft"))
        [.array (.named "shop.Plan") [], .named "shop.Base", .named "stock.Item"] := by
  refine ⟨_, rfl, ?_⟩
  obtain ⟨above, above_eq, shows_iff⟩ :=
    @exists_ancestors_eq_reverse _ descentSnapshot defaultRootType rfl descentSnapshot.types[0]
  apply (shows_iff _).mpr
  apply List.reverse_injective
  exact Except.ok.inj above_eq

end Graph
end RefDocs
