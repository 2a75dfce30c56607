import RefDocs.Proofs.Graph.Soundness

/-!
# Building a graph

Each check of the declarations finds the least offence against one condition, and finds none exactly
if the condition holds.  The checks together decide whether the declarations are sound.
-/

namespace RefDocs

/-! ## Dangling references -/

theorem findType?_eq_none_iff {types : List TypeDecl} {name : String} :
    findType? types name = none ↔ ¬DeclaresType types name := by
  rw [DeclaresType, ← findType?_isSome_iff, Option.not_isSome_iff_eq_none]

theorem any_name_iff {packages : List PackageDecl} {name : String} :
    (packages.any fun package => package.name == name) = true ↔ DeclaresPackage packages name := by
  simp [DeclaresPackage]

/-- A search for offences, each reported with the name of the type, finds the least. -/
theorem least_of_findSome? {types : List TypeDecl} {search : TypeDecl → Option (String × String)}
    {Offends : TypeDecl → String → Prop} (ordered : InNameOrder TypeDecl.qualifiedName types)
    (search_iff : ∀ decl ∈ types, ∀ result, search decl = some result ↔
      ∃ target, Offends decl target ∧ result = (decl.qualifiedName, target))
    {name target : String} (found : types.findSome? search = some (name, target)) :
    ∃ decl ∈ types, decl.qualifiedName = name ∧ Offends decl target ∧
      ∀ other ∈ types, ∀ otherTarget, Offends other otherTarget →
        decl.qualifiedName ≤ other.qualifiedName := by
  obtain ⟨decl, decl_mem, decl_found, decl_least⟩ := exists_least_of_findSome? ordered found
  obtain ⟨_, offends, result_eq⟩ := (search_iff decl decl_mem _).mp decl_found
  obtain ⟨rfl, rfl⟩ := Prod.mk.inj result_eq
  refine ⟨decl, decl_mem, rfl, offends, fun other other_mem otherTarget other_offends => ?_⟩
  have other_found := (search_iff other other_mem _).mpr ⟨otherTarget, other_offends, rfl⟩
  exact decl_least other other_mem (by simp [other_found])

theorem findSome?_eq_none_iff_offends {types : List TypeDecl}
    {search : TypeDecl → Option (String × String)} {Offends : TypeDecl → String → Prop}
    (search_iff : ∀ decl ∈ types, ∀ result, search decl = some result ↔
      ∃ target, Offends decl target ∧ result = (decl.qualifiedName, target)) :
    types.findSome? search = none ↔ ∀ decl ∈ types, ∀ target, ¬Offends decl target := by
  rw [List.findSome?_eq_none_iff]
  constructor
  · intro none_found decl decl_mem target offends
    have found := (search_iff decl decl_mem _).mpr ⟨target, offends, rfl⟩
    simp [none_found decl decl_mem] at found
  · intro none_offends decl decl_mem
    cases found : search decl with
    | none => rfl
    | some result =>
        obtain ⟨target, offends, -⟩ := (search_iff decl decl_mem result).mp found
        exact absurd offends (none_offends decl decl_mem target)

namespace Graph

/-- What the check of enclosing types reports about a type. -/
def lackedOuter? (types : List TypeDecl) (decl : TypeDecl) : Option (String × String) :=
  match decl.enclosingType? with
  | some outer =>
    if (findType? types outer).isNone then some (decl.qualifiedName, outer) else none
  | none => none

theorem danglingEnclosing?_eq (types : List TypeDecl) :
    danglingEnclosing? types = types.findSome? (lackedOuter? types) := rfl

theorem lackedOuter?_eq_some_iff {types : List TypeDecl} {decl : TypeDecl}
    {result : String × String} :
    lackedOuter? types decl = some result ↔
      ∃ outer, LacksOuter types decl outer ∧ result = (decl.qualifiedName, outer) := by
  simp only [LacksOuter, ← enclosingType?_eq_some_iff, ← findType?_eq_none_iff]
  cases enclosing_eq : decl.enclosingType? with
  | none => simp [lackedOuter?, enclosing_eq]
  | some outer =>
      cases found : findType? types outer with
      | none => simp [lackedOuter?, enclosing_eq, found, eq_comm]
      | some outerDecl => simp [lackedOuter?, enclosing_eq, found]

/-- What the check of owners reports about a type. -/
def lackedOwner? (packages : List PackageDecl) (types : List TypeDecl) (decl : TypeDecl) :
    Option (String × String) :=
  let owner := ownerOf types decl
  if packages.any fun package => package.name == owner then none
  else some (decl.qualifiedName, owner)

theorem danglingPackage?_eq (packages : List PackageDecl) (types : List TypeDecl) :
    danglingPackage? packages types = types.findSome? (lackedOwner? packages types) := rfl

theorem lackedOwner?_eq_some_iff {packages : List PackageDecl} {types : List TypeDecl}
    (distinct : DistinctTypes types) {decl : TypeDecl} (decl_mem : decl ∈ types)
    {result : String × String} :
    lackedOwner? packages types decl = some result ↔
      ∃ owner, LacksOwner packages types decl owner ∧ result = (decl.qualifiedName, owner) := by
  simp only [LacksOwner, isOwner_iff distinct decl_mem, ← any_name_iff, lackedOwner?]
  split
  · rename_i owner_declared
    simp [owner_declared]
  · rename_i owner_missing
    simp [owner_missing, eq_comm]

/-! ## Superclasses -/

theorem declaredSuperName?_eq_some_iff {types : List TypeDecl} {name superName : String} :
    declaredSuperName? types name = some superName ↔
      ∃ decl, findType? types name = some decl ∧ decl.superName? = some superName ∧
        DeclaresType types superName := by
  simp only [declaredSuperName?, bind, Option.bind_eq_some_iff, pure, Option.some.injEq]
  constructor
  · rintro ⟨decl, decl_found, other, super_eq, superType, superType_found, rfl⟩
    obtain ⟨superType_mem, rfl⟩ := mem_of_findType? superType_found
    exact ⟨decl, decl_found, super_eq, superType, superType_mem, rfl⟩
  · rintro ⟨decl, decl_found, super_eq, super_declared⟩
    obtain ⟨superType, superType_found⟩ :=
      Option.isSome_iff_exists.mp (findType?_isSome_iff.mpr super_declared)
    exact ⟨decl, decl_found, superName, super_eq, superType, superType_found,
      (mem_of_findType? superType_found).2⟩

theorem stepsTo_declaredSuperName?_eq {types : List TypeDecl} (distinct : DistinctTypes types) :
    StepsTo (declaredSuperName? types) = Extends types := by
  funext name superName
  simp only [StepsTo, declaredSuperName?_eq_some_iff, findType?_eq_some_iff distinct, Extends]
  refine propext ⟨?_, ?_⟩
  · rintro ⟨decl, ⟨decl_mem, name_eq⟩, super_eq, super_declared⟩
    exact ⟨⟨decl, decl_mem, name_eq, super_eq⟩, super_declared⟩
  · rintro ⟨⟨decl, decl_mem, name_eq, super_eq⟩, super_declared⟩
    exact ⟨decl, ⟨decl_mem, name_eq⟩, super_eq, super_declared⟩

theorem cycle_of_superclassCycle? {types : List TypeDecl} (distinct : DistinctTypes types)
    {name : String} (found : superclassCycle? types = some name) :
    Relation.TransGen (Extends types) name name := by
  obtain ⟨_, decl, _, -, revisited, -⟩ := List.findSome?_eq_some_iff.mp found
  rw [← stepsTo_declaredSuperName?_eq distinct]
  exact cycle_of_revisited? (by simp) revisited

/-- Where no cycle is found, the walk over declared superclasses ends. -/
theorem ends_of_superclassCycle?_eq_none {types : List TypeDecl}
    (none_found : superclassCycle? types = none) {decl : TypeDecl} (decl_mem : decl ∈ types) :
    Ends (declaredSuperName? types) decl.qualifiedName := by
  have unrevisited := List.findSome?_eq_none_iff.mp none_found decl decl_mem
  have closed : ∀ name following, declaredSuperName? types name = some following →
      following ∈ types.map TypeDecl.qualifiedName := by
    intro name following step
    obtain ⟨_, -, -, superType, superType_mem, rfl⟩ := declaredSuperName?_eq_some_iff.mp step
    exact List.mem_map_of_mem superType_mem
  exact ends_of_revisited?_eq_none closed (Trail.start _ _ _) (List.mem_map_of_mem decl_mem)
    (by simp) unrevisited

theorem superclassCycle?_eq_none_iff {types : List TypeDecl} (distinct : DistinctTypes types) :
    superclassCycle? types = none ↔ AcyclicSuperclasses types := by
  constructor
  · intro none_found name cycle
    have name_declared : DeclaresType types name := by
      obtain ⟨_, ⟨⟨decl, decl_mem, name_eq, -⟩, -⟩, -⟩ := Relation.TransGen.head'_iff.mp cycle
      exact ⟨decl, decl_mem, name_eq⟩
    obtain ⟨decl, decl_mem, rfl⟩ := name_declared
    rw [← stepsTo_declaredSuperName?_eq distinct] at cycle
    exact (ends_of_superclassCycle?_eq_none none_found decl_mem).not_cycle cycle
  · intro acyclic
    cases found : superclassCycle? types with
    | none => rfl
    | some name => exact absurd (cycle_of_superclassCycle? distinct found) (acyclic name)

/-! ## All checks -/

variable {packages : List PackageDecl} {types : List TypeDecl}

theorem danglingEnclosing?_eq_none_iff :
    danglingEnclosing? types = none ↔ OutersDeclared types := by
  rw [danglingEnclosing?_eq]
  exact findSome?_eq_none_iff_offends fun _ _ _ => lackedOuter?_eq_some_iff

theorem danglingPackage?_eq_none_iff (distinct : DistinctTypes types) :
    danglingPackage? packages types = none ↔ OwnersDeclared packages types := by
  rw [danglingPackage?_eq]
  exact findSome?_eq_none_iff_offends fun _ decl_mem _ => lackedOwner?_eq_some_iff distinct decl_mem

theorem sound_of_fault?_eq_none (unfaulted : fault? packages types = none) :
    Sound packages types := by
  simp only [fault?, Option.orElse_eq_orElse, Option.orElse_eq_or, Option.or_eq_none_iff,
    Option.map_eq_none_iff] at unfaulted
  obtain ⟨packages_unrepeated, types_unrepeated, no_outer, no_cycle, no_owner⟩ := unfaulted
  have types_distinct : DistinctTypes types := firstRepeated?_eq_none_iff.mp types_unrepeated
  exact {
    packages_distinct := firstRepeated?_eq_none_iff.mp packages_unrepeated
    types_distinct := types_distinct
    outers_declared := danglingEnclosing?_eq_none_iff.mp no_outer
    superclasses_acyclic := (superclassCycle?_eq_none_iff types_distinct).mp no_cycle
    owners_declared := (danglingPackage?_eq_none_iff types_distinct).mp no_owner }

theorem refused_of_fault?_eq_some (packages_ordered : InNameOrder PackageDecl.name packages)
    (types_ordered : InNameOrder TypeDecl.qualifiedName types) {error : GraphError}
    (faulted : fault? packages types = some error) : Refused packages types error := by
  simp only [fault?, Option.orElse_eq_orElse, Option.orElse_eq_or, Option.or_eq_some_iff,
    Option.map_eq_some_iff, Option.map_eq_none_iff, firstRepeated?_eq_none_iff,
    danglingEnclosing?_eq_none_iff] at faulted
  rcases faulted with ⟨name, repeated, rfl⟩ | ⟨packages_distinct, faulted⟩
  · exact .duplicatePackage (isLeast_of_firstRepeated? packages_ordered.map repeated)
  rcases faulted with ⟨name, repeated, rfl⟩ | ⟨types_distinct, faulted⟩
  · exact .duplicateType packages_distinct
      (isLeast_of_firstRepeated? types_ordered.map repeated)
  rcases faulted with ⟨⟨name, outer⟩, dangling, rfl⟩ | ⟨outers_declared, faulted⟩
  · obtain ⟨decl, decl_mem, rfl, lacks, least⟩ :=
      least_of_findSome? types_ordered (fun _ _ _ => lackedOuter?_eq_some_iff) dangling
    exact .missingEnclosingType packages_distinct types_distinct decl_mem lacks least
  rcases faulted with ⟨name, cycle, rfl⟩ | ⟨no_cycle, ⟨name, owner⟩, dangling, rfl⟩
  · exact .supertypeCycle packages_distinct types_distinct outers_declared
      (cycle_of_superclassCycle? types_distinct cycle)
  · have acyclic := (superclassCycle?_eq_none_iff types_distinct).mp no_cycle
    obtain ⟨decl, decl_mem, rfl, lacks, least⟩ :=
      least_of_findSome? types_ordered
        (fun _ decl_mem _ => lackedOwner?_eq_some_iff types_distinct decl_mem) dangling
    exact .missingPackage packages_distinct types_distinct outers_declared acyclic decl_mem lacks
      least

variable {snapshot : Snapshot} {rootType : String}

/-- The declarations of a built graph are those of the snapshot in name order, and are sound. -/
theorem sound_of_build {graph : Graph} (built : build snapshot rootType = .ok graph) :
    graph.packages = sortByName PackageDecl.name snapshot.packages ∧
      graph.types = sortByName TypeDecl.qualifiedName snapshot.types ∧
      Sound graph.packages graph.types := by
  rw [build] at built
  split at built
  · simp at built
  · rename_i unfaulted
    obtain rfl := Except.ok.inj built
    exact ⟨rfl, rfl, sound_of_fault?_eq_none unfaulted⟩

theorem refused_of_build {error : GraphError} (failed : build snapshot rootType = .error error) :
    Refused snapshot.packages snapshot.types error := by
  rw [build] at failed
  split at failed
  · rename_i faulted
    obtain rfl := Except.error.inj failed
    exact (refused_of_fault?_eq_some (sortByName_inNameOrder _) (sortByName_inNameOrder _)
      faulted).congr (sortByName_perm _) (sortByName_perm _)
  · simp at failed

/-- Declarations make a graph exactly if they are sound, and are refused otherwise with the error of
the first condition that they break. -/
theorem build_ok_iff_sound_and_error_refused (snapshot : Snapshot) (rootType : String) :
    ((∃ graph, build snapshot rootType = .ok graph) ↔ Sound snapshot.packages snapshot.types) ∧
      ∀ error, build snapshot rootType = .error error →
        Refused snapshot.packages snapshot.types error := by
  refine ⟨⟨?_, ?_⟩, fun error => refused_of_build⟩
  · rintro ⟨graph, built⟩
    obtain ⟨packages_eq, types_eq, sound⟩ := sound_of_build built
    rw [packages_eq, types_eq] at sound
    exact sound.congr (sortByName_perm _) (sortByName_perm _)
  · intro sound
    cases result : build snapshot rootType with
    | ok graph => exact ⟨graph, rfl⟩
    | error error => exact absurd sound (refused_of_build result).not_sound

end Graph
end RefDocs
