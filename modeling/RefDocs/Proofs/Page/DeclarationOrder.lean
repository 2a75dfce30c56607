import RefDocs.Proofs.Page.Redaction

/-!
# The order in which declarations are given

Declarations are put in name order before they are looked at, and no two of a kind that share a name
get past the first checks.  So the order in which a snapshot lists its declarations reaches neither
the error that it is refused with, nor the graph, nor the pages.
-/

namespace RefDocs

/-- Two snapshots that list the same declarations, each kind in an order of its own. -/
structure Snapshot.Permuted (snapshot snapshot' : Snapshot) : Prop where
  /-- The same packages are listed. -/
  packages : snapshot.packages.Perm snapshot'.packages
  /-- The same types are listed. -/
  types : snapshot.types.Perm snapshot'.types
  /-- The same is known of annotation types declared elsewhere. -/
  annotationTypes : snapshot.annotationTypes.Perm snapshot'.annotationTypes

namespace Graph

variable {graph graph' : Graph}

/-- Two graphs with the same declarations in the same places. -/
structure SameDeclarations (graph graph' : Graph) : Prop where
  /-- The hierarchy has the same root. -/
  rootType_eq : graph.rootType = graph'.rootType
  /-- The packages are the same, place by place. -/
  packages_eq : graph.packages = graph'.packages
  /-- The types are the same, place by place. -/
  types_eq : graph.types = graph'.types
  /-- The same annotation types declared elsewhere are shown. -/
  mem_shownElsewhere_iff : ∀ name, name ∈ graph.shownElsewhere ↔ name ∈ graph'.shownElsewhere

/-- Two graphs with the same relations between declarations. -/
structure SameRelations (graph graph' : Graph) : Prop where
  /-- Types are owned by the same packages. -/
  ownerName_eq : graph.ownerName = graph'.ownerName
  /-- Types are declared inside the same types. -/
  enclosingChain_eq : graph.enclosingChain = graph'.enclosingChain
  /-- Packages list the same types. -/
  typesInPackage_eq : graph.typesInPackage = graph'.typesInPackage
  /-- Types list the same types inside them. -/
  nestedTypes_eq : graph.nestedTypes = graph'.nestedTypes
  /-- Types are below the same types. -/
  directSuperType?_eq : graph.directSuperType? = graph'.directSuperType?
  /-- Types are above the same types. -/
  directSubtypes_eq : graph.directSubtypes = graph'.directSubtypes
  /-- Interfaces are implemented by the same types. -/
  directImplementors_eq : graph.directImplementors = graph'.directImplementors
  /-- Packages have the same parents. -/
  parentPackage?_eq : graph.parentPackage? = graph'.parentPackage?
  /-- Packages have the same children. -/
  childPackages_eq : graph.childPackages = graph'.childPackages
  /-- Occurrences of the same annotation types are shown. -/
  showsAnnotation_eq : graph.showsAnnotation = graph'.showsAnnotation

namespace SameDeclarations

theorem mentionsAlike (same : graph.SameDeclarations graph') (options : RenderOptions) :
    graph.MentionsAlike options graph' where
  rootType_eq := same.rootType_eq
  mem_shownElsewhere_iff := same.mem_shownElsewhere_iff
  packages := by
    rw [same.packages_eq]
    exact List.forall₂_same.mpr fun decl _ =>
      ⟨rfl, fun _ => PackageDecl.ListedAlike.refl options decl⟩
  types := by
    rw [same.types_eq]
    exact List.forall₂_same.mpr fun decl _ =>
      ⟨rfl, fun _ => TypeDecl.ListedAlike.refl options decl⟩

/-- All relations but that of shown annotation types are read off the packages and types alone. -/
theorem sameRelations (same : graph.SameDeclarations graph') : graph.SameRelations graph' := by
  have shows_eq : graph.showsAnnotation = graph'.showsAnnotation :=
    (same.mentionsAlike {}).alike.showsAnnotation_eq
  obtain ⟨rootType, packages, types, shown⟩ := graph
  obtain ⟨rootType', packages', types', shown'⟩ := graph'
  obtain rfl : packages = packages' := same.packages_eq
  obtain rfl : types = types' := same.types_eq
  exact ⟨rfl, rfl, rfl, rfl, rfl, rfl, rfl, rfl, rfl, shows_eq⟩

theorem generate_eq (same : graph.SameDeclarations graph')
    (sound : Sound graph.packages graph.types) (options : RenderOptions) :
    graph.generate options = graph'.generate options := by
  refine (same.mentionsAlike options).generate_eq sound ?_
  rintro page - name decl decl' - found - found'
  rw [type?, same.types_eq] at found
  obtain rfl : decl = decl' := Option.some.inj (found.symm.trans found')
  rfl

end SameDeclarations

/-! ## Building -/

section Permuted

variable {packages packages' : List PackageDecl} {types types' : List TypeDecl}

theorem sortByName_packages_eq (distinct : DistinctPackages packages)
    (perm : packages.Perm packages') :
    sortByName PackageDecl.name packages = sortByName PackageDecl.name packages' :=
  sortByName_eq_of_perm (fun _ left_mem _ right_mem names_eq =>
    List.inj_on_of_nodup_map distinct left_mem right_mem names_eq) perm

theorem sortByName_types_eq (distinct : DistinctTypes types) (perm : types.Perm types') :
    sortByName TypeDecl.qualifiedName types = sortByName TypeDecl.qualifiedName types' :=
  sortByName_eq_of_perm (fun _ left_mem _ right_mem names_eq =>
    List.inj_on_of_nodup_map distinct left_mem right_mem names_eq) perm

/-- The first reason to refuse declarations is the same in every order: where names repeat, it is
found in the names alone, and where they do not, there is only one name order. -/
theorem fault?_eq_of_perm (packages_perm : packages.Perm packages')
    (types_perm : types.Perm types') :
    fault? (sortByName PackageDecl.name packages) (sortByName TypeDecl.qualifiedName types) =
      fault? (sortByName PackageDecl.name packages')
        (sortByName TypeDecl.qualifiedName types') := by
  have package_names : (sortByName PackageDecl.name packages).map PackageDecl.name =
      (sortByName PackageDecl.name packages').map PackageDecl.name :=
    map_sortByName_eq_of_perm packages_perm
  have type_names : (sortByName TypeDecl.qualifiedName types).map TypeDecl.qualifiedName =
      (sortByName TypeDecl.qualifiedName types').map TypeDecl.qualifiedName :=
    map_sortByName_eq_of_perm types_perm
  by_cases packages_distinct : DistinctPackages packages
  · rw [sortByName_packages_eq packages_distinct packages_perm]
    by_cases types_distinct : DistinctTypes types
    · rw [sortByName_types_eq types_distinct types_perm]
    · have sorted_repeated : ¬((sortByName TypeDecl.qualifiedName types).map
          TypeDecl.qualifiedName).Nodup := by
        rwa [((sortByName_perm types).map TypeDecl.qualifiedName).nodup_iff]
      obtain ⟨name, found⟩ := Option.ne_none_iff_exists'.mp
        (mt firstRepeated?_eq_none_iff.mp sorted_repeated)
      rw [fault?, fault?, ← type_names, found]
      cases firstRepeated? ((sortByName PackageDecl.name packages').map PackageDecl.name) with
      | none => rfl
      | some _ => rfl
  · have sorted_repeated : ¬((sortByName PackageDecl.name packages).map
        PackageDecl.name).Nodup := by
      rwa [((sortByName_perm packages).map PackageDecl.name).nodup_iff]
    obtain ⟨name, found⟩ := Option.ne_none_iff_exists'.mp
      (mt firstRepeated?_eq_none_iff.mp sorted_repeated)
    rw [fault?, fault?, ← package_names, found]
    rfl

end Permuted

variable {snapshot snapshot' : Snapshot} {rootType : String}

theorem build_error_of_permuted (permuted : snapshot.Permuted snapshot') {error : GraphError}
    (failed : build snapshot rootType = .error error) :
    build snapshot' rootType = .error error := by
  rw [build] at failed ⊢
  rw [← fault?_eq_of_perm permuted.packages permuted.types]
  split at failed
  · rename_i faulted
    simpa [faulted] using failed
  · cases failed

theorem exists_build_of_permuted (permuted : snapshot.Permuted snapshot')
    (built : build snapshot rootType = .ok graph) :
    ∃ graph', build snapshot' rootType = .ok graph' ∧ graph.SameDeclarations graph' := by
  obtain ⟨packages_eq, types_eq, sound⟩ := sound_of_build built
  have packages_distinct : DistinctPackages snapshot.packages :=
    (DistinctPackages.congr (sortByName_perm _)).mp (packages_eq ▸ sound.packages_distinct)
  have types_distinct : DistinctTypes snapshot.types :=
    (DistinctTypes.congr (sortByName_perm _)).mp (types_eq ▸ sound.types_distinct)
  cases result : build snapshot' rootType with
  | error error =>
      have failed := build_error_of_permuted
        ⟨permuted.packages.symm, permuted.types.symm, permuted.annotationTypes.symm⟩ result
      rw [built] at failed
      cases failed
  | ok graph' =>
      obtain ⟨packages_eq', types_eq', -⟩ := sound_of_build result
      obtain ⟨rootType_eq, shown_eq⟩ := rootType_and_shownElsewhere_of_build built
      obtain ⟨rootType_eq', shown_eq'⟩ := rootType_and_shownElsewhere_of_build result
      refine ⟨graph', rfl, ?_, ?_, ?_, fun name => ?_⟩
      · rw [rootType_eq, rootType_eq']
      · rw [packages_eq, packages_eq', sortByName_packages_eq packages_distinct permuted.packages]
      · rw [types_eq, types_eq', sortByName_types_eq types_distinct permuted.types]
      · rw [shown_eq, shown_eq']
        exact ((permuted.annotationTypes.filter _).map _).mem_iff

/-- However a snapshot lists its declarations, it is refused with the same error, or makes a graph
of the same declarations in the same places with the same relations, of which the same pages are
written and the same fail. -/
theorem build_and_generate_of_permuted (permuted : snapshot.Permuted snapshot')
    (rootType : String) :
    (∃ error, build snapshot rootType = .error error ∧
        build snapshot' rootType = .error error) ∨
      ∃ graph graph', build snapshot rootType = .ok graph ∧
        build snapshot' rootType = .ok graph' ∧
        graph.SameDeclarations graph' ∧ graph.SameRelations graph' ∧
        ∀ options, graph.generate options = graph'.generate options := by
  cases result : build snapshot rootType with
  | error error => exact .inl ⟨error, rfl, build_error_of_permuted permuted result⟩
  | ok graph =>
      obtain ⟨graph', built', same⟩ := exists_build_of_permuted permuted result
      obtain ⟨-, -, sound⟩ := sound_of_build result
      exact .inr ⟨graph, graph', rfl, built', same, same.sameRelations, same.generate_eq sound⟩

/-- A class and a nested interface in a package with a parent, next to what is known of two
annotation types. -/
def listedSnapshot : Snapshot where
  packages := [{ name := "shop" }, { name := "shop.cart" }]
  types :=
    [{ qualifiedName := "shop.cart.Cart", simpleName := "Cart", kind := .classType
       enclosing := .package "shop.cart"
       annotations := [⟨"note.Stable", [], false⟩, ⟨"note.Internal", [], false⟩] },
     { qualifiedName := "shop.cart.Cart.View", simpleName := "View", kind := .interfaceType
       enclosing := .type "shop.cart.Cart" }]
  annotationTypes := [⟨"note.Stable", true⟩, ⟨"note.Internal", true⟩]

/-- The same declarations, listed the other way round. -/
def relistedSnapshot : Snapshot where
  packages := listedSnapshot.packages.reverse
  types := listedSnapshot.types.reverse
  annotationTypes := listedSnapshot.annotationTypes.reverse

theorem generate_relisted : ∃ graph graph' : Graph,
    listedSnapshot.Permuted relistedSnapshot ∧
    build listedSnapshot defaultRootType = .ok graph ∧
    build relistedSnapshot defaultRootType = .ok graph' ∧
    graph.types.map TypeDecl.qualifiedName = ["shop.cart.Cart", "shop.cart.Cart.View"] ∧
    graph.SameDeclarations graph' ∧
    ∀ options, graph.generate options = graph'.generate options := by
  have permuted : listedSnapshot.Permuted relistedSnapshot :=
    ⟨(List.reverse_perm _).symm, (List.reverse_perm _).symm, (List.reverse_perm _).symm⟩
  rcases build_and_generate_of_permuted permuted defaultRootType with
    ⟨error, failed, -⟩ | ⟨graph, graph', built, built', same, -, pages_eq⟩
  · cases failed
  · obtain rfl := Except.ok.inj built
    exact ⟨_, graph', permuted, rfl, built', by decide, same, pages_eq⟩

end Graph
end RefDocs
