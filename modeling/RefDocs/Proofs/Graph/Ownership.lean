import RefDocs.Page.Naming
import RefDocs.Proofs.Content.ShownTables
import RefDocs.Proofs.Graph.Building
import RefDocs.Proofs.Graph.PackageTree
import RefDocs.Proofs.Graph.QualifiedName

/-!
# Owners, nested types and the package tree

Where every package has a name, the way outwards from a type comes to a type that is declared in a
package.  That package owns the type, so the packages share out the known types among them, and the
file of the type is named after the types on the way.  Packages stand in trees, in which the
children are found by reading parents backwards.
-/

namespace RefDocs

/-! ## The way outwards -/

/-- A list of types leads from a type outwards, each type followed by the one around it, to a type
that is declared directly in a package. -/
structure LeadsOut (types : List TypeDecl) (decl : TypeDecl) (chain : List TypeDecl)
    (package : String) : Prop where
  /-- The first type is the one that the way starts from. -/
  starts : chain.head? = some decl
  /-- Each type is declared directly inside the next. -/
  encloses : chain.IsChain fun inner outer => outerType? types inner = some outer
  /-- The last type is declared in the package. -/
  ends : ∃ top, chain.getLast? = some top ∧ top.enclosing = .package package

/-- The stem of a type's file, from the type outwards: the simple name of the outermost type, with
the simple name of each type that is declared inside it behind a mark. -/
inductive HasStem (types : List TypeDecl) : TypeDecl → String → Prop where
  | outermost {decl : TypeDecl} (stops : outerType? types decl = none) :
      HasStem types decl decl.simpleName
  | nested {decl outer : TypeDecl} {stem : String} (step : outerType? types decl = some outer)
      (outer_stem : HasStem types outer stem) :
      HasStem types decl (stem ++ "$" ++ decl.simpleName)

section Outward

variable {types : List TypeDecl} {decl : TypeDecl} {steps : Nat} {package : String}

theorem isChain_outward (types : List TypeDecl) (steps : Nat) (decl : TypeDecl) :
    (outward types steps decl).IsChain fun inner outer => outerType? types inner = some outer := by
  induction steps generalizing decl with
  | zero => exact List.IsChain.singleton decl
  | succ steps ih =>
      rw [outward_succ]
      cases step : outerType? types decl with
      | none => exact List.IsChain.singleton decl
      | some outer =>
          obtain ⟨outers, chain_eq⟩ := exists_outward_eq_cons types steps outer
          have outer_chain := ih outer
          rw [Option.elim_some]
          rw [chain_eq] at outer_chain ⊢
          exact List.isChain_cons_cons.mpr ⟨step, outer_chain⟩

theorem leadsOut_outward
    (enclosing_eq : (outermost types steps decl).enclosing = .package package) :
    LeadsOut types decl (outward types steps decl) package where
  starts := by
    obtain ⟨outers, chain_eq⟩ := exists_outward_eq_cons types steps decl
    rw [chain_eq, List.head?_cons]
  encloses := isChain_outward types steps decl
  ends := ⟨outermost types steps decl,
    List.getLast?_eq_getLast_of_ne_nil (outward_ne_nil types steps decl), enclosing_eq⟩

/-- If the way has come to its end, the simple names on it make up the stem. -/
theorem hasStem_outward (stops : outerType? types (outermost types steps decl) = none) :
    HasStem types decl
      (Text.join "$" ((outward types steps decl).reverse.map TypeDecl.simpleName)) := by
  induction steps generalizing decl with
  | zero =>
      have stem := HasStem.outermost stops
      rwa [outermost_zero] at stem
  | succ steps ih =>
      cases step : outerType? types decl with
      | none =>
          rw [outward_of_none step]
          exact HasStem.outermost step
      | some outer =>
          rw [outermost_of_some steps step] at stops
          have names_ne : (outward types steps outer).reverse.map TypeDecl.simpleName ≠ [] := by
            simp [outward_ne_nil]
          rw [outward_succ, step, Option.elim_some, List.reverse_cons, List.map_append,
            List.map_singleton, Text.join_concat names_ne]
          exact HasStem.nested step (ih stops)

end Outward

namespace Graph

variable {graph : Graph}

/-- The way outwards from a type ends in the declared package that owns the type, and the file of
the type is named after the types on the way, outermost first. -/
structure IsOwned (graph : Graph) (decl : TypeDecl) : Prop where
  /-- The way outwards is finite. -/
  ends : Ends (outerType? graph.types) decl
  /-- The package at the end of the way is declared. -/
  owner_declared : DeclaresPackage graph.packages (graph.ownerName decl)
  /-- The way comes to the owner, and the simple names on it are those of the file. -/
  leads_out : ∃ chain, LeadsOut graph.types decl chain (graph.ownerName decl) ∧
    Site.typeStem graph decl.qualifiedName =
      Text.join "$" (chain.reverse.map TypeDecl.simpleName)
  /-- The stem of the file is found by going outwards. -/
  has_stem : HasStem graph.types decl (Site.typeStem graph decl.qualifiedName)

theorem isOwned_of_mem (sound : Sound graph.packages graph.types)
    (all_named : ¬DeclaresPackage graph.packages "") {decl : TypeDecl}
    (decl_mem : decl ∈ graph.types) : graph.IsOwned decl := by
  have enclosing_eq := outermost_enclosing sound all_named decl_mem
  have stops : outerType? graph.types _ = none := outerType?_eq_none_of_package enclosing_eq
  have found : graph.type? decl.qualifiedName = some decl :=
    sound.findType?_eq_some_iff.mpr ⟨decl_mem, rfl⟩
  have stem_eq : Site.typeStem graph decl.qualifiedName =
      Text.join "$" ((graph.enclosingChain decl).reverse.map TypeDecl.simpleName) := by
    rw [Site.typeStem, found]
  exact {
    ends := Ends.of_reaches (reaches_outermost _ _ _) (ends_of_eq_none stops)
    owner_declared := sound.declaresPackage_ownerOf decl_mem
    leads_out := ⟨graph.enclosingChain decl, leadsOut_outward enclosing_eq, stem_eq⟩
    has_stem := stem_eq ▸ hasStem_outward stops }

/-! ## Types in packages and in types -/

/-- Each known type is listed once among the types of all packages, under its owner. -/
structure SharesOutTypes (graph : Graph) : Prop where
  /-- The lists of the packages together hold the known types. -/
  perm : (graph.packages.flatMap fun package => graph.typesInPackage package.name).Perm
    graph.knownTypes
  /-- No two known types have one name. -/
  distinct : (graph.knownTypes.map TypeDecl.qualifiedName).Nodup
  /-- A package lists the known types that it owns. -/
  mem_iff : ∀ package ∈ graph.packages, ∀ decl, decl ∈ graph.typesInPackage package.name ↔
    decl ∈ graph.knownTypes ∧ graph.ownerName decl = package.name
  /-- A package lists them in name order. -/
  ordered : ∀ package ∈ graph.packages,
    InNameOrder TypeDecl.qualifiedName (graph.typesInPackage package.name)

theorem sharesOutTypes (sound : Sound graph.packages graph.types)
    (ordered : InNameOrder TypeDecl.qualifiedName graph.types) : graph.SharesOutTypes where
  perm := by
    have owned : ∀ decl ∈ graph.knownTypes,
        graph.ownerName decl ∈ graph.packages.map PackageDecl.name := by
      intro decl decl_mem
      obtain ⟨package, package_mem, name_eq⟩ :=
        sound.declaresPackage_ownerOf (List.mem_of_mem_filter decl_mem)
      exact List.mem_map.mpr ⟨package, package_mem, name_eq⟩
    have lists_eq : ∀ name, graph.typesInPackage name =
        graph.knownTypes.filter fun decl => graph.ownerName decl = name := by
      intro name
      rw [typesInPackage, knownTypes, List.filter_filter]
      refine List.filter_congr fun decl _ => ?_
      rw [Bool.and_comm, beq_eq_decide]
    simp only [lists_eq]
    have shared := flatMap_filter_perm sound.packages_distinct owned
    rwa [List.flatMap_map] at shared
  distinct := sound.types_distinct.sublist (List.filter_sublist.map _)
  mem_iff := by
    intro package _ decl
    simp [typesInPackage, knownTypes, and_assoc]
  ordered := fun package _ => ordered.filter _

/-- A type lists the known types that are declared directly inside it, each once. -/
def ListsNestedTypes (graph : Graph) (outer : TypeDecl) : Prop :=
  ((graph.nestedTypes outer.qualifiedName).map TypeDecl.qualifiedName).Nodup ∧
    ∀ decl, decl ∈ graph.nestedTypes outer.qualifiedName ↔
      decl ∈ graph.knownTypes ∧ outerType? graph.types decl = some outer

theorem listsNestedTypes (sound : Sound graph.packages graph.types) {outer : TypeDecl}
    (outer_mem : outer ∈ graph.types) : graph.ListsNestedTypes outer := by
  refine ⟨sound.types_distinct.sublist (List.filter_sublist.map _), fun decl => ?_⟩
  have outer_iff : outerType? graph.types decl = some outer ↔
      decl.enclosingType? = some outer.qualifiedName := by
    rw [outerType?, Option.bind_eq_some_iff]
    constructor
    · rintro ⟨name, name_eq, found⟩
      rwa [(mem_of_findType? found).2]
    · intro name_eq
      exact ⟨_, name_eq, sound.findType?_eq_some_iff.mpr ⟨outer_mem, rfl⟩⟩
  simp [nestedTypes, knownTypes, outer_iff, and_assoc]

/-! ## The package tree -/

/-- The packages stand in trees: the parent of a known package is the known one whose name is its
own up to the last point, and children are the packages with a given parent. -/
structure IsForest (graph : Graph) : Prop where
  /-- A package is the parent of another if both are known and the names fit. -/
  parent_iff : ∀ child ∈ graph.packages, ∀ parent, graph.parentPackage? child = some parent ↔
    child ∈ graph.knownPackages ∧ parent ∈ graph.knownPackages ∧
      IsChildName parent.name child.name
  /-- The children of a package are those that it is the parent of. -/
  mem_children_iff : ∀ parent ∈ graph.packages, ∀ child,
    child ∈ graph.childPackages parent.name ↔
      child ∈ graph.packages ∧ graph.parentPackage? child = some parent
  /-- A child is listed once. -/
  children_distinct : ∀ parent ∈ graph.packages,
    ((graph.childPackages parent.name).map PackageDecl.name).Nodup
  /-- Children are listed in name order. -/
  children_ordered : ∀ parent ∈ graph.packages,
    InNameOrder PackageDecl.name (graph.childPackages parent.name)
  /-- The way from parent to parent is finite. -/
  ends : ∀ package ∈ graph.packages, Ends graph.parentPackage? package

theorem length_lt_of_isChildName {parent child : String} (is_child : IsChildName parent child) :
    parent.length < child.length := by
  obtain ⟨simple, -, rfl⟩ := is_child
  have point_length : (".".length : Nat) = 1 := rfl
  simp only [String.length_append]
  omega

/-- The name of a parent is shorter, so the way up ends. -/
theorem ends_parentPackage? (sound : Sound graph.packages graph.types) (package : PackageDecl) :
    Ends graph.parentPackage? package := by
  induction size : package.name.length using Nat.strong_induction_on generalizing package with
  | _ size_bound ih =>
      refine Acc.intro package fun parent step => ?_
      obtain ⟨-, -, -, is_child⟩ := (parentPackage?_eq_some_iff sound).mp step
      have shorter : parent.name.length < size_bound := by
        have := length_lt_of_isChildName is_child
        omega
      exact ih _ shorter parent rfl

theorem isForest (sound : Sound graph.packages graph.types)
    (ordered : InNameOrder PackageDecl.name graph.packages) : graph.IsForest where
  parent_iff := by
    intro child child_mem parent
    rw [parentPackage?_eq_some_iff sound]
    simp [knownPackages, child_mem, and_assoc]
  mem_children_iff := by
    intro parent parent_mem child
    rw [childPackages, List.mem_filter, Option.any_eq_true]
    refine and_congr_right fun _ => ⟨?_, ?_⟩
    · rintro ⟨found, found_eq, name_eq⟩
      have found_mem := ((parentPackage?_eq_some_iff sound).mp found_eq).2.1
      obtain rfl : found = parent :=
        List.inj_on_of_nodup_map sound.packages_distinct found_mem parent_mem
          (beq_iff_eq.mp name_eq)
      exact found_eq
    · intro found_eq
      exact ⟨parent, found_eq, beq_self_eq_true _⟩
  children_distinct := fun parent _ => nodup_childPackages sound parent.name
  children_ordered := fun parent _ => ordered.filter _
  ends := fun package _ => ends_parentPackage? sound package

variable {snapshot : Snapshot} {rootType : String}

/-- In a graph that was built of packages that all have names, every way outwards ends in the owner
of the type and names its file, the packages share out the known types, types list what is nested in
them, and the packages form trees. -/
theorem isOwned_and_sharesOut_and_isForest (built : build snapshot rootType = .ok graph)
    (all_named : ¬DeclaresPackage snapshot.packages "") :
    (∀ decl ∈ graph.types, graph.IsOwned decl) ∧ graph.SharesOutTypes ∧
      (∀ outer ∈ graph.types, graph.ListsNestedTypes outer) ∧ graph.IsForest := by
  obtain ⟨packages_eq, types_eq, sound⟩ := sound_of_build built
  have packages_ordered : InNameOrder PackageDecl.name graph.packages :=
    packages_eq ▸ sortByName_inNameOrder snapshot.packages
  have types_ordered : InNameOrder TypeDecl.qualifiedName graph.types :=
    types_eq ▸ sortByName_inNameOrder snapshot.types
  have graph_named : ¬DeclaresPackage graph.packages "" := by
    rintro ⟨package, package_mem, name_eq⟩
    rw [packages_eq, (sortByName_perm snapshot.packages).mem_iff] at package_mem
    exact all_named ⟨package, package_mem, name_eq⟩
  exact ⟨fun decl decl_mem => isOwned_of_mem sound graph_named decl_mem,
    sharesOutTypes sound types_ordered, fun outer outer_mem => listsNestedTypes sound outer_mem,
    isForest sound packages_ordered⟩

/-- Two packages, of which one is the parent, and a class with an excluded class and in that an
interface. -/
def nestedSnapshot : Snapshot where
  packages := [{ name := "shop.cart" }, { name := "shop" }]
  types :=
    [{ qualifiedName := "shop.cart.Cart.Old.View", simpleName := "View", kind := .interfaceType
       enclosing := .type "shop.cart.Cart.Old" },
     { qualifiedName := "shop.cart.Cart.Old", simpleName := "Old", kind := .classType
       enclosing := .type "shop.cart.Cart", included := false },
     { qualifiedName := "shop.cart.Cart", simpleName := "Cart", kind := .classType
       enclosing := .package "shop.cart" }]

theorem isOwned_nested : ∃ graph : Graph, build nestedSnapshot defaultRootType = .ok graph ∧
    ¬DeclaresPackage nestedSnapshot.packages "" ∧
    (∀ decl ∈ graph.types, graph.IsOwned decl) ∧ graph.IsForest ∧
    Site.typeStem graph "shop.cart.Cart.Old.View" = "Cart$Old$View" ∧
    (graph.typesInPackage "shop.cart").map TypeDecl.qualifiedName =
      ["shop.cart.Cart", "shop.cart.Cart.Old.View"] := by
  have all_named : ¬DeclaresPackage nestedSnapshot.packages "" := by
    simp [DeclaresPackage, nestedSnapshot]
  have settled := @isOwned_and_sharesOut_and_isForest _ nestedSnapshot defaultRootType rfl all_named
  exact ⟨_, rfl, all_named, settled.1, settled.2.2.2, by decide, by decide⟩

end Graph
end RefDocs
