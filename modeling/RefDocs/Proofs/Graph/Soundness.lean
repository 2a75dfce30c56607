import RefDocs.Graph.Build
import RefDocs.Proofs.Graph.Enclosing

/-!
# Sound declarations

Declarations make a graph exactly if they are sound: names are distinct, enclosing types and owning
packages are declared, and no superclass leads back to where it started.  Otherwise the error is
that of the first condition that fails, about the least declaration that breaks it.
-/

namespace RefDocs

/-- A package of the given name is declared. -/
def DeclaresPackage (packages : List PackageDecl) (name : String) : Prop :=
  ∃ package ∈ packages, package.name = name

/-- A type of the given name is declared. -/
def DeclaresType (types : List TypeDecl) (name : String) : Prop :=
  ∃ decl ∈ types, decl.qualifiedName = name

/-- The superclass reference of a declared type names a declared type. -/
def Extends (types : List TypeDecl) (name superName : String) : Prop :=
  (∃ decl ∈ types, decl.qualifiedName = name ∧ decl.superName? = some superName) ∧
    DeclaresType types superName

/-- No two packages have one name. -/
def DistinctPackages (packages : List PackageDecl) : Prop :=
  (packages.map PackageDecl.name).Nodup

/-- No two types have one name. -/
def DistinctTypes (types : List TypeDecl) : Prop :=
  (types.map TypeDecl.qualifiedName).Nodup

/-- A type is enclosed in a type that is not declared. -/
def LacksOuter (types : List TypeDecl) (decl : TypeDecl) (outer : String) : Prop :=
  decl.enclosing = .type outer ∧ ¬DeclaresType types outer

/-- A type is owned by a package that is not declared. -/
def LacksOwner (packages : List PackageDecl) (types : List TypeDecl) (decl : TypeDecl)
    (owner : String) : Prop :=
  IsOwner types decl owner ∧ ¬DeclaresPackage packages owner

/-- Every type that encloses another is declared. -/
def OutersDeclared (types : List TypeDecl) : Prop :=
  ∀ decl ∈ types, ∀ outer, ¬LacksOuter types decl outer

/-- No type is above itself. -/
def AcyclicSuperclasses (types : List TypeDecl) : Prop :=
  ∀ name, ¬Relation.TransGen (Extends types) name name

/-- Every package that owns a type is declared. -/
def OwnersDeclared (packages : List PackageDecl) (types : List TypeDecl) : Prop :=
  ∀ decl ∈ types, ∀ owner, ¬LacksOwner packages types decl owner

/-- Declarations that make a graph. -/
structure Sound (packages : List PackageDecl) (types : List TypeDecl) : Prop where
  /-- Package names are distinct. -/
  packages_distinct : DistinctPackages packages
  /-- Type names are distinct. -/
  types_distinct : DistinctTypes types
  /-- Enclosing types are declared. -/
  outers_declared : OutersDeclared types
  /-- Superclasses do not run in a circle. -/
  superclasses_acyclic : AcyclicSuperclasses types
  /-- Owning packages are declared. -/
  owners_declared : OwnersDeclared packages types

/-- The error that declarations are refused with: the conditions before it hold, and what it names
is the least declaration that breaks its own, or lies on a cycle of superclasses. -/
inductive Refused (packages : List PackageDecl) (types : List TypeDecl) : GraphError → Prop where
  | duplicatePackage {name : String}
      (least : IsLeast {other | List.Duplicate other (packages.map PackageDecl.name)} name) :
      Refused packages types (.duplicatePackage name)
  | duplicateType {name : String} (packages_distinct : DistinctPackages packages)
      (least : IsLeast {other | List.Duplicate other (types.map TypeDecl.qualifiedName)} name) :
      Refused packages types (.duplicateType name)
  | missingEnclosingType {decl : TypeDecl} {outer : String}
      (packages_distinct : DistinctPackages packages) (types_distinct : DistinctTypes types)
      (decl_mem : decl ∈ types) (lacks : LacksOuter types decl outer)
      (least : ∀ other ∈ types, ∀ name, LacksOuter types other name →
        decl.qualifiedName ≤ other.qualifiedName) :
      Refused packages types (.missingEnclosingType decl.qualifiedName outer)
  | supertypeCycle {name : String} (packages_distinct : DistinctPackages packages)
      (types_distinct : DistinctTypes types) (outers_declared : OutersDeclared types)
      (cycle : Relation.TransGen (Extends types) name name) :
      Refused packages types (.supertypeCycle name)
  | missingPackage {decl : TypeDecl} {owner : String}
      (packages_distinct : DistinctPackages packages) (types_distinct : DistinctTypes types)
      (outers_declared : OutersDeclared types)
      (superclasses_acyclic : AcyclicSuperclasses types)
      (decl_mem : decl ∈ types) (lacks : LacksOwner packages types decl owner)
      (least : ∀ other ∈ types, ∀ name, LacksOwner packages types other name →
        decl.qualifiedName ≤ other.qualifiedName) :
      Refused packages types (.missingPackage decl.qualifiedName owner)

theorem Refused.not_sound {packages : List PackageDecl} {types : List TypeDecl} {error : GraphError}
    (refused : Refused packages types error) : ¬Sound packages types := by
  intro sound
  cases refused with
  | duplicatePackage least =>
      exact List.nodup_iff_forall_not_duplicate.mp sound.packages_distinct _ least.1
  | duplicateType _ least =>
      exact List.nodup_iff_forall_not_duplicate.mp sound.types_distinct _ least.1
  | missingEnclosingType _ _ decl_mem lacks _ => exact sound.outers_declared _ decl_mem _ lacks
  | supertypeCycle _ _ _ cycle => exact sound.superclasses_acyclic _ cycle
  | missingPackage _ _ _ _ decl_mem lacks _ => exact sound.owners_declared _ decl_mem _ lacks

/-! ## The order of declarations does not matter -/

section Permuted

variable {packages packages' : List PackageDecl} {types types' : List TypeDecl}

theorem Extends.congr (types_perm : types.Perm types') : Extends types = Extends types' := by
  funext name superName
  simp only [Extends, DeclaresType, types_perm.mem_iff]

theorem EnclosedIn.congr (types_perm : types.Perm types') :
    EnclosedIn types = EnclosedIn types' := by
  funext inner outer
  simp only [EnclosedIn, types_perm.mem_iff]

theorem IsOwner.congr (types_perm : types.Perm types') : IsOwner types = IsOwner types' := by
  funext decl package
  simp only [IsOwner, OwnedBy, EnclosedIn.congr types_perm]

theorem LacksOuter.congr (types_perm : types.Perm types') :
    LacksOuter types = LacksOuter types' := by
  funext decl outer
  simp only [LacksOuter, DeclaresType, types_perm.mem_iff]

theorem LacksOwner.congr (packages_perm : packages.Perm packages')
    (types_perm : types.Perm types') :
    LacksOwner packages types = LacksOwner packages' types' := by
  funext decl owner
  simp only [LacksOwner, IsOwner.congr types_perm, DeclaresPackage, packages_perm.mem_iff]

theorem DistinctPackages.congr (packages_perm : packages.Perm packages') :
    DistinctPackages packages ↔ DistinctPackages packages' :=
  (packages_perm.map PackageDecl.name).nodup_iff

theorem DistinctTypes.congr (types_perm : types.Perm types') :
    DistinctTypes types ↔ DistinctTypes types' :=
  (types_perm.map TypeDecl.qualifiedName).nodup_iff

theorem OutersDeclared.congr (types_perm : types.Perm types') :
    OutersDeclared types ↔ OutersDeclared types' := by
  simp only [OutersDeclared, LacksOuter.congr types_perm, types_perm.mem_iff]

theorem AcyclicSuperclasses.congr (types_perm : types.Perm types') :
    AcyclicSuperclasses types ↔ AcyclicSuperclasses types' := by
  simp only [AcyclicSuperclasses, Extends.congr types_perm]

theorem OwnersDeclared.congr (packages_perm : packages.Perm packages')
    (types_perm : types.Perm types') :
    OwnersDeclared packages types ↔ OwnersDeclared packages' types' := by
  simp only [OwnersDeclared, LacksOwner.congr packages_perm types_perm, types_perm.mem_iff]

theorem setOf_duplicate_congr {names names' : List String} (perm : names.Perm names') :
    {other | List.Duplicate other names} = {other | List.Duplicate other names'} := by
  ext other
  simp only [Set.mem_ofPred_eq, List.duplicate_iff_two_le_count, perm.count_eq]

theorem Sound.congr (packages_perm : packages.Perm packages') (types_perm : types.Perm types')
    (sound : Sound packages types) : Sound packages' types' where
  packages_distinct := (DistinctPackages.congr packages_perm).mp sound.packages_distinct
  types_distinct := (DistinctTypes.congr types_perm).mp sound.types_distinct
  outers_declared := (OutersDeclared.congr types_perm).mp sound.outers_declared
  superclasses_acyclic := (AcyclicSuperclasses.congr types_perm).mp sound.superclasses_acyclic
  owners_declared := (OwnersDeclared.congr packages_perm types_perm).mp sound.owners_declared

theorem Refused.congr (packages_perm : packages.Perm packages') (types_perm : types.Perm types')
    {error : GraphError} (refused : Refused packages types error) :
    Refused packages' types' error := by
  cases refused with
  | duplicatePackage least =>
      rw [setOf_duplicate_congr (packages_perm.map PackageDecl.name)] at least
      exact .duplicatePackage least
  | duplicateType packages_distinct least =>
      rw [setOf_duplicate_congr (types_perm.map TypeDecl.qualifiedName)] at least
      exact .duplicateType ((DistinctPackages.congr packages_perm).mp packages_distinct) least
  | missingEnclosingType packages_distinct types_distinct decl_mem lacks least =>
      rw [LacksOuter.congr types_perm] at lacks
      simp only [LacksOuter.congr types_perm, types_perm.mem_iff] at least
      exact .missingEnclosingType ((DistinctPackages.congr packages_perm).mp packages_distinct)
        ((DistinctTypes.congr types_perm).mp types_distinct) (types_perm.mem_iff.mp decl_mem)
        lacks least
  | supertypeCycle packages_distinct types_distinct outers_declared cycle =>
      rw [Extends.congr types_perm] at cycle
      exact .supertypeCycle ((DistinctPackages.congr packages_perm).mp packages_distinct)
        ((DistinctTypes.congr types_perm).mp types_distinct)
        ((OutersDeclared.congr types_perm).mp outers_declared) cycle
  | missingPackage packages_distinct types_distinct outers_declared superclasses_acyclic decl_mem
      lacks least =>
      rw [LacksOwner.congr packages_perm types_perm] at lacks
      simp only [LacksOwner.congr packages_perm types_perm, types_perm.mem_iff] at least
      exact .missingPackage ((DistinctPackages.congr packages_perm).mp packages_distinct)
        ((DistinctTypes.congr types_perm).mp types_distinct)
        ((OutersDeclared.congr types_perm).mp outers_declared)
        ((AcyclicSuperclasses.congr types_perm).mp superclasses_acyclic)
        (types_perm.mem_iff.mp decl_mem) lacks least

end Permuted

/-! ## What sound declarations have -/

section Sound

variable {packages : List PackageDecl} {types : List TypeDecl}

theorem Sound.declaresPackage_ownerOf (sound : Sound packages types) {decl : TypeDecl}
    (decl_mem : decl ∈ types) : DeclaresPackage packages (ownerOf types decl) := by
  have owner : IsOwner types decl (ownerOf types decl) :=
    (isOwner_iff sound.types_distinct decl_mem).mpr rfl
  by_contra undeclared
  exact sound.owners_declared decl decl_mem _ ⟨owner, undeclared⟩

theorem Sound.findType?_eq_some_iff (sound : Sound packages types) {name : String}
    {decl : TypeDecl} :
    findType? types name = some decl ↔ decl ∈ types ∧ decl.qualifiedName = name :=
  RefDocs.findType?_eq_some_iff sound.types_distinct

end Sound

end RefDocs
