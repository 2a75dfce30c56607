import RefDocs.Graph.Relations
import RefDocs.Proofs.Graph.Walk
import RefDocs.Proofs.Text.NameOrder

/-!
# Enclosing chains and owners

The owner of a type is the package at the end of its enclosing chain.  Following the chain for as
many steps as there are types reaches its end, if it has one.
-/

namespace RefDocs

theorem findType?_isSome_iff {types : List TypeDecl} {name : String} :
    (findType? types name).isSome ↔ ∃ decl ∈ types, decl.qualifiedName = name :=
  find?_name_isSome_iff

theorem mem_of_findType? {types : List TypeDecl} {name : String} {decl : TypeDecl}
    (found : findType? types name = some decl) : decl ∈ types ∧ decl.qualifiedName = name :=
  exists_of_find?_name found

theorem findType?_eq_some_iff {types : List TypeDecl}
    (distinct : (types.map TypeDecl.qualifiedName).Nodup) {name : String} {decl : TypeDecl} :
    findType? types name = some decl ↔ decl ∈ types ∧ decl.qualifiedName = name :=
  find?_name_eq_some_iff distinct

/-- A type is declared directly inside a declared type. -/
def EnclosedIn (types : List TypeDecl) (inner outer : TypeDecl) : Prop :=
  outer ∈ types ∧ inner.enclosing = .type outer.qualifiedName

/-- A package is at the end of a type's enclosing chain. -/
def OwnedBy (types : List TypeDecl) (decl : TypeDecl) (package : String) : Prop :=
  ∃ top, Relation.ReflTransGen (EnclosedIn types) decl top ∧ top.enclosing = .package package

/-- A package counts as the owner of a type: it is at the end of the enclosing chain, or it is the
package without a name and the chain never comes to a package. -/
def IsOwner (types : List TypeDecl) (decl : TypeDecl) (package : String) : Prop :=
  OwnedBy types decl package ∨ package = "" ∧ ∀ other, ¬OwnedBy types decl other

/-- The declared type around a type. -/
def outerType? (types : List TypeDecl) (decl : TypeDecl) : Option TypeDecl :=
  decl.enclosingType?.bind (findType? types)

theorem enclosingType?_eq_some_iff {decl : TypeDecl} {name : String} :
    decl.enclosingType? = some name ↔ decl.enclosing = .type name := by
  cases enclosing_eq : decl.enclosing with
  | package other => simp [TypeDecl.enclosingType?, enclosing_eq]
  | type other => simp [TypeDecl.enclosingType?, enclosing_eq]

theorem outerType?_eq_none_of_package {types : List TypeDecl} {decl : TypeDecl} {package : String}
    (enclosing_eq : decl.enclosing = .package package) : outerType? types decl = none := by
  simp [outerType?, TypeDecl.enclosingType?, enclosing_eq]

theorem enclosedIn_of_stepsTo {types : List TypeDecl} {inner outer : TypeDecl}
    (step : StepsTo (outerType? types) inner outer) : EnclosedIn types inner outer := by
  obtain ⟨name, enclosing_eq, found⟩ := Option.bind_eq_some_iff.mp step
  obtain ⟨outer_mem, rfl⟩ := mem_of_findType? found
  exact ⟨outer_mem, enclosingType?_eq_some_iff.mp enclosing_eq⟩

theorem enclosedIn_eq_stepsTo {types : List TypeDecl}
    (distinct : (types.map TypeDecl.qualifiedName).Nodup) :
    EnclosedIn types = StepsTo (outerType? types) := by
  funext inner outer
  refine propext ⟨?_, enclosedIn_of_stepsTo⟩
  rintro ⟨outer_mem, enclosing_eq⟩
  rw [StepsTo, outerType?, enclosingType?_eq_some_iff.mpr enclosing_eq, Option.bind_some]
  exact (findType?_eq_some_iff distinct).mpr ⟨outer_mem, rfl⟩

theorem outward_succ (types : List TypeDecl) (steps : Nat) (decl : TypeDecl) :
    outward types (steps + 1) decl =
      decl :: ((outerType? types decl).elim [] (outward types steps)) := by
  rw [outward, outerType?]
  cases decl.enclosingType?.bind (findType? types) with
  | none => rfl
  | some outer => rfl

theorem exists_outward_eq_cons (types : List TypeDecl) (steps : Nat) (decl : TypeDecl) :
    ∃ outers, outward types steps decl = decl :: outers := by
  cases steps with
  | zero => exact ⟨[], rfl⟩
  | succ steps => exact ⟨_, outward_succ types steps decl⟩

theorem outward_ne_nil (types : List TypeDecl) (steps : Nat) (decl : TypeDecl) :
    outward types steps decl ≠ [] := by
  obtain ⟨outers, chain_eq⟩ := exists_outward_eq_cons types steps decl
  simp [chain_eq]

theorem outward_of_none {types : List TypeDecl} {decl : TypeDecl}
    (stops : outerType? types decl = none) (steps : Nat) : outward types steps decl = [decl] := by
  cases steps with
  | zero => rfl
  | succ steps => simp [outward_succ, stops]

theorem outward_subset {types : List TypeDecl} {decl : TypeDecl} (decl_mem : decl ∈ types)
    (steps : Nat) : outward types steps decl ⊆ types := by
  induction steps generalizing decl with
  | zero => simpa [outward] using decl_mem
  | succ steps ih =>
      rw [outward_succ]
      cases step : outerType? types decl with
      | none => simpa using decl_mem
      | some outer =>
          have outer_mem : outer ∈ types := (enclosedIn_of_stepsTo step).1
          simpa using ⟨decl_mem, ih outer_mem⟩

/-- The outermost type that is come to in a number of steps. -/
def outermost (types : List TypeDecl) (steps : Nat) (decl : TypeDecl) : TypeDecl :=
  (outward types steps decl).getLast (outward_ne_nil types steps decl)

theorem outermost_eq_of_outward_eq {types : List TypeDecl} {decl : TypeDecl} {steps : Nat}
    (chain_eq : outward types steps decl = [decl]) : outermost types steps decl = decl := by
  simp [outermost, chain_eq]

theorem outermost_zero (types : List TypeDecl) (decl : TypeDecl) :
    outermost types 0 decl = decl := rfl

theorem outermost_of_none {types : List TypeDecl} {decl : TypeDecl}
    (stops : outerType? types decl = none) (steps : Nat) : outermost types steps decl = decl :=
  outermost_eq_of_outward_eq (outward_of_none stops steps)

theorem outermost_of_some {types : List TypeDecl} {decl outer : TypeDecl} (steps : Nat)
    (step : outerType? types decl = some outer) :
    outermost types (steps + 1) decl = outermost types steps outer := by
  simp [outermost, outward_succ, step, outward_ne_nil]

theorem reaches_outermost (types : List TypeDecl) (steps : Nat) (decl : TypeDecl) :
    Relation.ReflTransGen (StepsTo (outerType? types)) decl (outermost types steps decl) := by
  induction steps generalizing decl with
  | zero => exact Relation.ReflTransGen.refl
  | succ steps ih =>
      cases step : outerType? types decl with
      | none =>
          rw [outermost_of_none step (steps + 1)]
      | some outer =>
          rw [outermost_of_some steps step]
          exact (ih outer).head step

/-- As many steps as there are types that have not been passed lead to the end of the chain. -/
theorem outerType?_outermost_eq_none {types passed : List TypeDecl} {decl : TypeDecl} {steps : Nat}
    (trail : Trail (outerType? types) types passed decl) (decl_mem : decl ∈ types)
    (enough : types.length ≤ passed.length + steps) (ends : Ends (outerType? types) decl) :
    outerType? types (outermost types steps decl) = none := by
  have decl_new := trail.not_mem_of_ends ends
  induction steps generalizing passed decl with
  | zero =>
      have := trail.length_lt decl_mem decl_new
      omega
  | succ steps ih =>
      cases step : outerType? types decl with
      | none => rw [outermost_of_none step (steps + 1), step]
      | some outer =>
          rw [outermost_of_some steps step]
          have outer_trail := trail.extend decl_mem decl_new step
          have outer_ends : Ends (outerType? types) outer := ends.inv step
          refine ih outer_trail (enclosedIn_of_stepsTo step).1 ?_ outer_ends
            (outer_trail.not_mem_of_ends outer_ends)
          simp only [List.length_cons]
          omega

theorem ownerOf_eq (types : List TypeDecl) (decl : TypeDecl) :
    ownerOf types decl =
      match (outermost types types.length decl).enclosing with
      | .package name => name
      | .type _ => "" := by
  rw [ownerOf, List.getLast?_eq_getLast_of_ne_nil (outward_ne_nil types types.length decl),
    Option.map_some, ← outermost]
  cases (outermost types types.length decl).enclosing with
  | package name => rfl
  | type name => rfl

/-- The package at the end of a chain is where the outermost type is declared. -/
theorem ownedBy_iff_outermost {types : List TypeDecl}
    (distinct : (types.map TypeDecl.qualifiedName).Nodup) {decl : TypeDecl}
    (decl_mem : decl ∈ types) {package : String} :
    OwnedBy types decl package ↔
      (outermost types types.length decl).enclosing = .package package := by
  have reaches := reaches_outermost types types.length decl
  rw [OwnedBy, enclosedIn_eq_stepsTo distinct]
  constructor
  · rintro ⟨top, top_reached, top_enclosing⟩
    have top_stops : outerType? types top = none := outerType?_eq_none_of_package top_enclosing
    have ends : Ends (outerType? types) decl :=
      Ends.of_reaches top_reached (ends_of_eq_none top_stops)
    have outermost_stops : outerType? types (outermost types types.length decl) = none :=
      outerType?_outermost_eq_none (Trail.start _ types decl) decl_mem (by simp) ends
    rw [← end_unique top_reached top_stops reaches outermost_stops]
    exact top_enclosing
  · intro outermost_enclosing
    exact ⟨_, reaches, outermost_enclosing⟩

theorem isOwner_iff {types : List TypeDecl}
    (distinct : (types.map TypeDecl.qualifiedName).Nodup) {decl : TypeDecl}
    (decl_mem : decl ∈ types) {package : String} :
    IsOwner types decl package ↔ ownerOf types decl = package := by
  simp only [IsOwner, ownedBy_iff_outermost distinct decl_mem]
  rw [ownerOf_eq]
  cases (outermost types types.length decl).enclosing with
  | package name => simp
  | type name => simp [eq_comm]

end RefDocs
