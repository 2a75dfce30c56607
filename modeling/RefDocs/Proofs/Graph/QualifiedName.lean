import RefDocs.Proofs.Graph.Soundness
import RefDocs.Proofs.Text.Cutting

/-!
# Qualified names

Where every type is named after what it is declared in, its qualified name is the name of the
package at the end of its enclosing chain, followed by the simple names of the chain from the
outermost type on.
-/

namespace RefDocs

/-- The name of a package or type that a type is declared in. -/
def Enclosing.name : Enclosing → String
  | .package name => name
  | .type name => name

namespace Graph

/-- No package name and no simple name of a type holds a slash. -/
structure SlashFree (graph : Graph) : Prop where
  /-- Package names hold no slash. -/
  packages_slash_free : ∀ package ∈ graph.packages, '/' ∉ package.name.toList
  /-- Simple names hold no slash. -/
  types_slash_free : ∀ decl ∈ graph.types, '/' ∉ decl.simpleName.toList

/-- Packages have dotted names, and types are named after what they are declared in. -/
structure WellNamed (graph : Graph) : Prop extends graph.SlashFree where
  /-- No segment of a package name is empty. -/
  packages_dotted : ∀ package ∈ graph.packages, "" ∉ Text.split '.' package.name
  /-- Simple names are not empty, and hold neither of the characters that join them. -/
  types_simple : ∀ decl ∈ graph.types,
    decl.simpleName ≠ "" ∧ '.' ∉ decl.simpleName.toList ∧ '$' ∉ decl.simpleName.toList
  /-- A qualified name extends that of the enclosing declaration. -/
  types_qualified : ∀ decl ∈ graph.types,
    decl.qualifiedName = decl.enclosing.name ++ "." ++ decl.simpleName

variable {graph : Graph}

theorem WellNamed.not_unnamed (named : graph.WellNamed) :
    ¬DeclaresPackage graph.packages "" := by
  rintro ⟨package, package_mem, name_eq⟩
  have no_empty_segment := named.packages_dotted package package_mem
  rw [name_eq] at no_empty_segment
  exact no_empty_segment (by decide)

/-- Where every package has a name, every enclosing chain ends in a package. -/
theorem outermost_enclosing (sound : Sound graph.packages graph.types)
    (all_named : ¬DeclaresPackage graph.packages "") {decl : TypeDecl}
    (decl_mem : decl ∈ graph.types) :
    (outermost graph.types graph.types.length decl).enclosing =
      .package (graph.ownerName decl) := by
  have owner_declared : DeclaresPackage graph.packages (graph.ownerName decl) :=
    sound.declaresPackage_ownerOf decl_mem
  cases enclosing_eq : (outermost graph.types graph.types.length decl).enclosing with
  | package name => rw [ownerName, ownerOf_eq, enclosing_eq]
  | type name =>
      rw [ownerName, ownerOf_eq, enclosing_eq] at owner_declared
      exact absurd owner_declared all_named

/-! ## Simple names -/

/-- The simple names of a type and the types around it, outermost first. -/
def simpleNames (graph : Graph) (decl : TypeDecl) : List String :=
  (graph.enclosingChain decl).reverse.map TypeDecl.simpleName

theorem simpleNames_ne_nil (graph : Graph) (decl : TypeDecl) : graph.simpleNames decl ≠ [] := by
  simp [simpleNames, enclosingChain, outward_ne_nil]

theorem exists_of_mem_simpleNames {decl : TypeDecl} (decl_mem : decl ∈ graph.types) {name : String}
    (name_mem : name ∈ graph.simpleNames decl) :
    ∃ outer ∈ graph.types, outer.simpleName = name := by
  obtain ⟨outer, outer_mem, name_eq⟩ := List.mem_map.mp name_mem
  exact ⟨outer, outward_subset decl_mem _ (List.mem_reverse.mp outer_mem), name_eq⟩

theorem qualifiedName_eq_outward (named : graph.WellNamed) {decl : TypeDecl}
    (decl_mem : decl ∈ graph.types) (steps : Nat) :
    decl.qualifiedName = (outermost graph.types steps decl).enclosing.name ++ "." ++
      Text.join "." ((outward graph.types steps decl).reverse.map TypeDecl.simpleName) := by
  induction steps generalizing decl with
  | zero =>
      rw [named.types_qualified decl decl_mem, outermost_zero]
      simp [outward, Text.join]
  | succ steps ih =>
      cases step : outerType? graph.types decl with
      | none =>
          rw [outermost_of_none step (steps + 1), named.types_qualified decl decl_mem]
          simp [outward_succ, step, Text.join]
      | some outer =>
          obtain ⟨outer_mem, enclosing_eq⟩ := enclosedIn_of_stepsTo step
          have names_ne :
              (outward graph.types steps outer).reverse.map TypeDecl.simpleName ≠ [] := by
            simp [outward_ne_nil]
          rw [outermost_of_some steps step, outward_succ, step, Option.elim_some,
            List.reverse_cons, List.map_append, List.map_singleton, Text.join_concat names_ne,
            ← String.append_assoc, ← String.append_assoc, ← ih outer_mem,
            named.types_qualified decl decl_mem, enclosing_eq, Enclosing.name]

/-- The name of a type consists of the name of its owner and its simple names. -/
theorem qualifiedName_eq (sound : Sound graph.packages graph.types) (named : graph.WellNamed)
    {decl : TypeDecl} (decl_mem : decl ∈ graph.types) :
    decl.qualifiedName =
      graph.ownerName decl ++ "." ++ Text.join "." (graph.simpleNames decl) := by
  rw [qualifiedName_eq_outward named decl_mem graph.types.length,
    outermost_enclosing sound named.not_unnamed decl_mem, Enclosing.name]
  rfl

/-- A type has one simple name exactly if it is declared directly in its owner. -/
theorem simpleNames_eq_singleton_iff (sound : Sound graph.packages graph.types)
    (named : graph.WellNamed) {decl : TypeDecl} (decl_mem : decl ∈ graph.types)
    {package name : String} :
    graph.ownerName decl = package ∧ graph.simpleNames decl = [name] ↔
      decl.enclosing = .package package ∧ decl.simpleName = name := by
  have outermost_eq := outermost_enclosing sound named.not_unnamed decl_mem
  constructor
  · rintro ⟨rfl, names_eq⟩
    obtain ⟨outers, chain_eq⟩ := exists_outward_eq_cons graph.types graph.types.length decl
    rw [simpleNames, enclosingChain, chain_eq] at names_eq
    obtain rfl : outers = [] := by
      have length_eq := congrArg List.length names_eq
      simpa using length_eq
    rw [outermost_eq_of_outward_eq chain_eq] at outermost_eq
    exact ⟨outermost_eq, by simpa using names_eq⟩
  · rintro ⟨enclosing_eq, rfl⟩
    have chain_eq : outward graph.types graph.types.length decl = [decl] :=
      outward_of_none (outerType?_eq_none_of_package enclosing_eq) _
    rw [outermost_eq_of_outward_eq chain_eq, enclosing_eq] at outermost_eq
    constructor
    · exact (Enclosing.package.inj outermost_eq).symm
    · simp [simpleNames, enclosingChain, chain_eq]

end Graph
end RefDocs
