import RefDocs.Graph.Relations
import RefDocs.Proofs.Graph.Soundness
import RefDocs.Proofs.Text.Cutting

/-!
# Packages, their types and the packages around them

The parent of a package has its name up to the last point.  A package owns the types at the end of
whose enclosing chains it is.
-/

namespace RefDocs

namespace Text

theorem beforeLast?_eq_some {separator : Char} {text last : String} {pieces : List String}
    (split_eq : split separator text = pieces ++ [last]) (pieces_ne : pieces ≠ []) :
    beforeLast? separator text = some (join (String.singleton separator) pieces) := by
  obtain ⟨first, rest, rfl⟩ := List.exists_cons_of_ne_nil pieces_ne
  rw [beforeLast?, split_eq]
  cases rest with
  | nil => rfl
  | cons second others =>
      have last_dropped : (first :: second :: others ++ [last]).dropLast =
          first :: second :: others := List.dropLast_concat
      exact congrArg (fun pieces => some (join (String.singleton separator) pieces)) last_dropped

/-- The part of a text before a separator is cut off there if no other separator comes later. -/
theorem beforeLast?_eq_some_iff {separator : Char} {text front : String} :
    beforeLast? separator text = some front ↔
      ∃ last, separator ∉ last.toList ∧ text = front ++ String.singleton separator ++ last := by
  constructor
  · intro cut
    obtain ⟨pieces, last, split_eq⟩ :=
      (List.eq_nil_or_concat (split separator text)).resolve_left (split_ne_nil separator text)
    rw [List.concat_eq_append] at split_eq
    by_cases pieces_nil : pieces = []
    · rw [beforeLast?, split_eq, pieces_nil] at cut
      cases cut
    · rw [beforeLast?_eq_some split_eq pieces_nil, Option.some_inj] at cut
      have last_mem : last ∈ split separator text := split_eq ▸ List.mem_append_right _ (by simp)
      refine ⟨last, (mem_split last_mem).1, ?_⟩
      rw [← join_split separator text, split_eq, join_concat pieces_nil, cut]
  · rintro ⟨last, free, rfl⟩
    have split_eq : split separator (front ++ String.singleton separator ++ last) =
        split separator front ++ [last] := by
      rw [split_append, split_of_not_mem free]
    rw [beforeLast?_eq_some split_eq (split_ne_nil _ _), join_split]

end Text

/-- A package name is another with a point and a name without points behind it. -/
def IsChildName (parent child : String) : Prop :=
  ∃ simple, '.' ∉ simple.toList ∧ child = parent ++ "." ++ simple

namespace Graph

variable {graph : Graph}

theorem parentPackage?_eq_some_iff (sound : Sound graph.packages graph.types)
    {decl parent : PackageDecl} :
    graph.parentPackage? decl = some parent ↔
      decl.included = true ∧ parent ∈ graph.packages ∧ parent.included = true ∧
        IsChildName parent.name decl.name := by
  have found_iff (name : String) :
      graph.package? name = some parent ↔ parent ∈ graph.packages ∧ parent.name = name :=
    find?_name_eq_some_iff sound.packages_distinct
  have child_iff : Text.beforeLast? '.' decl.name = some parent.name ↔
      IsChildName parent.name decl.name :=
    Text.beforeLast?_eq_some_iff
  rw [parentPackage?]
  split
  · rename_i known
    rw [Option.filter_eq_some_iff, Option.bind_eq_some_iff, ← child_iff]
    simp only [found_iff, known, true_and]
    constructor
    · rintro ⟨⟨name, cut, declared, rfl⟩, parent_known⟩
      exact ⟨declared, parent_known, cut⟩
    · rintro ⟨declared, parent_known, cut⟩
      exact ⟨⟨_, cut, declared, rfl⟩, parent_known⟩
  · rename_i unknown
    simp [unknown]

theorem mem_childPackages_iff (sound : Sound graph.packages graph.types) {parent : PackageDecl}
    (parent_mem : parent ∈ graph.packages) (known : parent.included = true) {child : PackageDecl} :
    child ∈ graph.childPackages parent.name ↔
      child ∈ graph.packages ∧ child.included = true ∧ IsChildName parent.name child.name := by
  rw [childPackages, List.mem_filter, Option.any_eq_true]
  refine and_congr_right fun child_mem => ?_
  constructor
  · rintro ⟨found, found_eq, name_eq⟩
    obtain ⟨child_known, found_mem, -, is_child⟩ := (parentPackage?_eq_some_iff sound).mp found_eq
    exact ⟨child_known, beq_iff_eq.mp name_eq ▸ is_child⟩
  · rintro ⟨child_known, is_child⟩
    exact ⟨parent, (parentPackage?_eq_some_iff sound).mpr
      ⟨child_known, parent_mem, known, is_child⟩, beq_self_eq_true _⟩

theorem nodup_childPackages (sound : Sound graph.packages graph.types) (name : String) :
    ((graph.childPackages name).map PackageDecl.name).Nodup :=
  sound.packages_distinct.sublist (List.filter_sublist.map _)

theorem mem_typesInPackage_iff (sound : Sound graph.packages graph.types) {name : String}
    {decl : TypeDecl} :
    decl ∈ graph.typesInPackage name ↔
      decl ∈ graph.types ∧ decl.included = true ∧ IsOwner graph.types decl name := by
  rw [typesInPackage, List.mem_filter, Bool.and_eq_true, beq_iff_eq]
  refine and_congr_right fun decl_mem => and_congr_right fun _ => ?_
  exact (isOwner_iff sound.types_distinct decl_mem).symm

theorem nodup_typesInPackage (sound : Sound graph.packages graph.types) (name : String) :
    ((graph.typesInPackage name).map TypeDecl.qualifiedName).Nodup :=
  sound.types_distinct.sublist (List.filter_sublist.map _)

end Graph
end RefDocs
