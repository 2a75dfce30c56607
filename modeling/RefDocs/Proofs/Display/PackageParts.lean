import RefDocs.Display.TypeName
import RefDocs.Proofs.Graph.Building
import RefDocs.Proofs.Text.Cutting

/-!
# Package parts of names

The package part of a name is cut off behind a number of bytes.  These are the bytes of the owner
of a declared type, or of the segments in front of the first that starts with an upper-case letter,
and a point stands behind them.  So no name is cut behind its end or inside a character.
-/

namespace RefDocs

/-! ## Leading segments -/

/-- A segment starts with one of the letters from `A` to `Z`. -/
def StartsUpper (segment : String) : Prop :=
  ∃ first rest, segment.toList = first :: rest ∧ 'A' ≤ first ∧ first ≤ 'Z'

/-- The segments of a name in front of the first that starts with an upper-case letter, where there
is one. -/
def HasLeading (name : String) (leading : List String) : Prop :=
  ∃ segment others, Text.split '.' name = leading ++ segment :: others ∧ StartsUpper segment ∧
    ∀ other ∈ leading, ¬StartsUpper other

theorem startsUpper_iff {segment : String} : startsUpper segment = true ↔ StartsUpper segment := by
  have upper_iff (first : Char) : first.isUpper = true ↔ 'A' ≤ first ∧ first ≤ 'Z' :=
    decide_eq_true_iff
  rw [startsUpper, StartsUpper]
  cases segment.toList with
  | nil => simp
  | cons first rest => simp [upper_iff]

/-- Segments are passed with as many points as there are, one more than join them. -/
theorem leadingBytes_append {leading : List String} (leading_ne : leading ≠ [])
    (none_upper : ∀ segment ∈ leading, ¬StartsUpper segment) (others : List String) :
    leadingBytes (leading ++ others) =
      (Text.join "." leading).utf8ByteSize + 1 + leadingBytes others := by
  induction leading with
  | nil => exact absurd rfl leading_ne
  | cons segment rest ih =>
      rw [List.forall_mem_cons, ← startsUpper_iff] at none_upper
      rw [List.cons_append, leadingBytes, if_neg none_upper.1]
      cases rest with
      | nil => simp [Text.join]
      | cons next rest =>
          have point_bytes : ".".utf8ByteSize = 1 := rfl
          rw [ih (List.cons_ne_nil next rest) none_upper.2,
            Text.join_cons (List.cons_ne_nil next rest), String.utf8ByteSize_append,
            String.utf8ByteSize_append, point_bytes]
          omega

theorem leadingBytes_of_upper {segment : String} (upper : StartsUpper segment)
    (others : List String) : leadingBytes (segment :: others) = 0 := by
  rw [leadingBytes, if_pos (startsUpper_iff.mpr upper)]

/-- Where no segment starts with an upper-case letter, the count runs past the end of the name. -/
theorem leadingBytes_split_of_forall {name : String}
    (none_upper : ∀ segment ∈ Text.split '.' name, ¬StartsUpper segment) :
    leadingBytes (Text.split '.' name) = name.utf8ByteSize + 1 := by
  have whole : Text.join "." (Text.split '.' name) = name := Text.join_split '.' name
  have passed := leadingBytes_append (Text.split_ne_nil '.' name) none_upper []
  rwa [List.append_nil, whole] at passed

/-- Behind leading segments stand a point and the other segments. -/
theorem HasLeading.name_eq {name : String} {leading : List String} (leads : HasLeading name leading)
    (leading_ne : leading ≠ []) : ∃ rest, name = Text.join "." leading ++ "." ++ rest := by
  obtain ⟨segment, others, split_eq, -, -⟩ := leads
  refine ⟨Text.join "." (segment :: others), ?_⟩
  rw [← Text.join_append leading_ne (by simp), ← split_eq]
  exact (Text.join_split '.' name).symm

theorem hasLeading_or_forall (name : String) :
    (∃ leading, HasLeading name leading) ∨
      ∀ segment ∈ Text.split '.' name, ¬StartsUpper segment := by
  cases found : (Text.split '.' name).find? startsUpper with
  | none =>
      right
      intro segment segment_mem
      simpa [← startsUpper_iff] using List.find?_eq_none.mp found segment segment_mem
  | some segment =>
      left
      obtain ⟨upper, leading, others, split_eq, none_upper⟩ :=
        List.find?_eq_some_iff_append.mp found
      refine ⟨leading, segment, others, split_eq, startsUpper_iff.mp upper, ?_⟩
      intro other other_mem
      simpa [← startsUpper_iff] using none_upper other other_mem

/-! ## Package parts -/

namespace Graph

variable {graph : Graph} {name package : String} {bytes : Nat}

/-- The package part of a name: the owner of the declared type of that name, where the name goes on
with a point behind it, and otherwise the leading segments, where they are not empty. -/
inductive IsPackagePart (graph : Graph) (name : String) : String → Prop
  /-- The name of a declared type. -/
  | owner {decl : TypeDecl} {rest : String} : graph.type? name = some decl →
    name = graph.ownerName decl ++ "." ++ rest → IsPackagePart graph name (graph.ownerName decl)
  /-- Another name. -/
  | leading {leading : List String} : graph.type? name = none → HasLeading name leading →
    Text.join "." leading ≠ "" → IsPackagePart graph name (Text.join "." leading)

/-- A point stands behind the package part of a name. -/
theorem IsPackagePart.name_eq (part : graph.IsPackagePart name package) :
    ∃ rest, name = package ++ "." ++ rest := by
  cases part with
  | owner _ name_eq => exact ⟨_, name_eq⟩
  | leading _ leads part_ne =>
      refine leads.name_eq ?_
      rintro rfl
      exact part_ne rfl

theorem isPackagePart_of_declared {decl : TypeDecl} (declared : graph.type? name = some decl) :
    graph.IsPackagePart name package ↔
      graph.ownerName decl = package ∧ ∃ rest, name = package ++ "." ++ rest := by
  constructor
  · intro part
    refine ⟨?_, part.name_eq⟩
    cases part with
    | owner found _ => rw [Option.some.inj (declared.symm.trans found)]
    | leading undeclared _ _ =>
        rw [declared] at undeclared
        cases undeclared
  · rintro ⟨rfl, rest, name_eq⟩
    exact .owner declared name_eq

theorem isPackagePart_of_undeclared (undeclared : graph.type? name = none) :
    graph.IsPackagePart name package ↔
      package ≠ "" ∧ ∃ leading, HasLeading name leading ∧ package = Text.join "." leading := by
  constructor
  · intro part
    cases part with
    | owner found _ =>
        rw [undeclared] at found
        cases found
    | leading _ leads part_ne => exact ⟨part_ne, _, leads, rfl⟩
  · rintro ⟨part_ne, leading, leads, rfl⟩
    exact .leading undeclared leads part_ne

theorem packageEnd?_of_declared {decl : TypeDecl} (declared : graph.type? name = some decl) :
    graph.packageEnd? name = some bytes ↔
      (∃ rest, name = graph.ownerName decl ++ "." ++ rest) ∧
        (graph.ownerName decl).utf8ByteSize = bytes := by
  constructor
  · intro found
    rw [packageEnd?, declared] at found
    dsimp only at found
    split at found
    · rename_i rest dropped
      split at found
      · rename_i point
        obtain ⟨others, rest_eq⟩ := List.head?_eq_some_iff.mp point
        refine ⟨⟨String.ofList others, ?_⟩, Option.some.inj found⟩
        rw [Text.dropStart?_eq_some_iff.mp dropped, String.append_assoc, ← String.toList_inj,
          String.toList_append, rest_eq]
        simp
      · cases found
    · cases found
  · rintro ⟨⟨rest, name_eq⟩, rfl⟩
    have dropped : Text.dropStart? (graph.ownerName decl) name = some ("." ++ rest) := by
      rw [Text.dropStart?_eq_some_iff, name_eq, String.append_assoc]
    simp [packageEnd?, declared, dropped]

theorem packageEnd?_of_hasLeading (undeclared : graph.type? name = none) {leading : List String}
    (leads : HasLeading name leading) : graph.packageEnd? name =
      if Text.join "." leading = "" then none else some (Text.join "." leading).utf8ByteSize := by
  have goes_on := leads.name_eq
  obtain ⟨segment, others, split_eq, upper, none_upper⟩ := leads
  rw [packageEnd?, undeclared]
  dsimp only
  rw [split_eq]
  -- No leading segment counts no byte and a single empty one counts its point: the search refuses
  -- either, as neither has a text in front of that point.
  by_cases leading_ne : leading = []
  · subst leading_ne
    rw [List.nil_append, leadingBytes_of_upper upper]
    rfl
  · obtain ⟨rest, name_eq⟩ := goes_on leading_ne
    have fits : (Text.join "." leading).utf8ByteSize + 1 ≤ name.utf8ByteSize := by
      have point_bytes : ".".utf8ByteSize = 1 := rfl
      rw [name_eq, String.utf8ByteSize_append, String.utf8ByteSize_append, point_bytes]
      omega
    rw [leadingBytes_append leading_ne none_upper, leadingBytes_of_upper upper, Nat.add_zero]
    by_cases part_empty : Text.join "." leading = ""
    · simp [part_empty]
    · have part_bytes : (Text.join "." leading).utf8ByteSize ≠ 0 := by
        simpa [String.utf8ByteSize_eq_zero_iff] using part_empty
      simp [part_empty, fits, Nat.pos_of_ne_zero part_bytes]

theorem packageEnd?_of_forall (undeclared : graph.type? name = none)
    (none_upper : ∀ segment ∈ Text.split '.' name, ¬StartsUpper segment) :
    graph.packageEnd? name = none := by
  rw [packageEnd?, undeclared]
  dsimp only
  rw [leadingBytes_split_of_forall none_upper]
  simp

/-- The place of the cut is the end of the package part. -/
theorem packageEnd?_eq_some_iff : graph.packageEnd? name = some bytes ↔
    ∃ package, graph.IsPackagePart name package ∧ package.utf8ByteSize = bytes := by
  constructor
  · intro found
    cases declared : graph.type? name with
    | some decl =>
        obtain ⟨⟨rest, name_eq⟩, bytes_eq⟩ := (packageEnd?_of_declared declared).mp found
        exact ⟨_, .owner declared name_eq, bytes_eq⟩
    | none =>
        rcases hasLeading_or_forall name with ⟨leading, leads⟩ | none_upper
        · rw [packageEnd?_of_hasLeading declared leads] at found
          split at found
          · cases found
          · rename_i part_ne
            exact ⟨_, .leading declared leads part_ne, Option.some.inj found⟩
        · rw [packageEnd?_of_forall declared none_upper] at found
          cases found
  · rintro ⟨package, part, rfl⟩
    cases part with
    | owner declared name_eq => exact (packageEnd?_of_declared declared).mpr ⟨⟨_, name_eq⟩, rfl⟩
    | leading undeclared leads part_ne =>
        rw [packageEnd?_of_hasLeading undeclared leads, if_neg part_ne]

theorem packagePart?_eq_some_iff :
    graph.packagePart? name = some package ↔ graph.IsPackagePart name package := by
  have cut_at {part : String} (is_part : graph.IsPackagePart name part) :
      Text.slice? part.utf8ByteSize name = some part := by
    obtain ⟨rest, name_eq⟩ := is_part.name_eq
    exact Text.slice?_eq_some_iff.mpr ⟨"." ++ rest, by rw [name_eq, String.append_assoc], rfl⟩
  rw [packagePart?, Option.bind_eq_some_iff]
  constructor
  · rintro ⟨bytes, found, cut⟩
    obtain ⟨part, is_part, rfl⟩ := packageEnd?_eq_some_iff.mp found
    rw [cut_at is_part] at cut
    exact Option.some.inj cut ▸ is_part
  · intro is_part
    exact ⟨_, packageEnd?_eq_some_iff.mpr ⟨package, is_part, rfl⟩, cut_at is_part⟩

/-- No name is cut behind its end or inside a character. -/
theorem isValid_packageEnd? (found : graph.packageEnd? name = some bytes) :
    String.Pos.Raw.IsValid name ⟨bytes⟩ := by
  obtain ⟨part, is_part, rfl⟩ := packageEnd?_eq_some_iff.mp found
  obtain ⟨rest, name_eq⟩ := is_part.name_eq
  refine String.Pos.Raw.isValid_iff_exists_append.mpr ⟨part, "." ++ rest, ?_, rfl⟩
  rw [name_eq, String.append_assoc]

variable {snapshot : Snapshot} {rootType : String}

/-- In a graph that was built of a snapshot, the cut behind the package part of a name lies in the
name and in no character, and a point stands behind it.  The part is the owner of the declared type
of that name, and of any other name it consists of all segments in front of the first that starts
with an upper-case letter, which there is. -/
theorem isValid_packageEnd?_and_packagePart?_iff (built : build snapshot rootType = .ok graph)
    (name : String) :
    (∀ bytes, graph.packageEnd? name = some bytes → String.Pos.Raw.IsValid name ⟨bytes⟩) ∧
      (∀ package, graph.packagePart? name = some package →
        ∃ rest, name = package ++ "." ++ rest) ∧
      (∀ decl ∈ snapshot.types, decl.qualifiedName = name → ∀ package,
        (graph.packagePart? name = some package ↔
          IsOwner snapshot.types decl package ∧ ∃ rest, name = package ++ "." ++ rest)) ∧
      (¬DeclaresType snapshot.types name → ∀ package,
        (graph.packagePart? name = some package ↔
          package ≠ "" ∧ ∃ leading, HasLeading name leading ∧ package = Text.join "." leading)) := by
  obtain ⟨-, types_eq, sound⟩ := sound_of_build built
  have types_perm : graph.types.Perm snapshot.types := types_eq ▸ sortByName_perm snapshot.types
  refine ⟨fun bytes => isValid_packageEnd?, ?_, ?_, ?_⟩
  · intro package found
    exact (packagePart?_eq_some_iff.mp found).name_eq
  · rintro decl decl_mem rfl package
    rw [← types_perm.mem_iff] at decl_mem
    have declared : graph.type? decl.qualifiedName = some decl :=
      sound.findType?_eq_some_iff.mpr ⟨decl_mem, rfl⟩
    rw [packagePart?_eq_some_iff, isPackagePart_of_declared declared, ← IsOwner.congr types_perm,
      isOwner_iff sound.types_distinct decl_mem]
    exact Iff.rfl
  · intro undeclared package
    have not_found : graph.type? name = none := by
      rw [type?, findType?_eq_none_iff, DeclaresType]
      simpa only [DeclaresType, types_perm.mem_iff] using undeclared
    rw [packagePart?_eq_some_iff, isPackagePart_of_undeclared not_found]

/-- A package with a character of two bytes in its name, a class and a class in that. -/
def unitSnapshot : Snapshot where
  packages := [{ name := "app.größe" }]
  types :=
    [{ qualifiedName := "app.größe.Maß.Teil", simpleName := "Teil", kind := .classType
       enclosing := .type "app.größe.Maß" },
     { qualifiedName := "app.größe.Maß", simpleName := "Maß", kind := .classType
       enclosing := .package "app.größe" }]

theorem packagePart?_unitSnapshot : ∃ graph decl,
    build unitSnapshot defaultRootType = .ok graph ∧ decl ∈ unitSnapshot.types ∧
      decl.qualifiedName = "app.größe.Maß.Teil" ∧
      graph.packageEnd? "app.größe.Maß.Teil" = some 11 ∧
      String.Pos.Raw.IsValid "app.größe.Maß.Teil" ⟨11⟩ ∧
      IsOwner unitSnapshot.types decl "app.größe" ∧
      ¬DeclaresType unitSnapshot.types "größe..Maß" ∧
      (∃ leading, HasLeading "größe..Maß" leading ∧ "größe." = Text.join "." leading) ∧
      graph.packagePart? "größe..maß" = none := by
  have nested := @isValid_packageEnd?_and_packagePart?_iff _ unitSnapshot defaultRootType rfl
    "app.größe.Maß.Teil"
  have outside := @isValid_packageEnd?_and_packagePart?_iff _ unitSnapshot defaultRootType rfl
    "größe..Maß"
  have undeclared : ¬DeclaresType unitSnapshot.types "größe..Maß" := by
    simp [DeclaresType, unitSnapshot]
  refine ⟨_, _, rfl, List.mem_cons_self, rfl, by decide, nested.1 11 (by decide), ?_, undeclared,
    ?_, by decide⟩
  · exact ((nested.2.2.1 _ List.mem_cons_self rfl "app.größe").mp (by decide)).1
  · exact ((outside.2.2.2 undeclared "größe.").mp (by decide)).2

end Graph
end RefDocs
