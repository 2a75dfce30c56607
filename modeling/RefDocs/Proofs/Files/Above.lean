import Mathlib.Data.List.Infix
import RefDocs.Proofs.Files.Places

/-!
# Directories above

Going up from the path of a directory leads through the paths of all directories on the way to it,
the nearest first, and ends at the root directory.
-/

namespace RefDocs

/-- A name that an entry of a directory can have. -/
def IsEntryName (name : String) : Prop :=
  name ∉ ["", ".", ".."] ∧ '/' ∉ name.toList

instance (name : String) : Decidable (IsEntryName name) :=
  inferInstanceAs (Decidable (_ ∧ _))

theorem IsEntryName.not_isIdle {name : String} (named : IsEntryName name) :
    Path.isIdle name = false := by
  simp only [IsEntryName, List.mem_cons, not_or] at named
  simp [Path.isIdle, named.1]

/-- A location that names lead to as they are. -/
def Location.IsNamed (location : Location) : Prop :=
  ∀ name ∈ location, IsEntryName name

instance (location : Location) : Decidable location.IsNamed :=
  inferInstanceAs (Decidable (∀ name ∈ location, IsEntryName name))

namespace Location

variable {location above : Location} {name : String}

theorem IsNamed.of_prefix (named : location.IsNamed) (inside : above <+: location) :
    above.IsNamed :=
  fun name name_mem => named name (inside.subset name_mem)

theorem isNamed_concat_iff : IsNamed (above ++ [name]) ↔ above.IsNamed ∧ IsEntryName name := by
  simp only [IsNamed, List.forall_mem_append, List.forall_mem_singleton]

theorem IsNamed.dropEndWhile_eq (named : location.IsNamed) :
    Text.dropEndWhile Path.isIdle location = location := by
  rcases List.eq_nil_or_concat' location with rfl | ⟨above, name, rfl⟩
  · rfl
  · have not_idle := (isNamed_concat_iff.mp named).2.not_isIdle
    simp [Text.dropEndWhile, not_idle]

end Location

theorem Path.length_lt_length_join (base : String) {name : String} (named : IsEntryName name) :
    base.length < (join base name).length := by
  have name_ne : name ≠ "" := fun name_eq => named.1 (by simp [name_eq])
  have positive : 0 < name.length := Nat.pos_of_ne_zero (String.length_eq_zero_iff.not.mpr name_ne)
  rw [join, isAbsolute_of_slash_free named.2, if_neg (by decide)]
  split
  · rw [String.length_append]
    omega
  · rw [String.length_append, String.length_append]
    omega

namespace Machine

variable {location above : Location} {name : String}

/-! ## Paths of locations -/

theorem split_pathOf (location_ne : location ≠ []) (named : location.IsNamed) :
    Text.split '/' (pathOf location) = "" :: location := by
  have slash_free : ∀ name ∈ location, '/' ∉ name.toList :=
    fun name name_mem => (named name name_mem).2
  have cut := Text.split_append '/' "" (Text.join (String.singleton '/') location)
  rw [Text.split_join location_ne slash_free] at cut
  exact cut

theorem splitStart_pathOf (location : Location) :
    Path.splitStart (pathOf location) = ("/", Text.join "/" location) := by
  simp [Path.splitStart, pathOf]

/-- A name joined to the path of a directory makes the path of the entry with that name. -/
theorem join_pathOf (named : above.IsNamed) (slash_free : '/' ∉ name.toList) :
    Path.join (pathOf above) name = pathOf (above ++ [name]) := by
  rw [Path.join, Path.isAbsolute_of_slash_free slash_free, if_neg (by decide)]
  by_cases above_nil : above = []
  · subst above_nil
    rw [if_pos (by decide)]
    simp [pathOf, Text.join]
  · have no_end : Text.endsWith "/" (pathOf above) = false := by
      rw [← Bool.not_eq_true, Text.endsWith_iff]
      rintro ⟨front, path_eq⟩
      have cut := Text.split_append '/' front ""
      rw [String.append_empty, ← show pathOf above = front ++ String.singleton '/' from path_eq,
        split_pathOf above_nil named] at cut
      have last_eq := congrArg List.getLast? cut
      have last_mem : "" ∈ above := by
        obtain ⟨first, rest, rfl⟩ := List.exists_cons_of_ne_nil above_nil
        rw [List.getLast?_cons_cons, show Text.split '/' "" = [""] from rfl,
          List.getLast?_concat] at last_eq
        exact List.mem_of_getLast? last_eq
      exact (named "" last_mem).1 (by simp)
    have not_empty : (pathOf above).isEmpty = false := by simp [pathOf]
    rw [no_end, not_empty, if_neg (by decide), pathOf, pathOf, Text.join_concat above_nil]
    simp only [String.append_assoc]

/-! ## Going up -/

theorem parent?_pathOf_nil : Path.parent? (pathOf []) = none := by
  decide

theorem parent?_pathOf_concat (above_named : above.IsNamed) (named : IsEntryName name) :
    Path.parent? (pathOf (above ++ [name])) = some (pathOf above) := by
  have whole_named := Location.isNamed_concat_iff.mpr ⟨above_named, named⟩
  have cut : Text.split '/' (Text.join "/" (above ++ [name])) = above ++ [name] :=
    Text.split_join (by simp) fun name name_mem => (whole_named name name_mem).2
  rw [Path.parent?, splitStart_pathOf]
  dsimp only
  rw [cut, whole_named.dropEndWhile_eq]
  split
  · rename_i location_eq
    simp at location_eq
  · rw [List.dropLast_concat, above_named.dropEndWhile_eq, pathOf]

/-- Going up often enough leads through the directories on the way. -/
theorem upwards_pathOf {steps : Nat} (enough : location.length ≤ steps)
    (named : location.IsNamed) :
    Path.upwards steps (pathOf location) = location.inits.reverse.map pathOf := by
  induction location using List.reverseRecOn generalizing steps with
  | nil =>
      cases steps with
      | zero => rfl
      | succ steps => rw [Path.upwards, parent?_pathOf_nil]; rfl
  | append_singleton above name ih =>
      rw [List.length_append, List.length_singleton] at enough
      obtain ⟨steps, rfl⟩ : ∃ fewer, steps = fewer + 1 := ⟨steps - 1, by omega⟩
      obtain ⟨above_named, name_named⟩ := Location.isNamed_concat_iff.mp named
      rw [Path.upwards, parent?_pathOf_concat above_named name_named, Option.map_some,
        Option.getD_some, ih (by omega) above_named, List.inits_append]
      simp

theorem length_le_length_pathOf (named : location.IsNamed) :
    location.length ≤ (pathOf location).length := by
  induction location using List.reverseRecOn with
  | nil => exact Nat.zero_le _
  | append_singleton above name ih =>
      obtain ⟨above_named, name_named⟩ := Location.isNamed_concat_iff.mp named
      have longer := Path.length_lt_length_join (pathOf above) name_named
      rw [join_pathOf above_named name_named.2] at longer
      have := ih above_named
      rw [List.length_append, List.length_singleton]
      omega

theorem ancestors_pathOf (named : location.IsNamed) :
    Path.ancestors (pathOf location) = location.inits.reverse.map pathOf :=
  upwards_pathOf (length_le_length_pathOf named) named

/-! ## What stands at a location -/

/-- A way that can be walked: a directory stands at each place on it, and no name and not the whole
path is too long or holds a null character. -/
structure IsOpenWay (tree : FileTree) (location : Location) : Prop where
  standing : ∀ place, place <+: location → place ≠ location → tree.entry? place = some .directory
  names_short : ∀ name ∈ location, name.utf8ByteSize ≤ 255
  path_short : (pathOf location).utf8ByteSize ≤ 4095
  null_free : '\x00' ∉ (pathOf location).toList

theorem follow_eq_ok {directory : Location} (named : IsEntryName name)
    (short : name.utf8ByteSize ≤ 255) :
    FileTree.follow directory name = .ok (directory ++ [name]) := by
  simp only [IsEntryName, List.mem_cons, not_or] at named
  simp [FileTree.follow, named.1, short]

theorem walk_eq_ok {tree : FileTree} {place names : Location} (named : names.IsNamed)
    (short : ∀ name ∈ names, name.utf8ByteSize ≤ 255)
    (standing : ∀ front, front <+: names → front ≠ [] → front ≠ names →
      tree.entry? (place ++ front) = some .directory) :
    tree.walk place names = .ok (place ++ names) := by
  fun_induction FileTree.walk tree place names with
  | case1 here => rw [List.append_nil]
  | case2 here name => exact follow_eq_ok (named name (by simp)) (short name (by simp))
  | case3 here name names names_ne ih =>
      rw [Location.IsNamed, List.forall_mem_cons] at named
      rw [List.forall_mem_cons] at short
      have names_nil : names ≠ [] := names_ne
      have next_standing : tree.entry? (here ++ [name]) = some .directory :=
        standing [name] (by simp) (by simp) (by simpa using Ne.symm names_nil)
      rw [follow_eq_ok named.1 short.1, ok_bind, FileTree.enter_eq_ok_iff.mpr ⟨next_standing, rfl⟩,
        ok_bind, ih _ named.2 short.2, List.append_assoc, List.singleton_append]
      intro front inside front_nil front_ne
      rw [List.append_assoc, List.singleton_append]
      exact standing (name :: front) (List.cons_prefix_cons.mpr ⟨rfl, inside⟩) (by simp)
        (by simpa using front_ne)

/-- The path of a location at the end of a way that can be walked leads to what stands there. -/
theorem find?_pathOf {tree : FileTree} (directory : Location) (location_ne : location ≠ [])
    (named : location.IsNamed) (way : IsOpenWay tree location) :
    tree.find? directory (pathOf location) = tree.entry? location := by
  have names_eq : FileTree.namesOf (pathOf location) = .ok (true, location) := by
    have not_empty : (pathOf location).isEmpty = false := by simp [pathOf]
    have null_free := way.null_free
    have path_short := way.path_short
    rw [FileTree.namesOf, not_empty, if_neg (by decide), if_neg (by simpa using null_free),
      if_neg (by omega), split_pathOf location_ne named]
    rfl
  have walked : tree.walk [] location = .ok location :=
    walk_eq_ok named way.names_short fun front inside _ front_ne =>
      way.standing front inside front_ne
  have located : tree.locate directory (pathOf location) = .ok location := by
    rw [FileTree.locate, names_eq, ok_bind]
    exact walked
  rw [FileTree.find?, located]

end Machine
end RefDocs
