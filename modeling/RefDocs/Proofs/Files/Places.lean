import RefDocs.Command.Build
import RefDocs.Proofs.Outcome
import RefDocs.Proofs.Text.Reserved

/-!
# Places that paths lead to

Where a path leads does not depend on what is there: a tree only decides whether the path can be
walked.  So each path has one place, and the place of a joined path is reached name by name from the
place of its first part.
-/

namespace RefDocs

namespace Location

/-- Where a name leads from a place. -/
def step (place : Location) (name : String) : Location :=
  if name = "" ∨ name = "." then place else if name = ".." then place.dropLast else place ++ [name]

/-- Where names lead from a place, one after the other. -/
def steps (place : Location) (names : List String) : Location :=
  names.foldl step place

/-- A place is inside another one, at any depth. -/
def IsBelow (inner outer : Location) : Prop :=
  outer <+: inner ∧ inner ≠ outer

instance (inner outer : Location) : Decidable (IsBelow inner outer) :=
  inferInstanceAs (Decidable (_ ∧ _))

theorem steps_append (place : Location) (left right : List String) :
    steps place (left ++ right) = steps (steps place left) right :=
  List.foldl_append

theorem steps_empty_cons (place : Location) (names : List String) :
    steps place ("" :: names) = steps place names := by
  rw [steps, List.foldl_cons, step, if_pos (.inl rfl), steps]

/-- Names that do not go up lead to a place that is not above. -/
theorem prefix_steps {names : List String} (no_up : ".." ∉ names) (place : Location) :
    place <+: steps place names := by
  induction names generalizing place with
  | nil => exact List.prefix_refl place
  | cons name rest ih =>
      rw [List.mem_cons, not_or] at no_up
      have place_prefix : place <+: step place name := by
        rw [step, if_neg (Ne.symm no_up.1)]
        split
        · exact List.prefix_refl place
        · exact List.prefix_append place [name]
      exact place_prefix.trans (ih no_up.2 (step place name))

/-- Names that do not go up and end in the name of an entry lead to a place inside. -/
theorem isBelow_steps {names : List String} {last : String} (no_up : ".." ∉ names)
    (last_ne : last ≠ "" ∧ last ≠ "." ∧ last ≠ "..") (place : Location) :
    IsBelow (steps place (names ++ [last])) place := by
  have inside := prefix_steps no_up place
  have place_eq : steps place (names ++ [last]) = steps place names ++ [last] := by
    rw [steps_append, steps, List.foldl_cons, List.foldl_nil, step,
      if_neg (not_or.mpr ⟨last_ne.1, last_ne.2.1⟩), if_neg last_ne.2.2]
  rw [place_eq]
  refine ⟨inside.trans (List.prefix_append _ _), fun places_eq => ?_⟩
  have length_eq := congrArg List.length places_eq
  have := inside.length_le
  simp only [List.length_append, List.length_singleton] at length_eq
  omega

end Location

namespace Path

/-- Where a path leads from a directory. -/
def place (directory : Location) (path : String) : Location :=
  Location.steps (if isAbsolute path then [] else directory) (Text.split '/' path)

/-- A path that is not empty is absolute if nothing stands before its first slash. -/
theorem split_eq_empty_cons_iff {path : String} (path_ne : path ≠ "") :
    (∃ names, Text.split '/' path = "" :: names) ↔ isAbsolute path = true := by
  obtain ⟨char, rest, chars_eq⟩ :=
    List.exists_cons_of_ne_nil (String.toList_eq_nil_iff.not.mpr path_ne)
  rw [Text.split, isAbsolute, chars_eq, Text.splitList]
  by_cases slash : char = '/'
  · simp [slash]
  · rw [if_neg slash]
    split
    · simp [slash, ← String.toList_inj]
    · simp [slash, ← String.toList_inj]

end Path

/-! ## Walking leads to the place -/

namespace FileTree

variable {tree : FileTree} {directory location : Location}

theorem eq_of_follow {name : String} (followed : follow directory name = .ok location) :
    location = Location.step directory name := by
  rw [follow] at followed
  rw [Location.step]
  split at followed
  · rename_i idle
    rw [if_pos (by simpa using idle)]
    exact (Except.ok.inj followed).symm
  · rename_i not_idle
    rw [if_neg (by simpa using not_idle)]
    split at followed
    · rename_i up
      rw [if_pos (by simpa using up)]
      exact (Except.ok.inj followed).symm
    · rename_i not_up
      rw [if_neg (by simpa using not_up)]
      split at followed
      · cases followed
      · exact (Except.ok.inj followed).symm

theorem enter_eq_ok_iff : tree.enter directory = .ok location ↔
    tree.entry? directory = some .directory ∧ directory = location := by
  rw [enter]
  split
  · rename_i found
    simp [found]
  · rename_i found
    simp [found]
  · rename_i missing
    simp [missing]

theorem eq_of_walk {names : List String} (walked : tree.walk directory names = .ok location) :
    location = Location.steps directory names := by
  fun_induction FileTree.walk tree directory names with
  | case1 here => exact (Except.ok.inj walked).symm
  | case2 here name => exact eq_of_follow walked
  | case3 here name names names_ne ih =>
      obtain ⟨next, followed, walked⟩ := bind_eq_ok_iff.mp walked
      obtain ⟨place, entered, walked⟩ := bind_eq_ok_iff.mp walked
      obtain ⟨-, rfl⟩ := enter_eq_ok_iff.mp entered
      obtain rfl := eq_of_follow followed
      exact ih _ walked

theorem namesOf_eq_ok {path : String} {isAbsolute : Bool} {names : List String}
    (named : namesOf path = .ok (isAbsolute, names)) (directory : Location) :
    Location.steps (if isAbsolute then [] else directory) names = Path.place directory path := by
  have slash_first := @Path.split_eq_empty_cons_iff path
  simp only [namesOf] at named
  split at named
  · cases named
  · rename_i path_ne
    replace slash_first := slash_first (by simpa using path_ne)
    split at named
    · cases named
    · split at named
      · cases named
      · split at named
        · rename_i names' split_eq
          obtain ⟨rfl, rfl⟩ := Prod.mk.inj (Except.ok.inj named)
          rw [Path.place, slash_first.mp ⟨_, split_eq⟩, split_eq, Location.steps_empty_cons]
        · rename_i names' not_empty
          obtain ⟨rfl, rfl⟩ := Prod.mk.inj (Except.ok.inj named)
          have relative : Path.isAbsolute path = false := by
            rw [← Bool.not_eq_true, ← slash_first]
            rintro ⟨names, split_eq⟩
            exact not_empty names split_eq
          rw [Path.place, relative]

theorem eq_of_locate {path : String} (located : tree.locate directory path = .ok location) :
    location = Path.place directory path := by
  obtain ⟨⟨isAbsolute, names⟩, named, walked⟩ := bind_eq_ok_iff.mp located
  rw [← namesOf_eq_ok named]
  exact eq_of_walk walked

end FileTree

/-! ## Joined paths -/

namespace Path

theorem isAbsolute_append {path : String} (path_ne : path ≠ "") (rest : String) :
    isAbsolute (path ++ rest) = isAbsolute path := by
  obtain ⟨char, others, chars_eq⟩ :=
    List.exists_cons_of_ne_nil (String.toList_eq_nil_iff.not.mpr path_ne)
  simp [isAbsolute, chars_eq]

theorem isAbsolute_of_slash_free {path : String} (slash_free : '/' ∉ path.toList) :
    isAbsolute path = false := by
  rw [isAbsolute, beq_eq_false_iff_ne]
  exact fun slash_first => slash_free (List.mem_of_mem_head? slash_first)

/-- A segment that is joined to a path leads on from the place of the path. -/
theorem place_join (directory : Location) (base : String) {segment : String}
    (slash_free : '/' ∉ segment.toList) :
    place directory (join base segment) = Location.step (place directory base) segment := by
  have split_segment := Text.split_of_not_mem slash_free
  rw [join, isAbsolute_of_slash_free slash_free, if_neg (by simp)]
  by_cases base_empty : base = ""
  · subst base_empty
    rw [if_pos (by rfl), String.empty_append, place, isAbsolute_of_slash_free slash_free,
      split_segment]
    rfl
  · split
    · rename_i ends
      obtain ⟨front, rfl⟩ := Text.endsWith_iff.mp (by simpa [base_empty] using ends)
      have split_base : Text.split '/' (front ++ "/") = Text.split '/' front ++ [""] := by
        have nothing_behind := Text.split_append '/' front ""
        rwa [String.append_empty] at nothing_behind
      have split_joined : Text.split '/' (front ++ "/" ++ segment) =
          Text.split '/' front ++ Text.split '/' segment :=
        Text.split_append '/' front segment
      rw [place, place, isAbsolute_append base_empty, split_joined, split_base, split_segment,
        Location.steps_append, Location.steps_append]
      rfl
    · have split_joined : Text.split '/' (base ++ "/" ++ segment) =
          Text.split '/' base ++ Text.split '/' segment :=
        Text.split_append '/' base segment
      rw [place, place, split_joined, String.append_assoc, isAbsolute_append base_empty,
        split_segment, Location.steps_append]
      rfl

/-- The path of a page's file leads from the output directory along the path of the page. -/
theorem place_outputPath (directory : Location) (base page : String) :
    place directory (Command.outputPath base page) =
      Location.steps (place directory base) (Text.split '/' page) := by
  rw [Command.outputPath]
  have segments_free : ∀ segment ∈ Text.split '/' page, '/' ∉ segment.toList :=
    fun segment segment_mem => (Text.mem_split segment_mem).1
  generalize Text.split '/' page = segments at segments_free
  induction segments generalizing base with
  | nil => rfl
  | cons segment rest ih =>
      rw [List.forall_mem_cons] at segments_free
      rw [List.foldl_cons, ih _ segments_free.2, place_join directory base segments_free.1,
        Location.steps, Location.steps, List.foldl_cons]

end Path
end RefDocs
