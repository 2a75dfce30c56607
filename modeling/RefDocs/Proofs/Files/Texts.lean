import RefDocs.Proofs.Files.Places

/-!
# The files of a tree

What each operation does to the texts of files: writing changes one place, making a directory
changes none, and removing a tree takes away the files below one place.
-/

namespace RefDocs
namespace FileTree

variable {tree tree' : FileTree} {directory location : Location} {path : String}

/-- The text of the file at a location, if a file stands there. -/
def text? (tree : FileTree) (location : Location) : Option String :=
  match tree.entry? location with
  | some (.file text) => some text
  | _ => none

/-! ## Entries -/

theorem lookup_filter {keep : Location × Entry → Bool} {entries : List (Location × Entry)}
    (kept : ∀ entry, keep (location, entry) = true) :
    (entries.filter keep).lookup location = entries.lookup location := by
  induction entries with
  | nil => rfl
  | cons item rest ih =>
      obtain ⟨place, entry⟩ := item
      by_cases same : location = place
      · subst same
        rw [List.filter_cons_of_pos (kept entry), List.lookup_cons_self, List.lookup_cons_self]
      · by_cases keeps : keep (place, entry) = true
        · rw [List.filter_cons_of_pos keeps, List.lookup_cons, List.lookup_cons, ih]
        · rw [List.filter_cons_of_neg keeps, ih, List.lookup_cons, beq_false_of_ne same]

theorem lookup_filter_eq_none {keep : Location × Entry → Bool} {entries : List (Location × Entry)}
    (dropped : ∀ entry, keep (location, entry) = false) :
    (entries.filter keep).lookup location = none := by
  rw [List.lookup_eq_none_iff]
  rintro ⟨place, entry⟩ item_mem
  rw [bne_iff_ne]
  rintro rfl
  have keeps := (List.mem_filter.mp item_mem).2
  rw [dropped entry] at keeps
  cases keeps

theorem entry?_eq_lookup (tree : FileTree) (location_ne : location ≠ []) :
    tree.entry? location = tree.entries.lookup location := by
  rw [ entry?, if_neg (by simpa using location_ne)]

theorem entry?_put (location_ne : location ≠ []) (entry : Entry) (other : Location) :
    entry? (tree.put location entry) other =
      if other = location then some entry else tree.entry? other := by
  by_cases other_nil : other = []
  · rw [if_neg fun same => location_ne (same.symm.trans other_nil), other_nil]
    rfl
  · rw [entry?_eq_lookup _ other_nil, entry?_eq_lookup _ other_nil, put, List.lookup_cons]
    by_cases same : other = location
    · rw [if_pos same, same, BEq.rfl]
    · rw [if_neg same, beq_false_of_ne same]
      exact lookup_filter fun _ => by simpa using same

theorem entry?_erase (other : Location) :
    entry? (tree.erase location) other =
      if other = location ∧ other ≠ [] then none else tree.entry? other := by
  by_cases other_nil : other = []
  · rw [if_neg fun same => same.2 other_nil, other_nil]
    rfl
  · rw [entry?_eq_lookup _ other_nil, entry?_eq_lookup _ other_nil, erase]
    by_cases same : other = location
    · rw [if_pos ⟨same, other_nil⟩]
      exact lookup_filter_eq_none fun _ => by simpa using same
    · rw [if_neg fun both => same both.1]
      exact lookup_filter fun _ => by simpa using same

theorem isBelow_iff_isPrefixOf {inner outer : Location} :
    inner.IsBelow outer ↔ (outer.isPrefixOf inner && inner != outer) = true := by
  simp [Location.IsBelow]

theorem entry?_eraseBelow (other : Location) :
    entry? (tree.eraseBelow location) other =
      if other.IsBelow location then none else tree.entry? other := by
  by_cases other_nil : other = []
  · have not_below : ¬other.IsBelow location := by
      rintro ⟨inside, other_ne⟩
      rw [other_nil, List.prefix_nil] at inside
      exact other_ne (other_nil.trans inside.symm)
    rw [if_neg not_below, other_nil]
    rfl
  · rw [entry?_eq_lookup _ other_nil, entry?_eq_lookup _ other_nil, eraseBelow]
    simp only [isBelow_iff_isPrefixOf]
    split
    · rename_i below
      exact lookup_filter_eq_none fun _ => by rw [below, Bool.not_true]
    · rename_i not_below
      exact lookup_filter fun _ => by rw [Bool.eq_false_iff.mpr not_below, Bool.not_false]

/-! ## Texts -/

theorem text?_put_file (location_ne : location ≠ []) (text : String) (other : Location) :
    (tree.put location (.file text)).text? other =
      if other = location then some text else tree.text? other := by
  rw [text?, text?, entry?_put location_ne]
  by_cases same : other = location
  · rw [if_pos same, if_pos same]
  · rw [if_neg same, if_neg same]

theorem text?_put_directory (location_ne : location ≠ []) (missing : tree.entry? location = none)
    (other : Location) : (tree.put location .directory).text? other = tree.text? other := by
  rw [text?, text?, entry?_put location_ne]
  by_cases same : other = location
  · rw [if_pos same, same, missing]
  · rw [if_neg same]

theorem text?_erase (is_directory : tree.entry? location = some .directory) (other : Location) :
    (tree.erase location).text? other = tree.text? other := by
  rw [text?, text?, entry?_erase]
  by_cases same : other = location ∧ other ≠ []
  · rw [if_pos same, same.1, is_directory]
  · rw [if_neg same]

theorem text?_eraseBelow (other : Location) :
    (tree.eraseBelow location).text? other =
      if other.IsBelow location then none else tree.text? other := by
  rw [text?, text?, entry?_eraseBelow]
  by_cases below : other.IsBelow location
  · rw [if_pos below, if_pos below]
  · rw [if_neg below, if_neg below]

/-! ## Operations -/

/-- Writing changes the file at the place of the path. -/
theorem text?_of_write {text : String} (written : tree.write directory path text = .ok tree')
    (other : Location) :
    tree'.text? other =
      if other = Path.place directory path then some text else tree.text? other := by
  obtain ⟨location, located, written⟩ := bind_eq_ok_iff.mp written
  obtain rfl := eq_of_locate located
  dsimp only at written
  split at written
  · obtain ⟨_, thrown, -⟩ := bind_eq_ok_iff.mp written
    cases thrown
  · rename_i no_directory
    obtain ⟨_, -, written⟩ := bind_eq_ok_iff.mp written
    obtain rfl := Except.ok.inj written
    refine text?_put_file (fun at_root => no_directory ?_) text other
    rw [at_root]
    rfl

/-- Making a directory changes no file. -/
theorem text?_of_makeDirectory (made : tree.makeDirectory directory path = .ok tree')
    (other : Location) : tree'.text? other = tree.text? other := by
  obtain ⟨⟨isAbsolute, names⟩, -, made⟩ := bind_eq_ok_iff.mp made
  obtain ⟨location, -, made⟩ := bind_eq_ok_iff.mp made
  dsimp only at made
  split at made
  · obtain ⟨_, thrown, -⟩ := bind_eq_ok_iff.mp made
    cases thrown
  · rename_i nothing_there
    obtain ⟨_, -, made⟩ := bind_eq_ok_iff.mp made
    obtain rfl := Except.ok.inj made
    have missing : tree.entry? location = none := by simpa using nothing_there
    refine text?_put_directory (fun at_root => ?_) missing other
    rw [at_root] at missing
    cases missing

/-- Removing a tree either fails at once or takes away the files below the place of the path. -/
theorem text?_of_removeTree {result : Except FileError Unit}
    (removed : tree.removeTree directory path = (result, tree')) :
    (tree' = tree ∧ ∃ error, result = .error error) ∨
      ∀ other, tree'.text? other =
        if other.IsBelow (Path.place directory path) then none else tree.text? other := by
  rw [removeTree] at removed
  split at removed
  · rename_i error _
    obtain ⟨rfl, rfl⟩ := Prod.mk.inj removed
    exact .inl ⟨rfl, error, rfl⟩
  · rename_i location entered
    right
    obtain ⟨place, located, entered⟩ := bind_eq_ok_iff.mp entered
    obtain ⟨is_directory, rfl⟩ := enter_eq_ok_iff.mp entered
    obtain rfl := eq_of_locate located
    have still_directory : entry? (tree.eraseBelow (Path.place directory path))
        (Path.place directory path) = some .directory := by
      rw [entry?_eraseBelow, if_neg fun below => below.2 rfl, is_directory]
    intro other
    rw [← text?_eraseBelow]
    dsimp only at removed
    split at removed
    · obtain ⟨-, rfl⟩ := Prod.mk.inj removed
      rfl
    · obtain ⟨-, rfl⟩ := Prod.mk.inj removed
      rfl
    · obtain ⟨-, rfl⟩ := Prod.mk.inj removed
      exact text?_erase still_directory other

/-! ## Trees of the same kinds -/

/-- What stands at each location of two trees is of one kind. -/
def SameKinds (tree tree' : FileTree) : Prop :=
  ∀ place, (tree.entry? place).map Entry.kind = (tree'.entry? place).map Entry.kind

theorem sameKinds_put (location_ne : location ≠ []) {entry entry' : Entry}
    (kinds_eq : entry.kind = entry'.kind) :
    SameKinds (tree.put location entry) (tree.put location entry') := by
  intro place
  rw [entry?_put location_ne, entry?_put location_ne]
  split
  · exact congrArg some kinds_eq
  · rfl

theorem enter_eq_kind (tree : FileTree) (place : Location) :
    tree.enter place =
      match (tree.entry? place).map Entry.kind with
      | some .directory => .ok place
      | some .file => .error .notDirectory
      | none => .error .notFound := by
  rw [enter]
  rcases tree.entry? place with _ | _ | _
  · rfl
  · rfl
  · rfl

theorem SameKinds.enter_eq (same : SameKinds tree tree') (place : Location) :
    tree.enter place = tree'.enter place := by
  rw [enter_eq_kind, enter_eq_kind, same place]

theorem SameKinds.walk_eq (same : SameKinds tree tree') (place : Location) (names : List String) :
    tree.walk place names = tree'.walk place names := by
  fun_induction FileTree.walk tree place names with
  | case1 here => rfl
  | case2 here name => rfl
  | case3 here name names names_ne ih =>
      rw [walk.eq_3 _ _ _ _ names_ne]
      cases follow here name with
      | error fault => rfl
      | ok next =>
          rw [ok_bind, ok_bind, same.enter_eq]
          cases tree'.enter next with
          | error fault => rfl
          | ok place => exact ih place

theorem SameKinds.locate_eq (same : SameKinds tree tree') (directory : Location) (path : String) :
    tree.locate directory path = tree'.locate directory path := by
  rw [locate, locate]
  refine congrArg _ (funext fun names => ?_)
  exact same.walk_eq _ _

theorem SameKinds.find?_kind_eq (same : SameKinds tree tree') (directory : Location)
    (path : String) :
    (tree.find? directory path).map Entry.kind = (tree'.find? directory path).map Entry.kind := by
  rw [find?, find?, same.locate_eq]
  cases tree'.locate directory path with
  | error fault => rfl
  | ok place => exact same place

/-- A path leads to the text at a location, or reads alike whatever that text is. -/
theorem read_put_cases (tree : FileTree) (location_ne : location ≠ []) (text text' : String)
    (directory : Location) (path : String) :
    read (tree.put location (.file text)) directory path =
        read (tree.put location (.file text')) directory path ∨
      read (tree.put location (.file text)) directory path = .ok text ∧
        read (tree.put location (.file text')) directory path = .ok text' := by
  have same : SameKinds (tree.put location (.file text)) (tree.put location (.file text')) :=
    sameKinds_put location_ne rfl
  rw [read, read, same.locate_eq]
  cases locate (tree.put location (.file text')) directory path with
  | error fault => exact .inl rfl
  | ok place =>
      rw [ok_bind, ok_bind, entry?_put location_ne, entry?_put location_ne]
      by_cases here : place = location
      · rw [if_pos here, if_pos here]
        exact .inr ⟨rfl, rfl⟩
      · rw [if_neg here, if_neg here]
        exact .inl rfl
end FileTree
end RefDocs
