import RefDocs.Proofs.Files.Runs

/-!
# Writing pages

A run that writes pages changes files at the places of these pages, and below the output directory
if that is emptied first, and no others.  That holds however the run ends; one that ends well leaves
each page with its text.
-/

namespace RefDocs

open Command

namespace Machine

/-- A machine comes from one that works in a directory by changes to files at certain places. -/
def ChangesOnly (directory : Location) (touched : Location → Prop) (machine machine' : Machine) :
    Prop :=
  machine.directory = directory → machine'.directory = directory ∧
    ∀ location, ¬touched location → machine'.files.text? location = machine.files.text? location

namespace ChangesOnly

variable {directory : Location} {touched : Location → Prop} {machine machine' : Machine}

instance : Std.Refl (ChangesOnly directory touched) :=
  ⟨fun _ in_directory => ⟨in_directory, fun _ _ => rfl⟩⟩

instance : IsTrans Machine (ChangesOnly directory touched) where
  trans _ _ _ first_changes next_changes in_directory := by
    obtain ⟨between_in, first_kept⟩ := first_changes in_directory
    obtain ⟨after_in, next_kept⟩ := next_changes between_in
    refine ⟨after_in, fun location untouched => ?_⟩
    rw [next_kept location untouched, first_kept location untouched]

theorem mono {touched' : Location → Prop} (changes : ChangesOnly directory touched machine machine')
    (wider : ∀ location, touched location → touched' location) :
    ChangesOnly directory touched' machine machine' := by
  intro in_directory
  obtain ⟨after_in, kept⟩ := changes in_directory
  exact ⟨after_in, fun location untouched => kept location (mt (wider location) untouched)⟩

theorem update {result : Except FileError FileTree}
    (kept : machine.directory = directory → ∀ files, result = .ok files →
      ∀ location, ¬touched location → files.text? location = machine.files.text? location) :
    ChangesOnly directory touched machine (machine.update result).2 := by
  intro in_directory
  cases result with
  | error failure => exact ⟨in_directory, fun _ _ => rfl⟩
  | ok files => exact ⟨in_directory, kept in_directory files rfl⟩

end ChangesOnly
end Machine

open Machine (ChangesOnly)

theorem Always.changesOnly_mono {α : Type} {directory : Location}
    {touched touched' : Location → Prop} {action : StateM Machine α}
    (action_always : Always (ChangesOnly directory touched) action)
    (wider : ∀ location, touched location → touched' location) :
    Always (ChangesOnly directory touched') action :=
  fun machine => (action_always machine).mono wider

/-! ## Directories -/

section Directories

variable (directory : Location) (touched : Location → Prop)

theorem ensureDirectory_always (path : String) :
    Always (ChangesOnly directory touched)
      (Host.ensureDirectory path : StateM Machine (Except FileError Unit)) := by
  have makes : Always (ChangesOnly directory touched)
      (Host.makeDirectory path : StateM Machine (Except FileError Unit)) := fun machine =>
    ChangesOnly.update fun _ files made location _ => FileTree.text?_of_makeDirectory made location
  have looks : Always (ChangesOnly directory touched)
      (Host.isDirectory path : StateM Machine Bool) := fun machine => Std.Refl.refl machine
  refine makes.bind fun made => ?_
  split
  · refine looks.bind fun there => ?_
    split
    · exact Always.pure _
    · exact Always.pure _
  · exact Always.pure _

theorem makeFirst_always (paths : List String) :
    Always (ChangesOnly directory touched)
      (Host.makeFirst paths : StateM Machine (Except FileError Unit)) := by
  induction paths with
  | nil => exact Always.pure _
  | cons path above ih =>
      refine (ensureDirectory_always directory touched path).bind fun made => ?_
      split
      · refine ih.bind fun made_above => ?_
        split
        · exact ensureDirectory_always directory touched path
        · exact Always.pure _
      · exact Always.pure _

/-- Making directories changes no file. -/
theorem makeDirectories_always (path : String) :
    Always (ChangesOnly directory touched)
      (Host.makeDirectories path : StateM Machine (Except FileError Unit)) :=
  makeFirst_always directory touched _

end Directories

/-! ## Pages -/

namespace Command

/-- The place of a page's file when pages are written from a working directory. -/
def placeOf (directory : Location) (dir : String) (page : RenderedPage) : Location :=
  Path.place directory (outputPath dir page.path)

variable {directory : Location} {dir : String} {settings : Settings} {machine machine' : Machine}
  {page : RenderedPage} {pages : List RenderedPage}

theorem writeFile_always (path text : String) :
    Always (ChangesOnly directory (· = Path.place directory path))
      (Host.writeFile path text : StateM Machine (Except FileError Unit)) := by
  refine fun machine => ChangesOnly.update fun in_directory files written location untouched => ?_
  rw [FileTree.text?_of_write written location, in_directory, if_neg untouched]

theorem writePage_always (directory : Location) (dir : String) (page : RenderedPage) :
    Always (ChangesOnly directory (· = placeOf directory dir page))
      (writePage dir page : Attempt FileError Unit).run := by
  have writes := @writeFile_always directory (outputPath dir page.path) page.text
  rw [writePage]
  split
  · exact Always.run_bind (makeDirectories_always directory _ _) fun _ => writes
  · exact writes

theorem text?_of_writeFile {path text : String}
    (written : (ExceptT.mk (Host.writeFile path text) : Attempt FileError Unit).run machine =
      (.ok (), machine')) :
    machine'.directory = machine.directory ∧ ∀ location, machine'.files.text? location =
      if location = Path.place machine.directory path then some text
      else machine.files.text? location := by
  change machine.update (machine.files.write machine.directory path text) = _ at written
  cases outcome : machine.files.write machine.directory path text with
  | error failure =>
      rw [outcome] at written
      cases (Prod.mk.inj written).1
  | ok files =>
      rw [outcome] at written
      obtain ⟨-, rfl⟩ := Prod.mk.inj written
      exact ⟨rfl, FileTree.text?_of_write outcome⟩

/-- A page that is written stands at its place, and no other file is changed. -/
theorem text?_of_writePage
    (written : (writePage dir page : Attempt FileError Unit).run machine = (.ok (), machine')) :
    machine'.directory = machine.directory ∧ ∀ location, machine'.files.text? location =
      if location = placeOf machine.directory dir page then some page.text
      else machine.files.text? location := by
  rw [writePage] at written
  split at written
  · rename_i parent _
    obtain ⟨_, between, made, written⟩ := run_bind_eq_ok written
    obtain ⟨directory_eq, texts_eq⟩ :=
      (makeDirectories_always machine.directory (fun _ => False) parent).of_ran made rfl
    obtain ⟨directory_eq', texts_eq'⟩ := text?_of_writeFile written
    refine ⟨directory_eq'.trans directory_eq, fun location => ?_⟩
    rw [texts_eq', directory_eq, texts_eq location not_false, placeOf]
  · exact text?_of_writeFile written

theorem forM_writePage_always (directory : Location) (dir : String) (pages : List RenderedPage) :
    Always (ChangesOnly directory fun location =>
        ∃ page ∈ pages, placeOf directory dir page = location)
      (pages.forM (writePage dir) : Attempt FileError PUnit).run := by
  refine Always.run_forM pages fun page page_mem => ?_
  refine (writePage_always directory dir page).changesOnly_mono ?_
  rintro location rfl
  exact ⟨page, page_mem, rfl⟩

/-- Pages that are written at different places all stand at theirs. -/
theorem text?_of_forM_writePage
    (written : (pages.forM (writePage dir) : Attempt FileError PUnit).run machine =
      (.ok (), machine'))
    (distinct : (pages.map (placeOf machine.directory dir)).Nodup) :
    ∀ page ∈ pages,
      machine'.files.text? (placeOf machine.directory dir page) = some page.text := by
  induction pages generalizing machine with
  | nil => exact nofun
  | cons page rest ih =>
      obtain ⟨_, between, page_written, rest_written⟩ := run_bind_eq_ok written
      obtain ⟨directory_eq, texts_eq⟩ := text?_of_writePage page_written
      rw [List.map_cons, List.nodup_cons] at distinct
      rw [List.forall_mem_cons]
      constructor
      · -- The pages that follow are at other places, so they leave the first one as it is.
        obtain ⟨-, kept⟩ :=
          (forM_writePage_always machine.directory dir rest).of_ran rest_written directory_eq
        rw [kept, texts_eq, if_pos rfl]
        rintro ⟨other, other_mem, same_place⟩
        exact distinct.1 (List.mem_map.mpr ⟨other, other_mem, same_place⟩)
      · rw [← directory_eq] at distinct ⊢
        exact ih rest_written distinct.2

/-! ## The output directory -/

/-- The output directory is removed before pages are written: that is wanted, and its path leads
somewhere. -/
def Empties (settings : Settings) (machine : Machine) : Prop :=
  settings.clean = true ∧ (machine.files.find? machine.directory settings.dir).isSome = true

instance (settings : Settings) (machine : Machine) : Decidable (Empties settings machine) :=
  inferInstanceAs (Decidable (_ ∧ _))

theorem run_cleanOutput (settings : Settings) (machine : Machine) :
    (cleanOutput settings : Attempt FileError Unit).run machine =
      if Empties settings machine then
        ((machine.files.removeTree machine.directory settings.dir).1,
          { machine with files := (machine.files.removeTree machine.directory settings.dir).2 })
      else (.ok (), machine) := by
  rw [cleanOutput]
  by_cases clean : settings.clean = true
  · rw [if_pos clean]
    have looked : (Host.pathExists settings.dir : Attempt FileError Bool).run machine =
        (.ok (machine.files.find? machine.directory settings.dir).isSome, machine) := by
      rw [← Option.isSome_map]
      rfl
    rw [run_bind_of_ok looked]
    by_cases there : (machine.files.find? machine.directory settings.dir).isSome = true
    · rw [if_pos there, if_pos ⟨clean, there⟩]
      rfl
    · rw [if_neg there, if_neg fun empties => there empties.2]
      rfl
  · rw [if_neg clean, if_neg fun empties => clean empties.1]
    rfl

theorem cleanOutput_always (directory : Location) (settings : Settings) :
    Always (ChangesOnly directory (·.IsBelow (Path.place directory settings.dir)))
      (cleanOutput settings : Attempt FileError Unit).run := by
  rintro machine rfl
  rw [run_cleanOutput]
  split
  · refine ⟨rfl, fun location not_below => ?_⟩
    rcases FileTree.text?_of_removeTree (Prod.eta _).symm with ⟨unchanged, -⟩ | texts_eq
    · rw [unchanged]
    · rw [texts_eq, if_neg not_below]
  · exact ⟨rfl, fun _ _ => rfl⟩

/-- A removal that ends well leaves no file below the output directory. -/
theorem text?_of_cleanOutput
    (cleaned : (cleanOutput settings : Attempt FileError Unit).run machine = (.ok (), machine')) :
    machine'.directory = machine.directory ∧ ∀ location, machine'.files.text? location =
      if Empties settings machine ∧
        location.IsBelow (Path.place machine.directory settings.dir) then none
      else machine.files.text? location := by
  rw [run_cleanOutput] at cleaned
  split at cleaned
  · rename_i empties
    obtain ⟨removed, rfl⟩ := Prod.mk.inj cleaned
    refine ⟨rfl, fun location => ?_⟩
    rcases FileTree.text?_of_removeTree (Prod.eta _).symm with ⟨-, error, failed⟩ | texts_eq
    · rw [removed] at failed
      cases failed
    · simp only [texts_eq, empties, true_and]
  · rename_i keeps
    obtain ⟨-, rfl⟩ := Prod.mk.inj cleaned
    exact ⟨rfl, fun location => by rw [if_neg fun both => keeps both.1]⟩

/-! ## The whole -/

/-- However writing pages ends, it changes files below the output directory and at the places of the
pages only. -/
theorem writePages_always (directory : Location) (settings : Settings) (pages : List RenderedPage) :
    Always (ChangesOnly directory fun location =>
        location.IsBelow (Path.place directory settings.dir) ∨
          ∃ page ∈ pages, placeOf directory settings.dir page = location)
      (writePages settings pages : Attempt FileError Unit).run := by
  refine Always.run_bind ?_ fun _ => Always.run_bind ?_ fun _ => ?_
  · exact (cleanOutput_always directory settings).changesOnly_mono fun _ => Or.inl
  · exact makeDirectories_always directory _ settings.dir
  · exact (forM_writePage_always directory settings.dir pages).changesOnly_mono fun _ => Or.inr

/-- Pages that are written at different places stand at theirs, and of the other files those below
the output directory are gone if it is emptied. -/
theorem text?_of_writePages
    (written : (writePages settings pages : Attempt FileError Unit).run machine =
      (.ok (), machine'))
    (distinct : (pages.map (placeOf machine.directory settings.dir)).Nodup) :
    (∀ page ∈ pages,
      machine'.files.text? (placeOf machine.directory settings.dir page) = some page.text) ∧
    ∀ location, (∀ page ∈ pages, placeOf machine.directory settings.dir page ≠ location) →
      machine'.files.text? location =
        if Empties settings machine ∧
          location.IsBelow (Path.place machine.directory settings.dir) then none
        else machine.files.text? location := by
  -- The three steps in order: emptying, making the directory, writing the pages.
  obtain ⟨_, emptied, cleaned, written⟩ := run_bind_eq_ok written
  obtain ⟨_, prepared, made, written⟩ := run_bind_eq_ok written
  obtain ⟨emptied_in, emptied_texts⟩ := text?_of_cleanOutput cleaned
  obtain ⟨prepared_in, prepared_texts⟩ :=
    (makeDirectories_always machine.directory (fun _ => False) settings.dir).of_ran made emptied_in
  obtain ⟨-, kept⟩ :=
    (forM_writePage_always machine.directory settings.dir pages).of_ran written prepared_in
  constructor
  · rw [← prepared_in] at distinct ⊢
    exact text?_of_forM_writePage written distinct
  · intro location elsewhere
    rw [kept, prepared_texts location not_false, emptied_texts]
    rintro ⟨page, page_mem, same_place⟩
    exact elsewhere page page_mem same_place

end Command
end RefDocs
