import RefDocs.Proofs.Settings.Loaded

/-!
# Layers of settings

Each setting of a run is what the command line says, or else what the configuration file chooses, or
else a default.  The configuration file is the one that is named, or else the nearest one.
-/

namespace RefDocs
namespace Settings

open Machine (pathOf)

variable {machine : Machine}

/-! ## Sources -/

theorem isEntryName_configurationName : IsEntryName configurationName := by
  decide

/-- The path of the configuration file in a directory. -/
def configurationPath (above : Location) : String :=
  Path.join (pathOf above) configurationName

/-- The configuration file of a directory is found. -/
def HasConfiguration (machine : Machine) (above : Location) : Prop :=
  ∃ text, machine.files.find? machine.directory (configurationPath above) = some (.file text)

/-- At the end of a way that can be walked, that is so if the file stands there. -/
theorem hasConfiguration_iff {above : Location} (named : above.IsNamed)
    (way : Machine.IsOpenWay machine.files (above ++ [configurationName])) :
    HasConfiguration machine above ↔
      ∃ text, machine.files.entry? (above ++ [configurationName]) = some (.file text) := by
  have whole_named : Location.IsNamed (above ++ [configurationName]) :=
    Location.isNamed_concat_iff.mpr ⟨named, isEntryName_configurationName⟩
  rw [HasConfiguration, configurationPath,
    Machine.join_pathOf named isEntryName_configurationName.2,
    Machine.find?_pathOf _ (by simp) whole_named way]

/-- The configuration file that is read where one is named or none is, and the directory that the
output directory is taken from: that of the file, or else the working directory. -/
inductive IsSource (machine : Machine) : Option String → Option String → String → Prop where
  /-- The file that is named. -/
  | named {path : String} (there : (machine.files.find? machine.directory path).isSome = true) :
      IsSource machine (some path) (some path) ((Path.parent? path).getD ".")
  /-- The file of the working directory or of the nearest one above that has such a file. -/
  | nearest {above : Location} (inside : above <+: machine.directory)
      (has : HasConfiguration machine above)
      (none_nearer : ∀ nearer, nearer <+: machine.directory → above.length < nearer.length →
        ¬ HasConfiguration machine nearer) :
      IsSource machine none (some (configurationPath above)) (pathOf above)
  /-- No file. -/
  | missing (none_above : ∀ above, above <+: machine.directory → ¬ HasConfiguration machine above) :
      IsSource machine none none (pathOf machine.directory)

/-- What is chosen by a file that is read, or by none. -/
inductive IsChosen (machine : Machine) : Option String → Choices → Prop where
  | file {path text : String} {choices : Choices}
      (reads : machine.files.read machine.directory path = .ok text)
      (decoded : Choices.ofText? text = some choices) : IsChosen machine (some path) choices
  | nothing : IsChosen machine none {}

/-- Each setting is what overrides it, or else what is chosen, or else the default.  An output
directory that does not override is taken from a directory. -/
structure IsLayered (overrides : Overrides) (choices : Choices) (directory : String)
    (settings : Settings) : Prop where
  dir : settings.dir =
    overrides.dir?.getD (Path.join directory (choices.dir?.getD "build/apidoc"))
  extension : settings.extension = (overrides.extension?.or choices.extension?).getD "md"
  lineSeparator :
    settings.lineSeparator = (overrides.lineSeparator?.or choices.lineSeparator?).getD .lf
  tableStyle : settings.tableStyle = (overrides.tableStyle?.or choices.tableStyle?).getD .html
  clean : settings.clean = (overrides.clean?.or choices.clean?).getD true
  noComment : settings.noComment = (overrides.noComment?.or choices.noComment?).getD false
  rootType : settings.rootType = choices.rootType?.getD "java.lang.Object"
  showHierarchy : settings.showHierarchy = choices.showHierarchy?.getD true
  constantsPage : settings.constantsPage = choices.constantsPage?.getD true

theorem nearest_of_find? {test : Location → Bool} {directory above : Location}
    (found : directory.inits.reverse.find? test = some above) :
    above <+: directory ∧ test above = true ∧
      ∀ nearer, nearer <+: directory → above.length < nearer.length → test nearer = false := by
  induction directory using List.reverseRecOn with
  | nil =>
      have passes := List.find?_some found
      obtain rfl : above = [] := by simpa using List.mem_of_find?_eq_some found
      refine ⟨List.prefix_rfl, passes, fun nearer inside longer => ?_⟩
      rw [List.prefix_nil.mp inside] at longer
      exact absurd longer (Nat.lt_irrefl 0)
  | append_singleton outer name ih =>
      have inits_eq : (outer ++ [name]).inits.reverse =
          (outer ++ [name]) :: outer.inits.reverse := by
        rw [List.inits_append]
        simp
      rw [inits_eq, List.find?_cons] at found
      cases passes : test (outer ++ [name]) with
      | true =>
          rw [passes] at found
          obtain rfl := Option.some_inj.mp found
          exact ⟨List.prefix_rfl, passes, fun nearer inside longer =>
            absurd inside.length_le (Nat.not_le_of_lt longer)⟩
      | false =>
          rw [passes] at found
          obtain ⟨inside, above_passes, none_nearer⟩ := ih found
          refine ⟨inside.trans (List.prefix_append _ _), above_passes, ?_⟩
          intro nearer nearer_in longer
          rcases List.prefix_concat_iff.mp nearer_in with rfl | nearer_in
          · exact passes
          · exact none_nearer nearer nearer_in longer

/-- The first directory that passes, going up, is the nearest that does. -/
theorem find?_reverse_inits_eq_some_iff {test : Location → Bool} {directory above : Location} :
    directory.inits.reverse.find? test = some above ↔ above <+: directory ∧ test above = true ∧
      ∀ nearer, nearer <+: directory → above.length < nearer.length → test nearer = false := by
  refine ⟨nearest_of_find?, fun ⟨inside, passes, none_nearer⟩ => ?_⟩
  cases found : directory.inits.reverse.find? test with
  | none => exact absurd passes (List.find?_eq_none.mp found above (by simpa using inside))
  | some other =>
      obtain ⟨other_inside, other_passes, none_nearer'⟩ := nearest_of_find? found
      have length_eq : above.length = other.length := by
        rcases Nat.lt_trichotomy above.length other.length with shorter | same | longer
        · rw [none_nearer other other_inside shorter] at other_passes
          cases other_passes
        · exact same
        · rw [none_nearer' above inside longer] at passes
          cases passes
      have within := List.prefix_of_prefix_length_le inside other_inside length_eq.le
      rw [within.eq_of_length length_eq]

theorem findsFile_eq_true_iff {path : String} : findsFile machine path = true ↔
    ∃ text, machine.files.find? machine.directory path = some (.file text) := by
  rw [findsFile]
  rcases machine.files.find? machine.directory path with _ | text | _
  · simp
  · simp [Entry.kind]
  · simp [Entry.kind]

theorem candidates_eq (named : machine.directory.IsNamed) :
    candidates machine = machine.directory.inits.reverse.map configurationPath := by
  rw [candidates, Machine.ancestors_pathOf named, List.map_map]
  rfl

theorem parent?_configurationPath {above : Location} (named : above.IsNamed) :
    Path.parent? (configurationPath above) = some (pathOf above) := by
  rw [configurationPath, Machine.join_pathOf named isEntryName_configurationName.2,
    Machine.parent?_pathOf_concat named isEntryName_configurationName]

/-- The directory that the output directory is taken from. -/
def sourceDirectory (machine : Machine) : Option String → String
  | some path => (Path.parent? path).getD "."
  | none => pathOf machine.directory

/-- The source is what is looked for and found. -/
theorem isSource_iff {path? source : Option String} {directory : String}
    (named : machine.directory.IsNamed) :
    IsSource machine path? source directory ↔
      source? machine path? = .ok source ∧ directory = sourceDirectory machine source := by
  constructor
  · intro is_source
    cases is_source with
    | named there => exact ⟨if_pos there, rfl⟩
    | @nearest above inside has none_nearer =>
        have nearest : machine.directory.inits.reverse.find?
            (findsFile machine ∘ configurationPath) = some above :=
          find?_reverse_inits_eq_some_iff.mpr ⟨inside, findsFile_eq_true_iff.mpr has,
            fun nearer nearer_in longer => Bool.eq_false_iff.mpr fun finds =>
              none_nearer nearer nearer_in longer (findsFile_eq_true_iff.mp finds)⟩
        rw [source?, candidates_eq named, List.find?_map, nearest, sourceDirectory,
          parent?_configurationPath (named.of_prefix inside)]
        exact ⟨rfl, rfl⟩
    | missing none_above =>
        have missing : machine.directory.inits.reverse.find?
            (findsFile machine ∘ configurationPath) = none :=
          List.find?_eq_none.mpr fun above above_mem finds =>
            none_above above (by simpa using above_mem) (findsFile_eq_true_iff.mp finds)
        rw [source?, candidates_eq named, List.find?_map, missing]
        exact ⟨rfl, rfl⟩
  · rintro ⟨found, rfl⟩
    cases path? with
    | some path =>
        rw [source?] at found
        split at found
        · rename_i there
          obtain rfl := Except.ok.inj found
          exact .named there
        · cases found
    | none =>
        rw [source?, candidates_eq named, List.find?_map] at found
        obtain rfl := Except.ok.inj found
        cases nearest : machine.directory.inits.reverse.find?
          (findsFile machine ∘ configurationPath) with
        | none =>
            refine .missing fun above inside has => ?_
            have above_mem : above ∈ machine.directory.inits.reverse := by simpa using inside
            exact List.find?_eq_none.mp nearest above above_mem (findsFile_eq_true_iff.mpr has)
        | some above =>
            obtain ⟨inside, finds, none_nearer⟩ := find?_reverse_inits_eq_some_iff.mp nearest
            rw [Option.map_some, sourceDirectory,
              parent?_configurationPath (named.of_prefix inside), Option.getD_some]
            refine .nearest inside (findsFile_eq_true_iff.mp finds) ?_
            intro nearer nearer_in longer has
            exact Bool.eq_false_iff.mp (none_nearer nearer nearer_in longer)
              (findsFile_eq_true_iff.mpr has)

/-! ## Settings -/

theorem isLayered_defaults (directory : String) :
    IsLayered {} {} directory { dir := Path.join directory defaultDir } := by
  constructor <;> rfl

theorem isLayered_ofChoices (path : String) (choices : Choices) :
    IsLayered {} choices ((Path.parent? path).getD ".") (ofChoices path choices) := by
  constructor
  case dir =>
    simp only [ofChoices, choose, override]
    cases choices.dir? with
    | none => rfl
    | some dir => rfl
  all_goals rfl

theorem IsLayered.override {choices : Choices} {directory : String} {settings : Settings}
    (layered : IsLayered {} choices directory settings) (overrides : Overrides) :
    IsLayered overrides choices directory (settings.override overrides) where
  dir := by rw [Settings.override, layered.dir, Option.getD_none]
  extension := by rw [Settings.override, layered.extension, Option.none_or, Option.getD_or]
  lineSeparator := by
    rw [Settings.override, layered.lineSeparator, Option.none_or, Option.getD_or]
  tableStyle := by rw [Settings.override, layered.tableStyle, Option.none_or, Option.getD_or]
  clean := by rw [Settings.override, layered.clean, Option.none_or, Option.getD_or]
  noComment := by rw [Settings.override, layered.noComment, Option.none_or, Option.getD_or]
  rootType := layered.rootType
  showHierarchy := layered.showHierarchy
  constantsPage := layered.constantsPage

/-- Layers decide all settings but the file that was read. -/
theorem IsLayered.eq {overrides : Overrides} {choices : Choices} {directory : String}
    {settings settings' : Settings} (layered : IsLayered overrides choices directory settings)
    (layered' : IsLayered overrides choices directory settings')
    (paths_eq : settings.path? = settings'.path?) : settings = settings' := by
  cases settings
  cases settings'
  simp only [Settings.mk.injEq]
  exact ⟨layered.dir.trans layered'.dir.symm, layered.extension.trans layered'.extension.symm,
    layered.lineSeparator.trans layered'.lineSeparator.symm,
    layered.tableStyle.trans layered'.tableStyle.symm, layered.clean.trans layered'.clean.symm,
    layered.rootType.trans layered'.rootType.symm, layered.noComment.trans layered'.noComment.symm,
    layered.showHierarchy.trans layered'.showHierarchy.symm,
    layered.constantsPage.trans layered'.constantsPage.symm, paths_eq⟩

/-- What a source gives is what its file chooses, if that can be used. -/
theorem ofSource_eq_ok_iff {source : Option String} {settings : Settings} :
    ofSource machine source = .ok settings ↔
      ∃ choices dir?, IsChosen machine source choices ∧
        expandedDir? machine.valueOf? choices = .ok dir? ∧ settings.path? = source ∧
        IsLayered {} { choices with dir? } (sourceDirectory machine source) settings ∧
        IsBareExtension settings.extension ∧ settings.rootType ≠ "" := by
  cases source with
  | none =>
      constructor
      · intro given
        obtain rfl := Except.ok.inj given
        have bare : IsBareExtension "md" := (@isBareExtension_getD_iff none).mpr nofun
        have rooted : defaultRootType ≠ "" := by decide
        exact ⟨{}, none, .nothing, rfl, rfl, isLayered_defaults _, bare, rooted⟩
      · rintro ⟨choices, dir?, ⟨⟩, expanded, path_eq, layered, -⟩
        obtain rfl := Except.ok.inj expanded
        exact congrArg Except.ok ((isLayered_defaults _).eq layered path_eq.symm)
  | some path =>
      constructor
      · intro given
        obtain ⟨text, choices, dir?, reads, decoded, expanded, rfl, usable⟩ :=
          ofReading_eq_ok_iff.mp given
        exact ⟨choices, dir?, .file reads decoded, expanded, rfl, isLayered_ofChoices path _,
          usable⟩
      · rintro ⟨choices, dir?, ⟨reads, decoded⟩, expanded, path_eq, layered, usable⟩
        have own_eq := (isLayered_ofChoices path { choices with dir? }).eq layered path_eq.symm
        exact ofReading_eq_ok_iff.mpr ⟨_, choices, dir?, reads, decoded, expanded, own_eq, usable⟩

theorem overridden_eq_ok_iff {own settings : Settings} {overrides? : Option Overrides}
    (usable : IsBareExtension own.extension ∧ own.rootType ≠ "") :
    own.overridden overrides? = .ok settings ↔ own.override (overrides?.getD {}) = settings ∧
      IsBareExtension settings.extension ∧ settings.rootType ≠ "" := by
  cases overrides? with
  | none => exact ⟨fun same => Except.ok.inj same ▸ ⟨rfl, usable⟩, fun same => congrArg _ same.1⟩
  | some overrides =>
      rw [overridden, accepted_eq_ok_iff, Option.getD_some]
      refine and_congr_right fun same => ?_
      rw [same]

theorem IsChosen.exists_isLayered {source dir? : Option String} {choices : Choices}
    (chosen : IsChosen machine source choices)
    (expanded : expandedDir? machine.valueOf? choices = .ok dir?) :
    ∃ own : Settings, own.path? = source ∧
      IsLayered {} { choices with dir? } (sourceDirectory machine source) own := by
  cases chosen with
  | @file path _ _ _ _ =>
      exact ⟨ofChoices path { choices with dir? }, rfl, isLayered_ofChoices path _⟩
  | nothing =>
      obtain rfl := Except.ok.inj expanded
      exact ⟨_, rfl, isLayered_defaults _⟩

/-- Settings are loaded exactly if each is what the command line says, or else what the file of
their source chooses, or else the default, and they can be used.  What the file chooses has to be
usable as well, also where the command line says otherwise. -/
theorem loaded_eq_ok_iff_isLayered (named : machine.directory.IsNamed) (path? : Option String)
    (overrides? : Option Overrides) (settings : Settings) :
    loaded machine path? overrides? = .ok settings ↔
      ∃ choices dir? directory, IsSource machine path? settings.path? directory ∧
        IsChosen machine settings.path? choices ∧
        expandedDir? machine.valueOf? choices = .ok dir? ∧
        (∀ extension ∈ choices.extension?, IsBareExtension extension) ∧
        IsLayered (overrides?.getD {}) { choices with dir? } directory settings ∧
        IsBareExtension settings.extension ∧ settings.rootType ≠ "" := by
  rw [loaded_eq]
  constructor
  · intro loads
    obtain ⟨own, given, overrides⟩ := bind_eq_ok_iff.mp loads
    obtain ⟨source, found, given⟩ := bind_eq_ok_iff.mp given
    obtain ⟨choices, dir?, chosen, expanded, rfl, layered, usable⟩ := ofSource_eq_ok_iff.mp given
    obtain ⟨rfl, usable'⟩ := (overridden_eq_ok_iff usable).mp overrides
    have own_bare : ∀ extension ∈ choices.extension?, IsBareExtension extension := by
      rw [← isBareExtension_getD_iff]
      exact layered.extension ▸ usable.1
    exact ⟨choices, dir?, _, (isSource_iff named).mpr ⟨found, rfl⟩, chosen, expanded, own_bare,
      layered.override _, usable'⟩
  · rintro ⟨choices, dir?, directory, is_source, chosen, expanded, own_bare, layered, usable⟩
    obtain ⟨found, rfl⟩ := (isSource_iff named).mp is_source
    obtain ⟨own, path_eq, own_layered⟩ := chosen.exists_isLayered expanded
    have own_usable : IsBareExtension own.extension ∧ own.rootType ≠ "" := by
      rw [own_layered.extension, own_layered.rootType, ← layered.rootType]
      exact ⟨isBareExtension_getD_iff.mpr own_bare, usable.2⟩
    have given : ofSource machine settings.path? = .ok own :=
      ofSource_eq_ok_iff.mpr ⟨choices, dir?, chosen, expanded, path_eq, own_layered, own_usable⟩
    have settings_eq := (own_layered.override (overrides?.getD {})).eq layered path_eq
    exact bind_eq_ok_iff.mpr ⟨own, bind_eq_ok_iff.mpr ⟨_, found, given⟩,
      (overridden_eq_ok_iff own_usable).mpr ⟨settings_eq, usable⟩⟩

/-- A machine with a configuration file above its working directory. -/
def siteMachine : Machine where
  files := ⟨[(["work"], .directory), (["work", "src"], .directory),
    (["work", "apidoc.toml"], .file
      "[output]\ndir = \"$\x7bSITE\x7d/api\"\nextension = \"txt\"\n[render]\nno_comment = true\n")]⟩
  directory := ["work", "src"]
  environment := [("SITE", "site")]

/-- The settings of a run there that overrides the extension and the form of tables. -/
def siteSettings : Settings where
  dir := "/work/site/api"
  extension := "html"
  tableStyle := .markdown
  noComment := true
  path? := some "/work/apidoc.toml"

theorem isLayered_siteSettings :
    siteMachine.directory.IsNamed ∧
      loaded siteMachine none
        (some { extension? := some "html", tableStyle? := some .markdown }) = .ok siteSettings ∧
      ∃ choices dir? directory, IsSource siteMachine none siteSettings.path? directory ∧
        IsChosen siteMachine siteSettings.path? choices ∧
        expandedDir? siteMachine.valueOf? choices = .ok dir? ∧
        (∀ extension ∈ choices.extension?, IsBareExtension extension) ∧
        IsLayered { extension? := some "html", tableStyle? := some .markdown }
          { choices with dir? } directory siteSettings ∧
        IsBareExtension siteSettings.extension ∧ siteSettings.rootType ≠ "" := by
  have named : siteMachine.directory.IsNamed := by decide
  have loads : loaded siteMachine none
      (some { extension? := some "html", tableStyle? := some .markdown }) = .ok siteSettings := by
    rw [loaded_eq]
    decide +kernel
  exact ⟨named, loads, (loaded_eq_ok_iff_isLayered named _ _ _).mp loads⟩

end Settings
end RefDocs
