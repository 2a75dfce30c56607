import RefDocs.Proofs.Settings.Loaded

/-!
# Overridden choices

A configuration file is filled in and checked as it stands before the command line overrides what it
chooses.  So a choice that is overridden decides whether the file can be loaded at all, and nothing
else.
-/

namespace RefDocs

/-- Two files choose the same but for what is overridden. -/
structure Choices.AgreeBut (overrides : Overrides) (left right : Choices) : Prop where
  dir : overrides.dir? = none → left.dir? = right.dir?
  extension : overrides.extension? = none → left.extension? = right.extension?
  lineSeparator : overrides.lineSeparator? = none → left.lineSeparator? = right.lineSeparator?
  tableStyle : overrides.tableStyle? = none → left.tableStyle? = right.tableStyle?
  clean : overrides.clean? = none → left.clean? = right.clean?
  noComment : overrides.noComment? = none → left.noComment? = right.noComment?
  rootType : left.rootType? = right.rootType?
  showHierarchy : left.showHierarchy? = right.showHierarchy?
  constantsPage : left.constantsPage? = right.constantsPage?

/-- What a file chooses could be used where it is overridden: the output directory can be filled in,
and the extension is bare. -/
structure Choices.UsableBeneath (value? : String → Option String) (overrides : Overrides)
    (choices : Choices) : Prop where
  dir : overrides.dir? ≠ none → ∃ dir?, Settings.expandedDir? value? choices = .ok dir?
  extension : overrides.extension? ≠ none →
    ∀ extension ∈ choices.extension?, IsBareExtension extension

/-- A machine with a text in the file at a location. -/
def Machine.withText (machine : Machine) (location : Location) (text : String) : Machine :=
  { machine with files := machine.files.put location (.file text) }

namespace Settings

theorem loaded_none (machine : Machine) (path? : Option String) :
    loaded machine path? none = source? machine path? >>= ofSource machine := by
  rw [loaded_eq]
  cases source? machine path? >>= ofSource machine with
  | error failure => rfl
  | ok settings => rfl

theorem loaded_some (machine : Machine) (path? : Option String) (overrides : Overrides) :
    loaded machine path? (some overrides) =
      loaded machine path? none >>= fun settings => (settings.override overrides).accepted := by
  rw [loaded_none, loaded_eq]
  rfl

/-! ## Files that agree -/

section

variable {value? : String → Option String} {path : String} {overrides : Overrides}
  {choices choices' : Choices} {settings settings' : Settings}

theorem overriding_eq {α : Type} {override? chosen? chosen?' : Option α} {default : α}
    (agree : override? = none → chosen? = chosen?') :
    override?.getD (chosen?.getD default) = override?.getD (chosen?'.getD default) := by
  cases override? with
  | none => rw [agree rfl]
  | some value => rfl

theorem override_ofChoices_eq (agree : choices.AgreeBut overrides choices') :
    (ofChoices path choices).override overrides = (ofChoices path choices').override overrides := by
  have dirs_eq (inDirectory : String → String) (none_eq : overrides.dir? = none) :
      choices.dir?.map inDirectory = choices'.dir?.map inDirectory := by
    rw [agree.dir none_eq]
  simp only [ofChoices, choose, override, Settings.mk.injEq]
  exact ⟨overriding_eq (dirs_eq _), overriding_eq agree.extension,
    overriding_eq agree.lineSeparator, overriding_eq agree.tableStyle, overriding_eq agree.clean,
    congrArg (Option.getD · _) agree.rootType, overriding_eq agree.noComment,
    congrArg (Option.getD · _) agree.showHierarchy, congrArg (Option.getD · _) agree.constantsPage,
    trivial⟩

theorem expandedDir?_eq (value? : String → Option String)
    (agree : choices.AgreeBut overrides choices') (none_eq : overrides.dir? = none) :
    expandedDir? value? choices = expandedDir? value? choices' := by
  rw [expandedDir?, expandedDir?, agree.dir none_eq]

/-- Files that agree are the same once their choices are overridden. -/
theorem override_eq_of_ofDecoded (agree : choices.AgreeBut overrides choices')
    (given : ofDecoded value? path choices = .ok settings)
    (given' : ofDecoded value? path choices' = .ok settings') :
    settings.override overrides = settings'.override overrides := by
  obtain ⟨dir?, expanded, accepts⟩ := bind_eq_ok_iff.mp given
  obtain ⟨dir?', expanded', accepts'⟩ := bind_eq_ok_iff.mp given'
  obtain ⟨rfl, -⟩ := accepted_eq_ok_iff.mp accepts
  obtain ⟨rfl, -⟩ := accepted_eq_ok_iff.mp accepts'
  have dirs_eq (none_eq : overrides.dir? = none) : dir? = dir?' := by
    have outcomes_eq := expandedDir?_eq value? agree none_eq
    rw [mapError_eq_ok_iff.mp expanded, mapError_eq_ok_iff.mp expanded'] at outcomes_eq
    exact Except.ok.inj outcomes_eq
  exact override_ofChoices_eq { agree with dir := dirs_eq }

/-! ## Failures -/

theorem fault?_of_isBareExtension (bare : IsBareExtension settings.extension) :
    settings.fault? = if settings.rootType.isEmpty then some .emptyRootType else none := by
  have not_empty : settings.extension.isEmpty = false := by simpa using bare.ne_empty
  have unmarked : ¬ ('.' ∈ settings.extension.toList ∨ '/' ∈ settings.extension.toList) :=
    not_or.mpr ⟨bare.point_free, bare.slash_free⟩
  rw [fault?, not_empty, if_neg (by decide), if_neg (any_point_or_slash_iff.not.mpr unmarked)]

theorem fault?_ofChoices_eq (roots_eq : choices.rootType? = choices'.rootType?)
    (extensions : choices.extension? = choices'.extension? ∨
      (∀ extension ∈ choices.extension?, IsBareExtension extension) ∧
        ∀ extension ∈ choices'.extension?, IsBareExtension extension) :
    (ofChoices path choices).fault? = (ofChoices path choices').fault? := by
  have roots_eq' : (ofChoices path choices).rootType = (ofChoices path choices').rootType :=
    congrArg (Option.getD · _) roots_eq
  rcases extensions with extensions_eq | ⟨bare, bare'⟩
  · have extensions_eq' :
        (ofChoices path choices).extension = (ofChoices path choices').extension :=
      congrArg (Option.getD · _) extensions_eq
    rw [fault?, fault?, extensions_eq', roots_eq']
  · rw [fault?_of_isBareExtension (isBareExtension_getD_iff.mpr bare),
      fault?_of_isBareExtension (isBareExtension_getD_iff.mpr bare'), roots_eq']

theorem accepted_cases (faults_eq : settings.fault? = settings'.fault?) :
    (settings.accepted = .ok settings ∧ settings'.accepted = .ok settings') ∨
      ∃ failure, settings.accepted = .error failure ∧ settings'.accepted = .error failure := by
  rw [accepted, accepted, faults_eq]
  cases settings'.fault? with
  | none => exact .inl ⟨rfl, rfl⟩
  | some fault => exact .inr ⟨.invalid fault, rfl, rfl⟩

theorem expandedDir?_cases (agree : choices.AgreeBut overrides choices')
    (usable : choices.UsableBeneath value? overrides)
    (usable' : choices'.UsableBeneath value? overrides) :
    (∃ dir? dir?', expandedDir? value? choices = .ok dir? ∧
        expandedDir? value? choices' = .ok dir?') ∨
      ∃ name, expandedDir? value? choices = .error name ∧
        expandedDir? value? choices' = .error name := by
  by_cases none_eq : overrides.dir? = none
  · rw [expandedDir?_eq value? agree none_eq]
    cases expandedDir? value? choices' with
    | error name => exact .inr ⟨name, rfl, rfl⟩
    | ok dir? => exact .inl ⟨dir?, dir?, rfl, rfl⟩
  · obtain ⟨dir?, expanded⟩ := usable.dir none_eq
    obtain ⟨dir?', expanded'⟩ := usable'.dir none_eq
    exact .inl ⟨dir?, dir?', expanded, expanded'⟩

/-- Files that agree give settings both or fail alike, if what is overridden could be used. -/
theorem ofDecoded_cases (path : String) (agree : choices.AgreeBut overrides choices')
    (usable : choices.UsableBeneath value? overrides)
    (usable' : choices'.UsableBeneath value? overrides) :
    (∃ settings settings', ofDecoded value? path choices = .ok settings ∧
        ofDecoded value? path choices' = .ok settings') ∨
      ∃ failure, ofDecoded value? path choices = .error failure ∧
        ofDecoded value? path choices' = .error failure := by
  have extensions : choices.extension? = choices'.extension? ∨
      (∀ extension ∈ choices.extension?, IsBareExtension extension) ∧
        ∀ extension ∈ choices'.extension?, IsBareExtension extension := by
    by_cases none_eq : overrides.extension? = none
    · exact .inl (agree.extension none_eq)
    · exact .inr ⟨usable.extension none_eq, usable'.extension none_eq⟩
  rw [ofDecoded, ofDecoded]
  rcases expandedDir?_cases agree usable usable' with
    ⟨dir?, dir?', expanded, expanded'⟩ | ⟨name, failed, failed'⟩
  · rw [expanded, expanded']
    have faults_eq : (ofChoices path { choices with dir? }).fault? =
        (ofChoices path { choices' with dir? := dir?' }).fault? :=
      fault?_ofChoices_eq agree.rootType extensions
    rcases accepted_cases faults_eq with ⟨accepts, accepts'⟩ | fails
    · exact .inl ⟨_, _, accepts, accepts'⟩
    · exact .inr fails
  · rw [failed, failed']
    exact .inr ⟨.unsetVariable name, rfl, rfl⟩

end

/-! ## Machines that differ in one file -/

section

variable {machine : Machine} {location : Location} {text text' : String}
  {choices choices' : Choices} {overrides : Overrides}

theorem sameKinds_withText (location_ne : location ≠ []) :
    FileTree.SameKinds (machine.withText location text).files
      (machine.withText location text').files :=
  FileTree.sameKinds_put location_ne rfl

/-- The same source is found, whatever the text of a file. -/
theorem source?_withText (location_ne : location ≠ []) (path? : Option String) :
    source? (machine.withText location text) path? =
      source? (machine.withText location text') path? := by
  have same : FileTree.SameKinds (machine.withText location text).files
      (machine.withText location text').files :=
    sameKinds_withText location_ne
  have kinds_eq := same.find?_kind_eq machine.directory
  cases path? with
  | some path =>
      have there_eq := congrArg Option.isSome (kinds_eq path)
      rw [Option.isSome_map, Option.isSome_map] at there_eq
      rw [source?, source?]
      exact congrArg (fun there : Bool => if there then _ else _) there_eq
  | none =>
      have finds_eq : findsFile (machine.withText location text) =
          findsFile (machine.withText location text') :=
        funext fun path => congrArg (· == some EntryKind.file) (kinds_eq path)
      rw [source?, source?, finds_eq]
      rfl

/-- A source gives the same, or its file is the one whose text differs. -/
theorem ofSource_withText_cases (location_ne : location ≠ [])
    (decoded : Choices.ofText? text = some choices)
    (decoded' : Choices.ofText? text' = some choices') (source : Option String) :
    ofSource (machine.withText location text) source =
        ofSource (machine.withText location text') source ∨
      ∃ path, ofSource (machine.withText location text) source =
          ofDecoded machine.valueOf? path choices ∧
        ofSource (machine.withText location text') source =
          ofDecoded machine.valueOf? path choices' := by
  cases source with
  | none => exact .inl rfl
  | some path =>
      rcases FileTree.read_put_cases machine.files location_ne text text'
        machine.directory path with reads_eq | ⟨reads, reads'⟩
      · exact .inl (congrArg (ofReading machine.valueOf? path) reads_eq)
      · refine .inr ⟨path, ?_, ?_⟩
        · refine (congrArg (ofReading machine.valueOf? path) reads).trans ?_
          rw [ofReading, decoded]
        · refine (congrArg (ofReading machine.valueOf? path) reads').trans ?_
          rw [ofReading, decoded']

theorem loaded_withText_cases (machine : Machine) (location_ne : location ≠ [])
    (decoded : Choices.ofText? text = some choices)
    (decoded' : Choices.ofText? text' = some choices') (path? : Option String) :
    loaded (machine.withText location text) path? none =
        loaded (machine.withText location text') path? none ∨
      ∃ path, loaded (machine.withText location text) path? none =
          ofDecoded machine.valueOf? path choices ∧
        loaded (machine.withText location text') path? none =
          ofDecoded machine.valueOf? path choices' := by
  rw [loaded_none, loaded_none, source?_withText location_ne]
  cases source? (machine.withText location text') path? with
  | error failure => exact .inl rfl
  | ok source => exact ofSource_withText_cases location_ne decoded decoded' source

/-- Where files that agree are loaded both, the settings are the same once overridden. -/
theorem override_eq_of_loaded (location_ne : location ≠ [])
    (decoded : Choices.ofText? text = some choices)
    (decoded' : Choices.ofText? text' = some choices')
    (agree : choices.AgreeBut overrides choices') {path? : Option String}
    {settings settings' : Settings}
    (own : loaded (machine.withText location text) path? none = .ok settings)
    (own' : loaded (machine.withText location text') path? none = .ok settings') :
    settings.override overrides = settings'.override overrides := by
  rcases loaded_withText_cases machine location_ne decoded decoded' path? with
    same | ⟨path, given, given'⟩
  · rw [← same, own] at own'
    rw [Except.ok.inj own']
  · exact override_eq_of_ofDecoded agree (given.symm.trans own) (given'.symm.trans own')

/-- Files that agree are loaded both or fail alike, if what is overridden could be used. -/
theorem loaded_cases_of_usable (location_ne : location ≠ [])
    (decoded : Choices.ofText? text = some choices)
    (decoded' : Choices.ofText? text' = some choices')
    (agree : choices.AgreeBut overrides choices')
    (usable : choices.UsableBeneath machine.valueOf? overrides)
    (usable' : choices'.UsableBeneath machine.valueOf? overrides) (path? : Option String) :
    (∃ settings settings', loaded (machine.withText location text) path? none = .ok settings ∧
        loaded (machine.withText location text') path? none = .ok settings') ∨
      ∃ failure, loaded (machine.withText location text) path? none = .error failure ∧
        loaded (machine.withText location text') path? none = .error failure := by
  rcases loaded_withText_cases machine location_ne decoded decoded' path? with
    same | ⟨path, given, given'⟩
  · rw [same]
    cases loaded (machine.withText location text') path? none with
    | error failure => exact .inr ⟨failure, rfl, rfl⟩
    | ok settings => exact .inl ⟨settings, settings, rfl, rfl⟩
  · rw [given, given']
    exact ofDecoded_cases path agree usable usable'

end

/-- Two outcomes go on to the same rest, if they go on alike where both are given. -/
theorem exists_bind_eq {α β Failure : Type} {first second : Except Failure α}
    (next : α → Except Failure β)
    (alike : ∀ value value', first = .ok value → second = .ok value' → next value = next value') :
    ∃ rest, first >>= next = (first >>= fun _ => rest) ∧
      second >>= next = (second >>= fun _ => rest) := by
  cases first with
  | ok value =>
      refine ⟨next value, rfl, ?_⟩
      cases second with
      | ok value' => exact (alike value value' rfl rfl).symm
      | error failure => rfl
  | error failure =>
      cases second with
      | ok value' => exact ⟨next value', rfl, rfl⟩
      | error failure' => exact ⟨.error failure, rfl, rfl⟩

/-- Two files at one place that agree but for what is overridden go on to the same outcome, unless
one cannot be loaded on its own; then that is the outcome.  So the outcomes are the same if what is
overridden could be used. -/
theorem loaded_eq_of_agreeBut (machine : Machine) {location : Location}
    (location_ne : location ≠ []) {text text' : String} {choices choices' : Choices}
    (decoded : Choices.ofText? text = some choices)
    (decoded' : Choices.ofText? text' = some choices') {overrides : Overrides}
    (agree : choices.AgreeBut overrides choices') (path? : Option String) :
    (∃ rest, ∀ file ∈ [text, text'],
      loaded (machine.withText location file) path? (some overrides) =
        loaded (machine.withText location file) path? none >>= fun _ => rest) ∧
    (choices.UsableBeneath machine.valueOf? overrides →
      choices'.UsableBeneath machine.valueOf? overrides →
      loaded (machine.withText location text) path? (some overrides) =
        loaded (machine.withText location text') path? (some overrides)) := by
  refine ⟨?_, fun usable usable' => ?_⟩
  · obtain ⟨rest, first_eq, second_eq⟩ :=
      exists_bind_eq (fun settings : Settings => (settings.override overrides).accepted)
        fun settings settings' own own' =>
          congrArg accepted (override_eq_of_loaded location_ne decoded decoded' agree own own')
    refine ⟨rest, ?_⟩
    rw [List.forall_mem_cons, List.forall_mem_singleton, loaded_some, loaded_some]
    exact ⟨first_eq, second_eq⟩
  · rw [loaded_some, loaded_some]
    rcases loaded_cases_of_usable location_ne decoded decoded' agree usable usable' path? with
      ⟨settings, settings', own, own'⟩ | ⟨failure, failed, failed'⟩
    · rw [own, own', ok_bind, ok_bind,
        override_eq_of_loaded location_ne decoded decoded' agree own own']
    · rw [failed, failed']

/-- A machine with nothing but a configuration file in its root directory. -/
def rootMachine (text : String) : Machine :=
  Machine.withText { files := ⟨[]⟩ } ["apidoc.toml"] text

theorem loaded_eq_of_directories :
    Choices.ofText? "[output]\ndir = \"a\"\n" = some { dir? := some "a" } ∧
      Choices.ofText? "[output]\ndir = \"b\"\nextension = \"txt\"\n" =
        some { dir? := some "b", extension? := some "txt" } ∧
      loaded (rootMachine "[output]\ndir = \"a\"\n") none
          (some { dir? := some "/out", extension? := some "html" }) =
        loaded (rootMachine "[output]\ndir = \"b\"\nextension = \"txt\"\n") none
          (some { dir? := some "/out", extension? := some "html" }) := by
  have decoded : Choices.ofText? "[output]\ndir = \"a\"\n" = some { dir? := some "a" } := by
    decide +kernel
  have decoded' : Choices.ofText? "[output]\ndir = \"b\"\nextension = \"txt\"\n" =
      some { dir? := some "b", extension? := some "txt" } := by
    decide +kernel
  have agree : Choices.AgreeBut { dir? := some "/out", extension? := some "html" }
      { dir? := some "a" } { dir? := some "b", extension? := some "txt" } := by
    constructor <;> simp
  have usable : Choices.UsableBeneath (Machine.valueOf? { files := ⟨[]⟩ })
      { dir? := some "/out", extension? := some "html" } { dir? := some "a" } :=
    ⟨fun _ => ⟨some "a", by decide +kernel⟩, fun _ _ => nofun⟩
  have usable' : Choices.UsableBeneath (Machine.valueOf? { files := ⟨[]⟩ })
      { dir? := some "/out", extension? := some "html" }
      { dir? := some "b", extension? := some "txt" } := by
    refine ⟨fun _ => ⟨some "b", by decide +kernel⟩, fun _ extension extension_mem => ?_⟩
    obtain rfl := Option.some_inj.mp extension_mem
    exact ⟨by decide, by decide, by decide⟩
  have location_ne : ["apidoc.toml"] ≠ [] := by decide
  have overridden := loaded_eq_of_agreeBut { files := ⟨[]⟩ } location_ne decoded decoded' agree none
  exact ⟨decoded, decoded', overridden.2 usable usable'⟩

/-- A choice that is overridden keeps a file from being loaded where it could not be used. -/
theorem loaded_ne_of_unusable :
    (Choices.ofText? "[output]\nextension = \".md\"\n" = some { extension? := some ".md" } ∧
      Choices.ofText? "[output]\nextension = \"md\"\n" = some { extension? := some "md" } ∧
      Choices.AgreeBut { extension? := some "html" } { extension? := some ".md" }
        { extension? := some "md" } ∧
      loaded (rootMachine "[output]\nextension = \".md\"\n") none
        (some { extension? := some "html" }) = .error (.invalid (.notBareExtension ".md")) ∧
      loaded (rootMachine "[output]\nextension = \"md\"\n") none
          (some { extension? := some "html" }) =
        .ok { dir := "/build/apidoc", extension := "html", path? := some "/apidoc.toml" }) ∧
    Choices.ofText? "[output]\ndir = \"$\x7bSITE\x7d\"\n" =
        some { dir? := some "$\x7bSITE\x7d" } ∧
      Choices.ofText? "[output]\ndir = \"site\"\n" = some { dir? := some "site" } ∧
      Choices.AgreeBut { dir? := some "/out" } { dir? := some "$\x7bSITE\x7d" }
        { dir? := some "site" } ∧
      loaded (rootMachine "[output]\ndir = \"$\x7bSITE\x7d\"\n") none
        (some { dir? := some "/out" }) = .error (.unsetVariable "SITE") ∧
      loaded (rootMachine "[output]\ndir = \"site\"\n") none (some { dir? := some "/out" }) =
        .ok { dir := "/out", path? := some "/apidoc.toml" } := by
  simp only [loaded_some, loaded_none]
  refine ⟨⟨by decide +kernel, by decide +kernel, ?_, by decide +kernel, by decide +kernel⟩,
    by decide +kernel, by decide +kernel, ?_, by decide +kernel, by decide +kernel⟩
  · constructor <;> simp
  · constructor <;> simp

end Settings
end RefDocs
