import RefDocs.Proofs.Files.Above
import RefDocs.Proofs.Files.Runs
import RefDocs.Proofs.Settings.Acceptance
import RefDocs.Settings.Load

/-!
# Loading as a function

Loading settings asks a machine for variables, files and the working directory, and changes nothing.
So what it gives is a function of what it is told.
-/

namespace RefDocs

/-- The value of a variable on a machine. -/
def Machine.valueOf? (machine : Machine) (name : String) : Option String :=
  machine.environment.lookup name

namespace Settings

open Machine (pathOf)

variable {machine : Machine}

/-! ## Variables -/

section

variable {α β Failure : Type} {first : Attempt Failure α} {next : α → Attempt Failure β}
  {first' : ExceptT Failure Id α} {next' : α → ExceptT Failure Id β}

/-- Two steps give what they give without a machine, if each of them does. -/
theorem run_bind_alike (first_ran : first.run machine = (first'.run, machine))
    (next_ran : ∀ value, (next value).run machine = ((next' value).run, machine)) :
    (first >>= next).run machine = ((first' >>= next').run, machine) := by
  change _ = (ExceptT.bindCont next' first'.run, machine)
  rcases result : first'.run with failure | value
  · rw [result] at first_ran
    exact run_bind_of_error first_ran
  · rw [result] at first_ran
    exact (run_bind_of_ok first_ran).trans (next_ran value)

end

theorem run_fill (piece : Template.Piece) :
    (piece.fill Host.getVariable : Attempt String String).run machine =
      ((piece.fill (m := Id) machine.valueOf?).run, machine) := by
  rcases piece with text | ⟨name, default?⟩
  · rfl
  · rw [Template.Piece.fill, Template.Piece.fill]
    by_cases named : Template.isVariableName name = true
    · rw [if_pos named, if_pos named]
      refine run_bind_alike rfl fun value => ?_
      dsimp only
      cases value <|> default? with
      | none => rfl
      | some text => rfl
    · rw [if_neg named, if_neg named]
      cases default? with
      | none => rfl
      | some text => rfl

theorem run_fillAll (pieces : List Template.Piece) :
    (pieces.mapM (Template.Piece.fill Host.getVariable) : Attempt String _).run machine =
      ((pieces.mapM (Template.Piece.fill (m := Id) machine.valueOf?)).run, machine) := by
  induction pieces with
  | nil => rfl
  | cons piece rest ih =>
      rw [List.mapM_cons, List.mapM_cons]
      exact run_bind_alike (run_fill piece) fun _ => run_bind_alike ih fun _ => rfl

/-- A text is filled in with the variables of the machine. -/
theorem run_expand (text : String) :
    (Template.expand Host.getVariable text : Attempt String String).run machine =
      ((Template.expand (m := Id) machine.valueOf? text).run, machine) := by
  rw [Template.expand, Template.expand]
  split
  · exact run_bind_alike (run_fillAll _) fun _ => rfl
  · rfl

/-! ## Files -/

/-- The output directory of a file with the values of its variables, if one is chosen. -/
def expandedDir? (value? : String → Option String) (choices : Choices) :
    Except String (Option String) :=
  choices.dir?.mapM fun dir => (Template.expand (m := Id) value? dir).run

/-- The settings, if they can be used. -/
def accepted (settings : Settings) : Except SettingsError Settings :=
  match settings.fault? with
  | some fault => .error (.invalid fault)
  | none => .ok settings

theorem accepted_eq_ok_iff {settings settings' : Settings} :
    settings.accepted = .ok settings' ↔ settings = settings' ∧
      IsBareExtension settings.extension ∧ settings.rootType ≠ "" := by
  rw [← fault?_eq_none_iff, accepted]
  cases settings.fault? with
  | none => simp
  | some fault => simp

/-- What the choices of a configuration file give. -/
def ofDecoded (value? : String → Option String) (path : String) (choices : Choices) :
    Except SettingsError Settings := do
  let dir? ← (expandedDir? value? choices).mapError .unsetVariable
  accepted (ofChoices path { choices with dir? })

/-- What a configuration file gives. -/
def ofReading (value? : String → Option String) (path : String) :
    Except FileError String → Except SettingsError Settings
  | .error error => .error (.unreadable error)
  | .ok text =>
    match Choices.ofText? text with
    | none => .error .malformed
    | some choices => ofDecoded value? path choices

/-- A file gives settings exactly if it can be read, decoded and filled in, and they can be used. -/
theorem ofReading_eq_ok_iff {value? : String → Option String} {path : String}
    {reading : Except FileError String} {settings : Settings} :
    ofReading value? path reading = .ok settings ↔
      ∃ text choices dir?, reading = .ok text ∧ Choices.ofText? text = some choices ∧
        expandedDir? value? choices = .ok dir? ∧ ofChoices path { choices with dir? } = settings ∧
        IsBareExtension settings.extension ∧ settings.rootType ≠ "" := by
  constructor
  · intro given
    cases reading with
    | error error => cases given
    | ok text =>
        rw [ofReading] at given
        cases decoded : Choices.ofText? text with
        | none =>
            rw [decoded] at given
            cases given
        | some choices =>
            rw [decoded] at given
            obtain ⟨dir?, expanded, accepts⟩ := bind_eq_ok_iff.mp given
            obtain ⟨rfl, usable⟩ := accepted_eq_ok_iff.mp accepts
            exact ⟨text, choices, dir?, rfl, decoded, mapError_eq_ok_iff.mp expanded, rfl, usable⟩
  · rintro ⟨text, choices, dir?, rfl, decoded, expanded, rfl, usable⟩
    rw [ofReading, decoded]
    exact bind_eq_ok_iff.mpr
      ⟨dir?, mapError_eq_ok_iff.mpr expanded, accepted_eq_ok_iff.mpr ⟨rfl, usable⟩⟩

theorem run_check (settings : Settings) :
    (settings.check : Attempt SettingsError Settings).run machine =
      (settings.accepted, machine) := by
  rw [check, accepted]
  cases settings.fault? with
  | none => rfl
  | some fault => rfl

theorem run_expandDir (choices : Choices) :
    (expandDir choices : Attempt SettingsError Choices).run machine =
      (((expandedDir? machine.valueOf? choices).mapError .unsetVariable).map
        fun dir? => { choices with dir? }, machine) := by
  rcases choices with ⟨⟨dir?, _, _, _, _, _⟩, _, _, _⟩
  cases dir? with
  | none => rfl
  | some dir =>
      have expanded := @run_expand machine dir
      rw [expandDir, expandedDir?, Option.mapM_some]
      dsimp only
      cases expanded_eq : (Template.expand (m := Id) machine.valueOf? dir).run with
      | error name =>
          rw [expanded_eq] at expanded
          exact run_bind_of_error (run_adapt_of_ran expanded)
      | ok text =>
          rw [expanded_eq] at expanded
          exact run_bind_of_ok (run_adapt_of_ran expanded)

theorem run_ofFile (path : String) :
    (ofFile path : Attempt SettingsError Settings).run machine =
      (ofReading machine.valueOf? path (machine.files.read machine.directory path), machine) := by
  have reads : (Host.readFile path : Attempt SettingsError (Except FileError String)).run machine =
      (.ok (machine.files.read machine.directory path), machine) := rfl
  rw [ofFile, run_bind_of_ok reads, ofReading.eq_def]
  rcases machine.files.read machine.directory path with error | text
  · rfl
  · dsimp only
    cases Choices.ofText? text with
    | none => rfl
    | some choices =>
        dsimp only
        have expanded : (expandDir choices : Attempt SettingsError Choices).run machine = _ :=
          run_expandDir choices
        rw [ofDecoded]
        cases expanded_eq : expandedDir? machine.valueOf? choices with
        | error name =>
            rw [expanded_eq] at expanded
            exact run_bind_of_error expanded
        | ok dir? =>
            rw [expanded_eq] at expanded
            exact (run_bind_of_ok expanded).trans (run_check _)

/-! ## Sources -/

/-- A file is found on a machine. -/
def findsFile (machine : Machine) (path : String) : Bool :=
  (machine.files.find? machine.directory path).map Entry.kind == some .file

theorem run_firstFile? (paths : List String) :
    (firstFile? paths : Attempt SettingsError (Option String)).run machine =
      (.ok (paths.find? (findsFile machine)), machine) := by
  induction paths with
  | nil => rfl
  | cons path rest ih =>
      have looks : (Host.isFile path : Attempt SettingsError Bool).run machine =
          (.ok (findsFile machine path), machine) := rfl
      rw [firstFile?, run_bind_of_ok looks, List.find?_cons]
      cases findsFile machine path with
      | true => rfl
      | false => exact ih

/-- The paths where a configuration file is looked for. -/
def candidates (machine : Machine) : List String :=
  (Path.ancestors (pathOf machine.directory)).map fun above => Path.join above configurationName

theorem run_discover? :
    (discover? : Attempt SettingsError (Option String)).run machine =
      (.ok ((candidates machine).find? (findsFile machine)), machine) := by
  have asks : (Host.workingDirectory : Attempt SettingsError String).run machine =
      (.ok (pathOf machine.directory), machine) := rfl
  rw [discover?, run_bind_of_ok asks, run_firstFile?]
  rfl

/-- The configuration file that is read, if any is. -/
def source? (machine : Machine) : Option String → Except SettingsError (Option String)
  | some path =>
    if (machine.files.find? machine.directory path).isSome then .ok (some path)
    else .error (.notFound path)
  | none => .ok ((candidates machine).find? (findsFile machine))

/-- What a configuration file or the defaults give. -/
def ofSource (machine : Machine) : Option String → Except SettingsError Settings
  | some path => ofReading machine.valueOf? path (machine.files.read machine.directory path)
  | none => .ok { dir := Path.join (pathOf machine.directory) defaultDir }

theorem run_base (path? : Option String) :
    (base path? : Attempt SettingsError Settings).run machine =
      (source? machine path? >>= ofSource machine, machine) := by
  cases path? with
  | some path =>
      have looks : (Host.pathExists path : Attempt SettingsError Bool).run machine =
          (.ok (machine.files.find? machine.directory path).isSome, machine) := by
        rw [← Option.isSome_map (f := Entry.kind)]
        rfl
      rw [base, run_bind_of_ok looks, source?]
      split
      · exact run_ofFile path
      · rfl
  | none =>
      rw [base, run_bind_of_ok run_discover?, source?, ok_bind]
      cases (candidates machine).find? (findsFile machine) with
      | some path => exact run_ofFile path
      | none => rfl

/-- The settings with what the command line overrides, if they can be used then. -/
def overridden (settings : Settings) : Option Overrides → Except SettingsError Settings
  | some overrides => (settings.override overrides).accepted
  | none => .ok settings

/-- Settings are loaded in three steps: a source is found and read, and the settings it gives are
overridden. -/
theorem run_load (path? : Option String) (overrides? : Option Overrides) :
    (load path? overrides? : Attempt SettingsError Settings).run machine =
      (source? machine path? >>= ofSource machine >>= fun settings =>
        settings.overridden overrides?, machine) := by
  have based := @run_base machine path?
  rw [load]
  cases given : source? machine path? >>= ofSource machine with
  | error failure =>
      rw [given] at based
      exact run_bind_of_error based
  | ok settings =>
      rw [given] at based
      rw [run_bind_of_ok based, ok_bind]
      cases overrides? with
      | none => rfl
      | some overrides => exact run_check _

/-- What loading gives on a machine. -/
def loaded (machine : Machine) (path? : Option String) (overrides? : Option Overrides) :
    Except SettingsError Settings :=
  ((load path? overrides? : Attempt SettingsError Settings).run machine).1

theorem loaded_eq (machine : Machine) (path? : Option String) (overrides? : Option Overrides) :
    loaded machine path? overrides? =
      source? machine path? >>= ofSource machine >>= fun settings =>
        settings.overridden overrides? := by
  rw [loaded, run_load]

end Settings
end RefDocs
