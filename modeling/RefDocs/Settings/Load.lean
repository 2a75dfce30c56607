import RefDocs.Files.Host
import RefDocs.Settings.File
import RefDocs.Settings.Template

/-!
# Loading settings

Settings come from a configuration file that is named, or else from the nearest one found in the
working directory and those above it, or else from the defaults.  What the command line overrides is
put in after the file's own settings have been checked, and checked again.
-/

namespace RefDocs

/-- The name that configuration files are found by. -/
def configurationName : String :=
  "apidoc.toml"

/-- Why settings cannot be loaded. -/
inductive SettingsError where
  /-- The configuration file that is named is not there. -/
  | notFound (path : String)
  /-- The configuration file cannot be read. -/
  | unreadable (error : FileError)
  /-- The configuration file is no TOML text, or holds values of the wrong kind. -/
  | malformed
  /-- The output directory refers to a variable that is not set. -/
  | unsetVariable (name : String)
  /-- The settings cannot be used. -/
  | invalid (fault : SettingsFault)
  deriving DecidableEq, Repr

/-- The text of a settings error. -/
def SettingsError.message : SettingsError → String
  | .notFound path => "Configuration file not found: " ++ path
  | .unreadable error => "Failed to read config file: " ++ error.message
  | .malformed => "Failed to parse config file: not a configuration in TOML"
  | .unsetVariable name =>
    "Environment variable error in output.dir: $\x7b" ++ name ++ "\x7d not set"
  | .invalid fault => "Configuration validation error: " ++ fault.message

namespace Settings

/-- The settings, if they can be used. -/
def check {m : Type → Type} [Monad m] (settings : Settings) : ExceptT SettingsError m Settings :=
  match settings.fault? with
  | some fault => throw (.invalid fault)
  | none => pure settings

/-- The settings of a configuration file at a path.  The output directory is taken relative to the
file. -/
def ofChoices (path : String) (choices : Choices) : Settings :=
  let inFileDirectory := Path.join ((Path.parent? path).getD ".")
  let settings : Settings := { dir := inFileDirectory defaultDir, path? := some path }
  settings.choose { choices with dir? := choices.dir?.map inFileDirectory }

variable {m : Type → Type} [Monad m] [Host m]

/-- The choices with the variables in the output directory filled in. -/
def expandDir (choices : Choices) : ExceptT SettingsError m Choices := do
  match choices.dir? with
  | none => return choices
  | some dir =>
    let dir ← (Template.expand Host.getVariable dir : ExceptT String m String).adapt .unsetVariable
    return { choices with dir? := some dir }

/-- The settings of a configuration file. -/
def ofFile (path : String) : ExceptT SettingsError m Settings := do
  match ← Host.readFile path with
  | .error error => throw (.unreadable error)
  | .ok text =>
    match Choices.ofText? text with
    | none => throw .malformed
    | some choices => (ofChoices path (← expandDir choices)).check

/-- The first file of a list of paths. -/
def firstFile? : List String → m (Option String)
  | [] => return none
  | path :: rest => do
    if ← Host.isFile path then return some path
    else firstFile? rest

/-- The nearest configuration file in the working directory and those above it. -/
def discover? : m (Option String) := do
  let directory ← Host.workingDirectory
  firstFile? ((Path.ancestors directory).map fun above => Path.join above configurationName)

/-- The settings that a file or the defaults give. -/
def base (path? : Option String) : ExceptT SettingsError m Settings := do
  match path? with
  | some path =>
    if ← Host.pathExists path then ofFile path else throw (.notFound path)
  | none =>
    match ← discover? with
    | some path => ofFile path
    | none => return { dir := Path.join (← Host.workingDirectory) defaultDir }

/-- The settings of a run: the configuration file that is named, if one is, and what the command
line overrides, if there is one. -/
def load (path? : Option String) (overrides? : Option Overrides) :
    ExceptT SettingsError m Settings := do
  let settings ← base path?
  match overrides? with
  | some overrides => (settings.override overrides).check
  | none => return settings

end Settings
end RefDocs
