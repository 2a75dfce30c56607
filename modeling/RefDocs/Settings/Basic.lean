import RefDocs.Content.Basic
import RefDocs.Graph.Basic

/-!
# Settings

What a run is told: where the pages go and what they look like.  A configuration file chooses some
of the settings, a command line overrides some of those, and the rest keep their defaults.
-/

namespace RefDocs

/-- What ends each line of each page. -/
inductive LineSeparator where
  /-- A line feed. -/
  | lf
  /-- A carriage return and a line feed. -/
  | crlf
  deriving DecidableEq, Repr

/-- The text of a line separator. -/
def LineSeparator.text : LineSeparator → String
  | .lf => "\n"
  | .crlf => "\r\n"

/-- The settings of a run. -/
structure Settings where
  /-- The output directory. -/
  dir : String
  /-- The extension of page files. -/
  extension : String := "md"
  /-- The end of each line. -/
  lineSeparator : LineSeparator := .lf
  /-- The form of tables. -/
  tableStyle : TableStyle := .html
  /-- The output directory is emptied first. -/
  clean : Bool := true
  /-- The type that bounds everything. -/
  rootType : String := defaultRootType
  /-- Documentation comments are left out. -/
  noComment : Bool := false
  /-- Class pages show the superclasses. -/
  showHierarchy : Bool := true
  /-- The page of constant values is written. -/
  constantsPage : Bool := true
  /-- The configuration file that was read. -/
  path? : Option String := none
  deriving DecidableEq, Repr

/-- The output directory where none is chosen, relative to the directory it is taken from. -/
def defaultDir : String :=
  "build/apidoc"

/-- The settings that a command line may choose. -/
structure Overrides where
  /-- The output directory. -/
  dir? : Option String := none
  /-- The extension of page files. -/
  extension? : Option String := none
  /-- The end of each line. -/
  lineSeparator? : Option LineSeparator := none
  /-- The form of tables. -/
  tableStyle? : Option TableStyle := none
  /-- Whether the output directory is emptied first. -/
  clean? : Option Bool := none
  /-- Whether documentation comments are left out. -/
  noComment? : Option Bool := none
  deriving DecidableEq, Repr

/-- The settings that a configuration file may choose. -/
structure Choices extends Overrides where
  /-- The type that bounds everything. -/
  rootType? : Option String := none
  /-- Whether class pages show the superclasses. -/
  showHierarchy? : Option Bool := none
  /-- Whether the page of constant values is written. -/
  constantsPage? : Option Bool := none
  deriving DecidableEq, Repr

/-- Why settings cannot be used. -/
inductive SettingsFault where
  /-- The extension is empty. -/
  | emptyExtension
  /-- The extension holds a point or a slash. -/
  | notBareExtension (extension : String)
  /-- The root type is empty. -/
  | emptyRootType
  deriving DecidableEq, Repr

/-- The text of a settings fault. -/
def SettingsFault.message : SettingsFault → String
  | .emptyExtension => "output.extension cannot be empty"
  | .notBareExtension extension =>
    "output.extension must be a bare extension, got '" ++ extension ++ "'"
  | .emptyRootType => "model.root_type cannot be empty"

namespace Settings

/-- Settings with those that are overridden. -/
def override (settings : Settings) (overrides : Overrides) : Settings :=
  { settings with
    dir := overrides.dir?.getD settings.dir
    extension := overrides.extension?.getD settings.extension
    lineSeparator := overrides.lineSeparator?.getD settings.lineSeparator
    tableStyle := overrides.tableStyle?.getD settings.tableStyle
    clean := overrides.clean?.getD settings.clean
    noComment := overrides.noComment?.getD settings.noComment }

/-- Settings with those that are chosen. -/
def choose (settings : Settings) (choices : Choices) : Settings :=
  { settings.override choices.toOverrides with
    rootType := choices.rootType?.getD settings.rootType
    showHierarchy := choices.showHierarchy?.getD settings.showHierarchy
    constantsPage := choices.constantsPage?.getD settings.constantsPage }

/-- The first fault of settings. -/
def fault? (settings : Settings) : Option SettingsFault :=
  if settings.extension.isEmpty then some .emptyExtension
  else if settings.extension.toList.any fun char => char == '.' || char == '/' then
    some (.notBareExtension settings.extension)
  else if settings.rootType.isEmpty then some .emptyRootType
  else none

end Settings
end RefDocs
