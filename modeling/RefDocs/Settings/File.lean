import RefDocs.Settings.Basic
import RefDocs.Toml.Read

/-!
# Configuration files

A configuration file is a TOML text with the tables `output`, `model` and `render`.  A table may
also be given as an array of its fields in order.  Keys that are unknown are passed over; a known
one has to have a value of the right kind.
-/

namespace RefDocs
namespace Toml

/-- The given fields of a record in the order of the names.  A moment counts as a record without any
of them. -/
def Value.fields? (names : List String) : Value → Option (List (Option Value))
  | .table entries => some (names.map fun name => entries.lookup name)
  | .list items => some ((items.map some ++ names.map fun _ => none).take names.length)
  | .moment => some (names.map fun _ => none)
  | _ => none

/-- A text. -/
def Value.asText? : Value → Option String
  | .text content => some content
  | _ => none

/-- A truth value. -/
def Value.asBool? : Value → Option Bool
  | .bool flag => some flag
  | _ => none

/-- A word out of a closed set: a text, or a table with the word as its only key and nothing as the
value. -/
def Value.asWord? : Value → Option String
  | .text content => some content
  | .table [(key, .table [])] | .table [(key, .list [])] => some key
  | _ => none

/-- What is read from a field, if it is given. -/
def given {α : Type} (read : Value → Option α) : Option Value → Option (Option α)
  | some value => (read value).map some
  | none => some none

end Toml

open Toml (Value given)

/-- A line separator by its name. -/
def LineSeparator.ofName? : String → Option LineSeparator
  | "lf" => some .lf
  | "crlf" => some .crlf
  | _ => none

/-- A table style by its name. -/
def TableStyle.ofName? : String → Option TableStyle
  | "html" => some .html
  | "markdown" => some .markdown
  | _ => none

namespace Choices

/-- The choices of the table `output`. -/
def readOutput (value : Value) : Option Overrides := do
  let [dir, extension, lineSeparator, tableStyle, clean] ←
    value.fields? ["dir", "extension", "line_separator", "table_style", "clean"] | none
  return {
    dir? := ← given Value.asText? dir
    extension? := ← given Value.asText? extension
    lineSeparator? := ← given (fun value => value.asWord? >>= LineSeparator.ofName?) lineSeparator
    tableStyle? := ← given (fun value => value.asWord? >>= TableStyle.ofName?) tableStyle
    clean? := ← given Value.asBool? clean }

/-- The choice of the table `model`: the root type. -/
def readModel (value : Value) : Option (Option String) := do
  let [rootType] ← value.fields? ["root_type"] | none
  given Value.asText? rootType

/-- The choices of the table `render`: whether comments are left out, superclasses shown and
constants listed. -/
def readRender (value : Value) : Option (Option Bool × Option Bool × Option Bool) := do
  let [noComment, showHierarchy, constantsPage] ←
    value.fields? ["no_comment", "show_hierarchy", "constants_page"] | none
  return (← given Value.asBool? noComment, ← given Value.asBool? showHierarchy,
    ← given Value.asBool? constantsPage)

/-- The choices that a configuration file makes. -/
def ofText? (text : String) : Option Choices := do
  let value ← Value.ofText? text
  let [output, model, render] ← value.fields? ["output", "model", "render"] | none
  let output ← given readOutput output
  let rootType ← given readModel model
  let render ← given readRender render
  let (noComment?, showHierarchy?, constantsPage?) := render.getD (none, none, none)
  return { output.getD {} with
    noComment?, showHierarchy?, constantsPage?, rootType? := rootType.join }

end Choices
end RefDocs
