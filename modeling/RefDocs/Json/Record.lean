import RefDocs.Json.Value

/-!
# Records in JSON

A record is an object with named fields, of which those unknown are passed over, or an array of
its fields in order, of which the last ones may be missing.  A record with a tag carries the name
of its form as the field `kind`, or as the first item of the array.
-/

namespace RefDocs
namespace Json

/-- The values of the entries under a key. -/
def entriesNamed (name : String) (entries : List (Option String × Value)) : List Value :=
  (entries.filter fun entry => entry.1 == some name).map Prod.snd

/-- The value of a field, if it is given; a field may not be given twice. -/
def uniqueEntry? (name : String) (entries : List (Option String × Value)) :
    Option (Option Value) :=
  match entriesNamed name entries with
  | [] => some none
  | [value] => some (some value)
  | _ => none

/-- The given fields of a record in the order of the names.  Keys have to be texts. -/
def Value.fields? (names : List String) : Value → Option (List (Option Value))
  | .object entries =>
    if entries.all fun entry => entry.1.isSome then
      names.mapM fun name => uniqueEntry? name entries
    else none
  | .list items =>
    if items.length ≤ names.length then
      some (items.map some ++ List.replicate (names.length - items.length) none)
    else none
  | _ => none

/-- The value that is read from a field that has to be given. -/
def required {α : Type} (read : Value → Option α) : Option Value → Option α
  | some value => read value
  | none => none

/-- The value that is read from a field, or a default where it is not given. -/
def withDefault {α : Type} (default : α) (read : Value → Option α) : Option Value → Option α
  | some value => read value
  | none => some default

/-- The value that is read from a field that may be missing or null. -/
def nullable {α : Type} (read : Value → Option α) : Option Value → Option (Option α)
  | none | some .null => some none
  | some value => (read value).map some

/-- A text. -/
def Value.asText? : Value → Option String
  | .text content => content
  | _ => none

/-- A truth value. -/
def Value.asBool? : Value → Option Bool
  | .bool flag => some flag
  | _ => none

/-- The items of an array that are all read, at one level of nesting less than the array. -/
def Value.asList? {α : Type} (read : Nat → Value → Option α) : Nat → Value → Option (List α)
  | levels + 1, .list items => items.mapM (read levels)
  | _, _ => none

/-- How a value came to be read. -/
inductive Source where
  /-- Straight from the text. -/
  | direct
  /-- From a value that was checked as a whole before. -/
  | checked
  deriving DecidableEq, Repr

/-- A word out of a closed set: a text, or an object with the word as its only key and nothing as
the value. -/
def Value.asWord? (source : Source) : Nat → Value → Option String
  | _, .text content => content
  | _ + 1, .object [(key, .null)] => key
  | _ + 1, .object [(key, .object [])] => if source = .checked then key else none
  | _, _ => none

/-- The tag of a record as a text.  In a checked value the tag may be given by its number. -/
def tagText? (source : Source) (tags : List String) : Value → Option String
  | .text content => content
  | .number numeral => if source = .checked then do tags[← numeral.natural?]? else none
  | _ => none

/-- The tag of a tagged record and the record without it. -/
def Value.splitTag? (source : Source) (tags : List String) : Value → Option (String × Value)
  | .object entries => do
    let some tag ← uniqueEntry? "kind" entries | none
    let name ← tagText? source tags tag
    return (name, .object (entries.filter fun entry => entry.1 != some "kind"))
  | .list (tag :: rest) => do
    let name ← tagText? source tags tag
    return (name, .list rest)
  | _ => none

/-- A record without fields: any object, or an empty array. -/
def Value.isBlankRecord : Value → Bool
  | .object _ | .list [] => true
  | _ => false

end Json
end RefDocs
