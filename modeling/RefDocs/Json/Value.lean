import RefDocs.Text.Numeral

/-!
# JSON values

The tree of a JSON text.  Objects keep their entries in written order, repeated keys included, so
that a reader can refuse what it must not accept twice.
-/

namespace RefDocs
namespace Json

/-- A JSON value.  A string whose escapes hold half of a surrogate pair has no text. -/
inductive Value where
  | null
  | bool (flag : Bool)
  | number (numeral : Numeral)
  | text (content : Option String)
  | list (items : List Value)
  | object (entries : List (Option String × Value))

namespace Value

instance : Inhabited Value :=
  ⟨.null⟩

/-- The value of a text. -/
def ofString (content : String) : Value :=
  .text (some content)

/-- The value of an object with the given fields. -/
def ofFields (fields : List (String × Value)) : Value :=
  .object (fields.map fun field => (some field.1, field.2))

mutual

/-- Nesting of arrays and objects is at most the given depth, every string has a text and every
number is finite. -/
def fits : Nat → Value → Bool
  | _, .null | _, .bool _ => true
  | _, .number numeral => numeral.isFinite
  | _, .text content => content.isSome
  | 0, .list _ | 0, .object _ => false
  | levels + 1, .list items => allFit levels items
  | levels + 1, .object entries => entriesFit levels entries
termination_by structural _ value => value

/-- Every value of a list fits. -/
def allFit (levels : Nat) : List Value → Bool
  | [] => true
  | item :: rest => fits levels item && allFit levels rest
termination_by structural items => items

/-- Every entry of an object fits, and every key has a text. -/
def entriesFit (levels : Nat) : List (Option String × Value) → Bool
  | [] => true
  | (key, value) :: rest => key.isSome && fits levels value && entriesFit levels rest
termination_by structural entries => entries

end

end Value

end Json
end RefDocs
