import RefDocs.Json.Value

/-!
# Writing JSON text

The compact form: no blanks between tokens, entries in the order of the object, and only those
characters of a string escaped that have to be.
-/

namespace RefDocs
namespace Json

/-- The characters that stand for a character in a string. -/
def writeChar (char : Char) : List Char :=
  if char = '"' ∨ char = '\\' then ['\\', char]
  else if 0x20 ≤ char.toNat then [char]
  else if char = '\x08' then ['\\', 'b']
  else if char = '\x0c' then ['\\', 'f']
  else if char = '\n' then ['\\', 'n']
  else if char = '\r' then ['\\', 'r']
  else if char = '\t' then ['\\', 't']
  else ['\\', 'u', '0', '0', Nat.digitChar (char.toNat / 16), Nat.digitChar (char.toNat % 16)]

/-- A string in quotes.  What has no text is written as half of a surrogate pair. -/
def writeString : Option String → List Char
  | some content => '"' :: content.toList.flatMap writeChar ++ ['"']
  | none => ['"', '\\', 'u', 'd', '8', '0', '0', '"']

/-- A number: its digits, and its exponent unless it is written as an integer. -/
def writeNumeral (numeral : Numeral) : List Char :=
  let sign := if numeral.negative then ['-'] else []
  let exponentSign := if numeral.exponent < 0 then ['-'] else []
  let exponent :=
    if numeral.integral then []
    else 'e' :: exponentSign ++ Nat.toDigits 10 numeral.exponent.natAbs
  sign ++ Nat.toDigits 10 numeral.digits ++ exponent

mutual

/-- The characters of a value. -/
def writeValue : Value → List Char
  | .null => ['n', 'u', 'l', 'l']
  | .bool true => ['t', 'r', 'u', 'e']
  | .bool false => ['f', 'a', 'l', 's', 'e']
  | .number numeral => writeNumeral numeral
  | .text content => writeString content
  | .list items => '[' :: writeItems items
  | .object entries => '{' :: writeEntries entries
termination_by structural value => value

/-- The characters of an array behind its opening bracket. -/
def writeItems : List Value → List Char
  | [] => [']']
  | [item] => writeValue item ++ [']']
  | item :: rest => writeValue item ++ ',' :: writeItems rest
termination_by structural items => items

/-- The characters of an object behind its opening brace. -/
def writeEntries : List (Option String × Value) → List Char
  | [] => ['}']
  | [(key, value)] => writeString key ++ ':' :: writeValue value ++ ['}']
  | (key, value) :: rest => writeString key ++ ':' :: writeValue value ++ ',' :: writeEntries rest
termination_by structural entries => entries

end

/-- The JSON text of a value. -/
def Value.toText (value : Value) : String :=
  String.ofList (writeValue value)

end Json
end RefDocs
