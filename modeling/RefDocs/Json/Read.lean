import RefDocs.Json.Value

/-!
# Reading JSON text

A strict reader: no comments, no trailing commas, no raw control characters in strings, and only
blanks after the value.  Each step hands on the rest of the text.  The number of steps is bounded
by the length of the text, since every value takes at least one character.
-/

namespace RefDocs
namespace Json

/-- The text without the blanks that JSON allows between tokens. -/
def skipBlanks : List Char → List Char
  | char :: rest =>
    if char = ' ' || char = '\n' || char = '\t' || char = '\r' then skipBlanks rest
    else char :: rest
  | [] => []

/-- The value of four hexadecimal digits. -/
def hexQuad? (first second third fourth : Char) : Option Nat := do
  let a ← hexDigit? first
  let b ← hexDigit? second
  let c ← hexDigit? third
  let d ← hexDigit? fourth
  return ((a * 16 + b) * 16 + c) * 16 + d

/-- The character that a one-letter escape stands for. -/
def simpleEscape? : Char → Option Char
  | '"' => some '"'
  | '\\' => some '\\'
  | '/' => some '/'
  | 'b' => some '\x08'
  | 'f' => some '\x0c'
  | 'n' => some '\n'
  | 'r' => some '\r'
  | 't' => some '\t'
  | _ => none

/-- An element of a string: a character, or the 16-bit unit of a numeric escape. -/
inductive StringPart where
  | char (char : Char)
  | unit (code : Nat)

/-- The elements of a string up to its closing quote, and the rest of the text. -/
def readParts : List Char → Option (List StringPart × List Char)
  | '"' :: rest => some ([], rest)
  | '\\' :: 'u' :: a :: b :: c :: d :: rest => do
    let code ← hexQuad? a b c d
    let (parts, after) ← readParts rest
    return (.unit code :: parts, after)
  | '\\' :: escaped :: rest => do
    let char ← simpleEscape? escaped
    let (parts, after) ← readParts rest
    return (.char char :: parts, after)
  | char :: rest => do
    if char = '\\' || char.toNat < 0x20 then none
    let (parts, after) ← readParts rest
    return (.char char :: parts, after)
  | [] => none

/-- The code unit is the first half of a surrogate pair. -/
def isHighSurrogate (code : Nat) : Bool :=
  0xD800 ≤ code && code < 0xDC00

/-- The code unit is the second half of a surrogate pair. -/
def isLowSurrogate (code : Nat) : Bool :=
  0xDC00 ≤ code && code < 0xE000

/-- The characters of a string, with surrogate pairs joined; none if a half is left alone. -/
def joinParts : List StringPart → Option (List Char)
  | [] => some []
  | .char char :: rest => (joinParts rest).map (char :: ·)
  | .unit high :: .unit low :: rest =>
    if isHighSurrogate high then
      if isLowSurrogate low then
        (joinParts rest).map
          (Char.ofNat (0x10000 + (high - 0xD800) * 0x400 + (low - 0xDC00)) :: ·)
      else none
    else if isLowSurrogate high then none
    else (joinParts (.unit low :: rest)).map (Char.ofNat high :: ·)
  | .unit code :: rest =>
    if isHighSurrogate code || isLowSurrogate code then none
    else (joinParts rest).map (Char.ofNat code :: ·)

/-- A string behind its opening quote, and the rest of the text. -/
def readString (chars : List Char) : Option (Option String × List Char) := do
  let (parts, rest) ← readParts chars
  return ((joinParts parts).map String.ofList, rest)

/-- The exponent part of a number, if one is written, and the rest of the text. -/
def readExponent : List Char → Option (Option Int × List Char)
  | mark :: rest =>
    if mark = 'e' || mark = 'E' then
      let (negative, unsigned) := match rest with
        | '-' :: digits => (true, digits)
        | '+' :: digits => (false, digits)
        | digits => (false, digits)
      let digits := unsigned.takeWhile Char.isDigit
      if digits.isEmpty then none
      else
        let size : Int := digitsValue digits
        some (some (if negative then -size else size), unsigned.dropWhile Char.isDigit)
    else some (none, mark :: rest)
  | [] => some (none, [])

/-- The fraction digits of a number, if a point is written, and the rest of the text. -/
def readFraction : List Char → Option (Option (List Char) × List Char)
  | '.' :: rest =>
    let digits := rest.takeWhile Char.isDigit
    if digits.isEmpty then none else some (some digits, rest.dropWhile Char.isDigit)
  | chars => some (none, chars)

/-- A number without its sign, and the rest of the text.  A leading zero stands alone. -/
def readUnsigned (negative : Bool) (chars : List Char) : Option (Numeral × List Char) := do
  let digits := chars.takeWhile Char.isDigit
  if digits.isEmpty || (digits.head? == some '0' && digits.length > 1) then none
  let (fraction, afterFraction) ← readFraction (chars.dropWhile Char.isDigit)
  let (exponent, rest) ← readExponent afterFraction
  let places := fraction.getD []
  return (⟨negative, digitsValue (digits ++ places), exponent.getD 0 - places.length,
    fraction.isNone && exponent.isNone⟩, rest)

/-- The rest of a text behind a word that it starts with. -/
def afterWord? (word : List Char) (chars : List Char) : Option (List Char) :=
  if word.isPrefixOf chars then some (chars.drop word.length) else none

mutual

/-- A value, which may stand behind blanks, and the rest of the text. -/
def readValue : Nat → List Char → Option (Value × List Char)
  | 0, _ => none
  | steps + 1, chars =>
    match skipBlanks chars with
    | '"' :: rest => do
      let (content, after) ← readString rest
      return (.text content, after)
    | '[' :: rest =>
      match skipBlanks rest with
      | ']' :: after => some (.list [], after)
      | rest => do
        let (items, after) ← readItems steps rest
        return (.list items, after)
    | '{' :: rest =>
      match skipBlanks rest with
      | '}' :: after => some (.object [], after)
      | rest => do
        let (entries, after) ← readEntries steps rest
        return (.object entries, after)
    | '-' :: rest => do
      let (numeral, after) ← readUnsigned true rest
      return (.number numeral, after)
    | 'n' :: rest => do return (.null, ← afterWord? ['u', 'l', 'l'] rest)
    | 't' :: rest => do return (.bool true, ← afterWord? ['r', 'u', 'e'] rest)
    | 'f' :: rest => do return (.bool false, ← afterWord? ['a', 'l', 's', 'e'] rest)
    | rest => do
      let (numeral, after) ← readUnsigned false rest
      return (.number numeral, after)

/-- The items of an array that has at least one more, up to its closing bracket. -/
def readItems : Nat → List Char → Option (List Value × List Char)
  | 0, _ => none
  | steps + 1, chars => do
    let (item, after) ← readValue steps chars
    match skipBlanks after with
    | ']' :: rest => return ([item], rest)
    | ',' :: rest =>
      let (items, after) ← readItems steps rest
      return (item :: items, after)
    | _ => none

/-- The entries of an object that has at least one more, up to its closing brace. -/
def readEntries : Nat → List Char → Option (List (Option String × Value) × List Char)
  | 0, _ => none
  | steps + 1, chars => do
    let '"' :: rest := skipBlanks chars | none
    let (key, after) ← readString rest
    let ':' :: rest := skipBlanks after | none
    let (value, after) ← readValue steps rest
    match skipBlanks after with
    | '}' :: rest => return ([(key, value)], rest)
    | ',' :: rest =>
      let (entries, after) ← readEntries steps rest
      return ((key, value) :: entries, after)
    | _ => none

end

/-- The value of a JSON text. -/
def Value.ofText? (text : String) : Option Value := do
  let chars := text.toList
  let (value, rest) ← readValue (2 * chars.length + 1) chars
  if (skipBlanks rest).isEmpty then some value else none

end Json
end RefDocs
