import RefDocs.Toml.Quoted
import RefDocs.Toml.Scalar

/-!
# Reading TOML text

A text is a row of statements, each on lines of its own, with comments and empty lines between them.
The number of steps is bounded by the length of the text, since every statement and every value
takes at least one character; arrays and inline tables may be nested only so deep.
-/

namespace RefDocs
namespace Toml

/-- The deepest nesting of arrays and inline tables. -/
def nestingLimit : Nat :=
  80

/-- The text without the spaces and tabs that it starts with. -/
def skipSpaces (chars : List Char) : List Char :=
  chars.dropWhile isSpace

/-- The text without the spaces, line ends and comments that it starts with, the start being inside
a comment or not. -/
def skipLines : Bool → List Char → Option (List Char)
  | _, '\n' :: rest | _, '\r' :: '\n' :: rest => skipLines false rest
  | true, char :: rest => if isPlain char then skipLines true rest else none
  | false, '#' :: rest => skipLines true rest
  | false, ' ' :: rest | false, '\t' :: rest => skipLines false rest
  | _, chars => some chars

/-- The text behind the end of a line, where only spaces and a comment may stand before it. -/
def endLine (chars : List Char) : Option (List Char) :=
  let rest := skipSpaces chars
  if rest.isEmpty || rest.head? == some '#' || (afterLineEnd? rest).isSome then
    skipLines false rest
  else none

/-! ## Keys -/

/-- A character of a key without quotes. -/
def isBareKeyChar (char : Char) : Bool :=
  char.isAlphanum || char == '_' || char == '-'

/-- One key, and the rest of the text. -/
def readKey (chars : List Char) : Option (String × List Char) := do
  match readLine? chars with
  | some quoted =>
    let (key, rest) ← quoted
    return (String.ofList key, rest)
  | none =>
    let key := chars.takeWhile isBareKeyChar
    if key.isEmpty then none
    return (String.ofList key, chars.dropWhile isBareKeyChar)

/-- Keys with points between them, and the rest of the text without the spaces that follow. -/
def readPath : Nat → List Char → Option (KeyPath × List Char)
  | 0, _ => none
  | steps + 1, chars => do
    let (key, after) ← readKey (skipSpaces chars)
    match skipSpaces after with
    | '.' :: rest =>
      let (path, after) ← readPath steps rest
      return (⟨key :: path.tables, path.key⟩, after)
    | rest => return (⟨[], key⟩, rest)

/-! ## Values -/

mutual

/-- A value, and the rest of the text. -/
def readValue : Nat → Nat → List Char → Option (Value × List Char)
  | 0, _, _ => none
  | steps + 1, levels, chars =>
    match chars, levels with
    | '[' :: _, 0 | '\x7b' :: _, 0 => none
    | '[' :: rest, levels + 1 => do
      let (items, after) ← readItems steps levels rest
      return (.list items, after)
    | '\x7b' :: rest, levels + 1 => do
      let (pairs, after) ← readPairs steps levels rest
      return (← Value.ofPairs? pairs, after)
    | chars, _ =>
      match readQuoted? chars with
      | some quoted => do
        let (content, after) ← quoted
        return (.text (String.ofList content), after)
      | none => readScalar chars

/-- The items of an array up to its closing bracket.  A comma may follow the last one. -/
def readItems : Nat → Nat → List Char → Option (List Value × List Char)
  | 0, _, _ => none
  | steps + 1, levels, chars => do
    match ← skipLines false chars with
    | ']' :: rest => return ([], rest)
    | start =>
      let (item, after) ← readValue steps levels start
      match ← skipLines false after with
      | ',' :: rest =>
        let (items, after) ← readItems steps levels rest
        return (item :: items, after)
      | ']' :: rest => return ([item], rest)
      | _ => none

/-- The keys and values of an inline table up to its closing brace.  A comma may follow the last
pair. -/
def readPairs : Nat → Nat → List Char → Option (List (KeyPath × Value) × List Char)
  | 0, _, _ => none
  | steps + 1, levels, chars => do
    match ← skipLines false chars with
    | '\x7d' :: rest => return ([], rest)
    | start =>
      let (path, '=' :: rest) ← readPath steps start | none
      let (value, after) ← readValue steps levels (skipSpaces rest)
      match ← skipLines false after with
      | ',' :: rest =>
        let (pairs, after) ← readPairs steps levels rest
        return ((path, value) :: pairs, after)
      | '\x7d' :: rest => return ([(path, value)], rest)
      | _ => none

end

/-! ## Statements -/

/-- A statement, and the rest of the text. -/
def readStatement (steps : Nat) : List Char → Option (Statement × List Char)
  | '[' :: '[' :: rest => do
    let (path, ']' :: ']' :: after) ← readPath steps rest | none
    return (.element path, after)
  | '[' :: rest => do
    let (path, ']' :: after) ← readPath steps rest | none
    return (.table path, after)
  | chars => do
    let (path, '=' :: rest) ← readPath steps chars | none
    let (value, after) ← readValue steps nestingLimit (skipSpaces rest)
    return (.assign path value, after)

/-- All statements of a text. -/
def readStatements : Nat → List Char → Option (List Statement)
  | 0, _ => none
  | steps + 1, chars => do
    let start ← skipLines false chars
    if start.isEmpty then return []
    let (statement, after) ← readStatement (2 * start.length) start
    let rest ← endLine after
    return statement :: (← readStatements steps rest)

/-- The outermost table of a text, in front of which a byte order mark may stand. -/
def Value.ofText? (text : String) : Option Value := do
  let chars := match text.toList with
    | '\ufeff' :: rest => rest
    | chars => chars
  Value.ofStatements? (← readStatements (chars.length + 1) chars)

end Toml
end RefDocs
