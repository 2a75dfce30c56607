import RefDocs.Text.Numeral

/-!
# Quoted TOML strings

The four forms of a string: in double quotes with escapes or in single quotes without, each on one
line or, with three quotes, on many.  A reader starts behind the opening quotes and hands on the
text behind the closing ones.  Where several characters make up one step, the reader is told how
many of them are still to be passed over.
-/

namespace RefDocs
namespace Toml

/-- A character that may stand in a string or comment: no control character other than a tab. -/
def isPlain (char : Char) : Bool :=
  char == '\t' || (0x20 ≤ char.toNat && char.toNat != 0x7F)

/-- A space or tab. -/
def isSpace (char : Char) : Bool :=
  char == ' ' || char == '\t'

/-- The character with a code point in hexadecimal digits, if there is one. -/
def codePoint? (digits : List Char) : Option Char := do
  let values ← digits.mapM hexDigit?
  let code := values.foldl (fun code value => 16 * code + value) 0
  if code < 0xD800 || (0xDFFF < code && code < 0x110000) then some (Char.ofNat code) else none

/-- The character that an escape stands for and the number of characters that it takes, for a text
behind a backslash. -/
def escape? : List Char → Option (Char × Nat)
  | 'b' :: _ => some ('\x08', 1)
  | 't' :: _ => some ('\t', 1)
  | 'n' :: _ => some ('\n', 1)
  | 'f' :: _ => some ('\x0c', 1)
  | 'r' :: _ => some ('\r', 1)
  | 'e' :: _ => some ('\x1b', 1)
  | '"' :: _ => some ('"', 1)
  | '\\' :: _ => some ('\\', 1)
  | 'x' :: rest => numbered 2 rest
  | 'u' :: rest => numbered 4 rest
  | 'U' :: rest => numbered 8 rest
  | _ => none
where
  /-- An escape with a number of hexadecimal digits. -/
  numbered (count : Nat) (rest : List Char) : Option (Char × Nat) := do
    if rest.length < count then none
    return (← codePoint? (rest.take count), count + 1)

/-- A string in double quotes on one line. -/
def readBasic : Nat → List Char → Option (List Char × List Char)
  | _, [] => none
  | skip + 1, _ :: rest => readBasic skip rest
  | 0, '"' :: rest => some ([], rest)
  | 0, '\\' :: rest => do
    let (char, taken) ← escape? rest
    let (chars, after) ← readBasic taken rest
    return (char :: chars, after)
  | 0, char :: rest => do
    if !isPlain char then none
    let (chars, after) ← readBasic 0 rest
    return (char :: chars, after)

/-- A string in single quotes on one line. -/
def readLiteral : List Char → Option (List Char × List Char)
  | [] => none
  | '\'' :: rest => some ([], rest)
  | char :: rest => do
    if !isPlain char then none
    let (chars, after) ← readLiteral rest
    return (char :: chars, after)

/-- The text behind the line end that it starts with, if it does. -/
def afterLineEnd? : List Char → Option (List Char)
  | '\n' :: rest | '\r' :: '\n' :: rest => some rest
  | _ => none

/-- The number of characters of the spaces and line ends that a text starts with. -/
def marginLength : List Char → Nat
  | '\r' :: '\n' :: rest => marginLength rest + 2
  | char :: rest => if isSpace char || char == '\n' then marginLength rest + 1 else 0
  | [] => 0

/-- The quotes that belong to a string although they stand before its three closing ones, and the
text behind: up to two quotes may do so. -/
def closingQuotes (quote : Char) : List Char → List Char × List Char
  | first :: second :: rest =>
    if first = quote then
      if second = quote then ([quote, quote], rest) else ([quote], second :: rest)
    else ([], first :: second :: rest)
  | [first] => if first = quote then ([quote], []) else ([], [first])
  | [] => ([], [])

/-- A string in three double quotes.  A backslash at the end of a line stands for nothing, together
with all spaces and line ends that follow. -/
def readBasicBlock : Nat → List Char → Option (List Char × List Char)
  | _, [] => none
  | skip + 1, _ :: rest => readBasicBlock skip rest
  | 0, '"' :: '"' :: '"' :: rest => some (closingQuotes '"' rest)
  | 0, '\\' :: rest => do
    if (afterLineEnd? (rest.dropWhile isSpace)).isSome then readBasicBlock (marginLength rest) rest
    else
      let (char, taken) ← escape? rest
      let (chars, after) ← readBasicBlock taken rest
      return (char :: chars, after)
  | 0, '\r' :: '\n' :: rest | 0, '\n' :: rest => do
    let (chars, after) ← readBasicBlock 0 rest
    return ('\n' :: chars, after)
  | 0, char :: rest => do
    if !isPlain char then none
    let (chars, after) ← readBasicBlock 0 rest
    return (char :: chars, after)

/-- A string in three single quotes. -/
def readLiteralBlock : List Char → Option (List Char × List Char)
  | [] => none
  | '\'' :: '\'' :: '\'' :: rest => some (closingQuotes '\'' rest)
  | '\r' :: '\n' :: rest | '\n' :: rest => do
    let (chars, after) ← readLiteralBlock rest
    return ('\n' :: chars, after)
  | char :: rest => do
    if !isPlain char then none
    let (chars, after) ← readLiteralBlock rest
    return (char :: chars, after)

/-- A string of one line, if the text starts with one. -/
def readLine? : List Char → Option (Option (List Char × List Char))
  | '"' :: rest => some (readBasic 0 rest)
  | '\'' :: rest => some (readLiteral rest)
  | _ => none

/-- A string of any form, if the text starts with one.  A line end right behind three opening quotes
is left out. -/
def readQuoted? : List Char → Option (Option (List Char × List Char))
  | '"' :: '"' :: '"' :: rest => some (readBasicBlock 0 ((afterLineEnd? rest).getD rest))
  | '\'' :: '\'' :: '\'' :: rest => some (readLiteralBlock ((afterLineEnd? rest).getD rest))
  | chars => readLine? chars

end Toml
end RefDocs
