import RefDocs.Text.Numeral
import RefDocs.Toml.Value

/-!
# TOML scalars

Truth values, numbers, dates and times.  Each is one word of letters, digits and a few signs, apart
from a date and a time with a single space between them.
-/

namespace RefDocs
namespace Toml

/-- A character that a scalar may be written with. -/
def isScalarChar (char : Char) : Bool :=
  char.isAlphanum || ['+', '-', '_', '.', ':'].contains char

/-! ## Numbers -/

/-- The digits of a word without the underscores, each of which has to stand between two digits. -/
def ungroup? (isDigit : Char → Bool) : List Char → Option (List Char)
  | [] => none
  | [digit] => if isDigit digit then some [digit] else none
  | digit :: '_' :: rest =>
    if isDigit digit then (ungroup? isDigit rest).map (digit :: ·) else none
  | digit :: rest => if isDigit digit then (ungroup? isDigit rest).map (digit :: ·) else none

/-- The digits of a decimal number without superfluous zeros in front. -/
def decimalDigits? (word : List Char) : Option (List Char) := do
  let digits ← ungroup? Char.isDigit word
  if digits.head? == some '0' && digits.length != 1 then none
  return digits

/-- A word without its sign, and whether that is a minus. -/
def splitSign : List Char → Bool × List Char
  | '-' :: rest => (true, rest)
  | '+' :: rest => (false, rest)
  | word => (false, word)

/-- An integer is small enough to be read: a negative one has 128 bits with its sign, the others
without. -/
def isReadable (negative : Bool) (size : Nat) : Bool :=
  if negative then size ≤ Nat.pow 2 127 else size < Nat.pow 2 128

/-- A decimal integer. -/
def isInteger (word : List Char) : Bool :=
  let (negative, unsigned) := splitSign word
  match decimalDigits? unsigned with
  | some digits => isReadable negative (digitsValue digits)
  | none => false

/-- The value of digits in a base. -/
def valueInBase? (base : Nat) (word : List Char) : Option Nat := do
  let isDigit (char : Char) := (hexDigit? char).any (· < base)
  let digits ← ungroup? isDigit word
  let values ← digits.mapM hexDigit?
  return values.foldl (fun value digit => base * value + digit) 0

/-- An integer with a letter for its base. -/
def isBasedInteger : List Char → Bool
  | '0' :: letter :: rest =>
    let base? := match letter with
      | 'x' => some 16
      | 'o' => some 8
      | 'b' => some 2
      | _ => none
    (base?.bind fun base => valueInBase? base rest).any (isReadable false)
  | _ => false

/-- An exponent with its sign. -/
def exponent? (word : List Char) : Option Int := do
  let (negative, unsigned) := splitSign word
  let digits ← ungroup? Char.isDigit unsigned
  let size : Int := digitsValue digits
  return if negative then -size else size

/-- A float without its sign: a fraction, an exponent or both behind a decimal integer. -/
def float? (negative : Bool) (word : List Char) : Option Numeral := do
  let isMark (char : Char) := char == 'e' || char == 'E'
  let mantissa := word.takeWhile (!isMark ·)
  let mark := word.dropWhile (!isMark ·)
  let point := mantissa.dropWhile (· != '.')
  if mark.isEmpty && point.isEmpty then none
  let whole ← decimalDigits? (mantissa.takeWhile (· != '.'))
  let places ← if point.isEmpty then some [] else ungroup? Char.isDigit point.tail
  let exponent ← if mark.isEmpty then some 0 else exponent? mark.tail
  return ⟨negative, digitsValue (whole ++ places), exponent - places.length, false⟩

/-- A finite float, an infinity or no number. -/
def isFloat (word : List Char) : Bool :=
  let (negative, unsigned) := splitSign word
  unsigned == ['i', 'n', 'f'] || unsigned == ['n', 'a', 'n']
    || (float? negative unsigned).any Numeral.isFinite

/-! ## Dates and times -/

/-- The value of two digits. -/
def pair? (tens ones : Char) : Option Nat :=
  if tens.isDigit && ones.isDigit then some (digitsValue [tens, ones]) else none

/-- The number of days of a month. -/
def daysIn (year : Nat) : Nat → Nat
  | 2 => if year % 4 = 0 ∧ (year % 100 ≠ 0 ∨ year % 400 = 0) then 29 else 28
  | 4 | 6 | 9 | 11 => 30
  | _ => 31

/-- A date of the calendar. -/
def isDate : List Char → Bool
  | [y₁, y₂, y₃, y₄, '-', m₁, m₂, '-', d₁, d₂] =>
    match pair? y₁ y₂, pair? y₃ y₄, pair? m₁ m₂, pair? d₁ d₂ with
    | some century, some year, some month, some day =>
      1 ≤ month && month ≤ 12 && 1 ≤ day && day ≤ daysIn (100 * century + year) month
    | _, _, _, _ => false
  | _ => false

/-- Two digits of at most a given value, and what follows. -/
def afterPair? (most : Nat) : List Char → Option (List Char)
  | tens :: ones :: rest => if (pair? tens ones).any (· ≤ most) then some rest else none
  | _ => none

/-- What follows the hours and minutes that a word starts with. -/
def afterMinutes? (word : List Char) : Option (List Char) := do
  let ':' :: rest ← afterPair? 23 word | none
  afterPair? 59 rest

/-- What follows the time of day that a word starts with.  Seconds may be left out, and have a
fraction only if they are given. -/
def afterTime? (word : List Char) : Option (List Char) := do
  match ← afterMinutes? word with
  | ':' :: rest =>
    match ← afterPair? 60 rest with
    | '.' :: rest =>
      if (rest.takeWhile Char.isDigit).isEmpty then none else some (rest.dropWhile Char.isDigit)
    | rest => some rest
  | rest => some rest

/-- Nothing, or the distance from universal time. -/
def isOffset : List Char → Bool
  | [] | ['Z'] | ['z'] => true
  | sign :: rest => (sign == '+' || sign == '-') && afterMinutes? rest == some []

/-- A time of day that may have an offset. -/
def isOffsetTime (word : List Char) : Bool :=
  (afterTime? word).any isOffset

/-- A date, a time of day, or both joined by a letter. -/
def isMoment (word : List Char) : Bool :=
  isDate word || afterTime? word == some []
    || (isDate (word.take 10) && match word.drop 10 with
      | letter :: time => (letter == 'T' || letter == 't') && isOffsetTime time
      | [] => false)

/-! ## Words -/

/-- The value of a word. -/
def scalar? (word : List Char) : Option Value :=
  if word == ['t', 'r', 'u', 'e'] then some (.bool true)
  else if word == ['f', 'a', 'l', 's', 'e'] then some (.bool false)
  else if isInteger word || isBasedInteger word || isFloat word then some .number
  else if isMoment word then some .moment
  else none

/-- A scalar, and the rest of the text. -/
def readScalar (chars : List Char) : Option (Value × List Char) := do
  let word := chars.takeWhile isScalarChar
  let rest := chars.dropWhile isScalarChar
  match rest with
  | ' ' :: next :: after =>
    if isDate word && next.isDigit then
      if isOffsetTime ((next :: after).takeWhile isScalarChar) then
        some (.moment, (next :: after).dropWhile isScalarChar)
      else none
    else return (← scalar? word, rest)
  | _ => return (← scalar? word, rest)

end Toml
end RefDocs
