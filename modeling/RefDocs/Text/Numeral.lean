/-!
# Digits and numerals

The values of digits, and decimal numbers as they are written.  A numeral keeps its digits and its
exponent apart, so whether it is finite as a binary64 number is decided in exact arithmetic.
-/

namespace RefDocs

/-- The value of a hexadecimal digit. -/
def hexDigit? (char : Char) : Option Nat :=
  if char.isDigit then some (char.toNat - '0'.toNat)
  else if 'a' ≤ char ∧ char ≤ 'f' then some (char.toNat - 'a'.toNat + 10)
  else if 'A' ≤ char ∧ char ≤ 'F' then some (char.toNat - 'A'.toNat + 10)
  else none

/-- The value of a list of decimal digits. -/
def digitsValue (digits : List Char) : Nat :=
  digits.foldl (fun value digit => 10 * value + (digit.toNat - '0'.toNat)) 0

theorem digitsValue_toDigits (number : Nat) : digitsValue (Nat.toDigits 10 number) = number :=
  Nat.ofDigitChars_ten_toDigits

/-- A number as it is written. -/
structure Numeral where
  /-- A minus sign stands in front. -/
  negative : Bool
  /-- All digits, read as one number. -/
  digits : Nat
  /-- The power of ten that the digits are multiplied by. -/
  exponent : Int
  /-- Neither a fraction nor an exponent is written. -/
  integral : Bool
  deriving DecidableEq, Repr

namespace Numeral

/-- The least decimal number of the form `d·10^e`, `d` an integer, whose nearest binary64 number is
infinite, as a bound on `digits · 10^exponent`. -/
def binary64Limit : Nat :=
  Nat.pow 2 1024 - Nat.pow 2 970

/-- The number rounds to a finite binary64 number. -/
def isFinite (numeral : Numeral) : Bool :=
  let width := (Nat.toDigits 10 numeral.digits).length + numeral.exponent
  if numeral.digits = 0 ∨ width < 300 then true
  else if width > 310 then false
  else if numeral.exponent < 0 then
    numeral.digits < binary64Limit * Nat.pow 10 numeral.exponent.natAbs
  else numeral.digits * Nat.pow 10 numeral.exponent.toNat < binary64Limit

/-- The number, if it is written as an unsigned integer of at most 64 bits. -/
def natural? (numeral : Numeral) : Option Nat :=
  if numeral.integral && !numeral.negative && decide (numeral.digits < Nat.pow 2 64) then
    some numeral.digits
  else none

end Numeral

end RefDocs
