import RefDocs.Text.Numeral
import RefDocs.Text.Split

/-!
# Container depth

A container does not know how deep it is nested.  It leaves a marker with its depth in front of
its opening fence, and takes its own depth from the markers in its rendered body: one more than
the greatest, or one where there is none.  Depths are words of 64 bits, and texts have fewer than
2^63 bytes: a sum that is no word overflows, as overflow checks have it, and so does a fence that is
no text.  That the memory may not hold a shorter fence is not modelled.
-/

namespace RefDocs
namespace Depth

/-- What a marker holds before its number. -/
def markerStart : String := "<!-- apidoc-container depth: "

/-- What a marker holds after its number. -/
def markerEnd : String := " -->"

/-- The marker of a container of the given depth. -/
def marker (depth : Nat) : String :=
  markerStart ++ toString depth ++ markerEnd

/-- The greatest number that a marker can carry; markers with a greater one are passed over. -/
def maxMarked : Nat := Nat.pow 2 64 - 1

/-- The number of the marker that a text starts with, if it starts with one. -/
def readMarker? (chars : List Char) : Option Nat :=
  if markerStart.toList.isPrefixOf chars then
    let rest := chars.drop markerStart.toList.length
    let digits := rest.takeWhile Char.isDigit
    if digits.isEmpty then none
    else if markerEnd.toList.isPrefixOf (rest.dropWhile Char.isDigit) then
      if digitsValue digits ≤ maxMarked then some (digitsValue digits) else none
    else none
  else none

/-- The numbers of all markers in a text, in order. -/
def markers : List Char → List Nat
  | [] => []
  | char :: rest =>
    match readMarker? (char :: rest) with
    | some depth => depth :: markers rest
    | none => markers rest

/-- The depth of a container with the given rendered body, as a number of any size. -/
def around (body : String) : Nat :=
  match (markers body.toList).max? with
  | some deepest => deepest + 1
  | none => 1

/-- The depth of a container with the given rendered body; none if the sum overflows. -/
def around? (body : String) : Option Nat :=
  if around body ≤ maxMarked then some (around body) else none

/-- The fence of a container of the given depth, however long it is; a deeper container has a longer
one. -/
def fence (depth : Nat) : String :=
  ":::" ++ Text.replicate depth "::"

/-- The greatest number of bytes in a text. -/
def maxBytes : Nat := Nat.pow 2 63 - 1

/-- The fence of a container of the given depth; none if its pairs of colons overflow a text. -/
def fence? (depth : Nat) : Option String :=
  if 2 * depth ≤ maxBytes then some (fence depth) else none

end Depth
end RefDocs
