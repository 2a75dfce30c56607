/-!
# Blank characters

The Unicode property `White_Space` as a table of ranges, and trimming by it.  Core's
`Char.isWhitespace` knows only part of this class, so every blank test of the library goes
through `isBlank`.
-/

namespace RefDocs

/-- Code point ranges, ends included, of the Unicode property `White_Space`. -/
def blankRanges : List (Nat × Nat) :=
  [(0x9, 0xD), (0x20, 0x20), (0x85, 0x85), (0xA0, 0xA0), (0x1680, 0x1680), (0x2000, 0x200A),
    (0x2028, 0x2029), (0x202F, 0x202F), (0x205F, 0x205F), (0x3000, 0x3000)]

/-- A character with the Unicode property `White_Space`. -/
def isBlank (char : Char) : Bool :=
  blankRanges.any fun range => range.1 ≤ char.toNat && char.toNat ≤ range.2

/-- Every character that core calls white space is blank. -/
theorem isBlank_of_isWhitespace {char : Char} (white : char.isWhitespace = true) :
    isBlank char = true := by
  simp only [Char.isWhitespace, Bool.or_eq_true, decide_eq_true_eq] at white
  rcases white with ((rfl | rfl) | rfl) | rfl <;> decide

namespace Text

/-- A text without the blanks at its start. -/
def trimStart (text : String) : String :=
  String.ofList (text.toList.dropWhile isBlank)

/-- A list without the longest run at its end whose elements satisfy `test`. -/
def dropEndWhile {α : Type} (test : α → Bool) (items : List α) : List α :=
  (items.reverse.dropWhile test).reverse

/-- A text without the blanks at its end. -/
def trimEnd (text : String) : String :=
  String.ofList (dropEndWhile isBlank text.toList)

/-- A text without the blanks at either end. -/
def trim (text : String) : String :=
  trimEnd (trimStart text)

/-- A text with no character that is not blank. -/
def isBlankText (text : String) : Bool :=
  text.toList.all isBlank

end Text

end RefDocs
