import RefDocs.Text.Blank

/-!
# Cutting and joining texts

Cutting a text at each occurrence of a character, at its last occurrence, and replacing one
character by a text.  All work on the list of characters, so they evaluate in proofs.  Where a text
is cut at a place that was counted, the place is a number of bytes.
-/

namespace RefDocs
namespace Text

/-- The pieces of a list between the occurrences of a separator; never empty. -/
def splitList {α : Type} [DecidableEq α] (separator : α) : List α → List (List α)
  | [] => [[]]
  | item :: rest =>
    if item = separator then [] :: splitList separator rest
    else
      match splitList separator rest with
      | [] => [[item]]
      | piece :: pieces => (item :: piece) :: pieces

/-- The pieces of a text between the occurrences of a separator; never empty. -/
def split (separator : Char) (text : String) : List String :=
  (splitList separator text.toList).map String.ofList

/-- The texts of a list in order, with a separator between neighbours. -/
def join (separator : String) (pieces : List String) : String :=
  String.intercalate separator pieces

/-- The part after the last occurrence of a separator, or the whole text without one. -/
def afterLast (separator : Char) (text : String) : String :=
  (split separator text).getLastD ""

/-- The part before the last occurrence of a separator, if there is one. -/
def beforeLast? (separator : Char) (text : String) : Option String :=
  match split separator text with
  | [] | [_] => none
  | pieces => some (join (String.singleton separator) pieces.dropLast)

/-- The parts before and after the first occurrence of a separator, if there is one. -/
def cutFirst? (separator : Char) (text : String) : Option (String × String) :=
  let chars := text.toList
  match chars.dropWhile (· != separator) with
  | [] => none
  | _ :: rest => some (String.ofList (chars.takeWhile (· != separator)), String.ofList rest)

/-- A text with each occurrence of one character replaced by another text. -/
def replaceChar (old : Char) (new : String) (text : String) : String :=
  String.ofList (text.toList.flatMap fun char => if char = old then new.toList else [char])

/-- A text without the occurrences of a character at its end. -/
def trimEndOf (char : Char) (text : String) : String :=
  String.ofList (dropEndWhile (· == char) text.toList)

/-- A text repeated a number of times. -/
def replicate (count : Nat) (text : String) : String :=
  String.join (List.replicate count text)

/-- The rest of a text after a given start, if it starts so. -/
def dropStart? (start text : String) : Option String :=
  if start.toList.isPrefixOf text.toList then
    some (String.ofList (text.toList.drop start.toList.length))
  else none

/-- A text ends with the given text. -/
def endsWith (tail text : String) : Bool :=
  tail.toList.isSuffixOf text.toList

/-- The part of a text in front of a number of bytes; nothing if they end behind the text or inside
a character. -/
def slice? (bytes : Nat) (text : String) : Option String :=
  if valid : String.Pos.Raw.IsValid text ⟨bytes⟩ then
    some (text.sliceTo (text.pos ⟨bytes⟩ valid)).copy
  else none

/-- A text can be cut exactly behind the bytes of a text that it starts with. -/
theorem slice?_eq_some_iff {bytes : Nat} {text front : String} :
    slice? bytes text = some front ↔ ∃ rest, text = front ++ rest ∧ front.utf8ByteSize = bytes := by
  rw [slice?]
  constructor
  · intro cut
    split at cut
    · obtain ⟨rest, splits⟩ := String.copy_sliceTo_eq_iff_exists_splits.mp (Option.some.inj cut)
      have bytes_eq := congrArg String.Pos.Raw.byteIdx splits.offset_eq_rawEndPos
      exact ⟨rest, splits.eq_append, by simpa using bytes_eq.symm⟩
    · cases cut
  · rintro ⟨rest, rfl, rfl⟩
    have valid : String.Pos.Raw.IsValid (front ++ rest) ⟨front.utf8ByteSize⟩ :=
      String.Pos.Raw.isValid_iff_exists_append.mpr ⟨front, rest, rfl, rfl⟩
    rw [dif_pos valid]
    exact congrArg some (String.copy_sliceTo_eq_iff_exists_splits.mpr ⟨rest, rfl, rfl⟩)

/-- A text contains the given text. -/
def contains (part text : String) : Bool :=
  go part.toList text.toList
where
  /-- Some suffix of the second list starts with the first. -/
  go (part : List Char) : List Char → Bool
    | [] => part.isEmpty
    | char :: rest => part.isPrefixOf (char :: rest) || go part rest

end Text
end RefDocs
