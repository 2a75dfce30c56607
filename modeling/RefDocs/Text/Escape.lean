/-!
# Escaped text

The three characters reserved in page markup are written as character references.
-/

namespace RefDocs
namespace Text

/-- A character that page markup reserves. -/
def isReserved (char : Char) : Bool :=
  char == '<' || char == '>' || char == '&'

/-- The written form of one character in escaped text. -/
def escapeChar (char : Char) : List Char :=
  match char with
  | '&' => ['&', 'a', 'm', 'p', ';']
  | '<' => ['&', 'l', 't', ';']
  | '>' => ['&', 'g', 't', ';']
  | _ => [char]

/-- A text with `&`, `<` and `>` written as character references.  A text without them is not
touched; of any other, what stands in front of the first is copied as it is. -/
def escape (text : String) : String :=
  let chars := text.toList
  match chars.dropWhile fun char => !isReserved char with
  | [] => text
  | rest =>
    String.ofList ((chars.takeWhile fun char => !isReserved char) ++ rest.flatMap escapeChar)

theorem escapeChar_of_not_reserved {char : Char} (plain : isReserved char = false) :
    escapeChar char = [char] := by
  unfold escapeChar
  split
  · simp [isReserved] at plain
  · simp [isReserved] at plain
  · simp [isReserved] at plain
  · rfl

theorem flatMap_escapeChar_of_plain {chars : List Char}
    (plain : ∀ char ∈ chars, isReserved char = false) : chars.flatMap escapeChar = chars := by
  induction chars with
  | nil => rfl
  | cons char rest ih =>
      rw [List.forall_mem_cons] at plain
      rw [List.flatMap_cons, escapeChar_of_not_reserved plain.1, ih plain.2,
        List.singleton_append]

/-- Wherever the first reserved character stands, each character is escaped by itself. -/
theorem escape_eq (text : String) :
    escape text = String.ofList (text.toList.flatMap escapeChar) := by
  have front_plain : ∀ char ∈ text.toList.takeWhile (fun char => !isReserved char),
      isReserved char = false := by
    intro char char_mem
    simpa using List.all_eq_true.mp List.all_takeWhile char char_mem
  have chars_eq :=
    List.takeWhile_append_dropWhile (p := fun char => !isReserved char) (l := text.toList)
  rw [escape]
  split
  · rename_i rest_nil
    rw [rest_nil, List.append_nil] at chars_eq
    rw [chars_eq] at front_plain
    rw [flatMap_escapeChar_of_plain front_plain, String.ofList_toList]
  · rw [← flatMap_escapeChar_of_plain front_plain, ← List.flatMap_append, chars_eq]

/-- Escaping distributes over concatenation. -/
theorem escape_append (left right : String) :
    escape (left ++ right) = escape left ++ escape right := by
  simp [escape_eq, String.ofList_append]

end Text
end RefDocs
