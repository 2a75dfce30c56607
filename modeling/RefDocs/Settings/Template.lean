import RefDocs.Text.Alphanumeric
import RefDocs.Text.Split

/-!
# Texts with variables

A text may refer to variables as `$NAME`, `${NAME}` or `${NAME:-default}`.  It is cut into pieces
first, which needs no variable, and then filled in piece by piece.
-/

namespace RefDocs
namespace Template

/-- A piece of a text. -/
inductive Piece where
  /-- Text that stays as it is. -/
  | literal (text : String)
  /-- The value of a variable, or a default where the variable is not set. -/
  | variable (name : String) (default? : Option String)
  deriving DecidableEq, Repr

/-- The parts of a list before and behind the first occurrence of `:-`. -/
def cutDefault? : List Char → Option (List Char × List Char)
  | ':' :: '-' :: rest => some ([], rest)
  | char :: rest => (cutDefault? rest).map fun (name, default) => (char :: name, default)
  | [] => none

/-- The variable that a text between braces refers to.  A default has to have a name before it. -/
def Piece.ofBraced (inside : List Char) : Piece :=
  match cutDefault? inside with
  | some (first :: name, default) =>
    .variable (String.ofList (first :: name)) (some (String.ofList default))
  | _ => .variable (String.ofList inside) none

/-- A character of a name without braces. -/
def isNameChar (char : Char) : Bool :=
  isAlphanumeric char || char == '_'

/-- The pieces of a text behind a number of characters that belong to the piece before.  A dollar
sign stands for itself where no name follows, and two of them for one. -/
def pieces : Nat → List Char → List Piece
  | _, [] => []
  | taken + 1, _ :: rest => pieces taken rest
  | 0, '$' :: rest =>
    match rest with
    | '\x7b' :: inside =>
      if inside.contains '\x7d' then
        let inside := inside.takeWhile (· != '\x7d')
        .ofBraced inside :: pieces (inside.length + 2) rest
      else .literal "$\x7b" :: pieces 1 rest
    | '$' :: _ => .literal "$" :: pieces 1 rest
    | _ =>
      match rest.takeWhile isNameChar with
      | [] => .literal "$" :: pieces 0 rest
      | name => .variable (String.ofList name) none :: pieces name.length rest
  | 0, char :: rest => .literal (String.singleton char) :: pieces 0 rest

/-- A name that a variable can have. -/
def isVariableName (name : String) : Bool :=
  !name.isEmpty && !name.toList.contains '='

/-- The text of a piece; a name without value and default is the failure. -/
def Piece.fill {m : Type → Type} [Monad m] (value? : String → m (Option String)) :
    Piece → ExceptT String m String
  | .literal text => pure text
  | .variable name default? => do
    let value ← if isVariableName name then ExceptT.lift (value? name) else pure none
    match value <|> default? with
    | some text => pure text
    | none => throw name

/-- A text with the values of its variables; the first name without value is the failure.  A text
without a brace behind a dollar sign refers to no variable at all. -/
def expand {m : Type → Type} [Monad m] (value? : String → m (Option String)) (text : String) :
    ExceptT String m String := do
  if Text.contains "$\x7b" text then
    return String.join (← (pieces 0 text.toList).mapM (Piece.fill value?))
  else return text

end Template
end RefDocs
