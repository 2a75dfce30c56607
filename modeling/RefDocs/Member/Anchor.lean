import RefDocs.Display.Erased
import RefDocs.Snapshot.Basic
import RefDocs.Text.Split

/-!
# Member anchors

Each member of a type has an anchor on the page of the type.  Methods and constructors have their
erased parameter types in it, so overloads differ.  References to members name an anchor with more
freedom: parameter types may be shortened to their last segments, may carry type arguments and a
parameter name.
-/

namespace RefDocs

/-- A text without its blanks. -/
def withoutBlanks (text : String) : String :=
  String.ofList (text.toList.filter fun char => !isBlank char)

/-- The rest of a text in front of a given end, if it ends so. -/
def Text.dropEnd? (tail text : String) : Option String :=
  if Text.endsWith tail text then
    some (String.ofList (text.toList.take (text.toList.length - tail.toList.length)))
  else none

/-- The erased type of a parameter; where it takes any number of values, points stand for the last
array brackets. -/
def Parameter.anchorType (parameter : Parameter) : String :=
  let erased := parameter.type.erasedName
  if parameter.varargs then (Text.dropEnd? "[]" erased).getD erased ++ "..." else erased

namespace Member

/-- The erased parameter types of a member. -/
def anchorTypes (member : Member) : List String :=
  member.parameters.map Parameter.anchorType

/-- The anchor of a member in the page of its type. -/
def anchor (member : Member) : String :=
  match member.kind with
  | .enumConstant | .property | .field => member.name
  | .annotationElement => member.name ++ "()"
  | .constructor | .method =>
    withoutBlanks (member.name ++ "(" ++ Text.join "," member.anchorTypes ++ ")")

end Member

namespace Reference

/-- A text without what stands in angle brackets, and without the brackets. -/
def eraseArguments (text : String) : String :=
  String.ofList (go 0 text.toList)
where
  /-- The characters outside brackets, from a given depth on. -/
  go : Nat → List Char → List Char
    | _, [] => []
    | depth, '<' :: rest => go (depth + 1) rest
    | depth, '>' :: rest => go (depth - 1) rest
    | 0, char :: rest => char :: go 0 rest
    | depth + 1, _ :: rest => go (depth + 1) rest

/-- The pieces of a list of characters between the commas outside angle brackets. -/
def splitOutside : Nat → List Char → List (List Char)
  | _, [] => [[]]
  | depth, char :: rest =>
    if char = ',' ∧ depth = 0 then [] :: splitOutside 0 rest
    else
      let inner := if char = '<' then depth + 1 else if char = '>' then depth - 1 else depth
      match splitOutside inner rest with
      | piece :: pieces => (char :: piece) :: pieces
      | [] => [[char]]

/-- The parameters of a written list; a blank one has none. -/
def splitParameters (written : String) : List String :=
  if Text.isBlankText written then []
  else (splitOutside 0 written.toList).map String.ofList

/-- The type with array brackets in place of points at its end. -/
def arrayForm (type : String) : String :=
  match Text.dropEnd? "..." type with
  | some component => component ++ "[]"
  | none => type

/-- The first word of a text, if it has one. -/
def firstWord? (text : String) : Option String :=
  match (text.toList.dropWhile isBlank).takeWhile fun char => !isBlank char with
  | [] => none
  | word => some (String.ofList word)

/-- A written parameter, perhaps with its name behind it, is of the given erased type. -/
def namesType (expected written : String) : Bool :=
  match firstWord? (eraseArguments written) with
  | none => false
  | some word =>
    arrayForm expected == arrayForm word
      || Text.endsWith ("." ++ arrayForm word) (arrayForm expected)

/-- A written parameter list fits the parameters of a member. -/
def fits (member : Member) (written : String) : Bool :=
  let parameters := splitParameters written
  parameters.length == member.parameters.length
    && (member.anchorTypes.zip parameters).all fun pair => namesType pair.1 pair.2

/-- The name in a reference, and the parameter list if one is written. -/
def parts (reference : String) : String × Option String :=
  match Text.cutFirst? '(' reference with
  | some (name, rest) =>
    let list := Text.trimEnd rest
    (Text.trim name, some ((Text.dropEnd? ")" list).getD list))
  | none => (Text.trim reference, none)

/-- The first member of a type that a reference fits. -/
def member? (owner : TypeDecl) (reference : String) : Option Member :=
  let (name, list) := parts reference
  owner.members.find? fun member => member.name == name && list.all (fits member)

/-- The anchor that a reference stands for: that of the first member that it fits, or else its own
text without blanks. -/
def anchor (owner : TypeDecl) (reference : String) : String :=
  match member? owner reference with
  | some member => member.anchor
  | none => withoutBlanks reference

end Reference
end RefDocs
