import RefDocs.Text.Split

/-!
# Paths as texts

Joining paths and going up to the directory a path is in.  Both work on the text alone: nothing is
looked up, and a path is not brought into a normal form.
-/

namespace RefDocs
namespace Path

/-- A path that starts at the root directory. -/
def isAbsolute (path : String) : Bool :=
  path.toList.head? == some '/'

/-- A path that is taken relative to another one. -/
def join (base path : String) : String :=
  if isAbsolute path then path
  else if base.isEmpty || Text.endsWith "/" base then base ++ path
  else base ++ "/" ++ path

/-- A segment of a path that leads nowhere. -/
def isIdle (segment : String) : Bool :=
  segment.isEmpty || segment == "."

/-- The start of a path that no going up removes piece by piece, and the rest: the slash of an
absolute path, or the point that a relative path starts with. -/
def splitStart (path : String) : String × String :=
  match path.toList with
  | '/' :: rest => ("/", String.ofList rest)
  | ['.'] => (".", "")
  | '.' :: '/' :: rest => (".", String.ofList ('/' :: rest))
  | _ => ("", path)

/-- The directory that a path is in.  The root directory and the empty path are in none. -/
def parent? (path : String) : Option String :=
  let (start, body) := splitStart path
  match Text.dropEndWhile isIdle (Text.split '/' body) with
  | [] => if start == "." then some "" else none
  | segments =>
    some (start ++ Text.join "/" (Text.dropEndWhile isIdle segments.dropLast))

/-- A path and the directories above it, going up at most a number of times. -/
def upwards : Nat → String → List String
  | 0, path => [path]
  | steps + 1, path => path :: ((parent? path).map (upwards steps)).getD []

/-- A path and all directories above it, the nearest first. -/
def ancestors (path : String) : List String :=
  upwards path.length path

end Path
end RefDocs
