import RefDocs.Files.Error
import RefDocs.Text.Split

/-!
# File trees

The files and directories of a machine, each at the names that lead to it from the root directory,
and the operations on them by path.  A path is walked name by name: each directory on the way has
to be there, `.` stays and `..` goes up.
-/

namespace RefDocs

/-- The names that lead from the root directory to a file or directory. -/
abbrev Location :=
  List String

/-- What stands at a location. -/
inductive Entry where
  /-- A file with its text. -/
  | file (text : String)
  /-- A directory. -/
  | directory
  deriving DecidableEq, Repr

/-- Files and directories by location.  The root directory is always there. -/
structure FileTree where
  /-- All entries but the root directory. -/
  entries : List (Location × Entry)
  deriving DecidableEq, Repr

namespace FileTree

/-- What stands at a location. -/
def entry? (tree : FileTree) (location : Location) : Option Entry :=
  if location.isEmpty then some .directory else tree.entries.lookup location

/-- The tree with an entry at a location, whatever stood there before. -/
def put (tree : FileTree) (location : Location) (entry : Entry) : FileTree :=
  ⟨(location, entry) :: tree.entries.filter fun old => old.1 != location⟩

/-- The tree without an entry. -/
def erase (tree : FileTree) (location : Location) : FileTree :=
  ⟨tree.entries.filter fun old => old.1 != location⟩

/-- The tree without the entries below a location. -/
def eraseBelow (tree : FileTree) (location : Location) : FileTree :=
  ⟨tree.entries.filter fun old => !(location.isPrefixOf old.1 && old.1 != location)⟩

/-- The files below a location, with the names that lead to them from there. -/
def filesBelow (tree : FileTree) (location : Location) : List (Location × String) :=
  tree.entries.filterMap fun (place, entry) =>
    match entry with
    | .file text =>
      if location.isPrefixOf place && place != location then some (place.drop location.length, text)
      else none
    | .directory => none

/-! ## Walking paths -/

/-- A location, if a directory stands there. -/
def enter (tree : FileTree) (location : Location) : Except FileError Location :=
  match tree.entry? location with
  | some .directory => .ok location
  | some (.file _) => .error .notDirectory
  | none => .error .notFound

/-- Where a name leads from a directory. -/
def follow (directory : Location) (name : String) : Except FileError Location :=
  if name.isEmpty || name == "." then .ok directory
  else if name == ".." then .ok directory.dropLast
  else if 255 < name.utf8ByteSize then .error .nameTooLong
  else .ok (directory ++ [name])

/-- Where names lead from a directory, if there is a directory after each name but the last. -/
def walk (tree : FileTree) : Location → List String → Except FileError Location
  | here, [] => .ok here
  | here, [name] => follow here name
  | here, name :: names => do
    let place ← tree.enter (← follow here name)
    tree.walk place names

/-- The names in a path, and whether they are to be followed from the root directory. -/
def namesOf (path : String) : Except FileError (Bool × List String) :=
  if path.isEmpty then .error .notFound
  else if path.toList.contains '\x00' then .error .nullCharacter
  else if 4095 < path.utf8ByteSize then .error .nameTooLong
  else match Text.split '/' path with
    | "" :: names => .ok (true, names)
    | names => .ok (false, names)

/-- Where a path leads from a directory. -/
def locate (tree : FileTree) (directory : Location) (path : String) :
    Except FileError Location := do
  let (isAbsolute, names) ← namesOf path
  tree.walk (if isAbsolute then [] else directory) names

/-! ## Operations -/

/-- What a path leads to. -/
def find? (tree : FileTree) (directory : Location) (path : String) : Option Entry :=
  match tree.locate directory path with
  | .ok location => tree.entry? location
  | .error _ => none

/-- The text of a file. -/
def read (tree : FileTree) (directory : Location) (path : String) : Except FileError String := do
  let location ← tree.locate directory path
  match tree.entry? location with
  | some (.file text) => return text
  | some .directory => throw .isDirectory
  | none => throw .notFound

/-- The tree with a file, which is made or gets another text. -/
def write (tree : FileTree) (directory : Location) (path text : String) :
    Except FileError FileTree := do
  let location ← tree.locate directory path
  if tree.entry? location = some .directory then throw .isDirectory
  discard (tree.enter location.dropLast)
  return tree.put location (.file text)

/-- The tree with a new directory.  Slashes may follow its name. -/
def makeDirectory (tree : FileTree) (directory : Location) (path : String) :
    Except FileError FileTree := do
  let (isAbsolute, names) ← namesOf path
  let location ← tree.walk (if isAbsolute then [] else directory)
    (Text.dropEndWhile String.isEmpty names)
  if (tree.entry? location).isSome then throw .alreadyExists
  discard (tree.enter location.dropLast)
  return tree.put location .directory

/-- Why a directory without entries cannot be removed by a path, if so: the path must not end in one
of the two names that every directory has. -/
def removalFault? (path : String) : Option FileError :=
  match (Text.dropEndWhile String.isEmpty (Text.split '/' path)).getLast? with
  | some "." => some .invalidArgument
  | some ".." => some .notEmpty
  | _ => none

/-- The tree without a directory and all below it.  The entries go first, so a path by which the
directory itself cannot be removed leaves it behind empty. -/
def removeTree (tree : FileTree) (directory : Location) (path : String) :
    Except FileError Unit × FileTree :=
  match tree.locate directory path >>= tree.enter with
  | .error error => (.error error, tree)
  | .ok location =>
    let emptied := tree.eraseBelow location
    match emptied.locate directory path, removalFault? path with
    | .error _, _ => (.ok (), emptied)
    | .ok _, some fault => (.error fault, emptied)
    | .ok _, none => (.ok (), emptied.erase location)

end FileTree
end RefDocs
