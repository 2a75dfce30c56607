import RefDocs.Files.Path
import RefDocs.Files.Tree

/-!
# Hosts

What a run needs of the machine it runs on: files, environment variables, the working directory and
lines of text to show.  Everything above is written for any host, so one definition serves the
program and the theory: a `Machine` is a host whose whole state is a value.
-/

namespace RefDocs

/-- What a path can lead to. -/
inductive EntryKind where
  /-- Anything that is no directory. -/
  | file
  /-- A directory. -/
  | directory
  deriving DecidableEq, Repr

/-- The kind of an entry. -/
def Entry.kind : Entry → EntryKind
  | .file _ => .file
  | .directory => .directory

/-- A monad whose actions reach a machine. -/
class Host (m : Type → Type) where
  /-- What a path leads to, if anything is there. -/
  kind? : String → m (Option EntryKind)
  /-- The text of a file. -/
  readFile : String → m (Except FileError String)
  /-- A file is made or gets another text. -/
  writeFile : String → String → m (Except FileError Unit)
  /-- A directory is made in one that is there. -/
  makeDirectory : String → m (Except FileError Unit)
  /-- A directory is removed with all below it. -/
  removeTree : String → m (Except FileError Unit)
  /-- The absolute path of the working directory. -/
  workingDirectory : m String
  /-- The value of an environment variable. -/
  getVariable : String → m (Option String)
  /-- Text that is shown is seen on a terminal. -/
  isTerminal : m Bool
  /-- A line of a result is shown. -/
  print : String → m Unit
  /-- A line about the run is shown. -/
  report : String → m Unit

namespace Host

/-- A run that may fail reaches the machine of the run inside it. -/
instance {m : Type → Type} {Failure : Type} [Monad m] [Host m] : Host (ExceptT Failure m) where
  kind? path := ExceptT.lift (kind? path)
  readFile path := ExceptT.lift (readFile path)
  writeFile path text := ExceptT.lift (writeFile path text)
  makeDirectory path := ExceptT.lift (makeDirectory path)
  removeTree path := ExceptT.lift (removeTree path)
  workingDirectory := ExceptT.lift workingDirectory
  getVariable name := ExceptT.lift (getVariable name)
  isTerminal := ExceptT.lift isTerminal
  print line := ExceptT.lift (print line)
  report line := ExceptT.lift (report line)

/-- Something is there. -/
def pathExists {m : Type → Type} [Monad m] [Host m] (path : String) : m Bool := do
  return (← kind? path).isSome

/-- A file is there. -/
def isFile {m : Type → Type} [Monad m] [Host m] (path : String) : m Bool := do
  return (← kind? path) == some .file

/-- A directory is there. -/
def isDirectory {m : Type → Type} [Monad m] [Host m] (path : String) : m Bool := do
  return (← kind? path) == some .directory

/-- A directory is made, unless it is there already. -/
def ensureDirectory {m : Type → Type} [Monad m] [Host m] (path : String) :
    m (Except FileError Unit) := do
  let made ← makeDirectory path
  if made matches .error .alreadyExists then
    if ← isDirectory path then return .ok ()
  return made

/-- The first directory of a list is made; those after it are the directories above it, and are made
before where they are missing. -/
def makeFirst {m : Type → Type} [Monad m] [Host m] : List String → m (Except FileError Unit)
  | [] => return .ok ()
  | path :: above => do
    match ← ensureDirectory path with
    | .error .notFound =>
      match ← makeFirst above with
      | .ok () => ensureDirectory path
      | .error error => return .error error
    | made => return made

/-- A directory is made with all directories above it that are missing. -/
def makeDirectories {m : Type → Type} [Monad m] [Host m] (path : String) :
    m (Except FileError Unit) :=
  makeFirst ((Path.ancestors path).takeWhile fun above => (Path.parent? above).isSome)

end Host

/-- A machine as a value. -/
structure Machine where
  /-- Its files. -/
  files : FileTree
  /-- The working directory. -/
  directory : Location := []
  /-- The environment variables. -/
  environment : List (String × String) := []
  /-- What is shown is seen on a terminal. -/
  terminal : Bool := false
  /-- The lines of results that were shown. -/
  printed : List String := []
  /-- The lines about the run that were shown. -/
  reported : List String := []

namespace Machine

/-- The absolute path of a location. -/
def pathOf (location : Location) : String :=
  "/" ++ Text.join "/" location

/-- The new files of an operation, or its failure. -/
def update (machine : Machine) : Except FileError FileTree → Except FileError Unit × Machine
  | .ok files => (.ok (), { machine with files })
  | .error error => (.error error, machine)

instance : Host (StateM Machine) where
  kind? path := fun machine =>
    ((machine.files.find? machine.directory path).map Entry.kind, machine)
  readFile path := fun machine => (machine.files.read machine.directory path, machine)
  writeFile path text := fun machine =>
    machine.update (machine.files.write machine.directory path text)
  makeDirectory path := fun machine =>
    machine.update (machine.files.makeDirectory machine.directory path)
  removeTree path := fun machine =>
    let (result, files) := machine.files.removeTree machine.directory path
    (result, { machine with files })
  workingDirectory := fun machine => (pathOf machine.directory, machine)
  getVariable name := fun machine => (machine.environment.lookup name, machine)
  isTerminal := fun machine => (machine.terminal, machine)
  print line := fun machine => ((), { machine with printed := machine.printed ++ [line] })
  report line := fun machine => ((), { machine with reported := machine.reported ++ [line] })

end Machine
end RefDocs
