import RefDocs.Command.Run

/-!
# The program

The host that a program really runs on, and its entry point.  Nothing is decided here.
-/

namespace RefDocs

/-- The number of a system error, which some actions give with a minus sign. -/
def systemErrorNumber (code : UInt32) : UInt32 :=
  if code < 0x80000000 then code else 0 - code

/-- A failure of the operating system as a file error. -/
def FileError.ofSystem : IO.Error → FileError
  | .noFileOrDirectory .. => .notFound
  | .alreadyExists .. => .alreadyExists
  | .inappropriateType _ code _ =>
    if systemErrorNumber code = 21 then .isDirectory else .notDirectory
  | .invalidArgument _ code _ =>
    if systemErrorNumber code = 36 then .nameTooLong else .invalidArgument
  | .unsatisfiedConstraints .. => .notEmpty
  | error => .other (toString error)

/-- The result of an action, its failure as a file error. -/
def attempt {α : Type} (action : IO α) : IO (Except FileError α) := do
  return (← action.toBaseIO).mapError FileError.ofSystem

instance : Host IO where
  kind? path := do
    match ← ((System.mkFilePath [path]).metadata).toBaseIO with
    | .ok data => return some (if data.type matches .dir then .directory else .file)
    | .error _ => return none
  readFile path := do
    match ← attempt (IO.FS.readBinFile path) with
    | .ok bytes =>
      match String.fromUTF8? bytes with
      | some text => return .ok text
      | none => return .error (.other "stream did not contain valid UTF-8")
    | .error error => return .error error
  writeFile path text := attempt (IO.FS.writeFile path text)
  makeDirectory path := attempt (IO.FS.createDir path)
  removeTree path := attempt (IO.FS.removeDirAll path)
  workingDirectory := return (← IO.currentDir).toString
  getVariable name := IO.getEnv name
  isTerminal := do (← IO.getStdout).isTty
  print := IO.println
  report := IO.eprintln

end RefDocs

/-- The program is run with the arguments of the command line. -/
def main (arguments : List String) : IO UInt32 :=
  RefDocs.Command.run arguments
