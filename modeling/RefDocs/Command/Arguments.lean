import RefDocs.Settings.File

/-!
# Command line arguments

The arguments of the program are cut into options and words, and these are read from left to right:
what stops the reading, be it a fault or the wish for help, leaves all behind it unread.
-/

namespace RefDocs
namespace Command

/-- An option of the program or of its command. -/
inductive OptionName where
  /-- The usage is shown. -/
  | help
  /-- The version is shown. -/
  | version
  /-- More is told about the run. -/
  | verbose
  /-- The output directory. -/
  | outputDir
  /-- The extension of page files. -/
  | extension
  /-- The form of tables. -/
  | tableStyle
  /-- Lines end in a carriage return and a line feed. -/
  | crlf
  /-- Documentation comments are left out. -/
  | noComment
  /-- The output directory is not emptied first. -/
  | noClean
  /-- The configuration file. -/
  | configuration
  deriving DecidableEq, Repr

/-- A value follows the option. -/
def OptionName.takesValue : OptionName → Bool
  | .outputDir | .extension | .tableStyle | .configuration => true
  | _ => false

/-- Why arguments are refused. -/
inductive UsageError where
  /-- No command is given. -/
  | missingCommand
  /-- There is no such command. -/
  | unknownCommand (name : String)
  /-- There is no such option. -/
  | unknownOption (argument : String)
  /-- An option has no value although it takes one. -/
  | missingValue (option : OptionName)
  /-- An option has a value although it takes none. -/
  | unwantedValue (option : OptionName)
  /-- An option has a value that it cannot have. -/
  | invalidValue (option : OptionName) (value : String)
  /-- An option is given twice. -/
  | repeatedOption (option : OptionName)
  /-- No snapshot is given. -/
  | missingSnapshot
  /-- A word is left over. -/
  | surplusWord (word : String)
  deriving DecidableEq, Repr

/-- The options that are understood at one place, by their names. -/
structure OptionTable where
  /-- The names behind two dashes. -/
  long : List (String × OptionName)
  /-- The letters behind one dash. -/
  short : List (Char × OptionName)

/-- The options in front of the command. -/
def programOptions : OptionTable where
  long := [("help", .help), ("version", .version), ("verbose", .verbose)]
  short := [('h', .help), ('V', .version), ('v', .verbose)]

/-- The options of the command `build`. -/
def buildOptions : OptionTable where
  long := [("help", .help), ("verbose", .verbose), ("output-dir", .outputDir),
    ("extension", .extension), ("table-style", .tableStyle), ("crlf", .crlf),
    ("no-comment", .noComment), ("no-clean", .noClean), ("config", .configuration)]
  short := [('h', .help), ('v', .verbose), ('o', .outputDir), ('c', .configuration)]

/-- The text of an option in a fault. -/
def OptionName.label (name : OptionName) : String :=
  (((programOptions.long ++ buildOptions.long).find? (·.2 == name)).map ("--" ++ ·.1)).getD ""

/-- The text of a usage error. -/
def UsageError.message : UsageError → String
  | .missingCommand => "a command is required"
  | .unknownCommand name => "unknown command '" ++ name ++ "'"
  | .unknownOption argument => "unexpected argument '" ++ argument ++ "'"
  | .missingValue option => "a value is required for '" ++ option.label ++ "'"
  | .unwantedValue option => "no value is taken by '" ++ option.label ++ "'"
  | .invalidValue option value => "invalid value '" ++ value ++ "' for '" ++ option.label ++ "'"
  | .repeatedOption option => "the option '" ++ option.label ++ "' cannot be given twice"
  | .missingSnapshot => "a snapshot is required"
  | .surplusWord word => "unexpected argument '" ++ word ++ "'"

/-- A part of the arguments. -/
inductive Part where
  /-- An option, with its value if it takes one. -/
  | option (name : OptionName) (value : String)
  /-- A word, and the arguments behind it. -/
  | word (text : String) (rest : List String)
  /-- Two dashes, behind which there are only words. -/
  | separator
  /-- Arguments that cannot be cut further. -/
  | fault (error : UsageError)

namespace OptionTable

/-- The parts of the letters behind one dash.  The last option may still lack its value, which else
is the rest of the letters, with or without an equals sign before it. -/
def cutLetters (table : OptionTable) (argument : String) :
    List Char → List Part × Option OptionName
  | [] => ([], none)
  | letter :: rest =>
    match table.short.lookup letter with
    | none => ([.fault (.unknownOption argument)], none)
    | some name =>
      if name.takesValue then
        match rest with
        | [] => ([], some name)
        | '=' :: value => ([.option name (String.ofList value)], none)
        | value => ([.option name (String.ofList value)], none)
      else
        let (parts, open?) := cutLetters table argument rest
        (.option name "" :: parts, open?)

/-- The parts of a name behind two dashes, which may have a value behind an equals sign. -/
def cutName (table : OptionTable) (argument : String) (body : List Char) :
    List Part × Option OptionName :=
  let value := body.dropWhile (· != '=')
  match table.long.lookup (String.ofList (body.takeWhile (· != '='))) with
  | none => ([.fault (.unknownOption argument)], none)
  | some name =>
    if name.takesValue then
      if value.isEmpty then ([], some name)
      else ([.option name (String.ofList value.tail)], none)
    else if value.isEmpty then ([.option name ""], none)
    else ([.fault (.unwantedValue name)], none)

/-- The parts of an argument that starts with a dash and has more behind it, and the option that
still lacks its value; none for any other argument. -/
def cutOptions? (table : OptionTable) (argument : String) :
    Option (List Part × Option OptionName) :=
  match argument.toList with
  | '-' :: '-' :: body => some (table.cutName argument body)
  | '-' :: letter :: rest => some (table.cutLetters argument (letter :: rest))
  | _ => none

/-- The words of arguments behind two dashes. -/
def words : List String → List Part
  | [] => []
  | text :: rest => .word text rest :: words rest

/-- The parts of arguments. -/
def cut (table : OptionTable) : List String → List Part
  | [] => []
  | argument :: rest =>
    if argument = "--" then .separator :: words rest
    else
      match table.cutOptions? argument with
      | none => .word argument rest :: table.cut rest
      | some (parts, none) => parts ++ table.cut rest
      | some (parts, some name) =>
        match rest with
        | [] => parts ++ [.fault (.missingValue name)]
        | value :: rest =>
          if (table.cutOptions? value).isSome then parts ++ [.fault (.missingValue name)]
          else parts ++ .option name value :: table.cut rest

end OptionTable

/-- The wish to build pages. -/
structure BuildRequest where
  /-- The path of the snapshot. -/
  snapshot : String
  /-- The settings of the command line. -/
  overrides : Overrides := {}
  /-- The path of the configuration file. -/
  configuration? : Option String := none
  deriving DecidableEq, Repr

/-- What the program is to do. -/
inductive Request where
  /-- Show the usage. -/
  | showHelp
  /-- Show the version. -/
  | showVersion
  /-- Build pages. -/
  | build (request : BuildRequest)
  deriving DecidableEq, Repr

/-- A build request while its arguments are read. -/
structure BuildDraft where
  /-- The path of the snapshot, once it is read. -/
  snapshot? : Option String := none
  /-- The settings so far. -/
  overrides : Overrides := {}
  /-- The path of the configuration file, once it is read. -/
  configuration? : Option String := none
  /-- More is to be told about the run. -/
  verbose : Bool := false

namespace BuildDraft

/-- A value for something that has none yet. -/
def setOnce {α : Type} (name : OptionName) (value : α) (old : Option α) :
    Except UsageError (Option α) :=
  if old.isSome then .error (.repeatedOption name) else .ok (some value)

/-- A path, which may not be empty. -/
def setPath (name : OptionName) (path : String) (old : Option String) :
    Except UsageError (Option String) :=
  if path.isEmpty then .error (.missingValue name) else setOnce name path old

/-- A draft with one more option. -/
def setOption (draft : BuildDraft) (name : OptionName) (value : String) :
    Except UsageError BuildDraft := do
  let overrides := draft.overrides
  match name with
  | .outputDir =>
    let dir? ← setPath name value overrides.dir?
    return { draft with overrides := { overrides with dir? } }
  | .extension =>
    let extension? ← setOnce name value overrides.extension?
    return { draft with overrides := { overrides with extension? } }
  | .tableStyle =>
    let some style := TableStyle.ofName? value | throw (.invalidValue name value)
    let tableStyle? ← setOnce name style overrides.tableStyle?
    return { draft with overrides := { overrides with tableStyle? } }
  | .crlf =>
    let lineSeparator? ← setOnce name .crlf overrides.lineSeparator?
    return { draft with overrides := { overrides with lineSeparator? } }
  | .noComment =>
    let noComment? ← setOnce name true overrides.noComment?
    return { draft with overrides := { overrides with noComment? } }
  | .noClean =>
    let clean? ← setOnce name false overrides.clean?
    return { draft with overrides := { overrides with clean? } }
  | .configuration =>
    let configuration? ← setPath name value draft.configuration?
    return { draft with configuration? }
  | .verbose =>
    if draft.verbose then throw (.repeatedOption name) else return { draft with verbose := true }
  | .help | .version => return draft

/-- A draft with one more word, which has to be the path of the snapshot. -/
def addWord (draft : BuildDraft) (word : String) : Except UsageError BuildDraft :=
  if draft.snapshot?.isSome then .error (.surplusWord word)
  else if word.isEmpty then .error .missingSnapshot
  else .ok { draft with snapshot? := some word }

/-- The request of a draft that is complete.  An environment variable may name the configuration
file where no option does. -/
def finish (draft : BuildDraft) (fallback? : Option String) : Except UsageError BuildRequest := do
  let some snapshot := draft.snapshot? | throw .missingSnapshot
  let configuration? ← match draft.configuration?, fallback? with
    | some path, _ => pure (some path)
    | none, some path => setPath .configuration path none
    | none, none => pure none
  return { snapshot, overrides := draft.overrides, configuration? }

/-- The request that the parts of the arguments of `build` make. -/
def read (fallback? : Option String) : BuildDraft → List Part → Except UsageError Request
  | draft, [] => do return .build (← draft.finish fallback?)
  | _, .option .help _ :: _ => .ok .showHelp
  | draft, .option name value :: rest => do read fallback? (← draft.setOption name value) rest
  | draft, .word text _ :: rest => do read fallback? (← draft.addWord text) rest
  | draft, .separator :: rest => read fallback? draft rest
  | _, .fault error :: _ => .error error

end BuildDraft

/-- The request that the parts of the program's arguments make. -/
def readProgram (fallback? : Option String) : Bool → List Part → Except UsageError Request
  | _, .option .help _ :: _ => .ok .showHelp
  | _, .option .version _ :: _ => .ok .showVersion
  | verbose, .option name _ :: rest =>
    if verbose then .error (.repeatedOption name) else readProgram fallback? true rest
  | _, .word "build" rest :: _ => BuildDraft.read fallback? {} (buildOptions.cut rest)
  | _, .word "help" rest :: _ =>
    match rest with
    | [] | ["build"] | ["help"] => .ok .showHelp
    | name :: _ => .error (.unknownCommand name)
  | _, .word name _ :: _ => .error (.unknownCommand name)
  | _, .fault error :: _ => .error error
  | _, .separator :: _ | _, [] => .error .missingCommand

/-- The request that arguments make, given the configuration file that the environment names. -/
def Request.ofArguments (fallback? : Option String) (arguments : List String) :
    Except UsageError Request :=
  readProgram fallback? false (programOptions.cut arguments)

end Command
end RefDocs
