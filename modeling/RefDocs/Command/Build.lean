import RefDocs.Command.Arguments
import RefDocs.Command.Report
import RefDocs.Graph.Build
import RefDocs.Settings.Load
import RefDocs.Snapshot.Read

/-!
# Building the pages

The command `build` loads the settings, reads the snapshot, renders all pages and writes those that
can be rendered.  No file is touched before the graph is known to be sound and no container
overflows, and a page that fails does not keep the others from being written.
-/

namespace RefDocs

/-- How pages are rendered under given settings. -/
def Settings.renderOptions (settings : Settings) : RenderOptions where
  extension := settings.extension
  newline := settings.lineSeparator.text
  tableStyle := settings.tableStyle
  noComment := settings.noComment
  showHierarchy := settings.showHierarchy
  constantsPage := settings.constantsPage

namespace Command

/-- Why a build fails. -/
inductive BuildError where
  /-- The settings cannot be loaded. -/
  | settings (error : SettingsError)
  /-- The snapshot cannot be read. -/
  | unreadableSnapshot (path : String) (error : FileError)
  /-- The snapshot is no JSON text, or holds values of the wrong kind. -/
  | malformedSnapshot
  /-- The declarations are no graph. -/
  | graph (error : GraphError)
  /-- A container on a page overflows. -/
  | overflow
  /-- The pages cannot be written. -/
  | files (error : FileError)
  /-- Some pages cannot be rendered. -/
  | pagesFailed (count : Nat)
  deriving DecidableEq, Repr

namespace BuildError

/-- The text of a build error; an overflow has none. -/
def message? : BuildError → Option String
  | .settings error => some error.message
  | .unreadableSnapshot path error =>
    some ("Failed to read snapshot " ++ path ++ ": " ++ error.message)
  | .malformedSnapshot => some "Invalid snapshot: not a snapshot in JSON"
  | .graph error => some error.message
  | .overflow => none
  | .files error => some error.message
  | .pagesFailed count => some (toString count ++ " page(s) failed to render")

/-- The exit code of a run with a build error. -/
def exitCode : BuildError → UInt32
  | .overflow => 101
  | _ => 1

end BuildError

variable {m : Type → Type} [Monad m] [Host m]

/-- The graph of the snapshot at a path. -/
def loadGraph (path rootType : String) : ExceptT BuildError m Graph := do
  match ← Host.readFile path with
  | .error error => throw (.unreadableSnapshot path error)
  | .ok text =>
    match Snapshot.ofText? text with
    | none => throw .malformedSnapshot
    | some snapshot =>
      match Graph.build snapshot rootType with
      | .error error => throw (.graph error)
      | .ok graph => return graph

/-- The path of a page's file in the output directory. -/
def outputPath (dir page : String) : String :=
  (Text.split '/' page).foldl Path.join dir

/-- A page is written, in a directory that is made where it is missing. -/
def writePage (dir : String) (page : RenderedPage) : ExceptT FileError m Unit := do
  let path := outputPath dir page.path
  if let some parent := Path.parent? path then
    ExceptT.mk (Host.makeDirectories parent)
  ExceptT.mk (Host.writeFile path page.text)

/-- The output directory is removed, if that is wanted and it is there. -/
def cleanOutput (settings : Settings) : ExceptT FileError m Unit := do
  if settings.clean then
    if ← Host.pathExists settings.dir then ExceptT.mk (Host.removeTree settings.dir)

/-- All pages are written. -/
def writePages (settings : Settings) (pages : List RenderedPage) : ExceptT FileError m Unit := do
  cleanOutput settings
  ExceptT.mk (Host.makeDirectories settings.dir)
  pages.forM (writePage settings.dir)

/-- The pages that failed are reported, then the counts.  Failures make the build fail. -/
def closeReport (dir : String) (written : Nat) (errors : List PageError) :
    ExceptT BuildError m Unit := do
  errors.forM fun error => reportIn .red (failureLine error)
  reportIn (if errors.isEmpty then .green else .red) (closingLine written errors.length dir)
  if !errors.isEmpty then throw (.pagesFailed errors.length)

/-- The pages of a snapshot are built. -/
def build (request : BuildRequest) : ExceptT BuildError m Unit := do
  let settings ← (Settings.load request.configuration? (some request.overrides)
    : ExceptT SettingsError m Settings).adapt .settings
  Host.report (openingLine request.snapshot settings.dir)
  let graph ← loadGraph request.snapshot settings.rootType
  let generated ← (graph.generate settings.renderOptions).getDM (throw .overflow)
  let pages := sortByName RenderedPage.path generated.pages
  (writePages settings pages : ExceptT FileError m Unit).adapt .files
  closeReport settings.dir pages.length (sortByName PageError.page generated.errors)

end Command
end RefDocs
