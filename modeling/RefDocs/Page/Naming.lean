import RefDocs.Graph.Relations

/-!
# Page files

Every package has an index page in the directory of its name, every type a page beside it, and
the constant values a page at the top.  Links between pages are relative paths.
-/

namespace RefDocs

/-- A page of the documentation. -/
inductive Page where
  /-- The index page of a package. -/
  | package (name : String)
  /-- The page of a type. -/
  | type (name : String)
  /-- The page of all constant values. -/
  | constants
  deriving DecidableEq, Repr

/-- The pages of a graph as files. -/
structure Site where
  /-- The declarations. -/
  graph : Graph
  /-- The extension of the files. -/
  extension : String

namespace Site

/-- The directories of a package, one for each segment of its name that is not empty. -/
def packageSegments (name : String) : List String :=
  (Text.split '.' name).filter fun segment => !segment.isEmpty

/-- The directories that a page is in. -/
def segments (site : Site) : Page → List String
  | .package name => packageSegments name
  | .type name =>
    packageSegments (((site.graph.type? name).map site.graph.ownerName).getD "")
  | .constants => []

/-- The name of a type's file without extension: the simple names from the outermost type on. -/
def typeStem (graph : Graph) (name : String) : String :=
  match graph.type? name with
  | some decl => Text.join "$" ((graph.enclosingChain decl).reverse.map TypeDecl.simpleName)
  | none => ""

/-- The name of a page's file. -/
def fileName (site : Site) : Page → String
  | .package _ => "index." ++ site.extension
  | .type name => typeStem site.graph name ++ "." ++ site.extension
  | .constants => "constant-values." ++ site.extension

/-- Directories and a file as a path. -/
def joinPath (directories : List String) (file : String) : String :=
  String.join (directories.map (· ++ "/")) ++ file

/-- The path of a page's file below the output directory. -/
def pagePath (site : Site) (page : Page) : String :=
  joinPath (site.segments page) (site.fileName page)

/-- A page that is written. -/
def isKnown (site : Site) : Page → Bool
  | .package name => site.graph.knowsPackage name
  | .type name => site.graph.knowsType name
  | .constants => true

/-- The number of first items that two lists share. -/
def commonLength : List String → List String → Nat
  | left :: lefts, right :: rights => if left = right then commonLength lefts rights + 1 else 0
  | _, _ => 0

/-- The relative path from one page to another; none between pages that are not both written. -/
def relativeLink? (site : Site) (source target : Page) : Option String :=
  if source = target then some (site.fileName target)
  else if site.isKnown source && site.isKnown target then
    let sourceSegments := site.segments source
    let targetSegments := site.segments target
    let shared := commonLength sourceSegments targetSegments
    some (Text.replicate (sourceSegments.length - shared) "../"
      ++ joinPath (targetSegments.drop shared) (site.fileName target))
  else none

end Site
end RefDocs
