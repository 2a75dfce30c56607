import RefDocs.Compose.Constants
import RefDocs.Compose.Package
import RefDocs.Compose.TypePage
import RefDocs.Content.Containers

/-!
# Generating the pages

All pages of a graph: the known packages, the known types and, where it is wanted and not empty, the
page of constant values.  A page that fails does not keep the others from being written, but a
container that overflows on one of them breaks off the run.
-/

namespace RefDocs

/-- A page as a file. -/
structure RenderedPage where
  /-- Which page it is. -/
  page : Page
  /-- The path below the output directory. -/
  path : String
  /-- The text of the file. -/
  text : String
  deriving DecidableEq, Repr

/-- A page that cannot be rendered. -/
structure PageError where
  /-- The name of the package or type, or of the page of constants. -/
  page : String
  /-- Why it cannot. -/
  fault : PageFault
  deriving DecidableEq, Repr

/-- The text of a page error. -/
def PageError.message (error : PageError) : String :=
  "page " ++ error.page ++ ": " ++ error.fault.message

/-- The pages of a run and those that failed, each in page order. -/
structure Generated where
  /-- The rendered pages. -/
  pages : List RenderedPage
  /-- The failures. -/
  errors : List PageError
  deriving DecidableEq, Repr

/-- The name of a page in errors. -/
def Page.label : Page → String
  | .package name | .type name => name
  | .constants => "constant-values"

/-- The results in order, successes and failures apart. -/
def partitionResults {Success Failure : Type} :
    List (Except Failure Success) → List Success × List Failure
  | [] => ([], [])
  | .ok success :: rest =>
    ((success :: (partitionResults rest).1), (partitionResults rest).2)
  | .error failure :: rest =>
    ((partitionResults rest).1, (failure :: (partitionResults rest).2))

namespace Graph

/-- Some known type has constant fields. -/
def hasConstants (graph : Graph) : Bool :=
  graph.knownTypes.any fun decl => !decl.constants.isEmpty

/-- The pages of a run: packages, types, constant values. -/
def pages (graph : Graph) (options : RenderOptions) : List Page :=
  graph.knownPackages.map (fun decl => .package decl.name)
    ++ graph.knownTypes.map (fun decl => .type decl.qualifiedName)
    ++ if options.constantsPage && graph.hasConstants then [.constants] else []

/-- The content of a page; none for a page of constants without any, or a name without
declaration. -/
def content? (graph : Graph) (options : RenderOptions) (page : Page) : Composed (Option Content) :=
  let context : PageContext := ⟨options, ⟨⟨graph, options.extension⟩, page⟩⟩
  match page with
  | .package name => (graph.package? name).mapM context.packagePage
  | .type name => (graph.type? name).mapM context.typePage
  | .constants => context.constantsPage?

/-- A page as a file, or why it fails; none if a container on it overflows. -/
def renderPage (graph : Graph) (options : RenderOptions) (page : Page) :
    Option (Except PageError RenderedPage) :=
  match graph.content? options page with
  | .error fault => some (.error ⟨page.label, fault⟩)
  | .ok content? =>
    (content?.elim (some "") (Content.render? options.newline)).map fun text =>
      .ok { page, path := Site.pagePath ⟨graph, options.extension⟩ page, text }

/-- All pages of a run; none if a container on one of them overflows. -/
def generate (graph : Graph) (options : RenderOptions) : Option Generated := do
  let results ← (graph.pages options).mapM (graph.renderPage options)
  let (pages, errors) := partitionResults results
  return ⟨pages, errors⟩

end Graph
end RefDocs
