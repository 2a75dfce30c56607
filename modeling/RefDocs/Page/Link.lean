import RefDocs.Display.TypeName
import RefDocs.Page.Naming

/-!
# Links

Links from one page to others.  What has no page, and the page itself, is written without a link.
-/

namespace RefDocs

/-- The page that links are written on. -/
structure LinkSource where
  /-- All pages. -/
  site : Site
  /-- The page with the links. -/
  page : Page

namespace LinkSource

/-- A text linked to a path, if there is one. -/
def wrap (text : String) : Option String → String
  | some path => "[" ++ text ++ "](" ++ path ++ ")"
  | none => text

/-- The declarations behind the pages. -/
def graph (source : LinkSource) : Graph :=
  source.site.graph

/-- The path to another page, if that has one. -/
def pathTo? (source : LinkSource) (target : Page) : Option String :=
  if source.page = target then none else source.site.relativeLink? source.page target

/-- A text linked to the page of a type. -/
def named (source : LinkSource) (qualifiedName text : String) : String :=
  match source.graph.type? qualifiedName with
  | some _ => wrap text (source.pathTo? (.type qualifiedName))
  | none => text

/-- The name of a type, linked to the page of the declared type in it. -/
def typeRef (source : LinkSource) (mode : NameMode) (type : TypeRef) : String :=
  let text := source.graph.typeName mode .escaped type
  match type.declaredName? with
  | some name => source.named name text
  | none => text

/-- The name of a type in documentation form, linked to its page. -/
def typeLink (source : LinkSource) (type : TypeRef) : String :=
  source.typeRef .documentation type

/-- A declared type with its type parameters, linked to its page. -/
def declLink (source : LinkSource) (mode : NameMode) (decl : TypeDecl) : String :=
  source.typeRef mode decl.selfType

/-- The name of a package, linked to its page. -/
def package (source : LinkSource) (qualified : Bool) (name : String) : String :=
  wrap (if qualified then name else simpleName name) (source.pathTo? (.package name))

/-- A text linked to an anchor on the page of a type. -/
def member (source : LinkSource) (owner anchor text : String) : String :=
  let path :=
    if source.page = .type owner then some ""
    else source.site.relativeLink? source.page (.type owner)
  wrap text (path.map fun file => file ++ "#" ++ anchor)

/-- The writer of annotations whose names are linked. -/
def annotationWriter (source : LinkSource) : AnnotationWriter :=
  ⟨source.graph.showsAnnotation, source.named⟩

end LinkSource
end RefDocs
