import RefDocs.Compose.Basic

/-!
# Package pages

The declaration of a package, its description, its types by kind, and the packages around it.
-/

namespace RefDocs

/-- The tabs of a package's contents. -/
def contentsTabs : List (TabRule TypeKind) :=
  [("Interfaces", TypeKind.interfaceType), ("Classes", .classType), ("Enums", .enumType),
    ("Records", .recordType), ("Annotation Types", .annotationType)].map fun (label, kind) =>
      ⟨label, fun other => other = kind⟩

namespace PageContext

/-- The row of a type in the contents of its package. -/
def contentsRow (context : PageContext) (package : String) (decl : TypeDecl) :
    Composed (TypeKind × List Content) := do
  let name := (Text.dropStart? (package ++ ".") decl.qualifiedName).getD decl.simpleName
  let summary ← context.summary decl.doc
  return (decl.kind, [.raw (context.source.named decl.qualifiedName name), .raw summary])

/-- The types of a package, in tabs by kind. -/
def packageContents (context : PageContext) (package : String) : Composed Content := do
  let rows ← (context.graph.typesInPackage package).mapM (context.contentsRow package)
  let block : TabbedBlock TypeKind :=
    { style := context.options.tableStyle, defaultLabel := "All Types"
      key := some "package-contents", tabs := contentsTabs
      grid := some ⟨["Class", "Description"], []⟩ }
  blockOf block rows

/-- The row of a package that is related to another. -/
def relatedRow (context : PageContext) (other : PackageDecl) : Composed (List Content) := do
  let summary ← context.summary other.doc
  return [.raw (context.source.package true other.name), .raw summary]

/-- The parent and the children of a package. -/
def relatedPackages (context : PageContext) (decl : PackageDecl) : Composed Content := do
  let others := (context.graph.parentPackage? decl).toList ++ context.graph.childPackages decl.name
  let rows ← others.mapM context.relatedRow
  tableOf context.options.tableStyle none ["Package", "Description"] rows

/-- The page of a package. -/
def packagePage (context : PageContext) (decl : PackageDecl) : Composed Content := do
  let description ← context.description decl.doc
  let contents ← context.packageContents decl.name
  let related ← context.relatedPackages decl
  let annotations := context.codeAnnotations decl.annotations
  return .page [("title", decl.name)]
    [.raw ("# Package: " ++ decl.name), .raw "---",
      .codeBlock (annotations ++ "package " ++ decl.name ++ ";"), .raw description,
      .raw "### Package Contents",
      if contents.isEmpty then .text "No types found." else contents,
      if related.isEmpty then .empty else .raw "### Related", related]

end PageContext
end RefDocs
