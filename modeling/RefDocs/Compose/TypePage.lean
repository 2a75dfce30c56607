import RefDocs.Compose.Member

/-!
# Type pages

From top to bottom: heading and relations to other types, the declaration, the description with its
block tags, nested types, and for each kind of member a summary table and the details.
-/

namespace RefDocs
namespace PageContext

/-- The notice of functional interfaces. -/
def functionalNotice : String :=
  "This is a functional interface and can therefore be used as the assignment target for a "
    ++ "lambda expression or method reference."

/-- The block tags that are listed below a description, with their labels. -/
def listedTags : List (String × String) :=
  [("since", "Since"), ("version", "Version"), ("author", "Author"), ("see", "See Also")]

/-- The lines of a hierarchy, each indented by one level more than the one above. -/
def indentLevels : Nat → List String → String
  | _, [] => ""
  | 0, line :: rest => line ++ indentLevels 1 rest
  | depth + 1, line :: rest =>
    "<br>\n" ++ Text.replicate (depth + 1) "&ensp;" ++ "↳ " ++ line
      ++ indentLevels (depth + 2) rest

/-- The visible superclasses of a class, and the class itself. -/
def hierarchy (context : PageContext) (decl : TypeDecl) : Composed Content := do
  let ancestors ← (context.graph.ancestors decl).mapError .graph
  return .raw (indentLevels 0
    ((ancestors ++ [decl.selfType]).map (context.source.typeRef .packageQualified)))

/-- The name of a type parameter in the angle brackets of a tag. -/
def bracketed? (param : String) : Option String := do
  Text.dropEnd? ">" (← Text.dropStart? "<" param)

/-- What a block tag says of a type parameter, if it is about one. -/
def typeParameterEntry? (context : PageContext) (tag : Markup.BlockTag) :
    Composed (Option String) :=
  if tag.name = "param" then
    match tag.param.bind bracketed? with
    | some name => do return some ("`" ++ name ++ "` - " ++ (← context.markup tag.body))
    | none => return none
  else return none

/-- What the comment of a type says of its type parameters. -/
def typeParameterBlock (context : PageContext) (decl : TypeDecl) : Composed Content :=
  if context.options.noComment then return .empty
  else do
    let entries ← (Markup.blockTags decl.doc).mapM context.typeParameterEntry?
    return .labelled "Type Parameters" "<br>\n" (entries.filterMap id)

/-- The links to declared types. -/
def declLinks (context : PageContext) (decls : List TypeDecl) : List String :=
  decls.map (context.source.declLink .documentation)

/-- The type around a nested one. -/
def enclosingBlock (context : PageContext) (decl : TypeDecl) : Content :=
  match decl.enclosingType?.bind context.graph.type? with
  | some outer =>
    .labelled (if outer.isInterface then "Enclosing Interface" else "Enclosing Class") ""
      (context.declLinks [outer])
  | none => .empty

/-- The relations of a type to others. -/
def relations (context : PageContext) (decl : TypeDecl) : List Content :=
  let interfaces := decl.interfaces.filter fun type =>
    type.declaredName?.all context.graph.isVisible
  let implementors := context.graph.directImplementors decl.qualifiedName
  [.labelled (if decl.isInterface then "All Extended Interfaces" else "All Implemented Interfaces")
      ", " (interfaces.map context.source.typeLink),
    .labelled "Direct Known Subclasses" ", "
      (context.declLinks (context.graph.directSubtypes decl.qualifiedName)),
    .labelled "Direct Known Subinterfaces" ", "
      (context.declLinks (implementors.filter TypeDecl.isInterface)),
    .labelled "All Known Implementing Classes" ", "
      (context.declLinks (implementors.filter fun other => !other.isInterface)),
    context.enclosingBlock decl]

/-- The block tags of one name below a description. -/
def tagList (context : PageContext) (doc : List DocNode) (tag : String × String) :
    Composed Content := do
  let entries ← ((Markup.blockTags doc).filter fun other => other.name == tag.1).mapM
    fun other => context.markup other.body
  return .labelled tag.2 ", " entries

/-- The listed block tags of a comment. -/
def tagLists (context : PageContext) (doc : List DocNode) : Composed (List Content) :=
  if context.options.noComment then return [] else listedTags.mapM (context.tagList doc)

/-- The row of a nested type. -/
def nestedRow (context : PageContext) (outer : TypeDecl) (decl : TypeDecl) :
    Composed (List Content) := do
  let name := match Text.dropStart? outer.qualifiedName decl.qualifiedName with
    | some rest => simpleName outer.qualifiedName ++ rest
    | none => decl.simpleName
  let summary ← context.summary decl.doc
  return [.text (joinWords [shownModifiers decl.modifiers, decl.kind.keyword]),
    .raw (context.source.named decl.qualifiedName name), .raw summary]

/-- The types that are declared in a type. -/
def nestedSummary (context : PageContext) (decl : TypeDecl) : Composed Content := do
  let nested := context.graph.nestedTypes decl.qualifiedName
  if nested.isEmpty then return .empty
  let rows ← nested.mapM (context.nestedRow decl)
  let table ← tableOf context.options.tableStyle (some "Nested Classes")
    ["Modifier and Type", "Class", "Description"] rows
  return .sequence [.raw "### Nested Class Summary\n\n", table]

/-- The members of a type of one kind. -/
def membersOf (decl : TypeDecl) (kind : MemberKind) : List Member :=
  decl.members.filter fun member => member.kind = kind

/-- The heading and summary of the members of a kind; nothing without members. -/
def summaryBlocks (context : PageContext) (decl : TypeDecl) (kind : MemberKind) :
    Composed (List Content) := do
  let members := membersOf decl kind
  if members.isEmpty then return []
  return [.raw ("### " ++ kind.layout.summaryLabel),
    ← context.memberSummary decl kind members]

/-- The page of a type. -/
def typePage (context : PageContext) (decl : TypeDecl) : Composed Content := do
  let title := context.graph.typeName .documentation .escaped decl.selfType
  let hierarchy ←
    if context.options.showHierarchy && decl.kind = .classType then context.hierarchy decl
    else pure .empty
  let typeParameters ← context.typeParameterBlock decl
  let notice ← context.deprecation decl.deprecated
  let description ← context.description decl.doc
  let tags ← context.tagLists decl.doc
  let nested ← context.nestedSummary decl
  let summaries ← MemberKind.inPageOrder.mapM (context.summaryBlocks decl)
  let details ← MemberKind.inPageOrder.mapM fun kind =>
    context.memberDetails kind (membersOf decl kind)
  return .page [("title", decl.simpleName), ("aside", "false"), ("sidebar", "false")]
    ([.raw ("_Package:_ " ++ context.source.package true (context.graph.ownerName decl)),
        .raw ("# " ++ decl.kind.label ++ " " ++ title), hierarchy, typeParameters]
      ++ context.relations decl
      ++ [.labelled "Functional Interface" "" (if decl.functional then [functionalNotice] else []),
        .raw "---", .codeBlock (context.typeSignature decl), notice, .raw description]
      ++ tags ++ [nested] ++ summaries.flatten ++ details)

end PageContext
end RefDocs
