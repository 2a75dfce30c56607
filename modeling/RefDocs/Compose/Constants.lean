import RefDocs.Compose.Basic
import RefDocs.Text.Order

/-!
# The page of constant values

The constant fields of all known types, one table for each type, in groups by the first two
segments of the package name.
-/

namespace RefDocs

/-- The constant fields of a type. -/
def TypeDecl.constants (decl : TypeDecl) : List Member :=
  decl.members.filter fun member => member.kind = .field && member.constantValue.isSome

namespace Graph

/-- The known types with constant fields. -/
def typesWithConstants (graph : Graph) : List TypeDecl :=
  graph.knownTypes.filter fun decl => !decl.constants.isEmpty

/-- The group of a type's constants. -/
def constantsGroup (graph : Graph) (decl : TypeDecl) : String :=
  Text.join "." ((Text.split '.' (graph.ownerName decl)).take 2)

/-- The groups of all constants in name order. -/
def constantsGroups (graph : Graph) : List String :=
  sortByName id (graph.typesWithConstants.map graph.constantsGroup).eraseDups

/-- The types of a group. -/
def typesInGroup (graph : Graph) (group : String) : List TypeDecl :=
  graph.typesWithConstants.filter fun decl => graph.constantsGroup decl == group

end Graph

namespace PageContext

/-- The row of a constant field. -/
def constantRow (context : PageContext) (owner : TypeDecl) (member : Member) : List Content :=
  [.raw (joinWords [shownModifiers member.modifiers,
      member.type.elim "" context.source.typeLink]),
    .raw (context.source.member owner.qualifiedName member.anchor member.name),
    .raw ("`" ++ member.constantValue.getD "" ++ "`")]

/-- The table of the constants of a type. -/
def constantsTable (context : PageContext) (decl : TypeDecl) : Composed Content :=
  tableOf context.options.tableStyle
    (some (context.source.named decl.qualifiedName decl.qualifiedName))
    ["Modifier and Type", "Constant Field", "Value"]
    (decl.constants.map (context.constantRow decl))

/-- The heading and tables of a group. -/
def constantsBlocks (context : PageContext) (group : String) : Composed (List Content) := do
  let tables ← (context.graph.typesInGroup group).mapM context.constantsTable
  return .raw ("## " ++ group ++ ".*") :: tables

/-- The page of constant values, if there are any. -/
def constantsPage? (context : PageContext) : Composed (Option Content) := do
  let groups := context.graph.constantsGroups
  if groups.isEmpty then return none
  let blocks ← groups.mapM context.constantsBlocks
  return some (.page [("title", "Constant Field Values")]
    (.raw "# Constant Field Values" :: blocks.flatten))

end PageContext
end RefDocs
