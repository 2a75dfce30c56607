import RefDocs.Content.Wrapper
import RefDocs.Graph.Error
import RefDocs.Markup.Render

/-!
# Page composition

What all kinds of page share: the options of a run, the reasons why a page fails, and the blocks
that pages are made of.  Blocks are separated by blank lines, and empty blocks are left out.
-/

namespace RefDocs

/-- Options shared by the pages of a run. -/
structure RenderOptions where
  /-- The extension of page files. -/
  extension : String := "md"
  /-- The line separator. -/
  newline : String := "\n"
  /-- The form of tables. -/
  tableStyle : TableStyle := .html
  /-- Documentation comments are left out. -/
  noComment : Bool := false
  /-- Class pages show the superclasses. -/
  showHierarchy : Bool := true
  /-- The page of constant values is written. -/
  constantsPage : Bool := true
  deriving DecidableEq, Repr

/-- Why a page cannot be rendered. -/
inductive PageFault where
  /-- Content that cannot be built. -/
  | content (error : ContentError)
  /-- A comment without a normal form. -/
  | markup (error : MarkupError)
  /-- Superclasses without an end. -/
  | graph (error : GraphError)
  deriving DecidableEq, Repr

/-- The text of a page fault. -/
def PageFault.message : PageFault → String
  | .content error => error.message
  | .markup error => error.message
  | .graph error => error.message

/-- The result of a step in the composition of a page. -/
abbrev Composed (Result : Type) := Except PageFault Result

/-- The page under composition. -/
structure PageContext where
  /-- The options of the run. -/
  options : RenderOptions
  /-- The page that links start from. -/
  source : LinkSource

namespace PageContext

/-- The declarations behind the page. -/
def graph (context : PageContext) : Graph :=
  context.source.graph

/-- The annotations in front of a declaration in code, one on each line. -/
def codeAnnotations (context : PageContext) (uses : List AnnotationUse) : String :=
  (AnnotationWriter.plain context.graph).lines uses

/-- The name of a type in code. -/
def codeName (context : PageContext) (type : TypeRef) : String :=
  context.graph.typeName .documentation .plain type

/-- The text of a comment on the page. -/
def markup (context : PageContext) (nodes : List DocNode) : Composed String :=
  (Markup.render context.source nodes).mapError .markup

/-- The description in a comment; nothing if comments are left out. -/
def description (context : PageContext) (doc : List DocNode) : Composed String :=
  if context.options.noComment then return "" else context.markup (Markup.body doc)

/-- The first sentence of a comment; nothing if comments are left out. -/
def summary (context : PageContext) (doc : List DocNode) : Composed String :=
  if context.options.noComment then return "" else context.markup (Markup.firstSentence doc)

/-- The words of every deprecation notice. -/
def deprecatedWords : String := "**Deprecated.**"

/-- The words of a notice of removal. -/
def removalWords : String :=
  "**Deprecated, for removal: This API element is subject to removal in a future version.**"

/-- The notice of a deprecation with its reason. -/
def deprecation (context : PageContext) : Option Deprecation → Composed Content
  | none => return .empty
  | some deprecation => do
    let words := if deprecation.forRemoval then removalWords else deprecatedWords
    let kind := if deprecation.forRemoval then .danger else .warning
    let reason ← context.markup deprecation.doc
    return .container kind none
      (.raw (if reason.isEmpty then words else words ++ " " ++ reason))

end PageContext

namespace Content

/-- A block with the blank line behind it; nothing for an empty one. -/
def spaced (block : Content) : List Content :=
  if block.isEmpty then [] else [block, .raw "\n"]

/-- The lines of a page's front matter. -/
def frontMatter (fields : List (String × String)) : Content :=
  .raw ("---\n" ++ String.join (fields.map fun field => field.1 ++ ": " ++ field.2 ++ "\n")
    ++ "---\n")

/-- A block of code. -/
def codeBlock (code : String) : Content :=
  .raw ("```java\n" ++ Text.trimEnd code ++ "\n```")

/-- Entries behind a label; nothing without entries. -/
def labelled (label separator : String) (entries : List String) : Content :=
  if entries.isEmpty then .raw ""
  else .raw ("**" ++ label ++ ":**<br>\n" ++ Text.join separator entries)

/-- Front matter and the blocks below it. -/
def page (front : List (String × String)) (blocks : List Content) : Content :=
  .sequence (frontMatter front :: blocks.flatMap spaced)

end Content

/-- The parts that are not empty, with blanks between them. -/
def joinWords (parts : List String) : String :=
  Text.join " " (parts.filter fun part => !part.isEmpty)

/-- The modifiers that summaries show: all but public. -/
def shownModifiers (modifiers : List Modifier) : String :=
  Modifier.keywords (modifiers.filter fun modifier => modifier != .isPublic)

/-- A table with further rows. -/
def Table.addRows {Cell : Type} (rows : List (List Cell)) (table : Table Cell) :
    Except ContentError (Table Cell) :=
  rows.foldlM (fun filled row => Table.addRow row filled) table

/-- A tabbed block with further rows. -/
def TabbedBlock.addRows {Item : Type} (rows : List (Item × List Content))
    (block : TabbedBlock Item) : Except ContentError (TabbedBlock Item) :=
  rows.foldlM (fun filled row => TabbedBlock.addRow row.1 row.2 filled) block

/-- A table of rows under headers. -/
def tableOf (style : TableStyle) (caption : Option String) (headers : List String)
    (rows : List (List Content)) : Composed Content := do
  let table ← (Table.addRows rows ⟨style, caption, some ⟨headers, []⟩⟩).mapError .content
  return .table table

/-- A tabbed block with the given rows. -/
def blockOf {Item : Type} (block : TabbedBlock Item) (rows : List (Item × List Content)) :
    Composed Content := do
  let filled ← (block.addRows rows).mapError .content
  return filled.toContent

end RefDocs
