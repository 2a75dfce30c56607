import RefDocs.Compose.Signature
import RefDocs.Member.Layout

/-!
# Members on type pages

The summary table of the members of one kind, and the section with the details of a member.
-/

namespace RefDocs
namespace PageContext

/-- What a summary says of a member: that it is deprecated and why, or its first sentence. -/
def summaryText (context : PageContext) (member : Member) : Composed String :=
  match member.deprecated with
  | some deprecation => do
    return joinWords [deprecatedWords, ← context.summary deprecation.doc]
  | none => context.summary member.doc

/-- The name of a member in a summary, linked to its details. -/
def summaryName (context : PageContext) (owner : TypeDecl) (member : Member) : String :=
  let name := context.source.member owner.qualifiedName member.anchor member.name
  match member.kind with
  | .method | .constructor => name ++ "(" ++ context.parameterList .linked member ++ ")"
  | _ => name

/-- A cell of a member summary. -/
def summaryCell (context : PageContext) (owner : TypeDecl) (member : Member) :
    Column → Composed String
  | .modifierAndType =>
    return joinWords
      [if member.kind = .annotationElement then "" else shownModifiers member.modifiers,
        context.typeParameterList .linked member.typeParameters,
        member.type.elim "" context.source.typeLink]
  | .modifier => return shownModifiers member.modifiers
  | .type => return member.type.elim "" context.source.typeLink
  | .name => return context.summaryName owner member
  | .description => context.summaryText member

/-- The row of a member in a summary. -/
def summaryRow (context : PageContext) (owner : TypeDecl) (member : Member) :
    Composed (MemberFacts × List Content) := do
  let cells ← member.kind.layout.columns.mapM (context.summaryCell owner member)
  return (member.facts owner, cells.map .raw)

/-- The summary of the members of a kind. -/
def memberSummary (context : PageContext) (owner : TypeDecl) (kind : MemberKind)
    (members : List Member) : Composed Content := do
  let block := kind.layout.summaryTable context.options.tableStyle
  let keyed := { block with key := if kind = .method then some "methods" else none }
  blockOf keyed (← members.mapM (context.summaryRow owner))

/-- The entries that the block tags of a comment contribute to the details of a member. -/
inductive TagEntry where
  | parameter (text : String)
  | result (text : String)
  | thrown (text : String)
  deriving DecidableEq, Repr

/-- The entry of a block tag, if it has one. -/
def tagEntry? (context : PageContext) (tag : Markup.BlockTag) : Composed (Option TagEntry) := do
  match tag.name, tag.param with
  | "param", some name =>
    if name.toList.head? = some '<' then return none
    return some (.parameter ("`" ++ name ++ "` - " ++ (← context.markup tag.body)))
  | "return", _ => return some (.result (← context.markup tag.body))
  | "throws", some name | "exception", some name =>
    let target := context.source.named name ("`" ++ simpleName name ++ "`")
    return some (.thrown (target ++ " - " ++ (← context.markup tag.body)))
  | _, _ => return none

/-- The parameters, results and exceptions that a member's comment describes. -/
def memberTags (context : PageContext) (member : Member) : Composed Content := do
  let entries := (← (Markup.blockTags member.doc).mapM context.tagEntry?).filterMap id
  let parameters := entries.filterMap fun
    | .parameter text => some text
    | _ => none
  let results := entries.filterMap fun
    | .result text => some text
    | _ => none
  let thrown := entries.filterMap fun
    | .thrown text => some text
    | _ => none
  return .sequence [.labelled "Parameters" "<br>\n" parameters,
    .labelled "Returns" "<br>\n" results, .labelled "Throws" "<br>\n" thrown]

/-- The empty section for the details of a member. -/
def detailFrame (member : Member) : Wrapper where
  frame := .anchored member.anchor (.tabs { tabs := [(member.name, [.empty])] })
  hasSlot := rfl

/-- The details of a member. -/
def memberDetail (context : PageContext) (member : Member) : Composed Content := do
  let notice ← context.deprecation member.deprecated
  let description ← context.description member.doc
  let tags ← if context.options.noComment then pure .empty else context.memberTags member
  let default := member.defaultValue.elim .empty fun value =>
    .labelled "Default" ""
      ["`" ++ (AnnotationWriter.plain context.graph).valueText value ++ "`"]
  let blocks :=
    [.codeBlock (context.memberSignature member), notice, .raw description, tags, default]
  let filled := (blocks.flatMap Content.spaced).foldl (fun frame block => frame.add block)
    (detailFrame member)
  return filled.toContent

/-- The details of the members of a kind. -/
def memberDetails (context : PageContext) (kind : MemberKind) (members : List Member) :
    Composed Content := do
  let details ← members.mapM context.memberDetail
  return .container .info (some (.text kind.layout.detailsLabel)) (.sequence details)

end PageContext
end RefDocs
