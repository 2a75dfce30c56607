import RefDocs.Markup.Sentence
import RefDocs.Member.Anchor
import RefDocs.Page.Link
import RefDocs.Text.Escape

/-!
# Rendered markup

Documentation comments as markup for a page, with references turned into links from that page.
-/

namespace RefDocs
namespace Markup

/-- A text as code, in a longer fence where it has a backtick itself. -/
def codeSpan (text : String) : String :=
  if text.toList.contains '`' then "`` " ++ text ++ " ``" else "`" ++ text ++ "`"

/-- The text of a link without a label. -/
def defaultLabel (target : String) : Option String → String
  | some member => if target.isEmpty then member else simpleName target ++ "." ++ member
  | none => simpleName target

/-- The type whose page a link leads to: the one named, or that of the page itself. -/
def linkOwner? (source : LinkSource) (target : String) : Option TypeDecl :=
  if target.isEmpty then
    match source.page with
    | .type name => source.graph.type? name
    | _ => none
  else source.graph.type? target

/-- A text linked to the page of a package, or bare if no link to that is written. -/
def packageLink (source : LinkSource) (name text : String) : String :=
  match source.pathTo? (.package name) with
  | some path => LinkSource.wrap text (some path)
  | none => text

/-- A text linked to what a reference names. -/
def linkTo (source : LinkSource) (target : String) (member : Option String) (text : String) :
    String :=
  match linkOwner? source target, member with
  | some owner, some reference =>
    source.member owner.qualifiedName (Reference.anchor owner reference) text
  | some _, none => source.named target text
  | none, _ =>
    match source.graph.package? target with
    | some _ => packageLink source target text
    | none => text

mutual

/-- The text of a node. -/
def writeNode (source : LinkSource) : DocNode → String
  | .text text => text
  | .startElement name => "<" ++ name ++ ">"
  | .endElement name => "</" ++ name ++ ">"
  | .entity name => "&" ++ name ++ ";"
  | .code text => codeSpan text
  | .literal text => Text.escape text
  | .comment _ | .blockTag .. => ""
  | .link target member label plain =>
    let text :=
      if label.isEmpty then
        if plain then defaultLabel target member else codeSpan (defaultLabel target member)
      else Text.trim (writeNodes source label)
    linkTo source target member text
termination_by structural node => node

/-- The text of nodes in order. -/
def writeNodes (source : LinkSource) : List DocNode → String
  | [] => ""
  | node :: rest => writeNode source node ++ writeNodes source rest
termination_by structural nodes => nodes

end

/-- The text of a comment in normal form, without blanks at its ends. -/
def render (source : LinkSource) (nodes : List DocNode) : Except MarkupError String := do
  return Text.trim (writeNodes source (← normalize nodes))

/-- The text of the first sentence of a comment. -/
def summary (source : LinkSource) (nodes : List DocNode) : Except MarkupError String :=
  render source (firstSentence nodes)

end Markup
end RefDocs
