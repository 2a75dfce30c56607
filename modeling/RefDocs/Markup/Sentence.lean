import RefDocs.Markup.Normalize
import RefDocs.Text.Blank

/-!
# First sentences and block tags

The first sentence of a comment ends behind a point that a blank follows, before a block that
follows some content, and before the first block tag.  It is shown in a line of text, so it has no
paragraph tags.
-/

namespace RefDocs
namespace Markup

/-- A text up to the first point that a blank follows, if it has one. -/
def cutSentence? : List Char → Option (List Char)
  | '.' :: next :: rest =>
    if isBlank next then some ['.'] else (cutSentence? (next :: rest)).map ('.' :: ·)
  | char :: rest => (cutSentence? rest).map (char :: ·)
  | [] => none

/-- A node that readers see. -/
def isContent : DocNode → Bool
  | .text text => !Text.isBlankText text
  | .startElement _ | .endElement _ | .comment _ => false
  | _ => true

/-- The first sentence of nodes, behind nodes with or without content. -/
def sentenceFrom (content : Bool) : List DocNode → List DocNode
  | [] | .blockTag .. :: _ => []
  | .text text :: rest =>
    match cutSentence? text.toList with
    | some sentence => [.text (String.ofList sentence)]
    | none => .text text :: sentenceFrom (content || isContent (.text text)) rest
  | .startElement name :: rest =>
    if content && isBlock name then []
    else if isParagraph name then sentenceFrom content rest
    else .startElement name :: sentenceFrom content rest
  | .endElement name :: rest =>
    if isParagraph name then sentenceFrom content rest
    else .endElement name :: sentenceFrom content rest
  | node :: rest => node :: sentenceFrom (content || isContent node) rest

/-- The first sentence of a comment. -/
def firstSentence (nodes : List DocNode) : List DocNode :=
  sentenceFrom false nodes

/-- A block tag of a comment. -/
structure BlockTag where
  /-- The name of the tag. -/
  name : String
  /-- The parameter that the tag is about. -/
  param : Option String
  /-- What it says. -/
  body : List DocNode

/-- The block tag in a node, if it is one. -/
def blockTag? : DocNode → Option BlockTag
  | .blockTag name param body => some ⟨name, param, body⟩
  | _ => none

/-- The block tags of a comment, in order. -/
def blockTags (nodes : List DocNode) : List BlockTag :=
  nodes.filterMap blockTag?

/-- A comment without its block tags. -/
def body (nodes : List DocNode) : List DocNode :=
  nodes.filter fun node => (blockTag? node).isNone

end Markup
end RefDocs
