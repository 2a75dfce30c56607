/-!
# Documentation nodes

Documentation comments as flat lists of nodes: text, element tags, references and block tags.
-/

namespace RefDocs

/-- A node of a documentation comment. -/
inductive DocNode where
  /-- Text that is markup already. -/
  | text (text : String)
  /-- The start tag of an element. -/
  | startElement (name : String)
  /-- The end tag of an element. -/
  | endElement (name : String)
  /-- A named character reference, without its delimiters. -/
  | entity (name : String)
  /-- A comment, which is never shown. -/
  | comment (text : String)
  /-- Literal text shown as code. -/
  | code (text : String)
  /-- Literal text. -/
  | literal (text : String)
  /-- A link to a type, package or member. -/
  | link (target : String) (member : Option String) (label : List DocNode) (plain : Bool)
  /-- A block tag with an optional parameter and a body. -/
  | blockTag (name : String) (param : Option String) (body : List DocNode)

instance : Inhabited DocNode :=
  ⟨.text ""⟩

end RefDocs
