import RefDocs.Snapshot.Doc

/-!
# Normal form of documentation markup

Normalizing a comment closes paragraphs that are left open before the next block and before the
end of the element around them, closes at the end what is still open, writes element names in
lower case and drops end tags of elements that have no content.
-/

namespace RefDocs

/-- Why markup has no normal form. -/
inductive MarkupError where
  /-- An end tag does not match the innermost open element. -/
  | mismatch (opened closed : String)
  /-- An end tag stands where no element is open. -/
  | unexpectedClose (closed : String)
  deriving DecidableEq, Repr

/-- The text of a markup error. -/
def MarkupError.message : MarkupError → String
  | .mismatch opened closed =>
    "</" ++ closed ++ "> does not close the open <" ++ opened ++ "> element"
  | .unexpectedClose closed => "</" ++ closed ++ "> has no matching open element"

namespace Markup

/-- An element name in lower case; only ASCII letters have one here. -/
def lowerName (name : String) : String :=
  String.ofList (name.toList.map Char.toLower)

/-- The elements that start a block and end a paragraph before them. -/
def blockNames : List String :=
  ["p", "ul", "ol", "dl", "pre", "table", "div", "blockquote", "h1", "h2", "h3", "h4", "h5", "h6",
    "hr"]

/-- The elements without content and end tag. -/
def voidNames : List String :=
  ["br", "hr", "img", "wbr"]

/-- An element that starts a block. -/
def isBlock (name : String) : Bool :=
  blockNames.contains (lowerName name)

/-- An element without content. -/
def isVoid (name : String) : Bool :=
  voidNames.contains (lowerName name)

/-- The paragraph element. -/
def isParagraph (name : String) : Bool :=
  lowerName name == "p"

/-- The open elements, innermost first, and the end tags that are due before a start tag. -/
def beforeStart (name : String) : List String → List DocNode × List String
  | "p" :: outer => if isBlock name then ([.endElement "p"], outer) else ([], "p" :: outer)
  | opened => ([], opened)

/-- The open elements, innermost first, and the end tags that are due before an end tag. -/
def beforeEnd (name : String) : List String → List DocNode × List String
  | "p" :: parent :: outer =>
    if name ≠ "p" ∧ parent = name then ([.endElement "p"], parent :: outer)
    else ([], "p" :: parent :: outer)
  | opened => ([], opened)

/-- The normal form of nodes inside the given open elements, innermost first. -/
def normalizeIn : List String → List DocNode → Except MarkupError (List DocNode)
  | opened, [] => .ok (opened.map .endElement)
  | opened, .startElement name :: rest => do
    let name := lowerName name
    let (closing, opened) := beforeStart name opened
    let others ← normalizeIn (if isVoid name then opened else name :: opened) rest
    return closing ++ .startElement name :: others
  | opened, .endElement name :: rest =>
    let name := lowerName name
    if isVoid name then normalizeIn opened rest
    else
      let (closing, opened) := beforeEnd name opened
      match opened with
      | [] => .error (.unexpectedClose name)
      | innermost :: outer =>
        if innermost = name then do
          let others ← normalizeIn outer rest
          return closing ++ .endElement name :: others
        else .error (.mismatch innermost name)
  | opened, node :: rest => do return node :: (← normalizeIn opened rest)

/-- The normal form of a comment. -/
def normalize (nodes : List DocNode) : Except MarkupError (List DocNode) :=
  normalizeIn [] nodes

end Markup
end RefDocs
