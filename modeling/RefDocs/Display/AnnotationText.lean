import RefDocs.Display.Erased
import RefDocs.Graph.Basic

/-!
# The text of annotations

Annotations are shown in source form, with the usual omissions: a lone `value` element has no
key, several values are braced and one is not, an implied occurrence shows only its values, and
one that only holds shown annotations is replaced by them.
-/

namespace RefDocs

/-- How annotations are written: which are shown, and what their names link to. -/
structure AnnotationWriter where
  /-- Occurrences of the annotation type are shown. -/
  shows : String → Bool
  /-- The text for the qualified name of an annotation type, linked where there is a page. -/
  link : String → String → String

namespace AnnotationWriter

/-- The writer without links for a graph. -/
def plain (graph : Graph) : AnnotationWriter :=
  ⟨graph.showsAnnotation, fun _ text => text⟩

/-- Values in an element list: several or none of them stand in braces. -/
def braced : List String → String
  | [text] => text
  | texts => "\x7b" ++ Text.join "," texts ++ "\x7d"

/-- What stands between two elements: a comma, in line-break mode with the indent of the list. -/
def elementSeparator (lineBreak : Bool) (name : String) : String :=
  if lineBreak then ",\n" ++ Text.replicate (name.utf8ByteSize + 2) " " else ","

mutual

/-- The texts of the items of an array value, or of the value itself. -/
def flatTexts (writer : AnnotationWriter) : AnnotationValue → List String
  | .literal text => [text]
  | .type type => [type.erasedName ++ ".class"]
  | .enumConstant typeName constant => [simpleName typeName ++ "." ++ constant]
  | .nested use => [writer.invocation false use]
  | .array values => writer.valueTexts values
termination_by structural value => value

/-- The texts of the values of a list, where the items of an array stand with blanks between. -/
def valueTexts (writer : AnnotationWriter) : List AnnotationValue → List String
  | [] => []
  | value :: rest => Text.join " " (writer.flatTexts value) :: writer.valueTexts rest
termination_by structural values => values

/-- The texts of the elements of a list, with or without the key of a `value` element. -/
def elementTexts (writer : AnnotationWriter) (keyed : Bool) : List AnnotationElement → List String
  | [] => []
  | ⟨name, value⟩ :: rest =>
    ((if keyed || name != "value" then name ++ "=" else "") ++ braced (writer.flatTexts value))
      :: writer.elementTexts keyed rest
termination_by structural elements => elements

/-- An annotation with its name and elements. -/
def invocation (writer : AnnotationWriter) (lineBreak : Bool) : AnnotationUse → String
  | ⟨typeName, elements, _⟩ =>
    let name := simpleName typeName
    let linked := writer.link typeName ("@" ++ name)
    if elements.isEmpty then linked
    else
      linked ++ "("
        ++ Text.join (elementSeparator lineBreak name)
          (writer.elementTexts (elements.length > 1) elements)
        ++ ")"
termination_by structural use => use

end

/-- The source form of an element value. -/
def valueText (writer : AnnotationWriter) (value : AnnotationValue) : String :=
  Text.join " " (writer.flatTexts value)

/-- Whether a value is an array of several annotations, and if so, whether they are shown. -/
def showsItems? (writer : AnnotationWriter) : AnnotationValue → Option Bool
  | .array (.nested first :: _ :: _) => some (writer.shows first.typeName)
  | _ => none

/-- Whether an occurrence holds an array of several annotations, and if so, whether they are
shown. -/
def showsContents? (writer : AnnotationWriter) (use : AnnotationUse) : Option Bool :=
  use.elements.findSome? fun element => writer.showsItems? element.value

/-- An occurrence of a shown annotation, or one that holds shown annotations. -/
def isShown (writer : AnnotationWriter) (use : AnnotationUse) : Bool :=
  writer.shows use.typeName || writer.showsContents? use == some true

/-- The text of an occurrence that is shown. -/
def occurrence (writer : AnnotationWriter) (lineBreak : Bool) (use : AnnotationUse) : String :=
  if use.mandated then
    Text.join " " (use.elements.flatMap fun element => writer.flatTexts element.value)
  else
    match writer.showsContents? use, use.elements with
    | some true, [element] => writer.valueText element.value
    | some _, _ => writer.invocation false use
    | none, _ => writer.invocation lineBreak use

/-- The occurrences that are shown, in order, with blanks between them. -/
def inline (writer : AnnotationWriter) (uses : List AnnotationUse) : String :=
  ((uses.filter writer.isShown).map (writer.occurrence false)).foldl
    (fun line text => if line.isEmpty then text else line ++ " " ++ text) ""

/-- The occurrences that are shown, in order, each ended by a line break. -/
def lines (writer : AnnotationWriter) (uses : List AnnotationUse) : String :=
  String.join ((uses.filter writer.isShown).map fun use => writer.occurrence true use ++ "\n")

end AnnotationWriter
end RefDocs
