import RefDocs.Json.Read
import RefDocs.Json.Record
import RefDocs.Snapshot.Basic

/-!
# Reading snapshots

Readers from JSON for each record of a snapshot.  Each takes the number of levels of arrays and
objects that may still be opened, which bounds the recursion too.  Tagged records (type
references and documentation nodes) are checked as a whole before they are read, so inside them
nothing may be nested too deep even where it is passed over; elsewhere the value of an unknown
field may hold anything.
-/

namespace RefDocs
namespace Snapshot

open Json

/-- The depth of nesting that a snapshot may have. -/
def maxDepth : Nat := 127

/-- The value of a list that a word names. -/
def ofWord? {α : Type} (word : α → String) (all : List α) (name : String) : Option α :=
  all.find? fun item => word item == name

/-- A word that names a value of a list. -/
def readWord {α : Type} (word : α → String) (all : List α) (levels : Nat) (value : Value) :
    Option α := do
  ofWord? word all (← value.asWord? .direct levels)

/-- A value whose reader needs a check of the whole, unless it is part of a checked one. -/
def checkedFirst {α : Type} (read : Source → Nat → Value → Option α) (source : Source)
    (levels : Nat) (value : Value) : Option α :=
  if source = .checked || value.fits levels then read source levels value else none

/-- The forms of a type reference. -/
def typeRefTags : List String :=
  ["declared", "variable", "wildcard", "primitive", "array", "void"]

/-- The forms of a documentation node. -/
def docTags : List String :=
  ["text", "start_element", "end_element", "entity", "comment", "code", "literal", "link",
    "block_tag"]

/-- The tag and content of an annotation value, and how the content is read: in an object whose
content stands before its tag, the content is checked as a whole first. -/
def annotationParts? (source : Source) (levels : Nat) :
    Value → Option (String × Value × Source)
  | .object entries => do
    if !entries.all fun entry => entry.1.isSome then none
    let some tag ← uniqueEntry? "kind" entries | none
    let some content ← uniqueEntry? "value" entries | none
    let contentFirst :=
      (entries.find? fun entry => entry.1 == some "kind" || entry.1 == some "value").any
        fun entry => entry.1 == some "value"
    let name ← tag.asWord? source levels
    if contentFirst then
      if content.fits levels then some (name, content, .checked) else none
    else some (name, content, source)
  | .list [tag, content] => do return (← tag.asWord? source levels, content, source)
  | _ => none

mutual

/-- A type reference inside the opening bracket of its record. -/
def readTypeRef (source : Source) : Nat → Value → Option TypeRef
  | 0, _ => none
  | levels + 1, value => do
    let (tag, rest) ← value.splitTag? source typeRefTags
    match tag with
    | "declared" =>
      let [name, arguments, enclosing, annotations] ←
        rest.fields? ["name", "args", "enclosing", "annotations"] | none
      return .declared (← required Value.asText? name)
        (← withDefault [] (readTypeRefs levels) arguments)
        (← nullable (readTypeRef .checked levels) enclosing)
        (← withDefault [] (readUseList .checked levels) annotations)
    | "variable" =>
      let [name, bounds, annotations] ← rest.fields? ["name", "bounds", "annotations"] | none
      return .typeVariable (← required Value.asText? name)
        (← withDefault [] (readTypeRefs levels) bounds)
        (← withDefault [] (readUseList .checked levels) annotations)
    | "wildcard" =>
      let [upper, lower, annotations] ←
        rest.fields? ["extends", "super", "annotations"] | none
      return .wildcard (← nullable (readTypeRef .checked levels) upper)
        (← nullable (readTypeRef .checked levels) lower)
        (← withDefault [] (readUseList .checked levels) annotations)
    | "primitive" =>
      let [name, annotations] ← rest.fields? ["name", "annotations"] | none
      return .primitive (← required Value.asText? name)
        (← withDefault [] (readUseList .checked levels) annotations)
    | "array" =>
      let [component, annotations] ← rest.fields? ["component", "annotations"] | none
      return .array (← required (readTypeRef .checked levels) component)
        (← withDefault [] (readUseList .checked levels) annotations)
    | "void" => if rest.isBlankRecord then some .void else none
    | _ => none
termination_by structural levels => levels

/-- The type references of a list in a checked value. -/
def readTypeRefs : Nat → Value → Option (List TypeRef)
  | levels + 1, .list items => items.mapM (readTypeRef .checked levels)
  | _, _ => none
termination_by structural levels => levels

/-- A list of annotations. -/
def readUseList (source : Source) : Nat → Value → Option (List AnnotationUse)
  | levels + 1, .list items => items.mapM (readUse source levels)
  | _, _ => none
termination_by structural levels => levels

/-- An annotation. -/
def readUse (source : Source) : Nat → Value → Option AnnotationUse
  | 0, _ => none
  | levels + 1, value => do
    let [typeName, elements, mandated] ←
      value.fields? ["type_name", "elements", "mandated"] | none
    return {
      typeName := ← required Value.asText? typeName
      elements := ← withDefault [] (readElements source levels) elements
      mandated := ← withDefault false Value.asBool? mandated }
termination_by structural levels => levels

/-- A list of annotation elements. -/
def readElements (source : Source) : Nat → Value → Option (List AnnotationElement)
  | levels + 1, .list items => items.mapM (readElement source levels)
  | _, _ => none
termination_by structural levels => levels

/-- An annotation element. -/
def readElement (source : Source) : Nat → Value → Option AnnotationElement
  | 0, _ => none
  | levels + 1, record => do
    let [name, value] ← record.fields? ["name", "value"] | none
    return {
      name := ← required Value.asText? name
      value := ← required (readAnnotationValue source levels) value }
termination_by structural levels => levels

/-- The value of an annotation element. -/
def readAnnotationValue (source : Source) : Nat → Value → Option AnnotationValue
  | 0, _ => none
  | levels + 1, value => do
    let (tag, content, source) ← annotationParts? source levels value
    match tag with
    | "literal" => return .literal (← content.asText?)
    | "type" =>
      if source = .checked || content.fits levels then
        return .type (← readTypeRef source levels content)
      else none
    | "enum_constant" =>
      match levels, content with
      | _ + 1, .object _ =>
        let [typeName, constant] ← content.fields? ["type_name", "constant"] | none
        return .enumConstant (← required Value.asText? typeName) (← required Value.asText? constant)
      | _, _ => none
    | "annotation" => return .nested (← readUse source levels content)
    | "array" => return .array (← readAnnotationValues source levels content)
    | _ => none
termination_by structural levels => levels

/-- A list of annotation values. -/
def readAnnotationValues (source : Source) : Nat → Value → Option (List AnnotationValue)
  | levels + 1, .list items => items.mapM (readAnnotationValue source levels)
  | _, _ => none
termination_by structural levels => levels

end

/-- The text of a record with one field. -/
def readOnly (name : String) (record : Value) : Option String := do
  let [content] ← record.fields? [name] | none
  required Value.asText? content

mutual

/-- A documentation node inside the opening bracket of its record. -/
def readDocNode (source : Source) : Nat → Value → Option DocNode
  | 0, _ => none
  | levels + 1, value => do
    let (tag, rest) ← value.splitTag? source docTags
    match tag with
    | "text" => return .text (← readOnly "text" rest)
    | "start_element" => return .startElement (← readOnly "name" rest)
    | "end_element" => return .endElement (← readOnly "name" rest)
    | "entity" => return .entity (← readOnly "name" rest)
    | "comment" => return .comment (← readOnly "text" rest)
    | "code" => return .code (← readOnly "text" rest)
    | "literal" => return .literal (← readOnly "text" rest)
    | "link" =>
      let [target, member, label, plain] ←
        rest.fields? ["target", "member", "label", "plain"] | none
      return .link (← required Value.asText? target) (← nullable Value.asText? member)
        (← withDefault [] (readDocNodes levels) label) (← withDefault false Value.asBool? plain)
    | "block_tag" =>
      let [name, param, body] ← rest.fields? ["name", "param", "body"] | none
      return .blockTag (← required Value.asText? name) (← nullable Value.asText? param)
        (← withDefault [] (readDocNodes levels) body)
    | _ => none
termination_by structural levels => levels

/-- The documentation nodes of a list in a checked value. -/
def readDocNodes : Nat → Value → Option (List DocNode)
  | levels + 1, .list items => items.mapM (readDocNode .checked levels)
  | _, _ => none
termination_by structural levels => levels

end

/-- A type reference that stands by itself. -/
def readType (levels : Nat) (value : Value) : Option TypeRef :=
  checkedFirst readTypeRef .direct levels value

/-- A list of type references. -/
def readTypes (levels : Nat) (value : Value) : Option (List TypeRef) :=
  value.asList? readType levels

/-- A list of annotations on a declaration. -/
def readUses (levels : Nat) (value : Value) : Option (List AnnotationUse) :=
  readUseList .direct levels value

/-- A documentation comment. -/
def readDoc (levels : Nat) (value : Value) : Option (List DocNode) :=
  value.asList? (checkedFirst readDocNode .direct) levels

/-- A list of modifiers. -/
def readModifiers (levels : Nat) (value : Value) : Option (List Modifier) :=
  value.asList? (readWord Modifier.keyword Modifier.all) levels

/-- A deprecation mark. -/
def readDeprecation : Nat → Value → Option Deprecation
  | 0, _ => none
  | levels + 1, value => do
    let [forRemoval, doc] ← value.fields? ["for_removal", "doc"] | none
    return {
      forRemoval := ← withDefault false Value.asBool? forRemoval
      doc := ← withDefault [] (readDoc levels) doc }

/-- A type parameter. -/
def readTypeParameter : Nat → Value → Option TypeParameter
  | 0, _ => none
  | levels + 1, value => do
    let [name, bounds, annotations] ← value.fields? ["name", "bounds", "annotations"] | none
    return {
      name := ← required Value.asText? name
      bounds := ← withDefault [] (readTypes levels) bounds
      annotations := ← withDefault [] (readUses levels) annotations }

/-- A parameter of a method or constructor. -/
def readParameter : Nat → Value → Option Parameter
  | 0, _ => none
  | levels + 1, value => do
    let [name, type, annotations, varargs] ←
      value.fields? ["name", "ty", "annotations", "varargs"] | none
    return {
      name := ← required Value.asText? name
      type := ← required (readType levels) type
      annotations := ← withDefault [] (readUses levels) annotations
      varargs := ← withDefault false Value.asBool? varargs }

/-- A member of a type. -/
def readMember : Nat → Value → Option Member
  | 0, _ => none
  | levels + 1, value => do
    let [kind, name, modifiers, type, parameters, typeParameters, throws, defaultValue,
        constantValue, annotations, deprecated, doc] ←
      value.fields? ["kind", "name", "modifiers", "ty", "params", "type_params", "throws",
        "default_value", "constant_value", "annotations", "deprecated", "doc"] | none
    return {
      kind := ← required (readWord MemberKind.word MemberKind.all levels) kind
      name := ← required Value.asText? name
      modifiers := ← withDefault [] (readModifiers levels) modifiers
      type := ← nullable (readType levels) type
      parameters := ← withDefault [] (Value.asList? readParameter levels) parameters
      typeParameters := ← withDefault [] (Value.asList? readTypeParameter levels) typeParameters
      throws := ← withDefault [] (readTypes levels) throws
      defaultValue := ← nullable (readAnnotationValue .direct levels) defaultValue
      constantValue := ← nullable Value.asText? constantValue
      annotations := ← withDefault [] (readUses levels) annotations
      deprecated := ← nullable (readDeprecation levels) deprecated
      doc := ← withDefault [] (readDoc levels) doc }

/-- What a type is declared in: an object with exactly one key. -/
def readEnclosing : Nat → Value → Option Enclosing
  | _ + 1, .object [(some "package", name)] => name.asText?.map .package
  | _ + 1, .object [(some "type", name)] => name.asText?.map .type
  | _, _ => none

/-- A package declaration. -/
def readPackage : Nat → Value → Option PackageDecl
  | 0, _ => none
  | levels + 1, value => do
    let [name, included, annotations, doc] ←
      value.fields? ["name", "included", "annotations", "doc"] | none
    return {
      name := ← required Value.asText? name
      included := ← withDefault true Value.asBool? included
      annotations := ← withDefault [] (readUses levels) annotations
      doc := ← withDefault [] (readDoc levels) doc }

/-- A type declaration. -/
def readTypeDecl : Nat → Value → Option TypeDecl
  | 0, _ => none
  | levels + 1, value => do
    let [qualifiedName, simpleName, kind, enclosing, superclass, interfaces, typeParameters,
        annotations, members, modifiers, deprecated, doc, included, hidden, documented,
        functional] ←
      value.fields? ["qualified_name", "simple_name", "kind", "enclosing", "superclass",
        "interfaces", "type_params", "annotations", "members", "modifiers", "deprecated", "doc",
        "included", "hidden", "documented", "functional"] | none
    return {
      qualifiedName := ← required Value.asText? qualifiedName
      simpleName := ← required Value.asText? simpleName
      kind := ← required (readWord TypeKind.word TypeKind.all levels) kind
      enclosing := ← required (readEnclosing levels) enclosing
      superclass := ← nullable (readType levels) superclass
      interfaces := ← withDefault [] (readTypes levels) interfaces
      typeParameters := ← withDefault [] (Value.asList? readTypeParameter levels) typeParameters
      annotations := ← withDefault [] (readUses levels) annotations
      members := ← withDefault [] (Value.asList? readMember levels) members
      modifiers := ← withDefault [] (readModifiers levels) modifiers
      deprecated := ← nullable (readDeprecation levels) deprecated
      doc := ← withDefault [] (readDoc levels) doc
      included := ← withDefault true Value.asBool? included
      hidden := ← withDefault false Value.asBool? hidden
      documented := ← withDefault false Value.asBool? documented
      functional := ← withDefault false Value.asBool? functional }

/-- What is known of an annotation type declared elsewhere. -/
def readExternal : Nat → Value → Option ExternalAnnotation
  | 0, _ => none
  | _ + 1, value => do
    let [name, documented] ← value.fields? ["name", "documented"] | none
    return {
      name := ← required Value.asText? name
      documented := ← withDefault false Value.asBool? documented }

/-- A snapshot. -/
def read : Nat → Value → Option Snapshot
  | 0, _ => none
  | levels + 1, value => do
    let [packages, types, annotationTypes] ←
      value.fields? ["packages", "types", "annotation_types"] | none
    return {
      packages := ← withDefault [] (Value.asList? readPackage levels) packages
      types := ← withDefault [] (Value.asList? readTypeDecl levels) types
      annotationTypes := ← withDefault [] (Value.asList? readExternal levels) annotationTypes }

/-- The snapshot in a JSON value. -/
def ofValue? (value : Value) : Option Snapshot :=
  read maxDepth value

/-- The snapshot in a JSON text. -/
def ofText? (text : String) : Option Snapshot := do
  ofValue? (← Value.ofText? text)

end Snapshot
end RefDocs
