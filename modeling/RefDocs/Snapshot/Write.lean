import RefDocs.Json.Value
import RefDocs.Snapshot.Basic

/-!
# The JSON form of snapshots

Every record is written as an object with all of its fields: a missing value as null, a list
without items as an empty array.
-/

namespace RefDocs

open Json

/-- A value that may be missing, written as null if it is. -/
def writeOption {α : Type} (write : α → Value) : Option α → Value
  | some content => write content
  | none => .null

/-- A list, written item by item. -/
def writeList {α : Type} (write : α → Value) (items : List α) : Value :=
  .list (items.map write)

mutual

/-- The JSON form of a type reference. -/
def TypeRef.toJson : TypeRef → Value
  | .declared name arguments enclosing annotations =>
    .ofFields [("kind", .ofString "declared"), ("name", .ofString name),
      ("args", .list (typesToJson arguments)), ("enclosing", optionalTypeToJson enclosing),
      ("annotations", .list (annotationsToJson annotations))]
  | .typeVariable name bounds annotations =>
    .ofFields [("kind", .ofString "variable"), ("name", .ofString name),
      ("bounds", .list (typesToJson bounds)),
      ("annotations", .list (annotationsToJson annotations))]
  | .wildcard upper lower annotations =>
    .ofFields [("kind", .ofString "wildcard"), ("extends", optionalTypeToJson upper),
      ("super", optionalTypeToJson lower),
      ("annotations", .list (annotationsToJson annotations))]
  | .primitive name annotations =>
    .ofFields [("kind", .ofString "primitive"), ("name", .ofString name),
      ("annotations", .list (annotationsToJson annotations))]
  | .array component annotations =>
    .ofFields [("kind", .ofString "array"), ("component", component.toJson),
      ("annotations", .list (annotationsToJson annotations))]
  | .void => .ofFields [("kind", .ofString "void")]
termination_by structural type => type

/-- The JSON forms of the type references of a list. -/
def typesToJson : List TypeRef → List Value
  | [] => []
  | type :: rest => type.toJson :: typesToJson rest
termination_by structural types => types

/-- The JSON form of a type reference that may be missing. -/
def optionalTypeToJson : Option TypeRef → Value
  | none => .null
  | some type => type.toJson
termination_by structural type => type

/-- The JSON form of an annotation. -/
def AnnotationUse.toJson : AnnotationUse → Value
  | ⟨typeName, elements, mandated⟩ =>
    .ofFields [("type_name", .ofString typeName), ("elements", .list (elementsToJson elements)),
      ("mandated", .bool mandated)]
termination_by structural use => use

/-- The JSON forms of the annotations of a list. -/
def annotationsToJson : List AnnotationUse → List Value
  | [] => []
  | use :: rest => use.toJson :: annotationsToJson rest
termination_by structural uses => uses

/-- The JSON form of an annotation element. -/
def AnnotationElement.toJson : AnnotationElement → Value
  | ⟨name, value⟩ => .ofFields [("name", .ofString name), ("value", value.toJson)]
termination_by structural element => element

/-- The JSON forms of the annotation elements of a list. -/
def elementsToJson : List AnnotationElement → List Value
  | [] => []
  | element :: rest => element.toJson :: elementsToJson rest
termination_by structural elements => elements

/-- The JSON form of an annotation value. -/
def AnnotationValue.toJson : AnnotationValue → Value
  | .literal text => .ofFields [("kind", .ofString "literal"), ("value", .ofString text)]
  | .type type => .ofFields [("kind", .ofString "type"), ("value", type.toJson)]
  | .enumConstant typeName constant =>
    .ofFields [("kind", .ofString "enum_constant"),
      ("value", .ofFields [("type_name", .ofString typeName), ("constant", .ofString constant)])]
  | .nested use => .ofFields [("kind", .ofString "annotation"), ("value", use.toJson)]
  | .array values =>
    .ofFields [("kind", .ofString "array"), ("value", .list (annotationValuesToJson values))]
termination_by structural value => value

/-- The JSON forms of the annotation values of a list. -/
def annotationValuesToJson : List AnnotationValue → List Value
  | [] => []
  | value :: rest => value.toJson :: annotationValuesToJson rest
termination_by structural values => values

end

mutual

/-- The JSON form of a documentation node. -/
def DocNode.toJson : DocNode → Value
  | .text text => .ofFields [("kind", .ofString "text"), ("text", .ofString text)]
  | .startElement name =>
    .ofFields [("kind", .ofString "start_element"), ("name", .ofString name)]
  | .endElement name => .ofFields [("kind", .ofString "end_element"), ("name", .ofString name)]
  | .entity name => .ofFields [("kind", .ofString "entity"), ("name", .ofString name)]
  | .comment text => .ofFields [("kind", .ofString "comment"), ("text", .ofString text)]
  | .code text => .ofFields [("kind", .ofString "code"), ("text", .ofString text)]
  | .literal text => .ofFields [("kind", .ofString "literal"), ("text", .ofString text)]
  | .link target member label plain =>
    .ofFields [("kind", .ofString "link"), ("target", .ofString target),
      ("member", writeOption .ofString member), ("label", .list (docToJson label)),
      ("plain", .bool plain)]
  | .blockTag name param body =>
    .ofFields [("kind", .ofString "block_tag"), ("name", .ofString name),
      ("param", writeOption .ofString param), ("body", .list (docToJson body))]
termination_by structural node => node

/-- The JSON forms of the documentation nodes of a list. -/
def docToJson : List DocNode → List Value
  | [] => []
  | node :: rest => node.toJson :: docToJson rest
termination_by structural nodes => nodes

end

/-- The JSON form of a deprecation mark. -/
def Deprecation.toJson (deprecation : Deprecation) : Value :=
  .ofFields [("for_removal", .bool deprecation.forRemoval),
    ("doc", .list (docToJson deprecation.doc))]

/-- The JSON form of a type parameter. -/
def TypeParameter.toJson (parameter : TypeParameter) : Value :=
  .ofFields [("name", .ofString parameter.name), ("bounds", .list (typesToJson parameter.bounds)),
    ("annotations", .list (annotationsToJson parameter.annotations))]

/-- The JSON form of a parameter. -/
def Parameter.toJson (parameter : Parameter) : Value :=
  .ofFields [("name", .ofString parameter.name), ("ty", parameter.type.toJson),
    ("annotations", .list (annotationsToJson parameter.annotations)),
    ("varargs", .bool parameter.varargs)]

/-- The JSON form of a list of modifiers. -/
def modifiersToJson (modifiers : List Modifier) : Value :=
  writeList (fun modifier => .ofString modifier.keyword) modifiers

/-- The JSON form of a member. -/
def Member.toJson (member : Member) : Value :=
  .ofFields [("kind", .ofString member.kind.word), ("name", .ofString member.name),
    ("modifiers", modifiersToJson member.modifiers), ("ty", optionalTypeToJson member.type),
    ("params", writeList Parameter.toJson member.parameters),
    ("type_params", writeList TypeParameter.toJson member.typeParameters),
    ("throws", .list (typesToJson member.throws)),
    ("default_value", writeOption AnnotationValue.toJson member.defaultValue),
    ("constant_value", writeOption .ofString member.constantValue),
    ("annotations", .list (annotationsToJson member.annotations)),
    ("deprecated", writeOption Deprecation.toJson member.deprecated),
    ("doc", .list (docToJson member.doc))]

/-- The JSON form of an enclosing declaration. -/
def Enclosing.toJson : Enclosing → Value
  | .package name => .ofFields [("package", .ofString name)]
  | .type name => .ofFields [("type", .ofString name)]

/-- The JSON form of a package declaration. -/
def PackageDecl.toJson (decl : PackageDecl) : Value :=
  .ofFields [("name", .ofString decl.name), ("included", .bool decl.included),
    ("annotations", .list (annotationsToJson decl.annotations)),
    ("doc", .list (docToJson decl.doc))]

/-- The JSON form of a type declaration. -/
def TypeDecl.toJson (decl : TypeDecl) : Value :=
  .ofFields [("qualified_name", .ofString decl.qualifiedName),
    ("simple_name", .ofString decl.simpleName), ("kind", .ofString decl.kind.word),
    ("enclosing", decl.enclosing.toJson), ("superclass", optionalTypeToJson decl.superclass),
    ("interfaces", .list (typesToJson decl.interfaces)),
    ("type_params", writeList TypeParameter.toJson decl.typeParameters),
    ("annotations", .list (annotationsToJson decl.annotations)),
    ("members", writeList Member.toJson decl.members),
    ("modifiers", modifiersToJson decl.modifiers),
    ("deprecated", writeOption Deprecation.toJson decl.deprecated),
    ("doc", .list (docToJson decl.doc)), ("included", .bool decl.included),
    ("hidden", .bool decl.hidden), ("documented", .bool decl.documented),
    ("functional", .bool decl.functional)]

/-- The JSON form of what is known of an annotation type. -/
def ExternalAnnotation.toJson (external : ExternalAnnotation) : Value :=
  .ofFields [("name", .ofString external.name), ("documented", .bool external.documented)]

/-- The JSON form of a snapshot. -/
def Snapshot.toJson (snapshot : Snapshot) : Value :=
  .ofFields [("packages", writeList PackageDecl.toJson snapshot.packages),
    ("types", writeList TypeDecl.toJson snapshot.types),
    ("annotation_types", writeList ExternalAnnotation.toJson snapshot.annotationTypes)]

end RefDocs
