import RefDocs.Compose.Basic

/-!
# Signatures

Declarations of types and members in source form, and the parameter lists that signatures and
summaries share.
-/

namespace RefDocs
namespace PageContext

/-- Where a parameter list is shown. -/
inductive ListForm where
  /-- In running text, with links. -/
  | linked
  /-- In code. -/
  | code
  deriving DecidableEq, Repr

/-- A type parameter list in brackets; nothing without parameters. -/
def typeParameterList (context : PageContext) (form : ListForm)
    (parameters : List TypeParameter) : String :=
  let brackets := match form with
    | .linked => Brackets.escaped
    | .code => Brackets.plain
  if parameters.isEmpty then ""
  else
    brackets.opening
      ++ Text.join ", " (parameters.map fun parameter =>
        context.graph.typeName .documentation brackets parameter.variableOf)
      ++ brackets.closing

/-- A parameter with its type; points stand for the last brackets of an array where it takes any
number of values. -/
def parameterText (context : PageContext) (form : ListForm) (parameter : Parameter) : String :=
  let type := match form with
    | .linked => context.source.typeLink parameter.type
    | .code => context.codeName parameter.type
  let shown :=
    if parameter.varargs then
      match Text.dropEnd? "[]" type with
      | some component => component ++ "..."
      | none => type
    else type
  let annotations := match form with
    | .linked => ""
    | .code => (AnnotationWriter.plain context.graph).inline parameter.annotations
  joinWords [annotations, shown, parameter.name]

/-- The parameters of a member. -/
def parameterList (context : PageContext) (form : ListForm) (member : Member) : String :=
  Text.join ", " (member.parameters.map (context.parameterText form))

/-- The types behind a keyword, with a blank in front; nothing without types. -/
def typesAfter (context : PageContext) (keyword : String) (types : List TypeRef) : String :=
  if types.isEmpty then ""
  else " " ++ keyword ++ " " ++ Text.join ", " (types.map context.codeName)

/-- The superclass that a class declaration shows: any but the root. -/
def shownSuperclass (context : PageContext) (decl : TypeDecl) : List TypeRef :=
  if decl.kind = .classType then
    decl.superclass.toList.filter fun superclass =>
      superclass.declaredName? != some context.graph.rootType
  else []

/-- The declaration of a type. -/
def typeSignature (context : PageContext) (decl : TypeDecl) : String :=
  let modifiers :=
    if decl.isInterface then decl.modifiers.filter fun modifier => modifier != .isAbstract
    else decl.modifiers
  context.codeAnnotations decl.annotations
    ++ joinWords [Modifier.keywords modifiers, decl.kind.keyword, context.codeName decl.selfType]
    ++ context.typesAfter "extends" (context.shownSuperclass decl)
    ++ context.typesAfter (if decl.isInterface then "extends" else "implements") decl.interfaces

/-- The declaration of a member without its annotations. -/
def memberDeclaration (context : PageContext) (member : Member) : String :=
  let type := member.type.elim "" context.codeName
  let modifiers := Modifier.keywords member.modifiers
  match member.kind with
  | .enumConstant => member.name
  | .field | .property =>
    joinWords [modifiers, type, member.name]
      ++ member.constantValue.elim "" fun value => " = " ++ value
  | .annotationElement =>
    joinWords [type, member.name ++ "()"]
      ++ member.defaultValue.elim "" fun value =>
        " default " ++ (AnnotationWriter.plain context.graph).valueText value
  | .method | .constructor =>
    joinWords [modifiers, context.typeParameterList .code member.typeParameters, type,
        member.name ++ "(" ++ context.parameterList .code member ++ ")"]
      ++ context.typesAfter "throws" member.throws

/-- The declaration of a member. -/
def memberSignature (context : PageContext) (member : Member) : String :=
  context.codeAnnotations member.annotations ++ context.memberDeclaration member

end PageContext
end RefDocs
