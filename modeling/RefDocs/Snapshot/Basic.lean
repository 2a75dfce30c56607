import RefDocs.Snapshot.Doc
import RefDocs.Snapshot.TypeRef

/-!
# Declarations

A snapshot holds the declarations of a program: packages, types with their members, and what is
known of annotation types that are declared elsewhere.
-/

namespace RefDocs

/-- A modifier of a declaration. -/
inductive Modifier where
  | isPublic | isProtected | isPrivate | isStatic | isAbstract | isFinal | isDefault | isSealed
  | isSynchronized | isNative | isTransient | isVolatile
  deriving DecidableEq, Repr

namespace Modifier

/-- The modifiers in order of definition. -/
def all : List Modifier :=
  [.isPublic, .isProtected, .isPrivate, .isStatic, .isAbstract, .isFinal, .isDefault, .isSealed,
    .isSynchronized, .isNative, .isTransient, .isVolatile]

/-- The keyword of a modifier. -/
def keyword : Modifier → String
  | .isPublic => "public"
  | .isProtected => "protected"
  | .isPrivate => "private"
  | .isStatic => "static"
  | .isAbstract => "abstract"
  | .isFinal => "final"
  | .isDefault => "default"
  | .isSealed => "sealed"
  | .isSynchronized => "synchronized"
  | .isNative => "native"
  | .isTransient => "transient"
  | .isVolatile => "volatile"

/-- The keywords of a list of modifiers, with blanks between them. -/
def keywords (modifiers : List Modifier) : String :=
  Text.join " " (modifiers.map keyword)

end Modifier

/-- The kinds of type. -/
inductive TypeKind where
  | classType | interfaceType | enumType | recordType | annotationType
  deriving DecidableEq, Repr

namespace TypeKind

/-- The type kinds in order of definition. -/
def all : List TypeKind :=
  [.classType, .interfaceType, .enumType, .recordType, .annotationType]

/-- The name of a kind in a snapshot. -/
def word : TypeKind → String
  | .classType => "class"
  | .interfaceType => "interface"
  | .enumType => "enum"
  | .recordType => "record"
  | .annotationType => "annotation"

/-- The heading label of a kind. -/
def label : TypeKind → String
  | .classType => "Class"
  | .interfaceType => "Interface"
  | .enumType => "Enum"
  | .recordType => "Record Class"
  | .annotationType => "Annotation Interface"

/-- The keyword of a kind in a declaration. -/
def keyword : TypeKind → String
  | .classType => "class"
  | .interfaceType => "interface"
  | .enumType => "enum"
  | .recordType => "record"
  | .annotationType => "@interface"

end TypeKind

/-- The kinds of member. -/
inductive MemberKind where
  | field | method | constructor | enumConstant | annotationElement | property
  deriving DecidableEq, Repr

namespace MemberKind

/-- The member kinds in order of definition. -/
def all : List MemberKind :=
  [.field, .method, .constructor, .enumConstant, .annotationElement, .property]

/-- The name of a kind in a snapshot. -/
def word : MemberKind → String
  | .field => "field"
  | .method => "method"
  | .constructor => "constructor"
  | .enumConstant => "enum_constant"
  | .annotationElement => "annotation_element"
  | .property => "property"

end MemberKind

/-- A deprecation mark. -/
structure Deprecation where
  /-- The declaration is going to be removed. -/
  forRemoval : Bool := false
  /-- The reason. -/
  doc : List DocNode := []

/-- A type parameter of a declaration. -/
structure TypeParameter where
  /-- The name of the variable. -/
  name : String
  /-- The bounds in written order. -/
  bounds : List TypeRef := []
  /-- The annotations on the parameter. -/
  annotations : List AnnotationUse := []

/-- The type variable that a parameter introduces. -/
def TypeParameter.variableOf (parameter : TypeParameter) : TypeRef :=
  .typeVariable parameter.name parameter.bounds parameter.annotations

/-- A parameter of a method or constructor. -/
structure Parameter where
  /-- The name of the parameter. -/
  name : String
  /-- Its type. -/
  type : TypeRef
  /-- The annotations on the parameter. -/
  annotations : List AnnotationUse := []
  /-- The parameter takes any number of values. -/
  varargs : Bool := false

/-- A member of a type; fields that do not apply to its kind stay empty. -/
structure Member where
  /-- What the member is. -/
  kind : MemberKind
  /-- The simple name. -/
  name : String
  /-- The modifiers in written order. -/
  modifiers : List Modifier := []
  /-- The type of a field, or what a method returns. -/
  type : Option TypeRef := none
  /-- The parameters in order. -/
  parameters : List Parameter := []
  /-- The type parameters in order. -/
  typeParameters : List TypeParameter := []
  /-- The declared exceptions. -/
  throws : List TypeRef := []
  /-- The default of an annotation element, which is optional exactly if it has one. -/
  defaultValue : Option AnnotationValue := none
  /-- The value of a constant in written form. -/
  constantValue : Option String := none
  /-- The annotations on the member. -/
  annotations : List AnnotationUse := []
  /-- The deprecation mark, if there is one. -/
  deprecated : Option Deprecation := none
  /-- The documentation comment. -/
  doc : List DocNode := []

/-- What a type is declared in. -/
inductive Enclosing where
  | package (name : String)
  | type (name : String)
  deriving DecidableEq, Repr

/-- A package declaration. -/
structure PackageDecl where
  /-- The dotted name. -/
  name : String
  /-- The package belongs to the documented set. -/
  included : Bool := true
  /-- The annotations on the package. -/
  annotations : List AnnotationUse := []
  /-- The documentation comment. -/
  doc : List DocNode := []

/-- A type declaration. -/
structure TypeDecl where
  /-- The dotted name, with a segment for each package and each enclosing type. -/
  qualifiedName : String
  /-- The name in the enclosing declaration. -/
  simpleName : String
  /-- What the type is. -/
  kind : TypeKind
  /-- The package or type that it is declared in. -/
  enclosing : Enclosing
  /-- The superclass, if one is declared. -/
  superclass : Option TypeRef := none
  /-- The direct superinterfaces. -/
  interfaces : List TypeRef := []
  /-- The type parameters in order. -/
  typeParameters : List TypeParameter := []
  /-- The annotations on the type. -/
  annotations : List AnnotationUse := []
  /-- The members in order of declaration. -/
  members : List Member := []
  /-- The modifiers in written order. -/
  modifiers : List Modifier := []
  /-- The deprecation mark, if there is one. -/
  deprecated : Option Deprecation := none
  /-- The documentation comment. -/
  doc : List DocNode := []
  /-- The type belongs to the documented set. -/
  included : Bool := true
  /-- The documentation asks to hide the type. -/
  hidden : Bool := false
  /-- Occurrences of the annotation type are shown. -/
  documented : Bool := false
  /-- The interface is marked as functional. -/
  functional : Bool := false

namespace TypeDecl

/-- The name of the type that the declaration is nested in, if it is. -/
def enclosingType? (decl : TypeDecl) : Option String :=
  match decl.enclosing with
  | .type name => some name
  | .package _ => none

/-- Interfaces and annotation types. -/
def isInterface (decl : TypeDecl) : Bool :=
  decl.kind = .interfaceType || decl.kind = .annotationType

/-- The declared type applied to its own type parameters. -/
def selfType (decl : TypeDecl) : TypeRef :=
  .declared decl.qualifiedName (decl.typeParameters.map TypeParameter.variableOf) none []

end TypeDecl

/-- What is known of an annotation type declared elsewhere. -/
structure ExternalAnnotation where
  /-- The qualified name. -/
  name : String
  /-- Occurrences of the annotation type are shown. -/
  documented : Bool := false
  deriving DecidableEq, Repr

/-- The declarations of a program. -/
structure Snapshot where
  /-- The packages. -/
  packages : List PackageDecl := []
  /-- The types. -/
  types : List TypeDecl := []
  /-- What is known of annotation types declared elsewhere. -/
  annotationTypes : List ExternalAnnotation := []

end RefDocs
