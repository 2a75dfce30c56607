import RefDocs.Text.Split

/-!
# Type references and annotations

Uses of types as they stand in signatures, and the annotations on them.  The two are mutually
nested: a type use carries annotations, and an annotation's element may be a class literal.
-/

namespace RefDocs

mutual

/-- A use of a type. -/
inductive TypeRef where
  /-- A named class or interface, with the parameterized type that it is nested in. -/
  | declared (name : String) (arguments : List TypeRef) (enclosing : Option TypeRef)
      (annotations : List AnnotationUse)
  /-- A type variable with its bounds. -/
  | typeVariable (name : String) (bounds : List TypeRef) (annotations : List AnnotationUse)
  /-- A wildcard argument with its upper and lower bound. -/
  | wildcard (upper lower : Option TypeRef) (annotations : List AnnotationUse)
  /-- A primitive type. -/
  | primitive (name : String) (annotations : List AnnotationUse)
  /-- An array of a component type. -/
  | array (component : TypeRef) (annotations : List AnnotationUse)
  /-- No type. -/
  | void

/-- One occurrence of an annotation. -/
structure AnnotationUse where
  /-- Qualified name of the annotation type. -/
  typeName : String
  /-- The elements that are given a value, in written order. -/
  elements : List AnnotationElement
  /-- The occurrence is implied and not written. -/
  mandated : Bool

/-- An element of an annotation with its value. -/
structure AnnotationElement where
  /-- The name of the element. -/
  name : String
  /-- The value given to it. -/
  value : AnnotationValue

/-- The value of an annotation element. -/
inductive AnnotationValue where
  /-- A constant in written form. -/
  | literal (text : String)
  /-- A class literal. -/
  | type (type : TypeRef)
  /-- A constant of an enumeration. -/
  | enumConstant (typeName constant : String)
  /-- A nested annotation. -/
  | nested (use : AnnotationUse)
  /-- A list of values. -/
  | array (values : List AnnotationValue)

end

instance : Inhabited TypeRef :=
  ⟨.void⟩

instance : Inhabited AnnotationValue :=
  ⟨.literal ""⟩

/-- The last segment of a dotted name. -/
def simpleName (qualified : String) : String :=
  Text.afterLast '.' qualified

namespace TypeRef

/-- A plain reference to a declared type. -/
def named (name : String) : TypeRef :=
  .declared name [] none []

/-- The name of the declared type at the end of the array components, if there is one. -/
def declaredName? : TypeRef → Option String
  | .declared name .. => some name
  | .array component _ => component.declaredName?
  | _ => none

/-- The annotations on the use itself. -/
def annotations : TypeRef → List AnnotationUse
  | .declared _ _ _ annotations | .typeVariable _ _ annotations | .wildcard _ _ annotations
  | .primitive _ annotations | .array _ annotations => annotations
  | .void => []

/-- The use has annotations of its own. -/
def isAnnotated (type : TypeRef) : Bool :=
  !type.annotations.isEmpty

/-- The reference is a declared type with arguments, or one nested in such a type. -/
def isGeneric : TypeRef → Bool
  | .declared _ (_ :: _) _ _ => true
  | .declared _ [] (some enclosing) _ => enclosing.isGeneric
  | _ => false

end TypeRef

end RefDocs
