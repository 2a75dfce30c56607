import RefDocs.Graph.Basic
import RefDocs.Graph.Error

/-!
# Relations between declarations

Owning packages, supertypes and subtypes, nested types, and the package tree.  Relations that
pages show hold only between known declarations.
-/

namespace RefDocs

/-- The name of the superclass of a type, through array components. -/
def TypeDecl.superName? (decl : TypeDecl) : Option String :=
  decl.superclass.bind TypeRef.declaredName?

/-- A type and the types around it, innermost first, as far as the number of steps allows. -/
def outward (types : List TypeDecl) : Nat → TypeDecl → List TypeDecl
  | 0, decl => [decl]
  | steps + 1, decl =>
    match decl.enclosingType?.bind (findType? types) with
    | some outer => decl :: outward types steps outer
    | none => [decl]

/-- The name of the package at the end of a type's enclosing chain; empty if it never ends. -/
def ownerOf (types : List TypeDecl) (decl : TypeDecl) : String :=
  match (outward types types.length decl).getLast?.map TypeDecl.enclosing with
  | some (.package name) => name
  | _ => ""

namespace Graph

/-- A type and the types around it, innermost first. -/
def enclosingChain (graph : Graph) (decl : TypeDecl) : List TypeDecl :=
  outward graph.types graph.types.length decl

/-- The name of the package that owns a type. -/
def ownerName (graph : Graph) (decl : TypeDecl) : String :=
  ownerOf graph.types decl

/-- The known superclass of a known type. -/
def directSuperType? (graph : Graph) (decl : TypeDecl) : Option TypeDecl :=
  if decl.included then
    (decl.superName?.bind graph.type?).filter TypeDecl.included
  else none

/-- The known types whose direct superclass has the given name. -/
def directSubtypes (graph : Graph) (name : String) : List TypeDecl :=
  graph.types.filter fun decl =>
    (graph.directSuperType? decl).any fun superType => superType.qualifiedName == name

/-- The known types that list the known type of the given name among their interfaces. -/
def directImplementors (graph : Graph) (name : String) : List TypeDecl :=
  graph.types.filter fun decl =>
    decl.included && graph.knowsType name
      && decl.interfaces.any fun interface => interface.declaredName? == some name

/-- The known types declared directly inside the type of the given name. -/
def nestedTypes (graph : Graph) (name : String) : List TypeDecl :=
  graph.types.filter fun decl => decl.included && decl.enclosingType? == some name

/-- The known types that the package of the given name owns, nested types included. -/
def typesInPackage (graph : Graph) (name : String) : List TypeDecl :=
  graph.types.filter fun decl => decl.included && graph.ownerName decl == name

/-- The known package whose name is that of a known package up to its last point. -/
def parentPackage? (graph : Graph) (decl : PackageDecl) : Option PackageDecl :=
  if decl.included then
    ((Text.beforeLast? '.' decl.name).bind graph.package?).filter PackageDecl.included
  else none

/-- The known packages whose parent has the given name. -/
def childPackages (graph : Graph) (name : String) : List PackageDecl :=
  graph.packages.filter fun decl =>
    (graph.parentPackage? decl).any fun parent => parent.name == name

/-- The visible superclasses on the way up from a superclass reference, nearest first.  A
superclass that is not declared ends the way. -/
def visibleSuperclasses (graph : Graph) :
    Nat → List String → Option TypeRef → Except GraphError (List TypeRef)
  | 0, _, _ | _, _, none => .ok []
  | steps + 1, seen, some reference =>
    match reference.declaredName? with
    | none => .ok []
    | some name =>
      match graph.type? name with
      | none => .ok [reference]
      | some decl =>
        if seen.contains name then .error (.supertypeCycle name)
        else do
          let others ← graph.visibleSuperclasses steps (name :: seen) decl.superclass
          return if graph.isVisible name then reference :: others else others

/-- The visible superclasses of a type, most general first. -/
def ancestors (graph : Graph) (decl : TypeDecl) : Except GraphError (List TypeRef) := do
  return (← graph.visibleSuperclasses (graph.types.length + 1) [] decl.superclass).reverse

end Graph

end RefDocs
