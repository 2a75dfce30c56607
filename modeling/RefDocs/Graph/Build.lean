import RefDocs.Graph.Relations
import RefDocs.Text.Order

/-!
# Building the graph

Declarations make a graph if names are unique, enclosing types and owning packages are declared,
and no class is above itself.  The checks are made in that order, with packages last; each reports
the first offence in name order.
-/

namespace RefDocs

/-- The first name on the way of repeated steps from a name that stands on the way before. -/
def revisited? (next : String → Option String) : Nat → List String → String → Option String
  | 0, _, _ => none
  | steps + 1, seen, name =>
    if seen.contains name then some name
    else
      match next name with
      | some following => revisited? next steps (name :: seen) following
      | none => none

namespace Graph

/-- The declared superclass of a declared type, by name. -/
def declaredSuperName? (types : List TypeDecl) (name : String) : Option String := do
  let decl ← findType? types name
  let superName ← decl.superName?
  let superType ← findType? types superName
  return superType.qualifiedName

/-- The first type, in name order, whose superclasses run into a cycle, as the type where the cycle
is entered. -/
def superclassCycle? (types : List TypeDecl) : Option String :=
  types.findSome? fun decl =>
    revisited? (declaredSuperName? types) (types.length + 1) [] decl.qualifiedName

/-- The first type that is enclosed in a type that is not declared, and the name of that. -/
def danglingEnclosing? (types : List TypeDecl) : Option (String × String) :=
  types.findSome? fun decl =>
    match decl.enclosingType? with
    | some outer =>
      if (findType? types outer).isNone then some (decl.qualifiedName, outer) else none
    | none => none

/-- The first type whose owning package is not declared, and the name of that. -/
def danglingPackage? (packages : List PackageDecl) (types : List TypeDecl) :
    Option (String × String) :=
  types.findSome? fun decl =>
    let owner := ownerOf types decl
    if packages.any fun package => package.name == owner then none
    else some (decl.qualifiedName, owner)

/-- The first reason to refuse declarations in name order. -/
def fault? (packages : List PackageDecl) (types : List TypeDecl) : Option GraphError :=
  ((firstRepeated? (packages.map PackageDecl.name)).map .duplicatePackage)
    <|> ((firstRepeated? (types.map TypeDecl.qualifiedName)).map .duplicateType)
    <|> ((danglingEnclosing? types).map fun (name, outer) => .missingEnclosingType name outer)
    <|> ((superclassCycle? types).map .supertypeCycle)
    <|> ((danglingPackage? packages types).map fun (name, owner) => .missingPackage name owner)

/-- The graph of a snapshot. -/
def build (snapshot : Snapshot) (rootType : String) : Except GraphError Graph :=
  let packages := sortByName PackageDecl.name snapshot.packages
  let types := sortByName TypeDecl.qualifiedName snapshot.types
  match fault? packages types with
  | some error => .error error
  | none =>
    .ok {
      rootType, packages, types
      shownElsewhere :=
        (snapshot.annotationTypes.filter ExternalAnnotation.documented).map (·.name) }

end Graph

end RefDocs
