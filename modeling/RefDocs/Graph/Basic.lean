import RefDocs.Snapshot.Basic

/-!
# The declaration graph

The checked declarations of a run, packages and types each in name order.  A declaration that
belongs to the documented set is known; the others are kept for what refers to them.
-/

namespace RefDocs

/-- The root of the class hierarchy unless the settings name another. -/
def defaultRootType : String := "java.lang.Object"

/-- The declaration of a name. -/
def findType? (types : List TypeDecl) (name : String) : Option TypeDecl :=
  types.find? fun decl => decl.qualifiedName == name

/-- The checked declarations of a run. -/
structure Graph where
  /-- The type that bounds everything, which is left out as a bound. -/
  rootType : String
  /-- The packages in name order. -/
  packages : List PackageDecl
  /-- The types in name order. -/
  types : List TypeDecl
  /-- The annotation types declared elsewhere whose occurrences are shown. -/
  shownElsewhere : List String

namespace Graph

/-- The declaration of a package. -/
def package? (graph : Graph) (name : String) : Option PackageDecl :=
  graph.packages.find? fun decl => decl.name == name

/-- The declaration of a type. -/
def type? (graph : Graph) (name : String) : Option TypeDecl :=
  findType? graph.types name

/-- The known packages in name order. -/
def knownPackages (graph : Graph) : List PackageDecl :=
  graph.packages.filter PackageDecl.included

/-- The known types in name order. -/
def knownTypes (graph : Graph) : List TypeDecl :=
  graph.types.filter TypeDecl.included

/-- The name of a known package. -/
def knowsPackage (graph : Graph) (name : String) : Bool :=
  (graph.package? name).any PackageDecl.included

/-- The name of a known type. -/
def knowsType (graph : Graph) (name : String) : Bool :=
  (graph.type? name).any TypeDecl.included

/-- A type that can be shown to readers.  One that is not declared is taken to be public. -/
def isVisible (graph : Graph) (name : String) : Bool :=
  (graph.type? name).all fun decl =>
    !decl.hidden && (decl.included || decl.modifiers.contains .isPublic)

/-- An annotation type whose occurrences are shown. -/
def showsAnnotation (graph : Graph) (name : String) : Bool :=
  (graph.types.any fun decl =>
    decl.kind = .annotationType && decl.documented && decl.qualifiedName == name)
    || graph.shownElsewhere.contains name

end Graph

end RefDocs
