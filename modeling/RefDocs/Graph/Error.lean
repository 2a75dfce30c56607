/-!
# Graph errors

Why a set of declarations is no graph.
-/

namespace RefDocs

/-- Why declarations are refused. -/
inductive GraphError where
  /-- Two packages have one name. -/
  | duplicatePackage (name : String)
  /-- Two types have one qualified name. -/
  | duplicateType (name : String)
  /-- A type is enclosed in a type that is not declared. -/
  | missingEnclosingType (name enclosing : String)
  /-- The superclasses of a type lead back to it. -/
  | supertypeCycle (name : String)
  /-- A type is owned by a package that is not declared. -/
  | missingPackage (name package : String)
  deriving DecidableEq, Repr

/-- The text of a graph error. -/
def GraphError.message : GraphError → String
  | .duplicatePackage name => "Duplicate package declaration: " ++ name
  | .duplicateType name => "Duplicate type declaration: " ++ name
  | .missingEnclosingType name enclosing =>
    "Type " ++ name ++ " references undeclared enclosing type " ++ enclosing
  | .supertypeCycle name => "Supertype cycle detected at " ++ name
  | .missingPackage name package =>
    "Type " ++ name ++ " references undeclared package " ++ package

end RefDocs
