import RefDocs.Snapshot.TypeRef

/-!
# Erased type names

The name of a type without arguments, bounds and annotations.
-/

namespace RefDocs
namespace TypeRef

/-- The erased name of a type, with a given spelling of the names of declared types. -/
def erasedWith (spell : String → String) : TypeRef → String
  | .declared name .. => spell name
  | .typeVariable name .. | .primitive name _ => name
  | .wildcard .. => "?"
  | .array component _ => component.erasedWith spell ++ "[]"
  | .void => "void"

/-- The erased name of a type, with qualified names. -/
def erasedName (type : TypeRef) : String :=
  type.erasedWith id

/-- The erased name of a type, with simple names. -/
def erasedSimpleName (type : TypeRef) : String :=
  type.erasedWith simpleName

end TypeRef
end RefDocs
