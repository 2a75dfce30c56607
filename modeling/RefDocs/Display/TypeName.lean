import RefDocs.Display.AnnotationText
import RefDocs.Graph.Relations

/-!
# Type names

The text of a type reference in one of four modes.  The documentation form has annotations, type
arguments, bounds and generic enclosing types; its brackets are escaped for running text and bare
in code.
-/

namespace RefDocs

/-- How a type reference is spelled. -/
inductive NameMode where
  /-- The qualified name alone. -/
  | qualified
  /-- The simple name alone. -/
  | simple
  /-- The documentation form behind the name of the package. -/
  | packageQualified
  /-- The simple name with annotations, arguments, bounds and enclosing types. -/
  | documentation
  deriving DecidableEq, Repr

/-- The opening and closing bracket around type arguments. -/
structure Brackets where
  /-- In front of the arguments. -/
  opening : String
  /-- Behind the arguments. -/
  closing : String
  deriving DecidableEq, Repr

/-- Brackets that running text does not take for markup. -/
def Brackets.escaped : Brackets := ⟨"\\<", "\\>"⟩

/-- Brackets in code. -/
def Brackets.plain : Brackets := ⟨"<", ">"⟩

/-- A segment of a dotted name that starts with an upper-case letter, as names of types do. -/
def startsUpper (segment : String) : Bool :=
  segment.toList.head?.any Char.isUpper

/-- The number of bytes of the segments of a dotted name in front of the first that starts with an
upper-case letter, with a point behind each.  Without such a segment this counts a point that the
name does not have. -/
def leadingBytes : List String → Nat
  | [] => 0
  | segment :: rest =>
    if startsUpper segment then 0 else segment.utf8ByteSize + 1 + leadingBytes rest

namespace Graph

/-- Where the package part of a qualified type name ends, in bytes, if the name has one: behind the
owner of a declared type, and in other names in front of the point before the first segment that
starts with an upper-case letter. -/
def packageEnd? (graph : Graph) (name : String) : Option Nat :=
  match graph.type? name with
  | some decl =>
    let owner := graph.ownerName decl
    match Text.dropStart? owner name with
    | some rest => if rest.toList.head? = some '.' then some owner.utf8ByteSize else none
    | none => none
  | none =>
    let bytes := leadingBytes (Text.split '.' name)
    if 1 < bytes && bytes ≤ name.utf8ByteSize then some (bytes - 1) else none

/-- The package part of a qualified type name, if the name has one. -/
def packagePart? (graph : Graph) (name : String) : Option String :=
  (graph.packageEnd? name).bind fun bytes => Text.slice? bytes name

/-- Bounds that are implied: the root type alone, without annotations. -/
def isImpliedBound (graph : Graph) : List TypeRef → Bool
  | [.declared name _ _ []] => name == graph.rootType
  | _ => false

/-- The shown annotations in front of a name, with a blank behind them. -/
def leadingAnnotations (graph : Graph) (uses : List AnnotationUse) : String :=
  let text := (AnnotationWriter.plain graph).inline uses
  if text.isEmpty then "" else text ++ " "

mutual

/-- The documentation form of a type. -/
def documentationName (graph : Graph) (brackets : Brackets) : TypeRef → String
  | .declared name arguments enclosing annotations =>
    graph.enclosingPart brackets enclosing ++ graph.leadingAnnotations annotations
      ++ simpleName name
      ++ (if arguments.isEmpty then ""
        else brackets.opening ++ Text.join "," (graph.documentationNames brackets arguments)
          ++ brackets.closing)
  | .typeVariable name bounds annotations =>
    graph.leadingAnnotations annotations ++ name
      ++ (if bounds.isEmpty || graph.isImpliedBound bounds then ""
        else " extends " ++ Text.join " & " (graph.documentationNames brackets bounds))
  | .wildcard upper lower annotations =>
    graph.leadingAnnotations annotations ++ "?" ++ graph.boundPart brackets " extends " upper
      ++ graph.boundPart brackets " super " lower
  | .primitive name annotations => graph.leadingAnnotations annotations ++ name
  | .array component annotations =>
    let shown := graph.leadingAnnotations annotations
    graph.documentationName brackets component ++ (if shown.isEmpty then "" else " " ++ shown)
      ++ "[]"
  | .void => "void"
termination_by structural type => type

/-- The documentation forms of the types of a list. -/
def documentationNames (graph : Graph) (brackets : Brackets) : List TypeRef → List String
  | [] => []
  | type :: rest =>
    graph.documentationName brackets type :: graph.documentationNames brackets rest
termination_by structural types => types

/-- The enclosing type in front of a nested one, where it is generic. -/
def enclosingPart (graph : Graph) (brackets : Brackets) : Option TypeRef → String
  | some outer => if outer.isGeneric then graph.documentationName brackets outer ++ "." else ""
  | none => ""
termination_by structural enclosing => enclosing

/-- The bound of a wildcard behind its keyword. -/
def boundPart (graph : Graph) (brackets : Brackets) (keyword : String) :
    Option TypeRef → String
  | some bound => keyword ++ graph.documentationName brackets bound
  | none => ""
termination_by structural bound => bound

end

/-- The text of a type reference. -/
def typeName (graph : Graph) (mode : NameMode) (brackets : Brackets) (type : TypeRef) : String :=
  match mode with
  | .qualified => type.erasedName
  | .simple => type.erasedSimpleName
  | .documentation => graph.documentationName brackets type
  | .packageQualified =>
    (match type.declaredName?.bind graph.packagePart? with
      | some package => package ++ "."
      | none => "") ++ graph.documentationName brackets type

end Graph
end RefDocs
