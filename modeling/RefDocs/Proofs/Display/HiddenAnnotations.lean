import Mathlib.Data.List.Basic
import RefDocs.Display.TypeName

/-!
# Hidden annotations

Annotations of undocumented types are hidden, unless they only hold annotations that are shown.
Without them a type reference has the same name, at whatever depth they stand, as long as they are
not what keeps the root type as a bound.
-/

namespace RefDocs

/-! ## What is left of a type reference -/

mutual

/-- A type reference of whose annotations, at any depth, only those to keep are left. -/
def TypeRef.keeping (keep : AnnotationUse → Bool) : TypeRef → TypeRef
  | .declared name arguments enclosing annotations =>
    .declared name (typesKeeping keep arguments) (boundKeeping keep enclosing)
      (usesKeeping keep annotations)
  | .typeVariable name bounds annotations =>
    .typeVariable name (typesKeeping keep bounds) (usesKeeping keep annotations)
  | .wildcard upper lower annotations =>
    .wildcard (boundKeeping keep upper) (boundKeeping keep lower) (usesKeeping keep annotations)
  | .primitive name annotations => .primitive name (usesKeeping keep annotations)
  | .array component annotations =>
    .array (component.keeping keep) (usesKeeping keep annotations)
  | .void => .void
termination_by structural type => type

/-- What is left of the types of a list. -/
def typesKeeping (keep : AnnotationUse → Bool) : List TypeRef → List TypeRef
  | [] => []
  | type :: rest => type.keeping keep :: typesKeeping keep rest
termination_by structural types => types

/-- What is left of a type, if there is one. -/
def boundKeeping (keep : AnnotationUse → Bool) : Option TypeRef → Option TypeRef
  | some type => some (type.keeping keep)
  | none => none
termination_by structural bound => bound

/-- The annotations of a list that are kept, and what is left of them. -/
def usesKeeping (keep : AnnotationUse → Bool) : List AnnotationUse → List AnnotationUse
  | [] => []
  | use :: rest =>
    if keep use then use.keeping keep :: usesKeeping keep rest else usesKeeping keep rest
termination_by structural uses => uses

/-- What is left of an annotation, in whose values types may be named. -/
def AnnotationUse.keeping (keep : AnnotationUse → Bool) : AnnotationUse → AnnotationUse
  | ⟨typeName, elements, mandated⟩ => ⟨typeName, elementsKeeping keep elements, mandated⟩
termination_by structural use => use

/-- What is left of the elements of a list. -/
def elementsKeeping (keep : AnnotationUse → Bool) :
    List AnnotationElement → List AnnotationElement
  | [] => []
  | ⟨name, value⟩ :: rest => ⟨name, value.keeping keep⟩ :: elementsKeeping keep rest
termination_by structural elements => elements

/-- What is left of the value of an element. -/
def AnnotationValue.keeping (keep : AnnotationUse → Bool) : AnnotationValue → AnnotationValue
  | .literal text => .literal text
  | .type type => .type (type.keeping keep)
  | .enumConstant typeName constant => .enumConstant typeName constant
  | .nested use => .nested (use.keeping keep)
  | .array values => .array (valuesKeeping keep values)
termination_by structural value => value

/-- What is left of the values of a list. -/
def valuesKeeping (keep : AnnotationUse → Bool) : List AnnotationValue → List AnnotationValue
  | [] => []
  | value :: rest => value.keeping keep :: valuesKeeping keep rest
termination_by structural values => values

end

variable {keep : AnnotationUse → Bool}

theorem usesKeeping_eq (uses : List AnnotationUse) :
    usesKeeping keep uses = (uses.filter keep).map (AnnotationUse.keeping keep) := by
  induction uses with
  | nil => rfl
  | cons use rest ih =>
      rw [usesKeeping, ih]
      by_cases kept : keep use = true
      · rw [if_pos kept, List.filter_cons_of_pos kept, List.map_cons]
      · rw [if_neg kept, List.filter_cons_of_neg kept]

theorem elementsKeeping_eq_map (elements : List AnnotationElement) :
    elementsKeeping keep elements =
      elements.map fun element => ⟨element.name, element.value.keeping keep⟩ := by
  induction elements with
  | nil => rfl
  | cons element rest ih =>
      obtain ⟨name, value⟩ := element
      rw [elementsKeeping, ih, List.map_cons]

theorem AnnotationUse.typeName_keeping (use : AnnotationUse) :
    (use.keeping keep).typeName = use.typeName := by
  cases use
  rfl

theorem AnnotationUse.mandated_keeping (use : AnnotationUse) :
    (use.keeping keep).mandated = use.mandated := by
  cases use
  rfl

theorem AnnotationUse.elements_keeping (use : AnnotationUse) :
    (use.keeping keep).elements = elementsKeeping keep use.elements := by
  cases use
  rfl

theorem isEmpty_typesKeeping (types : List TypeRef) :
    (typesKeeping keep types).isEmpty = types.isEmpty := by
  cases types <;> rfl

namespace TypeRef

theorem erasedWith_keeping (spell : String → String) :
    (type : TypeRef) → (type.keeping keep).erasedWith spell = type.erasedWith spell
  | .array component _ => by
      rw [keeping, erasedWith, erasedWith, erasedWith_keeping spell component]
  | .declared _ _ _ _ | .typeVariable _ _ _ | .wildcard _ _ _ | .primitive _ _ | .void => rfl

theorem declaredName?_keeping : (type : TypeRef) →
    (type.keeping keep).declaredName? = type.declaredName?
  | .array component _ => declaredName?_keeping component
  | .declared _ _ _ _ | .typeVariable _ _ _ | .wildcard _ _ _ | .primitive _ _ | .void => rfl

theorem isGeneric_keeping : (type : TypeRef) → (type.keeping keep).isGeneric = type.isGeneric
  | .declared _ [] (some enclosing) _ => isGeneric_keeping enclosing
  | .declared _ [] none _ | .declared _ (_ :: _) _ _ => rfl
  | .array _ _ | .typeVariable _ _ _ | .wildcard _ _ _ | .primitive _ _ | .void => rfl

end TypeRef

/-! ## Annotations -/

namespace AnnotationWriter

variable (writer : AnnotationWriter)

mutual

theorem flatTexts_keeping : (value : AnnotationValue) →
    writer.flatTexts (value.keeping keep) = writer.flatTexts value
  | .literal _ | .enumConstant _ _ => rfl
  | .type type => by
      rw [AnnotationValue.keeping, flatTexts, flatTexts, TypeRef.erasedName,
        type.erasedWith_keeping, TypeRef.erasedName]
  | .nested use => by
      rw [AnnotationValue.keeping, flatTexts, flatTexts, invocation_keeping use]
  | .array values => by
      rw [AnnotationValue.keeping, flatTexts, flatTexts, valueTexts_keeping values]
termination_by structural value => value

theorem valueTexts_keeping : (values : List AnnotationValue) →
    writer.valueTexts (valuesKeeping keep values) = writer.valueTexts values
  | [] => rfl
  | value :: rest => by
      rw [valuesKeeping, valueTexts, valueTexts, flatTexts_keeping value, valueTexts_keeping rest]
termination_by structural values => values

theorem elementTexts_keeping (keyed : Bool) : (elements : List AnnotationElement) →
    writer.elementTexts keyed (elementsKeeping keep elements) = writer.elementTexts keyed elements
  | [] => rfl
  | ⟨name, value⟩ :: rest => by
      rw [elementsKeeping, elementTexts, elementTexts, flatTexts_keeping value,
        elementTexts_keeping keyed rest]
termination_by structural elements => elements

theorem invocation_keeping {lineBreak : Bool} : (use : AnnotationUse) →
    writer.invocation lineBreak (use.keeping keep) = writer.invocation lineBreak use
  | ⟨typeName, elements, _⟩ => by
      have texts_eq := fun keyed => elementTexts_keeping keyed elements
      rw [AnnotationUse.keeping, invocation, invocation, texts_eq, elementsKeeping_eq_map,
        List.isEmpty_map, List.length_map]
termination_by structural use => use

end

theorem showsItems?_keeping (value : AnnotationValue) :
    writer.showsItems? (value.keeping keep) = writer.showsItems? value := by
  match value with
  | .array (.nested first :: _ :: _) =>
      have name_eq : (first.keeping keep).typeName = first.typeName := first.typeName_keeping
      exact congrArg (fun name => some (writer.shows name)) name_eq
  | .array [.nested _] | .array (.literal _ :: _) | .array (.type _ :: _)
  | .array (.enumConstant _ _ :: _) | .array (.array _ :: _) | .array [] => rfl
  | .literal _ | .type _ | .enumConstant _ _ | .nested _ => rfl

theorem showsContents?_keeping (use : AnnotationUse) :
    writer.showsContents? (use.keeping keep) = writer.showsContents? use := by
  rw [showsContents?, showsContents?, use.elements_keeping, elementsKeeping_eq_map,
    List.findSome?_map]
  refine congrArg (use.elements.findSome? ·) (funext fun element => ?_)
  exact writer.showsItems?_keeping element.value

theorem isShown_keeping (use : AnnotationUse) :
    writer.isShown (use.keeping keep) = writer.isShown use := by
  rw [isShown, isShown, use.typeName_keeping, writer.showsContents?_keeping]

theorem occurrence_keeping (lineBreak : Bool) (use : AnnotationUse) :
    writer.occurrence lineBreak (use.keeping keep) = writer.occurrence lineBreak use := by
  have values_eq : (elementsKeeping keep use.elements).flatMap
      (fun element => writer.flatTexts element.value) =
      use.elements.flatMap fun element => writer.flatTexts element.value := by
    rw [elementsKeeping_eq_map, List.flatMap_map]
    exact List.flatMap_congr fun element _ => writer.flatTexts_keeping element.value
  rw [occurrence, occurrence, use.mandated_keeping, use.elements_keeping, values_eq,
    writer.showsContents?_keeping, writer.invocation_keeping, writer.invocation_keeping]
  split
  · rfl
  · cases writer.showsContents? use with
    | none => rfl
    | some documented =>
        cases documented with
        | false => rfl
        | true =>
            generalize use.elements = elements
            match elements with
            | [⟨_, value⟩] => exact congrArg (Text.join " ") (writer.flatTexts_keeping value)
            | [] | ⟨_, _⟩ :: ⟨_, _⟩ :: _ => rfl

/-- Hidden annotations leave nothing between those that are shown. -/
theorem inline_keeping (uses : List AnnotationUse) :
    writer.inline (usesKeeping writer.isShown uses) = writer.inline uses := by
  have shown_eq : (usesKeeping writer.isShown uses).filter writer.isShown =
      (uses.filter writer.isShown).map (AnnotationUse.keeping writer.isShown) := by
    rw [usesKeeping_eq, List.filter_eq_self]
    intro use use_mem
    obtain ⟨kept, kept_mem, rfl⟩ := List.mem_map.mp use_mem
    rw [isShown_keeping]
    exact List.of_mem_filter kept_mem
  have texts_eq : writer.occurrence false ∘ AnnotationUse.keeping writer.isShown =
      writer.occurrence false :=
    funext fun use => writer.occurrence_keeping false use
  rw [inline, inline, shown_eq, List.map_map, texts_eq]

end AnnotationWriter

/-! ## Type names -/

namespace Graph

/-- Bounds that are the root type alone, with annotations of which none is shown.  Only because of
them the root type is not implied. -/
def areVeiledBounds (graph : Graph) : List TypeRef → Bool
  | [.declared name _ _ (first :: rest)] =>
    name == graph.rootType &&
      (first :: rest).all fun use => !(AnnotationWriter.plain graph).isShown use
  | _ => false

mutual

/-- Some type variable in a type reference has veiled bounds. -/
def hasVeiledBounds (graph : Graph) : TypeRef → Bool
  | .declared _ arguments enclosing _ =>
    graph.anyVeiledBounds arguments || graph.optionalVeiledBounds enclosing
  | .typeVariable _ bounds _ => graph.areVeiledBounds bounds || graph.anyVeiledBounds bounds
  | .wildcard upper lower _ => graph.optionalVeiledBounds upper || graph.optionalVeiledBounds lower
  | .array component _ => graph.hasVeiledBounds component
  | .primitive .. | .void => false
termination_by structural type => type

/-- Some type variable in the types of a list has veiled bounds. -/
def anyVeiledBounds (graph : Graph) : List TypeRef → Bool
  | [] => false
  | type :: rest => graph.hasVeiledBounds type || graph.anyVeiledBounds rest
termination_by structural types => types

/-- Some type variable in a type has veiled bounds, if there is a type. -/
def optionalVeiledBounds (graph : Graph) : Option TypeRef → Bool
  | some type => graph.hasVeiledBounds type
  | none => false
termination_by structural bound => bound

end

/-- What is left of a type reference without its hidden annotations. -/
def unhidden (graph : Graph) (type : TypeRef) : TypeRef :=
  type.keeping (AnnotationWriter.plain graph).isShown

variable (graph : Graph)

theorem leadingAnnotations_keeping (uses : List AnnotationUse) :
    graph.leadingAnnotations (usesKeeping (AnnotationWriter.plain graph).isShown uses) =
      graph.leadingAnnotations uses := by
  rw [leadingAnnotations, leadingAnnotations, AnnotationWriter.inline_keeping]

theorem isImpliedBound_keeping {bounds : List TypeRef}
    (not_veiled : graph.areVeiledBounds bounds = false) :
    graph.isImpliedBound (typesKeeping (AnnotationWriter.plain graph).isShown bounds) =
      graph.isImpliedBound bounds := by
  match bounds with
  | [.declared name arguments enclosing (first :: rest)] =>
      rw [typesKeeping, typesKeeping, TypeRef.keeping]
      cases kept : usesKeeping (AnnotationWriter.plain graph).isShown (first :: rest) with
      | cons use others => rfl
      | nil =>
          -- Of the annotations none is kept, so the name is not that of the root type.
          rw [usesKeeping_eq, List.map_eq_nil_iff, List.filter_eq_nil_iff] at kept
          have hidden : (first :: rest).all (fun use =>
              !(AnnotationWriter.plain graph).isShown use) = true := by
            simpa only [List.all_eq_true, Bool.not_eq_true'] using
              fun use use_mem => Bool.eq_false_iff.mpr (kept use use_mem)
          rw [areVeiledBounds, hidden, Bool.and_true] at not_veiled
          exact not_veiled
  | [.declared _ _ _ []] => rfl
  | [.typeVariable _ _ _] | [.wildcard _ _ _] | [.primitive _ _] | [.array _ _] | [.void] => rfl
  | _ :: _ :: _ => simp [typesKeeping, isImpliedBound]
  | [] => rfl

mutual

theorem documentationName_keeping (brackets : Brackets) : (type : TypeRef) →
    graph.hasVeiledBounds type = false →
    graph.documentationName brackets (type.keeping (AnnotationWriter.plain graph).isShown) =
      graph.documentationName brackets type
  | .declared name arguments enclosing annotations, unveiled => by
      rw [hasVeiledBounds, Bool.or_eq_false_iff] at unveiled
      rw [TypeRef.keeping, documentationName, documentationName, leadingAnnotations_keeping,
        enclosingPart_keeping brackets enclosing unveiled.2,
        documentationNames_keeping brackets arguments unveiled.1, isEmpty_typesKeeping]
  | .typeVariable name bounds annotations, unveiled => by
      rw [hasVeiledBounds, Bool.or_eq_false_iff] at unveiled
      rw [TypeRef.keeping, documentationName, documentationName, leadingAnnotations_keeping,
        graph.isImpliedBound_keeping unveiled.1, isEmpty_typesKeeping,
        documentationNames_keeping brackets bounds unveiled.2]
  | .wildcard upper lower annotations, unveiled => by
      rw [hasVeiledBounds, Bool.or_eq_false_iff] at unveiled
      rw [TypeRef.keeping, documentationName, documentationName, leadingAnnotations_keeping,
        boundPart_keeping brackets " extends " upper unveiled.1,
        boundPart_keeping brackets " super " lower unveiled.2]
  | .primitive name annotations, _ => by
      rw [TypeRef.keeping, documentationName, documentationName, leadingAnnotations_keeping]
  | .array component annotations, unveiled => by
      rw [hasVeiledBounds] at unveiled
      rw [TypeRef.keeping, documentationName, documentationName, leadingAnnotations_keeping,
        documentationName_keeping brackets component unveiled]
  | .void, _ => rfl
termination_by structural type => type

theorem documentationNames_keeping (brackets : Brackets) : (types : List TypeRef) →
    graph.anyVeiledBounds types = false →
    graph.documentationNames brackets
        (typesKeeping (AnnotationWriter.plain graph).isShown types) =
      graph.documentationNames brackets types
  | [], _ => rfl
  | type :: rest, unveiled => by
      rw [anyVeiledBounds, Bool.or_eq_false_iff] at unveiled
      rw [typesKeeping, documentationNames, documentationNames,
        documentationName_keeping brackets type unveiled.1,
        documentationNames_keeping brackets rest unveiled.2]
termination_by structural types => types

theorem enclosingPart_keeping (brackets : Brackets) : (enclosing : Option TypeRef) →
    graph.optionalVeiledBounds enclosing = false →
    graph.enclosingPart brackets
        (boundKeeping (AnnotationWriter.plain graph).isShown enclosing) =
      graph.enclosingPart brackets enclosing
  | some outer, unveiled => by
      rw [optionalVeiledBounds] at unveiled
      rw [boundKeeping, enclosingPart, enclosingPart, outer.isGeneric_keeping,
        documentationName_keeping brackets outer unveiled]
  | none, _ => rfl
termination_by structural enclosing => enclosing

theorem boundPart_keeping (brackets : Brackets) (keyword : String) : (bound : Option TypeRef) →
    graph.optionalVeiledBounds bound = false →
    graph.boundPart brackets keyword
        (boundKeeping (AnnotationWriter.plain graph).isShown bound) =
      graph.boundPart brackets keyword bound
  | some bound, unveiled => by
      rw [optionalVeiledBounds] at unveiled
      rw [boundKeeping, boundPart, boundPart, documentationName_keeping brackets bound unveiled]
  | none, _ => rfl
termination_by structural bound => bound

end

/-- Where no type variable has the root type alone as its bound, with hidden annotations only, a
type reference has the same name without its hidden annotations, in every mode. -/
theorem typeName_unhidden (mode : NameMode) (brackets : Brackets) {type : TypeRef}
    (unveiled : graph.hasVeiledBounds type = false) :
    graph.typeName mode brackets (graph.unhidden type) = graph.typeName mode brackets type := by
  have in_full := graph.documentationName_keeping brackets type unveiled
  rw [unhidden]
  cases mode with
  | qualified => exact type.erasedWith_keeping id
  | simple => exact type.erasedWith_keeping simpleName
  | documentation => exact in_full
  | packageQualified => rw [typeName, typeName, in_full, type.declaredName?_keeping]

end Graph

/-- A graph without declarations that shows one annotation type. -/
def notingGraph : Graph :=
  ⟨defaultRootType, [], [], ["a.NonNull"]⟩

/-- A hidden annotation. -/
def internalUse : AnnotationUse :=
  ⟨"a.Internal", [], false⟩

/-- A shown annotation that names a type with a hidden one. -/
def nonNullUse : AnnotationUse :=
  ⟨"a.NonNull", [⟨"unless", .type (.primitive "int" [internalUse])⟩], false⟩

/-- A type variable whose bound has one hidden annotation and one that is shown. -/
def notedVariable : TypeRef :=
  .typeVariable "T" [.declared "java.lang.Object" [] none [internalUse, nonNullUse]] [internalUse]

theorem typeName_unhidden_notedVariable :
    notingGraph.hasVeiledBounds (.array notedVariable [internalUse]) = false ∧
      notingGraph.typeName .documentation .plain (.array notedVariable [internalUse]) =
        "T extends @NonNull(unless=int.class) Object[]" ∧
      (notingGraph.unhidden (.array notedVariable [internalUse])).annotations = [] ∧
      notingGraph.typeName .documentation .plain
          (notingGraph.unhidden (.array notedVariable [internalUse])) =
        notingGraph.typeName .documentation .plain (.array notedVariable [internalUse]) := by
  have unveiled : notingGraph.hasVeiledBounds (.array notedVariable [internalUse]) = false := by
    decide +kernel
  refine ⟨unveiled, by decide +kernel, rfl, ?_⟩
  exact notingGraph.typeName_unhidden .documentation .plain unveiled

-- A root type with a hidden annotation is shown as a bound, and without it the bound is implied.
example :
    notingGraph.typeName .documentation .plain
        (.typeVariable "T" [.declared "java.lang.Object" [] none [internalUse]] []) =
      "T extends Object" ∧
      notingGraph.typeName .documentation .plain (notingGraph.unhidden
        (.typeVariable "T" [.declared "java.lang.Object" [] none [internalUse]] [])) = "T" := by
  decide +kernel

end RefDocs
