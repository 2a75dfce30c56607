import Mathlib.Data.List.Forall2
import RefDocs.Display.TypeName
import RefDocs.Proofs.Text.EscapedBrackets

/-!
# Spellings of types

The documentation form of a type is put together from the texts that are stored in it and a few
fixed marks.  So a relation between texts that holds of those and is kept when texts are put
together holds between the form with escaped brackets and the form with bare ones.
-/

namespace RefDocs

/-! ## Stored texts -/

mutual

/-- The texts that are stored in a type reference. -/
def TypeRef.texts : TypeRef → List String
  | .declared name arguments enclosing annotations =>
    name :: (typeTexts arguments ++ boundTexts enclosing ++ useTexts annotations)
  | .typeVariable name bounds annotations => name :: (typeTexts bounds ++ useTexts annotations)
  | .wildcard upper lower annotations =>
    boundTexts upper ++ boundTexts lower ++ useTexts annotations
  | .primitive name annotations => name :: useTexts annotations
  | .array component annotations => component.texts ++ useTexts annotations
  | .void => []
termination_by structural type => type

/-- The texts that are stored in the types of a list. -/
def typeTexts : List TypeRef → List String
  | [] => []
  | type :: rest => type.texts ++ typeTexts rest
termination_by structural types => types

/-- The texts that are stored in a type, if there is one. -/
def boundTexts : Option TypeRef → List String
  | some type => type.texts
  | none => []
termination_by structural bound => bound

/-- The texts that are stored in the annotations of a list. -/
def useTexts : List AnnotationUse → List String
  | [] => []
  | use :: rest => use.texts ++ useTexts rest
termination_by structural uses => uses

/-- The texts that are stored in an annotation. -/
def AnnotationUse.texts : AnnotationUse → List String
  | ⟨typeName, elements, _⟩ => typeName :: elementTexts elements
termination_by structural use => use

/-- The texts that are stored in the elements of a list. -/
def elementTexts : List AnnotationElement → List String
  | [] => []
  | ⟨name, value⟩ :: rest => name :: (value.texts ++ elementTexts rest)
termination_by structural elements => elements

/-- The texts that are stored in the value of an element. -/
def AnnotationValue.texts : AnnotationValue → List String
  | .literal text => [text]
  | .type type => type.texts
  | .enumConstant typeName constant => [typeName, constant]
  | .nested use => use.texts
  | .array values => valueTexts values
termination_by structural value => value

/-- The texts that are stored in the values of a list. -/
def valueTexts : List AnnotationValue → List String
  | [] => []
  | value :: rest => value.texts ++ valueTexts rest
termination_by structural values => values

end

theorem texts_subset_elementTexts {element : AnnotationElement} {elements : List AnnotationElement}
    (element_mem : element ∈ elements) : element.value.texts ⊆ elementTexts elements := by
  induction elements with
  | nil => cases element_mem
  | cons first rest ih =>
      obtain ⟨name, value⟩ := first
      rw [elementTexts]
      refine List.subset_cons_of_subset name ?_
      rcases List.mem_cons.mp element_mem with rfl | rest_mem
      · exact List.subset_append_left _ _
      · exact List.subset_append_of_subset_right _ (ih rest_mem)

theorem texts_subset_useTexts {use : AnnotationUse} {uses : List AnnotationUse}
    (use_mem : use ∈ uses) : use.texts ⊆ useTexts uses := by
  induction uses with
  | nil => cases use_mem
  | cons first rest ih =>
      rw [useTexts]
      rcases List.mem_cons.mp use_mem with rfl | rest_mem
      · exact List.subset_append_left _ _
      · exact List.subset_append_of_subset_right _ (ih rest_mem)

/-! ## Relations between spellings -/

/-- What stands between stored texts, but for the brackets around type arguments and the opening
parenthesis of an annotation. -/
def fixedMarks : List String :=
  ["", " ", ",", ".", "=", "@", ")", "\x7b", "\x7d", "?", "[]", ".class", "void", " extends ",
    " super ", " & "]

/-- A relation between spellings that holds of the texts with a property and of the fixed marks, and
is kept when texts are put together. -/
structure Respelling (Stored : String → Prop) (Spells : String → String → Prop) : Prop where
  /-- Texts are put together. -/
  append : ∀ {left left' right right'}, Spells left left' → Spells right right' →
    Spells (left ++ right) (left' ++ right')
  /-- Fixed marks are spelled as they are. -/
  mark : ∀ mark ∈ fixedMarks, Spells mark mark
  /-- Stored texts are spelled as they are. -/
  stored : ∀ {text}, Stored text → Spells text text
  /-- So are the simple names in them. -/
  simple : ∀ {name}, Stored name → Spells (simpleName name) (simpleName name)
  /-- And the start of an annotation with elements. -/
  call : ∀ {name}, Stored name →
    Spells ("@" ++ simpleName name ++ "(") ("@" ++ simpleName name ++ "(")
  /-- An opening bracket is escaped or bare. -/
  opening : Spells "\\<" "<"
  /-- So is a closing bracket. -/
  closing : Spells "\\>" ">"

namespace Respelling

variable {Stored : String → Prop} {Spells : String → String → Prop} {graph : Graph}

section

variable (respelling : Respelling Stored Spells)

include respelling

theorem fixed {mark : String} (listed : fixedMarks.contains mark = true) : Spells mark mark :=
  respelling.mark mark (List.contains_iff_mem.mp listed)

theorem append_fixed {left left' mark : String} (left_spelled : Spells left left')
    (listed : fixedMarks.contains mark = true) : Spells (left ++ mark) (left' ++ mark) :=
  respelling.append left_spelled (respelling.fixed listed)

theorem fixed_append {mark right right' : String} (listed : fixedMarks.contains mark = true)
    (right_spelled : Spells right right') : Spells (mark ++ right) (mark ++ right') :=
  respelling.append (respelling.fixed listed) right_spelled

theorem join {separator : String} (listed : fixedMarks.contains separator = true)
    {texts texts' : List String} (spelled : List.Forall₂ Spells texts texts') :
    Spells (Text.join separator texts) (Text.join separator texts') := by
  induction spelled with
  | nil => exact (respelling.fixed rfl : Spells "" "")
  | cons first rest_spelled ih =>
      cases rest_spelled with
      | nil => simpa [Text.join] using first
      | cons next others =>
          rw [Text.join_cons (List.cons_ne_nil _ _), Text.join_cons (List.cons_ne_nil _ _)]
          exact respelling.append (respelling.append_fixed first listed) ih

theorem join_same {separator : String} (listed : fixedMarks.contains separator = true)
    {texts : List String} (spelled : ∀ text ∈ texts, Spells text text) :
    Spells (Text.join separator texts) (Text.join separator texts) :=
  respelling.join listed (List.forall₂_same.mpr spelled)

theorem erasedWith {spell : String → String}
    (name_spelled : ∀ {name}, Stored name → Spells (spell name) (spell name)) :
    (type : TypeRef) → (∀ text ∈ type.texts, Stored text) →
    Spells (type.erasedWith spell) (type.erasedWith spell)
  | .declared name _ _ _, stored => name_spelled (stored name (by simp [TypeRef.texts]))
  | .typeVariable name _ _, stored | .primitive name _, stored =>
      respelling.stored (stored name (by simp [TypeRef.texts]))
  | .wildcard _ _ _, _ => (respelling.fixed rfl : Spells "?" "?")
  | .array component _, stored => by
      rw [TypeRef.texts, List.forall_mem_append] at stored
      exact respelling.append_fixed (erasedWith name_spelled component stored.1) rfl
  | .void, _ => (respelling.fixed rfl : Spells "void" "void")

theorem erasedName (type : TypeRef) (stored : ∀ text ∈ type.texts, Stored text) :
    Spells type.erasedName type.erasedName :=
  respelling.erasedWith respelling.stored type stored

theorem erasedSimpleName (type : TypeRef) (stored : ∀ text ∈ type.texts, Stored text) :
    Spells type.erasedSimpleName type.erasedSimpleName :=
  respelling.erasedWith respelling.simple type stored

/-! ## Annotations -/

theorem braced {texts : List String} (spelled : ∀ text ∈ texts, Spells text text) :
    Spells (AnnotationWriter.braced texts) (AnnotationWriter.braced texts) := by
  unfold AnnotationWriter.braced
  split
  · exact spelled _ (by simp)
  · exact respelling.append_fixed
      (respelling.fixed_append rfl (respelling.join_same rfl spelled)) rfl

mutual

theorem flatTexts : (value : AnnotationValue) → (∀ text ∈ value.texts, Stored text) →
    ∀ shown ∈ (AnnotationWriter.plain graph).flatTexts value, Spells shown shown
  | .literal text, stored => by
      rw [AnnotationValue.texts, List.forall_mem_singleton] at stored
      rw [AnnotationWriter.flatTexts, List.forall_mem_singleton]
      exact respelling.stored stored
  | .type type, stored => by
      rw [AnnotationValue.texts] at stored
      rw [AnnotationWriter.flatTexts, List.forall_mem_singleton]
      exact respelling.append_fixed (respelling.erasedName type stored) rfl
  | .enumConstant typeName constant, stored => by
      rw [AnnotationValue.texts, List.forall_mem_cons, List.forall_mem_singleton] at stored
      rw [AnnotationWriter.flatTexts, List.forall_mem_singleton]
      exact respelling.append (respelling.append_fixed (respelling.simple stored.1) rfl)
        (respelling.stored stored.2)
  | .nested use, stored => by
      rw [AnnotationValue.texts] at stored
      rw [AnnotationWriter.flatTexts, List.forall_mem_singleton]
      exact invocation use stored
  | .array values, stored => by
      rw [AnnotationValue.texts] at stored
      rw [AnnotationWriter.flatTexts]
      exact valueTexts values stored
termination_by structural value => value

theorem valueTexts : (values : List AnnotationValue) →
    (∀ text ∈ RefDocs.valueTexts values, Stored text) →
    ∀ shown ∈ (AnnotationWriter.plain graph).valueTexts values, Spells shown shown
  | [], _ => by simp [AnnotationWriter.valueTexts]
  | value :: rest, stored => by
      rw [RefDocs.valueTexts, List.forall_mem_append] at stored
      rw [AnnotationWriter.valueTexts, List.forall_mem_cons]
      exact ⟨respelling.join_same rfl (flatTexts value stored.1),
        valueTexts rest stored.2⟩
termination_by structural values => values

theorem elementTexts (keyed : Bool) : (elements : List AnnotationElement) →
    (∀ text ∈ RefDocs.elementTexts elements, Stored text) →
    ∀ shown ∈ (AnnotationWriter.plain graph).elementTexts keyed elements, Spells shown shown
  | [], _ => by simp [AnnotationWriter.elementTexts]
  | ⟨name, value⟩ :: rest, stored => by
      rw [RefDocs.elementTexts, List.forall_mem_cons, List.forall_mem_append] at stored
      have key_spelled : Spells (if keyed || name != "value" then name ++ "=" else "")
          (if keyed || name != "value" then name ++ "=" else "") := by
        split
        · exact respelling.append_fixed (respelling.stored stored.1) rfl
        · exact respelling.fixed rfl
      rw [AnnotationWriter.elementTexts, List.forall_mem_cons]
      exact ⟨respelling.append key_spelled (respelling.braced (flatTexts value stored.2.1)),
        elementTexts keyed rest stored.2.2⟩
termination_by structural elements => elements

theorem invocation : (use : AnnotationUse) → (∀ text ∈ use.texts, Stored text) →
    Spells ((AnnotationWriter.plain graph).invocation false use)
      ((AnnotationWriter.plain graph).invocation false use)
  | ⟨typeName, elements, _⟩, stored => by
      rw [AnnotationUse.texts, List.forall_mem_cons] at stored
      have separator_eq :
          AnnotationWriter.elementSeparator false (simpleName typeName) = "," := rfl
      rw [AnnotationWriter.invocation, separator_eq]
      split
      · exact respelling.fixed_append rfl (respelling.simple stored.1)
      · exact respelling.append_fixed
          (respelling.append (respelling.call stored.1)
            (respelling.join_same rfl (elementTexts _ elements stored.2))) rfl
termination_by structural use => use

end

theorem occurrence {use : AnnotationUse} (stored : ∀ text ∈ use.texts, Stored text) :
    Spells ((AnnotationWriter.plain graph).occurrence false use)
      ((AnnotationWriter.plain graph).occurrence false use) := by
  have values_stored : ∀ element ∈ use.elements, ∀ text ∈ element.value.texts, Stored text := by
    obtain ⟨typeName, elements, mandated⟩ := use
    rw [AnnotationUse.texts, List.forall_mem_cons] at stored
    intro element element_mem text text_mem
    exact stored.2 text (texts_subset_elementTexts element_mem text_mem)
  unfold AnnotationWriter.occurrence
  split
  · refine respelling.join_same rfl ?_
    intro shown shown_mem
    obtain ⟨element, element_mem, shown_mem⟩ := List.mem_flatMap.mp shown_mem
    exact respelling.flatTexts element.value (values_stored element element_mem) shown shown_mem
  · split
    · rename_i elements_eq
      have element_mem := elements_eq ▸ List.mem_singleton_self _
      exact respelling.join_same rfl
        (respelling.flatTexts _ (values_stored _ element_mem))
    · exact respelling.invocation use stored
    · exact respelling.invocation use stored

theorem inline {uses : List AnnotationUse} (stored : ∀ text ∈ useTexts uses, Stored text) :
    Spells ((AnnotationWriter.plain graph).inline uses)
      ((AnnotationWriter.plain graph).inline uses) := by
  have texts_spelled : ∀ text ∈ (uses.filter (AnnotationWriter.plain graph).isShown).map
      ((AnnotationWriter.plain graph).occurrence false), Spells text text := by
    intro text text_mem
    obtain ⟨use, use_mem, rfl⟩ := List.mem_map.mp text_mem
    have use_listed : use ∈ uses := (List.mem_filter.mp use_mem).1
    exact respelling.occurrence fun stored_text stored_mem =>
      stored stored_text (texts_subset_useTexts use_listed stored_mem)
  -- The induction is on the shown occurrences, with any line in front of them.
  have line_spelled : Spells "" "" := respelling.fixed rfl
  rw [AnnotationWriter.inline]
  generalize (uses.filter (AnnotationWriter.plain graph).isShown).map
    ((AnnotationWriter.plain graph).occurrence false) = texts at texts_spelled ⊢
  generalize "" = line at line_spelled ⊢
  induction texts generalizing line with
  | nil => exact line_spelled
  | cons text rest ih =>
      rw [List.forall_mem_cons] at texts_spelled
      rw [List.foldl_cons]
      refine ih texts_spelled.2 _ ?_
      split
      · exact texts_spelled.1
      · exact respelling.append (respelling.append_fixed line_spelled rfl) texts_spelled.1

theorem leadingAnnotations {uses : List AnnotationUse}
    (stored : ∀ text ∈ useTexts uses, Stored text) :
    Spells (graph.leadingAnnotations uses) (graph.leadingAnnotations uses) := by
  rw [Graph.leadingAnnotations]
  split
  · exact respelling.fixed rfl
  · exact respelling.append_fixed (respelling.inline stored) rfl

end

/-! ## Types -/

mutual

/-- The documentation form of a type is spelled alike with escaped and with bare brackets. -/
theorem documentationName (respelling : Respelling Stored Spells) :
    (type : TypeRef) → (∀ text ∈ type.texts, Stored text) →
    Spells (graph.documentationName .escaped type) (graph.documentationName .plain type)
  | .declared name arguments enclosing annotations, stored => by
      rw [TypeRef.texts, List.forall_mem_cons, List.forall_mem_append,
        List.forall_mem_append] at stored
      obtain ⟨name_stored, ⟨arguments_stored, enclosing_stored⟩, annotations_stored⟩ := stored
      have arguments_spelled := documentationNames respelling arguments arguments_stored
      rw [Graph.documentationName, Graph.documentationName]
      refine respelling.append
        (respelling.append
          (respelling.append (enclosingPart respelling enclosing enclosing_stored)
            (respelling.leadingAnnotations annotations_stored))
          (respelling.simple name_stored)) ?_
      split
      · exact respelling.fixed rfl
      · exact respelling.append
          (respelling.append respelling.opening
            (respelling.join rfl arguments_spelled))
          respelling.closing
  | .typeVariable name bounds annotations, stored => by
      rw [TypeRef.texts, List.forall_mem_cons, List.forall_mem_append] at stored
      obtain ⟨name_stored, bounds_stored, annotations_stored⟩ := stored
      rw [Graph.documentationName, Graph.documentationName]
      refine respelling.append (respelling.append
        (respelling.leadingAnnotations annotations_stored) (respelling.stored name_stored)) ?_
      split
      · exact respelling.fixed rfl
      · exact respelling.fixed_append rfl
          (respelling.join rfl (documentationNames respelling bounds bounds_stored))
  | .wildcard upper lower annotations, stored => by
      rw [TypeRef.texts, List.forall_mem_append, List.forall_mem_append] at stored
      obtain ⟨⟨upper_stored, lower_stored⟩, annotations_stored⟩ := stored
      rw [Graph.documentationName, Graph.documentationName]
      exact respelling.append
        (respelling.append
          (respelling.append_fixed (respelling.leadingAnnotations annotations_stored) rfl)
          (boundPart respelling rfl upper upper_stored))
        (boundPart respelling rfl lower lower_stored)
  | .primitive name annotations, stored => by
      rw [TypeRef.texts, List.forall_mem_cons] at stored
      rw [Graph.documentationName, Graph.documentationName]
      exact respelling.append (respelling.leadingAnnotations stored.2) (respelling.stored stored.1)
  | .array component annotations, stored => by
      rw [TypeRef.texts, List.forall_mem_append] at stored
      have component_spelled := documentationName respelling component stored.1
      rw [Graph.documentationName, Graph.documentationName]
      refine respelling.append_fixed (respelling.append component_spelled ?_) rfl
      split
      · exact respelling.fixed rfl
      · exact respelling.fixed_append rfl (respelling.leadingAnnotations stored.2)
  | .void, _ => by
      rw [Graph.documentationName, Graph.documentationName]
      exact respelling.fixed rfl
termination_by structural type => type

theorem documentationNames (respelling : Respelling Stored Spells) :
    (types : List TypeRef) → (∀ text ∈ typeTexts types, Stored text) →
    List.Forall₂ Spells (graph.documentationNames .escaped types)
      (graph.documentationNames .plain types)
  | [], _ => by
      rw [Graph.documentationNames, Graph.documentationNames]
      exact .nil
  | type :: rest, stored => by
      rw [typeTexts, List.forall_mem_append] at stored
      rw [Graph.documentationNames, Graph.documentationNames]
      exact .cons (documentationName respelling type stored.1)
        (documentationNames respelling rest stored.2)
termination_by structural types => types

theorem enclosingPart (respelling : Respelling Stored Spells) : (enclosing : Option TypeRef) →
    (∀ text ∈ boundTexts enclosing, Stored text) →
    Spells (graph.enclosingPart .escaped enclosing) (graph.enclosingPart .plain enclosing)
  | some outer, stored => by
      rw [boundTexts] at stored
      rw [Graph.enclosingPart, Graph.enclosingPart]
      split
      · exact respelling.append_fixed (documentationName respelling outer stored) rfl
      · exact respelling.fixed rfl
  | none, _ => by
      rw [Graph.enclosingPart, Graph.enclosingPart]
      exact respelling.fixed rfl
termination_by structural enclosing => enclosing

theorem boundPart (respelling : Respelling Stored Spells) {keyword : String}
    (listed : fixedMarks.contains keyword = true) :
    (bound : Option TypeRef) → (∀ text ∈ boundTexts bound, Stored text) →
    Spells (graph.boundPart .escaped keyword bound) (graph.boundPart .plain keyword bound)
  | some bound, stored => by
      rw [boundTexts] at stored
      rw [Graph.boundPart, Graph.boundPart]
      exact respelling.fixed_append listed (documentationName respelling bound stored)
  | none, _ => by
      rw [Graph.boundPart, Graph.boundPart]
      exact respelling.fixed rfl
termination_by structural bound => bound

end

end Respelling
end RefDocs
