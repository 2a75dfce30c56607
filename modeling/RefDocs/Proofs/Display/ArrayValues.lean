import RefDocs.Compose.Signature
import RefDocs.Proofs.Text.Cutting

/-!
# Array values of annotations

In the element list of an annotation an array of several values, or of none, stands in braces, with
commas between the values.  Where such an array stands alone, as in a default clause, or is an item
of another array, only blanks are written between the values.  So a value is written in source form
exactly if no array in it is written so, and each that is lacks the two braces.
-/

namespace RefDocs

/-! ## Joined texts -/

namespace Text

/-- The number of characters of some texts together. -/
def totalLength : List String → Nat
  | [] => 0
  | text :: rest => text.length + totalLength rest

theorem totalLength_cons (text : String) (texts : List String) :
    totalLength (text :: texts) = text.length + totalLength texts := rfl

theorem length_join (separator : String) (texts : List String) :
    (join separator texts).length =
      totalLength texts + separator.length * (texts.length - 1) := by
  induction texts with
  | nil => simp [join, totalLength]
  | cons text rest ih =>
      cases rest with
      | nil => simp [join, totalLength]
      | cons next others =>
          rw [join_cons (by simp), String.length_append, String.length_append, ih,
            totalLength_cons text]
          simp [Nat.mul_add]
          omega

end Text

namespace AnnotationWriter

/-- The text of the value of an element in the element list of an annotation. -/
def elementText (writer : AnnotationWriter) (value : AnnotationValue) : String :=
  braced (writer.flatTexts value)

mutual

/-- The source forms of the items of an array value, or of the value itself. -/
def sourceItems (writer : AnnotationWriter) : AnnotationValue → List String
  | .literal text => [text]
  | .type type => [type.erasedName ++ ".class"]
  | .enumConstant typeName constant => [simpleName typeName ++ "." ++ constant]
  | .nested use => [writer.sourceUse use]
  | .array values => writer.sourceTexts values
termination_by structural value => value

/-- The source forms of the values of a list. -/
def sourceTexts (writer : AnnotationWriter) : List AnnotationValue → List String
  | [] => []
  | value :: rest => braced (writer.sourceItems value) :: writer.sourceTexts rest
termination_by structural values => values

/-- The source forms of the elements of a list, with or without the key of a `value` element. -/
def sourceElements (writer : AnnotationWriter) (keyed : Bool) : List AnnotationElement → List String
  | [] => []
  | ⟨name, value⟩ :: rest =>
    ((if keyed || name != "value" then name ++ "=" else "") ++ braced (writer.sourceItems value))
      :: writer.sourceElements keyed rest
termination_by structural elements => elements

/-- The source form of an annotation. -/
def sourceUse (writer : AnnotationWriter) : AnnotationUse → String
  | ⟨typeName, elements, _⟩ =>
    let linked := writer.link typeName ("@" ++ simpleName typeName)
    if elements.isEmpty then linked
    else
      linked ++ "(" ++ Text.join "," (writer.sourceElements (elements.length > 1) elements) ++ ")"
termination_by structural use => use

end

/-- The source form of a value: an array of several values, or of none, stands in braces with commas
between the values, and the one value of any other array stands for itself, at any depth. -/
def sourceText (writer : AnnotationWriter) (value : AnnotationValue) : String :=
  braced (writer.sourceItems value)

end AnnotationWriter

namespace AnnotationValue

/-- An array of several values, or of none. -/
def needsBraces : AnnotationValue → Bool
  | .array values => values.length != 1
  | _ => false

end AnnotationValue

mutual

/-- The number of arrays of several values, or of none, that are items of an array in a value. -/
def AnnotationValue.looseItems : AnnotationValue → Nat
  | .literal _ | .type _ | .enumConstant _ _ => 0
  | .nested use => use.looseItems
  | .array values => looseValues values
termination_by structural value => value

/-- The number of such arrays in the values of a list, and of those that are a value of it. -/
def looseValues : List AnnotationValue → Nat
  | [] => 0
  | value :: rest => value.needsBraces.toNat + value.looseItems + looseValues rest
termination_by structural values => values

/-- The number of such arrays in the values of the elements of a list. -/
def looseElements : List AnnotationElement → Nat
  | [] => 0
  | ⟨_, value⟩ :: rest => value.looseItems + looseElements rest
termination_by structural elements => elements

/-- The number of such arrays in an annotation. -/
def AnnotationUse.looseItems : AnnotationUse → Nat
  | ⟨_, elements, _⟩ => looseElements elements
termination_by structural use => use

end

/-- The number of arrays of several values, or of none, that stand alone or are items of an array. -/
def AnnotationValue.looseArrays (value : AnnotationValue) : Nat :=
  value.needsBraces.toNat + value.looseItems

namespace AnnotationWriter

variable (writer : AnnotationWriter)

theorem elementTexts_eq_map (keyed : Bool) (elements : List AnnotationElement) :
    writer.elementTexts keyed elements = elements.map fun element =>
      (if keyed || element.name != "value" then element.name ++ "=" else "") ++
        writer.elementText element.value := by
  induction elements with
  | nil => rfl
  | cons element rest ih =>
      obtain ⟨name, value⟩ := element
      rw [elementTexts, ih, List.map_cons, elementText]

theorem length_valueTexts (values : List AnnotationValue) :
    (writer.valueTexts values).length = values.length := by
  induction values with
  | nil => rfl
  | cons value rest ih => rw [valueTexts, List.length_cons, ih, List.length_cons]

theorem length_sourceTexts (values : List AnnotationValue) :
    (writer.sourceTexts values).length = values.length := by
  induction values with
  | nil => rfl
  | cons value rest ih => rw [sourceTexts, List.length_cons, ih, List.length_cons]

theorem length_sourceItems (value : AnnotationValue) :
    (writer.sourceItems value).length = (writer.flatTexts value).length := by
  cases value with
  | array values => rw [sourceItems, flatTexts, length_sourceTexts, length_valueTexts]
  | literal | type | enumConstant | nested => rfl

theorem length_elementTexts (keyed : Bool) (elements : List AnnotationElement) :
    (writer.elementTexts keyed elements).length = elements.length := by
  rw [elementTexts_eq_map, List.length_map]

theorem length_sourceElements (keyed : Bool) (elements : List AnnotationElement) :
    (writer.sourceElements keyed elements).length = elements.length := by
  induction elements with
  | nil => rfl
  | cons element rest ih =>
      obtain ⟨name, value⟩ := element
      rw [sourceElements, List.length_cons, ih, List.length_cons]

theorem needsBraces_eq (value : AnnotationValue) :
    value.needsBraces = ((writer.flatTexts value).length != 1) := by
  cases value with
  | array values => rw [flatTexts, length_valueTexts, AnnotationValue.needsBraces]
  | literal | type | enumConstant | nested => rfl

/-! ## Braces -/

theorem braced_of_length_ne {texts : List String} (not_single : texts.length ≠ 1) :
    braced texts = "\x7b" ++ Text.join "," texts ++ "\x7d" := by
  match texts with
  | [] => rfl
  | [_] => exact absurd rfl not_single
  | _ :: _ :: _ => rfl

theorem braced_singleton (text : String) : braced [text] = Text.join " " [text] := by
  simp [braced, Text.join]

/-- Braces are two characters, and a comma is as long as a blank. -/
theorem length_braced (texts : List String) :
    (braced texts).length = (Text.join " " texts).length + 2 * (texts.length != 1).toNat := by
  by_cases single : texts.length = 1
  · obtain ⟨text, rfl⟩ := List.length_eq_one_iff.mp single
    rw [braced_singleton]
    rfl
  · have opening_length : "\x7b".length = 1 := by decide
    have closing_length : "\x7d".length = 1 := by decide
    have comma_length : ",".length = " ".length := by decide
    have needs_braces : (texts.length != 1) = true := by simpa using single
    rw [braced_of_length_ne single, String.length_append, String.length_append, Text.length_join,
      Text.length_join, opening_length, closing_length, comma_length, needs_braces, Bool.toNat_true]
    omega

theorem braced_eq_join_iff (texts : List String) :
    braced texts = Text.join " " texts ↔ texts.length = 1 := by
  constructor
  · intro texts_eq
    have lengths_eq := congrArg String.length texts_eq
    rw [length_braced] at lengths_eq
    by_contra not_single
    have needs_braces : (texts.length != 1) = true := by simpa using not_single
    rw [needs_braces, Bool.toNat_true] at lengths_eq
    omega
  · intro single
    obtain ⟨text, rfl⟩ := List.length_eq_one_iff.mp single
    exact braced_singleton text

/-! ## What the source form has more -/

mutual

theorem totalLength_sourceItems : (value : AnnotationValue) →
    Text.totalLength (writer.sourceItems value) =
      Text.totalLength (writer.flatTexts value) + 2 * value.looseItems
  | .literal _ | .type _ | .enumConstant _ _ => rfl
  | .nested use => by
      simp only [sourceItems, flatTexts, Text.totalLength_cons, length_sourceUse use,
        AnnotationValue.looseItems]
      omega
  | .array values => by
      rw [sourceItems, flatTexts, totalLength_sourceTexts values, AnnotationValue.looseItems]
termination_by structural value => value

theorem totalLength_sourceTexts : (values : List AnnotationValue) →
    Text.totalLength (writer.sourceTexts values) =
      Text.totalLength (writer.valueTexts values) + 2 * looseValues values
  | [] => rfl
  | value :: rest => by
      have value_total := totalLength_sourceItems value
      have rest_total := totalLength_sourceTexts rest
      have value_items := writer.length_sourceItems value
      rw [sourceTexts, valueTexts, Text.totalLength_cons, Text.totalLength_cons, length_braced,
        Text.length_join, Text.length_join, value_items, ← needsBraces_eq, looseValues]
      omega
termination_by structural values => values

theorem totalLength_sourceElements (keyed : Bool) : (elements : List AnnotationElement) →
    Text.totalLength (writer.sourceElements keyed elements) =
      Text.totalLength (writer.elementTexts keyed elements) + 2 * looseElements elements
  | [] => rfl
  | ⟨name, value⟩ :: rest => by
      have value_total := totalLength_sourceItems value
      have rest_total := totalLength_sourceElements keyed rest
      have value_items := writer.length_sourceItems value
      rw [sourceElements, elementTexts, Text.totalLength_cons, Text.totalLength_cons,
        String.length_append, String.length_append, length_braced, length_braced,
        Text.length_join, Text.length_join, value_items, looseElements]
      omega
termination_by structural elements => elements

theorem length_sourceUse : (use : AnnotationUse) →
    (writer.sourceUse use).length = (writer.invocation false use).length + 2 * use.looseItems
  | ⟨typeName, elements, _⟩ => by
      have separator_eq : elementSeparator false (simpleName typeName) = "," := rfl
      have elements_total :=
        totalLength_sourceElements (decide (elements.length > 1)) elements
      rw [sourceUse, invocation, AnnotationUse.looseItems]
      split
      · rename_i no_elements
        obtain rfl := List.isEmpty_iff.mp no_elements
        rfl
      · simp only [String.length_append, separator_eq, Text.length_join, length_sourceElements,
          length_elementTexts]
        omega

end

/-- The source form has two characters more for each array without the braces that it needs. -/
theorem length_sourceText (value : AnnotationValue) :
    (writer.sourceText value).length = (writer.valueText value).length + 2 * value.looseArrays := by
  rw [sourceText, valueText, length_braced, Text.length_join, Text.length_join,
    totalLength_sourceItems, length_sourceItems, ← needsBraces_eq, AnnotationValue.looseArrays]
  omega

/-- In the element list of an annotation, a value is braced itself. -/
theorem length_sourceText_eq_elementText (value : AnnotationValue) :
    (writer.sourceText value).length = (writer.elementText value).length + 2 * value.looseItems := by
  rw [sourceText, elementText, length_braced, length_braced, Text.length_join, Text.length_join,
    totalLength_sourceItems, length_sourceItems]
  omega

mutual

theorem sourceItems_eq : (value : AnnotationValue) → value.looseItems = 0 →
    writer.sourceItems value = writer.flatTexts value
  | .literal _, _ | .type _, _ | .enumConstant _ _, _ => rfl
  | .nested use, none_loose => by
      rw [sourceItems, flatTexts, sourceUse_eq use none_loose]
  | .array values, none_loose => by
      rw [sourceItems, flatTexts, sourceTexts_eq values none_loose]
termination_by structural value => value

theorem sourceTexts_eq : (values : List AnnotationValue) → looseValues values = 0 →
    writer.sourceTexts values = writer.valueTexts values
  | [], _ => rfl
  | value :: rest, none_loose => by
      simp only [looseValues, Nat.add_eq_zero_iff, Bool.toNat_eq_zero] at none_loose
      obtain ⟨⟨unbraced, value_loose⟩, rest_loose⟩ := none_loose
      rw [writer.needsBraces_eq value] at unbraced
      have single : (writer.flatTexts value).length = 1 := by simpa using unbraced
      rw [sourceTexts, valueTexts, sourceItems_eq value value_loose, sourceTexts_eq rest rest_loose,
        (braced_eq_join_iff _).mpr single]
termination_by structural values => values

theorem sourceElements_eq (keyed : Bool) : (elements : List AnnotationElement) →
    looseElements elements = 0 →
    writer.sourceElements keyed elements = writer.elementTexts keyed elements
  | [], _ => rfl
  | ⟨name, value⟩ :: rest, none_loose => by
      rw [looseElements, Nat.add_eq_zero_iff] at none_loose
      rw [sourceElements, elementTexts, sourceItems_eq value none_loose.1,
        sourceElements_eq keyed rest none_loose.2]
termination_by structural elements => elements

theorem sourceUse_eq : (use : AnnotationUse) → use.looseItems = 0 →
    writer.sourceUse use = writer.invocation false use
  | ⟨typeName, elements, _⟩, none_loose => by
      rw [sourceUse, invocation, sourceElements_eq _ elements none_loose]
      rfl

end

/-- In an element list each value stands behind its key as its own text, braced if it is an array of
several values or of none.  Alone, as in a default clause, it is shown the same exactly if it is no
such array.  In source form, with braces at any depth, it is shown in an element list exactly if no
such array is an item of an array in it, and alone exactly if it is none itself either: each one
lacks its two braces. -/
theorem elementText_eq_iff_and_sourceText_eq_iff (value : AnnotationValue) :
    (∀ keyed elements, writer.elementTexts keyed elements = elements.map fun element =>
        (if keyed || element.name != "value" then element.name ++ "=" else "") ++
          writer.elementText element.value) ∧
      (∀ (context : PageContext) (member : Member), member.kind = .annotationElement →
        member.defaultValue = some value →
        ∃ front, context.memberDeclaration member =
          front ++ " default " ++ (plain context.graph).valueText value) ∧
      (writer.elementText value = writer.valueText value ↔ value.needsBraces = false) ∧
      (writer.sourceText value = writer.elementText value ↔ value.looseItems = 0) ∧
      (writer.sourceText value = writer.valueText value ↔ value.looseArrays = 0) ∧
      (writer.sourceText value).length =
        (writer.valueText value).length + 2 * value.looseArrays := by
  have alone_length := writer.length_sourceText value
  have listed_length := writer.length_sourceText_eq_elementText value
  refine ⟨writer.elementTexts_eq_map, ?_, ?_, ⟨?_, ?_⟩, ⟨?_, ?_⟩, alone_length⟩
  · intro context member is_element has_default
    rw [PageContext.memberDeclaration.eq_def]
    simp only [is_element, has_default, Option.elim_some]
    exact ⟨_, String.append_assoc.symm⟩
  · rw [elementText, valueText, braced_eq_join_iff, writer.needsBraces_eq, bne_eq_false_iff_eq]
  · intro texts_eq
    rw [texts_eq] at listed_length
    omega
  · intro none_loose
    rw [sourceText, elementText, writer.sourceItems_eq value none_loose]
  · intro texts_eq
    rw [texts_eq] at alone_length
    omega
  · intro none_loose
    rw [AnnotationValue.looseArrays, Nat.add_eq_zero_iff, Bool.toNat_eq_zero,
      writer.needsBraces_eq, bne_eq_false_iff_eq] at none_loose
    rw [sourceText, valueText, writer.sourceItems_eq value none_loose.2,
      (braced_eq_join_iff _).mpr none_loose.1]

end AnnotationWriter

/-- An array of two constants. -/
def twoConstants : AnnotationValue :=
  .array [.literal "X", .literal "Y"]

/-- The array has braces in an element list and none in a default clause. -/
theorem default_twoConstants_unbraced :
    (AnnotationWriter.plain ⟨defaultRootType, [], [], []⟩).invocation false
        ⟨"a.Names", [⟨"value", twoConstants⟩], false⟩ = "@Names(\x7bX,Y\x7d)" ∧
      PageContext.memberDeclaration ⟨{}, ⟨⟨defaultRootType, [], [], []⟩, "md"⟩, .constants⟩
        { kind := .annotationElement, name := "value", defaultValue := some twoConstants } =
        "value() default X Y" ∧
      ¬ ∀ (writer : AnnotationWriter) (value : AnnotationValue),
        writer.elementText value = writer.valueText value := by
  refine ⟨by decide +kernel, by decide +kernel, fun same => ?_⟩
  exact absurd (same (.plain ⟨defaultRootType, [], [], []⟩) twoConstants) (by decide +kernel)

end RefDocs
