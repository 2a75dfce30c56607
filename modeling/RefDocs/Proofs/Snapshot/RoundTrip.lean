import RefDocs.Proofs.Json.Writing
import RefDocs.Proofs.Snapshot.Declarations

/-!
# Snapshots as JSON texts

A snapshot that does not nest too deep is read back from the text that it is written as, and from
every text of a document that restates its JSON form.
-/

namespace RefDocs

open Json

/-! ## What snapshots are written as -/

@[simp]
theorem isWritten_bool (flag : Bool) : IsWritten (.bool flag) :=
  .bool flag

@[simp]
theorem isWritten_ofString (content : String) : IsWritten (.ofString content) :=
  .text (some content)

theorem isWritten_ofFields {fields : List (String × Value)}
    (all : ∀ field ∈ fields, IsWritten field.2) : IsWritten (.ofFields fields) := by
  refine .object fun entry entry_mem => ?_
  obtain ⟨field, field_mem, rfl⟩ := List.mem_map.mp entry_mem
  exact all field field_mem

theorem isWritten_list_cons {item : Value} {items : List Value} :
    IsWritten (.list (item :: items)) ↔ IsWritten item ∧ IsWritten (.list items) := by
  constructor
  · intro written
    cases written with
    | list all =>
        obtain ⟨item_written, items_written⟩ := List.forall_mem_cons.mp all
        exact ⟨item_written, .list items_written⟩
  · rintro ⟨item_written, items_written⟩
    cases items_written with
    | list all => exact .list (List.forall_mem_cons.mpr ⟨item_written, all⟩)

theorem isWritten_writeOption {α : Type} {write : α → Value}
    (written : ∀ content, IsWritten (write content)) (content? : Option α) :
    IsWritten (writeOption write content?) := by
  cases content? with
  | none => exact .null
  | some content => exact written content

theorem isWritten_writeList {α : Type} {write : α → Value}
    (written : ∀ item, IsWritten (write item)) (items : List α) :
    IsWritten (writeList write items) := by
  refine .list fun value value_mem => ?_
  obtain ⟨item, -, rfl⟩ := List.mem_map.mp value_mem
  exact written item

mutual

theorem isWritten_type : (type : TypeRef) → IsWritten type.toJson
  | .declared name arguments enclosing annotations => by
      rw [TypeRef.toJson]
      exact isWritten_ofFields (by
        simp [isWritten_types arguments, isWritten_optionalType enclosing,
          isWritten_uses annotations])
  | .typeVariable name bounds annotations => by
      rw [TypeRef.toJson]
      exact isWritten_ofFields (by
        simp [isWritten_types bounds, isWritten_uses annotations])
  | .wildcard upper lower annotations => by
      rw [TypeRef.toJson]
      exact isWritten_ofFields (by
        simp [isWritten_optionalType upper, isWritten_optionalType lower,
          isWritten_uses annotations])
  | .primitive name annotations => by
      rw [TypeRef.toJson]
      exact isWritten_ofFields (by simp [isWritten_uses annotations])
  | .array component annotations => by
      rw [TypeRef.toJson]
      exact isWritten_ofFields (by
        simp [isWritten_type component, isWritten_uses annotations])
  | .void => by
      rw [TypeRef.toJson]
      exact isWritten_ofFields (by simp)
termination_by structural type => type

theorem isWritten_types : (types : List TypeRef) → IsWritten (.list (typesToJson types))
  | [] => .list (by simp [typesToJson])
  | type :: rest => by
      simp only [typesToJson, isWritten_list_cons]
      exact ⟨isWritten_type type, isWritten_types rest⟩
termination_by structural types => types

theorem isWritten_optionalType : (type? : Option TypeRef) →
    IsWritten (optionalTypeToJson type?)
  | none => .null
  | some type => isWritten_type type
termination_by structural type? => type?

theorem isWritten_use : (use : AnnotationUse) → IsWritten use.toJson
  | ⟨typeName, elements, mandated⟩ => by
      rw [AnnotationUse.toJson]
      exact isWritten_ofFields (by simp [isWritten_elements elements])
termination_by structural use => use

theorem isWritten_uses : (uses : List AnnotationUse) →
    IsWritten (.list (annotationsToJson uses))
  | [] => .list (by simp [annotationsToJson])
  | use :: rest => by
      simp only [annotationsToJson, isWritten_list_cons]
      exact ⟨isWritten_use use, isWritten_uses rest⟩
termination_by structural uses => uses

theorem isWritten_element : (element : AnnotationElement) → IsWritten element.toJson
  | ⟨name, value⟩ => by
      rw [AnnotationElement.toJson]
      exact isWritten_ofFields (by simp [isWritten_annotationValue value])
termination_by structural element => element

theorem isWritten_elements : (elements : List AnnotationElement) →
    IsWritten (.list (elementsToJson elements))
  | [] => .list (by simp [elementsToJson])
  | element :: rest => by
      simp only [elementsToJson, isWritten_list_cons]
      exact ⟨isWritten_element element, isWritten_elements rest⟩
termination_by structural elements => elements

theorem isWritten_annotationValue : (value : AnnotationValue) → IsWritten value.toJson
  | .literal text => by
      rw [AnnotationValue.toJson]
      exact isWritten_ofFields (by simp)
  | .type type => by
      rw [AnnotationValue.toJson]
      exact isWritten_ofFields (by simp [isWritten_type type])
  | .enumConstant typeName constant => by
      rw [AnnotationValue.toJson]
      have content_written : IsWritten (.ofFields [("type_name", .ofString typeName),
          ("constant", .ofString constant)]) := isWritten_ofFields (by simp)
      exact isWritten_ofFields (by simp [content_written])
  | .nested use => by
      rw [AnnotationValue.toJson]
      exact isWritten_ofFields (by simp [isWritten_use use])
  | .array values => by
      rw [AnnotationValue.toJson]
      exact isWritten_ofFields (by simp [isWritten_annotationValues values])
termination_by structural value => value

theorem isWritten_annotationValues : (values : List AnnotationValue) →
    IsWritten (.list (annotationValuesToJson values))
  | [] => .list (by simp [annotationValuesToJson])
  | value :: rest => by
      simp only [annotationValuesToJson, isWritten_list_cons]
      exact ⟨isWritten_annotationValue value, isWritten_annotationValues rest⟩
termination_by structural values => values

end

mutual

theorem isWritten_docNode : (node : DocNode) → IsWritten node.toJson
  | .text content | .comment content | .code content | .literal content => by
      rw [DocNode.toJson]
      exact isWritten_ofFields (by simp)
  | .startElement name | .endElement name | .entity name => by
      rw [DocNode.toJson]
      exact isWritten_ofFields (by simp)
  | .link target member label plain => by
      rw [DocNode.toJson]
      exact isWritten_ofFields (by
        simp [isWritten_writeOption isWritten_ofString member, isWritten_doc label])
  | .blockTag name param body => by
      rw [DocNode.toJson]
      exact isWritten_ofFields (by
        simp [isWritten_writeOption isWritten_ofString param, isWritten_doc body])
termination_by structural node => node

theorem isWritten_doc : (nodes : List DocNode) → IsWritten (.list (docToJson nodes))
  | [] => .list (by simp [docToJson])
  | node :: rest => by
      simp only [docToJson, isWritten_list_cons]
      exact ⟨isWritten_docNode node, isWritten_doc rest⟩
termination_by structural nodes => nodes

end

theorem isWritten_deprecation (deprecation : Deprecation) : IsWritten deprecation.toJson :=
  isWritten_ofFields (by simp [isWritten_doc])

theorem isWritten_typeParameter (parameter : TypeParameter) : IsWritten parameter.toJson :=
  isWritten_ofFields (by simp [isWritten_types, isWritten_uses])

theorem isWritten_parameter (parameter : Parameter) : IsWritten parameter.toJson :=
  isWritten_ofFields (by simp [isWritten_type, isWritten_uses])

theorem isWritten_modifiers (modifiers : List Modifier) :
    IsWritten (modifiersToJson modifiers) := by
  refine isWritten_writeList ?_ modifiers
  exact fun modifier => isWritten_ofString modifier.keyword

theorem isWritten_member (member : Member) : IsWritten member.toJson :=
  isWritten_ofFields (by
    simp [isWritten_modifiers, isWritten_optionalType, isWritten_types, isWritten_uses,
      isWritten_doc, isWritten_writeList isWritten_parameter,
      isWritten_writeList isWritten_typeParameter, isWritten_writeOption isWritten_annotationValue,
      isWritten_writeOption isWritten_ofString, isWritten_writeOption isWritten_deprecation])

theorem isWritten_enclosing (enclosing : Enclosing) : IsWritten enclosing.toJson := by
  cases enclosing <;> exact isWritten_ofFields (by simp)

theorem isWritten_packageDecl (decl : PackageDecl) : IsWritten decl.toJson :=
  isWritten_ofFields (by simp [isWritten_uses, isWritten_doc])

theorem isWritten_typeDecl (decl : TypeDecl) : IsWritten decl.toJson :=
  isWritten_ofFields (by
    simp [isWritten_enclosing, isWritten_optionalType, isWritten_types, isWritten_uses,
      isWritten_modifiers, isWritten_doc, isWritten_writeList isWritten_typeParameter,
      isWritten_writeList isWritten_member, isWritten_writeOption isWritten_deprecation])

theorem isWritten_external (external : ExternalAnnotation) : IsWritten external.toJson :=
  isWritten_ofFields (by simp)

/-- The JSON form of a snapshot can be written. -/
theorem isWritten_snapshot (snapshot : Snapshot) : IsWritten snapshot.toJson :=
  isWritten_ofFields (by
    simp [isWritten_writeList isWritten_packageDecl, isWritten_writeList isWritten_typeDecl,
      isWritten_writeList isWritten_external])

namespace Snapshot

/-- A snapshot whose JSON form nests at most as deep as documents may is read back from the text
that it is written as, and from each text of a document that says the same with the keys of objects
in another order, without fields that hold their default, or with unknown fields in records. -/
theorem ofText?_toText_and_of_restates (snapshot : Snapshot)
    (fits : snapshot.toJson.fits maxDepth = true) :
    ofText? snapshot.toJson.toText = some snapshot ∧
      ∀ document, Restates format maxDepth snapshot.toJson document →
        ofValue? document = some snapshot ∧
        ∀ text, Value.ofText? text = some document → ofText? text = some snapshot := by
  have read_eq (document : Value) (restates : Restates format maxDepth snapshot.toJson document) :
      ofValue? document = some snapshot :=
    read_eq_of_restates snapshot restates
  have text_eq (document : Value) (restates : Restates format maxDepth snapshot.toJson document)
      (text : String) (text_reads : Value.ofText? text = some document) :
      ofText? text = some snapshot := by
    rw [ofText?, text_reads]
    exact read_eq document restates
  refine ⟨?_, fun document restates => ⟨read_eq document restates, text_eq document restates⟩⟩
  exact text_eq snapshot.toJson (Restates.refl snapshot.toJson fits) snapshot.toJson.toText
    (ofText?_toText (isWritten_snapshot snapshot))

/-- An annotation with one element. -/
def sinceUse : AnnotationUse :=
  ⟨"note.Since", [⟨"value", .literal "2"⟩], false⟩

/-- A snapshot of one annotated package that is not shown. -/
def hiddenSnapshot : Snapshot where
  packages := [{ name := "shop", included := false, annotations := [sinceUse] }]

/-- The annotation, with the content of its element in front of the tag. -/
def sinceDocument : Value :=
  .ofFields [("elements", .list [.ofFields [
      ("value", .ofFields [("value", .ofString "2"), ("kind", .ofString "literal")]),
      ("name", .ofString "value")]]),
    ("type_name", .ofString "note.Since")]

/-- The JSON form of the snapshot with its keys in another order, without what is empty and with an
unknown field. -/
def hiddenDocument : Value :=
  .ofFields [("tools", .list [.ofString "extract", .number ⟨false, 2, 0, true⟩]),
    ("packages", .list [.ofFields [("annotations", .list [sinceDocument]),
      ("name", .ofString "shop"), ("included", .bool false)]])]

/-- The document as a text. -/
def hiddenText : String :=
  "\x7b\"tools\":[\"extract\",2]," ++
    "\"packages\":[\x7b\"annotations\":[\x7b\"elements\":[\x7b" ++
    "\"value\":\x7b\"value\":\"2\",\"kind\":\"literal\"\x7d,\"name\":\"value\"\x7d]," ++
    "\"type_name\":\"note.Since\"\x7d],\"name\":\"shop\",\"included\":false\x7d]\x7d"

theorem toText_hiddenDocument : hiddenDocument.toText = hiddenText := by
  decide +kernel

theorem isWritten_hiddenDocument : IsWritten hiddenDocument := by
  have content_written : IsWritten (.ofFields [("value", .ofString "2"),
      ("kind", .ofString "literal")]) := isWritten_ofFields (by simp)
  have element_written : IsWritten (.ofFields [
      ("value", .ofFields [("value", .ofString "2"), ("kind", .ofString "literal")]),
      ("name", .ofString "value")]) := isWritten_ofFields (by simp [content_written])
  have use_written : IsWritten sinceDocument :=
    isWritten_ofFields (by simp [element_written, IsWritten.list])
  have package_written : IsWritten (.ofFields [("annotations", .list [sinceDocument]),
      ("name", .ofString "shop"), ("included", .bool false)]) :=
    isWritten_ofFields (by simp [use_written, IsWritten.list])
  have number_written : IsWritten (.number ⟨false, 2, 0, true⟩) := .number fun _ => rfl
  exact isWritten_ofFields (by simp [package_written, number_written, IsWritten.list])

theorem restates_sinceDocument : Restates format 123 sinceUse.toJson sinceDocument := by
  have content_restates : Restates format 120 (AnnotationValue.literal "2").toJson
      (.ofFields [("value", .ofString "2"), ("kind", .ofString "literal")]) :=
    .object (.keep (.text "literal") (.keep (.text "2") .nil)) (by simp) (fun _ => rfl)
      (.swap _ _ _)
  have element_restates : Restates format 121
      (AnnotationElement.toJson ⟨"value", .literal "2"⟩)
      (.ofFields [("value", .ofFields [("value", .ofString "2"), ("kind", .ofString "literal")]),
        ("name", .ofString "value")]) :=
    .object (.keep (.text "value") (.keep content_restates .nil)) (by simp) (fun _ => rfl)
      (.swap _ _ _)
  exact .object (.keep (.text "note.Since") (.keep (.list (.cons element_restates .nil))
    (.drop rfl .nil))) (by simp) (fun _ => rfl) (.swap _ _ _)

theorem restates_hiddenDocument :
    Restates format maxDepth hiddenSnapshot.toJson hiddenDocument := by
  have package_restates : Restates format 125
      (PackageDecl.toJson ⟨"shop", false, [sinceUse], []⟩)
      (.ofFields [("annotations", .list [sinceDocument]), ("name", .ofString "shop"),
        ("included", .bool false)]) :=
    .object (.keep (.text "shop") (.keep (.bool false)
      (.keep (.list (.cons restates_sinceDocument .nil)) (.drop rfl .nil)))) (by simp)
      (fun _ => rfl) (@List.perm_append_comm _ [_] [_, _])
  refine .object (.keep (.list (.cons package_restates .nil)) (.drop rfl (.drop rfl .nil))) ?_
    nofun (.swap _ _ _)
  intro entry entry_mem
  obtain rfl := List.mem_singleton.mp entry_mem
  exact ⟨rfl, by simp, rfl⟩

theorem ofText?_hiddenDocument :
    hiddenSnapshot.toJson.fits maxDepth = true ∧
      ofText? hiddenSnapshot.toJson.toText = some hiddenSnapshot ∧
      ofText? hiddenText = some hiddenSnapshot := by
  have fits : hiddenSnapshot.toJson.fits maxDepth = true := by decide
  obtain ⟨written_eq, restated_eq⟩ := ofText?_toText_and_of_restates hiddenSnapshot fits
  have text_reads : Value.ofText? hiddenText = some hiddenDocument := by
    rw [← toText_hiddenDocument]
    exact ofText?_toText isWritten_hiddenDocument
  exact ⟨fits, written_eq, (restated_eq hiddenDocument restates_hiddenDocument).2 _ text_reads⟩

end Snapshot
end RefDocs
