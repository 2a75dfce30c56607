import RefDocs.Proofs.Json.Restating
import RefDocs.Snapshot.Read
import RefDocs.Snapshot.Write

/-!
# Reading restated types and annotations

What restates the JSON form of a type reference, or of an annotation, reads back as it.  The two
nest in each other, so the proof is by induction on the levels of nesting that may still be opened:
each reader is right if all readers are at fewer levels.
-/

namespace RefDocs

open Json

/-! ## Forms of lists and of missing values -/

theorem typesToJson_eq (types : List TypeRef) : typesToJson types = types.map TypeRef.toJson := by
  induction types with
  | nil => rfl
  | cons type rest ih => rw [typesToJson, ih, List.map_cons]

theorem optionalTypeToJson_eq (type? : Option TypeRef) :
    optionalTypeToJson type? = writeOption TypeRef.toJson type? := by
  cases type? <;> rfl

theorem annotationsToJson_eq (uses : List AnnotationUse) :
    annotationsToJson uses = uses.map AnnotationUse.toJson := by
  induction uses with
  | nil => rfl
  | cons use rest ih => rw [annotationsToJson, ih, List.map_cons]

theorem elementsToJson_eq (elements : List AnnotationElement) :
    elementsToJson elements = elements.map AnnotationElement.toJson := by
  induction elements with
  | nil => rfl
  | cons element rest ih => rw [elementsToJson, ih, List.map_cons]

theorem annotationValuesToJson_eq (values : List AnnotationValue) :
    annotationValuesToJson values = values.map AnnotationValue.toJson := by
  induction values with
  | nil => rfl
  | cons value rest ih => rw [annotationValuesToJson, ih, List.map_cons]

theorem TypeRef.exists_toJson_eq (type : TypeRef) : ∃ fields, type.toJson = .ofFields fields := by
  cases type <;> exact ⟨_, by rw [TypeRef.toJson]⟩

theorem TypeRef.toJson_ne_null (type : TypeRef) : type.toJson ≠ .null := by
  obtain ⟨fields, toJson_eq⟩ := type.exists_toJson_eq
  rw [toJson_eq]
  exact nofun

theorem AnnotationValue.exists_toJson_eq (value : AnnotationValue) :
    ∃ fields, value.toJson = .ofFields fields := by
  cases value <;> exact ⟨_, by rw [AnnotationValue.toJson]⟩

theorem AnnotationValue.toJson_ne_null (value : AnnotationValue) : value.toJson ≠ .null := by
  obtain ⟨fields, toJson_eq⟩ := value.exists_toJson_eq
  rw [toJson_eq]
  exact nofun

namespace Snapshot

/-! ## The format of snapshots -/

/-- The fields of a snapshot that may be left out, with what they stand for then, and the keys of
what a type is declared in.  A name that is a required field of one record and an optional field of
another is listed: a required field never holds the default. -/
def format : Format where
  default?
    | "annotation_types" | "annotations" | "args" | "body" | "bounds" | "doc" | "elements"
    | "interfaces" | "label" | "members" | "modifiers" | "packages" | "params" | "throws"
    | "type_params" | "types" => some (.list [])
    | "constant_value" | "default_value" | "deprecated" | "enclosing" | "extends" | "member"
    | "param" | "super" | "superclass" | "ty" => some .null
    | "documented" | "for_removal" | "functional" | "hidden" | "mandated" | "plain"
    | "varargs" => some (.bool false)
    | "included" => some (.bool true)
    | _ => none
  choices := ["package", "type"]

/-- No field stands for a text or for a record. -/
theorem default?_eq_some {name : String} {value : Value}
    (holds : format.default? name = some value) :
    value = .list [] ∨ value = .null ∨ ∃ flag, value = .bool flag := by
  unfold format at holds
  dsimp only at holds
  split at holds <;> cases holds <;> simp

variable {levels : Nat} {fields : List (String × Value)}
  {entries : List (Option String × Value)}

theorem default?_ne {name : String} {value : Value} (list_ne : value ≠ .list [])
    (null_ne : value ≠ .null) (flag_ne : ∀ flag, value ≠ .bool flag) :
    format.default? name ≠ some value := by
  intro holds
  rcases default?_eq_some holds with list_eq | null_eq | ⟨flag, flag_eq⟩
  · exact list_ne list_eq
  · exact null_ne null_eq
  · exact flag_ne flag flag_eq

/-! ## Fields of snapshot records

What is read from a field by its kind: a text, a record, a truth value, a list, or what may be
missing. -/

theorem text_eq (gives : GivesFields format levels fields entries) (name content : String)
    (field_mem : (name, .ofString content) ∈ fields) :
    required Value.asText? (given? name entries) = some content :=
  gives.required field_mem (default?_ne nofun nofun nofun) Restates.asText?_eq

theorem record_eq {α : Type} {read : Value → Option α} {value : Value} {content : α}
    (gives : GivesFields format levels fields entries) (name : String)
    (field_mem : (name, value) ∈ fields)
    (is_record : ∃ inner, value = .ofFields inner)
    (read_eq : ∀ value', Restates format levels value value' → read value' = some content) :
    required read (given? name entries) = some content := by
  obtain ⟨inner, rfl⟩ := is_record
  exact gives.required field_mem (default?_ne nofun nofun nofun) read_eq

theorem flag_eq {default : Bool} (gives : GivesFields format levels fields entries) (name : String)
    (flag : Bool) (field_mem : (name, .bool flag) ∈ fields)
    (default_eq : format.default? name = some (.bool default)) :
    withDefault default Value.asBool? (given? name entries) = some flag := by
  refine gives.withDefault field_mem (fun holds => ?_) Restates.asBool?_eq
  exact Value.bool.inj (Option.some.inj (default_eq.symm.trans holds))

theorem items_eq {α : Type} {write : α → Value} {read : Value → Option (List α)}
    (gives : GivesFields format levels fields entries) (name : String) (items : List α)
    (field_mem : (name, .list (items.map write)) ∈ fields)
    (default_eq : format.default? name = some (.list []))
    (read_eq : ∀ value, Restates format levels (.list (items.map write)) value →
      read value = some items) :
    withDefault [] read (given? name entries) = some items := by
  refine gives.withDefault field_mem (fun holds => ?_) read_eq
  have map_eq : [] = items.map write :=
    Value.list.inj (Option.some.inj (default_eq.symm.trans holds))
  exact (List.map_eq_nil_iff.mp map_eq.symm).symm

theorem option_eq {α : Type} {write : α → Value} {read : Value → Option α}
    (gives : GivesFields format levels fields entries) (name : String) (content? : Option α)
    (field_mem : (name, writeOption write content?) ∈ fields)
    (default_eq : format.default? name = some .null) (write_ne : ∀ content, write content ≠ .null)
    (read_eq : ∀ content value, Restates format levels (write content) value →
      read value = some content) :
    nullable read (given? name entries) = some content? := by
  cases content? with
  | none => exact gives.nullable_null field_mem
  | some content =>
      have needed : format.default? name ≠ some (write content) := fun holds =>
        write_ne content (Option.some.inj (holds.symm.trans default_eq))
      exact gives.nullable field_mem needed (write_ne content) (read_eq content)

theorem optionalText_eq (gives : GivesFields format levels fields entries) (name : String)
    (content? : Option String) (field_mem : (name, writeOption .ofString content?) ∈ fields)
    (default_eq : format.default? name = some .null) :
    nullable Value.asText? (given? name entries) = some content? :=
  option_eq gives name content? field_mem default_eq (fun _ => nofun) fun _ => Restates.asText?_eq

/-! ## Readers, given those at fewer levels -/

/-- At fewer than the given levels of nesting, types and annotations are read back. -/
structure ReadsBelow (levels : Nat) : Prop where
  type_eq : ∀ inner < levels, ∀ (source : Source) (type : TypeRef) (value : Value),
    Restates format inner type.toJson value → readTypeRef source inner value = some type
  use_eq : ∀ inner < levels, ∀ (source : Source) (use : AnnotationUse) (value : Value),
    Restates format inner use.toJson value → readUse source inner value = some use
  element_eq : ∀ inner < levels, ∀ (source : Source) (element : AnnotationElement) (value : Value),
    Restates format inner element.toJson value → readElement source inner value = some element
  value_eq : ∀ inner < levels, ∀ (source : Source) (content : AnnotationValue) (value : Value),
    Restates format inner content.toJson value →
      readAnnotationValue source inner value = some content

theorem ReadsBelow.mono {fewer : Nat} (below : ReadsBelow levels) (fewer_le : fewer ≤ levels) :
    ReadsBelow fewer where
  type_eq inner inner_lt := below.type_eq inner (by omega)
  use_eq inner inner_lt := below.use_eq inner (by omega)
  element_eq inner inner_lt := below.element_eq inner (by omega)
  value_eq inner inner_lt := below.value_eq inner (by omega)

theorem ReadsBelow.pred (below : ReadsBelow (levels + 1)) : ReadsBelow levels :=
  below.mono (by omega)

section Below

variable {value : Value}

theorem readTypeRefs_eq (below : ReadsBelow levels) (types : List TypeRef)
    (restates : Restates format levels (.list (types.map TypeRef.toJson)) value) :
    readTypeRefs levels value = some types := by
  obtain ⟨inner, items, rfl, rfl, restated⟩ := restates.of_list
  rw [readTypeRefs]
  exact mapM_eq_of_restates restated fun type _ => below.type_eq inner (by omega) .checked type

theorem readUseList_eq (below : ReadsBelow levels) (source : Source) (uses : List AnnotationUse)
    (restates : Restates format levels (.list (uses.map AnnotationUse.toJson)) value) :
    readUseList source levels value = some uses := by
  obtain ⟨inner, items, rfl, rfl, restated⟩ := restates.of_list
  rw [readUseList]
  exact mapM_eq_of_restates restated fun use _ => below.use_eq inner (by omega) source use

theorem readElements_eq (below : ReadsBelow levels) (source : Source)
    (elements : List AnnotationElement)
    (restates : Restates format levels (.list (elements.map AnnotationElement.toJson)) value) :
    readElements source levels value = some elements := by
  obtain ⟨inner, items, rfl, rfl, restated⟩ := restates.of_list
  rw [readElements]
  exact mapM_eq_of_restates restated fun element _ =>
    below.element_eq inner (by omega) source element

theorem readAnnotationValues_eq (below : ReadsBelow levels) (source : Source)
    (contents : List AnnotationValue)
    (restates : Restates format levels (.list (contents.map AnnotationValue.toJson)) value) :
    readAnnotationValues source levels value = some contents := by
  obtain ⟨inner, items, rfl, rfl, restated⟩ := restates.of_list
  rw [readAnnotationValues]
  exact mapM_eq_of_restates restated fun content _ =>
    below.value_eq inner (by omega) source content

theorem readUse_eq (below : ReadsBelow levels) (source : Source) (use : AnnotationUse)
    (restates : Restates format levels use.toJson value) :
    readUse source levels value = some use := by
  obtain ⟨typeName, elements, mandated⟩ := use
  rw [AnnotationUse.toJson, elementsToJson_eq] at restates
  obtain ⟨inner, entries, rfl, rfl, gives⟩ := restates.of_fields (by simp)
  have typeName_eq := text_eq gives "type_name" typeName (by simp)
  have elements_eq := items_eq gives "elements" elements (by simp) rfl fun _ =>
    readElements_eq below.pred source elements
  have mandated_eq := flag_eq gives "mandated" mandated (by simp) rfl
  simp [readUse, gives.fields?_eq, typeName_eq, elements_eq, mandated_eq]

theorem readElement_eq (below : ReadsBelow levels) (source : Source) (element : AnnotationElement)
    (restates : Restates format levels element.toJson value) :
    readElement source levels value = some element := by
  obtain ⟨name, content⟩ := element
  rw [AnnotationElement.toJson] at restates
  obtain ⟨inner, entries, rfl, rfl, gives⟩ := restates.of_fields (by simp)
  have name_eq := text_eq gives "name" name (by simp)
  have content_eq := record_eq gives "value" (by simp) content.exists_toJson_eq
    (below.value_eq inner (by omega) source content)
  simp [readElement, gives.fields?_eq, name_eq, content_eq]

theorem optionalType_eq (below : ReadsBelow (levels + 1))
    (gives : GivesFields format levels fields entries) (name : String) (type? : Option TypeRef)
    (field_mem : (name, writeOption TypeRef.toJson type?) ∈ fields)
    (default_eq : format.default? name = some .null) :
    nullable (readTypeRef .checked levels) (given? name entries) = some type? :=
  option_eq gives name type? field_mem default_eq TypeRef.toJson_ne_null
    (below.type_eq levels (by omega) .checked)

theorem types_eq (below : ReadsBelow levels) (gives : GivesFields format levels fields entries)
    (name : String) (types : List TypeRef)
    (field_mem : (name, .list (types.map TypeRef.toJson)) ∈ fields)
    (default_eq : format.default? name = some (.list [])) :
    withDefault [] (readTypeRefs levels) (given? name entries) = some types :=
  items_eq gives name types field_mem default_eq fun _ => readTypeRefs_eq below types

theorem uses_eq (below : ReadsBelow levels) (gives : GivesFields format levels fields entries)
    (uses : List AnnotationUse)
    (field_mem : ("annotations", .list (uses.map AnnotationUse.toJson)) ∈ fields) :
    withDefault [] (readUseList .checked levels) (given? "annotations" entries) = some uses :=
  items_eq gives "annotations" uses field_mem rfl fun _ => readUseList_eq below .checked uses

theorem readTypeRef_eq (below : ReadsBelow levels) (source : Source) (type : TypeRef)
    (restates : Restates format levels type.toJson value) :
    readTypeRef source levels value = some type := by
  cases type with
  | declared name arguments enclosing annotations =>
      rw [TypeRef.toJson, typesToJson_eq, optionalTypeToJson_eq, annotationsToJson_eq] at restates
      obtain ⟨inner, entries, rfl, split_eq, gives⟩ := restates.of_tagged (by simp) rfl
      have name_eq := text_eq gives "name" name (by simp)
      have arguments_eq := types_eq below.pred gives "args" arguments (by simp) rfl
      have enclosing_eq := optionalType_eq below gives "enclosing" enclosing (by simp) rfl
      have annotations_eq := uses_eq below.pred gives annotations (by simp)
      simp [readTypeRef, split_eq, gives.fields?_eq, name_eq, arguments_eq, enclosing_eq,
        annotations_eq]
  | typeVariable name bounds annotations =>
      rw [TypeRef.toJson, typesToJson_eq, annotationsToJson_eq] at restates
      obtain ⟨inner, entries, rfl, split_eq, gives⟩ := restates.of_tagged (by simp) rfl
      have name_eq := text_eq gives "name" name (by simp)
      have bounds_eq := types_eq below.pred gives "bounds" bounds (by simp) rfl
      have annotations_eq := uses_eq below.pred gives annotations (by simp)
      simp [readTypeRef, split_eq, gives.fields?_eq, name_eq, bounds_eq, annotations_eq]
  | wildcard upper lower annotations =>
      rw [TypeRef.toJson, optionalTypeToJson_eq, optionalTypeToJson_eq, annotationsToJson_eq]
        at restates
      obtain ⟨inner, entries, rfl, split_eq, gives⟩ := restates.of_tagged (by simp) rfl
      have upper_eq := optionalType_eq below gives "extends" upper (by simp) rfl
      have lower_eq := optionalType_eq below gives "super" lower (by simp) rfl
      have annotations_eq := uses_eq below.pred gives annotations (by simp)
      simp [readTypeRef, split_eq, gives.fields?_eq, upper_eq, lower_eq, annotations_eq]
  | primitive name annotations =>
      rw [TypeRef.toJson, annotationsToJson_eq] at restates
      obtain ⟨inner, entries, rfl, split_eq, gives⟩ := restates.of_tagged (by simp) rfl
      have name_eq := text_eq gives "name" name (by simp)
      have annotations_eq := uses_eq below.pred gives annotations (by simp)
      simp [readTypeRef, split_eq, gives.fields?_eq, name_eq, annotations_eq]
  | array component annotations =>
      rw [TypeRef.toJson, annotationsToJson_eq] at restates
      obtain ⟨inner, entries, rfl, split_eq, gives⟩ := restates.of_tagged (by simp) rfl
      have component_eq := record_eq gives "component" (by simp) component.exists_toJson_eq
        (below.type_eq inner (by omega) .checked component)
      have annotations_eq := uses_eq below.pred gives annotations (by simp)
      simp [readTypeRef, split_eq, gives.fields?_eq, component_eq, annotations_eq]
  | void =>
      rw [TypeRef.toJson] at restates
      obtain ⟨inner, entries, rfl, split_eq, gives⟩ := restates.of_tagged (by simp) rfl
      simp [readTypeRef, split_eq, Value.isBlankRecord]

/-- The tag of a restated annotation value, and its content, are found in either order. -/
theorem annotationParts?_eq {tag : String} {content : Value} (source : Source)
    (restates : Restates format (levels + 1)
      (.ofFields [("kind", .ofString tag), ("value", content)]) value) :
    ∃ content' source', annotationParts? source levels value = some (tag, content', source') ∧
      Restates format levels content content' := by
  obtain ⟨inner, entries, levels_eq, rfl, gives⟩ := restates.of_fields (by simp)
  obtain rfl : levels = inner := by omega
  obtain ⟨tag', tag_eq, tag_restates⟩ :=
    gives.exists_restates "kind" List.mem_cons_self nofun
  obtain ⟨content', content_eq, content_restates⟩ :=
    gives.exists_restates "value" (List.mem_cons_of_mem _ List.mem_cons_self) nofun
  obtain rfl := tag_restates.eq_ofString
  have all_keyed : (entries.all fun entry => entry.1.isSome) = true :=
    List.all_eq_true.mpr gives.keyed
  have tag_word : (Value.ofString tag).asWord? source levels = some tag := by
    simp [Value.ofString, Value.asWord?]
  simp only [annotationParts?, all_keyed, tag_eq, content_eq]
  -- What remains depends only on which of the two keys comes first.
  generalize Option.any _ _ = contentFirst
  cases contentFirst with
  | true => exact ⟨content', .checked, by simp [tag_word, content_restates.fits], content_restates⟩
  | false => exact ⟨content', source, by simp [tag_word], content_restates⟩

theorem readAnnotationValue_eq (below : ReadsBelow levels) (source : Source)
    (content : AnnotationValue) (restates : Restates format levels content.toJson value) :
    readAnnotationValue source levels value = some content := by
  obtain ⟨inner, rfl⟩ : ∃ inner, levels = inner + 1 := by
    obtain ⟨fields, toJson_eq⟩ := content.exists_toJson_eq
    rw [toJson_eq] at restates
    cases restates with
    | object => exact ⟨_, rfl⟩
  cases content with
  | literal text =>
      rw [AnnotationValue.toJson] at restates
      obtain ⟨value', source', parts_eq, restates⟩ := annotationParts?_eq source restates
      simp [readAnnotationValue, parts_eq, restates.asText?_eq]
  | type type =>
      rw [AnnotationValue.toJson] at restates
      obtain ⟨value', source', parts_eq, restates⟩ := annotationParts?_eq source restates
      have type_eq := below.type_eq inner (by omega) source' type value' restates
      simp [readAnnotationValue, parts_eq, restates.fits, type_eq]
  | enumConstant typeName constant =>
      rw [AnnotationValue.toJson] at restates
      obtain ⟨value', source', parts_eq, restates⟩ := annotationParts?_eq source restates
      obtain ⟨inner, entries, rfl, rfl, gives⟩ := restates.of_fields (by simp)
      have typeName_eq := text_eq gives "type_name" typeName (by simp)
      have constant_eq := text_eq gives "constant" constant (by simp)
      simp [readAnnotationValue, parts_eq, gives.fields?_eq, typeName_eq, constant_eq]
  | nested use =>
      rw [AnnotationValue.toJson] at restates
      obtain ⟨value', source', parts_eq, restates⟩ := annotationParts?_eq source restates
      have use_eq := below.use_eq inner (by omega) source' use value' restates
      simp [readAnnotationValue, parts_eq, use_eq]
  | array contents =>
      rw [AnnotationValue.toJson, annotationValuesToJson_eq] at restates
      obtain ⟨value', source', parts_eq, restates⟩ := annotationParts?_eq source restates
      have contents_eq := readAnnotationValues_eq below.pred source' contents restates
      simp [readAnnotationValue, parts_eq, contents_eq]

end Below

/-- Types and annotations are read back at any number of levels that they fit. -/
theorem readsBelow (levels : Nat) : ReadsBelow levels := by
  induction levels with
  | zero => exact ⟨nofun, nofun, nofun, nofun⟩
  | succ levels below =>
      -- Records and lists each take a level, so a reader calls the others at fewer levels only.
      have below_inner (inner : Nat) (inner_lt : inner < levels + 1) : ReadsBelow inner :=
        below.mono (by omega)
      exact {
        type_eq := fun inner inner_lt source type _ =>
          readTypeRef_eq (below_inner inner inner_lt) source type
        use_eq := fun inner inner_lt source use _ =>
          readUse_eq (below_inner inner inner_lt) source use
        element_eq := fun inner inner_lt source element _ =>
          readElement_eq (below_inner inner inner_lt) source element
        value_eq := fun inner inner_lt source content _ =>
          readAnnotationValue_eq (below_inner inner inner_lt) source content }

end Snapshot
end RefDocs
