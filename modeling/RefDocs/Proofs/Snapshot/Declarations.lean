import RefDocs.Proofs.Snapshot.Types

/-!
# Reading restated declarations

What restates the JSON form of a comment, of a declaration or of a whole snapshot reads back as it.
Comments nest in themselves and are read by induction on the levels of nesting; declarations are
read field by field.
-/

namespace RefDocs

open Json

theorem docToJson_eq (nodes : List DocNode) : docToJson nodes = nodes.map DocNode.toJson := by
  induction nodes with
  | nil => rfl
  | cons node rest ih => rw [docToJson, ih, List.map_cons]

theorem Enclosing.exists_toJson_eq (enclosing : Enclosing) :
    ∃ fields, enclosing.toJson = .ofFields fields := by
  cases enclosing <;> exact ⟨_, rfl⟩

namespace Snapshot

variable {levels : Nat} {value : Value} {fields : List (String × Value)}
  {entries : List (Option String × Value)}

/-! ## Comments -/

/-- A tagged record with one text field is split into its tag and the text. -/
theorem exists_readOnly_eq {tag name content : String}
    (restates : Restates format levels
      (.ofFields [("kind", .ofString tag), (name, .ofString content)]) value)
    (name_ne : name ≠ "kind") :
    ∃ inner rest, levels = inner + 1 ∧
      (∀ source tags, value.splitTag? source tags = some (tag, rest)) ∧
      readOnly name rest = some content := by
  obtain ⟨inner, entries, rfl, split_eq, gives⟩ := restates.of_tagged (by simp [name_ne.symm]) rfl
  have content_eq := text_eq gives name content (by simp)
  exact ⟨inner, .object entries, rfl, split_eq, by simp [readOnly, gives.fields?_eq, content_eq]⟩

/-- A node of a comment is read back if those at fewer levels of nesting are. -/
theorem readDocNode_eq_of_below
    (below : ∀ inner < levels, ∀ (source : Source) (node : DocNode) (value : Value),
      Restates format inner node.toJson value → readDocNode source inner value = some node)
    (source : Source) (node : DocNode) (restates : Restates format levels node.toJson value) :
    readDocNode source levels value = some node := by
  -- A list of nodes takes a level of its own, whose items stand at fewer levels still.
  have nodes_eq {inner : Nat} (inner_lt : inner < levels) (nodes : List DocNode) (value : Value)
      (restates : Restates format inner (.list (nodes.map DocNode.toJson)) value) :
      readDocNodes inner value = some nodes := by
    obtain ⟨inner, items, rfl, rfl, restated⟩ := restates.of_list
    rw [readDocNodes]
    exact mapM_eq_of_restates restated fun node _ => below inner (by omega) .checked node
  cases node with
  | text content | comment content | code content | literal content =>
      rw [DocNode.toJson] at restates
      obtain ⟨inner, rest, rfl, split_eq, content_eq⟩ := exists_readOnly_eq restates (by simp)
      simp [readDocNode, split_eq, content_eq]
  | startElement name | endElement name | entity name =>
      rw [DocNode.toJson] at restates
      obtain ⟨inner, rest, rfl, split_eq, name_eq⟩ := exists_readOnly_eq restates (by simp)
      simp [readDocNode, split_eq, name_eq]
  | link target member label plain =>
      rw [DocNode.toJson, docToJson_eq] at restates
      obtain ⟨inner, entries, rfl, split_eq, gives⟩ := restates.of_tagged (by simp) rfl
      have target_eq := text_eq gives "target" target (by simp)
      have member_eq := optionalText_eq gives "member" member (by simp) rfl
      have label_eq := items_eq gives "label" label (by simp) rfl (nodes_eq (by omega) label)
      have plain_eq := flag_eq gives "plain" plain (by simp) rfl
      simp [readDocNode, split_eq, gives.fields?_eq, target_eq, member_eq, label_eq, plain_eq]
  | blockTag name param body =>
      rw [DocNode.toJson, docToJson_eq] at restates
      obtain ⟨inner, entries, rfl, split_eq, gives⟩ := restates.of_tagged (by simp) rfl
      have name_eq := text_eq gives "name" name (by simp)
      have param_eq := optionalText_eq gives "param" param (by simp) rfl
      have body_eq := items_eq gives "body" body (by simp) rfl (nodes_eq (by omega) body)
      simp [readDocNode, split_eq, gives.fields?_eq, name_eq, param_eq, body_eq]

theorem readDocNode_eq (levels : Nat) (source : Source) (node : DocNode) (value : Value)
    (restates : Restates format levels node.toJson value) :
    readDocNode source levels value = some node := by
  induction levels using Nat.strongRecOn generalizing source node value with
  | ind levels below => exact readDocNode_eq_of_below below source node restates

/-! ## Parts of declarations -/

theorem checkedFirst_eq {α : Type} {read : Source → Nat → Value → Option α} {value' : Value}
    {content : α} (restates : Restates format levels value value')
    (read_eq : read .direct levels value' = some content) :
    checkedFirst read .direct levels value' = some content := by
  rw [checkedFirst, restates.fits, Bool.or_true, if_pos rfl]
  exact read_eq

theorem readType_eq (levels : Nat) (type : TypeRef) (value : Value)
    (restates : Restates format levels type.toJson value) : readType levels value = some type :=
  checkedFirst_eq restates
    ((readsBelow (levels + 1)).type_eq levels (by omega) .direct type value restates)

theorem readAnnotationValue_eq_some (levels : Nat) (content : AnnotationValue) (value : Value)
    (restates : Restates format levels content.toJson value) :
    readAnnotationValue .direct levels value = some content :=
  (readsBelow (levels + 1)).value_eq levels (by omega) .direct content value restates

/-- The word of an item of a closed list is read back as it. -/
theorem readWord_eq {α : Type} {word : α → String} {all : List α}
    (word_eq : ∀ item, ofWord? word all (word item) = some item) (levels : Nat) (value : Value)
    (item : α) (restates : Restates format levels (.ofString (word item)) value) :
    readWord word all levels value = some item := by
  rw [restates.eq_ofString, readWord, Value.ofString]
  simp [Value.asWord?, word_eq]

theorem kind_eq {α : Type} {word : α → String} {all : List α}
    (gives : GivesFields format levels fields entries) (item : α)
    (field_mem : ("kind", .ofString (word item)) ∈ fields)
    (word_eq : ∀ item, ofWord? word all (word item) = some item) :
    required (readWord word all levels) (given? "kind" entries) = some item :=
  gives.required field_mem (default?_ne nofun nofun nofun) fun value =>
    readWord_eq word_eq levels value item

theorem optionalType_field_eq (gives : GivesFields format levels fields entries) (name : String)
    (type? : Option TypeRef) (field_mem : (name, optionalTypeToJson type?) ∈ fields)
    (default_eq : format.default? name = some .null) :
    nullable (readType levels) (given? name entries) = some type? := by
  rw [optionalTypeToJson_eq] at field_mem
  exact option_eq gives name type? field_mem default_eq TypeRef.toJson_ne_null (readType_eq levels)

theorem types_field_eq (gives : GivesFields format levels fields entries) (name : String)
    (types : List TypeRef) (field_mem : (name, .list (typesToJson types)) ∈ fields)
    (default_eq : format.default? name = some (.list [])) :
    withDefault [] (readTypes levels) (given? name entries) = some types := by
  rw [typesToJson_eq] at field_mem
  exact items_eq gives name types field_mem default_eq fun value restates =>
    restates.asList?_eq value fun inner value type => readType_eq inner type value

theorem uses_field_eq (gives : GivesFields format levels fields entries)
    (uses : List AnnotationUse)
    (field_mem : ("annotations", .list (annotationsToJson uses)) ∈ fields) :
    withDefault [] (readUses levels) (given? "annotations" entries) = some uses := by
  rw [annotationsToJson_eq] at field_mem
  exact items_eq gives "annotations" uses field_mem rfl fun _ =>
    readUseList_eq (readsBelow levels) .direct uses

theorem doc_field_eq (gives : GivesFields format levels fields entries) (doc : List DocNode)
    (field_mem : ("doc", .list (docToJson doc)) ∈ fields) :
    withDefault [] (readDoc levels) (given? "doc" entries) = some doc := by
  rw [docToJson_eq] at field_mem
  exact items_eq gives "doc" doc field_mem rfl fun value restates =>
    restates.asList?_eq value fun inner value node restates =>
      checkedFirst_eq restates (readDocNode_eq inner .direct node value restates)

theorem list_field_eq {α : Type} {write : α → Value} {read : Nat → Value → Option α}
    (gives : GivesFields format levels fields entries) (name : String) (items : List α)
    (field_mem : (name, writeList write items) ∈ fields)
    (default_eq : format.default? name = some (.list []))
    (read_eq : ∀ inner value item, Restates format inner (write item) value →
      read inner value = some item) :
    withDefault [] (Value.asList? read levels) (given? name entries) = some items :=
  items_eq gives name items field_mem default_eq fun value restates =>
    restates.asList?_eq value read_eq

theorem ofWord?_keyword (modifier : Modifier) :
    ofWord? Modifier.keyword Modifier.all modifier.keyword = some modifier := by
  cases modifier <;> rfl

theorem ofWord?_memberKind (kind : MemberKind) :
    ofWord? MemberKind.word MemberKind.all kind.word = some kind := by
  cases kind <;> rfl

theorem ofWord?_typeKind (kind : TypeKind) :
    ofWord? TypeKind.word TypeKind.all kind.word = some kind := by
  cases kind <;> rfl

theorem modifiers_field_eq (gives : GivesFields format levels fields entries)
    (modifiers : List Modifier) (field_mem : ("modifiers", modifiersToJson modifiers) ∈ fields) :
    withDefault [] (readModifiers levels) (given? "modifiers" entries) = some modifiers :=
  list_field_eq gives "modifiers" modifiers field_mem rfl
    (readWord_eq ofWord?_keyword)

theorem readDeprecation_eq (levels : Nat) (deprecation : Deprecation) (value : Value)
    (restates : Restates format levels deprecation.toJson value) :
    readDeprecation levels value = some deprecation := by
  obtain ⟨inner, entries, rfl, rfl, gives⟩ := restates.of_fields (by simp)
  have forRemoval_eq := flag_eq gives "for_removal" deprecation.forRemoval (by simp) rfl
  have doc_eq := doc_field_eq gives deprecation.doc (by simp)
  simp [readDeprecation, gives.fields?_eq, forRemoval_eq, doc_eq]

theorem deprecated_eq (gives : GivesFields format levels fields entries)
    (deprecation? : Option Deprecation)
    (field_mem : ("deprecated", writeOption Deprecation.toJson deprecation?) ∈ fields) :
    nullable (readDeprecation levels) (given? "deprecated" entries) = some deprecation? :=
  option_eq gives "deprecated" deprecation? field_mem rfl (fun _ => nofun)
    (readDeprecation_eq levels)

theorem readTypeParameter_eq (levels : Nat) (value : Value) (parameter : TypeParameter)
    (restates : Restates format levels parameter.toJson value) :
    readTypeParameter levels value = some parameter := by
  obtain ⟨inner, entries, rfl, rfl, gives⟩ := restates.of_fields (by simp)
  have name_eq := text_eq gives "name" parameter.name (by simp)
  have bounds_eq := types_field_eq gives "bounds" parameter.bounds (by simp) rfl
  have annotations_eq := uses_field_eq gives parameter.annotations (by simp)
  simp [readTypeParameter, gives.fields?_eq, name_eq, bounds_eq, annotations_eq]

theorem readParameter_eq (levels : Nat) (value : Value) (parameter : Parameter)
    (restates : Restates format levels parameter.toJson value) :
    readParameter levels value = some parameter := by
  obtain ⟨inner, entries, rfl, rfl, gives⟩ := restates.of_fields (by simp)
  have name_eq := text_eq gives "name" parameter.name (by simp)
  have type_eq := record_eq gives "ty" (by simp) parameter.type.exists_toJson_eq
    (readType_eq inner parameter.type)
  have annotations_eq := uses_field_eq gives parameter.annotations (by simp)
  have varargs_eq := flag_eq gives "varargs" parameter.varargs (by simp) rfl
  simp [readParameter, gives.fields?_eq, name_eq, type_eq, annotations_eq, varargs_eq]

theorem readMember_eq (levels : Nat) (value : Value) (member : Member)
    (restates : Restates format levels member.toJson value) :
    readMember levels value = some member := by
  obtain ⟨inner, entries, rfl, rfl, gives⟩ := restates.of_fields (by simp)
  have kind_eq := kind_eq gives member.kind (by simp) ofWord?_memberKind
  have name_eq := text_eq gives "name" member.name (by simp)
  have modifiers_eq := modifiers_field_eq gives member.modifiers (by simp)
  have type_eq := optionalType_field_eq gives "ty" member.type (by simp) rfl
  have parameters_eq :=
    list_field_eq gives "params" member.parameters (by simp) rfl readParameter_eq
  have typeParameters_eq :=
    list_field_eq gives "type_params" member.typeParameters (by simp) rfl readTypeParameter_eq
  have throws_eq := types_field_eq gives "throws" member.throws (by simp) rfl
  have defaultValue_eq := option_eq gives "default_value" member.defaultValue (by simp) rfl
    AnnotationValue.toJson_ne_null (readAnnotationValue_eq_some inner)
  have constantValue_eq := optionalText_eq gives "constant_value" member.constantValue (by simp) rfl
  have annotations_eq := uses_field_eq gives member.annotations (by simp)
  have deprecated_eq := deprecated_eq gives member.deprecated (by simp)
  have doc_eq := doc_field_eq gives member.doc (by simp)
  -- From the front, step by step: under the first step the later ones would be met once more.
  simp only [readMember, ↓gives.bind_fields?_eq, List.map_cons, List.map_nil,
    ↓bind_of_eq_some kind_eq, ↓bind_of_eq_some name_eq, ↓bind_of_eq_some modifiers_eq,
    ↓bind_of_eq_some type_eq, ↓bind_of_eq_some parameters_eq,
    ↓bind_of_eq_some typeParameters_eq, ↓bind_of_eq_some throws_eq,
    ↓bind_of_eq_some defaultValue_eq, ↓bind_of_eq_some constantValue_eq,
    ↓bind_of_eq_some annotations_eq, ↓bind_of_eq_some deprecated_eq, ↓bind_of_eq_some doc_eq,
    Option.pure_def]

/-! ## Declarations -/

theorem readEnclosing_eq (levels : Nat) (enclosing : Enclosing) (value : Value)
    (restates : Restates format levels enclosing.toJson value) :
    readEnclosing levels value = some enclosing := by
  cases enclosing with
  | package name =>
      obtain ⟨inner, content, rfl, rfl, content_restates⟩ :=
        restates.of_choice (by simp [format]) nofun
      rw [content_restates.eq_ofString]
      rfl
  | type name =>
      obtain ⟨inner, content, rfl, rfl, content_restates⟩ :=
        restates.of_choice (by simp [format]) nofun
      rw [content_restates.eq_ofString]
      rfl

theorem readPackage_eq (levels : Nat) (value : Value) (decl : PackageDecl)
    (restates : Restates format levels decl.toJson value) :
    readPackage levels value = some decl := by
  obtain ⟨inner, entries, rfl, rfl, gives⟩ := restates.of_fields (by simp)
  have name_eq := text_eq gives "name" decl.name (by simp)
  have included_eq := flag_eq gives "included" decl.included (by simp) rfl
  have annotations_eq := uses_field_eq gives decl.annotations (by simp)
  have doc_eq := doc_field_eq gives decl.doc (by simp)
  simp [readPackage, gives.fields?_eq, name_eq, included_eq, annotations_eq, doc_eq]

theorem readTypeDecl_eq (levels : Nat) (value : Value) (decl : TypeDecl)
    (restates : Restates format levels decl.toJson value) :
    readTypeDecl levels value = some decl := by
  obtain ⟨inner, entries, rfl, rfl, gives⟩ := restates.of_fields (by simp)
  have qualifiedName_eq := text_eq gives "qualified_name" decl.qualifiedName (by simp)
  have simpleName_eq := text_eq gives "simple_name" decl.simpleName (by simp)
  have kind_eq := kind_eq gives decl.kind (by simp) ofWord?_typeKind
  have enclosing_eq := record_eq gives "enclosing" (by simp) decl.enclosing.exists_toJson_eq
    (readEnclosing_eq inner decl.enclosing)
  have superclass_eq := optionalType_field_eq gives "superclass" decl.superclass (by simp) rfl
  have interfaces_eq := types_field_eq gives "interfaces" decl.interfaces (by simp) rfl
  have typeParameters_eq :=
    list_field_eq gives "type_params" decl.typeParameters (by simp) rfl readTypeParameter_eq
  have annotations_eq := uses_field_eq gives decl.annotations (by simp)
  have members_eq := list_field_eq gives "members" decl.members (by simp) rfl readMember_eq
  have modifiers_eq := modifiers_field_eq gives decl.modifiers (by simp)
  have deprecated_eq := deprecated_eq gives decl.deprecated (by simp)
  have doc_eq := doc_field_eq gives decl.doc (by simp)
  have included_eq := flag_eq gives "included" decl.included (by simp) rfl
  have hidden_eq := flag_eq gives "hidden" decl.hidden (by simp) rfl
  have documented_eq := flag_eq gives "documented" decl.documented (by simp) rfl
  have functional_eq := flag_eq gives "functional" decl.functional (by simp) rfl
  simp only [readTypeDecl, ↓gives.bind_fields?_eq, List.map_cons, List.map_nil,
    ↓bind_of_eq_some qualifiedName_eq, ↓bind_of_eq_some simpleName_eq, ↓bind_of_eq_some kind_eq,
    ↓bind_of_eq_some enclosing_eq, ↓bind_of_eq_some superclass_eq,
    ↓bind_of_eq_some interfaces_eq, ↓bind_of_eq_some typeParameters_eq,
    ↓bind_of_eq_some annotations_eq, ↓bind_of_eq_some members_eq, ↓bind_of_eq_some modifiers_eq,
    ↓bind_of_eq_some deprecated_eq, ↓bind_of_eq_some doc_eq, ↓bind_of_eq_some included_eq,
    ↓bind_of_eq_some hidden_eq, ↓bind_of_eq_some documented_eq,
    ↓bind_of_eq_some functional_eq, Option.pure_def]

theorem readExternal_eq (levels : Nat) (value : Value) (external : ExternalAnnotation)
    (restates : Restates format levels external.toJson value) :
    readExternal levels value = some external := by
  obtain ⟨inner, entries, rfl, rfl, gives⟩ := restates.of_fields (by simp)
  have name_eq := text_eq gives "name" external.name (by simp)
  have documented_eq := flag_eq gives "documented" external.documented (by simp) rfl
  simp [readExternal, gives.fields?_eq, name_eq, documented_eq]

/-- What restates the JSON form of a snapshot is read back as it. -/
theorem read_eq_of_restates (snapshot : Snapshot)
    (restates : Restates format levels snapshot.toJson value) :
    read levels value = some snapshot := by
  obtain ⟨inner, entries, rfl, rfl, gives⟩ := restates.of_fields (by simp)
  have packages_eq := list_field_eq gives "packages" snapshot.packages (by simp) rfl readPackage_eq
  have types_eq := list_field_eq gives "types" snapshot.types (by simp) rfl readTypeDecl_eq
  have annotationTypes_eq :=
    list_field_eq gives "annotation_types" snapshot.annotationTypes (by simp) rfl readExternal_eq
  simp [read, gives.fields?_eq, packages_eq, types_eq, annotationTypes_eq]

end Snapshot
end RefDocs
