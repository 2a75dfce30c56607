import RefDocs.Json.Record
import Mathlib.Data.List.Forall2
import Mathlib.Data.List.Nodup

/-!
# Restated JSON documents

A format says which fields of records may be left out, and what they stand for then.  A document
restates another if the keys of its objects come in any order, fields are left out that hold what
they stand for, and records have unknown fields.  What reads a record field by field takes the same
from both.
-/

namespace RefDocs
namespace Json

/-- What a writer of documents may leave out, and where nothing may be added. -/
structure Format where
  /-- What a field stands for if it is left out. -/
  default? : String → Option Value
  /-- The keys of choices: an object with such a key as its only one is not a record. -/
  choices : List String

/-- The entries are those of a choice. -/
def Format.isChoice (format : Format) : List (Option String × Value) → Bool
  | [(some key, _)] => format.choices.contains key
  | _ => false

/-- An entry whose key is none of the fields, with a value that is not nested too deep. -/
def IsUnknown (levels : Nat) (fields : List (Option String × Value))
    (entry : Option String × Value) : Prop :=
  entry.1.isSome = true ∧ entry.1 ∉ fields.map Prod.fst ∧ entry.2.fits levels = true

mutual

/-- The second value restates the first with at most the given levels of nesting.  A restated object
has the kept fields and the unknown ones in any order. -/
inductive Restates (format : Format) : Nat → Value → Value → Prop where
  | null {levels : Nat} : Restates format levels .null .null
  | bool {levels : Nat} (flag : Bool) : Restates format levels (.bool flag) (.bool flag)
  | number {levels : Nat} {numeral : Numeral} (finite : numeral.isFinite = true) :
      Restates format levels (.number numeral) (.number numeral)
  | text {levels : Nat} (content : String) :
      Restates format levels (.text (some content)) (.text (some content))
  | list {levels : Nat} {items items' : List Value} (all : RestatesAll format levels items items') :
      Restates format (levels + 1) (.list items) (.list items')
  | object {levels : Nat} {fields kept unknown entries : List (Option String × Value)}
      (restated : RestatesFields format levels fields kept)
      (all_unknown : ∀ entry ∈ unknown, IsUnknown levels fields entry)
      (choice_closed : format.isChoice fields = true → unknown = [])
      (permuted : entries.Perm (kept ++ unknown)) :
      Restates format (levels + 1) (.object fields) (.object entries)

/-- Each item of the second list restates the item in its place of the first. -/
inductive RestatesAll (format : Format) : Nat → List Value → List Value → Prop where
  | nil {levels : Nat} : RestatesAll format levels [] []
  | cons {levels : Nat} {item item' : Value} {items items' : List Value}
      (head : Restates format levels item item') (tail : RestatesAll format levels items items') :
      RestatesAll format levels (item :: items) (item' :: items')

/-- The second list restates the fields of the first, but may lack some that hold their default. -/
inductive RestatesFields (format : Format) :
    Nat → List (Option String × Value) → List (Option String × Value) → Prop where
  | nil {levels : Nat} : RestatesFields format levels [] []
  | keep {levels : Nat} {name : String} {value value' : Value}
      {fields kept : List (Option String × Value)} (head : Restates format levels value value')
      (tail : RestatesFields format levels fields kept) :
      RestatesFields format levels ((some name, value) :: fields) ((some name, value') :: kept)
  | drop {levels : Nat} {name : String} {value : Value}
      {fields kept : List (Option String × Value)} (holds : format.default? name = some value)
      (tail : RestatesFields format levels fields kept) :
      RestatesFields format levels ((some name, value) :: fields) kept

end

variable {format : Format} {levels : Nat}

/-! ## What fits -/

theorem entriesFit_iff {entries : List (Option String × Value)} :
    Value.entriesFit levels entries = true ↔
      ∀ entry ∈ entries, entry.1.isSome = true ∧ entry.2.fits levels = true := by
  induction entries with
  | nil => simp [Value.entriesFit]
  | cons entry rest ih => simp [Value.entriesFit, ih]

mutual

/-- A value restated within some levels of nesting fits them. -/
theorem Restates.fits {levels : Nat} {value value' : Value} :
    Restates format levels value value' → value'.fits levels = true
  | .null | .bool _ | .text _ => by simp [Value.fits]
  | .number finite => by simpa [Value.fits] using finite
  | .list all => by simpa [Value.fits] using all.fits
  | .object restated all_unknown _ permuted => by
      rw [Value.fits, entriesFit_iff]
      intro entry entry_mem
      rcases List.mem_append.mp (permuted.mem_iff.mp entry_mem) with kept_mem | unknown_mem
      · exact entriesFit_iff.mp restated.fits entry kept_mem
      · exact ⟨(all_unknown entry unknown_mem).1, (all_unknown entry unknown_mem).2.2⟩

theorem RestatesAll.fits {levels : Nat} {items items' : List Value} :
    RestatesAll format levels items items' → Value.allFit levels items' = true
  | .nil => rfl
  | .cons head tail => by rw [Value.allFit, head.fits, tail.fits, Bool.and_true]

theorem RestatesFields.fits {levels : Nat} {fields kept : List (Option String × Value)} :
    RestatesFields format levels fields kept → Value.entriesFit levels kept = true
  | .nil => rfl
  | .keep head tail => by
      rw [Value.entriesFit, head.fits, tail.fits, Option.isSome_some, Bool.and_true, Bool.and_true]
  | .drop _ tail => tail.fits

end

mutual

/-- Each value that fits restates itself. -/
theorem Restates.refl {levels : Nat} : (value : Value) → value.fits levels = true →
    Restates format levels value value
  | .null, _ => .null
  | .bool flag, _ => .bool flag
  | .number _, fits => .number (by simpa [Value.fits] using fits)
  | .text content, fits => by
      obtain ⟨content, rfl⟩ := Option.isSome_iff_exists.mp (by simpa [Value.fits] using fits)
      exact .text content
  | .list items, fits => by
      cases levels with
      | zero => simp [Value.fits] at fits
      | succ levels => exact .list (RestatesAll.refl items (by simpa [Value.fits] using fits))
  | .object entries, fits => by
      cases levels with
      | zero => simp [Value.fits] at fits
      | succ levels =>
          exact .object (RestatesFields.refl entries (by simpa [Value.fits] using fits))
            (by simp) (fun _ => rfl) (by rw [List.append_nil])

theorem RestatesAll.refl {levels : Nat} : (items : List Value) →
    Value.allFit levels items = true → RestatesAll format levels items items
  | [], _ => .nil
  | item :: rest, fits => by
      rw [Value.allFit, Bool.and_eq_true] at fits
      exact .cons (Restates.refl item fits.1) (RestatesAll.refl rest fits.2)

theorem RestatesFields.refl {levels : Nat} : (fields : List (Option String × Value)) →
    Value.entriesFit levels fields = true → RestatesFields format levels fields fields
  | [], _ => .nil
  | (key, value) :: rest, fits => by
      rw [Value.entriesFit, Bool.and_eq_true, Bool.and_eq_true] at fits
      obtain ⟨name, rfl⟩ := Option.isSome_iff_exists.mp fits.1.1
      exact .keep (Restates.refl value fits.1.2) (RestatesFields.refl rest fits.2)

end

/-! ## Texts, truth values and lists -/

theorem Restates.eq_ofString {content : String} {value : Value}
    (restates : Restates format levels (.ofString content) value) : value = .ofString content := by
  cases restates with
  | text => rfl

theorem Restates.asText?_eq {content : String} (value : Value)
    (restates : Restates format levels (.ofString content) value) :
    value.asText? = some content := by
  rw [restates.eq_ofString]
  rfl

theorem Restates.asBool?_eq {flag : Bool} (value : Value)
    (restates : Restates format levels (.bool flag) value) : value.asBool? = some flag := by
  cases restates with
  | bool => rfl

theorem Restates.ne_null {value value' : Value} (restates : Restates format levels value value')
    (value_ne : value ≠ .null) : value' ≠ .null := by
  rintro rfl
  cases restates with
  | null => exact value_ne rfl

theorem RestatesAll.forall₂ {items items' : List Value}
    (all : RestatesAll format levels items items') :
    List.Forall₂ (Restates format levels) items items' := by
  induction items generalizing items' with
  | nil =>
      cases all with
      | nil => exact .nil
  | cons item rest ih =>
      cases all with
      | cons head tail => exact .cons head (ih tail)

theorem Restates.of_list {items : List Value} {value : Value}
    (restates : Restates format levels (.list items) value) :
    ∃ inner items', levels = inner + 1 ∧ value = .list items' ∧
      List.Forall₂ (Restates format inner) items items' := by
  cases restates with
  | list all => exact ⟨_, _, rfl, rfl, all.forall₂⟩

/-- What reads each item of a list back from what restates it reads the whole list back. -/
theorem mapM_eq_of_restates {α : Type} {write : α → Value} {read : Value → Option α}
    {items : List α} {values : List Value}
    (restated : List.Forall₂ (Restates format levels) (items.map write) values)
    (read_eq : ∀ item ∈ items, ∀ value, Restates format levels (write item) value →
      read value = some item) :
    values.mapM read = some items := by
  induction items generalizing values with
  | nil =>
      cases restated with
      | nil => rfl
  | cons item rest ih =>
      cases restated with
      | @cons _ value _ values head tail =>
          have rest_eq : values.mapM read = some rest :=
            ih tail fun other other_mem => read_eq other (List.mem_cons_of_mem _ other_mem)
          rw [List.mapM_cons, read_eq item List.mem_cons_self value head, rest_eq]
          rfl

theorem Restates.asList?_eq {α : Type} {write : α → Value} {read : Nat → Value → Option α}
    {items : List α} (value : Value)
    (restates : Restates format levels (.list (items.map write)) value)
    (read_eq : ∀ inner value item, Restates format inner (write item) value →
      read inner value = some item) :
    value.asList? read levels = some items := by
  obtain ⟨inner, items', rfl, rfl, restated⟩ := restates.of_list
  exact mapM_eq_of_restates restated fun item _ value => read_eq inner value item

/-! ## Fields of records -/

theorem bind_of_eq_some {α β : Type} {first : Option α} {content : α}
    (first_eq : first = some content) (next : α → Option β) : first >>= next = next content := by
  rw [first_eq]
  rfl

/-- What a restated record holds for a field: what restates its value, or nothing if the field
holds its default. -/
inductive Given (format : Format) (levels : Nat) (name : String) (value : Value) :
    Option Value → Prop where
  | kept {value' : Value} (restates : Restates format levels value value') :
      Given format levels name value (some value')
  | omitted (holds : format.default? name = some value) : Given format levels name value none

/-- What entries hold for a field, if it is not given twice. -/
def given? (name : String) (entries : List (Option String × Value)) : Option Value :=
  Option.join <| uniqueEntry? name entries

theorem entriesNamed_append (name : String) (entries rest : List (Option String × Value)) :
    entriesNamed name (entries ++ rest) = entriesNamed name entries ++ entriesNamed name rest := by
  simp [entriesNamed]

theorem entriesNamed_eq_nil {name : String} {entries : List (Option String × Value)}
    (not_mem : some name ∉ entries.map Prod.fst) : entriesNamed name entries = [] := by
  simp only [entriesNamed, List.map_eq_nil_iff, List.filter_eq_nil_iff, beq_iff_eq]
  rintro entry entry_mem rfl_name
  exact not_mem (List.mem_map.mpr ⟨entry, entry_mem, rfl_name⟩)

theorem uniqueEntry?_of_nil {name : String} {entries : List (Option String × Value)}
    (named_eq : entriesNamed name entries = []) : uniqueEntry? name entries = some none := by
  unfold uniqueEntry?
  rw [named_eq]

theorem uniqueEntry?_of_singleton {name : String} {value : Value}
    {entries : List (Option String × Value)} (named_eq : entriesNamed name entries = [value]) :
    uniqueEntry? name entries = some (some value) := by
  unfold uniqueEntry?
  rw [named_eq]

theorem RestatesFields.keys_subset {fields kept : List (Option String × Value)}
    (restated : RestatesFields format levels fields kept) {key : Option String}
    (key_mem : key ∈ kept.map Prod.fst) : key ∈ fields.map Prod.fst := by
  induction fields generalizing kept with
  | nil =>
      cases restated with
      | nil => exact key_mem
  | cons field rest ih =>
      cases restated with
      | keep head tail =>
          rcases List.mem_cons.mp key_mem with rfl | rest_mem
          · exact List.mem_cons_self
          · exact List.mem_cons_of_mem _ (ih tail rest_mem)
      | drop holds tail => exact List.mem_cons_of_mem _ (ih tail key_mem)

/-- Of the kept fields of a record without repeated names, at most one has a given name. -/
theorem RestatesFields.entriesNamed_eq {fields kept : List (Option String × Value)}
    (restated : RestatesFields format levels fields kept) (nodup : (fields.map Prod.fst).Nodup)
    {name : String} {value : Value} (field_mem : (some name, value) ∈ fields) :
    ∃ given, entriesNamed name kept = given.toList ∧ Given format levels name value given := by
  induction fields generalizing kept with
  | nil => exact absurd field_mem List.not_mem_nil
  | cons field rest ih =>
      obtain ⟨name_not_mem, rest_nodup⟩ := List.nodup_cons.mp nodup
      rcases List.mem_cons.mp field_mem with rfl | rest_mem
      · cases restated with
        | @keep _ _ _ value' _ kept head tail =>
            have tail_eq : entriesNamed name kept = [] :=
              entriesNamed_eq_nil fun key_mem => name_not_mem (tail.keys_subset key_mem)
            refine ⟨some value', ?_, .kept head⟩
            rw [← List.singleton_append, entriesNamed_append, tail_eq]
            simp [entriesNamed]
        | drop holds tail =>
            exact ⟨none, entriesNamed_eq_nil fun key_mem => name_not_mem (tail.keys_subset key_mem),
              .omitted holds⟩
      · cases restated with
        | @keep _ other _ value' _ kept head tail =>
            have name_ne : other ≠ name := by
              rintro rfl
              exact name_not_mem (List.mem_map.mpr ⟨_, rest_mem, rfl⟩)
            obtain ⟨given, tail_eq, is_given⟩ := ih tail rest_nodup rest_mem
            refine ⟨given, ?_, is_given⟩
            rw [← List.singleton_append, entriesNamed_append, tail_eq]
            simp [entriesNamed, name_ne]
        | drop holds tail => exact ih tail rest_nodup rest_mem

/-- What the entries of a restated record give for a field, apart from the order of the entries. -/
theorem RestatesFields.uniqueEntry?_eq {fields kept unknown entries : List (Option String × Value)}
    (restated : RestatesFields format levels fields kept)
    (all_unknown : ∀ entry ∈ unknown, IsUnknown levels fields entry)
    (permuted : entries.Perm (kept ++ unknown)) (nodup : (fields.map Prod.fst).Nodup)
    {name : String} {value : Value} (field_mem : (some name, value) ∈ fields) :
    ∃ given, uniqueEntry? name entries = some given ∧ Given format levels name value given := by
  have unknown_eq : entriesNamed name unknown = [] := by
    refine entriesNamed_eq_nil fun key_mem => ?_
    obtain ⟨entry, entry_mem, key_eq⟩ := List.mem_map.mp key_mem
    exact (all_unknown entry entry_mem).2.1 (key_eq ▸ List.mem_map.mpr ⟨_, field_mem, rfl⟩)
  obtain ⟨given, kept_eq, is_given⟩ := restated.entriesNamed_eq nodup field_mem
  -- At most one value stands under the name, so its place among the entries plays no part.
  have named_perm : (entriesNamed name entries).Perm (entriesNamed name (kept ++ unknown)) :=
    (permuted.filter fun (entry : Option String × Value) => entry.1 == some name).map Prod.snd
  rw [entriesNamed_append, kept_eq, unknown_eq, List.append_nil] at named_perm
  refine ⟨given, ?_, is_given⟩
  cases given with
  | none => exact uniqueEntry?_of_nil named_perm.eq_nil
  | some value => exact uniqueEntry?_of_singleton (List.perm_singleton.mp named_perm)

/-- The entries are those of a restated record with the given fields. -/
structure GivesFields (format : Format) (levels : Nat) (fields : List (String × Value))
    (entries : List (Option String × Value)) : Prop where
  /-- Every key is a text. -/
  keyed : ∀ entry ∈ entries, entry.1.isSome = true
  /-- No field is given twice. -/
  unique : ∀ field ∈ fields, uniqueEntry? field.1 entries = some (given? field.1 entries)
  /-- What is given for a field restates it. -/
  given : ∀ field ∈ fields, Given format levels field.1 field.2 (given? field.1 entries)

/-- A restated object with distinct keys gives each of its fields. -/
theorem Restates.of_fields {fields : List (String × Value)} {value : Value}
    (restates : Restates format levels (.ofFields fields) value)
    (nodup : (fields.map Prod.fst).Nodup) :
    ∃ inner entries, levels = inner + 1 ∧ value = .object entries ∧
      GivesFields format inner fields entries := by
  have fits : value.fits levels = true := restates.fits
  cases restates with
  | @object inner _ kept unknown entries restated all_unknown _ permuted =>
      rw [Value.fits, entriesFit_iff] at fits
      have keys_nodup : ((fields.map fun field => (some field.1, field.2)).map
          (Prod.fst : Option String × Value → Option String)).Nodup := by
        have keys_eq : (fields.map fun field => (some field.1, field.2)).map Prod.fst =
            (fields.map Prod.fst).map some := by
          rw [List.map_map, List.map_map]
          rfl
        rw [keys_eq]
        exact List.Nodup.map (fun _ _ => Option.some.inj) nodup
      have unique (field : String × Value) (field_mem : field ∈ fields) :
          ∃ given, uniqueEntry? field.1 entries = some given ∧
            Given format inner field.1 field.2 given :=
        restated.uniqueEntry?_eq all_unknown permuted keys_nodup
          (List.mem_map.mpr ⟨field, field_mem, rfl⟩)
      refine ⟨inner, entries, rfl, rfl, fun entry entry_mem => (fits entry entry_mem).1,
        fun field field_mem => ?_, fun field field_mem => ?_⟩
      · obtain ⟨given, unique_eq, -⟩ := unique field field_mem
        rw [given?, unique_eq]
        rfl
      · obtain ⟨given, unique_eq, is_given⟩ := unique field field_mem
        rw [given?, unique_eq]
        exact is_given

/-- A restated choice keeps its key, and nothing stands beside it. -/
theorem Restates.of_choice {key : String} {content value : Value}
    (restates : Restates format levels (.ofFields [(key, content)]) value)
    (is_choice : key ∈ format.choices) (needed : format.default? key ≠ some content) :
    ∃ inner content', levels = inner + 1 ∧ value = .ofFields [(key, content')] ∧
      Restates format inner content content' := by
  cases restates with
  | object restated _ choice_closed permuted =>
      obtain rfl := choice_closed (by simpa [Format.isChoice] using is_choice)
      cases restated with
      | drop holds _ => exact absurd holds needed
      | keep head tail =>
          cases tail with
          | nil =>
              obtain rfl := List.perm_singleton.mp permuted
              exact ⟨_, _, rfl, rfl, head⟩

namespace GivesFields

variable {fields : List (String × Value)} {entries : List (Option String × Value)}

/-- The fields are looked up one by one, in the order of their names. -/
theorem fields?_eq (gives : GivesFields format levels fields entries) {names : List String}
    (names_eq : names = fields.map Prod.fst) :
    (Value.object entries).fields? names = some (names.map fun name => given? name entries) := by
  have given_all (rest : List (String × Value)) (subset : rest ⊆ fields) :
      (rest.map Prod.fst).mapM (fun name => uniqueEntry? name entries) =
        some ((rest.map Prod.fst).map fun name => given? name entries) := by
    induction rest with
    | nil => rfl
    | cons field rest ih =>
        obtain ⟨field_mem, rest_subset⟩ := List.cons_subset.mp subset
        rw [List.map_cons, List.mapM_cons, gives.unique field field_mem, ih rest_subset]
        rfl
  rw [Value.fields?, if_pos (List.all_eq_true.mpr gives.keyed), names_eq]
  exact given_all fields (List.Subset.refl _)

/-- A reader of a record goes on with what the entries give for its fields. -/
theorem bind_fields?_eq {β : Type} (gives : GivesFields format levels fields entries)
    {names : List String} (names_eq : names = fields.map Prod.fst)
    (next : List (Option Value) → Option β) :
    (Value.object entries).fields? names >>= next =
      next (names.map fun name => given? name entries) :=
  bind_of_eq_some (gives.fields?_eq names_eq) next

theorem exists_restates {value : Value} (gives : GivesFields format levels fields entries)
    (name : String) (field_mem : (name, value) ∈ fields)
    (needed : format.default? name ≠ some value) :
    ∃ value', uniqueEntry? name entries = some (some value') ∧
      Restates format levels value value' := by
  have is_given : Given format levels name value (given? name entries) := gives.given _ field_mem
  have unique : uniqueEntry? name entries = some (given? name entries) := gives.unique _ field_mem
  rw [unique]
  generalize given? name entries = given at is_given
  cases is_given with
  | kept restates => exact ⟨_, rfl, restates⟩
  | omitted holds => exact absurd holds needed

variable {α : Type} {name : String}

theorem required {value : Value} {read : Value → Option α} {content : α}
    (gives : GivesFields format levels fields entries) (field_mem : (name, value) ∈ fields)
    (needed : format.default? name ≠ some value)
    (read_eq : ∀ value', Restates format levels value value' → read value' = some content) :
    required read (given? name entries) = some content := by
  have is_given : Given format levels name value (given? name entries) := gives.given _ field_mem
  generalize given? name entries = given at is_given ⊢
  cases is_given with
  | kept restates => exact read_eq _ restates
  | omitted holds => exact absurd holds needed

theorem withDefault {value : Value} {default content : α} {read : Value → Option α}
    (gives : GivesFields format levels fields entries) (field_mem : (name, value) ∈ fields)
    (default_eq : format.default? name = some value → default = content)
    (read_eq : ∀ value', Restates format levels value value' → read value' = some content) :
    withDefault default read (given? name entries) = some content := by
  have is_given : Given format levels name value (given? name entries) := gives.given _ field_mem
  generalize given? name entries = given at is_given ⊢
  cases is_given with
  | kept restates => exact read_eq _ restates
  | omitted holds => exact congrArg some (default_eq holds)

theorem nullable {value : Value} {read : Value → Option α} {content : α}
    (gives : GivesFields format levels fields entries) (field_mem : (name, value) ∈ fields)
    (needed : format.default? name ≠ some value) (value_ne : value ≠ .null)
    (read_eq : ∀ value', Restates format levels value value' → read value' = some content) :
    Json.nullable read (given? name entries) = some (some content) := by
  have is_given : Given format levels name value (given? name entries) := gives.given _ field_mem
  generalize given? name entries = given at is_given ⊢
  cases is_given with
  | omitted holds => exact absurd holds needed
  | @kept value' restates =>
      have read_some : (read value').map some = some (some content) := by
        rw [read_eq _ restates, Option.map_some]
      rw [← read_some]
      cases value' with
      | null => exact absurd rfl (restates.ne_null value_ne)
      | _ => rfl

theorem nullable_null {read : Value → Option α} (gives : GivesFields format levels fields entries)
    (field_mem : (name, Value.null) ∈ fields) :
    Json.nullable read (given? name entries) = some none := by
  have is_given : Given format levels name .null (given? name entries) := gives.given _ field_mem
  generalize given? name entries = given at is_given ⊢
  cases is_given with
  | omitted holds => rfl
  | kept restates =>
      cases restates with
      | null => rfl

/-- The record without one of its fields gives the others. -/
theorem filter_ne {value : Value}
    (gives : GivesFields format levels ((name, value) :: fields) entries)
    (name_not_mem : name ∉ fields.map Prod.fst) :
    GivesFields format levels fields (entries.filter fun entry => entry.1 != some name) := by
  have unique_eq (field : String × Value) (field_mem : field ∈ fields) :
      uniqueEntry? field.1 (entries.filter fun entry => entry.1 != some name) =
        uniqueEntry? field.1 entries := by
    have name_ne : field.1 ≠ name := fun name_eq =>
      name_not_mem (name_eq ▸ List.mem_map.mpr ⟨field, field_mem, rfl⟩)
    have named_eq : entriesNamed field.1 (entries.filter fun entry => entry.1 != some name) =
        entriesNamed field.1 entries := by
      rw [entriesNamed, List.filter_filter]
      refine congrArg (List.map Prod.snd) (List.filter_congr fun entry _ => ?_)
      by_cases key_eq : entry.1 = some field.1 <;> simp [key_eq, name_ne]
    unfold uniqueEntry?
    rw [named_eq]
  refine ⟨fun entry entry_mem => gives.keyed entry (List.mem_filter.mp entry_mem).1,
    fun field field_mem => ?_, fun field field_mem => ?_⟩
  · rw [given?, unique_eq field field_mem]
    exact gives.unique field (List.mem_cons_of_mem _ field_mem)
  · rw [given?, unique_eq field field_mem]
    exact gives.given field (List.mem_cons_of_mem _ field_mem)

end GivesFields

/-- A restated record with a tag splits into the tag and a record that gives the other fields. -/
theorem Restates.of_tagged {fields : List (String × Value)} {tag : String} {value : Value}
    (restates : Restates format levels (.ofFields (("kind", .ofString tag) :: fields)) value)
    (nodup : ((("kind", .ofString tag) :: fields).map Prod.fst).Nodup)
    (needed : format.default? "kind" = none) :
    ∃ inner rest, levels = inner + 1 ∧
      (∀ source tags, value.splitTag? source tags = some (tag, .object rest)) ∧
      GivesFields format inner fields rest := by
  obtain ⟨inner, entries, rfl, rfl, gives⟩ := restates.of_fields nodup
  refine ⟨inner, _, rfl, fun source tags => ?_, gives.filter_ne (List.nodup_cons.mp nodup).1⟩
  obtain ⟨tag', unique, tag_restates⟩ :=
    gives.exists_restates "kind" List.mem_cons_self (by rw [needed]; exact nofun)
  rw [Value.splitTag?, unique, tag_restates.eq_ofString]
  rfl

end Json
end RefDocs
