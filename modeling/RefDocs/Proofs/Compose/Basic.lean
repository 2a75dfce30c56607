import RefDocs.Compose.Basic
import RefDocs.Proofs.Content.Strings
import RefDocs.Proofs.Outcome
import RefDocs.Proofs.Text.LineBreaks

/-!
# Steps of composition

A step of a composition may fail where a comment has no normal form, and nowhere else: each table
is given rows of as many cells as it has columns.
-/

namespace RefDocs

/-- A step gives a result with a property, unless a comment has no normal form. -/
inductive Yields {Result : Type} (holds : Result → Prop) : Composed Result → Prop where
  /-- The step gives a result. -/
  | ok {result : Result} (result_holds : holds result) : Yields holds (.ok result)
  /-- A comment has no normal form. -/
  | markup (error : MarkupError) : Yields holds (.error (.markup error))

namespace Yields

variable {First Second : Type} {holds : First → Prop} {holds' : Second → Prop}

theorem pure {result : First} (result_holds : holds result) :
    Yields holds (Pure.pure result : Composed First) :=
  .ok result_holds

theorem ok_or_markup {step : Composed First} (yields : Yields holds step) :
    (∃ result, step = .ok result ∧ holds result) ∨ ∃ error, step = .error (.markup error) := by
  cases yields with
  | ok result_holds => exact .inl ⟨_, rfl, result_holds⟩
  | markup error => exact .inr ⟨error, rfl⟩

theorem holds_of_eq_ok {step : Composed First} (yields : Yields holds step) {result : First}
    (step_eq : step = .ok result) : holds result := by
  cases yields with
  | ok result_holds => exact Except.ok.inj step_eq ▸ result_holds
  | markup error => cases step_eq

theorem mono {weaker : First → Prop} {step : Composed First} (yields : Yields holds step)
    (weaker_of : ∀ result, holds result → weaker result) : Yields weaker step := by
  cases yields with
  | ok result_holds => exact .ok (weaker_of _ result_holds)
  | markup error => exact .markup error

theorem bind {step : Composed First} {next : First → Composed Second} (yields : Yields holds step)
    (next_yields : ∀ result, holds result → Yields holds' (next result)) :
    Yields holds' (step >>= next) := by
  cases yields with
  | ok result_holds => exact next_yields _ result_holds
  | markup error => exact .markup error

/-- The same steps follow, whichever of two steps is taken. -/
theorem ite_bind {condition : Prop} [Decidable condition] {step other : Composed First}
    {next : First → Composed Second} (yields : Yields holds step)
    (other_yields : Yields holds other)
    (next_yields : ∀ result, holds result → Yields holds' (next result)) :
    Yields holds' (if condition then step >>= next else other >>= next) := by
  split
  · exact yields.bind next_yields
  · exact other_yields.bind next_yields

/-- Steps that are made for each item of a list give a result for each of them. -/
theorem mapM {Item : Type} {step : Item → Composed First} {items : List Item}
    (each : ∀ item ∈ items, Yields holds (step item)) :
    Yields (fun results => results.length = items.length ∧ ∀ result ∈ results, holds result)
      (items.mapM step) := by
  induction items with
  | nil => exact .pure ⟨rfl, nofun⟩
  | cons item rest ih =>
      rw [List.forall_mem_cons] at each
      rw [List.mapM_cons]
      refine each.1.bind ?_
      intro result result_holds
      refine (ih each.2).bind ?_
      rintro results ⟨length_eq, results_hold⟩
      exact .pure ⟨by simp [length_eq], List.forall_mem_cons.mpr ⟨result_holds, results_hold⟩⟩

/-- Steps that are made for each item of a list give the results of a function of the items. -/
theorem mapM_map {Item : Type} [Nonempty First] {holds : Item → First → Prop}
    {step : Item → Composed First} {items : List Item}
    (each : ∀ item ∈ items, Yields (holds item) (step item)) :
    Yields (fun results => ∃ make : Item → First, results = items.map make ∧
        ∀ item ∈ items, step item = .ok (make item) ∧ holds item (make item))
      (items.mapM step) := by
  let make (item : Item) : First := Classical.epsilon fun result => step item = .ok result
  have make_eq (item : Item) (result : First) (step_eq : step item = .ok result) :
      make item = result := by
    have made : step item = .ok (make item) :=
      Classical.epsilon_spec (p := fun result => step item = .ok result) ⟨result, step_eq⟩
    rw [step_eq] at made
    exact (Except.ok.inj made).symm
  suffices yields : Yields (fun results => results = items.map make ∧
      ∀ item ∈ items, step item = .ok (make item) ∧ holds item (make item)) (items.mapM step) from
    yields.mono fun results made => ⟨make, made⟩
  induction items with
  | nil => exact .pure ⟨rfl, nofun⟩
  | cons item rest ih =>
      rw [List.forall_mem_cons] at each
      rw [List.mapM_cons]
      have item_yields := each.1
      cases step_eq : step item with
      | error fault =>
          rw [step_eq] at item_yields
          cases item_yields with
          | markup error => exact .markup error
      | ok result =>
          rw [step_eq] at item_yields
          cases item_yields with
          | ok result_holds =>
              rw [ok_bind]
              refine (ih each.2).bind ?_
              rintro results ⟨results_eq, rest_made⟩
              obtain rfl : result = make item := (make_eq item result step_eq).symm
              exact .pure ⟨by rw [results_eq, List.map_cons],
                List.forall_mem_cons.mpr ⟨⟨step_eq, result_holds⟩, rest_made⟩⟩

end Yields

/-! ## Tables -/

theorem Grid.addRow_eq_ok {Row : Type} {row : Row} {cellCount : Nat} {headers : List String}
    (fits : cellCount = headers.length) (front : List Row) :
    Grid.addRow row cellCount (some ⟨headers, front⟩) = .ok ⟨headers, front ++ [row]⟩ :=
  if_pos fits.symm

theorem Table.addRows_eq_ok {Cell : Type} {style : TableStyle} {caption : Option String}
    {headers : List String} {rows : List (List Cell)}
    (rows_fit : ∀ row ∈ rows, row.length = headers.length) (front : List (List Cell)) :
    Table.addRows rows ⟨style, caption, some ⟨headers, front⟩⟩ =
      .ok ⟨style, caption, some ⟨headers, front ++ rows⟩⟩ := by
  induction rows generalizing front with
  | nil => rw [List.append_nil, addRows, List.foldlM_nil]; rfl
  | cons row rest ih =>
      rw [List.forall_mem_cons] at rows_fit
      have rest_added := ih rows_fit.2 (front ++ [row])
      rw [addRows] at rest_added ⊢
      rw [List.foldlM_cons, addRow, Grid.addRow_eq_ok rows_fit.1, ok_bind, pure_bind, rest_added,
        List.append_assoc, List.singleton_append]

theorem TabbedBlock.addRows_eq_ok {Item : Type} {block : TabbedBlock Item}
    {rows : List (Item × List Content)} {headers : List String}
    (rows_fit : ∀ row ∈ rows, row.2.length = headers.length) (front : List (Item × List Content)) :
    TabbedBlock.addRows rows { block with grid := some ⟨headers, front⟩ } =
      .ok { block with grid := some ⟨headers, front ++ rows⟩ } := by
  induction rows generalizing front with
  | nil => rw [List.append_nil, addRows, List.foldlM_nil]; rfl
  | cons row rest ih =>
      rw [List.forall_mem_cons] at rows_fit
      have rest_added := ih rows_fit.2 (front ++ [row])
      rw [addRows] at rest_added ⊢
      rw [List.foldlM_cons, addRow, Grid.addRow_eq_ok rows_fit.1, ok_bind, pure_bind, rest_added,
        List.append_assoc, List.singleton_append]

/-- A table is made of any rows that have a cell for each header. -/
theorem tableOf_eq_ok {style : TableStyle} {caption : Option String} {headers : List String}
    {rows : List (List Content)} (rows_fit : ∀ row ∈ rows, row.length = headers.length) :
    tableOf style caption headers rows = .ok (.table ⟨style, caption, some ⟨headers, rows⟩⟩) := by
  rw [tableOf, Table.addRows_eq_ok rows_fit]
  rfl

/-- A block is filled with any rows that have a cell for each of its headers. -/
theorem blockOf_eq_ok {Item : Type} {block : TabbedBlock Item} {rows : List (Item × List Content)}
    {headers : List String} (grid_eq : block.grid = some ⟨headers, []⟩)
    (rows_fit : ∀ row ∈ rows, row.2.length = headers.length) :
    blockOf block rows =
      .ok { block with grid := some ⟨headers, rows⟩ : TabbedBlock Item }.toContent := by
  have block_eq : block = { block with grid := some ⟨headers, []⟩ } := by rw [← grid_eq]
  rw [blockOf, block_eq, TabbedBlock.addRows_eq_ok rows_fit]
  rfl

/-! ## Labels on pages -/

/-- A predicate that all labels on a page satisfy: those that are the same on all pages, the names
and anchors of members, and the names of types with their links. -/
structure CoversLabels (source : LinkSource) (label : String → Prop) : Prop where
  /-- The labels that do not depend on declarations hold no line break. -/
  unbroken : ∀ text, Text.Unbroken text → label text
  /-- The tabs of details are named after members. -/
  name : ∀ decl ∈ source.graph.types, ∀ member ∈ decl.members, label member.name
  /-- The sections of details have the anchors of members. -/
  anchor : ∀ decl ∈ source.graph.types, ∀ member ∈ decl.members, label member.anchor
  /-- The tables of constants are named after types. -/
  caption : ∀ decl ∈ source.graph.types,
    label (source.named decl.qualifiedName decl.qualifiedName)

theorem CoversLabels.all_unbroken {source : LinkSource} {label : String → Prop}
    (covers : CoversLabels source label) {texts : List String}
    (unbroken : ∀ text ∈ texts, Text.Unbroken text) : ∀ text ∈ texts, label text :=
  fun text text_mem => covers.unbroken text (unbroken text text_mem)

namespace Content

variable {label : String → Prop}

theorem allLabels_sequence {children : List Content} :
    (Content.sequence children).AllLabels label ↔ ∀ child ∈ children, child.AllLabels label :=
  allStringsIn_iff

theorem allLabels_raw (text : String) : (raw text).AllLabels label :=
  trivial

theorem allLabels_labelled (text separator : String) (entries : List String) :
    (labelled text separator entries).AllLabels label := by
  rw [labelled]
  split <;> trivial

theorem allLabels_flatMap_spaced {blocks : List Content}
    (blocks_labelled : ∀ block ∈ blocks, block.AllLabels label) :
    ∀ child ∈ blocks.flatMap spaced, child.AllLabels label := by
  intro child child_mem
  obtain ⟨block, block_mem, child_mem⟩ := List.mem_flatMap.mp child_mem
  rw [spaced] at child_mem
  split at child_mem
  · cases child_mem
  · rw [List.mem_cons, List.mem_singleton] at child_mem
    rcases child_mem with rfl | rfl
    · exact blocks_labelled child block_mem
    · exact allLabels_raw "\n"

theorem allLabels_page {front : List (String × String)} {blocks : List Content}
    (blocks_labelled : ∀ block ∈ blocks, block.AllLabels label) :
    (page front blocks).AllLabels label := by
  refine allLabels_sequence.mpr ?_
  exact List.forall_mem_cons.mpr ⟨trivial, allLabels_flatMap_spaced blocks_labelled⟩

end Content

/-- A table of rows with labelled cells. -/
theorem yields_tableOf {label : String → Prop} {style : TableStyle} {caption : Option String}
    {headers : List String} {rows : List (List Content)}
    (rows_fit : ∀ row ∈ rows, row.length = headers.length)
    (caption_labelled : ∀ text ∈ caption, label text)
    (headers_labelled : ∀ header ∈ headers, label header)
    (cells_labelled : ∀ row ∈ rows, ∀ cell ∈ row, cell.AllLabels label) :
    Yields (Content.AllLabels label) (tableOf style caption headers rows) := by
  rw [tableOf_eq_ok rows_fit]
  exact .ok ⟨caption_labelled, headers_labelled, Content.allStringsInRows_iff.mpr cells_labelled⟩

/-- A block of rows with labelled cells. -/
theorem yields_blockOf {label : String → Prop} {Item : Type} {block : TabbedBlock Item}
    {headers : List String} {rows : List (Item × List Content)}
    (grid_eq : block.grid = some ⟨headers, []⟩)
    (rows_fit : ∀ row ∈ rows, row.2.length = headers.length)
    (default_labelled : label block.defaultLabel) (key_labelled : ∀ text ∈ block.key, label text)
    (tabs_labelled : ∀ tab ∈ block.tabs, label tab.label)
    (headers_labelled : ∀ header ∈ headers, label header)
    (cells_labelled : ∀ row ∈ rows, ∀ cell ∈ row.2, cell.AllLabels label) :
    Yields (Content.AllLabels label) (blockOf block rows) := by
  rw [blockOf_eq_ok grid_eq rows_fit]
  refine .ok ⟨default_labelled, key_labelled, ?_, headers_labelled, ?_⟩
  · simpa [TabbedBlock.spread] using tabs_labelled
  · refine Content.allStringsInRows_iff.mpr ?_
    intro row row_mem
    obtain ⟨tagged, tagged_mem, rfl⟩ := List.mem_map.mp row_mem
    exact cells_labelled tagged tagged_mem

namespace PageContext

variable (context : PageContext)

theorem yields_markup (nodes : List DocNode) : Yields (fun _ => True) (context.markup nodes) := by
  rw [markup]
  cases Markup.render context.source nodes with
  | ok text => exact .ok trivial
  | error error => exact .markup error

theorem yields_description (doc : List DocNode) :
    Yields (fun _ => True) (context.description doc) := by
  rw [description]
  split
  · exact .pure trivial
  · exact context.yields_markup _

theorem yields_summary (doc : List DocNode) : Yields (fun _ => True) (context.summary doc) := by
  rw [summary]
  split
  · exact .pure trivial
  · exact context.yields_markup _

theorem yields_deprecation (label : String → Prop) (deprecation : Option Deprecation) :
    Yields (Content.AllLabels label) (context.deprecation deprecation) := by
  cases deprecation with
  | none => exact .pure trivial
  | some deprecation =>
      refine (context.yields_markup deprecation.doc).bind ?_
      intro reason _
      exact .pure ⟨trivial, trivial⟩

end PageContext
end RefDocs
