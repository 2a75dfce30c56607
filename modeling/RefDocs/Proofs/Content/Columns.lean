import RefDocs.Proofs.Content.ShownTables
import RefDocs.Proofs.Content.WrittenLines

/-!
# The columns of tables under construction

The headers of a table or a tabbed block, its rows and its other parts are set by calls in any order,
of which those about headers and rows make its grid.  There is a cell for each header in every row,
stored or written, exactly if these calls keep the columns.
-/

namespace RefDocs

theorem Content.length_cellTexts (style : TableStyle) (cells : List Content) :
    (cellTexts style cells).length = cells.length := by
  rw [cellTexts_eq_map, List.length_map]

/-! ## Tables -/

namespace Table

/-- A call on a table under construction. -/
inductive Call where
  /-- The headers are set. -/
  | headers (headers : List String)
  /-- The label above the table is set. -/
  | caption (caption : String)
  /-- A row is added. -/
  | row (cells : List Content)

/-- The table after a call; if a row is refused, it is the table before. -/
def after (table : Table Content) : Call → Table Content
  | .headers headers => table.withHeaders headers
  | .caption caption => { table with caption := some caption }
  | .row cells =>
    match table.addRow cells with
    | .ok longer => longer
    | .error _ => table

/-- The call on the grid of the table, if a call is about it. -/
def Call.grid? : Call → Option (Grid.Call (List Content))
  | .headers labels => some (.headers labels)
  | .caption _ => none
  | .row cells => some (.row cells)

/-- The table that calls make of a new one. -/
def built (style : TableStyle) (calls : List Call) : Table Content :=
  calls.foldl after ⟨style, none, none⟩

/-- The texts of the cells of each row. -/
def texts (table : Table Content) : List (List String) :=
  (Grid.rowsOf table.grid).map (Content.cellTexts table.style)

theorem grid_after (table : Table Content) (call : Call) :
    (table.after call).grid = call.grid?.elim table.grid (Grid.after List.length table.grid) := by
  cases call with
  | headers headers => rfl
  | caption caption => rfl
  | row cells =>
      rw [after, addRow_eq, Call.grid?, Option.elim_some, Grid.after]
      cases Grid.addRow cells cells.length table.grid with
      | error error => rfl
      | ok grid => rfl

/-- A row is refused exactly if it does not fit the headers, and leaves the table as it was. -/
theorem exists_addRow_eq_error_iff (table : Table Content) (cells : List Content) :
    (∃ error, table.addRow cells = .error error ∧ table.after (.row cells) = table) ↔
      ¬ Grid.Fits List.length (Grid.headers? table.grid) cells := by
  rw [← Grid.exists_addRow_eq_error_iff, after, addRow_eq]
  cases Grid.addRow cells cells.length table.grid with
  | ok grid => simp [Except.map]
  | error error => simp [Except.map]

theorem grid_built (style : TableStyle) (calls : List Call) :
    (built style calls).grid =
      (calls.filterMap Call.grid?).foldl (Grid.after List.length) none :=
  Grid.grid_foldl grid_after ⟨style, none, none⟩ calls

theorem regular_built_iff (style : TableStyle) (calls : List Call) :
    Grid.Regular List.length (built style calls).grid ↔
      Grid.KeepsColumns List.length (calls.filterMap Call.grid?) := by
  rw [grid_built, Grid.regular_foldl_after_iff]

/-- A table with rows is written with a line for the texts of each row. -/
theorem write_eq_texts {table : Table Content} (rows_ne : Grid.rowsOf table.grid ≠ [])
    (newline : String) (atLineStart : Bool) :
    (Content.table table).write newline atLineStart =
      ⟨freshLine newline atLineStart ++ Text.ofLines newline
        (table.above ++ table.texts.map (fun cells => table.style.line cells) ++
          table.style.below), true⟩ := by
  rw [write_eq_ofLines rows_ne, texts, List.map_map]
  rfl

theorem length_texts {table : Table Content} (regular : Grid.Regular List.length table.grid) :
    ∀ cells ∈ table.texts, cells.length = table.headers.length := by
  intro cells cells_mem
  obtain ⟨row, row_mem, rfl⟩ := List.mem_map.mp cells_mem
  rw [Content.length_cellTexts]
  exact regular row row_mem

end Table

/-! ## Tabbed blocks -/

namespace TabbedTable

theorem subset_of_mem_shownTables {Row : Type} {table : TabbedTable Content} {rows : List Row}
    {shown : String × List Row} (shown_mem : shown ∈ table.shownTables rows) : shown.2 ⊆ rows := by
  rw [shownTables] at shown_mem
  split at shown_mem
  · rcases List.mem_cons.mp shown_mem with rfl | matching_mem
    · exact List.Subset.refl _
    · exact (mem_matching matching_mem).2.subset
  · split at shown_mem
    · rw [List.mem_singleton] at shown_mem
      exact shown_mem ▸ List.Subset.refl _
    · exact (mem_matching shown_mem).2.subset

end TabbedTable

namespace TabbedBlock

variable {Item : Type}

/-- A call on a tabbed block under construction. -/
inductive Call (Item : Type) where
  /-- The headers are set. -/
  | headers (headers : List String)
  /-- A tab is declared. -/
  | tab (label : String) (selects : Item → Bool)
  /-- The key is set. -/
  | key (key : String)
  /-- A switcher is forced. -/
  | force
  /-- A row is added. -/
  | row (item : Item) (cells : List Content)

/-- The block after a call; if a row is refused, it is the block before. -/
def after (block : TabbedBlock Item) : Call Item → TabbedBlock Item
  | .headers headers => block.withHeaders headers
  | .tab label selects => block.withTab label selects
  | .key key => { block with key := some key }
  | .force => { block with forced := true }
  | .row item cells =>
    match block.addRow item cells with
    | .ok longer => longer
    | .error _ => block

/-- The call on the grid of the block, if a call is about it. -/
def Call.grid? : Call Item → Option (Grid.Call (Item × List Content))
  | .headers labels => some (.headers labels)
  | .tab _ _ | .key _ | .force => none
  | .row item cells => some (.row (item, cells))

/-- The block that calls make of a new one. -/
def built (style : TableStyle) (label : String) (calls : List (Call Item)) : TabbedBlock Item :=
  calls.foldl after { style := style, defaultLabel := label }

/-- The number of cells of a row that is tagged with an item. -/
def width (row : Item × List Content) : Nat :=
  row.2.length

/-- The tables that are shown, with their labels and the texts of their cells. -/
def texts (block : TabbedBlock Item) : List (String × List (List String)) :=
  (block.spread.shownTables ((Grid.rowsOf block.grid).map Prod.snd)).map fun table =>
    (table.1, Content.rowTexts block.style table.2)

theorem addRow_eq (block : TabbedBlock Item) (item : Item) (cells : List Content) :
    block.addRow item cells = (Grid.addRow (item, cells) cells.length block.grid).map
      fun grid => { block with grid := some grid } := by
  rw [addRow]
  cases Grid.addRow (item, cells) cells.length block.grid with
  | error error => rfl
  | ok grid => rfl

theorem grid_after (block : TabbedBlock Item) (call : Call Item) :
    (block.after call).grid = call.grid?.elim block.grid (Grid.after width block.grid) := by
  cases call with
  | headers headers => rfl
  | tab label selects => rfl
  | key key => rfl
  | force => rfl
  | row item cells =>
      rw [after, addRow_eq, Call.grid?, Option.elim_some, Grid.after, width]
      cases Grid.addRow (item, cells) cells.length block.grid with
      | error error => rfl
      | ok grid => rfl

/-- A row is refused exactly if it does not fit the headers, and leaves the block as it was. -/
theorem exists_addRow_eq_error_iff (block : TabbedBlock Item) (item : Item)
    (cells : List Content) :
    (∃ error, block.addRow item cells = .error error ∧ block.after (.row item cells) = block) ↔
      ¬ Grid.Fits width (Grid.headers? block.grid) (item, cells) := by
  rw [← Grid.exists_addRow_eq_error_iff, after, addRow_eq, width]
  cases Grid.addRow (item, cells) cells.length block.grid with
  | ok grid => simp [Except.map]
  | error error => simp [Except.map]

theorem grid_built (style : TableStyle) (label : String) (calls : List (Call Item)) :
    (built style label calls).grid = (calls.filterMap Call.grid?).foldl (Grid.after width) none :=
  Grid.grid_foldl grid_after { style := style, defaultLabel := label } calls

theorem regular_built_iff (style : TableStyle) (label : String) (calls : List (Call Item)) :
    Grid.Regular width (built style label calls).grid ↔
      Grid.KeepsColumns width (calls.filterMap Call.grid?) := by
  rw [grid_built, Grid.regular_foldl_after_iff]

/-- A block with rows is written as the tables that are shown. -/
theorem write_eq_texts {block : TabbedBlock Item} (rows_ne : Grid.rowsOf block.grid ≠ []) :
    ∃ switcher, ∀ newline atLineStart, block.toContent.write newline atLineStart =
      ⟨freshLine newline atLineStart ++ TabbedTable.writeLabelled newline block.style block.key
        switcher ((Grid.headers? block.grid).getD []) block.texts, true⟩ := by
  cases grid_eq : block.grid with
  | none =>
      rw [grid_eq] at rows_ne
      exact absurd rfl rows_ne
  | some grid =>
      obtain ⟨headers, rows⟩ := grid
      rw [grid_eq] at rows_ne
      refine ⟨block.spread.hasSwitcher (rows.map Prod.snd), fun newline atLineStart => ?_⟩
      rw [write_toContent_at grid_eq rows_ne, texts, grid_eq]
      rfl

theorem length_texts {block : TabbedBlock Item} (regular : Grid.Regular width block.grid) :
    ∀ table ∈ block.texts, ∀ cells ∈ table.2,
      cells.length = ((Grid.headers? block.grid).getD []).length := by
  intro table table_mem cells cells_mem
  obtain ⟨shown, shown_mem, rfl⟩ := List.mem_map.mp table_mem
  rw [Content.rowTexts_eq_map] at cells_mem
  obtain ⟨row, row_mem, rfl⟩ := List.mem_map.mp cells_mem
  have stored := TabbedTable.subset_of_mem_shownTables shown_mem row_mem
  obtain ⟨tagged, tagged_mem, rfl⟩ := List.mem_map.mp stored
  rw [Content.length_cellTexts]
  exact regular tagged tagged_mem

end TabbedBlock

/-- In whatever order the calls on a new table or tabbed block come, a row is refused exactly if it
does not fit the headers and leaves everything as it was; the rows are those that fitted when they
were added, in order, and each is written with a text for each of its cells.  So there is a cell for
each header in every row, stored or written, exactly if each row that fitted the headers set last in
front of it fits those set last of all. -/
theorem built_regular_iff_keepsColumns {Item : Type} (style : TableStyle) (label : String)
    (calls : List Table.Call) (blockCalls : List (TabbedBlock.Call Item)) :
    (let table := Table.built style calls
      let gridCalls := calls.filterMap Table.Call.grid?
      (∀ cells, (∃ error, table.addRow cells = .error error ∧ table.after (.row cells) = table) ↔
        ¬ Grid.Fits List.length (Grid.headers? table.grid) cells) ∧
      Grid.rowsOf table.grid = Grid.kept List.length none gridCalls ∧
      (Grid.Regular List.length table.grid ↔ Grid.KeepsColumns List.length gridCalls) ∧
      (Grid.rowsOf table.grid ≠ [] → ∀ newline atLineStart,
        (Content.table table).write newline atLineStart =
          ⟨freshLine newline atLineStart ++ Text.ofLines newline
            (table.above ++ table.texts.map (fun cells => table.style.line cells) ++
              table.style.below), true⟩) ∧
      (Grid.KeepsColumns List.length gridCalls →
        ∀ cells ∈ table.texts, cells.length = table.headers.length)) ∧
    (let block := TabbedBlock.built style label blockCalls
      let gridCalls := blockCalls.filterMap TabbedBlock.Call.grid?
      (∀ item cells, (∃ error, block.addRow item cells = .error error ∧
          block.after (.row item cells) = block) ↔
        ¬ Grid.Fits TabbedBlock.width (Grid.headers? block.grid) (item, cells)) ∧
      Grid.rowsOf block.grid = Grid.kept TabbedBlock.width none gridCalls ∧
      (Grid.Regular TabbedBlock.width block.grid ↔
        Grid.KeepsColumns TabbedBlock.width gridCalls) ∧
      (Grid.rowsOf block.grid ≠ [] → ∃ switcher, ∀ newline atLineStart,
        block.toContent.write newline atLineStart =
          ⟨freshLine newline atLineStart ++ TabbedTable.writeLabelled newline block.style block.key
            switcher ((Grid.headers? block.grid).getD []) block.texts, true⟩) ∧
      (Grid.KeepsColumns TabbedBlock.width gridCalls → ∀ table ∈ block.texts,
        ∀ cells ∈ table.2, cells.length = ((Grid.headers? block.grid).getD []).length)) := by
  refine ⟨⟨Table.exists_addRow_eq_error_iff _, ?_, Table.regular_built_iff style calls,
      Table.write_eq_texts, ?_⟩,
    ⟨TabbedBlock.exists_addRow_eq_error_iff _, ?_, TabbedBlock.regular_built_iff style label _,
      TabbedBlock.write_eq_texts, ?_⟩⟩
  · rw [Table.grid_built, Grid.rowsOf_foldl_after]
    rfl
  · intro keeps
    exact Table.length_texts ((Table.regular_built_iff style calls).mpr keeps)
  · rw [TabbedBlock.grid_built, Grid.rowsOf_foldl_after]
    rfl
  · intro keeps
    exact TabbedBlock.length_texts ((TabbedBlock.regular_built_iff style label _).mpr keeps)

/-- Calls that set headers twice, and add rows before, between and of a wrong length. -/
def relabelling : List Table.Call :=
  [.row [.text "early"], .headers ["Name", "Use"], .row [.text "a", .text "b"], .caption "All",
    .row [.text "short"], .headers ["Key", "Note"], .row [.text "c", .text "d"]]

theorem keepsColumns_relabelling :
    Grid.kept List.length none (relabelling.filterMap Table.Call.grid?) =
        [[.text "a", .text "b"], [.text "c", .text "d"]] ∧
      Grid.KeepsColumns List.length (relabelling.filterMap Table.Call.grid?) ∧
      ∀ cells ∈ (Table.built .html relabelling).texts, cells.length = 2 := by
  obtain ⟨-, rows_eq, regular_iff, -, lengths⟩ :=
    (built_regular_iff_keepsColumns .html "All" relabelling ([] : List (TabbedBlock.Call Unit))).1
  have kept_eq : Grid.kept List.length none (relabelling.filterMap Table.Call.grid?) =
      [[.text "a", .text "b"], [.text "c", .text "d"]] := rfl
  have regular : Grid.Regular List.length (Table.built .html relabelling).grid := by
    intro row row_mem
    rw [rows_eq, kept_eq] at row_mem
    rcases List.mem_pair.mp row_mem with rfl | rfl
    · rfl
    · rfl
  have keeps := regular_iff.mp regular
  exact ⟨kept_eq, keeps, lengths keeps⟩

/-- Other headers over the rows of a table, in another number, leave rows that do not fit them. -/
theorem not_regular_widened :
    let table := Table.built .markdown
      [.headers ["Name"], .row [.text "a"], .headers ["Name", "Use"]]
    (Content.table table).render "\n" = "|Name|Use|\n|---|---|\n|a|\n" ∧
      ¬ ∀ row ∈ Grid.rowsOf table.grid, row.length = table.headers.length := by
  refine ⟨by decide +kernel, ?_⟩
  intro regular
  have length_eq : 1 = 2 := regular [.text "a"] List.mem_cons_self
  omega

end RefDocs
