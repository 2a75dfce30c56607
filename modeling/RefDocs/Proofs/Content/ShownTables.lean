import RefDocs.Content.Tabs
import RefDocs.Proofs.Content.Induction
import RefDocs.Proofs.Content.Tabs

/-!
# The tables that are shown

A tabbed table is written as tables with labels, in a switcher or one alone.  A row is in none of
them if no tab selects it and some tab selects another row.
-/

namespace RefDocs
namespace TabbedTable

variable {Row Row' : Type}

/-- The tables are written in a switcher. -/
def hasSwitcher (table : TabbedTable Content) (rows : List Row) : Bool :=
  table.forced || (matching table.tabs rows).length > 1

/-- The tables that are written, with their labels: one for each tab that selects a row, behind a
table of all rows if a switcher is forced, or that table alone where no tab selects a row. -/
def shownTables (table : TabbedTable Content) (rows : List Row) : List (String × List Row) :=
  let tabs := matching table.tabs rows
  if table.forced then (table.defaultLabel, rows) :: tabs
  else if tabs.isEmpty then [(table.defaultLabel, rows)] else tabs

/-- The lines of labelled tables, in a switcher or without one. -/
def writeLabelled (newline : String) (style : TableStyle) (key : Option String) (switcher : Bool)
    (headers : List String) (tables : List (String × List (List String))) : String :=
  if switcher then
    openTabs newline key
      ++ String.join (tables.map fun table =>
        openTab newline table.1 ++ style.writeTable newline headers table.2)
      ++ closeTabs newline
  else
    String.join (tables.map fun table =>
      tableLabel newline table.1 ++ style.writeTable newline headers table.2)

theorem writeTables_eq (newline : String) (table : TabbedTable Content) (headers : List String)
    (rows : List (List String)) :
    table.writeTables newline headers rows =
      writeLabelled newline table.style table.key (table.hasSwitcher rows) headers
        (table.shownTables rows) := by
  rw [writeTables, writeLabelled, hasSwitcher, shownTables]
  generalize matching table.tabs rows = tabs
  cases table.forced with
  | true => rfl
  | false =>
      rcases tabs with _ | ⟨single, _ | ⟨next, others⟩⟩
      · simp
      · simp
      · rfl

theorem shownTables_map (make : Row → Row') (table : TabbedTable Content) (rows : List Row) :
    table.shownTables (rows.map make) =
      (table.shownTables rows).map fun shown => (shown.1, shown.2.map make) := by
  rw [shownTables, shownTables, matching_map]
  generalize matching table.tabs rows = tabs
  cases table.forced with
  | true => rfl
  | false => cases tabs <;> rfl

theorem hasSwitcher_map (make : Row → Row') (table : TabbedTable Content) (rows : List Row) :
    table.hasSwitcher (rows.map make) = table.hasSwitcher rows := by
  rw [hasSwitcher, hasSwitcher, matching_map, List.length_map]

theorem select_map_filter {Item : Type} (keeps : Item → Bool) (make : Item → Row)
    (items : List Item) :
    select (items.map keeps) (items.map make) = (items.filter keeps).map make := by
  simp [select, List.zip_map', List.filter_map, Function.comp_def]

end TabbedTable

namespace TabbedBlock

variable {Item : Type} {block : TabbedBlock Item} {headers : List String}
  {rows : List (Item × List Content)}

/-- The tabs of a block that select a row, each with the rows that it selects. -/
theorem matching_spread (grid_eq : block.grid = some ⟨headers, rows⟩) :
    TabbedTable.matching block.spread.tabs (rows.map Prod.snd) =
      (block.tabs.map fun tab =>
        (tab.label, (rows.filter fun row => tab.selects row.1).map Prod.snd)).filter
          fun tab => !tab.2.isEmpty := by
  simp only [TabbedTable.matching, spread, grid_eq, Grid.rowsOf, List.map_map, Function.comp_def,
    TabbedTable.select_map_filter]

/-- A row is in a table that is shown if some tab selects it, or there are no tabs at all. -/
theorem exists_shown (grid_eq : block.grid = some ⟨headers, rows⟩)
    {row : Item × List Content} (row_mem : row ∈ rows)
    (selected : block.tabs ≠ [] → ∃ tab ∈ block.tabs, tab.selects row.1 = true) :
    ∃ table ∈ block.spread.shownTables (rows.map Prod.snd), row.2 ∈ table.2 := by
  have cells_mem : row.2 ∈ rows.map Prod.snd := List.mem_map_of_mem row_mem
  have in_matching : block.tabs ≠ [] →
      ∃ table ∈ TabbedTable.matching block.spread.tabs (rows.map Prod.snd), row.2 ∈ table.2 := by
    intro tabs_ne
    obtain ⟨tab, tab_mem, tab_selects⟩ := selected tabs_ne
    have chosen_mem : row.2 ∈ (rows.filter fun row => tab.selects row.1).map Prod.snd :=
      List.mem_map_of_mem (List.mem_filter.mpr ⟨row_mem, tab_selects⟩)
    rw [matching_spread grid_eq]
    refine ⟨_, List.mem_filter.mpr ⟨List.mem_map_of_mem tab_mem, ?_⟩, chosen_mem⟩
    rw [Bool.not_eq_true', List.isEmpty_eq_false_iff]
    exact List.ne_nil_of_mem chosen_mem
  rw [TabbedTable.shownTables]
  split
  · exact ⟨_, List.mem_cons_self, cells_mem⟩
  · split
    · exact ⟨_, List.mem_singleton_self _, cells_mem⟩
    · rename_i matching_ne
      refine in_matching ?_
      intro tabs_eq
      exact matching_ne (by simp [matching_spread grid_eq, tabs_eq])

theorem isEmpty_toContent (grid_eq : block.grid = some ⟨headers, rows⟩) :
    block.toContent.isEmpty = rows.isEmpty := by
  simp [toContent, Content.isEmpty, spread, grid_eq, Grid.rowsOf]

/-- A block with rows is written as the tables that are shown, on a fresh line. -/
theorem write_toContent_at (grid_eq : block.grid = some ⟨headers, rows⟩) (rows_ne : rows ≠ [])
    (newline : String) (atLineStart : Bool) :
    block.toContent.write newline atLineStart =
      ⟨freshLine newline atLineStart ++ TabbedTable.writeLabelled newline block.style block.key
        (block.spread.hasSwitcher (rows.map Prod.snd)) headers
        ((block.spread.shownTables (rows.map Prod.snd)).map fun table =>
          (table.1, Content.rowTexts block.style table.2)), true⟩ := by
  obtain ⟨style, label, key, forced, tabs, grid⟩ := block
  obtain rfl : grid = some ⟨headers, rows⟩ := grid_eq
  have not_empty : ((rows.map Prod.snd).isEmpty : Bool) = false := by simpa using rows_ne
  rw [toContent, spread, Option.map_some, Content.write, not_empty, if_neg (by simp),
    Content.rowTexts_eq_map, TabbedTable.writeTables_eq, TabbedTable.shownTables_map,
    TabbedTable.hasSwitcher_map]
  simp only [Content.rowTexts_eq_map]
  rfl

/-- A block with rows is written as the tables that are shown. -/
theorem write_toContent (grid_eq : block.grid = some ⟨headers, rows⟩) (rows_ne : rows ≠ [])
    (newline : String) :
    block.toContent.write newline true =
      ⟨TabbedTable.writeLabelled newline block.style block.key
        (block.spread.hasSwitcher (rows.map Prod.snd)) headers
        ((block.spread.shownTables (rows.map Prod.snd)).map fun table =>
          (table.1, Content.rowTexts block.style table.2)), true⟩ := by
  rw [write_toContent_at grid_eq rows_ne, freshLine, if_pos rfl, String.empty_append]

end TabbedBlock

/-- What is sorted by a key of which all values are listed once is there once. -/
theorem flatMap_filter_perm {Item Key : Type} [DecidableEq Key] {key : Item → Key}
    {keys : List Key} (distinct : keys.Nodup) {items : List Item}
    (covered : ∀ item ∈ items, key item ∈ keys) :
    (keys.flatMap fun other => items.filter fun item => key item = other).Perm items := by
  induction keys generalizing items with
  | nil =>
      obtain rfl : items = [] := List.eq_nil_iff_forall_not_mem.mpr fun item item_mem =>
        List.not_mem_nil (covered item item_mem)
      rfl
  | cons first others ih =>
      rw [List.nodup_cons] at distinct
      have rest_covered : ∀ item ∈ items.filter (fun item => !decide (key item = first)),
          key item ∈ others := by
        intro item item_mem
        obtain ⟨declared, not_first⟩ := List.mem_filter.mp item_mem
        exact (List.mem_cons.mp (covered item declared)).resolve_left (by simpa using not_first)
      have rest_eq : ∀ other ∈ others, (items.filter fun item => key item = other) =
          (items.filter fun item => !decide (key item = first)).filter
            fun item => key item = other := by
        intro other other_mem
        have other_ne : other ≠ first := ne_of_mem_of_not_mem other_mem distinct.1
        rw [List.filter_filter]
        refine List.filter_congr ?_
        intro item _
        by_cases key_eq : key item = other
        · simp [key_eq, other_ne]
        · simp [key_eq]
      rw [List.flatMap_cons, List.flatMap_congr rest_eq]
      exact ((ih distinct.2 rest_covered).append_left _).trans (List.filter_append_perm _ items)

end RefDocs
