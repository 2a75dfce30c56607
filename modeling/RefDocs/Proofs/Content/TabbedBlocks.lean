import RefDocs.Proofs.Content.ShownTables

/-!
# Tabbed blocks as tables

A tabbed block is written as a tab switcher over plain tables, or as one plain table under a label.
Each tab that selects a row has a table of the rows that it selects; a row is in no table if no tab
selects it, some tab selects another row and no tab of all rows is forced.
-/

namespace RefDocs
namespace TabbedBlock

variable {Item : Type}

/-- The rows that a tab selects, in order. -/
def rowsOf (rows : List (Item × List Content)) (tab : TabRule Item) :
    List (Item × List Content) :=
  rows.filter fun row => tab.selects row.1

/-- The tabs that select at least one of the rows, in order of declaration. -/
def matchingTabs (block : TabbedBlock Item) (rows : List (Item × List Content)) :
    List (TabRule Item) :=
  block.tabs.filter fun tab => rows.any fun row => tab.selects row.1

/-- The tables of a block with their labels: those of the matching tabs, behind a table of all rows
if tabs are forced, or that table alone if no tab matches. -/
def tables (block : TabbedBlock Item) (rows : List (Item × List Content)) :
    List (String × List (Item × List Content)) :=
  let matching := (block.matchingTabs rows).map fun tab => (tab.label, rowsOf rows tab)
  if block.forced then (block.defaultLabel, rows) :: matching
  else if matching.isEmpty then [(block.defaultLabel, rows)] else matching

/-- A plain table of rows, without the items that they are tagged with. -/
def plainTable (block : TabbedBlock Item) (headers : List String) (caption : Option String)
    (rows : List (Item × List Content)) : Content :=
  .table ⟨block.style, caption, some ⟨headers, rows.map Prod.snd⟩⟩

/-- A tab switcher with a plain table under each label. -/
def switcher (block : TabbedBlock Item) (headers : List String)
    (tables : List (String × List (Item × List Content))) : Content :=
  .tabs ⟨block.key, tables.map fun table => (table.1, [block.plainTable headers none table.2])⟩

section Written

variable {block : TabbedBlock Item} {headers : List String} {rows : List (Item × List Content)}

theorem rowsOf_ne_nil {tab : TabRule Item} (tab_mem : tab ∈ block.matchingTabs rows) :
    rowsOf rows tab ≠ [] := by
  obtain ⟨row, row_mem, selected⟩ := List.any_eq_true.mp (List.mem_filter.mp tab_mem).2
  exact List.ne_nil_of_mem (List.mem_filter.mpr ⟨row_mem, selected⟩)

theorem ne_nil_of_mem_tables (rows_ne : rows ≠ []) {table : String × List (Item × List Content)}
    (table_mem : table ∈ block.tables rows) : table.2 ≠ [] := by
  have of_matching (mem : table ∈ (block.matchingTabs rows).map fun tab =>
      (tab.label, rowsOf rows tab)) : table.2 ≠ [] := by
    obtain ⟨tab, tab_mem, rfl⟩ := List.mem_map.mp mem
    exact rowsOf_ne_nil tab_mem
  rw [tables] at table_mem
  split at table_mem
  · rcases List.mem_cons.mp table_mem with rfl | table_mem
    · exact rows_ne
    · exact of_matching table_mem
  · split at table_mem
    · rw [List.mem_singleton] at table_mem
      exact table_mem ▸ rows_ne
    · exact of_matching table_mem

theorem tables_ne_nil (block : TabbedBlock Item) (rows : List (Item × List Content)) :
    block.tables rows ≠ [] := by
  rw [tables]
  split
  · exact List.cons_ne_nil _ _
  · split
    · exact List.cons_ne_nil _ _
    · rename_i some_matching
      simpa using some_matching

/-! ## The tables that are written -/

theorem matching_spread_eq (grid_eq : block.grid = some ⟨headers, rows⟩) :
    TabbedTable.matching block.spread.tabs (rows.map Prod.snd) =
      (block.matchingTabs rows).map fun tab => (tab.label, (rowsOf rows tab).map Prod.snd) := by
  rw [matching_spread grid_eq, matchingTabs, List.filter_map]
  refine congrArg _ (List.filter_congr fun tab _ => ?_)
  rw [Bool.eq_iff_iff]
  simp

theorem shownTables_spread (grid_eq : block.grid = some ⟨headers, rows⟩) :
    block.spread.shownTables (rows.map Prod.snd) =
      (block.tables rows).map fun table => (table.1, table.2.map Prod.snd) := by
  rw [TabbedTable.shownTables, matching_spread_eq grid_eq, tables]
  simp only [apply_ite (List.map _), List.isEmpty_map, List.map_cons, List.map_map]
  rfl

theorem hasSwitcher_spread (grid_eq : block.grid = some ⟨headers, rows⟩) :
    block.spread.hasSwitcher (rows.map Prod.snd) = true ↔
      block.forced = true ∨ 1 < (block.matchingTabs rows).length := by
  rw [TabbedTable.hasSwitcher, matching_spread_eq grid_eq, List.length_map, Bool.or_eq_true,
    decide_eq_true_iff]
  rfl

/-- Without a switcher there is one table. -/
theorem exists_tables_eq_singleton
    (alone : ¬ (block.forced = true ∨ 1 < (block.matchingTabs rows).length)) :
    ∃ table, block.tables rows = [table] := by
  obtain ⟨unforced, at_most_one⟩ := not_or.mp alone
  rw [tables, if_neg unforced]
  cases matching_eq : block.matchingTabs rows with
  | nil => exact ⟨_, rfl⟩
  | cons tab others =>
      rw [matching_eq, List.length_cons] at at_most_one
      obtain rfl : others = [] := List.eq_nil_of_length_eq_zero (by omega)
      exact ⟨_, rfl⟩

theorem isEmpty_plainTable (caption : Option String) :
    (block.plainTable headers caption rows).isEmpty = rows.isEmpty := by
  simp [plainTable, Content.isEmpty, Grid.rowsOf]

theorem write_plainTable (rows_ne : rows ≠ []) (newline : String) (caption : Option String)
    (atLineStart : Bool) :
    (block.plainTable headers caption rows).write newline atLineStart =
      ⟨freshLine newline atLineStart ++ caption.elim "" (tableLabel newline) ++
        block.style.writeTable newline headers
          (Content.rowTexts block.style (rows.map Prod.snd)), true⟩ := by
  have not_empty : ((rows.map Prod.snd).isEmpty : Bool) = false := by simpa using rows_ne
  cases caption with
  | none => rw [plainTable, Content.write, not_empty, if_neg (by simp)]; rfl
  | some label => rw [plainTable, Content.write, not_empty, if_neg (by simp)]; rfl

theorem writeTabs_switcher (newline : String)
    {tables : List (String × List (Item × List Content))}
    (tables_ne : ∀ table ∈ tables, table.2 ≠ []) :
    Content.writeTabs newline
        (tables.map fun table => (table.1, [block.plainTable headers none table.2])) =
      String.join (tables.map fun table => openTab newline table.1 ++
        block.style.writeTable newline headers
          (Content.rowTexts block.style (table.2.map Prod.snd))) := by
  induction tables with
  | nil => rfl
  | cons table rest ih =>
      rw [List.forall_mem_cons] at tables_ne
      have not_empty : (block.plainTable headers none table.2).isEmpty = false := by
        simpa [isEmpty_plainTable] using tables_ne.1
      rw [List.map_cons, Content.writeTabs, Content.allEmpty, not_empty, Bool.false_and,
        if_neg (by simp), ih tables_ne.2, Content.writeAll, not_empty, if_neg (by simp),
        write_plainTable tables_ne.1]
      simp [Content.writeAll, Written.closed, freshLine]

theorem write_switcher {tables : List (String × List (Item × List Content))}
    (tables_ne : ∀ table ∈ tables, table.2 ≠ []) (some_table : tables ≠ []) (newline : String)
    (atLineStart : Bool) :
    (block.switcher headers tables).write newline atLineStart =
      ⟨freshLine newline atLineStart ++ openTabs newline block.key ++
        String.join (tables.map fun table => openTab newline table.1 ++
          block.style.writeTable newline headers
            (Content.rowTexts block.style (table.2.map Prod.snd))) ++ closeTabs newline, true⟩ := by
  have not_empty : Content.allTabsEmpty
      (tables.map fun table => (table.1, [block.plainTable headers none table.2])) = false := by
    obtain ⟨table, rest, rfl⟩ := List.exists_cons_of_ne_nil some_table
    have first_ne := tables_ne table List.mem_cons_self
    simp [Content.allTabsEmpty, Content.allEmpty, isEmpty_plainTable, first_ne]
  rw [switcher, Content.write, not_empty, if_neg (by simp), writeTabs_switcher newline tables_ne]

/-! ## Rows in tables -/

theorem matchingTabs_eq_nil_iff : block.matchingTabs rows = [] ↔
    ∀ row ∈ rows, ∀ tab ∈ block.tabs, tab.selects row.1 = false := by
  rw [matchingTabs, List.filter_eq_nil_iff]
  simp only [List.any_eq_true, not_exists, not_and, Bool.not_eq_true]
  exact ⟨fun none row row_mem tab tab_mem => none tab tab_mem row row_mem,
    fun none tab tab_mem row row_mem => none row row_mem tab tab_mem⟩

/-- A row is in the table of a tab exactly if the tab selects it. -/
theorem exists_matching_mem_iff {row : Item × List Content} (row_mem : row ∈ rows) :
    (∃ tab ∈ block.matchingTabs rows, row ∈ rowsOf rows tab) ↔
      ∃ tab ∈ block.tabs, tab.selects row.1 = true := by
  constructor
  · rintro ⟨tab, tab_mem, selected⟩
    exact ⟨tab, List.mem_of_mem_filter tab_mem, (List.mem_filter.mp selected).2⟩
  · rintro ⟨tab, tab_mem, selected⟩
    exact ⟨tab, List.mem_filter.mpr ⟨tab_mem, List.any_eq_true.mpr ⟨row, row_mem, selected⟩⟩,
      List.mem_filter.mpr ⟨row_mem, selected⟩⟩

theorem exists_table_mem_iff {row : Item × List Content} (row_mem : row ∈ rows) :
    (∃ table ∈ block.tables rows, row ∈ table.2) ↔
      block.forced = true ∨ (∃ tab ∈ block.tabs, tab.selects row.1 = true) ∨
        ∀ other ∈ rows, ∀ tab ∈ block.tabs, tab.selects other.1 = false := by
  by_cases forced : block.forced = true
  · rw [tables, if_pos forced]
    exact ⟨fun _ => .inl forced, fun _ => ⟨_, List.mem_cons_self, row_mem⟩⟩
  · rw [tables, if_neg forced, ← matchingTabs_eq_nil_iff, ← exists_matching_mem_iff row_mem]
    cases block.matchingTabs rows with
    | nil => simp [forced, row_mem]
    | cons tab others => simp [forced]

/-- A row is in no table exactly if tabs are not forced, no tab selects it and some tab selects
another row. -/
theorem absent_iff {row : Item × List Content} (row_mem : row ∈ rows) :
    (∀ table ∈ block.tables rows, row ∉ table.2) ↔
      block.forced = false ∧ (∀ tab ∈ block.tabs, tab.selects row.1 = false) ∧
        ∃ other ∈ rows, ∃ tab ∈ block.tabs, tab.selects other.1 = true := by
  have not_shown : (∀ table ∈ block.tables rows, row ∉ table.2) ↔
      ¬ ∃ table ∈ block.tables rows, row ∈ table.2 := by simp
  rw [not_shown, exists_table_mem_iff row_mem]
  simp

/-- A block with rows is written as a switcher over plain tables if more than one tab matches or
tabs are forced, and else as the one plain table under its label.  The tables have the rows that
their tabs select, so a row is left out exactly if tabs are not forced, no tab selects it and some
tab selects another row. -/
theorem write_eq_tables_and_absent_iff (grid_eq : block.grid = some ⟨headers, rows⟩)
    (rows_ne : rows ≠ []) :
    (∀ newline atLineStart,
        (block.forced = true ∨ 1 < (block.matchingTabs rows).length →
          block.toContent.write newline atLineStart =
            (block.switcher headers (block.tables rows)).write newline atLineStart) ∧
        (¬ (block.forced = true ∨ 1 < (block.matchingTabs rows).length) →
          ∃ label shown, block.tables rows = [(label, shown)] ∧
            block.toContent.write newline atLineStart =
              (block.plainTable headers (some label) shown).write newline atLineStart)) ∧
      ∀ row ∈ rows, (∀ table ∈ block.tables rows, row ∉ table.2) ↔
        block.forced = false ∧ (∀ tab ∈ block.tabs, tab.selects row.1 = false) ∧
          ∃ other ∈ rows, ∃ tab ∈ block.tabs, tab.selects other.1 = true := by
  have tables_ne : ∀ table ∈ block.tables rows, table.2 ≠ [] :=
    fun table table_mem => ne_nil_of_mem_tables rows_ne table_mem
  refine ⟨fun newline atLineStart => ⟨?_, ?_⟩, fun row row_mem => absent_iff row_mem⟩
  · intro switched
    rw [write_toContent_at grid_eq rows_ne, shownTables_spread grid_eq, List.map_map,
      (hasSwitcher_spread grid_eq).mpr switched, write_switcher tables_ne
        (block.tables_ne_nil rows), TabbedTable.writeLabelled]
    simp [Function.comp_def, String.append_assoc]
  · intro alone
    obtain ⟨⟨label, shown⟩, tables_eq⟩ := exists_tables_eq_singleton alone
    have shown_ne : shown ≠ [] := tables_ne (label, shown) (tables_eq ▸ List.mem_singleton_self _)
    refine ⟨label, shown, tables_eq, ?_⟩
    have single : block.spread.hasSwitcher (rows.map Prod.snd) = false := by
      rw [← Bool.not_eq_true, hasSwitcher_spread grid_eq]
      exact alone
    rw [write_toContent_at grid_eq rows_ne, shownTables_spread grid_eq, tables_eq, single,
      write_plainTable shown_ne, TabbedTable.writeLabelled]
    simp [String.append_assoc]

end Written

/-- Numbers in a block with tabs that overlap and leave one number out. -/
def numberBlock : TabbedBlock Nat where
  style := .markdown
  defaultLabel := "All"
  tabs := [⟨"Even", fun number => number % 2 = 0⟩, ⟨"None", fun _ => false⟩,
    ⟨"Large", fun number => number > 2⟩]
  grid := some ⟨["Number"], [(1, [.text "one"]), (4, [.text "four"]), (2, [.text "two"])]⟩

theorem write_numberBlock :
    numberBlock.grid =
        some ⟨["Number"], [(1, [.text "one"]), (4, [.text "four"]), (2, [.text "two"])]⟩ ∧
      numberBlock.toContent.write "\n" true =
        (numberBlock.switcher ["Number"] [("Even", [(4, [.text "four"]), (2, [.text "two"])]),
          ("Large", [(4, [.text "four"])])]).write "\n" true ∧
      ∀ table ∈ numberBlock.tables
          [(1, [.text "one"]), (4, [.text "four"]), (2, [.text "two"])],
        (1, [Content.text "one"]) ∉ table.2 := by
  obtain ⟨written, absent⟩ := @write_eq_tables_and_absent_iff Nat numberBlock _ _ rfl (by simp)
  refine ⟨rfl, (written "\n" true).1 (.inr (by decide)), ?_⟩
  exact (absent _ List.mem_cons_self).mpr ⟨rfl, by decide, (4, [.text "four"]), by simp,
    ⟨"Even", fun number => number % 2 = 0⟩, List.mem_cons_self, rfl⟩
end TabbedBlock
end RefDocs
