import Mathlib.Data.List.Basic
import RefDocs.Content.Containers

/-!
# The rows that tabs select

A tab selects rows of the table that it is about, by place.  Which tabs there are and which rows
they select is the same for rows and for what is made of each of them.
-/

namespace RefDocs
namespace TabbedTable

variable {Row Row' : Type}

theorem select_sublist (selected : List Bool) (rows : List Row) :
    (select selected rows).Sublist rows := by
  induction rows generalizing selected with
  | nil => simp [select]
  | cons row rest ih =>
      cases selected with
      | nil => simp [select]
      | cons first others =>
          cases first with
          | true => simpa [select] using ih others
          | false => simpa [select] using (ih others).cons row

theorem select_map (make : Row → Row') (selected : List Bool) (rows : List Row) :
    select selected (rows.map make) = (select selected rows).map make := by
  simp [select, List.zip_map_right, List.filter_map, Function.comp_def]

theorem mem_matching {tabs : List (String × List Bool)} {rows : List Row}
    {tab : String × List Row} (tab_mem : tab ∈ matching tabs rows) :
    (∃ selected, (tab.1, selected) ∈ tabs) ∧ tab.2.Sublist rows := by
  obtain ⟨chosen, chosen_mem, rfl⟩ := List.mem_map.mp (List.mem_of_mem_filter tab_mem)
  exact ⟨⟨chosen.2, chosen_mem⟩, select_sublist chosen.2 rows⟩

theorem matching_map (make : Row → Row') (tabs : List (String × List Bool)) (rows : List Row) :
    matching tabs (rows.map make) =
      (matching tabs rows).map fun tab => (tab.1, tab.2.map make) := by
  simp [matching, select_map, List.filter_map, Function.comp_def]

theorem mem_of_mem_shownRows {table : TabbedTable Content} {rows : List Row} {row : Row}
    (row_mem : row ∈ table.shownRows rows) : row ∈ rows := by
  have matching_mem : ∀ tab ∈ matching table.tabs rows, row ∈ tab.2 → row ∈ rows :=
    fun tab tab_mem row_mem => (mem_matching tab_mem).2.mem row_mem
  rw [shownRows] at row_mem
  dsimp only at row_mem
  split at row_mem
  · obtain ⟨tab, tab_mem, row_mem⟩ := List.mem_flatMap.mp row_mem
    split at tab_mem
    · rcases List.mem_cons.mp tab_mem with rfl | tab_mem
      · exact row_mem
      · exact matching_mem tab tab_mem row_mem
    · exact matching_mem tab tab_mem row_mem
  · cases tabs_eq : matching table.tabs rows with
    | nil => simpa [tabs_eq] using row_mem
    | cons tab rest =>
        rw [tabs_eq] at row_mem
        exact matching_mem tab (tabs_eq ▸ List.mem_cons_self) row_mem

theorem shownRows_map (make : Row → Row') (table : TabbedTable Content) (rows : List Row) :
    table.shownRows (rows.map make) = (table.shownRows rows).map make := by
  rw [shownRows, shownRows, matching_map]
  generalize matching table.tabs rows = tabs
  simp only [List.length_map]
  split
  · split
    · simp [List.flatMap_map, List.map_flatMap]
    · simp [List.flatMap_map, List.map_flatMap]
  · cases tabs <;> rfl

end TabbedTable
end RefDocs
