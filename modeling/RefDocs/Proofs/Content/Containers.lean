import RefDocs.Content.Containers
import RefDocs.Proofs.Content.Cursor
import RefDocs.Proofs.Content.Induction
import RefDocs.Proofs.Content.Tabs

/-!
# The containers of a tree

The containers that are written for a tree are those that are written for its parts.  A node with
nothing to show has none, and what a container has in itself and keeps in each node around it, it
has in the whole tree.
-/

namespace RefDocs

namespace Content

theorem containersIn_eq_flatMap (newline : String) (children : List Content) :
    containersIn newline children = children.flatMap (containers newline) := by
  induction children with
  | nil => rfl
  | cons child rest ih => rw [containersIn, List.flatMap_cons, ih]

theorem containersInTabs_eq_flatMap (newline : String) (named : List (String × List Content)) :
    containersInTabs newline named =
      named.flatMap fun tab => tab.2.flatMap (containers newline) := by
  induction named with
  | nil => rfl
  | cons tab rest ih =>
      rw [containersInTabs, containersIn_eq_flatMap, List.flatMap_cons, ih]

theorem containersInRows_eq_map (rows : List (List Content)) :
    containersInRows rows = rows.map fun row => row.flatMap (containers "\n") := by
  induction rows with
  | nil => rfl
  | cons row rest ih => rw [containersInRows, containersIn_eq_flatMap, List.map_cons, ih]

theorem containers_table (newline : String) (style : TableStyle) (caption : Option String)
    (headers : List String) (rows : List (List Content)) :
    (Content.table ⟨style, caption, some ⟨headers, rows⟩⟩).containers newline =
      rows.flatMap fun row => row.flatMap (containers "\n") := by
  rw [containers, containersInRows_eq_map, List.flatMap_def]

theorem containers_tabbed (newline : String) (style : TableStyle) (label : String)
    (key : Option String) (forced : Bool) (selections : List (String × List Bool))
    (headers : List String) (rows : List (List Content)) :
    (Content.tabbed ⟨style, label, key, forced, selections, some ⟨headers, rows⟩⟩).containers
        newline =
      (TabbedTable.shownRows ⟨style, label, key, forced, selections, none⟩ rows).flatMap
        fun row => row.flatMap (containers "\n") := by
  rw [containers, containersInRows_eq_map, TabbedTable.shownRows_map, List.flatMap_def]

theorem allEmpty_iff {children : List Content} :
    allEmpty children = true ↔ ∀ child ∈ children, child.isEmpty = true := by
  induction children with
  | nil => simp [allEmpty]
  | cons child rest ih => simp [allEmpty, ih]

theorem allTabsEmpty_iff {named : List (String × List Content)} :
    allTabsEmpty named = true ↔ ∀ tab ∈ named, ∀ child ∈ tab.2, child.isEmpty = true := by
  induction named with
  | nil => simp [allTabsEmpty]
  | cons tab rest ih => simp [allTabsEmpty, allEmpty_iff, ih]

theorem hereditary_containers_eq_nil :
    Hereditary fun content => content.isEmpty = true → ∀ newline, content.containers newline = []
    where
  run piece _ _ := rfl
  sequence children ih children_empty newline := by
    have each_empty := allEmpty_iff.mp children_empty
    rw [containers, containersIn_eq_flatMap, List.flatMap_eq_nil_iff]
    exact fun child child_mem => ih child child_mem (each_empty child child_mem) newline
  container kind header body header_ih body_ih body_empty newline := dif_pos body_empty
  wrapper frame ih := ih
  anchored anchor body ih := ih
  table plain ih rows_empty newline := by
    obtain ⟨style, caption, _ | ⟨headers, rows⟩⟩ := plain
    · rfl
    · obtain rfl : rows = [] := List.isEmpty_iff.mp rows_empty
      rfl
  tabs group ih tabs_empty newline := by
    obtain ⟨key, named⟩ := group
    have each_empty := allTabsEmpty_iff.mp tabs_empty
    rw [containers, containersInTabs_eq_flatMap, List.flatMap_eq_nil_iff]
    intro tab tab_mem
    rw [List.flatMap_eq_nil_iff]
    exact fun child child_mem =>
      ih tab tab_mem child child_mem (each_empty tab tab_mem child child_mem) newline
  tabbed spread ih rows_empty newline := by
    obtain ⟨style, label, key, forced, selections, _ | ⟨headers, rows⟩⟩ := spread
    · rfl
    · obtain rfl : rows = [] := List.isEmpty_iff.mp rows_empty
      rw [containers_tabbed, List.flatMap_eq_nil_iff]
      intro row row_mem
      cases TabbedTable.mem_of_mem_shownRows row_mem

/-- An empty node has no container in it. -/
theorem containers_eq_nil {content : Content} (content_empty : content.isEmpty = true)
    (newline : String) : content.containers newline = [] :=
  hereditary_containers_eq_nil.forall_content content content_empty newline

theorem isEmpty_eq_false_of_mem {content : Content} {newline : String} {block : FencedBlock}
    (block_mem : block ∈ content.containers newline) : content.isEmpty = false := by
  rw [← Bool.not_eq_true]
  intro content_empty
  rw [containers_eq_nil content_empty] at block_mem
  cases block_mem

/-! ## Parts of nodes -/

/-- A node that is written in another, directly, with the separators of the lines of both. -/
inductive Part (newline : String) : Content → String → Content → Prop where
  | child {children : List Content} {child : Content} (child_mem : child ∈ children)
    (child_written : child.isEmpty = false) : Part newline (.sequence children) newline child
  | header {kind : ContainerKind} {header body : Content} (body_written : body.isEmpty = false)
    (header_written : header.isEmpty = false) :
    Part newline (.container kind (some header) body) newline header
  | body {kind : ContainerKind} {header : Option Content} {body : Content}
    (body_written : body.isEmpty = false) : Part newline (.container kind header body) newline body
  | frame {frame : Content} : Part newline (.wrapper frame) newline frame
  | anchored {anchor : String} {body : Content} (body_written : body.isEmpty = false) :
    Part newline (.anchored anchor body) newline body
  | cell {style : TableStyle} {caption : Option String} {headers : List String}
    {rows : List (List Content)} {row : List Content} {cell : Content} (row_mem : row ∈ rows)
    (cell_mem : cell ∈ row) :
    Part newline (.table ⟨style, caption, some ⟨headers, rows⟩⟩) "\n" cell
  | tab {key : Option String} {named : List (String × List Content)}
    {tab : String × List Content} {child : Content} (tab_mem : tab ∈ named)
    (child_mem : child ∈ tab.2) (child_written : child.isEmpty = false) :
    Part newline (.tabs ⟨key, named⟩) newline child
  | tabbedCell {style : TableStyle} {label : String} {key : Option String} {forced : Bool}
    {selections : List (String × List Bool)} {headers : List String} {rows : List (List Content)}
    {row : List Content} {cell : Content}
    (row_mem : row ∈ TabbedTable.shownRows ⟨style, label, key, forced, selections, none⟩ rows)
    (cell_mem : cell ∈ row) :
    Part newline (.tabbed ⟨style, label, key, forced, selections, some ⟨headers, rows⟩⟩) "\n" cell

theorem Part.newline_eq {newline newline' : String} {content part : Content}
    (is_part : Part newline content newline' part) : newline' = newline ∨ newline' = "\n" := by
  cases is_part <;> simp

/-- What a container has in itself, and keeps in each node that it is written in, it has in the
whole tree. -/
theorem forall_mem_containers (holds : String → Content → FencedBlock → Prop)
    (self : ∀ block : FencedBlock,
      holds block.newline (.container block.kind block.header block.body) block)
    (step : ∀ {newline content newline' part} (block : FencedBlock),
      Part newline content newline' part → holds newline' part block →
        holds newline content block)
    (content : Content) :
    ∀ newline, ∀ block ∈ content.containers newline, holds newline content block := by
  have heredity : Hereditary fun content =>
      ∀ newline, ∀ block ∈ content.containers newline, holds newline content block := by
    constructor
    · exact fun _ _ => nofun
    · intro children ih newline block block_mem
      rw [containers, containersIn_eq_flatMap, List.mem_flatMap] at block_mem
      obtain ⟨child, child_mem, block_mem⟩ := block_mem
      exact step block (.child child_mem (isEmpty_eq_false_of_mem block_mem))
        (ih child child_mem newline block block_mem)
    · intro kind header body header_ih body_ih newline block block_mem
      rw [containers] at block_mem
      split at block_mem
      · cases block_mem
      · rename_i not_empty
        have body_written : body.isEmpty = false := Bool.eq_false_iff.mpr not_empty
        rcases List.mem_cons.mp block_mem with rfl | block_mem
        · exact self ⟨newline, kind, header, body, body_written⟩
        · rcases List.mem_append.mp block_mem with in_header | in_body
          · cases header with
            | none => cases in_header
            | some header =>
                exact step block (.header body_written (isEmpty_eq_false_of_mem in_header))
                  (header_ih header rfl newline block in_header)
          · exact step block (.body body_written) (body_ih newline block in_body)
    · exact fun frame ih newline block block_mem => step block .frame (ih newline block block_mem)
    · exact fun anchor body ih newline block block_mem =>
        step block (.anchored (isEmpty_eq_false_of_mem block_mem)) (ih newline block block_mem)
    · intro plain ih newline block block_mem
      obtain ⟨style, caption, _ | ⟨headers, rows⟩⟩ := plain
      · cases block_mem
      · rw [containers_table, List.mem_flatMap] at block_mem
        obtain ⟨row, row_mem, block_mem⟩ := block_mem
        obtain ⟨cell, cell_mem, block_mem⟩ := List.mem_flatMap.mp block_mem
        exact step block (.cell row_mem cell_mem)
          (ih row row_mem cell cell_mem "\n" block block_mem)
    · intro group ih newline block block_mem
      obtain ⟨key, named⟩ := group
      rw [containers, containersInTabs_eq_flatMap, List.mem_flatMap] at block_mem
      obtain ⟨tab, tab_mem, block_mem⟩ := block_mem
      obtain ⟨child, child_mem, block_mem⟩ := List.mem_flatMap.mp block_mem
      exact step block (.tab tab_mem child_mem (isEmpty_eq_false_of_mem block_mem))
        (ih tab tab_mem child child_mem newline block block_mem)
    · intro spread ih newline block block_mem
      obtain ⟨style, label, key, forced, selections, _ | ⟨headers, rows⟩⟩ := spread
      · cases block_mem
      · rw [containers_tabbed, List.mem_flatMap] at block_mem
        obtain ⟨row, row_mem, block_mem⟩ := block_mem
        obtain ⟨cell, cell_mem, block_mem⟩ := List.mem_flatMap.mp block_mem
        exact step block (.tabbedCell row_mem cell_mem)
          (ih row (TabbedTable.mem_of_mem_shownRows row_mem) cell cell_mem "\n" block block_mem)
  exact heredity.forall_content content

end Content
end RefDocs
