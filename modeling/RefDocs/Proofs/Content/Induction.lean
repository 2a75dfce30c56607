import RefDocs.Content.Write

/-!
# Induction over content

What holds of a node whenever it holds of the nodes directly in it holds of every tree.  The nodes
directly in a node are its children, its header and body, its cells, or the contents of its tabs.
-/

namespace RefDocs

/-- A node has a property whenever the nodes directly in it have it. -/
structure Hereditary (holds : Content → Prop) : Prop where
  run : ∀ piece, holds (.run piece)
  sequence : ∀ children, (∀ child ∈ children, holds child) → holds (.sequence children)
  container : ∀ kind header body, (∀ content ∈ header, holds content) → holds body →
    holds (.container kind header body)
  wrapper : ∀ frame, holds frame → holds (.wrapper frame)
  anchored : ∀ anchor body, holds body → holds (.anchored anchor body)
  table : ∀ plain, (∀ row ∈ Grid.rowsOf plain.grid, ∀ cell ∈ row, holds cell) →
    holds (.table plain)
  tabs : ∀ group, (∀ tab ∈ group.tabs, ∀ child ∈ tab.2, holds child) → holds (.tabs group)
  tabbed : ∀ spread, (∀ row ∈ Grid.rowsOf spread.grid, ∀ cell ∈ row, holds cell) →
    holds (.tabbed spread)

namespace Hereditary

variable {holds : Content → Prop}

mutual

theorem forall_content (step : Hereditary holds) : (content : Content) → holds content
  | .run piece => step.run piece
  | .sequence children => step.sequence children (step.forall_children children)
  | .container kind header body =>
    step.container kind header body (step.forall_header header) (step.forall_content body)
  | .wrapper frame => step.wrapper frame (step.forall_content frame)
  | .anchored anchor body => step.anchored anchor body (step.forall_content body)
  | .table ⟨_, _, some ⟨_, rows⟩⟩ => step.table _ (step.forall_rows rows)
  | .table ⟨_, _, none⟩ => step.table _ (List.forall_mem_nil _)
  | .tabs ⟨_, named⟩ => step.tabs _ (step.forall_tabs named)
  | .tabbed ⟨_, _, _, _, _, some ⟨_, rows⟩⟩ => step.tabbed _ (step.forall_rows rows)
  | .tabbed ⟨_, _, _, _, _, none⟩ => step.tabbed _ (List.forall_mem_nil _)
termination_by structural content => content

theorem forall_header (step : Hereditary holds) : (header : Option Content) →
    ∀ content ∈ header, holds content
  | some header, _, rfl => step.forall_content header
  | none, _, content_mem => nomatch content_mem
termination_by structural header => header

theorem forall_children (step : Hereditary holds) : (children : List Content) →
    ∀ child ∈ children, holds child
  | [] => List.forall_mem_nil _
  | child :: rest =>
    List.forall_mem_cons.mpr ⟨step.forall_content child, step.forall_children rest⟩
termination_by structural children => children

theorem forall_tabs (step : Hereditary holds) : (named : List (String × List Content)) →
    ∀ tab ∈ named, ∀ child ∈ tab.2, holds child
  | [] => List.forall_mem_nil _
  | (_, children) :: rest =>
    List.forall_mem_cons.mpr ⟨step.forall_children children, step.forall_tabs rest⟩
termination_by structural named => named

theorem forall_rows (step : Hereditary holds) : (rows : List (List Content)) →
    ∀ row ∈ rows, ∀ cell ∈ row, holds cell
  | [] => List.forall_mem_nil _
  | row :: rest => List.forall_mem_cons.mpr ⟨step.forall_children row, step.forall_rows rest⟩
termination_by structural rows => rows

end

end Hereditary

namespace Content

/-! ## Parts of nodes -/

theorem cellTexts_eq_map (style : TableStyle) (cells : List Content) :
    cellTexts style cells = cells.map fun cell => style.cellText (cell.render "\n") := by
  induction cells with
  | nil => rfl
  | cons cell rest ih => simp [cellTexts, render, ih]

theorem rowTexts_eq_map (style : TableStyle) (rows : List (List Content)) :
    rowTexts style rows = rows.map (cellTexts style) := by
  induction rows with
  | nil => rfl
  | cons row rest ih => simp [rowTexts, ih]

end Content
end RefDocs
