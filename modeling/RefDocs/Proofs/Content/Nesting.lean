import RefDocs.Proofs.Content.Containers
import RefDocs.Proofs.Content.Markers
import RefDocs.Proofs.Content.Strings
import RefDocs.Proofs.Content.TableLines

/-!
# Nested containers

A container leaves its depth in front of its fence, and the containers around it find it there: in
no node that it is written in does its marker get lost.  So its depth is less than theirs.
-/

namespace RefDocs

open Depth (MarkersWithin markersIn)

namespace FencedBlock

/-- The depth in the marker of a container. -/
def depth (block : FencedBlock) : Nat :=
  Depth.around block.bodyText

/-- The opening and the closing fence of a container. -/
def fence (block : FencedBlock) : String :=
  Depth.fence block.depth

/-- The containers that are written in the body of a container. -/
def inside (block : FencedBlock) : List FencedBlock :=
  block.body.containers block.newline

/-- What is written for a container at the start of a line. -/
def text (block : FencedBlock) : String :=
  ((Content.container block.kind block.header block.body).write block.newline true).text

/-- A container is its marker, the opening fence with the header, the body, and the same fence. -/
theorem text_eq (block : FencedBlock) :
    block.text = Depth.marker block.depth ++ block.newline
      ++ block.fence ++ " " ++ block.kind.word ++ Content.writeHeader block.newline block.header
      ++ (block.body.write block.newline true).closed block.newline
      ++ block.fence ++ block.newline := by
  rw [text, Content.write, if_neg (by simp [block.body_written]), freshLine, if_pos rfl]
  dsimp only
  rw [String.empty_append]
  rfl

end FencedBlock

/-! ## Markers in what nodes are written in -/

section Markers

variable {newline newline' text : String} {content part : Content}

theorem Written.markersWithin_closed (newline : String) (written : Written) :
    MarkersWithin written.text (written.closed newline) := by
  rw [closed]
  split
  · exact .refl _
  · exact (MarkersWithin.refl _).append_right newline

theorem TableStyle.markersWithin_writeTable (style : TableStyle) (newline : String)
    (headers : List String) {rows : List (List String)} {row : List String} (row_mem : row ∈ rows)
    {cell : String} (cell_mem : cell ∈ row) :
    MarkersWithin cell (style.writeTable newline headers rows) := by
  have in_row : MarkersWithin cell (style.rowLine newline row) := by
    unfold rowLine
    cases style with
    | html =>
        have in_cells : MarkersWithin cell
            (String.join (row.map fun cell => "<td>" ++ cell ++ "</td>")) :=
          .join cell_mem (((MarkersWithin.refl cell).append_left _).append_right _)
        exact ((in_cells.append_left _).append_right _).append_right _
    | markdown =>
        have in_cells : MarkersWithin cell (String.join (row.map fun cell => cell ++ "|")) :=
          .join cell_mem ((MarkersWithin.refl cell).append_right _)
        exact (in_cells.append_left _).append_right _
  have in_rows : MarkersWithin cell
      (String.join (rows.map fun cells => style.rowLine newline cells)) := .join row_mem in_row
  rw [writeTable_eq]
  exact (in_rows.append_left _).append_right _

theorem TabbedTable.markersWithin_writeTables (table : TabbedTable Content) (newline : String)
    (headers : List String) {rows : List (List String)} {row : List String}
    (row_mem : row ∈ table.shownRows rows) {cell : String} (cell_mem : cell ∈ row) :
    MarkersWithin cell (table.writeTables newline headers rows) := by
  rw [shownRows] at row_mem
  rw [writeTables]
  dsimp only at row_mem ⊢
  split at row_mem
  · rename_i switches
    obtain ⟨tab, tab_mem, row_mem⟩ := List.mem_flatMap.mp row_mem
    rw [if_pos switches]
    have in_table := table.style.markersWithin_writeTable newline headers row_mem cell_mem
    refine (MarkersWithin.append_left (.join tab_mem ?_) _).append_right _
    exact in_table.append_left _
  · rename_i single
    rw [if_neg single]
    exact (table.style.markersWithin_writeTable newline headers row_mem cell_mem).append_left _

namespace Content

theorem markersWithin_writeAll {children : List Content} {child : Content}
    (child_mem : child ∈ children) (child_written : child.isEmpty = false)
    (within : ∀ atLineStart, MarkersWithin text (child.write newline atLineStart).text)
    (atLineStart : Bool) :
    MarkersWithin text (writeAll newline children atLineStart).text := by
  induction children generalizing atLineStart with
  | nil => cases child_mem
  | cons first rest ih =>
      rw [writeAll]
      rcases List.mem_cons.mp child_mem with rfl | child_mem
      · rw [if_neg (by simp [child_written])]
        exact ((within atLineStart).trans (Written.markersWithin_closed newline _)).append_right _
      · split
        · exact ih child_mem atLineStart
        · exact (ih child_mem true).append_left _

theorem markersWithin_writeTabs {named : List (String × List Content)}
    {tab : String × List Content} (tab_mem : tab ∈ named) {child : Content}
    (child_mem : child ∈ tab.2) (child_written : child.isEmpty = false)
    (within : ∀ atLineStart, MarkersWithin text (child.write newline atLineStart).text) :
    MarkersWithin text (writeTabs newline named) := by
  induction named with
  | nil => cases tab_mem
  | cons first rest ih =>
      rw [writeTabs]
      rcases List.mem_cons.mp tab_mem with rfl | tab_mem
      · have not_empty : ¬allEmpty tab.2 = true := by
          intro tab_empty
          rw [allEmpty_iff.mp tab_empty child child_mem] at child_written
          cases child_written
        rw [if_neg not_empty]
        have in_children := markersWithin_writeAll child_mem child_written within true
        exact ((in_children.trans (Written.markersWithin_closed newline _)).append_left
          _).append_right _
      · split
        · exact ih tab_mem
        · exact (ih tab_mem).append_left _

theorem markersWithin_cellTexts (style : TableStyle) {cells : List Content} {cell : Content}
    (cell_mem : cell ∈ cells) :
    ∃ cellText ∈ cellTexts style cells, MarkersWithin (cell.render "\n") cellText := by
  refine ⟨style.cellText (cell.render "\n"), ?_, (MarkersWithin.refl _).cellText style⟩
  rw [cellTexts_eq_map]
  exact List.mem_map_of_mem cell_mem

/-- The markers of a part are found in what it is written in. -/
theorem Part.markersWithin (is_part : Part newline content newline' part)
    (within : ∀ atLineStart, MarkersWithin text (part.write newline' atLineStart).text) :
    ∀ atLineStart, MarkersWithin text (content.write newline atLineStart).text := by
  intro atLineStart
  cases is_part with
  | child child_mem child_written =>
      exact markersWithin_writeAll child_mem child_written within atLineStart
  | header body_written header_written =>
      rw [write, if_neg (by simp [body_written]), writeHeader, if_neg (by simp [header_written])]
      dsimp only
      have in_header := (within false).trans (Written.markersWithin_closed newline _)
      exact ((((in_header.append_left " ").append_left _).append_right _).append_right
        _).append_right _
  | body body_written =>
      rw [write, if_neg (by simp [body_written])]
      dsimp only
      have in_body := (within true).trans (Written.markersWithin_closed newline _)
      exact ((in_body.append_left _).append_right _).append_right _
  | frame => exact within atLineStart
  | anchored body_written =>
      rw [write, if_neg (by simp [body_written])]
      dsimp only
      have in_body := (within true).trans (Written.markersWithin_closed newline _)
      exact ((((in_body.append_left _).append_right _).append_right _).append_right
        _).append_right _
  | @cell style _ headers rows row _ row_mem cell_mem =>
      have row_text_mem : cellTexts style row ∈ rowTexts style rows := by
        rw [rowTexts_eq_map]
        exact List.mem_map_of_mem row_mem
      rw [write.eq_def]
      dsimp only
      rw [if_neg (by simp [List.ne_nil_of_mem row_mem])]
      obtain ⟨cellText, text_mem, in_text⟩ := markersWithin_cellTexts style cell_mem
      have in_table := style.markersWithin_writeTable newline headers row_text_mem text_mem
      exact (((within true).trans in_text).trans in_table).append_left _
  | @tabbedCell style label key forced selections headers rows row _ row_mem cell_mem =>
      have row_text_mem : cellTexts style row ∈
          TabbedTable.shownRows ⟨style, label, key, forced, selections, none⟩
            (rowTexts style rows) := by
        rw [rowTexts_eq_map, TabbedTable.shownRows_map]
        exact List.mem_map_of_mem row_mem
      have rows_ne : rows ≠ [] := List.ne_nil_of_mem (TabbedTable.mem_of_mem_shownRows row_mem)
      rw [write.eq_def]
      dsimp only
      rw [if_neg (by simp [rows_ne])]
      obtain ⟨cellText, text_mem, in_text⟩ := markersWithin_cellTexts style cell_mem
      have in_tables :=
        TabbedTable.markersWithin_writeTables _ newline headers row_text_mem text_mem
      exact (((within true).trans in_text).trans in_tables).append_left _
  | @tab _ named tab _ tab_mem child_mem child_written =>
      have not_empty : ¬allTabsEmpty named = true := by
        intro tabs_empty
        rw [allTabsEmpty_iff.mp tabs_empty tab tab_mem _ child_mem] at child_written
        cases child_written
      rw [write, if_neg not_empty]
      have in_tabs := markersWithin_writeTabs tab_mem child_mem child_written within
      exact (in_tabs.append_left _).append_right _

end Content
end Markers

/-! ## Depths -/

namespace Depth

theorem lt_around_of_mem {body : String} {depth : Nat} (depth_mem : depth ∈ markersIn body) :
    depth < around body := by
  rw [markersIn] at depth_mem
  rw [around]
  cases deepest_eq : (markers body.toList).max? with
  | none =>
      rw [List.max?_eq_none_iff.mp deepest_eq] at depth_mem
      cases depth_mem
  | some deepest =>
      have depth_le := (List.max?_eq_some_iff.mp deepest_eq).2 depth depth_mem
      exact Nat.lt_succ_of_le depth_le

theorem around_le {body : String} {bound : Nat} (bound_pos : 0 < bound)
    (bounded : ∀ depth ∈ markersIn body, depth < bound) : around body ≤ bound := by
  rw [around]
  cases deepest_eq : (markers body.toList).max? with
  | none => exact bound_pos
  | some deepest =>
      have deepest_mem := (List.max?_eq_some_iff.mp deepest_eq).1
      exact bounded deepest deepest_mem

theorem length_fence (depth : Nat) : (fence depth).length = 3 + 2 * depth := by
  have colons_length : (Text.replicate depth "::").length = 2 * depth := by
    rw [Text.replicate]
    induction depth with
    | zero => rfl
    | succ depth ih =>
        rw [List.replicate_succ, String.join_cons, String.length_append, ih]
        have pair_length : "::".length = 2 := by decide
        omega
  have first_length : ":::".length = 3 := by decide
  rw [fence, String.length_append, colons_length, first_length]

end Depth

namespace FencedBlock

theorem write_eq (block : FencedBlock) (atLineStart : Bool) :
    ((Content.container block.kind block.header block.body).write block.newline atLineStart).text =
      freshLine block.newline atLineStart ++ block.text := by
  rw [text_eq, Content.write, if_neg (by simp [block.body_written])]
  dsimp only
  simp only [String.append_assoc]
  rfl

theorem markersWithin_bodyText (block : FencedBlock) : MarkersWithin block.bodyText block.text := by
  rw [text_eq]
  have in_body := Written.markersWithin_closed block.newline (block.body.write block.newline true)
  exact ((in_body.append_left _).append_right _).append_right _

theorem depth_mem_markersIn_text {block : FencedBlock} (small : block.depth ≤ Depth.maxMarked) :
    block.depth ∈ markersIn block.text := by
  have in_marker : block.depth ∈ markersIn (Depth.marker block.depth) := by
    rw [(Depth.carries_marker small).markersIn_eq]
    exact List.mem_singleton_self _
  have within : MarkersWithin (Depth.marker block.depth) block.text := by
    rw [text_eq]
    exact ((((((((MarkersWithin.refl _).append_right _).append_right _).append_right
      _).append_right _).append_right _).append_right _).append_right _).append_right _
  exact within in_marker

end FencedBlock

/-- A container is found, with all markers in it, in what it is written in. -/
theorem Content.markersWithin_of_mem {content : Content} {newline : String} {block : FencedBlock}
    (block_mem : block ∈ content.containers newline) (atLineStart : Bool) :
    MarkersWithin block.text (content.write newline atLineStart).text := by
  refine forall_mem_containers (fun newline content block => ∀ atLineStart,
    MarkersWithin block.text (content.write newline atLineStart).text) ?_ ?_ content newline block
    block_mem atLineStart
  · intro block atLineStart
    rw [block.write_eq]
    exact (MarkersWithin.refl _).append_left _
  · intro newline content newline' part block is_part within
    exact is_part.markersWithin within

/-- No container is too deep for a marker, if no marker in the text of the tree is at the limit. -/
theorem Content.depth_le_maxMarked {content : Content} {newline : String} {atLineStart : Bool}
    (bounded : ∀ depth ∈ markersIn (content.write newline atLineStart).text,
      depth < Depth.maxMarked)
    {block : FencedBlock} (block_mem : block ∈ content.containers newline) :
    block.depth ≤ Depth.maxMarked := by
  refine Depth.around_le (by decide) ?_
  intro depth depth_mem
  exact bounded depth
    (markersWithin_of_mem block_mem atLineStart (block.markersWithin_bodyText depth_mem))

/-- A container in the body of another is less deep. -/
theorem FencedBlock.depth_lt_of_mem_inside {outer inner : FencedBlock}
    (inner_mem : inner ∈ outer.inside)
    (bounded : ∀ depth ∈ markersIn outer.bodyText, depth < Depth.maxMarked) :
    inner.depth < outer.depth := by
  have small : inner.depth ≤ Depth.maxMarked := Content.depth_le_maxMarked bounded inner_mem
  have within : MarkersWithin inner.text outer.bodyText :=
    Content.markersWithin_of_mem inner_mem true
  exact Depth.lt_around_of_mem (within (depth_mem_markersIn_text small))

end RefDocs
