import RefDocs.Compose.Basic
import RefDocs.Proofs.Content.Containers

/-!
# The sections of a tree

The anchors of the sections that are written for a tree.  A section with an empty body is not
written, and neither is what stands in an empty container.
-/

namespace RefDocs
namespace Content

mutual

/-- The anchors of the sections that are written for a node, in order. -/
def anchors : Content → List String
  | .run _ => []
  | .sequence children => anchorsIn children
  | .container _ header body =>
    if body.isEmpty then [] else anchorsInHeader header ++ body.anchors
  | .wrapper frame => frame.anchors
  | .anchored anchor body => if body.isEmpty then [] else anchor :: body.anchors
  | .table ⟨_, _, some ⟨_, rows⟩⟩ => (anchorsInRows rows).flatten
  | .table ⟨_, _, none⟩ => []
  | .tabs ⟨_, named⟩ => anchorsInTabs named
  | .tabbed ⟨style, label, key, forced, selections, some ⟨_, rows⟩⟩ =>
    (TabbedTable.shownRows ⟨style, label, key, forced, selections, none⟩
      (anchorsInRows rows)).flatten
  | .tabbed ⟨_, _, _, _, _, none⟩ => []
termination_by structural content => content

/-- The anchors of the sections that are written for a header. -/
def anchorsInHeader : Option Content → List String
  | some header => header.anchors
  | none => []
termination_by structural header => header

/-- The anchors of the sections that are written for the nodes of a list. -/
def anchorsIn : List Content → List String
  | [] => []
  | child :: rest => child.anchors ++ anchorsIn rest
termination_by structural children => children

/-- The anchors of the sections that are written for the tabs of a list. -/
def anchorsInTabs : List (String × List Content) → List String
  | [] => []
  | (_, children) :: rest => anchorsIn children ++ anchorsInTabs rest
termination_by structural named => named

/-- The anchors of the sections in the cells of each row of a list. -/
def anchorsInRows : List (List Content) → List (List String)
  | [] => []
  | row :: rest => anchorsIn row :: anchorsInRows rest
termination_by structural rows => rows

end

theorem anchorsIn_eq_flatMap (children : List Content) :
    anchorsIn children = children.flatMap anchors := by
  induction children with
  | nil => rfl
  | cons child rest ih => rw [anchorsIn, List.flatMap_cons, ih]

theorem anchorsInTabs_eq_flatMap (named : List (String × List Content)) :
    anchorsInTabs named = named.flatMap fun tab => tab.2.flatMap anchors := by
  induction named with
  | nil => rfl
  | cons tab rest ih => rw [anchorsInTabs, anchorsIn_eq_flatMap, List.flatMap_cons, ih]

theorem anchorsInRows_eq_map (rows : List (List Content)) :
    anchorsInRows rows = rows.map fun row => row.flatMap anchors := by
  induction rows with
  | nil => rfl
  | cons row rest ih => rw [anchorsInRows, anchorsIn_eq_flatMap, List.map_cons, ih]

theorem anchors_table (style : TableStyle) (caption : Option String) (headers : List String)
    (rows : List (List Content)) :
    (Content.table ⟨style, caption, some ⟨headers, rows⟩⟩).anchors =
      rows.flatMap fun row => row.flatMap anchors := by
  rw [anchors, anchorsInRows_eq_map, List.flatMap_def]

theorem anchors_tabbed (style : TableStyle) (label : String) (key : Option String)
    (forced : Bool) (selections : List (String × List Bool)) (headers : List String)
    (rows : List (List Content)) :
    (Content.tabbed ⟨style, label, key, forced, selections, some ⟨headers, rows⟩⟩).anchors =
      (TabbedTable.shownRows ⟨style, label, key, forced, selections, none⟩ rows).flatMap
        fun row => row.flatMap anchors := by
  rw [anchors, anchorsInRows_eq_map, TabbedTable.shownRows_map, List.flatMap_def]

/-! ## Nodes without sections -/

/-- A node without sections. -/
def Sectionless (content : Content) : Prop :=
  content.anchors = []

theorem anchors_sequence (children : List Content) :
    (Content.sequence children).anchors = children.flatMap anchors := by
  rw [anchors, anchorsIn_eq_flatMap]

theorem sectionless_raw (text : String) : (raw text).Sectionless :=
  rfl

theorem sectionless_empty : Content.empty.Sectionless :=
  rfl

theorem sectionless_sequence {children : List Content}
    (sectionless : ∀ child ∈ children, child.Sectionless) :
    (Content.sequence children).Sectionless := by
  rw [Sectionless, anchors_sequence]
  exact List.flatMap_eq_nil_iff.mpr sectionless

theorem sectionless_container {kind : ContainerKind} {body : Content}
    (sectionless : body.Sectionless) : (Content.container kind none body).Sectionless := by
  rw [Sectionless, anchors, anchorsInHeader, sectionless]
  split <;> rfl

theorem sectionless_table {style : TableStyle} {caption : Option String} {headers : List String}
    {rows : List (List Content)} (sectionless : ∀ row ∈ rows, ∀ cell ∈ row, cell.Sectionless) :
    (Content.table ⟨style, caption, some ⟨headers, rows⟩⟩).Sectionless := by
  rw [Sectionless, anchors_table, List.flatMap_eq_nil_iff]
  exact fun row row_mem => List.flatMap_eq_nil_iff.mpr (sectionless row row_mem)

theorem sectionless_tabbed {style : TableStyle} {label : String} {key : Option String}
    {forced : Bool} {selections : List (String × List Bool)} {headers : List String}
    {rows : List (List Content)} (sectionless : ∀ row ∈ rows, ∀ cell ∈ row, cell.Sectionless) :
    (Content.tabbed ⟨style, label, key, forced, selections,
      some ⟨headers, rows⟩⟩).Sectionless := by
  rw [Sectionless, anchors_tabbed, List.flatMap_eq_nil_iff]
  exact fun row row_mem =>
    List.flatMap_eq_nil_iff.mpr (sectionless row (TabbedTable.mem_of_mem_shownRows row_mem))

theorem hereditary_sectionless :
    Hereditary fun content => content.isEmpty = true → content.Sectionless where
  run piece _ := rfl
  sequence children ih children_empty := by
    have each_empty := allEmpty_iff.mp children_empty
    exact sectionless_sequence fun child child_mem =>
      ih child child_mem (each_empty child child_mem)
  container kind header body header_ih body_ih body_empty := if_pos body_empty
  wrapper frame ih := ih
  anchored anchor body ih body_empty := if_pos body_empty
  table plain ih rows_empty := by
    obtain ⟨style, caption, _ | ⟨headers, rows⟩⟩ := plain
    · rfl
    · obtain rfl : rows = [] := List.isEmpty_iff.mp rows_empty
      rfl
  tabs group ih tabs_empty := by
    obtain ⟨key, named⟩ := group
    have each_empty := allTabsEmpty_iff.mp tabs_empty
    rw [Sectionless, anchors, anchorsInTabs_eq_flatMap, List.flatMap_eq_nil_iff]
    intro tab tab_mem
    exact List.flatMap_eq_nil_iff.mpr fun child child_mem =>
      ih tab tab_mem child child_mem (each_empty tab tab_mem child child_mem)
  tabbed spread ih rows_empty := by
    obtain ⟨style, label, key, forced, selections, _ | ⟨headers, rows⟩⟩ := spread
    · rfl
    · obtain rfl : rows = [] := List.isEmpty_iff.mp rows_empty
      exact sectionless_tabbed (List.forall_mem_nil _)

/-- An empty node has no section in it. -/
theorem sectionless_of_isEmpty {content : Content} (content_empty : content.isEmpty = true) :
    content.Sectionless :=
  hereditary_sectionless.forall_content content content_empty

/-! ## Pages -/

theorem sectionless_labelled (label separator : String) (entries : List String) :
    (labelled label separator entries).Sectionless := by
  rw [labelled]
  split <;> rfl

theorem anchors_spaced (block : Content) : (spaced block).flatMap anchors = block.anchors := by
  rw [spaced]
  split
  · rename_i block_empty
    exact (sectionless_of_isEmpty block_empty).symm
  · rw [List.flatMap_cons, List.flatMap_singleton, sectionless_raw, List.append_nil]

/-- The sections of a page are those of its blocks. -/
theorem anchors_page (front : List (String × String)) (blocks : List Content) :
    (page front blocks).anchors = blocks.flatMap anchors := by
  rw [page, anchors_sequence, List.flatMap_cons, frontMatter, sectionless_raw, List.nil_append,
    List.flatMap_assoc]
  exact List.flatMap_congr fun block _ => anchors_spaced block

end Content
end RefDocs
