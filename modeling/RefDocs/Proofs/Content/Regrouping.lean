import Mathlib.Logic.Relation
import RefDocs.Proofs.Content.Children
import RefDocs.Proofs.Content.Overflow

/-!
# Regrouping children

A sequence among the children of a node can give way to its own children, and an empty child can be
left out, anywhere in a tree: the tree is as empty as before and is written as before.  So a
sequence is written like the nodes in it that are neither sequences nor empty, in order.
-/

namespace RefDocs

/-- Two nodes that are as empty as each other and are written alike, with any separator and from any
cursor, or overflow both. -/
structure WrittenAlike (content other : Content) : Prop where
  /-- Both are empty, or neither is. -/
  isEmpty_eq : other.isEmpty = content.isEmpty
  /-- The same is written, and the cursor is left in the same place. -/
  write_eq : ∀ newline atLineStart,
    other.write newline atLineStart = content.write newline atLineStart
  /-- Containers overflow in both, or in neither. -/
  fits_iff : ∀ newline, other.fits newline = true ↔ content.fits newline = true

/-- Where a list of children stands. -/
inductive ChildPlace where
  /-- In a sequence. -/
  | sequence
  /-- In a tab of a group, between the tabs in front and those behind. -/
  | tab (key : Option String) (front : List (String × List Content)) (name : String)
      (back : List (String × List Content))

/-- The node with the given children in a place. -/
def ChildPlace.content (children : List Content) : ChildPlace → Content
  | .sequence => .sequence children
  | .tab key front name back => .tabs ⟨key, front ++ [(name, children)] ++ back⟩

/-- One change to the children of a node somewhere in a tree that keeps what they show. -/
inductive Regroups : Content → Content → Prop where
  /-- A sequence gives way to its own children. -/
  | splice (place : ChildPlace) (front inner back : List Content) :
    Regroups (place.content (front ++ [.sequence inner] ++ back))
      (place.content (front ++ inner ++ back))
  /-- An empty child is left out. -/
  | drop (place : ChildPlace) (front : List Content) {child : Content} (back : List Content)
      (child_empty : child.isEmpty = true) :
    Regroups (place.content (front ++ [child] ++ back)) (place.content (front ++ back))
  | child (place : ChildPlace) (front : List Content) {before after : Content}
      (back : List Content) (step : Regroups before after) :
    Regroups (place.content (front ++ [before] ++ back)) (place.content (front ++ [after] ++ back))
  | header (kind : ContainerKind) {before after : Content} (body : Content)
      (step : Regroups before after) :
    Regroups (.container kind (some before) body) (.container kind (some after) body)
  | body (kind : ContainerKind) (header : Option Content) {before after : Content}
      (step : Regroups before after) :
    Regroups (.container kind header before) (.container kind header after)
  | frame {before after : Content} (step : Regroups before after) :
    Regroups (.wrapper before) (.wrapper after)
  | anchored (anchor : String) {before after : Content} (step : Regroups before after) :
    Regroups (.anchored anchor before) (.anchored anchor after)
  | tableCell (table : Table Content) (headers : List String) (above : List (List Content))
      (left : List Content) {before after : Content} (right : List Content)
      (below : List (List Content)) (step : Regroups before after) :
    Regroups
      (.table { table with grid := some ⟨headers, above ++ [left ++ [before] ++ right] ++ below⟩ })
      (.table { table with grid := some ⟨headers, above ++ [left ++ [after] ++ right] ++ below⟩ })
  | tabbedCell (table : TabbedTable Content) (headers : List String)
      (above : List (List Content)) (left : List Content) {before after : Content}
      (right : List Content) (below : List (List Content)) (step : Regroups before after) :
    Regroups
      (.tabbed { table with grid := some ⟨headers, above ++ [left ++ [before] ++ right] ++ below⟩ })
      (.tabbed { table with grid := some ⟨headers, above ++ [left ++ [after] ++ right] ++ below⟩ })

/-! ## What is written alike -/

namespace WrittenAlike

variable {before after : Content} {children others : List Content}

theorem refl (content : Content) : WrittenAlike content content :=
  ⟨rfl, fun _ _ => rfl, fun _ => Iff.rfl⟩

theorem trans {content other third : Content} (first : WrittenAlike content other)
    (second : WrittenAlike other third) : WrittenAlike content third where
  isEmpty_eq := second.isEmpty_eq.trans first.isEmpty_eq
  write_eq newline atLineStart :=
    (second.write_eq newline atLineStart).trans (first.write_eq newline atLineStart)
  fits_iff newline := (second.fits_iff newline).trans (first.fits_iff newline)

/-- A sequence alone is written like its own children: it closes none that they do not close. -/
theorem splice (inner : List Content) :
    WrittenAlike (.sequence [.sequence inner]) (.sequence inner) where
  isEmpty_eq := by simp [Content.isEmpty, Content.allEmpty]
  write_eq newline atLineStart := by
    rw [Content.write, Content.write, Content.writeAll_singleton, Content.isEmpty]
    split
    · rename_i all_empty
      exact Content.writeAll_of_allEmpty newline all_empty atLineStart
    · rename_i some_shows
      have ends := Content.atLineStart_writeAll newline inner atLineStart
      rw [Bool.eq_false_iff.mpr some_shows, Bool.not_false, Bool.or_true] at ends
      rw [Content.write, Written.closed, if_pos ends, ← ends]
  fits_iff _ := (Content.fits_sequence_iff.trans List.forall_mem_singleton).symm

theorem drop {child : Content} (child_empty : child.isEmpty = true) :
    WrittenAlike (.sequence [child]) (.sequence []) where
  isEmpty_eq := by simp [Content.isEmpty, Content.allEmpty, child_empty]
  write_eq newline atLineStart := by
    rw [Content.write, Content.write, Content.writeAll_singleton, if_pos child_empty,
      Content.writeAll]
  fits_iff newline := by
    simp [Content.fits_sequence_iff, Content.fits_of_isEmpty child_empty]

theorem child (alike : WrittenAlike before after) :
    WrittenAlike (.sequence [before]) (.sequence [after]) where
  isEmpty_eq := by simp [Content.isEmpty, Content.allEmpty, alike.isEmpty_eq]
  write_eq newline atLineStart := by
    rw [Content.write, Content.write, Content.writeAll_singleton, Content.writeAll_singleton,
      alike.isEmpty_eq, alike.write_eq]
  fits_iff newline := by
    simp only [Content.fits_sequence_iff, List.forall_mem_singleton, alike.fits_iff]

/-- What is written alike by itself is so between other children. -/
theorem between (alike : WrittenAlike (.sequence children) (.sequence others))
    (front back : List Content) :
    WrittenAlike (.sequence (front ++ children ++ back)) (.sequence (front ++ others ++ back)) where
  isEmpty_eq := by
    have all_empty_eq : Content.allEmpty others = Content.allEmpty children := alike.isEmpty_eq
    simp only [Content.isEmpty, Content.allEmpty_append, all_empty_eq]
  write_eq newline atLineStart := by
    have write_all_eq : Content.writeAll newline others = Content.writeAll newline children :=
      funext (alike.write_eq newline)
    simp only [Content.write, Content.writeAll_append, write_all_eq]
  fits_iff newline := by
    have children_iff := alike.fits_iff newline
    simp only [Content.fits_sequence_iff, List.forall_mem_append] at children_iff ⊢
    rw [children_iff]

theorem place (alike : WrittenAlike (.sequence children) (.sequence others))
    (place : ChildPlace) : WrittenAlike (place.content children) (place.content others) := by
  have all_empty_eq : Content.allEmpty others = Content.allEmpty children := alike.isEmpty_eq
  cases place with
  | sequence => exact alike
  | tab key front name back =>
      have tabs_empty_eq : Content.allTabsEmpty (front ++ [(name, others)] ++ back) =
          Content.allTabsEmpty (front ++ [(name, children)] ++ back) := by
        simp only [Content.allTabsEmpty_append, Content.allTabsEmpty, all_empty_eq]
      refine ⟨tabs_empty_eq, fun newline atLineStart => ?_, fun newline => ?_⟩
      · have write_all_eq : Content.writeAll newline others true =
            Content.writeAll newline children true := alike.write_eq newline true
        simp only [ChildPlace.content, Content.write, tabs_empty_eq, Content.writeTabs_append,
          Content.writeTabs, all_empty_eq, write_all_eq]
      · have children_iff := alike.fits_iff newline
        simp only [Content.fits_sequence_iff] at children_iff
        simp only [ChildPlace.content, Content.fits_tabs_iff, List.forall_mem_append,
          List.forall_mem_singleton, children_iff]

theorem header (alike : WrittenAlike before after) (kind : ContainerKind) (body : Content) :
    WrittenAlike (.container kind (some before) body) (.container kind (some after) body) where
  isEmpty_eq := rfl
  write_eq newline atLineStart := by
    simp only [Content.write, Content.writeHeader, alike.isEmpty_eq, alike.write_eq]
  fits_iff newline := by
    cases body_empty : body.isEmpty with
    | true =>
        have container_empty (header : Option Content) :
            (Content.container kind header body).isEmpty = true := body_empty
        simp only [Content.fits_of_isEmpty (container_empty _)]
    | false =>
        simp only [Content.fits_container_iff body_empty, Option.mem_some_iff, forall_eq',
          alike.fits_iff]

theorem body (alike : WrittenAlike before after) (kind : ContainerKind) (header : Option Content) :
    WrittenAlike (.container kind header before) (.container kind header after) where
  isEmpty_eq := alike.isEmpty_eq
  write_eq newline atLineStart := by
    simp only [Content.write, alike.isEmpty_eq, alike.write_eq]
  fits_iff newline := by
    cases before_empty : before.isEmpty with
    | true =>
        have after_empty : after.isEmpty = true := alike.isEmpty_eq.trans before_empty
        have container_empty {body : Content} (body_empty : body.isEmpty = true) :
            (Content.container kind header body).isEmpty = true := body_empty
        simp only [Content.fits_of_isEmpty (container_empty before_empty),
          Content.fits_of_isEmpty (container_empty after_empty)]
    | false =>
        have after_written : after.isEmpty = false := alike.isEmpty_eq.trans before_empty
        simp only [Content.fits_container_iff before_empty,
          Content.fits_container_iff after_written, alike.write_eq, alike.fits_iff]

theorem frame (alike : WrittenAlike before after) :
    WrittenAlike (.wrapper before) (.wrapper after) where
  isEmpty_eq := alike.isEmpty_eq
  write_eq newline atLineStart := by
    simp only [Content.write, alike.write_eq]
  fits_iff := alike.fits_iff

theorem anchored (alike : WrittenAlike before after) (anchor : String) :
    WrittenAlike (.anchored anchor before) (.anchored anchor after) where
  isEmpty_eq := alike.isEmpty_eq
  write_eq newline atLineStart := by
    simp only [Content.write, alike.isEmpty_eq, alike.write_eq]
  fits_iff := alike.fits_iff

theorem rowTexts_eq (alike : WrittenAlike before after) (style : TableStyle)
    (above : List (List Content)) (left right : List Content) (below : List (List Content)) :
    Content.rowTexts style (above ++ [left ++ [after] ++ right] ++ below) =
      Content.rowTexts style (above ++ [left ++ [before] ++ right] ++ below) := by
  have render_eq : after.render "\n" = before.render "\n" :=
    congrArg Written.text (alike.write_eq "\n" true)
  simp only [Content.rowTexts_eq_map, List.map_append, List.map_singleton,
    Content.cellTexts_eq_map, render_eq]

/-- Rows of nodes that overflow alike do so whatever rows are selected of them. -/
theorem shownRows_fit_iff (alike : WrittenAlike before after) (table : TabbedTable Content)
    (above : List (List Content)) (left right : List Content) (below : List (List Content)) :
    (∀ row ∈ table.shownRows (above ++ [left ++ [after] ++ right] ++ below),
        ∀ cell ∈ row, cell.fits "\n" = true) ↔
      ∀ row ∈ table.shownRows (above ++ [left ++ [before] ++ right] ++ below),
        ∀ cell ∈ row, cell.fits "\n" = true := by
  have fits_eq : after.fits "\n" = before.fits "\n" := Bool.eq_iff_iff.mpr (alike.fits_iff "\n")
  have rows_eq : (above ++ [left ++ [after] ++ right] ++ below).map (List.map (Content.fits "\n")) =
      (above ++ [left ++ [before] ++ right] ++ below).map (List.map (Content.fits "\n")) := by
    simp only [List.map_append, List.map_singleton, fits_eq]
  have shown_eq := congrArg table.shownRows rows_eq
  rw [TabbedTable.shownRows_map, TabbedTable.shownRows_map] at shown_eq
  have fit_iff (rows : List (List Content)) :
      (∀ row ∈ rows, ∀ cell ∈ row, cell.fits "\n" = true) ↔
        ∀ row ∈ rows.map (List.map (Content.fits "\n")), ∀ cell ∈ row, cell = true := by
    simp only [List.forall_mem_map]
  rw [fit_iff, fit_iff, shown_eq]

theorem tableCell (alike : WrittenAlike before after) (table : Table Content)
    (headers : List String) (above : List (List Content)) (left right : List Content)
    (below : List (List Content)) :
    WrittenAlike
      (.table { table with grid := some ⟨headers, above ++ [left ++ [before] ++ right] ++ below⟩ })
      (.table { table with grid := some ⟨headers, above ++ [left ++ [after] ++ right] ++ below⟩ })
    where
  isEmpty_eq := by cases above <;> rfl
  write_eq newline atLineStart := by
    simp only [Content.write, alike.rowTexts_eq]
    simp
  fits_iff newline := by
    simp only [Content.fits_table_iff, List.forall_mem_append, List.forall_mem_singleton,
      alike.fits_iff]

theorem tabbedCell (alike : WrittenAlike before after) (table : TabbedTable Content)
    (headers : List String) (above : List (List Content)) (left right : List Content)
    (below : List (List Content)) :
    WrittenAlike
      (.tabbed { table with grid := some ⟨headers, above ++ [left ++ [before] ++ right] ++ below⟩ })
      (.tabbed { table with grid := some ⟨headers, above ++ [left ++ [after] ++ right] ++ below⟩ })
    where
  isEmpty_eq := by cases above <;> rfl
  write_eq newline atLineStart := by
    simp only [Content.write, alike.rowTexts_eq]
    simp
  fits_iff newline := by
    rw [Content.fits_tabbed_iff, Content.fits_tabbed_iff]
    exact alike.shownRows_fit_iff _ above left right below

/-- One change keeps what is written. -/
theorem of_regroups (step : Regroups before after) : WrittenAlike before after := by
  induction step with
  | splice place front inner back => exact ((splice inner).between front back).place place
  | drop place front back child_empty =>
      simpa only [List.append_nil] using ((drop child_empty).between front back).place place
  | child place front back _ ih => exact (ih.child.between front back).place place
  | header kind body _ ih => exact ih.header kind body
  | body kind header _ ih => exact ih.body kind header
  | frame _ ih => exact ih.frame
  | anchored anchor _ ih => exact ih.anchored anchor
  | tableCell table headers above left right below _ ih =>
      exact ih.tableCell table headers above left right below
  | tabbedCell table headers above left right below _ ih =>
      exact ih.tabbedCell table headers above left right below

end WrittenAlike

/-! ## Flat sequences -/

namespace Content

mutual

/-- The nodes in a sequence that are neither sequences nor empty, in order, and any other node that
is not empty itself. -/
def leaves : Content → List Content
  | .sequence children => leavesIn children
  | content => if content.isEmpty then [] else [content]
termination_by structural content => content

/-- The nodes among the given ones and in the sequences among them that are neither sequences nor
empty, in order. -/
def leavesIn : List Content → List Content
  | [] => []
  | child :: rest => child.leaves ++ leavesIn rest
termination_by structural children => children

end

/-- A node that a flat sequence can hold. -/
def IsLeaf (content : Content) : Prop :=
  content.isEmpty = false ∧ ∀ children, content ≠ .sequence children

theorem leaves_of_ne {content : Content} (no_sequence : ∀ children, content ≠ .sequence children) :
    content.leaves = if content.isEmpty then [] else [content] :=
  leaves.eq_2 content no_sequence

open Relation (ReflTransGen)

mutual

theorem isLeaf_of_mem_leaves : (content : Content) → ∀ leaf ∈ content.leaves, leaf.IsLeaf
  | .sequence children => by
      rw [leaves]
      exact isLeaf_of_mem_leavesIn children
  | .run _ | .container _ _ _ | .wrapper _ | .anchored _ _ | .table _ | .tabs _ | .tabbed _ => by
      rw [leaves_of_ne (by simp)]
      split
      · exact List.forall_mem_nil _
      · rename_i shows
        exact List.forall_mem_singleton.mpr ⟨Bool.eq_false_iff.mpr shows, by simp⟩
termination_by structural content => content

theorem isLeaf_of_mem_leavesIn : (children : List Content) → ∀ leaf ∈ leavesIn children, leaf.IsLeaf
  | [] => List.forall_mem_nil _
  | child :: rest =>
    List.forall_mem_append.mpr ⟨isLeaf_of_mem_leaves child, isLeaf_of_mem_leavesIn rest⟩
termination_by structural children => children

end

mutual

/-- A child can give way to the leaves in it. -/
theorem regroups_leaves : (content : Content) → ∀ (place : ChildPlace) (front back : List Content),
    ReflTransGen Regroups (place.content (front ++ [content] ++ back))
      (place.content (front ++ content.leaves ++ back))
  | .sequence children, place, front, back => by
      rw [leaves]
      exact .head (.splice place front children back)
        (regroups_leavesIn children place front back)
  | .run _, place, front, back | .container _ _ _, place, front, back
  | .wrapper _, place, front, back | .anchored _ _, place, front, back
  | .table _, place, front, back | .tabs _, place, front, back
  | .tabbed _, place, front, back => by
      rw [leaves_of_ne (by simp)]
      split
      · rename_i nothing_shown
        rw [List.append_nil]
        exact .single (.drop place front back nothing_shown)
      · exact .refl
termination_by structural content => content

theorem regroups_leavesIn : (children : List Content) →
    ∀ (place : ChildPlace) (front back : List Content),
      ReflTransGen Regroups (place.content (front ++ children ++ back))
        (place.content (front ++ leavesIn children ++ back))
  | [], _, _, _ => .refl
  | child :: rest, place, front, back => by
      have first := regroups_leaves child place front (rest ++ back)
      have others := regroups_leavesIn rest place (front ++ child.leaves) back
      rw [leavesIn]
      simp only [List.append_assoc, List.cons_append, List.nil_append] at first others ⊢
      exact first.trans others
termination_by structural children => children

end

/-- Whatever changes of this kind are made to a tree, and however many, it is as empty as before and
is written as before, from any cursor, or overflows as before.  They can take a list of children, of
a sequence or of a tab, to the nodes in it that are neither sequences nor empty, however deep these
are nested in it. -/
theorem isEmpty_and_write_of_regrouped :
    (∀ content other : Content, ReflTransGen Regroups content other →
        other.isEmpty = content.isEmpty ∧
          ∀ newline, other.fits newline = content.fits newline ∧
            ∀ atLineStart,
              other.write newline atLineStart = content.write newline atLineStart) ∧
      ∀ (place : ChildPlace) (children : List Content),
        ReflTransGen Regroups (place.content children) (place.content (leavesIn children)) ∧
          ∀ leaf ∈ leavesIn children, leaf.IsLeaf := by
  constructor
  · intro content other regrouped
    have alike : WrittenAlike content other := by
      induction regrouped with
      | refl => exact .refl content
      | tail _ step ih => exact ih.trans (.of_regroups step)
    exact ⟨alike.isEmpty_eq, fun newline =>
      ⟨Bool.eq_iff_iff.mpr (alike.fits_iff newline), alike.write_eq newline⟩⟩
  · intro place children
    refine ⟨?_, isLeaf_of_mem_leavesIn children⟩
    simpa using regroups_leavesIn children place [] []

/-- Children of a tab that are grouped in two levels, with nodes that show nothing among them. -/
def groupedChildren : List Content :=
  [.text "a", .sequence [.empty, .text "b\n", .sequence [.text "", .text "c"]],
    .wrapper (.sequence [.empty])]

theorem write_groupedChildren :
    ReflTransGen Regroups (.anchored "x" (.tabs ⟨none, [("Java", groupedChildren)]⟩))
        (.anchored "x" (.tabs ⟨none, [("Java", [.text "a", .text "b\n", .text "c"])]⟩)) ∧
      (Content.anchored "x" (.tabs ⟨none, [("Java", groupedChildren)]⟩)).write "\r\n" false =
        ⟨"\r\n<section id=\"x\">\r\n\r\n:::tabs\r\n== Java\r\na\r\nb\r\nc\r\n:::\r\n" ++
          "\r\n</section>\r\n\r\n", true⟩ := by
  obtain ⟨alike, flattens⟩ := isEmpty_and_write_of_regrouped
  have flattened := (flattens (.tab none [] "Java" []) groupedChildren).1
  have regrouped : ReflTransGen Regroups
      (.anchored "x" (.tabs ⟨none, [("Java", groupedChildren)]⟩))
      (.anchored "x" (.tabs ⟨none, [("Java", [.text "a", .text "b\n", .text "c"])]⟩)) :=
    flattened.lift (Content.anchored "x") fun _ _ step => Regroups.anchored "x" step
  refine ⟨regrouped, (((alike _ _ regrouped).2 "\r\n").2 false).symm.trans ?_⟩
  decide +kernel

end Content

end RefDocs
