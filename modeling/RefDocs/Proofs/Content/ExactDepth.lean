import RefDocs.Proofs.Content.MarkedPieces
import RefDocs.Proofs.Content.Nesting

/-!
# Exact depths

Where no string of a tree has the start of a comment in it, no text is taken for a marker: what is
written for the tree has the markers of the containers in it, and no others.  So a container is one
level deeper than the deepest container in its body.
-/

namespace RefDocs

open Depth (Carries markersIn carries_separator carries_freshLine carries_escape)

namespace Content

/-- A tree without the start of a comment in its strings. -/
def NoComments (content : Content) : Prop :=
  content.AllStrings (fun run => CommentFree run.text) CommentFree

/-- What is written for a node has the markers of the containers in it, and no others. -/
def IsMarked (content : Content) (separator : LineSeparator) : Prop :=
  ∀ atLineStart, markersIn (content.write separator.text atLineStart).text =
    (content.containers separator.text).map FencedBlock.depth

section Marked

variable {separator : LineSeparator}

theorem IsMarked.carries_closed {content : Content} (marked : content.IsMarked separator)
    (atLineStart : Bool) :
    Carries ((content.write separator.text atLineStart).closed separator.text)
      ((content.containers separator.text).map FencedBlock.depth) := by
  rw [← marked atLineStart]
  exact Depth.carries_closed separator content atLineStart

theorem isMarked_of_isEmpty {content : Content} (content_empty : content.isEmpty = true) :
    content.IsMarked separator := by
  intro atLineStart
  rw [(write_tracks separator content atLineStart).nothing content_empty,
    containers_eq_nil content_empty]
  rfl

theorem isMarked_sequence {children : List Content}
    (marked : ∀ child ∈ children, child.IsMarked separator) :
    (Content.sequence children).IsMarked separator := by
  intro atLineStart
  rw [write, containers]
  induction children generalizing atLineStart with
  | nil => rfl
  | cons child rest ih =>
      rw [List.forall_mem_cons] at marked
      rw [writeAll, containersIn, List.map_append]
      split
      · rename_i child_empty
        rw [containers_eq_nil child_empty]
        exact ih marked.2 atLineStart
      · rw [(marked.1.carries_closed atLineStart).markersIn_append, ih marked.2 true]

theorem writeHeader_carries {header : Option Content}
    (marked : ∀ content ∈ header, content.IsMarked separator) :
    Carries (writeHeader separator.text header)
      ((containersInHeader separator.text header).map FencedBlock.depth) := by
  cases header with
  | none => exact carries_separator separator
  | some content =>
      rw [writeHeader, containersInHeader]
      split
      · rename_i content_empty
        rw [containers_eq_nil content_empty]
        exact carries_separator separator
      · exact .behind (.of_not_mem (by decide)) ((marked content rfl).carries_closed false)

theorem writeTabs_carries {named : List (String × List Content)}
    (names_free : ∀ tab ∈ named, CommentFree tab.1)
    (marked : ∀ tab ∈ named, ∀ child ∈ tab.2, child.IsMarked separator) :
    Carries (writeTabs separator.text named)
      ((containersInTabs separator.text named).map FencedBlock.depth) := by
  induction named with
  | nil => exact .empty
  | cons tab rest ih =>
      rw [List.forall_mem_cons] at names_free marked
      have children_carry := (isMarked_sequence marked.1).carries_closed true
      rw [write, containers] at children_carry
      rw [writeTabs, containersInTabs, List.map_append]
      split
      · rename_i children_empty
        have sequence_empty : (Content.sequence tab.2).isEmpty = true := children_empty
        have nothing_inside := containers_eq_nil sequence_empty separator.text
        rw [containers] at nothing_inside
        rw [nothing_inside]
        exact ih names_free.2 marked.2
      · exact ((openTab_carries separator names_free.1).behind children_carry).append
          (ih names_free.2 marked.2)

theorem flatMap_markersIn_cellTexts (style : TableStyle) {rows : List (List Content)}
    (marked : ∀ row ∈ rows, ∀ cell ∈ row, cell.IsMarked .lf) :
    ((rows.map (cellTexts style)).flatMap fun row => row.flatMap markersIn) =
      (rows.flatMap fun row => row.flatMap (containers "\n")).map FencedBlock.depth := by
  rw [List.flatMap_map, List.map_flatMap]
  refine List.flatMap_congr ?_
  intro row row_mem
  rw [cellTexts_eq_map, List.flatMap_map, List.map_flatMap]
  refine List.flatMap_congr ?_
  intro cell cell_mem
  rw [Depth.markersIn_cellText]
  exact marked row row_mem cell cell_mem true

theorem isMarked_run {piece : Run} (free : CommentFree piece.text) :
    (Content.run piece).IsMarked separator := by
  intro atLineStart
  rw [write, Run.write]
  split
  · rfl
  · dsimp only
    rw [Depth.markersIn_replaceChar_separator]
    split
    · exact (carries_escape piece.text).markersIn_eq
    · exact Depth.markersIn_eq_nil free

theorem isMarked_container {kind : ContainerKind} {header : Option Content} {body : Content}
    (body_written : body.isEmpty = false)
    (small : Depth.around (body.write separator.text true).text ≤ Depth.maxMarked)
    (header_marked : ∀ content ∈ header, content.IsMarked separator)
    (body_marked : body.IsMarked separator) :
    (Content.container kind header body).IsMarked separator := by
  intro atLineStart
  have not_empty : ¬body.isEmpty = true := by simp [body_written]
  have break_carries := carries_separator separator
  have blank_carries : Carries " " [] := .of_not_mem (by decide)
  have fence_carries := Depth.carries_fence (Depth.around (body.write separator.text true).text)
  have marker_carries := (carries_freshLine separator atLineStart).behind
    (Depth.carries_marker small)
  have opening_carries := (((marker_carries.before break_carries).before fence_carries).before
    blank_carries).before (Depth.carries_word kind)
  have block_carries := (((opening_carries.append (writeHeader_carries header_marked)).append
    (body_marked.carries_closed true)).before fence_carries).before break_carries
  rw [write, if_neg not_empty, containers, dif_neg not_empty, List.map_cons, List.map_append]
  exact block_carries.markersIn_eq

theorem isMarked_anchored {anchor : String} {body : Content} (body_written : body.isEmpty = false)
    (body_marked : body.IsMarked separator) :
    (Content.anchored anchor body).IsMarked separator := by
  intro atLineStart
  have body_carries := body_marked.carries_closed true
  have break_carries := carries_separator separator
  have tag_carries : Carries "<section id=\"" [] := fun _ => rfl
  have tag_end_carries : Carries "\">" [] := .of_not_mem (by decide)
  have end_carries : Carries "</section>" [] := fun _ => rfl
  have opening_carries := (((((carries_freshLine separator atLineStart).before
    tag_carries).before (carries_escape anchor)).before tag_end_carries).before
    break_carries).before break_carries
  have section_carries := ((((opening_carries.behind body_carries).before break_carries).before
    end_carries).before break_carries).before break_carries
  rw [write, if_neg (by simp [body_written]), containers]
  exact section_carries.markersIn_eq

theorem isMarked_table {style : TableStyle} {caption : Option String} {headers : List String}
    {rows : List (List Content)} (rows_ne : rows ≠ [])
    (headers_free : ∀ header ∈ headers, CommentFree header)
    (marked : ∀ row ∈ rows, ∀ cell ∈ row, cell.IsMarked .lf) :
    (Content.table ⟨style, caption, some ⟨headers, rows⟩⟩).IsMarked separator := by
  intro atLineStart
  have rows_carry := style.writeTable_carries separator headers_free (rowTexts style rows)
  have table_carries := ((carries_freshLine separator atLineStart).before
    (caption_carries separator caption)).behind rows_carry
  rw [containers_table, ← flatMap_markersIn_cellTexts style marked, ← rowTexts_eq_map,
    write.eq_def]
  dsimp only
  rw [if_neg (by simp [rows_ne])]
  exact table_carries.markersIn_eq

theorem isMarked_tabs {key : Option String} {named : List (String × List Content)}
    (named_written : allTabsEmpty named = false) (key_free : ∀ text ∈ key, CommentFree text)
    (names_free : ∀ tab ∈ named, CommentFree tab.1)
    (marked : ∀ tab ∈ named, ∀ child ∈ tab.2, child.IsMarked separator) :
    (Content.tabs ⟨key, named⟩).IsMarked separator := by
  intro atLineStart
  have opening_carries := (carries_freshLine separator atLineStart).before
    (openTabs_carries separator key_free)
  have switcher_carries := (opening_carries.behind
    (writeTabs_carries names_free marked)).before (closeTabs_carries separator)
  rw [write, if_neg (by simp [named_written]), containers]
  exact switcher_carries.markersIn_eq

theorem isMarked_tabbed {style : TableStyle} {label : String} {key : Option String} {forced : Bool}
    {selections : List (String × List Bool)} {headers : List String} {rows : List (List Content)}
    (rows_ne : rows ≠ []) (label_free : CommentFree label)
    (key_free : ∀ text ∈ key, CommentFree text)
    (names_free : ∀ tab ∈ selections, CommentFree tab.1)
    (headers_free : ∀ header ∈ headers, CommentFree header)
    (marked : ∀ row ∈ TabbedTable.shownRows ⟨style, label, key, forced, selections, none⟩ rows,
      ∀ cell ∈ row, cell.IsMarked .lf) :
    (Content.tabbed ⟨style, label, key, forced, selections,
      some ⟨headers, rows⟩⟩).IsMarked separator := by
  intro atLineStart
  have tables_carry := TabbedTable.writeTables_carries
    ⟨style, label, key, forced, selections, none⟩ separator key_free label_free names_free
    headers_free (rowTexts style rows)
  rw [rowTexts_eq_map, TabbedTable.shownRows_map, flatMap_markersIn_cellTexts style marked,
    ← rowTexts_eq_map] at tables_carry
  rw [containers_tabbed, write.eq_def]
  dsimp only
  rw [if_neg (by simp [rows_ne])]
  exact ((carries_freshLine separator atLineStart).behind tables_carry).markersIn_eq

end Marked

/-- A tree without comments is marked by its containers, if none is too deep for a marker. -/
def MarkedByContainers (content : Content) : Prop :=
  content.NoComments → ∀ separator : LineSeparator,
    (∀ block ∈ content.containers separator.text, block.depth ≤ Depth.maxMarked) →
      content.IsMarked separator

theorem hereditary_markedByContainers : Hereditary MarkedByContainers where
  run piece free separator _ := isMarked_run free
  sequence children ih free separator small := by
    have each_free := allStringsIn_iff.mp free
    rw [containers, containersIn_eq_flatMap, List.forall_mem_flatMap] at small
    exact isMarked_sequence fun child child_mem =>
      ih child child_mem (each_free child child_mem) separator (small child child_mem)
  container kind header body header_ih body_ih free separator small := by
    obtain ⟨header_free, body_free⟩ := free
    by_cases body_empty : body.isEmpty = true
    · refine isMarked_of_isEmpty ?_
      exact body_empty
    · rw [containers, dif_neg body_empty, List.forall_mem_cons, List.forall_mem_append] at small
      obtain ⟨self_small, header_small, body_small⟩ := small
      have header_marked : ∀ content ∈ header, content.IsMarked separator := by
        rintro content ⟨⟩
        exact header_ih content rfl (allStringsInHeader_iff.mp header_free content rfl) separator
          header_small
      exact isMarked_container (Bool.eq_false_iff.mpr body_empty) self_small header_marked
        (body_ih body_free separator body_small)
  wrapper frame ih := ih
  anchored anchor body ih free separator small := by
    obtain ⟨_, body_free⟩ := free
    by_cases body_empty : body.isEmpty = true
    · refine isMarked_of_isEmpty ?_
      exact body_empty
    · exact isMarked_anchored (Bool.eq_false_iff.mpr body_empty) (ih body_free separator small)
  table plain ih free separator small := by
    obtain ⟨style, caption, _ | ⟨headers, rows⟩⟩ := plain
    · exact isMarked_of_isEmpty rfl
    · obtain ⟨_, headers_free, cells_free⟩ := free
      by_cases rows_empty : rows = []
      · rw [rows_empty]
        exact isMarked_of_isEmpty rfl
      · rw [containers_table] at small
        refine isMarked_table rows_empty headers_free ?_
        intro row row_mem cell cell_mem
        have cell_free := allStringsInRows_iff.mp cells_free row row_mem cell cell_mem
        refine ih row row_mem cell cell_mem cell_free .lf ?_
        intro block block_mem
        exact small block
          (List.mem_flatMap_of_mem row_mem (List.mem_flatMap_of_mem cell_mem block_mem))
  tabs group ih free separator small := by
    obtain ⟨key, named⟩ := group
    obtain ⟨key_free, tabs_free⟩ := free
    obtain ⟨names_free, each_free⟩ := allStringsInTabs_iff.mp tabs_free
    by_cases named_empty : allTabsEmpty named = true
    · refine isMarked_of_isEmpty ?_
      exact named_empty
    · rw [containers, containersInTabs_eq_flatMap] at small
      refine isMarked_tabs (Bool.eq_false_iff.mpr named_empty) key_free names_free ?_
      intro tab tab_mem child child_mem
      refine ih tab tab_mem child child_mem (each_free tab tab_mem child child_mem) separator ?_
      intro block block_mem
      exact small block
        (List.mem_flatMap_of_mem tab_mem (List.mem_flatMap_of_mem child_mem block_mem))
  tabbed spread ih free separator small := by
    obtain ⟨style, label, key, forced, selections, _ | ⟨headers, rows⟩⟩ := spread
    · exact isMarked_of_isEmpty rfl
    · obtain ⟨label_free, key_free, names_free, headers_free, cells_free⟩ := free
      by_cases rows_empty : rows = []
      · rw [rows_empty]
        exact isMarked_of_isEmpty rfl
      · rw [containers_tabbed] at small
        refine isMarked_tabbed rows_empty label_free key_free names_free headers_free ?_
        intro row row_shown cell cell_mem
        have row_mem := TabbedTable.mem_of_mem_shownRows row_shown
        have cell_free := allStringsInRows_iff.mp cells_free row row_mem cell cell_mem
        refine ih row row_mem cell cell_mem cell_free .lf ?_
        intro block block_mem
        exact small block
          (List.mem_flatMap_of_mem row_shown (List.mem_flatMap_of_mem cell_mem block_mem))

theorem Part.allStrings {newline newline' : String} {content part : Content}
    (is_part : Part newline content newline' part) {run : Run → Prop} {label : String → Prop}
    (all : content.AllStrings run label) : part.AllStrings run label := by
  cases is_part with
  | child child_mem _ => exact allStringsIn_iff.mp all _ child_mem
  | header _ _ => exact all.1
  | body _ => exact all.2
  | frame => exact all
  | anchored _ => exact all.2
  | cell row_mem cell_mem => exact allStringsInRows_iff.mp all.2.2 _ row_mem _ cell_mem
  | tab tab_mem child_mem _ => exact (allStringsInTabs_iff.mp all.2).2 _ tab_mem _ child_mem
  | tabbedCell row_mem cell_mem =>
      have row_stored := TabbedTable.mem_of_mem_shownRows row_mem
      exact allStringsInRows_iff.mp all.2.2.2.2 _ row_stored _ cell_mem

theorem noComments_body {content : Content} (free : content.NoComments) {newline : String}
    {block : FencedBlock} (block_mem : block ∈ content.containers newline) :
    block.body.NoComments := by
  refine forall_mem_containers (fun _ content block => content.NoComments → block.body.NoComments)
    ?_ ?_ content newline block block_mem free
  · intro block free
    exact free.2
  · intro newline content newline' part block is_part inherits free
    exact inherits (is_part.allStrings free)

theorem exists_separator {content : Content} {separator : LineSeparator} {block : FencedBlock}
    (block_mem : block ∈ content.containers separator.text) :
    ∃ other : LineSeparator, block.newline = other.text := by
  refine forall_mem_containers (fun newline _ block =>
    (∃ other : LineSeparator, newline = other.text) →
      ∃ other : LineSeparator, block.newline = other.text)
    ?_ ?_ content separator.text block block_mem ⟨separator, rfl⟩
  · exact fun block separated => separated
  · rintro newline content newline' part block is_part inherits ⟨other, rfl⟩
    rcases is_part.newline_eq with rfl | rfl
    · exact inherits ⟨other, rfl⟩
    · exact inherits ⟨.lf, rfl⟩

end Content

namespace FencedBlock

/-- The depth of a container goes by the containers in its body, if their markers are all that there
are in it. -/
theorem depth_eq {block : FencedBlock}
    (body_marked : markersIn block.bodyText = block.inside.map depth) :
    (block.inside = [] → block.depth = 1) ∧
      ∀ deepest, (block.inside.map depth).max? = some deepest → block.depth = deepest + 1 := by
  rw [markersIn] at body_marked
  rw [depth, Depth.around, body_marked]
  constructor
  · intro nothing_inside
    rw [nothing_inside]
    rfl
  · intro deepest deepest_eq
    rw [deepest_eq]

end FencedBlock

/-- The containers of a tree are written with their depths.  A container in the body of another is
less deep and has a shorter fence, and each container is closed by the fence that it is opened with.
Where no string has the start of a comment in it, there are no other markers, and a container is one
level deeper than the deepest one in its body, or at the first level if there is none. -/
theorem containers_nest_by_depth (newline : String) (content : Content) (atLineStart : Bool)
    (bounded : ∀ depth ∈ Depth.markers (content.write newline atLineStart).text.toList,
      depth < Depth.maxMarked) :
    (∀ outer ∈ content.containers newline,
      outer.depth ∈ Depth.markers (content.write newline atLineStart).text.toList ∧
      outer.text = Depth.marker outer.depth ++ outer.newline
        ++ outer.fence ++ " " ++ outer.kind.word
        ++ Content.writeHeader outer.newline outer.header
        ++ (outer.body.write outer.newline true).closed outer.newline
        ++ outer.fence ++ outer.newline ∧
      ∀ inner ∈ outer.inside,
        inner.depth < outer.depth ∧ inner.fence.length < outer.fence.length) ∧
    (content.NoComments → ∀ separator : LineSeparator, newline = separator.text →
      Depth.markers (content.write newline atLineStart).text.toList =
          (content.containers newline).map FencedBlock.depth ∧
        ∀ outer ∈ content.containers newline,
          (outer.inside = [] → outer.depth = 1) ∧
            ∀ deepest, (outer.inside.map FencedBlock.depth).max? = some deepest →
              outer.depth = deepest + 1) := by
  have small {block : FencedBlock} (block_mem : block ∈ content.containers newline) :
      block.depth ≤ Depth.maxMarked := Content.depth_le_maxMarked bounded block_mem
  have body_bounded {block : FencedBlock} (block_mem : block ∈ content.containers newline) :
      ∀ depth ∈ markersIn block.bodyText, depth < Depth.maxMarked := by
    intro depth depth_mem
    have within := Content.markersWithin_of_mem block_mem atLineStart
    exact bounded depth (within (block.markersWithin_bodyText depth_mem))
  constructor
  · intro outer outer_mem
    refine ⟨?_, outer.text_eq, ?_⟩
    · exact Content.markersWithin_of_mem outer_mem atLineStart
        (FencedBlock.depth_mem_markersIn_text (small outer_mem))
    · intro inner inner_mem
      have less_deep := FencedBlock.depth_lt_of_mem_inside inner_mem (body_bounded outer_mem)
      refine ⟨less_deep, ?_⟩
      rw [FencedBlock.fence, FencedBlock.fence, Depth.length_fence, Depth.length_fence]
      omega
  · rintro free separator rfl
    have marked := Content.hereditary_markedByContainers.forall_content
    refine ⟨marked content free separator (fun _ => small) atLineStart, ?_⟩
    intro outer outer_mem
    obtain ⟨other, newline_eq⟩ := Content.exists_separator outer_mem
    have inside_small : ∀ inner ∈ outer.inside, inner.depth ≤ Depth.maxMarked :=
      fun _ => Content.depth_le_maxMarked (body_bounded outer_mem)
    refine FencedBlock.depth_eq ?_
    rw [FencedBlock.inside, newline_eq] at inside_small
    rw [FencedBlock.bodyText, FencedBlock.inside, newline_eq]
    exact marked outer.body (Content.noComments_body free outer_mem) other inside_small true

/-- A tip in a notice. -/
def tipInNotice : Content :=
  .container .info none (.container .tip none (.text "Gap"))

theorem tipInNotice_nested :
    (∀ depth ∈ Depth.markers (tipInNotice.write "\n" true).text.toList, depth < Depth.maxMarked) ∧
      tipInNotice.NoComments ∧
      ∃ notice tip, tipInNotice.containers "\n" = [notice, tip] ∧ notice.inside = [tip] ∧
        tip.depth = 1 ∧ notice.depth = 2 ∧ tip.fence.length < notice.fence.length := by
  have bounded : ∀ depth ∈ Depth.markers (tipInNotice.write "\n" true).text.toList,
      depth < Depth.maxMarked := by decide +kernel
  have free : tipInNotice.NoComments := ⟨trivial, trivial, rfl⟩
  refine ⟨bounded, free, _, _, rfl, rfl, ?_⟩
  obtain ⟨nested, exact_depths⟩ := containers_nest_by_depth "\n" tipInNotice true bounded
  obtain ⟨-, depths⟩ := exact_depths free .lf rfl
  have tip_depth := (depths _ (List.mem_cons_of_mem _ List.mem_cons_self)).1 rfl
  have notice_depth := (depths _ List.mem_cons_self).2 1 (by rw [← tip_depth]; rfl)
  have shorter := ((nested _ List.mem_cons_self).2.2 _ List.mem_cons_self).2
  exact ⟨tip_depth, notice_depth, shorter⟩

end RefDocs
