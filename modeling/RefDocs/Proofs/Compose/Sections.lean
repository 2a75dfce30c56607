import RefDocs.Proofs.Compose.Pages
import RefDocs.Proofs.Content.Placement
import RefDocs.Proofs.Content.Sections
import RefDocs.Proofs.Content.Slots

/-!
# Sections in the composition of a type page

The details of members are the only sections on the page of a type, and each of them is written.
The rows of summaries, which have no sections, link to them.
-/

namespace RefDocs

/-- A table of rows without sections. -/
theorem sectionless_tableOf {style : TableStyle} {caption : Option String} {headers : List String}
    {rows : List (List Content)} (rows_fit : ∀ row ∈ rows, row.length = headers.length)
    (sectionless : ∀ row ∈ rows, ∀ cell ∈ row, cell.Sectionless) :
    Yields Content.Sectionless (tableOf style caption headers rows) := by
  rw [tableOf_eq_ok rows_fit]
  exact .ok (Content.sectionless_table sectionless)

/-- A block of rows without sections. -/
theorem TabbedBlock.sectionless_toContent {Item : Type} {block : TabbedBlock Item}
    {headers : List String} {rows : List (Item × List Content)}
    (grid_eq : block.grid = some ⟨headers, rows⟩)
    (sectionless : ∀ row ∈ rows, ∀ cell ∈ row.2, cell.Sectionless) :
    block.toContent.Sectionless := by
  rw [toContent, spread, grid_eq, Option.map_some]
  refine Content.sectionless_tabbed ?_
  rw [List.forall_mem_map]
  exact sectionless

namespace PageContext

variable (context : PageContext)

theorem sectionless_deprecation (deprecation : Option Deprecation) :
    Yields Content.Sectionless (context.deprecation deprecation) := by
  cases deprecation with
  | none => exact .pure rfl
  | some deprecation =>
      refine (context.yields_markup deprecation.doc).bind ?_
      intro reason _
      exact .pure (Content.sectionless_container (Content.sectionless_raw _))

/-! ## Members -/

/-- The row of a member: what its tabs select it by, and its cells, of which one is its name. -/
structure IsRowOf (owner : TypeDecl) (member : Member) (row : MemberFacts × List Content) :
    Prop where
  /-- Tabs select the row by the facts about the member. -/
  facts_eq : row.1 = member.facts owner
  /-- A cell shows the name with its link. -/
  name_mem : .raw (context.summaryName owner member) ∈ row.2
  /-- There is a cell for each column. -/
  fits : row.2.length = member.kind.layout.headers.length
  /-- No cell holds a section. -/
  sectionless : ∀ cell ∈ row.2, cell.Sectionless

theorem name_mem_columns (kind : MemberKind) : Column.name ∈ kind.layout.columns := by
  cases kind <;> decide

theorem isRowOf_summaryRow (owner : TypeDecl) (member : Member) :
    Yields (context.IsRowOf owner member) (context.summaryRow owner member) := by
  have cells_yield : Yields (fun cells => ∃ make : Column → String,
      cells = member.kind.layout.columns.map make ∧ ∀ column ∈ member.kind.layout.columns,
        context.summaryCell owner member column = .ok (make column) ∧ True)
      (member.kind.layout.columns.mapM (context.summaryCell owner member)) :=
    .mapM_map fun column _ => context.yields_summaryCell owner member column
  refine cells_yield.bind ?_
  rintro _ ⟨make, rfl, cells_made⟩
  have name_eq : make .name = context.summaryName owner member :=
    (Except.ok.inj (cells_made .name (name_mem_columns member.kind)).1).symm
  refine .pure ⟨rfl, ?_, ?_, ?_⟩
  · rw [← name_eq]
    exact List.mem_map_of_mem (List.mem_map_of_mem (name_mem_columns member.kind))
  · simp [MemberLayout.headers]
  · rw [List.forall_mem_map]
    exact fun text _ => Content.sectionless_raw text

/-- A block has a row for each member of a kind, and the tabs of the kind. -/
structure Summarizes (decl : TypeDecl) (kind : MemberKind)
    (row : Member → MemberFacts × List Content) (block : TabbedBlock MemberFacts) : Prop where
  /-- The tables are written in the form that the options ask for. -/
  style_eq : block.style = context.options.tableStyle
  /-- The tabs are those of the kind. -/
  tabs_eq : block.tabs = kind.layout.tabs
  /-- There is a row for each member, in order. -/
  grid_eq : block.grid = some ⟨kind.layout.headers, (membersOf decl kind).map row⟩
  /-- Each row is that of its member. -/
  rows_made : ∀ member ∈ membersOf decl kind, context.summaryRow decl member = .ok (row member) ∧
    context.IsRowOf decl member (row member)

instance : Nonempty (MemberFacts × List Content) :=
  ⟨⟨⟨false, false, false, false, false⟩, []⟩⟩

theorem summarizes_memberSummary (decl : TypeDecl) (kind : MemberKind) :
    Yields (fun summary => ∃ row block, summary = block.toContent ∧
        context.Summarizes decl kind row block)
      (context.memberSummary decl kind (membersOf decl kind)) := by
  refine (Yields.mapM_map fun member (_ : member ∈ membersOf decl kind) =>
    context.isRowOf_summaryRow decl member).bind ?_
  rintro _ ⟨row, rfl, rows_made⟩
  have rows_fit : ∀ made ∈ (membersOf decl kind).map row,
      made.2.length = kind.layout.headers.length := by
    rw [List.forall_mem_map]
    intro member member_mem
    have kind_eq : member.kind = kind := by simpa using List.of_mem_filter member_mem
    rw [(rows_made member member_mem).2.fits, kind_eq]
  rw [blockOf_eq_ok rfl rows_fit]
  exact .ok ⟨row, _, rfl, rfl, rfl, rfl, rows_made⟩

/-- The heading and the table of the members of a kind. -/
structure IsSummaryOf (decl : TypeDecl) (kind : MemberKind) (blocks : List Content) : Prop where
  /-- There is no section in the summary. -/
  sectionless : ∀ block ∈ blocks, block.Sectionless
  /-- Where there are members, they have rows in the table below the heading. -/
  table : membersOf decl kind ≠ [] → ∃ row block,
    blocks = [.raw ("### " ++ kind.layout.summaryLabel), TabbedBlock.toContent block] ∧
      context.Summarizes decl kind row block

theorem isSummaryOf_summaryBlocks (decl : TypeDecl) (kind : MemberKind) :
    Yields (context.IsSummaryOf decl kind) (context.summaryBlocks decl kind) := by
  rw [summaryBlocks]
  split
  · rename_i none_left
    exact .pure ⟨List.forall_mem_nil _,
      fun members_ne => absurd (List.isEmpty_iff.mp none_left) members_ne⟩
  · refine (context.summarizes_memberSummary decl kind).bind ?_
    rintro _ ⟨row, block, rfl, summarizes⟩
    refine .pure ⟨?_, fun _ => ⟨row, block, rfl, summarizes⟩⟩
    simp only [List.forall_mem_cons]
    refine ⟨Content.sectionless_raw _, TabbedBlock.sectionless_toContent summarizes.grid_eq ?_,
      List.forall_mem_nil _⟩
    rw [List.forall_mem_map]
    exact fun member member_mem => (summarizes.rows_made member member_mem).2.sectionless

theorem sectionless_memberTags (member : Member) :
    Yields Content.Sectionless (context.memberTags member) := by
  refine (Yields.mapM fun tag _ => context.yields_tagEntry? tag).bind ?_
  intro entries _
  refine .pure (Content.sectionless_sequence ?_)
  simp only [List.forall_mem_cons, Content.sectionless_labelled]
  simp

/-- A section with the anchor of a member that is written, without another section in it. -/
def IsSectionOf (member : Member) (content : Content) : Prop :=
  ∃ body : Content, content = .wrapper (.anchored member.anchor body) ∧ body.isEmpty = false ∧
    body.Sectionless

/-- The children that are added to the frame of a section come behind those in its tab. -/
theorem frame_foldl_add {anchor name : String} {blocks contents : List Content} {wrapper : Wrapper}
    (frame_eq : wrapper.frame = .anchored anchor (.tabs ⟨none, [(name, contents)]⟩)) :
    (blocks.foldl (fun frame block => frame.add block) wrapper).frame =
      .anchored anchor (.tabs ⟨none, [(name, contents ++ blocks)]⟩) := by
  have slot_eq : wrapper.frame = Around.within [.anchored anchor]
      (Slot.content (.lastTab none [] name contents)) := frame_eq
  exact Wrapper.frame_foldl_add_within slot_eq blocks

/-- The section of a member is written when it is filled with a block that is not empty. -/
theorem isSectionOf_filled {member : Member} {blocks : List Content} {block : Content}
    (block_mem : block ∈ blocks) (not_empty : block.isEmpty = false)
    (sectionless : ∀ block ∈ blocks, block.Sectionless) :
    IsSectionOf member ((blocks.flatMap Content.spaced).foldl
      (fun frame block => frame.add block) (detailFrame member)).toContent := by
  refine ⟨.tabs ⟨none, [(member.name, [.empty] ++ blocks.flatMap Content.spaced)]⟩, ?_, ?_, ?_⟩
  · rw [Wrapper.toContent, frame_foldl_add rfl]
  · rw [← Bool.not_eq_true, Content.isEmpty, Content.allTabsEmpty_iff]
    intro children_empty
    have block_empty := children_empty _ List.mem_cons_self block
      (List.mem_append_right _ (Content.mem_flatMap_spaced block_mem not_empty))
    rw [not_empty] at block_empty
    cases block_empty
  · have none_in : (blocks.flatMap Content.spaced).flatMap Content.anchors = [] := by
      rw [List.flatMap_assoc, List.flatMap_eq_nil_iff]
      intro block block_mem
      rw [Content.anchors_spaced, sectionless block block_mem]
    rw [Content.Sectionless, Content.anchors, Content.anchorsInTabs_eq_flatMap,
      List.flatMap_singleton, List.flatMap_append, none_in]
    rfl

theorem isEmpty_codeBlock (code : String) : (Content.codeBlock code).isEmpty = false := by
  rw [Content.codeBlock, Content.raw, Content.isEmpty, String.isEmpty_eq_false_iff]
  simp

theorem isSectionOf_memberDetail (member : Member) :
    Yields (IsSectionOf member) (context.memberDetail member) := by
  refine (context.sectionless_deprecation member.deprecated).bind ?_
  intro notice notice_sectionless
  refine (context.yields_description member.doc).bind ?_
  intro description _
  have default_sectionless : Content.Sectionless
      (member.defaultValue.elim .empty fun value => .labelled "Default" ""
        ["`" ++ (AnnotationWriter.plain context.graph).valueText value ++ "`"]) := by
    cases member.defaultValue with
    | none => rfl
    | some value => exact Content.sectionless_labelled _ _ _
  refine .ite_bind (.pure Content.sectionless_empty) (context.sectionless_memberTags member) ?_
  intro tags tags_sectionless
  refine .pure (isSectionOf_filled List.mem_cons_self (isEmpty_codeBlock _) ?_)
  simp only [List.forall_mem_cons]
  exact ⟨Content.sectionless_raw _, notice_sectionless, Content.sectionless_raw _,
    tags_sectionless, default_sectionless, List.forall_mem_nil _⟩

/-- The container with the sections of the members of a kind. -/
def detailsContainer (kind : MemberKind) (sections : List Content) : Content :=
  .container .info (some (.text kind.layout.detailsLabel)) (.sequence sections)

/-- The container with a section for each of the members of a kind. -/
def IsDetailsOf (kind : MemberKind) (members : List Member) (block : Content) : Prop :=
  ∃ detail : Member → Content, block = detailsContainer kind (members.map detail) ∧
    ∀ member ∈ members,
      context.memberDetail member = .ok (detail member) ∧ IsSectionOf member (detail member)

theorem isDetailsOf_memberDetails (kind : MemberKind) (members : List Member) :
    Yields (context.IsDetailsOf kind members) (context.memberDetails kind members) := by
  refine (Yields.mapM_map fun member (_ : member ∈ members) =>
    context.isSectionOf_memberDetail member).bind ?_
  rintro _ ⟨detail, rfl, details_made⟩
  exact .pure ⟨detail, rfl, details_made⟩

/-! ## Type pages -/

theorem sectionless_hierarchy (sound : Sound context.graph.packages context.graph.types)
    (decl : TypeDecl) : Yields Content.Sectionless (context.hierarchy decl) := by
  obtain ⟨ancestors, ancestors_eq⟩ := Graph.exists_ancestors sound decl
  rw [hierarchy, ancestors_eq]
  exact .ok (Content.sectionless_raw _)

theorem sectionless_typeParameterBlock (decl : TypeDecl) :
    Yields Content.Sectionless (context.typeParameterBlock decl) := by
  rw [typeParameterBlock]
  split
  · exact .pure Content.sectionless_empty
  · refine (Yields.mapM fun tag _ => context.yields_typeParameterEntry? tag).bind ?_
    intro entries _
    exact .pure (Content.sectionless_labelled _ _ _)

theorem sectionless_tagLists (doc : List DocNode) :
    Yields (fun lists => ∀ block ∈ lists, block.Sectionless) (context.tagLists doc) := by
  have tagList_yields (tag : String × String) :
      Yields Content.Sectionless (context.tagList doc tag) := by
    refine (Yields.mapM fun other _ => context.yields_markup other.body).bind ?_
    intro entries _
    exact .pure (Content.sectionless_labelled _ _ _)
  rw [tagLists]
  split
  · exact .pure (List.forall_mem_nil _)
  · exact (Yields.mapM fun tag _ => tagList_yields tag).mono fun lists each => each.2

theorem sectionless_relations (decl : TypeDecl) :
    ∀ block ∈ context.relations decl, block.Sectionless := by
  have enclosing_sectionless : (context.enclosingBlock decl).Sectionless := by
    rw [enclosingBlock]
    split
    · exact Content.sectionless_labelled _ _ _
    · exact Content.sectionless_empty
  rw [relations]
  simp [Content.sectionless_labelled, enclosing_sectionless]

theorem sectionless_nestedSummary (decl : TypeDecl) :
    Yields Content.Sectionless (context.nestedSummary decl) := by
  have row_yields (nested : TypeDecl) :
      Yields (fun row => row.length = 3 ∧ ∀ cell ∈ row, cell.Sectionless)
        (context.nestedRow decl nested) := by
    refine (context.yields_summary nested.doc).bind ?_
    intro summary _
    refine .pure ⟨rfl, ?_⟩
    simp only [List.forall_mem_cons]
    exact ⟨rfl, Content.sectionless_raw _, Content.sectionless_raw _, List.forall_mem_nil _⟩
  rw [nestedSummary]
  split
  · exact .pure Content.sectionless_empty
  · refine (Yields.mapM fun nested _ => row_yields nested).bind ?_
    rintro rows ⟨-, each⟩
    have table_yields : Yields Content.Sectionless (tableOf context.options.tableStyle
        (some "Nested Classes") ["Modifier and Type", "Class", "Description"] rows) :=
      sectionless_tableOf (fun row row_mem => (each row row_mem).1)
        fun row row_mem => (each row row_mem).2
    refine table_yields.bind ?_
    intro table table_sectionless
    refine .pure (Content.sectionless_sequence ?_)
    simp only [List.forall_mem_cons]
    exact ⟨Content.sectionless_raw _, table_sectionless, List.forall_mem_nil _⟩

/-- The page of a type is made of blocks without sections, and for each kind of member a summary
and the details. -/
def IsTypePageOf (decl : TypeDecl) (page : Content) : Prop :=
  ∃ (front : List (String × String)) (top : List Content) (summaries : MemberKind → List Content)
    (details : MemberKind → Content),
    page = .page front (top ++ MemberKind.inPageOrder.flatMap summaries
      ++ MemberKind.inPageOrder.map details) ∧
    (∀ block ∈ top, block.Sectionless) ∧
    ∀ kind, context.IsSummaryOf decl kind (summaries kind) ∧
      context.IsDetailsOf kind (membersOf decl kind) (details kind)

theorem mem_inPageOrder (kind : MemberKind) : kind ∈ MemberKind.inPageOrder := by
  cases kind <;> decide

theorem isTypePageOf_typePage (sound : Sound context.graph.packages context.graph.types)
    (decl : TypeDecl) : Yields (context.IsTypePageOf decl) (context.typePage decl) := by
  refine .ite_bind (context.sectionless_hierarchy sound decl) (.pure Content.sectionless_empty) ?_
  intro hierarchy hierarchy_sectionless
  refine (context.sectionless_typeParameterBlock decl).bind ?_
  intro typeParameters typeParameters_sectionless
  refine (context.sectionless_deprecation decl.deprecated).bind ?_
  intro notice notice_sectionless
  refine (context.yields_description decl.doc).bind ?_
  intro description _
  refine (context.sectionless_tagLists decl.doc).bind ?_
  intro tags tags_sectionless
  refine (context.sectionless_nestedSummary decl).bind ?_
  intro nested nested_sectionless
  refine (Yields.mapM_map fun kind (_ : kind ∈ MemberKind.inPageOrder) =>
    context.isSummaryOf_summaryBlocks decl kind).bind ?_
  rintro _ ⟨summaries, rfl, summaries_made⟩
  refine (Yields.mapM_map fun kind (_ : kind ∈ MemberKind.inPageOrder) =>
    context.isDetailsOf_memberDetails kind (membersOf decl kind)).bind ?_
  rintro _ ⟨details, rfl, details_made⟩
  refine .pure ⟨_, _, summaries, details, rfl, ?_, ?_⟩
  · simp only [List.forall_mem_append, List.forall_mem_cons]
    exact ⟨⟨⟨⟨⟨Content.sectionless_raw _, Content.sectionless_raw _, hierarchy_sectionless,
      typeParameters_sectionless, List.forall_mem_nil _⟩, context.sectionless_relations decl⟩,
      Content.sectionless_labelled _ _ _, Content.sectionless_raw _, Content.sectionless_raw _,
      notice_sectionless, Content.sectionless_raw _, List.forall_mem_nil _⟩, tags_sectionless⟩,
      nested_sectionless, List.forall_mem_nil _⟩
  · intro kind
    exact ⟨(summaries_made kind (mem_inPageOrder kind)).2,
      (details_made kind (mem_inPageOrder kind)).2⟩

end PageContext
end RefDocs
