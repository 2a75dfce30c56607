import RefDocs.Generate
import RefDocs.Proofs.Compose.Member
import RefDocs.Proofs.Graph.Ancestors

/-!
# Steps of page composition

Each kind of page is composed of blocks that fail at most in a comment.  The page of constants has
no comments on it, so it does not fail at all.
-/

namespace RefDocs
namespace PageContext

variable {context : PageContext} {label : String → Prop}

/-! ## Package pages -/

theorem unbroken_of_mem_contentsTabs : ∀ tab ∈ contentsTabs, Text.Unbroken tab.label := by
  decide

theorem yields_contentsRow (context : PageContext) (label : String → Prop) (package : String)
    (decl : TypeDecl) :
    Yields (fun row => row.2.length = 2 ∧ ∀ cell ∈ row.2, cell.AllLabels label)
      (context.contentsRow package decl) := by
  refine (context.yields_summary decl.doc).bind ?_
  intro summary _
  refine .pure ⟨rfl, ?_⟩
  simp [Content.allLabels_raw]

theorem yields_packageContents (covers : CoversLabels context.source label) (package : String) :
    Yields (Content.AllLabels label) (context.packageContents package) := by
  refine (Yields.mapM fun decl _ => context.yields_contentsRow label package decl).bind ?_
  rintro rows ⟨-, each⟩
  refine yields_blockOf rfl (fun row row_mem => (each row row_mem).1) ?_ ?_ ?_ ?_
    (fun row row_mem => (each row row_mem).2)
  · exact covers.unbroken "All Types" (by decide)
  · rintro key ⟨⟩
    exact covers.unbroken "package-contents" (by decide)
  · exact fun tab tab_mem => covers.unbroken tab.label (unbroken_of_mem_contentsTabs tab tab_mem)
  · exact covers.all_unbroken (by decide)

theorem yields_relatedRow (context : PageContext) (label : String → Prop) (other : PackageDecl) :
    Yields (fun row => row.length = 2 ∧ ∀ cell ∈ row, cell.AllLabels label)
      (context.relatedRow other) := by
  refine (context.yields_summary other.doc).bind ?_
  intro summary _
  refine .pure ⟨rfl, ?_⟩
  simp [Content.allLabels_raw]

theorem yields_relatedPackages (covers : CoversLabels context.source label) (decl : PackageDecl) :
    Yields (Content.AllLabels label) (context.relatedPackages decl) := by
  refine (Yields.mapM fun other _ => context.yields_relatedRow label other).bind ?_
  rintro rows ⟨-, each⟩
  exact yields_tableOf (fun row row_mem => (each row row_mem).1) nofun
    (covers.all_unbroken (by decide)) (fun row row_mem => (each row row_mem).2)

theorem yields_packagePage (covers : CoversLabels context.source label) (decl : PackageDecl) :
    Yields (Content.AllLabels label) (context.packagePage decl) := by
  refine (context.yields_description decl.doc).bind ?_
  intro description _
  refine (yields_packageContents covers decl.name).bind ?_
  intro contents contents_labelled
  refine (yields_relatedPackages covers decl).bind ?_
  intro related related_labelled
  refine .pure (Content.allLabels_page ?_)
  simp only [List.forall_mem_cons]
  refine ⟨trivial, trivial, trivial, trivial, trivial, ?_, ?_, related_labelled, nofun⟩
  · split
    · trivial
    · exact contents_labelled
  · split <;> trivial

/-! ## Type pages -/

theorem yields_hierarchy (sound : Sound context.graph.packages context.graph.types)
    (label : String → Prop) (decl : TypeDecl) :
    Yields (Content.AllLabels label) (context.hierarchy decl) := by
  obtain ⟨ancestors, ancestors_eq⟩ := Graph.exists_ancestors sound decl
  rw [hierarchy, ancestors_eq]
  exact .ok trivial

theorem yields_typeParameterEntry? (context : PageContext) (tag : Markup.BlockTag) :
    Yields (fun _ => True) (context.typeParameterEntry? tag) := by
  unfold typeParameterEntry?
  split
  · split
    · refine (context.yields_markup tag.body).bind ?_
      intro text _
      exact .pure trivial
    · exact .pure trivial
  · exact .pure trivial

theorem yields_typeParameterBlock (context : PageContext) (label : String → Prop)
    (decl : TypeDecl) : Yields (Content.AllLabels label) (context.typeParameterBlock decl) := by
  rw [typeParameterBlock]
  split
  · exact .pure trivial
  · refine (Yields.mapM fun tag _ => context.yields_typeParameterEntry? tag).bind ?_
    intro entries _
    exact .pure (Content.allLabels_labelled _ _ _)

theorem yields_tagList (context : PageContext) (label : String → Prop) (doc : List DocNode)
    (tag : String × String) : Yields (Content.AllLabels label) (context.tagList doc tag) := by
  refine (Yields.mapM fun other _ => context.yields_markup other.body).bind ?_
  intro entries _
  exact .pure (Content.allLabels_labelled _ _ _)

theorem yields_tagLists (context : PageContext) (label : String → Prop) (doc : List DocNode) :
    Yields (fun lists => ∀ block ∈ lists, block.AllLabels label) (context.tagLists doc) := by
  rw [tagLists]
  split
  · exact .pure nofun
  · refine (Yields.mapM fun tag _ => context.yields_tagList label doc tag).mono ?_
    exact fun lists each => each.2

theorem allLabels_enclosingBlock (context : PageContext) (decl : TypeDecl) :
    (context.enclosingBlock decl).AllLabels label := by
  rw [enclosingBlock]
  split
  · exact Content.allLabels_labelled _ _ _
  · trivial

theorem allLabels_relations (context : PageContext) (decl : TypeDecl) :
    ∀ block ∈ context.relations decl, block.AllLabels label := by
  rw [relations]
  simp [Content.allLabels_labelled, allLabels_enclosingBlock]

theorem yields_nestedRow (context : PageContext) (label : String → Prop) (outer decl : TypeDecl) :
    Yields (fun row => row.length = 3 ∧ ∀ cell ∈ row, cell.AllLabels label)
      (context.nestedRow outer decl) := by
  refine (context.yields_summary decl.doc).bind ?_
  intro summary _
  refine .pure ⟨rfl, ?_⟩
  simp only [List.forall_mem_cons]
  exact ⟨trivial, trivial, trivial, nofun⟩

theorem yields_nestedSummary (covers : CoversLabels context.source label) (decl : TypeDecl) :
    Yields (Content.AllLabels label) (context.nestedSummary decl) := by
  rw [nestedSummary]
  split
  · exact .pure trivial
  · refine (Yields.mapM fun nested _ => context.yields_nestedRow label decl nested).bind ?_
    rintro rows ⟨-, each⟩
    have table_yields : Yields (Content.AllLabels label) (tableOf context.options.tableStyle
        (some "Nested Classes") ["Modifier and Type", "Class", "Description"] rows) := by
      refine yields_tableOf (fun row row_mem => (each row row_mem).1) ?_
        (covers.all_unbroken (by decide)) (fun row row_mem => (each row row_mem).2)
      rintro caption ⟨⟩
      exact covers.unbroken "Nested Classes" (by decide)
    refine table_yields.bind ?_
    intro table table_labelled
    exact .pure ⟨trivial, table_labelled, trivial⟩

theorem yields_summaryBlocks (covers : CoversLabels context.source label) (decl : TypeDecl)
    (kind : MemberKind) :
    Yields (fun blocks => ∀ block ∈ blocks, block.AllLabels label)
      (context.summaryBlocks decl kind) := by
  rw [summaryBlocks]
  split
  · exact .pure nofun
  · have of_kind : ∀ member ∈ membersOf decl kind, member.kind = kind := by
      intro member member_mem
      simpa using List.of_mem_filter member_mem
    refine (yields_memberSummary covers decl of_kind).bind ?_
    intro summary summary_labelled
    refine .pure ?_
    simp only [List.forall_mem_cons]
    exact ⟨trivial, summary_labelled, nofun⟩

theorem yields_typePage (context : PageContext)
    (sound : Sound context.graph.packages context.graph.types)
    (covers : CoversLabels context.source label) {decl : TypeDecl}
    (decl_mem : decl ∈ context.graph.types) :
    Yields (Content.AllLabels label) (context.typePage decl) := by
  refine .ite_bind (yields_hierarchy sound label decl) (.pure trivial) ?_
  intro hierarchy hierarchy_labelled
  refine (context.yields_typeParameterBlock label decl).bind ?_
  intro typeParameters typeParameters_labelled
  refine (context.yields_deprecation label decl.deprecated).bind ?_
  intro notice notice_labelled
  refine (context.yields_description decl.doc).bind ?_
  intro description _
  refine (context.yields_tagLists label decl.doc).bind ?_
  intro tags tags_labelled
  refine (yields_nestedSummary covers decl).bind ?_
  intro nested nested_labelled
  refine (Yields.mapM fun kind _ => yields_summaryBlocks covers decl kind).bind ?_
  rintro summaries ⟨-, summaries_labelled⟩
  have members_labelled (kind : MemberKind) :
      ∀ member ∈ membersOf decl kind, label member.name ∧ label member.anchor := by
    intro member member_mem
    have declared := List.mem_of_mem_filter member_mem
    exact ⟨covers.name decl decl_mem member declared, covers.anchor decl decl_mem member declared⟩
  refine (Yields.mapM fun kind _ =>
    context.yields_memberDetails kind (members_labelled kind)).bind ?_
  rintro details ⟨-, details_labelled⟩
  have summary_labelled : ∀ block ∈ summaries.flatten, block.AllLabels label := by
    intro block block_mem
    obtain ⟨blocks, blocks_mem, block_mem⟩ := List.mem_flatten.mp block_mem
    exact summaries_labelled blocks blocks_mem block block_mem
  refine .pure (Content.allLabels_page ?_)
  simp only [List.forall_mem_append, List.forall_mem_cons]
  exact ⟨⟨⟨⟨⟨⟨⟨trivial, trivial, hierarchy_labelled, typeParameters_labelled, nofun⟩,
    context.allLabels_relations decl⟩,
    Content.allLabels_labelled _ _ _, trivial, trivial, notice_labelled, trivial, nofun⟩,
    tags_labelled⟩, nested_labelled, nofun⟩, summary_labelled⟩, details_labelled⟩

/-! ## The page of constants -/

theorem constantsTable_eq_ok (context : PageContext) (decl : TypeDecl) :
    context.constantsTable decl = .ok (.table ⟨context.options.tableStyle,
      some (context.source.named decl.qualifiedName decl.qualifiedName),
      some ⟨["Modifier and Type", "Constant Field", "Value"],
        decl.constants.map (context.constantRow decl)⟩⟩) := by
  refine tableOf_eq_ok ?_
  rw [List.forall_mem_map]
  intro member _
  rfl

theorem exists_constantsBlocks (covers : CoversLabels context.source label) (group : String) :
    ∃ blocks, context.constantsBlocks group = .ok blocks ∧
      ∀ block ∈ blocks, block.AllLabels label := by
  have tables_exist : ∀ decl ∈ context.graph.typesInGroup group,
      ∃ table, context.constantsTable decl = .ok table ∧ table.AllLabels label := by
    intro decl decl_mem
    have decl_declared : decl ∈ context.graph.types :=
      List.mem_of_mem_filter (List.mem_of_mem_filter (List.mem_of_mem_filter decl_mem))
    refine ⟨_, context.constantsTable_eq_ok decl, ?_, covers.all_unbroken (by decide), ?_⟩
    · rintro caption ⟨⟩
      exact covers.caption decl decl_declared
    · refine Content.allStringsInRows_iff.mpr ?_
      rw [List.forall_mem_map]
      intro member _
      simp only [constantRow, List.forall_mem_cons]
      exact ⟨trivial, trivial, trivial, nofun⟩
  obtain ⟨tables, tables_eq, tables_labelled⟩ := exists_mapM_eq_ok tables_exist
  refine ⟨.raw ("## " ++ group ++ ".*") :: tables, ?_, ?_⟩
  · rw [constantsBlocks, tables_eq, ok_bind]
    rfl
  · exact List.forall_mem_cons.mpr ⟨trivial, tables_labelled⟩

/-- The page of constants is composed without a failure. -/
theorem exists_constantsPage? (covers : CoversLabels context.source label) :
    ∃ content, context.constantsPage? = .ok content ∧
      ∀ page ∈ content, page.AllLabels label := by
  obtain ⟨blocks, blocks_eq, blocks_labelled⟩ :=
    exists_mapM_eq_ok fun group (_ : group ∈ context.graph.constantsGroups) =>
      exists_constantsBlocks covers group
  rw [constantsPage?]
  split
  · exact ⟨none, rfl, nofun⟩
  · rw [blocks_eq, ok_bind]
    refine ⟨_, rfl, ?_⟩
    rintro page ⟨⟩
    refine Content.allLabels_page (List.forall_mem_cons.mpr ⟨trivial, ?_⟩)
    intro block block_mem
    obtain ⟨group, group_mem, block_mem⟩ := List.mem_flatten.mp block_mem
    exact blocks_labelled group group_mem block block_mem

end PageContext

/-! ## All pages -/

namespace Graph

variable {graph : Graph} {options : RenderOptions} {label : String → Prop}

theorem exists_content?_constants
    (covers : CoversLabels ⟨⟨graph, options.extension⟩, .constants⟩ label) :
    ∃ content, graph.content? options .constants = .ok content ∧
      ∀ tree ∈ content, tree.AllLabels label :=
  PageContext.exists_constantsPage? covers

/-- Every page of a graph that was built is composed, unless a comment on it has no normal form. -/
theorem yields_content? (sound : Sound graph.packages graph.types) {page : Page}
    (covers : CoversLabels ⟨⟨graph, options.extension⟩, page⟩ label) :
    Yields (fun content => ∀ tree ∈ content, tree.AllLabels label)
      (graph.content? options page) := by
  cases page with
  | package name =>
      rw [content?]
      cases found : graph.package? name with
      | none => exact .ok nofun
      | some decl =>
          refine (PageContext.yields_packagePage covers decl).bind ?_
          intro content content_labelled
          refine .pure ?_
          rintro tree ⟨⟩
          exact content_labelled
  | type name =>
      rw [content?]
      cases found : graph.type? name with
      | none => exact .ok nofun
      | some decl =>
          have decl_mem : decl ∈ graph.types := (mem_of_findType? found).1
          let context : PageContext := ⟨options, ⟨⟨graph, options.extension⟩, .type name⟩⟩
          refine (context.yields_typePage sound covers decl_mem).bind ?_
          intro content content_labelled
          refine .pure ?_
          rintro tree ⟨⟩
          exact content_labelled
  | constants =>
      obtain ⟨content, content_eq, content_labelled⟩ := exists_content?_constants covers
      rw [content_eq]
      exact .ok content_labelled

end Graph
end RefDocs
