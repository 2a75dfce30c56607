import RefDocs.Proofs.Compose.Sections
import RefDocs.Proofs.Graph.Building

/-!
# Members on type pages

Each member of a type has one section on the page of the type, in the details of its kind, and a
row in the tables under the summary heading of its kind that links to the section.  References in
comments that lead to a member lead to its section too.
-/

namespace RefDocs

open Text (Within)

namespace PageContext

variable {context : PageContext} {decl : TypeDecl} {page : Content}

/-! ## Sections -/

namespace IsSectionOf

variable {member : Member} {content : Content}

theorem isEmpty_eq (is_section : IsSectionOf member content) : content.isEmpty = false := by
  obtain ⟨body, rfl, not_empty, -⟩ := is_section
  exact not_empty

theorem anchors_eq (is_section : IsSectionOf member content) :
    content.anchors = [member.anchor] := by
  obtain ⟨body, rfl, not_empty, sectionless⟩ := is_section
  rw [Content.anchors, Content.anchors, if_neg (by simp [not_empty]), sectionless]

theorem within (is_section : IsSectionOf member content) (newline : String) :
    Within ("<section id=\"" ++ Text.escape member.anchor ++ "\">") (content.render newline) := by
  obtain ⟨body, rfl, not_empty, -⟩ := is_section
  exact Content.within_anchored not_empty

end IsSectionOf

theorem anchors_detailsContainer {kind : MemberKind} {members : List Member}
    {detail : Member → Content}
    (sections : ∀ member ∈ members, IsSectionOf member (detail member)) :
    (detailsContainer kind (members.map detail)).anchors = members.map Member.anchor := by
  have in_body : (Content.sequence (members.map detail)).anchors = members.map Member.anchor := by
    rw [Content.anchors_sequence, List.flatMap_map,
      List.flatMap_congr fun member member_mem => (sections member member_mem).anchors_eq]
    exact List.flatMap_pure_eq_map _ _
  rw [detailsContainer, Content.anchors]
  split
  · rename_i body_empty
    rw [← in_body, Content.sectionless_of_isEmpty body_empty]
  · exact in_body

/-- The sections of members of one kind are written on a page, in the container of the details of
that kind, and nothing else in that container is a section. -/
def ShowsDetails (newline : String) (kind : MemberKind) (members : List Member) (page : Content) :
    Prop :=
  ∃ sections : List Content, List.Forall₂ IsSectionOf members sections ∧
    (detailsContainer kind sections).anchors = members.map Member.anchor ∧
    Within ((detailsContainer kind sections).render newline) (page.render newline) ∧
    ∀ member ∈ members, Within ("<section id=\"" ++ Text.escape member.anchor ++ "\">")
      ((detailsContainer kind sections).render newline)

/-- The members of a kind have rows in the tables that are written under the heading of their
summary, and their names in these are linked to their anchors. -/
def ShowsSummary (context : PageContext) (decl : TypeDecl) (kind : MemberKind) (page : Content) :
    Prop :=
  let style := context.options.tableStyle
  let newline := context.options.newline
  ∃ (key : Option String) (switcher : Bool) (tables : List (String × List (List Content))),
    Within ("### " ++ kind.layout.summaryLabel ++ newline ++ newline
        ++ TabbedTable.writeLabelled newline style key switcher kind.layout.headers
          (tables.map fun table => (table.1, Content.rowTexts style table.2)))
      (page.render newline) ∧
    ∀ member ∈ membersOf decl kind, ∃ row : List Content,
      context.summaryRow decl member = .ok (member.facts decl, row) ∧
        (∃ table ∈ tables, row ∈ table.2) ∧
        ∃ rest, .raw ("[" ++ member.name ++ "](#" ++ member.anchor ++ ")" ++ rest) ∈ row

theorem summaryName_links (own_page : context.source.page = .type decl.qualifiedName)
    (member : Member) :
    ∃ rest, context.summaryName decl member =
      "[" ++ member.name ++ "](#" ++ member.anchor ++ ")" ++ rest := by
  have link_eq : context.source.member decl.qualifiedName member.anchor member.name =
      "[" ++ member.name ++ "](#" ++ member.anchor ++ ")" := by
    have fragment : "](#" = "](" ++ "#" := by decide
    rw [LinkSource.member, if_pos own_page, Option.map_some, LinkSource.wrap, fragment]
    simp only [String.append_assoc, String.empty_append]
  have with_parameters (list : String) : ∃ rest,
      "[" ++ member.name ++ "](#" ++ member.anchor ++ ")" ++ "(" ++ list ++ ")" =
        "[" ++ member.name ++ "](#" ++ member.anchor ++ ")" ++ rest :=
    ⟨"(" ++ list ++ ")", by simp only [String.append_assoc]⟩
  rw [summaryName, link_eq]
  split
  · exact with_parameters _
  · exact with_parameters _
  · exact ⟨"", String.append_empty.symm⟩

/-- Every member is selected by a tab, if its kind has tabs at all. -/
theorem exists_tab_selects {kind : MemberKind} (facts : MemberFacts)
    (tabs_ne : kind.layout.tabs ≠ []) :
    ∃ tab ∈ kind.layout.tabs, tab.selects facts = true := by
  cases kind with
  | method =>
      cases is_static : facts.isStatic with
      | true => exact ⟨_, List.mem_cons_self, is_static⟩
      | false => exact ⟨_, List.mem_cons_of_mem _ List.mem_cons_self, by simp [is_static]⟩
  | field | constructor | enumConstant | annotationElement | property => exact absurd rfl tabs_ne

namespace IsTypePageOf

theorem anchors_perm (is_page : context.IsTypePageOf decl page) :
    page.anchors.Perm (decl.members.map Member.anchor) := by
  obtain ⟨front, top, summaries, details, rfl, top_sectionless, kinds⟩ := is_page
  have summaries_sectionless :
      ∀ block ∈ MemberKind.inPageOrder.flatMap summaries, block.Sectionless := by
    intro block block_mem
    obtain ⟨kind, -, block_mem⟩ := List.mem_flatMap.mp block_mem
    exact (kinds kind).1.sectionless block block_mem
  have details_anchors (kind : MemberKind) :
      (details kind).anchors = (membersOf decl kind).map Member.anchor := by
    obtain ⟨detail, details_eq, details_made⟩ := (kinds kind).2
    rw [details_eq]
    exact anchors_detailsContainer fun member member_mem => (details_made member member_mem).2
  have by_kind : (MemberKind.inPageOrder.flatMap (membersOf decl)).Perm decl.members :=
    flatMap_filter_perm (by decide) fun member _ => mem_inPageOrder member.kind
  rw [Content.anchors_page, List.flatMap_append, List.flatMap_append,
    List.flatMap_eq_nil_iff.mpr top_sectionless,
    List.flatMap_eq_nil_iff.mpr summaries_sectionless, List.nil_append, List.nil_append,
    List.flatMap_map, List.flatMap_congr fun kind _ => details_anchors kind, ← List.map_flatMap]
  exact by_kind.map Member.anchor

theorem showsDetails (is_page : context.IsTypePageOf decl page) {kind : MemberKind}
    (members_ne : membersOf decl kind ≠ []) (newline : String) :
    ShowsDetails newline kind (membersOf decl kind) page := by
  obtain ⟨front, top, summaries, details, rfl, -, kinds⟩ := is_page
  obtain ⟨detail, details_eq, details_made⟩ := (kinds kind).2
  have sections : ∀ member ∈ membersOf decl kind, IsSectionOf member (detail member) :=
    fun member member_mem => (details_made member member_mem).2
  obtain ⟨first, first_mem⟩ := List.exists_mem_of_ne_nil _ members_ne
  have body_written : (Content.sequence ((membersOf decl kind).map detail)).isEmpty = false := by
    rw [← Bool.not_eq_true, Content.isEmpty, Content.allEmpty_iff]
    intro all_empty
    have first_empty := all_empty (detail first) (List.mem_map_of_mem first_mem)
    rw [(sections first first_mem).isEmpty_eq] at first_empty
    cases first_empty
  refine ⟨(membersOf decl kind).map detail, ?_, anchors_detailsContainer sections, ?_, ?_⟩
  · rw [List.forall₂_map_right_iff, List.forall₂_same]
    exact sections
  · rw [← details_eq]
    refine Content.within_page_of_mem front (List.mem_append_right _ ?_) ?_
    · exact List.mem_map_of_mem (mem_inPageOrder kind)
    · rw [details_eq]
      exact body_written
  · intro member member_mem
    have section_within := (sections member member_mem).within newline
    refine section_within.trans (Within.trans ?_ (Content.within_container body_written))
    exact Content.within_sequence_of_mem (List.mem_map_of_mem member_mem)
      (sections member member_mem).isEmpty_eq

theorem showsSummary (is_page : context.IsTypePageOf decl page)
    (own_page : context.source.page = .type decl.qualifiedName) {kind : MemberKind}
    (members_ne : membersOf decl kind ≠ []) : ShowsSummary context decl kind page := by
  obtain ⟨front, top, summaries, details, rfl, -, kinds⟩ := is_page
  obtain ⟨row, block, summary_eq, summarizes⟩ := (kinds kind).1.table members_ne
  have rows_ne : (membersOf decl kind).map row ≠ [] := by simpa using members_ne
  have block_written : block.toContent.isEmpty = false := by
    rw [TabbedBlock.isEmpty_toContent summarizes.grid_eq, List.isEmpty_eq_false_iff]
    exact rows_ne
  obtain ⟨before, after, order_eq⟩ := List.append_of_mem (mem_inPageOrder kind)
  have blocks_eq (rest : List Content) :
      top ++ MemberKind.inPageOrder.flatMap summaries ++ rest =
        top ++ before.flatMap summaries ++ .raw ("### " ++ kind.layout.summaryLabel) ::
          block.toContent :: (after.flatMap summaries ++ rest) := by
    rw [order_eq, List.flatMap_append, List.flatMap_cons, summary_eq]
    simp only [List.append_assoc, List.cons_append, List.nil_append]
  have heading_unbroken : Text.Unbroken ("### " ++ kind.layout.summaryLabel) := by
    cases kind <;> decide
  have shown := Content.within_page_of_heading context.options.newline front
    (blocks_eq (MemberKind.inPageOrder.map details)) (by simp) heading_unbroken block_written
  rw [Content.render, block.write_toContent summarizes.grid_eq rows_ne, summarizes.style_eq]
    at shown
  refine ⟨_, _, _, shown, ?_⟩
  intro member member_mem
  obtain ⟨summaryRow_eq, is_row⟩ := summarizes.rows_made member member_mem
  have row_mem : row member ∈ (membersOf decl kind).map row := List.mem_map_of_mem member_mem
  refine ⟨(row member).2, ?_, ?_, ?_⟩
  · rw [summaryRow_eq, ← is_row.facts_eq]
  · refine block.exists_shown summarizes.grid_eq row_mem ?_
    rw [summarizes.tabs_eq]
    exact exists_tab_selects (row member).1
  · obtain ⟨rest, name_eq⟩ := summaryName_links own_page member
    exact ⟨rest, name_eq ▸ is_row.name_mem⟩

end IsTypePageOf
end PageContext

namespace Graph

open PageContext (membersOf ShowsDetails ShowsSummary IsTypePageOf)

variable {snapshot : Snapshot} {rootType : String} {graph : Graph}

theorem isTypePageOf_content? (built : build snapshot rootType = .ok graph)
    (options : RenderOptions) {decl : TypeDecl} (decl_mem : decl ∈ graph.types) {page : Content}
    (composed : graph.content? options (.type decl.qualifiedName) = .ok (some page)) :
    IsTypePageOf ⟨options, ⟨⟨graph, options.extension⟩, .type decl.qualifiedName⟩⟩ decl page := by
  obtain ⟨-, -, sound⟩ := sound_of_build built
  have found : graph.type? decl.qualifiedName = some decl :=
    sound.findType?_eq_some_iff.mpr ⟨decl_mem, rfl⟩
  rw [content?, found] at composed
  obtain ⟨content, content_eq, page_eq⟩ := bind_eq_ok_iff.mp composed
  obtain rfl : content = page := Option.some.inj (Except.ok.inj page_eq)
  let context : PageContext :=
    ⟨options, ⟨⟨graph, options.extension⟩, .type decl.qualifiedName⟩⟩
  exact (context.isTypePageOf_typePage sound decl).holds_of_eq_ok content_eq

/-- The sections on the page of a type are those of its members, one for each.  They are written in
the details of their kinds, and the tables under the summary headings of these kinds have rows that
link to them.  So do references that lead to a member. -/
theorem content?_shows_members (built : build snapshot rootType = .ok graph)
    (options : RenderOptions) {decl : TypeDecl} (decl_mem : decl ∈ graph.types) {page : Content}
    (composed : graph.content? options (.type decl.qualifiedName) = .ok (some page)) :
    page.anchors.Perm (decl.members.map Member.anchor) ∧
      (∀ kind, membersOf decl kind ≠ [] →
        ShowsDetails options.newline kind (membersOf decl kind) page ∧
          ShowsSummary ⟨options, ⟨⟨graph, options.extension⟩, .type decl.qualifiedName⟩⟩ decl kind
            page) ∧
      ∀ reference member, Reference.member? decl reference = some member →
        Reference.anchor decl reference = member.anchor ∧ member.anchor ∈ page.anchors ∧
          ∀ source target text, Markup.linkOwner? source target = some decl →
            Markup.linkTo source target (some reference) text =
              source.member decl.qualifiedName member.anchor text := by
  have is_page := isTypePageOf_content? built options decl_mem composed
  refine ⟨is_page.anchors_perm, ?_, ?_⟩
  · intro kind members_ne
    exact ⟨is_page.showsDetails members_ne options.newline, is_page.showsSummary rfl members_ne⟩
  · intro reference member resolves
    have member_mem : member ∈ decl.members := List.mem_of_find?_eq_some resolves
    have anchor_eq : Reference.anchor decl reference = member.anchor := by
      rw [Reference.anchor, resolves]
    refine ⟨anchor_eq, ?_, ?_⟩
    · exact is_page.anchors_perm.mem_iff.mpr (List.mem_map_of_mem member_mem)
    · intro source target text owner_eq
      unfold Markup.linkTo
      rw [owner_eq]
      dsimp only
      rw [anchor_eq]

/-- A class with a field and two methods, of which one is static. -/
def memberSnapshot : Snapshot where
  packages := [{ name := "shop" }]
  types :=
    [{ qualifiedName := "shop.Cart", simpleName := "Cart", kind := .classType
       enclosing := .package "shop"
       members :=
         [{ kind := .field, name := "size", type := some (.primitive "int" []) },
          { kind := .method, name := "of", modifiers := [.isStatic] },
          { kind := .method, name := "add"
            parameters := [{ name := "item", type := .declared "shop.Item" [] none [] }] }] }]

theorem content?_shows_cart : ∃ (graph : Graph) (page : Content),
    build memberSnapshot defaultRootType = .ok graph ∧
      graph.content? {} (.type "shop.Cart") = .ok (some page) ∧
      page.anchors.Perm ["size", "of()", "add(shop.Item)"] := by
  refine ⟨_, _, rfl, rfl, ?_⟩
  exact (@content?_shows_members memberSnapshot defaultRootType _ rfl {} _ List.mem_cons_self _
    rfl).1

end Graph
end RefDocs
