import RefDocs.Proofs.Compose.Pages
import RefDocs.Proofs.Content.Placement
import RefDocs.Proofs.Graph.Building

/-!
# Tables of constant values

The page of constant values is there exactly if some known type has a constant field.  It has one
table for each known type with constants, and in it one row for each constant; tables stand under
headings for the groups of packages that own the types.
-/

namespace RefDocs

theorem nodup_eraseDups {α : Type} [BEq α] [LawfulBEq α] (items : List α) :
    items.eraseDups.Nodup := by
  induction size : items.length using Nat.strong_induction_on generalizing items with
  | _ size_bound ih =>
      cases items with
      | nil => simp
      | cons item rest =>
          have shorter : (rest.filter fun other => !other == item).length < size_bound := by
            have := List.length_filter_le (fun other => !other == item) rest
            simp only [List.length_cons] at size
            omega
          rw [List.eraseDups_cons, List.nodup_cons, List.mem_eraseDups]
          exact ⟨by simp, ih _ shorter _ rfl⟩

/-- A field whose value is known. -/
def Member.IsConstant (member : Member) : Prop :=
  member.kind = .field ∧ member.constantValue.isSome = true

instance : DecidablePred Member.IsConstant := fun member =>
  inferInstanceAs (Decidable (member.kind = .field ∧ member.constantValue.isSome = true))

theorem TypeDecl.constants_eq (decl : TypeDecl) :
    decl.constants = decl.members.filter fun member => member.IsConstant := by
  refine List.filter_congr fun member _ => ?_
  rw [Bool.eq_iff_iff, decide_eq_true_iff, Member.IsConstant]
  simp

theorem TypeDecl.constants_ne_nil_iff {decl : TypeDecl} :
    decl.constants ≠ [] ↔ ∃ member ∈ decl.members, member.IsConstant := by
  simp [constants_eq]

/-- The group of a package: the first two segments of its name. -/
def packageGroup (package : String) : String :=
  Text.join "." ((Text.split '.' package).take 2)

namespace Graph

variable {graph : Graph}

theorem hasConstants_iff :
    graph.hasConstants = true ↔
      ∃ decl ∈ graph.knownTypes, ∃ member ∈ decl.members, member.IsConstant := by
  simp only [hasConstants, List.any_eq_true, Bool.not_eq_true', List.isEmpty_eq_false_iff,
    TypeDecl.constants_ne_nil_iff]

theorem constantsGroups_perm (graph : Graph) :
    graph.constantsGroups.Perm (graph.typesWithConstants.map graph.constantsGroup).eraseDups :=
  sortByName_perm _

theorem mem_constantsGroups_iff {group : String} :
    group ∈ graph.constantsGroups ↔
      ∃ decl ∈ graph.typesWithConstants, graph.constantsGroup decl = group := by
  rw [(constantsGroups_perm graph).mem_iff, List.mem_eraseDups, List.mem_map]

theorem nodup_constantsGroups (graph : Graph) : graph.constantsGroups.Nodup :=
  (constantsGroups_perm graph).nodup_iff.mpr (nodup_eraseDups _)

theorem isEmpty_constantsGroups (graph : Graph) :
    graph.constantsGroups.isEmpty = !graph.hasConstants := by
  have groups_iff : graph.constantsGroups.isEmpty = false ↔ graph.hasConstants = true := by
    rw [List.isEmpty_eq_false_iff_exists_mem]
    simp [mem_constantsGroups_iff, typesWithConstants, hasConstants]
  cases has : graph.hasConstants with
  | true => exact groups_iff.mpr has
  | false =>
      rw [has] at groups_iff
      simpa using groups_iff

/-- Each type with constants is in one group. -/
theorem flatMap_typesInGroup_perm (graph : Graph) :
    (graph.constantsGroups.flatMap graph.typesInGroup).Perm graph.typesWithConstants := by
  have covered : ∀ decl ∈ graph.typesWithConstants,
      graph.constantsGroup decl ∈ graph.constantsGroups := fun decl decl_mem =>
    mem_constantsGroups_iff.mpr ⟨decl, decl_mem, rfl⟩
  have groups_eq : graph.typesInGroup = fun group =>
      graph.typesWithConstants.filter fun decl => graph.constantsGroup decl = group := by
    funext group
    refine List.filter_congr fun decl _ => ?_
    rw [beq_eq_decide]
  rw [groups_eq]
  exact flatMap_filter_perm (nodup_constantsGroups graph) covered

end Graph

/-! ## The text of the page -/

namespace PageContext

variable (context : PageContext)

/-- The front matter and the heading of the page of constant values. -/
def constantsFront (newline : String) : String :=
  Text.replaceChar '\n' newline "---\ntitle: Constant Field Values\n---\n"
    ++ "# Constant Field Values" ++ newline ++ newline

/-- The table of a type: its linked name, and a row for each of its constants in order of
declaration. -/
def constantsTableText (decl : TypeDecl) : String :=
  let constants := decl.members.filter fun member => member.IsConstant
  let newline := context.options.newline
  let style := context.options.tableStyle
  tableLabel newline (context.source.named decl.qualifiedName decl.qualifiedName)
    ++ style.writeTable newline ["Modifier and Type", "Constant Field", "Value"]
      (Content.rowTexts style (constants.map (context.constantRow decl)))
    ++ newline

/-- The heading of a group and the tables of its types. -/
def constantsGroupText (group : String) (types : List TypeDecl) : String :=
  let newline := context.options.newline
  Text.replaceChar '\n' newline ("## " ++ group ++ ".*") ++ newline ++ newline
    ++ String.join (types.map context.constantsTableText)

/-- The content of a type's table. -/
def constantsTableContent (decl : TypeDecl) : Content :=
  .table ⟨context.options.tableStyle,
    some (context.source.named decl.qualifiedName decl.qualifiedName),
    some ⟨["Modifier and Type", "Constant Field", "Value"],
      decl.constants.map (context.constantRow decl)⟩⟩

/-- The blocks of a group. -/
def constantsGroupContent (group : String) : List Content :=
  .raw ("## " ++ group ++ ".*") ::
    (context.graph.typesInGroup group).map context.constantsTableContent

theorem constantsBlocks_eq_ok (group : String) :
    context.constantsBlocks group = .ok (context.constantsGroupContent group) := by
  have tables_eq : (context.graph.typesInGroup group).mapM context.constantsTable =
      .ok ((context.graph.typesInGroup group).map context.constantsTableContent) := by
    have table_eq : context.constantsTable =
        fun decl => pure (context.constantsTableContent decl) :=
      funext context.constantsTable_eq_ok
    rw [table_eq, List.mapM_pure]
    rfl
  rw [constantsBlocks, tables_eq]
  rfl

/-- The page is there if there are groups, and then consists of their blocks. -/
theorem constantsPage?_eq_ok :
    context.constantsPage? = .ok (if context.graph.constantsGroups.isEmpty then none
      else some (.page [("title", "Constant Field Values")] (.raw "# Constant Field Values" ::
        context.graph.constantsGroups.flatMap context.constantsGroupContent))) := by
  have blocks_eq : context.graph.constantsGroups.mapM context.constantsBlocks =
      .ok (context.graph.constantsGroups.map context.constantsGroupContent) := by
    have group_eq : context.constantsBlocks = fun group =>
        pure (context.constantsGroupContent group) :=
      funext context.constantsBlocks_eq_ok
    rw [group_eq, List.mapM_pure]
    rfl
  rw [constantsPage?, blocks_eq]
  split
  · rfl
  · rw [List.flatMap_def]
    rfl

theorem spacedText_constantsTableContent {decl : TypeDecl} (constants_ne : decl.constants ≠ []) :
    Content.spacedText context.options.newline (context.constantsTableContent decl) =
      context.constantsTableText decl := by
  have rows_written : (decl.constants.map (context.constantRow decl)).isEmpty = false := by
    simpa using constants_ne
  have not_empty : (context.constantsTableContent decl).isEmpty = false := rows_written
  rw [Content.spacedText, if_neg (by simp [not_empty]), constantsTableContent, Content.write,
    if_neg (by simp [rows_written]), constantsTableText, decl.constants_eq]
  simp only [Written.closed, freshLine, if_true, String.empty_append]

theorem text_constantsGroupContent (group : String) :
    String.join ((context.constantsGroupContent group).map
        (Content.spacedText context.options.newline)) =
      context.constantsGroupText group (context.graph.typesInGroup group) := by
  have heading_ne : "## " ++ group ++ ".*" ≠ "" := by simp [← String.toList_inj]
  have heading_last : ("## " ++ group ++ ".*").toList.getLast? ≠ some '\n' := by
    have chars_eq : ("## " ++ group ++ ".*").toList = ("## " ++ group ++ ".").toList ++ ['*'] := by
      simp
    rw [chars_eq, List.getLast?_concat]
    decide
  have tables_eq : ((context.graph.typesInGroup group).map context.constantsTableContent).map
        (Content.spacedText context.options.newline) =
      (context.graph.typesInGroup group).map context.constantsTableText := by
    rw [List.map_map]
    refine List.map_congr_left fun decl decl_mem => ?_
    have constants_ne : decl.constants ≠ [] := by
      simpa using List.of_mem_filter (List.mem_of_mem_filter decl_mem)
    exact context.spacedText_constantsTableContent constants_ne
  rw [constantsGroupContent, List.map_cons, String.join_cons, tables_eq, Content.spacedText,
    if_neg (by simp [Content.isEmpty_raw heading_ne]), Content.closed_raw heading_ne heading_last]
  rfl

theorem render_constantsFront (newline : String) :
    (Content.page [("title", "Constant Field Values")] [.raw "# Constant Field Values"]).render
        newline = constantsFront newline := by
  have lines_eq : Content.frontMatter [("title", "Constant Field Values")] =
      .raw "---\ntitle: Constant Field Values\n---\n" := congrArg Content.raw (by decide)
  have heading_ne : "# Constant Field Values" ≠ "" := by decide
  have heading_text := Content.text_writeAll_heading heading_ne (by decide) newline []
  rw [Content.page, Content.render, Content.write, lines_eq,
    Content.text_writeAll_cons (by decide), Content.closed_lines (by decide), List.flatMap_cons,
    List.flatMap_nil, heading_text, Content.writeAll, String.append_empty, constantsFront]
  simp only [String.append_assoc]

theorem render_constantsPage :
    (Content.page [("title", "Constant Field Values")] (.raw "# Constant Field Values" ::
        context.graph.constantsGroups.flatMap context.constantsGroupContent)).render
        context.options.newline =
      constantsFront context.options.newline ++
        String.join (context.graph.constantsGroups.map fun group =>
          context.constantsGroupText group (context.graph.typesInGroup group)) := by
  have joined_eq (groups : List String) :
      String.join ((groups.flatMap context.constantsGroupContent).map
          (Content.spacedText context.options.newline)) =
        String.join (groups.map fun group =>
          context.constantsGroupText group (context.graph.typesInGroup group)) := by
    induction groups with
    | nil => rfl
    | cons group rest ih =>
        rw [List.flatMap_cons, List.map_append, String.join_append, ih,
          context.text_constantsGroupContent, List.map_cons, String.join_cons]
  refine (Content.render_page_append _ _ [.raw "# Constant Field Values"] _).trans ?_
  rw [render_constantsFront, Content.text_writeAll_flatMap_spaced, ← List.flatMap_def, joined_eq]

/-- A page of constant values has one table for each known type with constants.  Tables stand under
headings for groups of packages: groups and, in each, types are in name order, no group is headed
twice, and a type is in the group of its owner. -/
def ListsConstants (page : Content) : Prop :=
  ∃ groups : List (String × List TypeDecl),
    (groups.map Prod.fst).Nodup ∧ InNameOrder Prod.fst groups ∧
    (∀ group ∈ groups, group.2 ≠ [] ∧ InNameOrder TypeDecl.qualifiedName group.2 ∧
      ∀ decl ∈ group.2, ∃ owner, IsOwner context.graph.types decl owner ∧
        packageGroup owner = group.1) ∧
    ((groups.flatMap Prod.snd).map TypeDecl.qualifiedName).Nodup ∧
    (∀ decl, decl ∈ groups.flatMap Prod.snd ↔ decl ∈ context.graph.types ∧
      decl.included = true ∧ ∃ member ∈ decl.members, member.IsConstant) ∧
    page.render context.options.newline = constantsFront context.options.newline ++
      String.join (groups.map fun group => context.constantsGroupText group.1 group.2)

theorem listsConstants (sound : Sound context.graph.packages context.graph.types)
    (ordered : InNameOrder TypeDecl.qualifiedName context.graph.types) :
    context.ListsConstants (.page [("title", "Constant Field Values")]
      (.raw "# Constant Field Values" ::
        context.graph.constantsGroups.flatMap context.constantsGroupContent)) := by
  let listed := fun group => (group, context.graph.typesInGroup group)
  have names_eq : (context.graph.constantsGroups.map listed).map Prod.fst =
      context.graph.constantsGroups := by
    rw [List.map_map]
    exact List.map_id _
  have types_eq : (context.graph.constantsGroups.map listed).flatMap Prod.snd =
      context.graph.constantsGroups.flatMap context.graph.typesInGroup :=
    List.flatMap_map _ _ _
  have types_perm := Graph.flatMap_typesInGroup_perm context.graph
  have group_spec : ∀ group ∈ context.graph.constantsGroups,
      context.graph.typesInGroup group ≠ [] ∧
        InNameOrder TypeDecl.qualifiedName (context.graph.typesInGroup group) ∧
        ∀ decl ∈ context.graph.typesInGroup group, ∃ owner,
          IsOwner context.graph.types decl owner ∧ packageGroup owner = group := by
    intro group group_mem
    refine ⟨?_, ((ordered.filter _).filter _).filter _, ?_⟩
    · obtain ⟨decl, decl_mem, group_eq⟩ := Graph.mem_constantsGroups_iff.mp group_mem
      exact List.ne_nil_of_mem (List.mem_filter.mpr ⟨decl_mem, beq_iff_eq.mpr group_eq⟩)
    · intro decl decl_mem
      obtain ⟨decl_listed, group_eq⟩ := List.mem_filter.mp decl_mem
      have declared := List.mem_of_mem_filter (List.mem_of_mem_filter decl_listed)
      exact ⟨context.graph.ownerName decl,
        (isOwner_iff sound.types_distinct declared).mpr rfl, beq_iff_eq.mp group_eq⟩
  refine ⟨context.graph.constantsGroups.map listed, ?_, ?_, ?_, ?_, ?_, ?_⟩
  · rw [names_eq]
    exact Graph.nodup_constantsGroups context.graph
  · have groups_ordered : InNameOrder id context.graph.constantsGroups :=
      sortByName_inNameOrder _
    exact List.pairwise_map.mpr groups_ordered
  · rw [List.forall_mem_map]
    exact group_spec
  · rw [types_eq, (types_perm.map TypeDecl.qualifiedName).nodup_iff]
    exact sound.types_distinct.sublist ((List.filter_sublist.trans List.filter_sublist).map _)
  · intro decl
    rw [types_eq, types_perm.mem_iff, Graph.typesWithConstants, List.mem_filter, Graph.knownTypes,
      List.mem_filter, Bool.not_eq_true', List.isEmpty_eq_false_iff,
      TypeDecl.constants_ne_nil_iff, and_assoc]
  · rw [render_constantsPage, List.map_map]
    rfl

end PageContext

namespace Graph

variable {snapshot : Snapshot} {rootType : String} {graph : Graph}

/-- The page of constant values is composed in any case; it has content exactly if a known type has
a constant, and is one of the pages of a run exactly if it has content and is wanted.  Each known
type with constants then has one table on it, with a row for each constant, in the group of its
owner. -/
theorem content?_lists_constants (built : build snapshot rootType = .ok graph)
    (options : RenderOptions) :
    ∃ page?, graph.content? options .constants = .ok page? ∧
      (page?.isSome = true ↔ graph.hasConstants = true) ∧
      (graph.hasConstants = true ↔
        ∃ decl ∈ graph.knownTypes, ∃ member ∈ decl.members, member.IsConstant) ∧
      (.constants ∈ graph.pages options ↔
        options.constantsPage = true ∧ page?.isSome = true) ∧
      ∀ page, page? = some page →
        PageContext.ListsConstants ⟨options, ⟨⟨graph, options.extension⟩, .constants⟩⟩ page := by
  obtain ⟨-, types_eq, sound⟩ := sound_of_build built
  have types_ordered : InNameOrder TypeDecl.qualifiedName graph.types :=
    types_eq ▸ sortByName_inNameOrder snapshot.types
  let context : PageContext := ⟨options, ⟨⟨graph, options.extension⟩, .constants⟩⟩
  have listed : (.constants ∈ graph.pages options) ↔
      options.constantsPage = true ∧ graph.hasConstants = true := by
    simp [pages]
  have composed := context.constantsPage?_eq_ok
  have groups_empty : context.graph.constantsGroups.isEmpty = !graph.hasConstants :=
    isEmpty_constantsGroups graph
  rw [groups_empty] at composed
  refine ⟨_, composed, ?_, hasConstants_iff, ?_, ?_⟩
  · cases graph.hasConstants <;> simp
  · rw [listed]
    cases graph.hasConstants <;> simp
  · intro page page_eq
    cases has : graph.hasConstants with
    | false => simp [has] at page_eq
    | true =>
        obtain rfl : _ = page := by simpa [has] using page_eq
        exact context.listsConstants sound types_ordered

/-- Types with constants in two packages of one group and in a third package, and a field without a
value. -/
def constantsSnapshot : Snapshot where
  packages := [{ name := "shop.cart" }, { name := "shop.cart.store" }, { name := "bank" }]
  types :=
    [{ qualifiedName := "shop.cart.Cart", simpleName := "Cart", kind := .classType
       enclosing := .package "shop.cart"
       members :=
         [{ kind := .field, name := "MAX", constantValue := some "10" },
          { kind := .field, name := "count" },
          { kind := .field, name := "MIN", constantValue := some "1" }] },
     { qualifiedName := "shop.cart.store.Shelf", simpleName := "Shelf", kind := .classType
       enclosing := .package "shop.cart.store"
       members := [{ kind := .field, name := "SIZE", constantValue := some "4" }] },
     { qualifiedName := "bank.Rate", simpleName := "Rate", kind := .interfaceType
       enclosing := .package "bank"
       members := [{ kind := .field, name := "BASE", constantValue := some "2" }] }]

theorem content?_lists_constants_shop : ∃ graph : Graph,
    build constantsSnapshot defaultRootType = .ok graph ∧
      graph.constantsGroups = ["bank", "shop.cart"] ∧
      (graph.typesInGroup "shop.cart").map TypeDecl.qualifiedName =
        ["shop.cart.Cart", "shop.cart.store.Shelf"] ∧
      ∃ page, graph.content? {} .constants = .ok (some page) ∧
        PageContext.ListsConstants ⟨{}, ⟨⟨graph, "md"⟩, .constants⟩⟩ page := by
  obtain ⟨page?, page_eq, has_page, -, -, lists⟩ :=
    @content?_lists_constants constantsSnapshot defaultRootType _ rfl {}
  obtain ⟨page, rfl⟩ := Option.isSome_iff_exists.mp (has_page.mpr (by decide))
  exact ⟨_, rfl, by decide, by decide, page, page_eq, lists page rfl⟩

end Graph
end RefDocs
