import RefDocs.Proofs.Compose.Pages
import RefDocs.Proofs.Content.Placement
import RefDocs.Proofs.Graph.Building
import RefDocs.Proofs.Graph.PackageTree

/-!
# Tables on package pages

The page of a package ends with the types that the package owns, in a table for each kind, and with
a table of the packages around it.
-/

namespace RefDocs

namespace PageContext

variable (context : PageContext)

instance : Nonempty (TypeKind × List Content) :=
  ⟨⟨.classType, []⟩⟩

/-- The tables of a package's contents: for each kind of which there are types, one with a row for
each of them, under the label of the kind. -/
def contentsTables (types : List TypeDecl) (row : TypeDecl → List Content) :
    List (String × List (List Content)) :=
  (contentsTabs.map fun tab =>
    (tab.label, (types.filter fun decl => tab.selects decl.kind).map row)).filter
      fun table => !table.2.isEmpty

/-- Each type has one row in the tables of the contents. -/
theorem flatMap_contentsTables_perm (types : List TypeDecl) (row : TypeDecl → List Content) :
    ((contentsTables types row).flatMap Prod.snd).Perm (types.map row) := by
  have kinds_distinct : [TypeKind.interfaceType, .classType, .enumType, .recordType,
      .annotationType].Nodup := by decide
  have by_kind := (@flatMap_filter_perm _ _ _ TypeDecl.kind _ kinds_distinct types
    (by intro decl _; cases decl.kind <;> decide)).map row
  have tables_eq : (contentsTables types row).flatMap Prod.snd =
      contentsTabs.flatMap fun tab =>
        (types.filter fun decl => tab.selects decl.kind).map row := by
    have rows_eq : (contentsTables types row).map Prod.snd =
        (contentsTabs.map fun tab =>
          (types.filter fun decl => tab.selects decl.kind).map row).filter
            fun rows => !rows.isEmpty := by
      rw [contentsTables, List.filter_map, List.map_map, List.filter_map]
      rfl
    rw [List.flatMap_def, rows_eq, List.flatten_filter_not_isEmpty, List.flatMap_def]
  rw [tables_eq, ← List.map_flatMap]
  exact by_kind

theorem contentsTables_ne_nil {types : List TypeDecl} (types_ne : types ≠ [])
    (row : TypeDecl → List Content) : contentsTables types row ≠ [] := by
  intro tables_nil
  have no_rows := flatMap_contentsTables_perm types row
  rw [tables_nil, List.flatMap_nil, List.nil_perm, List.map_eq_nil_iff] at no_rows
  exact types_ne no_rows

/-- The block with the contents of a package. -/
def contentsBlock (style : TableStyle) (rows : List (TypeKind × List Content)) :
    TabbedBlock TypeKind where
  style := style
  defaultLabel := "All Types"
  key := some "package-contents"
  tabs := contentsTabs
  grid := some ⟨["Class", "Description"], rows⟩

theorem shownTables_contentsBlock (style : TableStyle) {types : List TypeDecl}
    (types_ne : types ≠ []) (row : TypeDecl → List Content) :
    let block := contentsBlock style (types.map fun decl => (decl.kind, row decl))
    block.spread.shownTables (types.map row) = contentsTables types row ∧
      block.spread.hasSwitcher (types.map row) =
        decide ((contentsTables types row).length > 1) := by
  intro block
  have matching_eq : TabbedTable.matching block.spread.tabs (types.map row) =
      contentsTables types row := by
    have rows_eq : types.map row = (types.map fun decl => (decl.kind, row decl)).map Prod.snd := by
      rw [List.map_map]
      rfl
    rw [rows_eq, block.matching_spread rfl, contentsTables]
    simp only [List.filter_map, List.map_map, Function.comp_def]
    rfl
  have tables_ne := contentsTables_ne_nil types_ne row
  rw [TabbedTable.shownTables, TabbedTable.hasSwitcher, matching_eq]
  refine ⟨?_, rfl⟩
  generalize contentsTables types row = tables at tables_ne
  cases tables with
  | nil => exact absurd rfl tables_ne
  | cons table rest => rfl

/-! ## The end of the page -/

/-- What is written under the heading of a package's contents. -/
def contentsText (newline : String) (style : TableStyle)
    (tables : List (String × List (List Content))) : String :=
  if tables.isEmpty then "No types found." ++ newline
  else
    TabbedTable.writeLabelled newline style (some "package-contents") (tables.length > 1)
      ["Class", "Description"]
      (tables.map fun table => (table.1, Content.rowTexts style table.2))

/-- The heading and the table of the packages around one; nothing without any. -/
def relatedText (newline : String) (style : TableStyle) (rows : List (List Content)) : String :=
  if rows.isEmpty then ""
  else
    "### Related" ++ newline ++ newline
      ++ style.writeTable newline ["Package", "Description"] (Content.rowTexts style rows)
      ++ newline

/-- A page ends with tables that have one row for each of the types, by kind, and a table with one
row for each of the other packages. -/
def EndsInTables (package : String) (types : List TypeDecl) (others : List PackageDecl)
    (page : Content) : Prop :=
  let newline := context.options.newline
  let style := context.options.tableStyle
  ∃ (row : TypeDecl → List Content) (related : PackageDecl → List Content) (front : String),
    (∀ type ∈ types, context.contentsRow package type = .ok (type.kind, row type)) ∧
    ((contentsTables types row).flatMap Prod.snd).Perm (types.map row) ∧
    (∀ other ∈ others, context.relatedRow other = .ok (related other)) ∧
    page.render newline = front ++ "### Package Contents" ++ newline ++ newline
      ++ contentsText newline style (contentsTables types row) ++ newline
      ++ relatedText newline style (others.map related)

theorem yields_packageContents_rows (package : String) :
    Yields (fun contents => ∃ row : TypeDecl → List Content,
        contents = (contentsBlock context.options.tableStyle
          ((context.graph.typesInPackage package).map fun decl =>
            (decl.kind, row decl))).toContent ∧
        ∀ decl ∈ context.graph.typesInPackage package,
          context.contentsRow package decl = .ok (decl.kind, row decl))
      (context.packageContents package) := by
  have row_yields (decl : TypeDecl) :
      Yields (fun row => row.1 = decl.kind ∧ row.2.length = 2)
        (context.contentsRow package decl) := by
    refine (context.yields_summary decl.doc).bind ?_
    intro summary _
    exact .pure ⟨rfl, rfl⟩
  refine (Yields.mapM_map fun decl (_ : decl ∈ context.graph.typesInPackage package) =>
    row_yields decl).bind ?_
  rintro _ ⟨make, rfl, rows_made⟩
  have rows_eq : (context.graph.typesInPackage package).map make =
      (context.graph.typesInPackage package).map fun decl => (decl.kind, (make decl).2) := by
    refine List.map_congr_left ?_
    intro decl decl_mem
    rw [← (rows_made decl decl_mem).2.1]
  rw [rows_eq, blockOf_eq_ok rfl]
  · refine .ok ⟨fun decl => (make decl).2, rfl, ?_⟩
    intro decl decl_mem
    rw [(rows_made decl decl_mem).1, ← (rows_made decl decl_mem).2.1]
  · rw [List.forall_mem_map]
    exact fun decl decl_mem => (rows_made decl decl_mem).2.2

theorem yields_relatedPackages_rows (decl : PackageDecl) :
    let others :=
      (context.graph.parentPackage? decl).toList ++ context.graph.childPackages decl.name
    Yields (fun table => ∃ related : PackageDecl → List Content,
        table = .table ⟨context.options.tableStyle, none,
          some ⟨["Package", "Description"], others.map related⟩⟩ ∧
        ∀ other ∈ others, context.relatedRow other = .ok (related other))
      (context.relatedPackages decl) := by
  intro others
  have row_yields (other : PackageDecl) :
      Yields (fun row => row.length = 2) (context.relatedRow other) := by
    refine (context.yields_summary other.doc).bind ?_
    intro summary _
    exact .pure rfl
  refine (Yields.mapM_map fun other (_ : other ∈ others) => row_yields other).bind ?_
  rintro _ ⟨related, rfl, rows_made⟩
  have rows_fit : ∀ row ∈ others.map related, row.length = ["Package", "Description"].length := by
    rw [List.forall_mem_map]
    exact fun other other_mem => (rows_made other other_mem).2
  rw [tableOf_eq_ok rows_fit]
  exact .ok ⟨related, rfl, fun other other_mem => (rows_made other other_mem).1⟩

theorem closed_contents (newline : String) (style : TableStyle) (types : List TypeDecl)
    (row : TypeDecl → List Content) :
    let contents := (contentsBlock style (types.map fun decl => (decl.kind, row decl))).toContent
    let shown := if contents.isEmpty then .text "No types found." else contents
    shown.isEmpty = false ∧ (shown.write newline true).closed newline =
      contentsText newline style (contentsTables types row) := by
  intro contents shown
  let rows := types.map fun decl => (decl.kind, row decl)
  have grid_eq : (contentsBlock style rows).grid = some ⟨["Class", "Description"], rows⟩ := rfl
  have contents_empty : contents.isEmpty = rows.isEmpty := TabbedBlock.isEmpty_toContent grid_eq
  by_cases types_nil : types = []
  · subst types_nil
    have closed_eq := Content.closed_run ⟨"No types found.", true⟩ (by decide) (by decide) newline
    exact ⟨rfl, closed_eq⟩
  · have rows_ne : rows ≠ [] := by simpa [rows] using types_nil
    have rows_written : rows.isEmpty = false := List.isEmpty_eq_false_iff.mpr rows_ne
    have shown_eq : shown = contents := if_neg (by simp [contents_empty, rows_written])
    have cells_eq : rows.map Prod.snd = types.map row := by
      rw [List.map_map]
      rfl
    obtain ⟨tables_eq, switcher_eq⟩ := shownTables_contentsBlock style types_nil row
    have tables_ne := contentsTables_ne_nil types_nil row
    have written_eq := TabbedBlock.write_toContent grid_eq rows_ne newline
    rw [cells_eq, tables_eq, switcher_eq] at written_eq
    rw [shown_eq, contents_empty, contentsText, if_neg (by simpa using tables_ne)]
    exact ⟨rows_written, by rw [written_eq]; rfl⟩

theorem text_related (newline : String) (style : TableStyle) (rows : List (List Content)) :
    let table := Content.table ⟨style, none, some ⟨["Package", "Description"], rows⟩⟩
    (Content.writeAll newline
      (Content.spaced (if table.isEmpty then .empty else .raw "### Related")
        ++ (Content.spaced table ++ [])) true).text = relatedText newline style rows := by
  intro table
  rw [relatedText]
  cases rows with
  | nil => rfl
  | cons first rest =>
      have table_written : table.isEmpty = false := rfl
      have table_eq : (table.write newline true).closed newline =
          style.writeTable newline ["Package", "Description"]
            (Content.rowTexts style (first :: rest)) := by
        simp [table, Content.write, Written.closed, freshLine]
      rw [table_written, if_neg Bool.false_ne_true,
        Content.text_writeAll_heading (by decide) (by decide), Content.text_writeAll_spaced,
        table_written, if_neg Bool.false_ne_true, table_eq, Content.writeAll, String.append_empty,
        List.isEmpty_cons, if_neg Bool.false_ne_true]
      simp only [String.append_assoc]

theorem endsInTables_packagePage (decl : PackageDecl) :
    Yields (context.EndsInTables decl.name (context.graph.typesInPackage decl.name)
        ((context.graph.parentPackage? decl).toList ++ context.graph.childPackages decl.name))
      (context.packagePage decl) := by
  refine (context.yields_description decl.doc).bind ?_
  intro description _
  refine (context.yields_packageContents_rows decl.name).bind ?_
  rintro _ ⟨row, rfl, rows_made⟩
  refine (context.yields_relatedPackages_rows decl).bind ?_
  rintro _ ⟨related, rfl, related_made⟩
  let newline := context.options.newline
  let upper : List Content := [.raw ("# Package: " ++ decl.name), .raw "---",
    .codeBlock (context.codeAnnotations decl.annotations ++ "package " ++ decl.name ++ ";"),
    .raw description]
  refine .pure ⟨row, related, (Content.page [("title", decl.name)] upper).render newline,
    rows_made, flatMap_contentsTables_perm _ _, related_made, ?_⟩
  obtain ⟨contents_written, contents_eq⟩ := closed_contents newline context.options.tableStyle
    (context.graph.typesInPackage decl.name) row
  refine (Content.render_page_append newline _ upper _).trans ?_
  simp only [List.flatMap_cons, List.flatMap_nil]
  rw [Content.text_writeAll_heading (by decide) (by decide), Content.text_writeAll_spaced,
    text_related, contents_written, if_neg Bool.false_ne_true, contents_eq]
  simp only [String.append_assoc]
  rfl

end PageContext

namespace Graph

variable {snapshot : Snapshot} {rootType : String} {graph : Graph}

/-- The page of a known package ends with tables that have one row for each known type that the
package owns, by kind and in name order, and a table with one row for its known parent, if it has
one, and for each of its known children. -/
theorem content?_lists_package (built : build snapshot rootType = .ok graph)
    (options : RenderOptions) {decl : PackageDecl} (decl_mem : decl ∈ graph.packages)
    (known : decl.included = true) {page : Content}
    (composed : graph.content? options (.package decl.name) = .ok (some page)) :
    ∃ (types : List TypeDecl) (parent? : Option PackageDecl) (children : List PackageDecl),
      (types.map TypeDecl.qualifiedName).Nodup ∧ InNameOrder TypeDecl.qualifiedName types ∧
      (∀ type, type ∈ types ↔
        type ∈ graph.types ∧ type.included = true ∧ IsOwner graph.types type decl.name) ∧
      (∀ parent, parent? = some parent ↔
        parent ∈ graph.packages ∧ parent.included = true ∧ IsChildName parent.name decl.name) ∧
      (children.map PackageDecl.name).Nodup ∧
      (∀ child, child ∈ children ↔
        child ∈ graph.packages ∧ child.included = true ∧ IsChildName decl.name child.name) ∧
      PageContext.EndsInTables ⟨options, ⟨⟨graph, options.extension⟩, .package decl.name⟩⟩
        decl.name types (parent?.toList ++ children) page := by
  obtain ⟨-, types_eq, sound⟩ := sound_of_build built
  have types_ordered : InNameOrder TypeDecl.qualifiedName graph.types :=
    types_eq ▸ sortByName_inNameOrder snapshot.types
  have found : graph.package? decl.name = some decl :=
    (find?_name_eq_some_iff sound.packages_distinct).mpr ⟨decl_mem, rfl⟩
  rw [content?, found] at composed
  obtain ⟨content, content_eq, page_eq⟩ := bind_eq_ok_iff.mp composed
  obtain rfl : content = page := Option.some.inj (Except.ok.inj page_eq)
  let context : PageContext := ⟨options, ⟨⟨graph, options.extension⟩, .package decl.name⟩⟩
  refine ⟨graph.typesInPackage decl.name, graph.parentPackage? decl,
    graph.childPackages decl.name, nodup_typesInPackage sound _, types_ordered.filter _,
    fun type => mem_typesInPackage_iff sound, ?_, nodup_childPackages sound _,
    fun child => mem_childPackages_iff sound decl_mem known, ?_⟩
  · intro parent
    rw [parentPackage?_eq_some_iff sound, known]
    simp
  · exact (context.endsInTables_packagePage decl).holds_of_eq_ok content_eq

/-- A package with a class, an interface in it and an enum, between a parent and a child. -/
def packageSnapshot : Snapshot where
  packages := [{ name := "shop" }, { name := "shop.cart" }, { name := "shop.cart.store" }]
  types :=
    [{ qualifiedName := "shop.cart.Cart", simpleName := "Cart", kind := .classType
       enclosing := .package "shop.cart" },
     { qualifiedName := "shop.cart.Cart.View", simpleName := "View", kind := .interfaceType
       enclosing := .type "shop.cart.Cart" },
     { qualifiedName := "shop.cart.Size", simpleName := "Size", kind := .enumType
       enclosing := .package "shop.cart" }]

theorem content?_lists_cart : ∃ (graph : Graph) (page : Content) (types : List TypeDecl)
    (parent? : Option PackageDecl) (children : List PackageDecl),
    build packageSnapshot defaultRootType = .ok graph ∧
      graph.content? {} (.package "shop.cart") = .ok (some page) ∧
      PageContext.EndsInTables ⟨{}, ⟨⟨graph, "md"⟩, .package "shop.cart"⟩⟩ "shop.cart" types
        (parent?.toList ++ children) page := by
  obtain ⟨types, parent?, children, -, -, -, -, -, -, ends⟩ :=
    @content?_lists_package packageSnapshot defaultRootType _ rfl {} { name := "shop.cart" }
      (List.mem_cons_of_mem _ List.mem_cons_self) rfl _ rfl
  exact ⟨_, _, types, parent?, children, rfl, rfl, ends⟩

end Graph
end RefDocs
