import RefDocs.Proofs.Compose.Pages
import RefDocs.Proofs.Content.LineBreaks
import RefDocs.Proofs.Page.Paths

/-!
# Pages with another line separator

Where no name of a declaration and no extension of a file holds a line break, no label on a page
does, so a page with carriage returns and line feeds is the page with line feeds alone, with each
line break replaced.
-/

namespace RefDocs

open Text (Unbroken inCrlf)

/-- No package, type or member has a line break in its name. -/
structure UnbrokenNames (packages : List PackageDecl) (types : List TypeDecl) : Prop where
  /-- The names of packages. -/
  packages_unbroken : ∀ package ∈ packages, Unbroken package.name
  /-- The qualified names of types. -/
  types_unbroken : ∀ decl ∈ types, Unbroken decl.qualifiedName
  /-- The simple names of types. -/
  simple_unbroken : ∀ decl ∈ types, Unbroken decl.simpleName
  /-- The names of members. -/
  members_unbroken : ∀ decl ∈ types, ∀ member ∈ decl.members, Unbroken member.name

theorem UnbrokenNames.congr {packages packages' : List PackageDecl} {types types' : List TypeDecl}
    (packages_perm : packages.Perm packages') (types_perm : types.Perm types')
    (names : UnbrokenNames packages types) : UnbrokenNames packages' types' where
  packages_unbroken package package_mem :=
    names.packages_unbroken package (packages_perm.mem_iff.mpr package_mem)
  types_unbroken decl decl_mem := names.types_unbroken decl (types_perm.mem_iff.mpr decl_mem)
  simple_unbroken decl decl_mem := names.simple_unbroken decl (types_perm.mem_iff.mpr decl_mem)
  members_unbroken decl decl_mem := names.members_unbroken decl (types_perm.mem_iff.mpr decl_mem)

/-! ## Labels on pages -/

theorem Member.unbroken_anchor {member : Member} (unbroken : Unbroken member.name) :
    Unbroken member.anchor := by
  have without_blanks (text : String) : Unbroken (withoutBlanks text) := by
    rw [Unbroken, withoutBlanks, String.toList_ofList, List.mem_filter]
    rintro ⟨-, not_blank⟩
    exact absurd not_blank (by decide)
  rw [anchor]
  split
  · exact unbroken
  · exact unbroken
  · exact unbroken
  · exact unbroken.append (by decide)
  · exact without_blanks _
  · exact without_blanks _

namespace Site

variable {site : Site}

theorem unbroken_relativeLink? (sound : Sound site.graph.packages site.graph.types)
    (names : UnbrokenNames site.graph.packages site.graph.types)
    (extension_unbroken : Unbroken site.extension) (source : Page) {decl : TypeDecl}
    (decl_mem : decl ∈ site.graph.types) :
    ∀ path ∈ site.relativeLink? source (.type decl.qualifiedName), Unbroken path :=
  not_mem_relativeLink? (by decide) sound names.packages_unbroken names.simple_unbroken
    extension_unbroken source decl_mem

end Site

theorem LinkSource.unbroken_wrap {text : String} {path? : Option String}
    (text_unbroken : Unbroken text) (path_unbroken : ∀ path ∈ path?, Unbroken path) :
    Unbroken (wrap text path?) := by
  cases path? with
  | none => exact text_unbroken
  | some path =>
      have bracket_unbroken : Unbroken "[" := by decide
      exact (((bracket_unbroken.append text_unbroken).append (by decide)).append
        (path_unbroken path rfl)).append (by decide)

/-- The labels on the pages of a graph without line breaks in names hold none. -/
theorem coversLabels_unbroken {source : LinkSource}
    (sound : Sound source.graph.packages source.graph.types)
    (names : UnbrokenNames source.graph.packages source.graph.types)
    (extension_unbroken : Unbroken source.site.extension) : CoversLabels source Unbroken where
  unbroken _ unbroken := unbroken
  name decl decl_mem member member_mem := names.members_unbroken decl decl_mem member member_mem
  anchor decl decl_mem member member_mem :=
    Member.unbroken_anchor (names.members_unbroken decl decl_mem member member_mem)
  caption decl decl_mem := by
    have name_unbroken := names.types_unbroken decl decl_mem
    rw [LinkSource.named]
    split
    · refine LinkSource.unbroken_wrap name_unbroken ?_
      rw [LinkSource.pathTo?]
      split
      · exact nofun
      · exact Site.unbroken_relativeLink? sound names extension_unbroken source.page decl_mem
    · exact name_unbroken

/-! ## Pages -/

/-- A page with each line break replaced. -/
def RenderedPage.inCrlf (rendered : RenderedPage) : RenderedPage :=
  { rendered with text := Text.inCrlf rendered.text }

namespace Graph

/-- The line separator has no part in the composition of a page. -/
theorem content?_newline (graph : Graph) (options : RenderOptions) (newline : String)
    (page : Page) :
    graph.content? { options with newline } page = graph.content? options page := rfl

theorem renderPage_crlf {graph : Graph} (sound : Sound graph.packages graph.types)
    (names : UnbrokenNames graph.packages graph.types) {options : RenderOptions}
    (extension_unbroken : Unbroken options.extension) (page : Page) :
    graph.renderPage { options with newline := "\r\n" } page =
      (graph.renderPage { options with newline := "\n" } page).map
        (Except.map RenderedPage.inCrlf) := by
  have covers : CoversLabels ⟨⟨graph, options.extension⟩, page⟩ Unbroken :=
    coversLabels_unbroken sound names extension_unbroken
  rw [renderPage, renderPage, content?_newline graph options "\r\n",
    content?_newline graph options "\n"]
  rcases (yields_content? sound covers).ok_or_markup with
    ⟨content, content_eq, labels⟩ | ⟨error, content_eq⟩
  · have text_crlf : content.elim (some "") (Content.render? "\r\n") =
        (content.elim (some "") (Content.render? "\n")).map inCrlf := by
      cases content with
      | none => rfl
      | some tree => exact Content.render?_crlf (labels tree rfl)
    rw [content_eq]
    dsimp only
    rw [text_crlf, Option.map_map, Option.map_map]
    rfl
  · rw [content_eq]
    rfl

end Graph

/-- What is written with carriage returns and line feeds is what is written with line feeds, with
each of them replaced: the text of a tree without line breaks in its labels, and the text of a page
whose declarations have no line break in their names.  Containers overflow with both separators or
with neither. -/
theorem write_and_renderPage_crlf :
    (∀ content : Content, content.UnbrokenLabels →
      content.fits "\r\n" = content.fits "\n" ∧ ∀ atLineStart,
        content.write "\r\n" atLineStart =
          ⟨Text.replaceChar '\n' "\r\n" (content.write "\n" atLineStart).text,
            (content.write "\n" atLineStart).atLineStart⟩) ∧
    ∀ (snapshot : Snapshot) (rootType : String) (graph : Graph),
      Graph.build snapshot rootType = .ok graph →
      UnbrokenNames snapshot.packages snapshot.types →
      ∀ options : RenderOptions, Unbroken options.extension → ∀ page,
        graph.renderPage { options with newline := "\r\n" } page =
          (graph.renderPage { options with newline := "\n" } page).map
            (Except.map fun rendered =>
              { rendered with text := Text.replaceChar '\n' "\r\n" rendered.text }) := by
  constructor
  · intro content labels
    exact ⟨Content.fits_crlf labels, Content.write_crlf labels⟩
  · intro snapshot rootType graph built names options extension_unbroken page
    obtain ⟨packages_eq, types_eq, sound⟩ := Graph.sound_of_build built
    have graph_names : UnbrokenNames graph.packages graph.types := by
      rw [packages_eq, types_eq]
      exact names.congr (sortByName_perm _).symm (sortByName_perm _).symm
    exact Graph.renderPage_crlf sound graph_names extension_unbroken page

/-- A notice of two lines with two lines of text in it. -/
def linedNotice : Content :=
  .container .info (some (.text "Read\nthis")) (.text "One\ntwo")

/-- A type with a member and a comment of two lines. -/
def linedSnapshot : Snapshot where
  packages := [{ name := "shop" }]
  types :=
    [{ qualifiedName := "shop.Item", simpleName := "Item", kind := .classType
       enclosing := .package "shop", members := [{ kind := .field, name := "LIMIT" }]
       doc := [.text "One\ntwo"] }]

theorem linedNotice_and_linedSnapshot_crlf :
    linedNotice.UnbrokenLabels ∧
      linedNotice.write "\r\n" true = (linedNotice.write "\n" true).inCrlf ∧
      ∃ graph : Graph, Graph.build linedSnapshot defaultRootType = .ok graph ∧
        UnbrokenNames linedSnapshot.packages linedSnapshot.types ∧ Unbroken "md" ∧
        graph.renderPage { newline := "\r\n" } (.type "shop.Item") =
          (graph.renderPage { newline := "\n" } (.type "shop.Item")).map
            (Except.map RenderedPage.inCrlf) := by
  have labels : linedNotice.UnbrokenLabels := ⟨trivial, trivial⟩
  have names : UnbrokenNames linedSnapshot.packages linedSnapshot.types :=
    ⟨by decide, by decide, by decide, by decide⟩
  refine ⟨labels, (write_and_renderPage_crlf.1 _ labels).2 true, _, rfl, names, by decide, ?_⟩
  exact write_and_renderPage_crlf.2 linedSnapshot defaultRootType _ rfl names {} (by decide)
    (.type "shop.Item")

end RefDocs
