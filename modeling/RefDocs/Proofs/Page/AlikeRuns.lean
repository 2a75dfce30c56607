import RefDocs.Proofs.Compose.AlikePages
import RefDocs.Proofs.Page.Generated

/-!
# Runs that are alike

A run over one of two graphs whose declarations are mentioned alike writes the same pages under the
same paths and fails on the same pages, unless a deprecation notice differs.
-/

namespace RefDocs
namespace Graph

/-- The page of a run, under composition. -/
def pageContext (graph : Graph) (options : RenderOptions) (page : Page) : PageContext :=
  ⟨options, ⟨⟨graph, options.extension⟩, page⟩⟩

variable {graph graph' : Graph} {options : RenderOptions} {page : Page}

/-- The page of a known type has the same deprecation notices in two graphs. -/
def SameNotices (graph graph' : Graph) (options : RenderOptions) (page : Page) : Prop :=
  ∀ name decl decl', page = .type name → graph.type? name = some decl → decl.included = true →
    graph'.type? name = some decl' →
      (graph.pageContext options page).notices decl = (graph.pageContext options page).notices decl'

namespace MentionsAlike

theorem hasConstants_eq (mentions : graph.MentionsAlike options graph') :
    graph.hasConstants = graph'.hasConstants :=
  any_eq_of_forall₂ mentions.forall₂_knownTypes fun _ _ listed => by
    rw [listed.isEmpty_constants_eq]

theorem pages_eq (mentions : graph.MentionsAlike options graph') :
    graph.pages options = graph'.pages options := by
  have packages_eq := map_eq_of_forall₂ mentions.forall₂_knownPackages fun _ _ listed =>
    congrArg Page.package (listed.alike.name_eq)
  have types_eq := map_eq_of_forall₂ mentions.forall₂_knownTypes fun _ _ listed =>
    congrArg Page.type (listed.alike.qualifiedName_eq)
  rw [pages, pages, packages_eq, types_eq, mentions.hasConstants_eq]

theorem pageContext (mentions : graph.MentionsAlike options graph')
    (known : (graph.pageContext options page).source.site.isKnown page = true) :
    (graph.pageContext options page).MentionsAlike (graph'.pageContext options page) where
  options_eq := rfl
  source := ⟨⟨mentions.alike, rfl⟩, rfl, known⟩
  mentions := mentions

theorem content?_eq (mentions : graph.MentionsAlike options graph')
    (known : (graph.pageContext options page).source.site.isKnown page = true)
    (same_notices : SameNotices graph graph' options page) :
    graph.content? options page = graph'.content? options page := by
  have contexts_alike := mentions.pageContext known
  cases page with
  | package name =>
      rw [content?, content?]
      rcases optionRel_iff.mp (mentions.rel_package? name) with
        ⟨found_eq, found_eq'⟩ | ⟨decl, decl', found_eq, found_eq', mentioned⟩
      · rw [found_eq, found_eq', Option.mapM_none, Option.mapM_none]
      · have decl_known : decl.included = true :=
          (congrArg (Option.any PackageDecl.included) found_eq).symm.trans known
        have page_eq := contexts_alike.packagePage_eq (mentioned.listed decl_known)
        rw [found_eq, found_eq', Option.mapM_some, Option.mapM_some]
        exact congrArg (some <$> ·) page_eq
  | type name =>
      rw [content?, content?]
      rcases optionRel_iff.mp (mentions.rel_type? name) with
        ⟨found_eq, found_eq'⟩ | ⟨decl, decl', found_eq, found_eq', mentioned⟩
      · rw [found_eq, found_eq', Option.mapM_none, Option.mapM_none]
      · have decl_known : decl.included = true :=
          (congrArg (Option.any TypeDecl.included) found_eq).symm.trans known
        have page_eq := contexts_alike.typePage_eq (mentioned.listed decl_known)
          (same_notices name decl decl' rfl found_eq decl_known found_eq')
        rw [found_eq, found_eq', Option.mapM_some, Option.mapM_some]
        exact congrArg (some <$> ·) page_eq
  | constants => exact contexts_alike.constantsPage?_eq

theorem renderPage_eq (mentions : graph.MentionsAlike options graph')
    (known : (graph.pageContext options page).source.site.isKnown page = true)
    (same_notices : SameNotices graph graph' options page) :
    graph.renderPage options page = graph'.renderPage options page := by
  have sites_alike : Site.Alike ⟨graph, options.extension⟩ ⟨graph', options.extension⟩ :=
    ⟨mentions.alike, rfl⟩
  rw [renderPage, renderPage, mentions.content?_eq known same_notices, sites_alike.pagePath_eq]

/-- Where declarations are mentioned alike, a run depends on the graph only in the deprecation
notices on the pages of types. -/
theorem generate_eq (mentions : graph.MentionsAlike options graph')
    (sound : Sound graph.packages graph.types)
    (same_notices : ∀ page ∈ graph.pages options, SameNotices graph graph' options page) :
    graph.generate options = graph'.generate options := by
  have results_eq : (graph.pages options).map (graph.renderPage options) =
      (graph.pages options).map (graph'.renderPage options) :=
    List.map_congr_left fun page page_mem =>
      mentions.renderPage_eq (isKnown_of_mem_pages sound page_mem) (same_notices page page_mem)
  refine Option.ext fun generated => ?_
  rw [generate_eq_some_iff, generate_eq_some_iff, results_eq, mentions.pages_eq]

end MentionsAlike
end Graph
end RefDocs
