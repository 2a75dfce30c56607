import RefDocs.Generate
import RefDocs.Proofs.Graph.Soundness
import RefDocs.Proofs.Outcome

/-!
# Rendered and failed pages

A run renders each of its pages, all of them known, or counts it as failed, unless a container on
one of them overflows.  A rendered page has the path of the page that it is.
-/

namespace RefDocs

theorem mem_partitionResults_fst {Success Failure : Type} {results : List (Except Failure Success)}
    {success : Success} : success ∈ (partitionResults results).1 ↔ .ok success ∈ results := by
  induction results with
  | nil => simp [partitionResults]
  | cons result rest ih =>
      cases result with
      | error failure => simp [partitionResults, ih]
      | ok value => simp [partitionResults, ih]

theorem length_partitionResults_snd {Success Failure : Type}
    (results : List (Except Failure Success)) :
    (partitionResults results).2.length = results.countP fun result => !result.isOk := by
  induction results with
  | nil => rfl
  | cons result rest ih =>
      cases result with
      | error failure =>
          rw [List.countP_cons_of_pos rfl, ← ih]
          rfl
      | ok value =>
          rw [List.countP_cons_of_neg (by simp [Except.isOk, Except.toBool]), ← ih]
          rfl

theorem length_partitionResults_add {Success Failure : Type}
    (results : List (Except Failure Success)) :
    (partitionResults results).1.length + (partitionResults results).2.length = results.length := by
  induction results with
  | nil => rfl
  | cons result rest ih =>
      cases result with
      | error failure =>
          simp only [partitionResults, List.length_cons]
          omega
      | ok value =>
          simp only [partitionResults, List.length_cons]
          omega

namespace Graph

variable {graph : Graph} {options : RenderOptions}

/-- The pages of a run are known. -/
theorem isKnown_of_mem_pages (sound : Sound graph.packages graph.types) {page : Page}
    (page_mem : page ∈ graph.pages options) :
    Site.isKnown ⟨graph, options.extension⟩ page = true := by
  rw [pages, List.append_assoc, List.mem_append, List.mem_append] at page_mem
  rcases page_mem with package_mem | type_mem | constants_mem
  · obtain ⟨decl, decl_mem, rfl⟩ := List.mem_map.mp package_mem
    obtain ⟨decl_mem, known⟩ := List.mem_filter.mp decl_mem
    have found : graph.package? decl.name = some decl :=
      (find?_name_eq_some_iff sound.packages_distinct).mpr ⟨decl_mem, rfl⟩
    exact (congrArg (Option.any PackageDecl.included) found).trans known
  · obtain ⟨decl, decl_mem, rfl⟩ := List.mem_map.mp type_mem
    obtain ⟨decl_mem, known⟩ := List.mem_filter.mp decl_mem
    have found : graph.type? decl.qualifiedName = some decl :=
      sound.findType?_eq_some_iff.mpr ⟨decl_mem, rfl⟩
    exact (congrArg (Option.any TypeDecl.included) found).trans known
  · split at constants_mem
    · obtain rfl := List.mem_singleton.mp constants_mem
      rfl
    · cases constants_mem

/-! ## One page -/

/-- A page that is composed is rendered unless a container on it overflows. -/
theorem renderPage_of_composed {page : Page} {content? : Option Content}
    (composed : graph.content? options page = .ok content?) :
    graph.renderPage options page =
      (content?.elim (some "") (Content.render? options.newline)).map fun text =>
        .ok ⟨page, Site.pagePath ⟨graph, options.extension⟩ page, text⟩ := by
  rw [renderPage, composed]

theorem renderPage_of_fault {page : Page} {fault : PageFault}
    (fails : graph.content? options page = .error fault) :
    graph.renderPage options page = some (.error ⟨page.label, fault⟩) := by
  rw [renderPage, fails]

theorem renderPage_page_and_path {page : Page} {rendered : RenderedPage}
    (rendered_eq : graph.renderPage options page = some (.ok rendered)) :
    rendered.page = page ∧ rendered.path = Site.pagePath ⟨graph, options.extension⟩ page := by
  cases composed : graph.content? options page with
  | error fault => simp [renderPage_of_fault composed] at rendered_eq
  | ok content? =>
      rw [renderPage_of_composed composed] at rendered_eq
      obtain ⟨text, -, page_eq⟩ := Option.map_eq_some_iff.mp rendered_eq
      obtain rfl := Except.ok.inj page_eq
      exact ⟨rfl, rfl⟩

/-! ## All pages -/

/-- A page can be rendered. -/
def renders (graph : Graph) (options : RenderOptions) (page : Page) : Bool :=
  (graph.renderPage options page).any Except.isOk

theorem generate_eq_some_iff {generated : Generated} :
    graph.generate options = some generated ↔
      ∃ results, (graph.pages options).map (graph.renderPage options) = results.map some ∧
        ⟨(partitionResults results).1, (partitionResults results).2⟩ = generated := by
  simp only [generate, Option.bind_eq_bind, Option.bind_eq_some_iff, mapM_eq_some_iff,
    Option.pure_def, Option.some_inj]

/-- A run is broken off exactly if rendering one of its pages is. -/
theorem generate_eq_none_iff : graph.generate options = none ↔
    ∃ page ∈ graph.pages options, graph.renderPage options page = none := by
  rw [← mapM_eq_none_iff, generate]
  cases (graph.pages options).mapM (graph.renderPage options) <;> simp

section Run

variable {generated : Generated}

theorem mem_generate_pages (ran : graph.generate options = some generated)
    {rendered : RenderedPage} :
    rendered ∈ generated.pages ↔
      ∃ page ∈ graph.pages options, graph.renderPage options page = some (.ok rendered) := by
  obtain ⟨results, results_eq, rfl⟩ := generate_eq_some_iff.mp ran
  rw [mem_partitionResults_fst, ← List.mem_map, results_eq,
    List.mem_map_of_injective (Option.some_injective _)]

/-- The failures of a run are counted page by page. -/
theorem length_generate_errors (ran : graph.generate options = some generated) :
    generated.errors.length =
      (graph.pages options).countP fun page => !graph.renders options page := by
  obtain ⟨results, results_eq, rfl⟩ := generate_eq_some_iff.mp ran
  have counted : (graph.pages options).countP (fun page => !graph.renders options page) =
      ((graph.pages options).map (graph.renderPage options)).countP
        fun outcome => !outcome.any Except.isOk := by
    rw [List.countP_map]
    rfl
  rw [counted, results_eq, List.countP_map]
  exact length_partitionResults_snd results

/-- Each page of a run is rendered or fails. -/
theorem length_generate_add (ran : graph.generate options = some generated) :
    generated.pages.length + generated.errors.length = (graph.pages options).length := by
  obtain ⟨results, results_eq, rfl⟩ := generate_eq_some_iff.mp ran
  have results_length := congrArg List.length results_eq
  rw [List.length_map, List.length_map] at results_length
  exact (length_partitionResults_add results).trans results_length.symm

end Run
end Graph
end RefDocs
