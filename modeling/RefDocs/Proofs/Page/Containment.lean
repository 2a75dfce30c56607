import RefDocs.Proofs.Command.Writing
import RefDocs.Proofs.Graph.Building
import RefDocs.Proofs.Page.Generated
import RefDocs.Proofs.Page.Paths
import RefDocs.Proofs.Settings.Acceptance

/-!
# Pages below the output directory

The path of a page leads up only by the simple names of types: a slash in one of them puts what
stands in front of it among the directories of the path.  A run writes below the output directory
all pages but those.
-/

namespace RefDocs

/-! ## Directories of a text -/

namespace Path

/-- The directories that a text goes through if it is followed as a path. -/
def directories (text : String) : List String :=
  (Text.split '/' text).dropLast

theorem directories_of_slash_free {text : String} (slash_free : '/' ∉ text.toList) :
    directories text = [] := by
  rw [directories, Text.split_of_not_mem slash_free]
  rfl

/-- Where two texts are joined by a mark, the name that they make together holds the mark. -/
theorem directories_joined (left right : String) :
    (directories right = [] ∧ directories (left ++ "$" ++ right) = directories left) ∨
      ∃ joined, '$' ∈ joined.toList ∧
        directories (left ++ "$" ++ right) =
          directories left ++ joined :: (directories right).tail := by
  obtain ⟨pieces, last, mark, nothing, left_eq, mark_eq, front_eq⟩ :=
    Text.exists_split_append '/' left "$"
  obtain ⟨rfl, rfl⟩ : mark = "$" ∧ nothing = [] := by
    rw [Text.split_of_not_mem (by decide)] at mark_eq
    simpa [eq_comm] using mark_eq
  obtain ⟨pieces', last', next, others, front_eq', right_eq, whole_eq⟩ :=
    Text.exists_split_append '/' (left ++ "$") right
  obtain ⟨rfl, last_eq⟩ := List.append_inj' (front_eq'.symm.trans front_eq) rfl
  obtain rfl : last' = last ++ "$" := by simpa using last_eq
  rw [directories, directories, directories, whole_eq, left_eq, right_eq,
    List.dropLast_append_of_ne_nil (by simp), List.dropLast_concat]
  cases others with
  | nil => exact .inl ⟨rfl, List.append_nil _⟩
  | cons other others =>
      refine .inr ⟨last ++ "$" ++ next, by simp, ?_⟩
      rw [List.dropLast_cons_cons, List.dropLast_cons_cons, List.tail_cons]

variable {directory left right : String}

theorem mem_directories_joined (unmarked : '$' ∉ directory.toList) :
    directory ∈ directories (left ++ "$" ++ right) ↔
      directory ∈ directories left ∨ directory ∈ (directories right).tail := by
  rcases directories_joined left right with ⟨nothing, whole_eq⟩ | ⟨joined, marked, whole_eq⟩
  · rw [whole_eq, nothing]
    simp
  · have directory_ne : directory ≠ joined := fun same => unmarked (same ▸ marked)
    rw [whole_eq, List.mem_append, List.mem_cons, or_iff_right directory_ne]

theorem mem_tail_directories_joined (unmarked : '$' ∉ directory.toList) :
    directory ∈ (directories (left ++ "$" ++ right)).tail ↔
      directory ∈ (directories left).tail ∨ directory ∈ (directories right).tail := by
  rcases directories_joined left right with ⟨nothing, whole_eq⟩ | ⟨joined, marked, whole_eq⟩
  · rw [whole_eq, nothing]
    simp
  · have directory_ne : directory ≠ joined := fun same => unmarked (same ▸ marked)
    rw [whole_eq]
    cases directories left with
    | nil => simp
    | cons first rest => simp [directory_ne]

/-- Of names that are joined by marks, each gives the directories between two of its slashes, and
the first one also what stands in front of its first slash. -/
theorem mem_directories_join (unmarked : '$' ∉ directory.toList) (first : String)
    (inner : List String) :
    directory ∈ directories (Text.join "$" (first :: inner)) ↔
      directory ∈ directories first ∨ ∃ name ∈ inner, directory ∈ (directories name).tail := by
  have inner_iff : directory ∈ (directories (Text.join "$" inner)).tail ↔
      ∃ name ∈ inner, directory ∈ (directories name).tail := by
    induction inner with
    | nil => simp [Text.join, directories, Text.split, Text.splitList]
    | cons name rest ih =>
        by_cases rest_nil : rest = []
        · simp [rest_nil, Text.join]
        · rw [Text.join_cons rest_nil, mem_tail_directories_joined unmarked, ih,
            List.exists_mem_cons_iff]
  by_cases inner_nil : inner = []
  · simp [inner_nil, Text.join]
  · rw [Text.join_cons inner_nil, mem_directories_joined unmarked, inner_iff]

end Path

/-! ## Pages that lead up -/

/-- Names, outermost first, that lead up when they are joined: a `..` stands in front of a slash of
the first one, or between two slashes of another one. -/
def NamesLeadUp : List String → Prop
  | [] => False
  | first :: inner =>
    ".." ∈ Path.directories first ∨ ∃ name ∈ inner, ".." ∈ (Path.directories name).tail

/-- The page of a type whose simple names lead up. -/
def Graph.LeadsUp (graph : Graph) : Page → Prop
  | .type name =>
    ∃ decl ∈ graph.types, decl.qualifiedName = name ∧ NamesLeadUp (graph.simpleNames decl)
  | _ => False

namespace Site

variable {site : Site}

theorem mem_directories_stem_iff (sound : Sound site.graph.packages site.graph.types)
    (page : Page) : ".." ∈ Path.directories (site.stem page) ↔ site.graph.LeadsUp page := by
  have not_up {text : String} (slash_free : '/' ∉ text.toList) : ".." ∉ Path.directories text := by
    rw [Path.directories_of_slash_free slash_free]
    exact List.not_mem_nil
  cases page with
  | package name =>
      have index_free : '/' ∉ "index".toList := by decide
      exact iff_of_false (not_up index_free) id
  | constants =>
      have constants_free : '/' ∉ "constant-values".toList := by decide
      exact iff_of_false (not_up constants_free) id
  | type name =>
      rw [stem, typeStem, Graph.LeadsUp]
      cases found : site.graph.type? name with
      | none =>
          have empty_free : '/' ∉ "".toList := by decide
          refine iff_of_false (not_up empty_free) ?_
          rintro ⟨decl, decl_mem, name_eq, -⟩
          have declared := sound.findType?_eq_some_iff.mpr ⟨decl_mem, name_eq⟩
          cases found.symm.trans declared
      | some decl =>
          obtain ⟨first, inner, names_eq⟩ :=
            List.exists_cons_of_ne_nil (site.graph.simpleNames_ne_nil decl)
          have stem_iff : ".." ∈ Path.directories (Text.join "$" (site.graph.simpleNames decl)) ↔
              NamesLeadUp (site.graph.simpleNames decl) := by
            rw [names_eq]
            exact Path.mem_directories_join (by decide) first inner
          refine stem_iff.trans ⟨fun up => ?_, ?_⟩
          · obtain ⟨decl_mem, name_eq⟩ := sound.findType?_eq_some_iff.mp found
            exact ⟨decl, decl_mem, name_eq, up⟩
          · rintro ⟨other, other_mem, name_eq, up⟩
            have declared := sound.findType?_eq_some_iff.mpr ⟨other_mem, name_eq⟩
            obtain rfl := Option.some.inj (found.symm.trans declared)
            exact up

/-- A page's path goes through its directories and those of its stem, to an entry with the
extension. -/
theorem exists_split_pagePath (extension_free : '/' ∉ site.extension.toList) (page : Page) :
    ∃ front, Text.split '/' (site.pagePath page) =
      (site.segments page).flatMap (Text.split '/') ++ Path.directories (site.stem page) ++
        [front ++ site.extension] := by
  obtain ⟨pieces, last, next, others, stem_eq, tail_eq, name_eq⟩ :=
    Text.exists_split_append '/' (site.stem page) ("." ++ site.extension)
  obtain ⟨rfl, rfl⟩ : next = "." ++ site.extension ∧ others = [] := by
    rw [Text.split_of_not_mem (by simpa using extension_free)] at tail_eq
    simpa [eq_comm] using tail_eq
  refine ⟨last ++ ".", ?_⟩
  rw [pagePath, split_joinPath, fileName_eq, String.append_assoc, name_eq, Path.directories,
    stem_eq, List.dropLast_concat, String.append_assoc, List.append_assoc]

theorem up_not_mem_segments (page : Page) :
    ".." ∉ (site.segments page).flatMap (Text.split '/') := by
  intro up_mem
  obtain ⟨segment, segment_mem, piece_mem⟩ := List.mem_flatMap.mp up_mem
  exact (mem_segments segment_mem).2 ((Text.mem_split piece_mem).2 (by decide))

/-- A path leads up exactly if the simple names in it do. -/
theorem up_mem_split_pagePath_iff (sound : Sound site.graph.packages site.graph.types)
    (bare : IsBareExtension site.extension) (page : Page) :
    ".." ∈ Text.split '/' (site.pagePath page) ↔ site.graph.LeadsUp page := by
  obtain ⟨front, split_eq⟩ := exists_split_pagePath bare.slash_free page
  have entry_ne := (bare.names_entry front).2.2.symm
  rw [split_eq, List.mem_append, List.mem_append, List.mem_singleton, or_iff_left entry_ne,
    or_iff_right (up_not_mem_segments page), mem_directories_stem_iff sound]

/-- A page that does not lead up has its place below the output directory. -/
theorem isBelow_place (sound : Sound site.graph.packages site.graph.types)
    (bare : IsBareExtension site.extension) {page : Page} (stays : ¬site.graph.LeadsUp page)
    (directory : Location) (dir : String) :
    (Path.place directory (Command.outputPath dir (site.pagePath page))).IsBelow
      (Path.place directory dir) := by
  obtain ⟨front, split_eq⟩ := exists_split_pagePath bare.slash_free page
  rw [← up_mem_split_pagePath_iff sound bare, split_eq, List.mem_append, not_or] at stays
  rw [Path.place_outputPath, split_eq]
  exact Location.isBelow_steps stays.1 (bare.names_entry front) _

/-- A path is absolute exactly if what it starts with is. -/
theorem isAbsolute_pagePath (page : Page) : Path.isAbsolute (site.pagePath page) =
    Path.isAbsolute ((site.segments page).headD (site.stem page)) := by
  rw [pagePath]
  cases segments_eq : site.segments page with
  | nil =>
      rw [fileName_eq, List.headD_nil, joinPath, List.map_nil, String.join_nil, String.empty_append]
      by_cases stem_empty : site.stem page = ""
      · rw [stem_empty, String.empty_append, Path.isAbsolute_append (by decide)]
        rfl
      · rw [String.append_assoc, Path.isAbsolute_append stem_empty]
  | cons segment rest =>
      have segment_ne : segment ≠ "" :=
        (@mem_segments site page segment (by rw [segments_eq]; exact List.mem_cons_self)).1
      rw [List.headD_cons, joinPath, List.map_cons, String.join_cons, String.append_assoc,
        String.append_assoc, Path.isAbsolute_append segment_ne]

/-- Where no name holds a slash, no path is absolute. -/
theorem isAbsolute_pagePath_eq_false (sound : Sound site.graph.packages site.graph.types)
    (names_free : site.graph.SlashFree) {page : Page} (declared : site.graph.HasPage page) :
    Path.isAbsolute (site.pagePath page) = false := by
  rw [isAbsolute_pagePath]
  apply Path.isAbsolute_of_slash_free
  cases segments_eq : site.segments page with
  | nil => exact stem_slash_free names_free page
  | cons first rest =>
      apply segments_slash_free sound names_free declared
      rw [segments_eq]
      exact List.mem_cons_self

end Site

/-- Names without a slash do not lead up. -/
theorem not_namesLeadUp {names : List String} (free : ∀ name ∈ names, '/' ∉ name.toList) :
    ¬NamesLeadUp names := by
  have no_directory {name : String} (name_mem : name ∈ names) : Path.directories name = [] :=
    Path.directories_of_slash_free (free name name_mem)
  cases names with
  | nil => exact id
  | cons first inner =>
      rintro (up_mem | ⟨name, name_mem, up_mem⟩)
      · rw [no_directory List.mem_cons_self] at up_mem
        cases up_mem
      · rw [no_directory (List.mem_cons_of_mem first name_mem)] at up_mem
        cases up_mem

namespace Graph

variable {snapshot : Snapshot} {rootType : String} {graph : Graph} {settings : Settings}

theorem not_leadsUp_of_slash_free (free : ∀ decl ∈ graph.types, '/' ∉ decl.simpleName.toList)
    (page : Page) : ¬graph.LeadsUp page := by
  cases page with
  | package name => exact id
  | constants => exact id
  | type name =>
      rintro ⟨decl, decl_mem, -, up⟩
      refine not_namesLeadUp (fun name name_mem => ?_) up
      obtain ⟨outer, outer_mem, rfl⟩ := exists_of_mem_simpleNames decl_mem name_mem
      exact free outer outer_mem

/-- A file that changes when pages of a run are written is below the output directory, or that of a
page that leads up. -/
theorem isBelow_or_leadsUp_of_changed (sound : Sound graph.packages graph.types)
    (bare : IsBareExtension settings.extension) {generated : Generated}
    (ran : graph.generate settings.renderOptions = some generated) {pages : List RenderedPage}
    (of_run : pages ⊆ generated.pages) {machine : Machine} {location : Location}
    (changed : ((Command.writePages settings pages : Attempt FileError Unit).run
      machine).2.files.text? location ≠ machine.files.text? location) :
    location.IsBelow (Path.place machine.directory settings.dir) ∨
      ∃ page ∈ pages, graph.LeadsUp page.page ∧
        Command.placeOf machine.directory settings.dir page = location := by
  obtain ⟨-, kept⟩ := Command.writePages_always machine.directory settings pages machine rfl
  rcases not_not.mp (mt (kept location) changed) with below | ⟨page, page_mem, same_place⟩
  · exact .inl below
  · obtain ⟨source, -, rendered⟩ := (mem_generate_pages ran).mp (of_run page_mem)
    obtain ⟨rfl, path_eq⟩ := renderPage_page_and_path rendered
    by_cases up : graph.LeadsUp page.page
    · exact .inr ⟨page, page_mem, up, same_place⟩
    · left
      rw [← same_place, Command.placeOf, path_eq]
      exact @Site.isBelow_place ⟨graph, settings.extension⟩ sound bare page.page up _ _

/-- In a graph that was built, the path of a page leads up exactly if the simple names of its type
do, and it is absolute exactly if what it starts with is; without slashes in names it is neither.
Any other page has its place below the output directory.  Whichever pages of a run are written, and
however that ends, a file outside the output directory is changed only if it is that of a page that
leads up. -/
theorem up_mem_split_pagePath_iff_and_writePages_contained
    (built : build snapshot rootType = .ok graph) (accepted : settings.fault? = none) :
    let site : Site := ⟨graph, settings.extension⟩
    (∀ page, (".." ∈ Text.split '/' (site.pagePath page) ↔ graph.LeadsUp page) ∧
      Path.isAbsolute (site.pagePath page) =
        Path.isAbsolute ((site.segments page).headD (site.stem page)) ∧
      (¬graph.LeadsUp page → ∀ directory dir,
        (Path.place directory (Command.outputPath dir (site.pagePath page))).IsBelow
          (Path.place directory dir))) ∧
    ((∀ decl ∈ graph.types, '/' ∉ decl.simpleName.toList) → ∀ page, ¬graph.LeadsUp page) ∧
    (graph.SlashFree → ∀ page ∈ graph.pages settings.renderOptions,
      Path.isAbsolute (site.pagePath page) = false) ∧
    ∀ generated ∈ graph.generate settings.renderOptions, ∀ pages ⊆ generated.pages,
      ∀ machine location,
      ((Command.writePages settings pages : Attempt FileError Unit).run machine).2.files.text?
          location ≠ machine.files.text? location →
        location.IsBelow (Path.place machine.directory settings.dir) ∨
          ∃ page ∈ pages, graph.LeadsUp page.page ∧
            Command.placeOf machine.directory settings.dir page = location := by
  intro site
  obtain ⟨-, -, sound⟩ := sound_of_build built
  have bare : IsBareExtension settings.extension := ((settings.fault?_eq_none_iff).mp accepted).1
  refine ⟨fun page => ⟨?_, ?_, ?_⟩, not_leadsUp_of_slash_free, ?_, ?_⟩
  · exact @Site.up_mem_split_pagePath_iff site sound bare page
  · exact Site.isAbsolute_pagePath page
  · exact @Site.isBelow_place site sound bare page
  · intro names_free page page_mem
    have declared := Site.hasPage_of_isKnown (isKnown_of_mem_pages sound page_mem)
    exact @Site.isAbsolute_pagePath_eq_false site sound names_free page declared
  · intro generated ran pages of_run machine location changed
    exact isBelow_or_leadsUp_of_changed sound bare ran of_run changed

/-- A type whose simple name leads up. -/
def climbingSnapshot : Snapshot where
  packages := [{ name := "shop" }]
  types :=
    [{ qualifiedName := "shop.Evil", simpleName := "../../evil", kind := .classType
       enclosing := .package "shop" }]

theorem leadsUp_climbing : ∃ graph : Graph,
    build climbingSnapshot defaultRootType = .ok graph ∧
      Settings.fault? { dir := "site" } = none ∧
      graph.LeadsUp (.type "shop.Evil") ∧
      (Path.place [] (Command.outputPath "site"
        (Site.pagePath ⟨graph, "md"⟩ (.package "shop")))).IsBelow (Path.place [] "site") := by
  refine ⟨_, rfl, rfl, ?_⟩
  have paths := (@up_mem_split_pagePath_iff_and_writePages_contained climbingSnapshot
    defaultRootType _ { dir := "site" } rfl rfl).1
  exact ⟨(paths (.type "shop.Evil")).1.mp (by decide), (paths (.package "shop")).2.2 id [] "site"⟩

/-- The page of a type can be written outside the output directory. -/
theorem not_isBelow_climbing : ∃ graph : Graph,
    build climbingSnapshot defaultRootType = .ok graph ∧
      Settings.fault? { dir := "site" } = none ∧
      .type "shop.Evil" ∈ graph.pages {} ∧
      ".." ∈ Text.split '/' (Site.pagePath ⟨graph, "md"⟩ (.type "shop.Evil")) ∧
      ¬Location.IsBelow ["evil.md"] (Path.place [] "site") ∧
      ∃ generated ∈ graph.generate {},
        let outcome := (Command.writePages { dir := "site" } generated.pages :
          Attempt FileError Unit).run { files := ⟨[]⟩ }
        outcome.1 = .ok () ∧ (outcome.2.files.text? ["evil.md"]).isSome = true := by
  refine ⟨_, rfl, rfl, ?_, ?_, ?_, ?_⟩
  · decide
  · decide
  · decide
  · decide +kernel

end Graph
end RefDocs
