import RefDocs.Command.Run
import RefDocs.Proofs.Command.Loading
import RefDocs.Proofs.Command.Writing
import RefDocs.Proofs.Page.Generated
import RefDocs.Proofs.Text.NameOrder

/-!
# Builds

A build stops with the files untouched, or writes the pages that can be rendered and counts the
others.
-/

namespace RefDocs
namespace Command

/-- Loading the settings of a request ends in a result, with the machine unchanged. -/
def LoadsSettings (machine : Machine) (request : BuildRequest)
    (result : Except SettingsError Settings) : Prop :=
  (Settings.load request.configuration? (some request.overrides) :
    Attempt SettingsError Settings).run machine = (result, machine)

/-- Why a build stops before it touches a file. -/
inductive StopsEarly (machine : Machine) (request : BuildRequest) : BuildError → Prop where
  /-- The settings cannot be loaded. -/
  | settings {error : SettingsError} (failed : LoadsSettings machine request (.error error)) :
    StopsEarly machine request (.settings error)
  /-- The snapshot cannot be read. -/
  | unreadable {settings : Settings} {error : FileError}
    (loaded : LoadsSettings machine request (.ok settings))
    (failed : machine.files.read machine.directory request.snapshot = .error error) :
    StopsEarly machine request (.unreadableSnapshot request.snapshot error)
  /-- What is read is not the text of a snapshot. -/
  | malformed {settings : Settings} {text : String}
    (loaded : LoadsSettings machine request (.ok settings))
    (read : machine.files.read machine.directory request.snapshot = .ok text)
    (failed : Snapshot.ofText? text = none) : StopsEarly machine request .malformedSnapshot
  /-- The declarations are no graph. -/
  | graph {settings : Settings} {text : String} {snapshot : Snapshot} {error : GraphError}
    (loaded : LoadsSettings machine request (.ok settings))
    (read : machine.files.read machine.directory request.snapshot = .ok text)
    (decoded : Snapshot.ofText? text = some snapshot)
    (failed : Graph.build snapshot settings.rootType = .error error) :
    StopsEarly machine request (.graph error)
  /-- A container overflows on a page of the run. -/
  | overflow {settings : Settings} {text : String} {snapshot : Snapshot} {graph : Graph}
    {page : Page} (loaded : LoadsSettings machine request (.ok settings))
    (read : machine.files.read machine.directory request.snapshot = .ok text)
    (decoded : Snapshot.ofText? text = some snapshot)
    (built : Graph.build snapshot settings.rootType = .ok graph)
    (page_mem : page ∈ graph.pages settings.renderOptions)
    (overflows : graph.renderPage settings.renderOptions page = none) :
    StopsEarly machine request .overflow

/-- The settings of a request are loaded, and its snapshot is built into a graph. -/
structure Prepares (machine : Machine) (request : BuildRequest) (settings : Settings)
    (graph : Graph) : Prop where
  /-- The settings are loaded. -/
  loaded : LoadsSettings machine request (.ok settings)
  /-- The snapshot is read, decoded and built into the graph. -/
  built : ∃ text snapshot, machine.files.read machine.directory request.snapshot = .ok text ∧
    Snapshot.ofText? text = some snapshot ∧ Graph.build snapshot settings.rootType = .ok graph

variable {machine machine' : Machine} {request : BuildRequest} {settings : Settings}
  {result : Except BuildError Unit}

theorem load_cases {loaded : Except SettingsError Settings}
    (ran : (Settings.load request.configuration? (some request.overrides) :
      Attempt SettingsError Settings).run machine = (loaded, machine')) :
    machine' = machine ∧ LoadsSettings machine request loaded := by
  obtain rfl := (Settings.load_always _ _).of_ran ran
  exact ⟨rfl, ran⟩

theorem SameFiles.empties_iff (same : SameFiles machine machine') (settings : Settings) :
    Empties settings machine' ↔ Empties settings machine := by
  rw [Empties, Empties, same.1, same.2]

/-- Once the settings are loaded, the build stops at the snapshot or goes on with its graph. -/
theorem stops_or_prepares {opened after : Machine} {loaded : Except BuildError Graph}
    (loads : LoadsSettings machine request (.ok settings)) (same : SameFiles machine opened)
    (ran : (loadGraph request.snapshot settings.rootType : Attempt BuildError Graph).run opened =
      (loaded, after)) :
    after = opened ∧ ((∃ error, StopsEarly machine request error ∧ loaded = .error error) ∨
      ∃ graph, Prepares machine request settings graph ∧ loaded = .ok graph) := by
  obtain ⟨rfl, outcome⟩ := loadGraph_cases ran
  refine ⟨rfl, ?_⟩
  rw [same.1, same.2] at outcome
  rcases outcome with ⟨error, unread, rfl⟩ |
    ⟨text, read, ⟨undecoded, rfl⟩ | ⟨snapshot, decoded, rfl⟩⟩
  · exact .inl ⟨_, .unreadable loads unread, rfl⟩
  · exact .inl ⟨_, .malformed loads read undecoded, rfl⟩
  · cases built : Graph.build snapshot settings.rootType with
    | error error => exact .inl ⟨_, .graph loads read decoded built, rfl⟩
    | ok graph => exact .inr ⟨graph, ⟨loads, text, snapshot, read, decoded, built⟩, rfl⟩

/-- Once the graph is built, the build stops at a container that overflows or goes on with the
pages. -/
theorem stops_or_generates {graph : Graph} {opened after : Machine}
    {outcome : Except BuildError Generated} (prepares : Prepares machine request settings graph)
    (ran : ((graph.generate settings.renderOptions).getDM (throw .overflow) :
      Attempt BuildError Generated).run opened = (outcome, after)) :
    after = opened ∧ ((StopsEarly machine request .overflow ∧ outcome = .error .overflow) ∨
      ∃ generated, graph.generate settings.renderOptions = some generated ∧
        outcome = .ok generated) := by
  cases generated_eq : graph.generate settings.renderOptions with
  | none =>
      rw [generated_eq] at ran
      obtain ⟨rfl, rfl⟩ := Prod.mk.inj ran
      obtain ⟨text, snapshot, read, decoded, built⟩ := prepares.built
      obtain ⟨page, page_mem, overflows⟩ := Graph.generate_eq_none_iff.mp generated_eq
      exact ⟨rfl, .inl ⟨.overflow prepares.loaded read decoded built page_mem overflows, rfl⟩⟩
  | some generated =>
      rw [generated_eq] at ran
      obtain ⟨rfl, rfl⟩ := Prod.mk.inj ran
      exact ⟨rfl, .inr ⟨generated, rfl, rfl⟩⟩

/-- Pages that are written are reported with the failures, which make the build fail. -/
theorem fails_to_write_or_reports {opened : Machine} {generated : Generated}
    (ran : (do
        (writePages settings (sortByName RenderedPage.path generated.pages) :
          Attempt FileError Unit).adapt .files
        closeReport settings.dir (sortByName RenderedPage.path generated.pages).length
          (sortByName PageError.page generated.errors) : Attempt BuildError Unit).run opened =
      (result, machine')) :
    (∃ error, result = .error (.files error)) ∨
      ∃ written, (writePages settings (sortByName RenderedPage.path generated.pages) :
          Attempt FileError Unit).run opened = (.ok (), written) ∧ SameFiles written machine' ∧
        result = if generated.errors.length = 0 then .ok ()
          else .error (.pagesFailed generated.errors.length) := by
  rcases run_bind_cases ran with ⟨_, written, write_ran, close_ran⟩ | ⟨error, write_ran, rfl⟩
  · obtain ⟨closed, same, closes⟩ := closeReport_ends settings.dir
      (sortByName RenderedPage.path generated.pages).length
      (sortByName PageError.page generated.errors) written
    obtain ⟨rfl, rfl⟩ := Prod.mk.inj (closes.symm.trans close_ran)
    refine .inr ⟨written, run_adapt_eq_ok write_ran, same, ?_⟩
    rw [(sortByName_perm generated.errors).length_eq]
  · obtain ⟨failure, -, rfl⟩ := run_adapt_eq_error write_ran
    exact .inl ⟨failure, rfl⟩

/-- A build stops early, fails to write, or writes all pages and closes with a report. -/
theorem build_cases
    (ran : (build request : Attempt BuildError Unit).run machine = (result, machine')) :
    (∃ error, StopsEarly machine request error ∧ result = .error error ∧
        SameFiles machine machine') ∨
      ∃ settings graph generated, Prepares machine request settings graph ∧
        graph.generate settings.renderOptions = some generated ∧
        ((∃ error, result = .error (.files error)) ∨
          ∃ opened written, SameFiles machine opened ∧ SameFiles written machine' ∧
            (writePages settings (sortByName RenderedPage.path generated.pages) :
              Attempt FileError Unit).run opened = (.ok (), written) ∧
            result = if generated.errors.length = 0 then .ok ()
              else .error (.pagesFailed generated.errors.length)) := by
  rcases run_bind_cases ran with ⟨settings, loaded, load_ran, after_load⟩ | ⟨error, load_ran, rfl⟩
  · obtain ⟨rfl, loads⟩ := load_cases (run_adapt_eq_ok load_ran)
    obtain ⟨_, opened, report_ran, same⟩ :=
      @report_ends BuildError (openingLine request.snapshot settings.dir) loaded
    rw [run_bind_of_ok report_ran] at after_load
    rcases run_bind_cases after_load with
      ⟨graph, after, graph_ran, after_graph⟩ | ⟨error, graph_ran, rfl⟩
    · obtain ⟨rfl, ⟨_, -, loaded_eq⟩ | ⟨graph, prepares, loaded_eq⟩⟩ :=
        stops_or_prepares loads same graph_ran
      · cases loaded_eq
      · obtain rfl := Except.ok.inj loaded_eq
        rcases run_bind_cases after_graph with
          ⟨generated, rendered, generate_ran, after_generate⟩ | ⟨error, generate_ran, rfl⟩
        · obtain ⟨rfl, ⟨-, outcome_eq⟩ | ⟨_, generated_eq, outcome_eq⟩⟩ :=
            stops_or_generates prepares generate_ran
          · cases outcome_eq
          · obtain rfl := Except.ok.inj outcome_eq
            refine .inr ⟨settings, _, generated, prepares, generated_eq, ?_⟩
            rcases fails_to_write_or_reports after_generate with
              fails | ⟨written, write_ran, same', result_eq⟩
            · exact .inl fails
            · exact .inr ⟨rendered, written, same, same', write_ran, result_eq⟩
        · obtain ⟨rfl, ⟨stops, outcome_eq⟩ | ⟨_, -, outcome_eq⟩⟩ :=
            stops_or_generates prepares generate_ran
          · obtain rfl := Except.error.inj outcome_eq
            exact .inl ⟨_, stops, rfl, same⟩
          · cases outcome_eq
    · obtain ⟨rfl, ⟨_, stops, loaded_eq⟩ | ⟨graph, -, loaded_eq⟩⟩ :=
        stops_or_prepares loads same graph_ran
      · obtain rfl := Except.error.inj loaded_eq
        exact .inl ⟨_, stops, rfl, same⟩
      · cases loaded_eq
  · obtain ⟨failure, failed, rfl⟩ := run_adapt_eq_error load_ran
    obtain ⟨rfl, loads⟩ := load_cases failed
    exact .inl ⟨_, .settings loads, rfl, Std.Refl.refl _⟩

/-! ## The program -/

/-- The program does not touch the files after a build, and its exit code tells how the build
ended. -/
theorem run_build {arguments : List String}
    (requested : Request.ofArguments (machine.environment.lookup "APIDOC_CONFIG") arguments =
      .ok (.build request))
    (ran : (build request : Attempt BuildError Unit).run machine = (result, machine')) :
    ((run arguments : StateM Machine UInt32) machine).1 =
        (match result with
        | .ok () => 0
        | .error error => error.exitCode) ∧
      ((run arguments : StateM Machine UInt32) machine).2.files = machine'.files := by
  have asked : (Host.getVariable "APIDOC_CONFIG" : StateM Machine (Option String)) machine =
      (machine.environment.lookup "APIDOC_CONFIG", machine) := rfl
  rw [run, bind_of_ran asked, requested]
  dsimp only
  rw [bind_of_ran ran]
  cases result with
  | ok value => exact ⟨rfl, rfl⟩
  | error error =>
      dsimp only
      cases error.message? with
      | none => exact ⟨rfl, rfl⟩
      | some message => exact ⟨rfl, (reportIn_always .red ("error: " ++ message) machine').1⟩

/-- What a build leaves: each rendered page at its place, and of the other files those that were
there before, or none below the output directory if it is emptied. -/
theorem text?_of_written {opened written : Machine} {pages : List RenderedPage}
    (same : SameFiles machine opened) (same' : SameFiles written machine')
    (write_ran : (writePages settings (sortByName RenderedPage.path pages) :
      Attempt FileError Unit).run opened = (.ok (), written))
    (distinct : (pages.map (placeOf machine.directory settings.dir)).Nodup) :
    (∀ page ∈ pages,
      machine'.files.text? (placeOf machine.directory settings.dir page) = some page.text) ∧
    ∀ location, (∀ page ∈ pages, placeOf machine.directory settings.dir page ≠ location) →
      machine'.files.text? location =
        if Empties settings machine ∧
          location.IsBelow (Path.place machine.directory settings.dir) then none
        else machine.files.text? location := by
  have sorted_perm := @sortByName_perm _ RenderedPage.path pages
  have sorted_distinct := (sorted_perm.map (placeOf machine.directory settings.dir)).nodup_iff.mpr
    distinct
  rw [← same.2] at sorted_distinct
  obtain ⟨stand, others⟩ := text?_of_writePages write_ran sorted_distinct
  simp only [sorted_perm.mem_iff, same.1, same.2, same.empties_iff settings] at stand others
  rw [same'.1]
  exact ⟨stand, others⟩

/-- The files after a build that wrote pages at different places. -/
structure LeavesPages (settings : Settings) (pages : List RenderedPage)
    (machine machine' : Machine) : Prop where
  /-- Each page stands at its place. -/
  stand : ∀ page ∈ pages,
    machine'.files.text? (placeOf machine.directory settings.dir page) = some page.text
  /-- An output directory that is to be emptied, and leads somewhere or has no files, holds the
  pages and no other files. -/
  exactly_pages : settings.clean = true →
    ((machine.files.find? machine.directory settings.dir).isSome = true ∨
      ∀ location : Location, location.IsBelow (Path.place machine.directory settings.dir) →
        machine.files.text? location = none) →
    ∀ location : Location, location.IsBelow (Path.place machine.directory settings.dir) →
      ∀ text, machine'.files.text? location = some text ↔
        ∃ page ∈ pages, placeOf machine.directory settings.dir page = location ∧ page.text = text
  /-- If the output directory is to be kept or its path leads nowhere, no other file is changed. -/
  keeps_others : settings.clean = false ∨
      (machine.files.find? machine.directory settings.dir).isSome = false →
    ∀ location, (∀ page ∈ pages, placeOf machine.directory settings.dir page ≠ location) →
      machine'.files.text? location = machine.files.text? location
  /-- In any case no other file outside the output directory is changed. -/
  keeps_outside : ∀ location : Location,
    ¬location.IsBelow (Path.place machine.directory settings.dir) →
    (∀ page ∈ pages, placeOf machine.directory settings.dir page ≠ location) →
      machine'.files.text? location = machine.files.text? location

theorem leavesPages_of_written {opened written : Machine} {pages : List RenderedPage}
    (same : SameFiles machine opened) (same' : SameFiles written machine')
    (write_ran : (writePages settings (sortByName RenderedPage.path pages) :
      Attempt FileError Unit).run opened = (.ok (), written))
    (distinct : (pages.map (placeOf machine.directory settings.dir)).Nodup) :
    LeavesPages settings pages machine machine' := by
  obtain ⟨stand, others⟩ := text?_of_written same same' write_ran distinct
  refine ⟨stand, fun clean emptied location below text => ⟨fun text_eq => ?_, ?_⟩,
    fun keeps location elsewhere => ?_, fun location not_below elsewhere => ?_⟩
  · -- A file at no page's place would have survived, but such files were removed or not there.
    by_contra no_page
    have elsewhere : ∀ page ∈ pages, placeOf machine.directory settings.dir page ≠ location := by
      rintro page page_mem rfl
      exact no_page
        ⟨page, page_mem, rfl, Option.some.inj ((stand page page_mem).symm.trans text_eq)⟩
    rw [others location elsewhere] at text_eq
    split at text_eq
    · cases text_eq
    · rename_i keeps
      rcases emptied with there | nothing_below
      · exact keeps ⟨⟨clean, there⟩, below⟩
      · rw [nothing_below location below] at text_eq
        cases text_eq
  · rintro ⟨page, page_mem, rfl, rfl⟩
    exact stand page page_mem
  · rw [others location elsewhere, if_neg]
    rintro ⟨⟨clean, there⟩, -⟩
    rcases keeps with unclean | missing
    · exact absurd (clean.symm.trans unclean) nofun
    · exact absurd (there.symm.trans missing) nofun
  · rw [others location elsewhere, if_neg fun both => not_below both.2]

/-- Unless files cannot be written, a build stops early and leaves all files, or it writes the pages
that can be rendered and fails with the number of the others, if there are any.  The program then
leaves the files as they are and tells by its exit code how the build ended. -/
theorem build_stops_early_or_leavesPages {arguments : List String}
    (requested : Request.ofArguments (machine.environment.lookup "APIDOC_CONFIG") arguments =
      .ok (.build request))
    (ran : (build request : Attempt BuildError Unit).run machine = (result, machine'))
    (files_succeed : ∀ error, result ≠ .error (.files error)) :
    ((run arguments : StateM Machine UInt32) machine).1 =
      (match result with
      | .ok () => 0
      | .error .overflow => 101
      | .error _ => 1) ∧
    ((run arguments : StateM Machine UInt32) machine).2.files = machine'.files ∧
    ((∃ error, StopsEarly machine request error ∧ result = .error error ∧
        machine'.files = machine.files) ∨
      ∃ settings graph generated, Prepares machine request settings graph ∧
        graph.generate settings.renderOptions = some generated ∧
        let options := settings.renderOptions
        let pages := generated.pages
        let failed := (graph.pages options).countP fun page => !graph.renders options page
        pages.length + failed = (graph.pages options).length ∧
        result = (if failed = 0 then .ok () else .error (.pagesFailed failed)) ∧
        ((pages.map (placeOf machine.directory settings.dir)).Nodup →
          LeavesPages settings pages machine machine')) := by
  obtain ⟨code_eq, files_eq⟩ := run_build requested ran
  refine ⟨?_, files_eq, ?_⟩
  · rw [code_eq]
    rcases result with (_ | _ | _ | _ | _ | _ | _) | _ <;> rfl
  · rcases build_cases ran with
      ⟨error, stops, result_eq, same⟩ | ⟨settings, graph, generated, prepares, generated_eq, rest⟩
    · exact .inl ⟨error, stops, result_eq, same.1⟩
    · rcases rest with ⟨error, failed⟩ | ⟨opened, written, same, same', write_ran, result_eq⟩
      · exact absurd failed (files_succeed error)
      · rw [Graph.length_generate_errors generated_eq] at result_eq
        refine .inr ⟨settings, graph, generated, prepares, generated_eq, ?_, result_eq, ?_⟩
        · rw [← Graph.length_generate_errors generated_eq, Graph.length_generate_add generated_eq]
        · exact leavesPages_of_written same same' write_ran

/-- The text of a snapshot of one package. -/
def staleText : String :=
  "\x7b\"packages\": [\x7b\"name\": \"shop\"\x7d]\x7d"

/-- A machine with a snapshot, and an old file in a directory `out`. -/
def staleMachine : Machine where
  files := ⟨[(["w"], .directory), (["w", "s.json"], .file staleText), (["w", "out"], .directory),
    (["w", "out", "old.md"], .file "old")]⟩
  directory := ["w"]

/-- The wish to build the pages of the snapshot in a directory. -/
def staleRequest (dir : String) : BuildRequest where
  snapshot := "s.json"
  overrides := { dir? := some dir }

theorem leavesPages_stale :
    Request.ofArguments none ["build", "s.json", "-o", "out"] = .ok (.build (staleRequest "out")) ∧
      ((build (staleRequest "out") : Attempt BuildError Unit).run staleMachine).1 = .ok () ∧
      ∃ settings graph generated, Prepares staleMachine (staleRequest "out") settings graph ∧
        graph.generate settings.renderOptions = some generated ∧
        ((generated.pages.map (placeOf staleMachine.directory settings.dir)).Nodup →
          LeavesPages settings generated.pages staleMachine
            ((build (staleRequest "out") : Attempt BuildError Unit).run staleMachine).2) := by
  have requested : Request.ofArguments none ["build", "s.json", "-o", "out"] =
      .ok (.build (staleRequest "out")) := by decide +kernel
  have succeeds : ((build (staleRequest "out") : Attempt BuildError Unit).run staleMachine).1 =
      .ok () := by decide +kernel
  refine ⟨requested, succeeds, ?_⟩
  rcases (@build_stops_early_or_leavesPages staleMachine _ (staleRequest "out") _
    ["build", "s.json", "-o", "out"] requested (Prod.eta _).symm
    (by rw [succeeds]; exact nofun)).2.2 with
    ⟨error, -, fails, -⟩ | ⟨settings, graph, generated, prepares, generated_eq, -, -, leaves⟩
  · rw [succeeds] at fails
    cases fails
  · exact ⟨settings, graph, generated, prepares, generated_eq, leaves⟩

/-- An output directory is not emptied if its path leads through a directory that is still missing:
the path leads nowhere at first, but somewhere once the missing directory is made. -/
theorem not_exactly_pages_stale : ∃ settings graph,
    Prepares staleMachine (staleRequest "x/../out") settings graph ∧ settings.clean = true ∧
      ((graph.generate settings.renderOptions).map fun generated =>
        generated.pages.map (placeOf staleMachine.directory settings.dir)) =
          some [["w", "out", "shop", "index.md"]] ∧
      ((build (staleRequest "x/../out") : Attempt BuildError Unit).run staleMachine).1 = .ok () ∧
      Location.IsBelow ["w", "out", "old.md"] (Path.place staleMachine.directory settings.dir) ∧
      ((build (staleRequest "x/../out") : Attempt BuildError Unit).run staleMachine).2.files.text?
        ["w", "out", "old.md"] = some "old" := by
  have places : (Snapshot.ofText? staleText).map (fun snapshot =>
      (Graph.build snapshot defaultRootType).map fun graph =>
        (graph.generate {}).map fun generated => generated.pages.map (placeOf ["w"] "x/../out")) =
      some (.ok (some [["w", "out", "shop", "index.md"]])) := by decide +kernel
  have loaded : ((Settings.load none (some (staleRequest "x/../out").overrides) :
      Attempt SettingsError Settings).run staleMachine).1 = .ok { dir := "x/../out" } := by
    decide +kernel
  obtain ⟨snapshot, decoded, places⟩ := Option.map_eq_some_iff.mp places
  obtain ⟨graph, built, places⟩ : ∃ graph, Graph.build snapshot defaultRootType = .ok graph ∧
      ((graph.generate {}).map fun generated => generated.pages.map (placeOf ["w"] "x/../out")) =
        some [["w", "out", "shop", "index.md"]] := by
    cases built : Graph.build snapshot defaultRootType with
    | error error => rw [built] at places; cases places
    | ok graph => rw [built] at places; exact ⟨graph, rfl, Except.ok.inj places⟩
  refine ⟨{ dir := "x/../out" }, graph, ⟨?_, staleText, snapshot, ?_, decoded, ?_⟩, rfl, places,
    ?_, ?_, ?_⟩
  · exact Prod.ext loaded (Settings.load_always none _ staleMachine).symm
  · decide +kernel
  · exact built
  · decide +kernel
  · decide +kernel
  · decide +kernel

end Command
end RefDocs
