import RefDocs.Command.Build
import RefDocs.Proofs.Files.Runs

/-!
# Loading changes nothing

Settings, snapshot and graph are read from a machine that stays as it is.  Lines that are reported
leave its files alone, and reporting does not fail.
-/

namespace RefDocs

/-! ## Settings -/

namespace Settings

/-- Filling in a variable only looks it up. -/
theorem fill_always (piece : Template.Piece) :
    Always Eq (piece.fill Host.getVariable : Attempt String String).run := by
  rcases piece with text | ⟨name, default?⟩
  · exact Always.run_pure text
  · rw [Template.Piece.fill]
    split
    · refine Always.run_bind (fun _ => rfl) fun value => ?_
      dsimp only
      split
      · exact Always.run_pure _
      · exact Always.throw name
    · refine Always.run_bind (Always.run_pure none) fun value => ?_
      dsimp only
      split
      · exact Always.run_pure _
      · exact Always.throw name

theorem expandDir_always (choices : Choices) :
    Always Eq (expandDir choices : Attempt SettingsError Choices).run := by
  rw [expandDir]
  split
  · exact Always.run_pure choices
  · rename_i dir _
    refine Always.run_bind (Always.run_adapt ?_ _) fun _ => Always.run_pure _
    rw [Template.expand]
    split
    · exact Always.run_bind (Always.run_mapM fill_always _) fun _ => Always.run_pure _
    · exact Always.run_pure dir

theorem check_always (settings : Settings) :
    Always Eq (settings.check : Attempt SettingsError Settings).run := by
  rw [check]
  split
  · exact Always.throw _
  · exact Always.run_pure settings

theorem ofFile_always (path : String) :
    Always Eq (ofFile path : Attempt SettingsError Settings).run := by
  have reads : Always Eq
      (Host.readFile path : Attempt SettingsError (Except FileError String)).run := fun _ => rfl
  refine Always.run_bind reads fun outcome => ?_
  split
  · exact Always.throw _
  · split
    · exact Always.throw _
    · exact Always.run_bind (expandDir_always _) fun _ => check_always _

theorem firstFile?_always (paths : List String) :
    Always Eq (firstFile? paths : Attempt SettingsError (Option String)).run := by
  induction paths with
  | nil => exact Always.run_pure none
  | cons path rest ih =>
      have looks : Always Eq (Host.isFile path : Attempt SettingsError Bool).run := fun _ => rfl
      refine Always.run_bind looks fun there => ?_
      split
      · exact Always.run_pure (some path)
      · exact ih

theorem base_always (path? : Option String) :
    Always Eq (base path? : Attempt SettingsError Settings).run := by
  cases path? with
  | some path =>
      have looks : Always Eq (Host.pathExists path : Attempt SettingsError Bool).run := fun _ => rfl
      refine Always.run_bind looks fun there => ?_
      split
      · exact ofFile_always path
      · exact Always.throw _
  | none =>
      have finds : Always Eq (discover? : Attempt SettingsError (Option String)).run :=
        Always.run_bind (fun _ => rfl) fun _ => firstFile?_always _
      refine Always.run_bind finds fun found => ?_
      split
      · exact ofFile_always _
      · exact Always.run_bind (fun _ => rfl) fun _ => Always.run_pure _

/-- Settings are loaded, or found to be unusable, without a change to the machine. -/
theorem load_always (path? : Option String) (overrides? : Option Overrides) :
    Always Eq (load path? overrides? : Attempt SettingsError Settings).run := by
  refine Always.run_bind (base_always path?) fun settings => ?_
  split
  · exact check_always _
  · exact Always.run_pure settings

end Settings

/-! ## Snapshot and graph -/

namespace Command

variable {machine machine' : Machine} {path rootType : String}

/-- Loading a graph ends as reading the snapshot, decoding it or building the graph does. -/
theorem loadGraph_cases {result : Except BuildError Graph}
    (ran : (loadGraph path rootType : Attempt BuildError Graph).run machine = (result, machine')) :
    machine' = machine ∧
      ((∃ error, machine.files.read machine.directory path = .error error ∧
          result = .error (.unreadableSnapshot path error)) ∨
        ∃ text, machine.files.read machine.directory path = .ok text ∧
          ((Snapshot.ofText? text = none ∧ result = .error .malformedSnapshot) ∨
            ∃ snapshot, Snapshot.ofText? text = some snapshot ∧
              result = (Graph.build snapshot rootType).mapError .graph)) := by
  have reads : (Host.readFile path : Attempt BuildError (Except FileError String)).run machine =
      (.ok (machine.files.read machine.directory path), machine) := rfl
  rw [loadGraph, run_bind_of_ok reads] at ran
  split at ran
  · rename_i error read_eq
    obtain ⟨rfl, rfl⟩ := Prod.mk.inj ran
    exact ⟨rfl, .inl ⟨error, read_eq, rfl⟩⟩
  · rename_i text read_eq
    split at ran
    · rename_i decoded
      obtain ⟨rfl, rfl⟩ := Prod.mk.inj ran
      exact ⟨rfl, .inr ⟨text, read_eq, .inl ⟨decoded, rfl⟩⟩⟩
    · rename_i snapshot decoded
      split at ran
      · rename_i error built
        obtain ⟨rfl, rfl⟩ := Prod.mk.inj ran
        exact ⟨rfl, .inr ⟨text, read_eq, .inr ⟨snapshot, decoded, by rw [built]; rfl⟩⟩⟩
      · rename_i graph built
        obtain ⟨rfl, rfl⟩ := Prod.mk.inj ran
        exact ⟨rfl, .inr ⟨text, read_eq, .inr ⟨snapshot, decoded, by rw [built]; rfl⟩⟩⟩

/-! ## Reports -/

/-- Two machines with the same files and working directory. -/
def SameFiles (machine machine' : Machine) : Prop :=
  machine'.files = machine.files ∧ machine'.directory = machine.directory

instance : Std.Refl SameFiles :=
  ⟨fun _ => ⟨rfl, rfl⟩⟩

instance : IsTrans Machine SameFiles :=
  ⟨fun _ _ _ first next => ⟨next.1.trans first.1, next.2.trans first.2⟩⟩

theorem report_ends {Failure : Type} (line : String) :
    AlwaysEnds SameFiles (Host.report line : Attempt Failure Unit) :=
  AlwaysEnds.lift fun _ => ⟨rfl, rfl⟩

/-- Whether colours are wanted is found out without a change or a failure. -/
theorem exists_wantsColour (Failure : Type) (machine : Machine) : ∃ answer,
    (wantsColour : Attempt Failure Bool).run machine = (.ok answer, machine) ∧
      (wantsColour : StateM Machine Bool) machine = (answer, machine) := by
  have asked : (Host.getVariable "CLICOLOR_FORCE" : Attempt Failure (Option String)).run machine =
      (.ok (machine.environment.lookup "CLICOLOR_FORCE"), machine) := rfl
  have asked' : (Host.getVariable "CLICOLOR_FORCE" : StateM Machine (Option String)) machine =
      (machine.environment.lookup "CLICOLOR_FORCE", machine) := rfl
  rw [wantsColour, wantsColour, run_bind_of_ok asked, bind_of_ran asked']
  by_cases forced : ((machine.environment.lookup "CLICOLOR_FORCE").getD "0" != "0") = true
  · rw [if_pos forced, if_pos forced]
    exact ⟨true, rfl, rfl⟩
  · rw [if_neg forced, if_neg forced]
    exact ⟨_, rfl, rfl⟩

theorem reportIn_ends {Failure : Type} (colour : Colour) (line : String) :
    AlwaysEnds SameFiles (reportIn colour line : Attempt Failure Unit) := by
  intro machine
  obtain ⟨answer, answers, -⟩ := exists_wantsColour Failure machine
  rw [reportIn, run_bind_of_ok answers]
  split
  · exact report_ends _ machine
  · exact report_ends _ machine

theorem reportIn_always (colour : Colour) (line : String) :
    Always SameFiles (reportIn colour line : StateM Machine Unit) := by
  intro machine
  obtain ⟨answer, -, answers⟩ := exists_wantsColour Unit machine
  rw [reportIn, bind_of_ran answers]
  split
  · exact ⟨rfl, rfl⟩
  · exact ⟨rfl, rfl⟩

/-- The closing report fails exactly if some page did. -/
theorem closeReport_ends (dir : String) (written : Nat) (errors : List PageError)
    (machine : Machine) : ∃ machine', SameFiles machine machine' ∧
      (closeReport dir written errors : Attempt BuildError Unit).run machine =
        (if errors.length = 0 then .ok () else .error (.pagesFailed errors.length), machine') := by
  obtain ⟨_, between, lines_ran, lines_same⟩ :=
    AlwaysEnds.forM (fun error => @reportIn_ends BuildError .red (failureLine error)) errors machine
  obtain ⟨_, after, closing_ran, closing_same⟩ :=
    @reportIn_ends BuildError (if errors.isEmpty then .green else .red)
      (closingLine written errors.length dir) between
  refine ⟨after, Trans.trans lines_same closing_same, ?_⟩
  rw [closeReport, run_bind_of_ok lines_ran, run_bind_of_ok closing_ran]
  cases errors with
  | nil => rfl
  | cons error rest => rfl

end Command
end RefDocs
