import RefDocs.Proofs.Files.Texts

/-!
# Runs on a machine

A run that may fail is taken apart into the runs of its steps.  What each step keeps of a machine is
kept by the whole run, whether it ends well or not.
-/

namespace RefDocs

/-- A run on a machine that may fail. -/
abbrev Attempt (Failure α : Type) :=
  ExceptT Failure (StateM Machine) α

variable {α β Failure Failure' : Type}

/-! ## Steps of a run -/

section Steps

variable {first : Attempt Failure α}
  {next : α → Attempt Failure β} {machine machine' between : Machine}

theorem bind_of_ran {action : StateM Machine α} {rest : α → StateM Machine β} {value : α}
    (ran : action machine = (value, between)) :
    (action >>= rest) machine = rest value between := by
  change rest (action machine).1 (action machine).2 = _
  rw [ran]

theorem run_bind_of_ok {value : α} (ran : first.run machine = (.ok value, between)) :
    (first >>= next).run machine = (next value).run between := by
  change ExceptT.bindCont next (first.run machine).1 (first.run machine).2 = _
  rw [ran]
  rfl

theorem run_bind_of_error {failure : Failure}
    (ran : first.run machine = (.error failure, between)) :
    (first >>= next).run machine = (.error failure, between) := by
  change ExceptT.bindCont next (first.run machine).1 (first.run machine).2 = _
  rw [ran]
  rfl

/-- A run with two steps goes on from where the first ends, or fails with the first. -/
theorem run_bind_cases {result : Except Failure β}
    (ran : (first >>= next).run machine = (result, machine')) :
    (∃ value between, first.run machine = (.ok value, between) ∧
      (next value).run between = (result, machine')) ∨
    ∃ failure, first.run machine = (.error failure, machine') ∧ result = .error failure := by
  rcases first_ran : first.run machine with ⟨failure | value, between⟩
  · rw [run_bind_of_error first_ran] at ran
    obtain ⟨rfl, rfl⟩ := Prod.mk.inj ran
    exact .inr ⟨failure, rfl, rfl⟩
  · rw [run_bind_of_ok first_ran] at ran
    exact .inl ⟨value, between, rfl, ran⟩

theorem run_bind_eq_ok {value : β}
    (ran : (first >>= next).run machine = (.ok value, machine')) :
    ∃ middle between, first.run machine = (.ok middle, between) ∧
      (next middle).run between = (.ok value, machine') := by
  rcases run_bind_cases ran with goes_on | ⟨failure, -, ended⟩
  · exact goes_on
  · cases ended

variable {change : Failure → Failure'}

theorem run_adapt_of_ran {result : Except Failure α}
    (ran : first.run machine = (result, machine')) :
    (first.adapt change).run machine = (result.mapError change, machine') := by
  change ((first.run machine).1.mapError change, (first.run machine).2) = _
  rw [ran]

theorem run_adapt_eq_ok {value : α}
    (ran : (first.adapt change).run machine = (.ok value, machine')) :
    first.run machine = (.ok value, machine') := by
  change ((first.run machine).1.mapError change, (first.run machine).2) = _ at ran
  rcases first_ran : first.run machine with ⟨failure | value', after⟩
  · rw [first_ran] at ran
    cases (Prod.mk.inj ran).1
  · rw [first_ran] at ran
    obtain ⟨value_eq, rfl⟩ := Prod.mk.inj ran
    rw [Except.ok.inj value_eq]

theorem run_adapt_eq_error {failure' : Failure'}
    (ran : (first.adapt change).run machine = (.error failure', machine')) :
    ∃ failure, first.run machine = (.error failure, machine') ∧ failure' = change failure := by
  change ((first.run machine).1.mapError change, (first.run machine).2) = _ at ran
  rcases first_ran : first.run machine with ⟨failure | value, after⟩
  · rw [first_ran] at ran
    obtain ⟨failed, rfl⟩ := Prod.mk.inj ran
    exact ⟨failure, rfl, (Except.error.inj failed).symm⟩
  · rw [first_ran] at ran
    cases (Prod.mk.inj ran).1

end Steps

/-! ## What all steps keep -/

/-- Every run of an action leads from a machine to a related one. -/
def Always (related : Machine → Machine → Prop) (action : StateM Machine α) : Prop :=
  ∀ machine, related machine (action machine).2

namespace Always

variable {related : Machine → Machine → Prop}

theorem of_ran {action : StateM Machine α} (action_always : Always related action)
    {machine machine' : Machine} {result : α} (ran : action machine = (result, machine')) :
    related machine machine' := by
  have after_eq : (action machine).2 = machine' := congrArg Prod.snd ran
  exact after_eq ▸ action_always machine

theorem pure [Std.Refl related] (value : α) : Always related (Pure.pure value) :=
  fun machine => Std.Refl.refl machine

theorem bind [IsTrans Machine related] {first : StateM Machine α} {next : α → StateM Machine β}
    (first_always : Always related first) (next_always : ∀ value, Always related (next value)) :
    Always related (first >>= next) := by
  intro machine
  exact Trans.trans (first_always machine) (next_always _ _)

theorem throw [Std.Refl related] (failure : Failure) :
    Always related (MonadExcept.throw failure : Attempt Failure α).run :=
  fun machine => Std.Refl.refl machine

theorem run_pure [Std.Refl related] (value : α) :
    Always related (Pure.pure value : Attempt Failure α).run :=
  fun machine => Std.Refl.refl machine

theorem run_adapt {action : Attempt Failure α}
    (action_always : Always related action.run) (change : Failure → Failure') :
    Always related (action.adapt change).run :=
  action_always

theorem run_bind [Std.Refl related] [IsTrans Machine related]
    {first : Attempt Failure α} {next : α → Attempt Failure β}
    (first_always : Always related first.run)
    (next_always : ∀ value, Always related (next value).run) :
    Always related (first >>= next).run := by
  change Always related (first.run >>= ExceptT.bindCont next)
  refine bind first_always fun result => ?_
  cases result with
  | error failure => exact throw failure
  | ok value => exact next_always value

theorem run_mapM [Std.Refl related] [IsTrans Machine related]
    {step : α → Attempt Failure β}
    (step_always : ∀ item, Always related (step item).run) (items : List α) :
    Always related (items.mapM step).run := by
  induction items with
  | nil => exact run_pure []
  | cons item rest ih =>
      rw [List.mapM_cons]
      refine run_bind (step_always item) fun first => run_bind ih fun others => ?_
      exact run_pure (first :: others)

theorem run_forM [Std.Refl related] [IsTrans Machine related]
    {step : α → Attempt Failure PUnit}
    (items : List α) (step_always : ∀ item ∈ items, Always related (step item).run) :
    Always related (items.forM step).run := by
  induction items with
  | nil => exact run_pure ()
  | cons item rest ih =>
      rw [List.forall_mem_cons] at step_always
      exact run_bind step_always.1 fun _ => ih step_always.2

end Always

/-! ## Runs that do not fail -/

/-- Every run of an action ends well, on a related machine. -/
def AlwaysEnds (related : Machine → Machine → Prop) (action : Attempt Failure α) : Prop :=
  ∀ machine, ∃ value machine', action.run machine = (.ok value, machine') ∧ related machine machine'

namespace AlwaysEnds

variable {related : Machine → Machine → Prop}

theorem pure [Std.Refl related] (value : α) :
    AlwaysEnds related (Pure.pure value : Attempt Failure α) :=
  fun machine => ⟨value, machine, rfl, Std.Refl.refl machine⟩

theorem lift {action : StateM Machine α} (action_always : Always related action) :
    AlwaysEnds related (ExceptT.lift action : Attempt Failure α) :=
  fun machine => ⟨_, _, rfl, action_always machine⟩

theorem bind [IsTrans Machine related] {first : Attempt Failure α} {next : α → Attempt Failure β}
    (first_ends : AlwaysEnds related first) (next_ends : ∀ value, AlwaysEnds related (next value)) :
    AlwaysEnds related (first >>= next) := by
  intro machine
  obtain ⟨value, between, first_ran, first_related⟩ := first_ends machine
  obtain ⟨result, after, next_ran, next_related⟩ := next_ends value between
  exact ⟨result, after, (run_bind_of_ok first_ran).trans next_ran,
    Trans.trans first_related next_related⟩

theorem forM [Std.Refl related] [IsTrans Machine related] {step : α → Attempt Failure PUnit}
    (step_ends : ∀ item, AlwaysEnds related (step item)) (items : List α) :
    AlwaysEnds related (items.forM step) := by
  induction items with
  | nil => exact pure ()
  | cons item rest ih => exact bind (step_ends item) fun _ => ih

end AlwaysEnds

end RefDocs
