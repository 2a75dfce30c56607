import Mathlib.Data.List.Perm.Subperm
import Mathlib.Logic.Relation
import RefDocs.Graph.Build

/-!
# Walks on finitely many items

A partial function that stays inside a finite list of items is followed from item to item.  The
items passed so far are distinct for as long as the walk has not come back, so a walk of more steps
than there are items has either ended or closed a cycle.
-/

namespace RefDocs

variable {α : Type}

/-- One step of a partial function. -/
def StepsTo (next : α → Option α) (item following : α) : Prop :=
  next item = some following

/-- The walk from an item comes to an end. -/
def Ends (next : α → Option α) (item : α) : Prop :=
  Acc (fun following item => StepsTo next item following) item

theorem stepsTo_rightUnique (next : α → Option α) : Relator.RightUnique (StepsTo next) := by
  intro item left right left_step right_step
  exact Option.some.inj (left_step.symm.trans right_step)

theorem ends_of_eq_none {next : α → Option α} {item : α} (stops : next item = none) :
    Ends next item := by
  refine Acc.intro item fun following step => ?_
  simp [StepsTo, stops] at step

theorem Ends.of_step {next : α → Option α} {item following : α}
    (step : StepsTo next item following) (ends : Ends next following) : Ends next item := by
  refine Acc.intro item fun other other_step => ?_
  obtain rfl := stepsTo_rightUnique next step other_step
  exact ends

theorem Ends.of_reaches {next : α → Option α} {item later : α}
    (reaches : Relation.ReflTransGen (StepsTo next) item later) (ends : Ends next later) :
    Ends next item := by
  induction reaches using Relation.ReflTransGen.head_induction_on with
  | refl => exact ends
  | head step _ ih => exact Ends.of_step step ih

theorem eq_of_reaches_of_eq_none {next : α → Option α} {item later : α}
    (stops : next item = none) (reaches : Relation.ReflTransGen (StepsTo next) item later) :
    item = later := by
  rcases reaches.cases_head with rfl | ⟨following, step, -⟩
  · rfl
  · simp [StepsTo, stops] at step

/-- A walk ends in one place. -/
theorem end_unique {next : α → Option α} {item left right : α}
    (left_reached : Relation.ReflTransGen (StepsTo next) item left) (left_stops : next left = none)
    (right_reached : Relation.ReflTransGen (StepsTo next) item right)
    (right_stops : next right = none) : left = right := by
  rcases Relation.ReflTransGen.total_of_right_unique (stepsTo_rightUnique next) left_reached
    right_reached with onward | onward
  · exact eq_of_reaches_of_eq_none left_stops onward
  · exact (eq_of_reaches_of_eq_none right_stops onward).symm

/-- An item on a cycle starts a walk without end. -/
theorem Ends.not_cycle {next : α → Option α} {item : α} (ends : Ends next item) :
    ¬Relation.TransGen (StepsTo next) item item := by
  induction ends with
  | intro item _ ih =>
      intro cycle
      obtain ⟨following, step, back⟩ := Relation.TransGen.head'_iff.mp cycle
      exact ih following step (Relation.TransGen.tail' back step)

theorem leads_cons {next : α → Option α} {passed : List α} {item following : α}
    (leads : ∀ earlier ∈ passed, Relation.TransGen (StepsTo next) earlier item)
    (step : StepsTo next item following) :
    ∀ earlier ∈ item :: passed, Relation.TransGen (StepsTo next) earlier following := by
  intro earlier earlier_mem
  rcases List.mem_cons.mp earlier_mem with rfl | earlier_mem
  · exact Relation.TransGen.single step
  · exact (leads earlier earlier_mem).tail step

/-- The items that a walk has passed before it comes to an item, latest first. -/
structure Trail (next : α → Option α) (items passed : List α) (item : α) : Prop where
  /-- No item was passed twice. -/
  passed_nodup : passed.Nodup
  /-- The walk has stayed inside the list. -/
  passed_subset : passed ⊆ items
  /-- The walk leads from each passed item to the one it has come to. -/
  leads : ∀ earlier ∈ passed, Relation.TransGen (StepsTo next) earlier item

namespace Trail

variable {next : α → Option α} {items passed : List α} {item : α}

theorem start (next : α → Option α) (items : List α) (item : α) : Trail next items [] item :=
  ⟨List.nodup_nil, by simp, by simp⟩

theorem extend {following : α} (trail : Trail next items passed item) (item_mem : item ∈ items)
    (item_new : item ∉ passed) (step : StepsTo next item following) :
    Trail next items (item :: passed) following where
  passed_nodup := List.nodup_cons.mpr ⟨item_new, trail.passed_nodup⟩
  passed_subset := List.cons_subset.mpr ⟨item_mem, trail.passed_subset⟩
  leads := leads_cons trail.leads step

theorem length_le (trail : Trail next items passed item) : passed.length ≤ items.length :=
  (List.subperm_of_subset trail.passed_nodup trail.passed_subset).length_le

theorem length_lt (trail : Trail next items passed item) (item_mem : item ∈ items)
    (item_new : item ∉ passed) : passed.length < items.length := by
  have nodup : (item :: passed).Nodup := List.nodup_cons.mpr ⟨item_new, trail.passed_nodup⟩
  have subset : item :: passed ⊆ items := List.cons_subset.mpr ⟨item_mem, trail.passed_subset⟩
  exact (List.subperm_of_subset nodup subset).length_le

theorem not_mem_of_ends (trail : Trail next items passed item) (ends : Ends next item) :
    item ∉ passed := by
  intro item_passed
  exact ends.not_cycle (trail.leads item item_passed)

end Trail

/-- What is found to be revisited lies on a cycle. -/
theorem cycle_of_revisited? {next : String → Option String} {steps : Nat} {seen : List String}
    {name found : String}
    (leads : ∀ earlier ∈ seen, Relation.TransGen (StepsTo next) earlier name)
    (revisited : revisited? next steps seen name = some found) :
    Relation.TransGen (StepsTo next) found found := by
  induction steps generalizing seen name with
  | zero => simp [revisited?] at revisited
  | succ steps ih =>
      rw [revisited?] at revisited
      by_cases name_seen : name ∈ seen
      · obtain rfl : name = found := by simpa [name_seen] using revisited
        exact leads name name_seen
      · rw [if_neg (by simpa using name_seen)] at revisited
        cases step : next name with
        | none => simp [step] at revisited
        | some following =>
            rw [step] at revisited
            exact ih (leads_cons leads step) revisited

/-- A walk that could go on for longer than there are names, and revisits none, has ended. -/
theorem ends_of_revisited?_eq_none {next : String → Option String} {names : List String}
    (closed : ∀ name following, next name = some following → following ∈ names)
    {steps : Nat} {seen : List String} {name : String} (trail : Trail next names seen name)
    (name_mem : name ∈ names) (enough : names.length < seen.length + steps)
    (unrevisited : revisited? next steps seen name = none) : Ends next name := by
  induction steps generalizing seen name with
  | zero =>
      -- The names seen are distinct, so there are no more of them than names.
      have := trail.length_le
      omega
  | succ steps ih =>
      rw [revisited?] at unrevisited
      by_cases name_seen : name ∈ seen
      · simp [name_seen] at unrevisited
      · rw [if_neg (by simpa using name_seen)] at unrevisited
        cases step : next name with
        | none => exact ends_of_eq_none step
        | some following =>
            rw [step] at unrevisited
            have following_ends : Ends next following := by
              refine ih (trail.extend name_mem name_seen step) (closed name following step) ?_
                unrevisited
              simp only [List.length_cons]
              omega
            exact Ends.of_step step following_ends

end RefDocs
