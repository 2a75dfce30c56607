/-!
# Outcomes of composed steps

What a composed step gives is given by its parts in order.
-/

namespace RefDocs

variable {Fault First Second : Type}

theorem ok_bind (value : First) (next : First → Except Fault Second) :
    Except.ok value >>= next = next value := rfl

theorem bind_eq_ok_iff {first : Except Fault First} {next : First → Except Fault Second}
    {result : Second} :
    first >>= next = .ok result ↔ ∃ value, first = .ok value ∧ next value = .ok result := by
  cases first with
  | error fault => exact ⟨nofun, nofun⟩
  | ok value => exact ⟨fun rest => ⟨value, rfl, rest⟩, fun ⟨_, rfl, rest⟩ => rest⟩

theorem mapError_eq_ok_iff {Fault' : Type} {change : Fault → Fault'}
    {outcome : Except Fault First} {value : First} :
    outcome.mapError change = .ok value ↔ outcome = .ok value := by
  cases outcome with
  | error fault => exact ⟨nofun, nofun⟩
  | ok result => exact ⟨fun same => by cases same; rfl, fun same => by cases same; rfl⟩

/-- Steps that all succeed for the items of a list succeed together. -/
theorem exists_mapM_eq_ok {Item : Type} {step : Item → Except Fault First} {items : List Item}
    {holds : First → Prop} (each : ∀ item ∈ items, ∃ value, step item = .ok value ∧ holds value) :
    ∃ values, items.mapM step = .ok values ∧ ∀ value ∈ values, holds value := by
  induction items with
  | nil => exact ⟨[], rfl, nofun⟩
  | cons item rest ih =>
      rw [List.forall_mem_cons] at each
      obtain ⟨⟨value, value_eq, value_holds⟩, rest_each⟩ := each
      obtain ⟨values, values_eq, values_hold⟩ := ih rest_each
      refine ⟨value :: values, ?_, List.forall_mem_cons.mpr ⟨value_holds, values_hold⟩⟩
      rw [List.mapM_cons, value_eq, ok_bind, values_eq, ok_bind]
      rfl

/-- Steps that are made for each item of a list give results if each of them does. -/
theorem mapM_eq_some_iff {Item : Type} {step : Item → Option First} {items : List Item}
    {results : List First} :
    items.mapM step = some results ↔ items.map step = results.map some := by
  induction items generalizing results with
  | nil => cases results <;> simp
  | cons item rest ih =>
      simp only [List.mapM_cons, Option.bind_eq_bind, Option.bind_eq_some_iff, Option.pure_def,
        Option.some_inj, ih, List.map_cons]
      constructor
      · rintro ⟨result, item_eq, others, rest_eq, rfl⟩
        rw [item_eq, rest_eq, List.map_cons]
      · intro results_eq
        obtain ⟨result, others, rfl, item_eq, rest_eq⟩ :=
          List.map_eq_cons_iff.mp results_eq.symm
        exact ⟨result, item_eq.symm, others, rest_eq.symm, rfl⟩

theorem mapM_eq_none_iff {Item : Type} {step : Item → Option First} {items : List Item} :
    items.mapM step = none ↔ ∃ item ∈ items, step item = none := by
  induction items with
  | nil => simp
  | cons item rest ih =>
      simp only [List.mapM_cons, Option.bind_eq_bind, List.mem_cons, exists_eq_or_imp, ← ih]
      cases step item with
      | none => simp
      | some result => cases rest.mapM step <;> simp

end RefDocs
