import Mathlib.Data.List.Forall2

/-!
# Lists of related items

Two lists with related items in the same places are searched, filtered and mapped alike by functions
that agree on related items.
-/

namespace RefDocs

variable {α β γ : Type} {related : α → β → Prop}

/-- What can be read off the reduced forms of items is the same for items with one reduced form. -/
theorem read_eq_of_reduce_eq {reduce : α → α} {item item' : α}
    (reduce_eq : reduce item = reduce item') (read : α → β)
    (read_reduce : ∀ item, read (reduce item) = read item) : read item = read item' := by
  rw [← read_reduce item, reduce_eq, read_reduce item']

/-! ## Optional items -/

section Optional

variable {item? : Option α} {other? : Option β}

theorem optionRel_iff : Option.Rel related item? other? ↔
    item? = none ∧ other? = none ∨
      ∃ item other, item? = some item ∧ other? = some other ∧ related item other := by
  constructor
  · rintro (item_related | _)
    · exact .inr ⟨_, _, rfl, rfl, item_related⟩
    · exact .inl ⟨rfl, rfl⟩
  · rintro (⟨rfl, rfl⟩ | ⟨item, other, rfl, rfl, item_related⟩)
    · exact .none
    · exact .some item_related

theorem optionRel_mono {related' : α → β → Prop} (both : Option.Rel related item? other?)
    (weaker : ∀ item other, related item other → related' item other) :
    Option.Rel related' item? other? := by
  cases both with
  | none => exact .none
  | some item_related => exact .some (weaker _ _ item_related)

theorem optionRel_filter {p : α → Bool} {q : β → Bool} (both : Option.Rel related item? other?)
    (agree : ∀ item other, related item other → p item = q other) :
    Option.Rel (fun item other => related item other ∧ p item = true)
      (item?.filter p) (other?.filter q) := by
  cases both with
  | none => exact .none
  | @some item other item_related =>
      rw [Option.filter_some, Option.filter_some, ← agree item other item_related]
      split
      · rename_i kept
        exact .some ⟨item_related, kept⟩
      · exact .none

theorem isSome_eq_of_optionRel (both : Option.Rel related item? other?) :
    item?.isSome = other?.isSome := by
  cases both with
  | none => rfl
  | some _ => rfl

theorem optionRel_of_isSome_eq (all_related : ∀ item other, related item other)
    (isSome_eq : item?.isSome = other?.isSome) : Option.Rel related item? other? := by
  cases item? with
  | none =>
      obtain rfl : other? = none := by simpa using isSome_eq.symm
      exact .none
  | some item =>
      obtain ⟨other, rfl⟩ := Option.isSome_iff_exists.mp isSome_eq.symm
      exact .some (all_related item other)

theorem any_eq_of_optionRel {p : α → Bool} {q : β → Bool} (both : Option.Rel related item? other?)
    (agree : ∀ item other, related item other → p item = q other) :
    item?.any p = other?.any q := by
  cases both with
  | none => rfl
  | some item_related => exact agree _ _ item_related

theorem all_eq_of_optionRel {p : α → Bool} {q : β → Bool} (both : Option.Rel related item? other?)
    (agree : ∀ item other, related item other → p item = q other) :
    item?.all p = other?.all q := by
  cases both with
  | none => rfl
  | some item_related => exact agree _ _ item_related

theorem map_eq_of_optionRel {f : α → γ} {g : β → γ} (both : Option.Rel related item? other?)
    (agree : ∀ item other, related item other → f item = g other) :
    item?.map f = other?.map g := by
  cases both with
  | none => rfl
  | some item_related => exact congrArg some (agree _ _ item_related)

theorem forall₂_toList (both : Option.Rel related item? other?) :
    List.Forall₂ related item?.toList other?.toList := by
  cases both with
  | none => exact .nil
  | some item_related => exact .cons item_related .nil

end Optional

/-! ## Lists -/

section Lists

variable {items : List α} {others : List β}

theorem forall₂_filter {p : α → Bool} {q : β → Bool} (all : List.Forall₂ related items others)
    (agree : ∀ item other, related item other → p item = q other) :
    List.Forall₂ (fun item other => related item other ∧ p item = true)
      (items.filter p) (others.filter q) := by
  induction all with
  | nil => exact .nil
  | @cons item other _ _ item_related _ ih =>
      rw [List.filter_cons, List.filter_cons, ← agree item other item_related]
      split
      · rename_i kept
        exact .cons ⟨item_related, kept⟩ ih
      · exact ih

theorem optionRel_find? {p : α → Bool} {q : β → Bool} (all : List.Forall₂ related items others)
    (agree : ∀ item other, related item other → p item = q other) :
    Option.Rel related (items.find? p) (others.find? q) := by
  induction all with
  | nil => exact .none
  | @cons item other _ _ item_related _ ih =>
      rw [List.find?_cons, List.find?_cons, agree item other item_related]
      split
      · exact .some item_related
      · exact ih

theorem map_eq_of_forall₂ {f : α → γ} {g : β → γ} (all : List.Forall₂ related items others)
    (agree : ∀ item other, related item other → f item = g other) :
    items.map f = others.map g := by
  induction all with
  | nil => rfl
  | cons item_related _ ih =>
      rw [List.map_cons, List.map_cons, agree _ _ item_related, ih]

/-- What related items have to satisfy is satisfied by all items of the second list. -/
theorem forall_mem_of_forall₂ {holds : β → Prop} (all : List.Forall₂ related items others)
    (each : ∀ item other, related item other → holds other) : ∀ other ∈ others, holds other := by
  induction all with
  | nil => exact nofun
  | @cons item other items others item_related _ ih =>
      exact List.forall_mem_cons.mpr ⟨each item other item_related, ih⟩

theorem isEmpty_eq_of_forall₂ (all : List.Forall₂ related items others) :
    items.isEmpty = others.isEmpty := by
  cases all with
  | nil => rfl
  | cons _ _ => rfl

theorem any_eq_of_forall₂ {p : α → Bool} {q : β → Bool} (all : List.Forall₂ related items others)
    (agree : ∀ item other, related item other → p item = q other) :
    items.any p = others.any q := by
  induction all with
  | nil => rfl
  | cons item_related _ ih =>
      rw [List.any_cons, List.any_cons, agree _ _ item_related, ih]

/-- Steps that agree on related items give the same results for lists of them, or fail alike. -/
theorem mapM_eq_of_forall₂ {Fault : Type} {step : α → Except Fault γ} {step' : β → Except Fault γ}
    (all : List.Forall₂ related items others)
    (agree : ∀ item other, related item other → step item = step' other) :
    items.mapM step = others.mapM step' := by
  induction all with
  | nil => rfl
  | cons item_related _ ih =>
      rw [List.mapM_cons, List.mapM_cons, agree _ _ item_related, ih]

theorem forall₂_and_of_map_eq {f : α → γ} {g : β → γ} (all : List.Forall₂ related items others)
    (map_eq : items.map f = others.map g) :
    List.Forall₂ (fun item other => related item other ∧ f item = g other) items others := by
  induction all with
  | nil => exact .nil
  | cons item_related _ ih =>
      obtain ⟨image_eq, rest_eq⟩ := List.cons_eq_cons.mp map_eq
      exact .cons ⟨item_related, image_eq⟩ (ih rest_eq)

/-- Lists have the same image exactly if their items do, place by place. -/
theorem forall₂_of_map_eq {items others : List α} {f : α → γ}
    (map_eq : items.map f = others.map f) :
    List.Forall₂ (fun item other => f item = f other) items others := by
  have images : List.Forall₂ Eq (items.map f) (others.map f) := by
    rw [List.forall₂_eq_eq_eq]
    exact map_eq
  rwa [List.forall₂_map_left_iff, List.forall₂_map_right_iff] at images

end Lists

end RefDocs
