import Mathlib.Data.List.Basic
import RefDocs.Content.Basic

/-!
# Grids under construction

The headers and the rows of a grid are set by calls in any order.  A row is kept if it has as many
cells as the headers that were set last in front of it, and else the grid stays as it was.  Headers
that are set again replace the ones before and leave the rows alone, so the rows fit the columns
exactly if each of them fits the headers that were set last of all.
-/

namespace RefDocs
namespace Grid

variable {Row : Type}

/-- A call on a grid under construction. -/
inductive Call (Row : Type) where
  /-- The headers are set. -/
  | headers (headers : List String)
  /-- A row is added. -/
  | row (row : Row)

/-- The headers of a grid that may be missing. -/
def headers? (grid : Option (Grid Row)) : Option (List String) :=
  grid.map Grid.headers

section Calls

variable (width : Row → Nat)

/-- The grid after a call; if a row is refused, it is the grid before. -/
def after (grid : Option (Grid Row)) : Call Row → Option (Grid Row)
  | .headers headers => some (withHeaders headers grid)
  | .row row =>
    match addRow row (width row) grid with
    | .ok longer => some longer
    | .error _ => grid

/-- There are headers, as many as a row has cells. -/
def Fits (headers : Option (List String)) (row : Row) : Prop :=
  headers.map List.length = some (width row)

instance (headers : Option (List String)) (row : Row) : Decidable (Fits width headers row) :=
  inferInstanceAs (Decidable (headers.map List.length = some (width row)))

/-- The headers that calls set last, if they set headers at all. -/
def lastHeaders? : List (Call Row) → Option (List String)
  | [] => none
  | .headers headers :: rest => (lastHeaders? rest).or (some headers)
  | .row _ :: rest => lastHeaders? rest

/-- The rows that calls add and that fit the headers set last in front of them. -/
def kept (current : Option (List String)) : List (Call Row) → List Row
  | [] => []
  | .headers headers :: rest => kept (some headers) rest
  | .row row :: rest =>
    if Fits width current row then row :: kept current rest else kept current rest

/-- Each row has a cell for each header. -/
def Regular (grid : Option (Grid Row)) : Prop :=
  ∀ row ∈ rowsOf grid, width row = ((headers? grid).getD []).length

/-- A row that fits the headers set last in front of it fits the headers set last of all. -/
def KeepsColumns (calls : List (Call Row)) : Prop :=
  ∀ front row back, calls = front ++ .row row :: back → Fits width (lastHeaders? front) row →
    Fits width (lastHeaders? calls) row

end Calls

variable {width : Row → Nat}

/-! ## One call -/

theorem headers?_after_headers (grid : Option (Grid Row)) (headers : List String) :
    headers? (after width grid (.headers headers)) = some headers := by
  cases grid with
  | none => rfl
  | some grid => rfl

theorem rowsOf_after_headers (grid : Option (Grid Row)) (headers : List String) :
    rowsOf (after width grid (.headers headers)) = rowsOf grid := by
  cases grid with
  | none => rfl
  | some grid => rfl

/-- A row is taken exactly if it fits the headers. -/
theorem addRow_eq_ok_iff {grid : Option (Grid Row)} {row : Row} {cellCount : Nat}
    {longer : Grid Row} : addRow row cellCount grid = .ok longer ↔
      ∃ headers rows, grid = some ⟨headers, rows⟩ ∧ headers.length = cellCount ∧
        longer = ⟨headers, rows ++ [row]⟩ := by
  obtain _ | ⟨headers, rows⟩ := grid
  · simp [addRow]
  · rw [addRow]
    split
    · rename_i fits
      simp only [Except.ok.injEq, Option.some.injEq]
      constructor
      · rintro rfl
        exact ⟨headers, rows, rfl, fits, rfl⟩
      · rintro ⟨_, _, ⟨⟩, -, rfl⟩
        rfl
    · rename_i unfit
      constructor
      · nofun
      · rintro ⟨_, _, ⟨⟩, fits, -⟩
        exact absurd fits unfit

theorem exists_addRow_eq_ok_iff {grid : Option (Grid Row)} {row : Row} :
    (∃ longer, addRow row (width row) grid = .ok longer) ↔ Fits width (headers? grid) row := by
  constructor
  · rintro ⟨longer, added⟩
    obtain ⟨headers, rows, rfl, length_eq, -⟩ := addRow_eq_ok_iff.mp added
    exact congrArg some length_eq
  · intro fits
    obtain ⟨⟨headers, rows⟩, rfl, length_eq⟩ : ∃ given, grid = some given ∧
        given.headers.length = width row := by simpa [Fits, headers?] using fits
    exact ⟨_, addRow_eq_ok_iff.mpr ⟨headers, rows, rfl, length_eq, rfl⟩⟩

theorem exists_addRow_eq_error_iff {grid : Option (Grid Row)} {row : Row} :
    (∃ error, addRow row (width row) grid = .error error) ↔ ¬ Fits width (headers? grid) row := by
  rw [← exists_addRow_eq_ok_iff]
  cases addRow row (width row) grid with
  | ok longer => simp
  | error error => simp

theorem headers?_after_row (grid : Option (Grid Row)) (row : Row) :
    headers? (after width grid (.row row)) = headers? grid := by
  rw [after]
  split
  · rename_i longer added
    obtain ⟨headers, rows, rfl, -, rfl⟩ := addRow_eq_ok_iff.mp added
    rfl
  · rfl

theorem rowsOf_after_row (grid : Option (Grid Row)) (row : Row) :
    rowsOf (after width grid (.row row)) =
      if Fits width (headers? grid) row then rowsOf grid ++ [row] else rowsOf grid := by
  rw [after]
  split
  · rename_i longer added
    rw [if_pos (exists_addRow_eq_ok_iff.mp ⟨longer, added⟩)]
    obtain ⟨headers, rows, rfl, -, rfl⟩ := addRow_eq_ok_iff.mp added
    rfl
  · rename_i error refused
    rw [if_neg (exists_addRow_eq_error_iff.mp ⟨error, refused⟩)]

/-! ## A run of calls -/

theorem headers?_foldl_after (grid : Option (Grid Row)) (calls : List (Call Row)) :
    headers? (calls.foldl (after width) grid) = (lastHeaders? calls).or (headers? grid) := by
  induction calls generalizing grid with
  | nil => rfl
  | cons call rest ih =>
      rw [List.foldl_cons, ih]
      cases call with
      | headers headers => rw [headers?_after_headers, lastHeaders?, Option.or_assoc]; rfl
      | row row => rw [headers?_after_row, lastHeaders?]

theorem rowsOf_foldl_after (grid : Option (Grid Row)) (calls : List (Call Row)) :
    rowsOf (calls.foldl (after width) grid) = rowsOf grid ++ kept width (headers? grid) calls := by
  induction calls generalizing grid with
  | nil => exact (List.append_nil _).symm
  | cons call rest ih =>
      rw [List.foldl_cons, ih]
      cases call with
      | headers headers => rw [headers?_after_headers, rowsOf_after_headers, kept]
      | row row =>
          rw [headers?_after_row, rowsOf_after_row, kept]
          split
          · rw [List.append_assoc, List.singleton_append]
          · rfl

theorem lastHeaders?_append (front back : List (Call Row)) :
    lastHeaders? (front ++ back) = (lastHeaders? back).or (lastHeaders? front) := by
  induction front with
  | nil => rw [List.nil_append, lastHeaders?, Option.or_none]
  | cons call rest ih =>
      cases call with
      | headers headers => rw [List.cons_append, lastHeaders?, lastHeaders?, ih, Option.or_assoc]
      | row row => rw [List.cons_append, lastHeaders?, lastHeaders?, ih]

theorem mem_kept_iff {current : Option (List String)} {calls : List (Call Row)} {row : Row} :
    row ∈ kept width current calls ↔ ∃ front back, calls = front ++ .row row :: back ∧
      Fits width ((lastHeaders? front).or current) row := by
  induction calls generalizing current with
  | nil => simp [kept]
  | cons call rest ih =>
      -- The call at hand is the one that adds the row, or that one is among the calls behind it.
      have split_iff : (∃ front back, call :: rest = front ++ .row row :: back ∧
          Fits width ((lastHeaders? front).or current) row) ↔
          (call = .row row ∧ Fits width current row) ∨
            ∃ front back, rest = front ++ .row row :: back ∧
              Fits width ((lastHeaders? (call :: front)).or current) row := by
        constructor
        · rintro ⟨_ | ⟨first, front⟩, back, calls_eq, fits⟩
          · obtain ⟨rfl, -⟩ := List.cons.inj calls_eq
            exact .inl ⟨rfl, fits⟩
          · obtain ⟨rfl, rest_eq⟩ := List.cons.inj calls_eq
            exact .inr ⟨front, back, rest_eq, fits⟩
        · rintro (⟨rfl, fits⟩ | ⟨front, back, rfl, fits⟩)
          · exact ⟨[], rest, rfl, fits⟩
          · exact ⟨call :: front, back, rfl, fits⟩
      rw [split_iff]
      cases call with
      | headers headers =>
          rw [kept, ih]
          simp [lastHeaders?]
      | row other =>
          have rest_iff := @ih current
          simp only [lastHeaders?, Call.row.injEq, ← rest_iff]
          rw [kept]
          split
          · rename_i other_fits
            rw [List.mem_cons]
            exact or_congr_left ⟨fun row_eq => ⟨row_eq.symm, row_eq ▸ other_fits⟩,
              fun found => found.1.symm⟩
          · rename_i other_unfit
            refine (or_iff_right ?_).symm
            rintro ⟨rfl, fits⟩
            exact other_unfit fits

/-- The rows that are kept fit the columns exactly if the calls keep the columns. -/
theorem regular_foldl_after_iff (calls : List (Call Row)) :
    Regular width (calls.foldl (after width) none) ↔ KeepsColumns width calls := by
  have fits_iff : ∀ row ∈ kept width none calls, (Fits width (lastHeaders? calls) row ↔
      width row = ((lastHeaders? calls).getD []).length) := by
    intro row row_mem
    obtain ⟨front, back, calls_eq, fits⟩ := mem_kept_iff.mp row_mem
    rw [Option.or_none] at fits
    have some_last : ∃ headers, lastHeaders? calls = some headers := by
      obtain ⟨first, first_eq, -⟩ := Option.map_eq_some_iff.mp fits
      rw [calls_eq, lastHeaders?_append, lastHeaders?, first_eq]
      cases lastHeaders? back with
      | none => exact ⟨first, rfl⟩
      | some last => exact ⟨last, rfl⟩
    obtain ⟨headers, last_eq⟩ := some_last
    rw [Fits, last_eq, Option.map_some, Option.some.injEq, Option.getD_some]
    exact eq_comm
  rw [Regular, rowsOf_foldl_after, headers?_foldl_after, show headers? (none : Option (Grid Row)) =
    none from rfl, show rowsOf (none : Option (Grid Row)) = [] from rfl, List.nil_append,
    Option.or_none]
  constructor
  · intro regular front row back calls_eq fits
    have row_mem : row ∈ kept width none calls :=
      mem_kept_iff.mpr ⟨front, back, calls_eq, by rwa [Option.or_none]⟩
    exact (fits_iff row row_mem).mpr (regular row row_mem)
  · intro keeps row row_mem
    obtain ⟨front, back, calls_eq, fits⟩ := mem_kept_iff.mp row_mem
    rw [Option.or_none] at fits
    exact (fits_iff row row_mem).mp (keeps front row back calls_eq fits)

/-- A grid that is part of a state changes as the calls say that are about the grid. -/
theorem grid_foldl {State Step : Type} {grid : State → Option (Grid Row)}
    {next : State → Step → State} {call? : Step → Option (Call Row)}
    (grid_next : ∀ state step,
      grid (next state step) = (call? step).elim (grid state) (after width (grid state)))
    (state : State) (steps : List Step) :
    grid (steps.foldl next state) =
      (steps.filterMap call?).foldl (after width) (grid state) := by
  induction steps generalizing state with
  | nil => rfl
  | cons step rest ih =>
      rw [List.foldl_cons, ih, grid_next]
      cases call_eq : call? step with
      | none => rw [List.filterMap_cons_none call_eq]; rfl
      | some call => rw [List.filterMap_cons_some call_eq]; rfl

end Grid
end RefDocs
