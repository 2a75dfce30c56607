import Mathlib.Data.List.SplitBy

/-!
# Runs of a character

A text is cut where a run of a mark begins or ends.  The runs of the mark are then pieces of their
own: a run of some length is a piece exactly if that many marks stand in a row with no further mark
on either side.
-/

namespace RefDocs
namespace Text

/-- The pieces of a list of characters: the runs of a mark, and what stands between them. -/
def cutRuns (mark : Char) (chars : List Char) : List (List Char) :=
  chars.splitBy fun char next => (char == mark) == (next == mark)

/-- A run of exactly a number of marks stands in a list of characters. -/
def HasRun (mark : Char) (count : Nat) (chars : List Char) : Prop :=
  ∃ front back, chars = front ++ List.replicate count mark ++ back ∧
    front.getLast? ≠ some mark ∧ back.head? ≠ some mark

section

variable {mark : Char} {count : Nat} {front back chars : List Char}

theorem flatten_cutRuns (mark : Char) (chars : List Char) : (cutRuns mark chars).flatten = chars :=
  List.flatten_splitBy _ chars

theorem cutRuns_replicate (positive : 0 < count) :
    cutRuns mark (List.replicate count mark) = [List.replicate count mark] := by
  refine List.splitBy_of_isChain ?_ (List.isChain_replicate_of_rel count (by simp))
  rw [ne_eq, List.replicate_eq_nil_iff]
  omega

/-- A list is cut in front of a run. -/
theorem cutRuns_append_run (positive : 0 < count) (front_ne : front.getLast? ≠ some mark) :
    cutRuns mark (front ++ (List.replicate count mark ++ back)) =
      cutRuns mark front ++ cutRuns mark (List.replicate count mark ++ back) := by
  obtain ⟨others, rfl⟩ := Nat.exists_eq_add_of_lt positive
  refine List.splitBy_append fun last last_mem next next_mem => ?_
  have last_ne : last ≠ mark := fun last_eq => front_ne (last_eq ▸ last_mem)
  have next_eq : next = mark := by simpa [List.replicate_succ] using next_mem.symm
  simp [last_ne, next_eq]

/-- A list is cut behind a run. -/
theorem cutRuns_run_append (positive : 0 < count) (back_ne : back.head? ≠ some mark) :
    cutRuns mark (List.replicate count mark ++ back) =
      List.replicate count mark :: cutRuns mark back := by
  rw [← List.singleton_append, ← cutRuns_replicate positive]
  refine List.splitBy_append fun last last_mem next next_mem => ?_
  have last_eq : last = mark :=
    List.eq_of_mem_replicate (List.mem_of_mem_getLast? last_mem)
  have next_ne : next ≠ mark := fun next_eq => back_ne (next_eq ▸ next_mem)
  simp [last_eq, next_ne]

/-- What stands on either side of a run in the pieces of a list. -/
theorem eq_of_cutRuns {before after : List (List Char)}
    (cut : cutRuns mark chars = before ++ List.replicate count mark :: after) :
    chars = before.flatten ++ List.replicate count mark ++ after.flatten ∧
      before.flatten.getLast? ≠ some mark ∧ after.flatten.head? ≠ some mark := by
  have chain := List.isChain_getLast_head_splitBy
    (fun char next => (char == mark) == (next == mark)) chars
  rw [show chars.splitBy _ = cutRuns mark chars from rfl, cut, List.isChain_append] at chain
  obtain ⟨-, chain_behind, chain_between⟩ := chain
  refine ⟨?_, ?_, ?_⟩
  · rw [← flatten_cutRuns mark chars, cut]
    simp
  · rcases List.eq_nil_or_concat' before with rfl | ⟨pieces, last, rfl⟩
    · simp
    · obtain ⟨last_ne, run_ne, differ⟩ := chain_between last (by simp) _ rfl
      rw [List.head_replicate] at differ
      rw [List.flatten_append, List.flatten_singleton, List.getLast?_append_of_ne_nil _ last_ne,
        List.getLast?_eq_some_getLast last_ne, ne_eq, Option.some_inj]
      simpa using differ
  · cases after with
    | nil => simp
    | cons next pieces =>
        obtain ⟨run_ne, next_ne, differ⟩ := (List.isChain_cons.mp chain_behind).1 next rfl
        rw [List.getLast_replicate] at differ
        rw [List.flatten_cons, List.head?_append_of_ne_nil _ next_ne,
          List.head?_eq_some_head next_ne, ne_eq, Option.some_inj]
        simpa using differ

/-- A piece that starts with the mark is a run of it. -/
theorem eq_replicate_of_mem_cutRuns {piece : List Char} (piece_mem : piece ∈ cutRuns mark chars)
    (head_eq : piece.head? = some mark) : piece = List.replicate piece.length mark := by
  have chain := List.isChain_of_mem_splitBy piece_mem
  clear piece_mem
  induction piece with
  | nil => rfl
  | cons first others ih =>
      obtain rfl : first = mark := Option.some_inj.mp head_eq
      cases others with
      | nil => rfl
      | cons next others =>
          obtain ⟨same, chain⟩ := List.isChain_cons_cons.mp chain
          have next_eq : next = first := by simpa using same
          exact congrArg (first :: ·) (ih (congrArg some next_eq) chain)

/-- Neighbouring pieces are the pieces of what they hold together. -/
theorem cutRuns_flatten {pieces : List (List Char)} (inside : pieces <:+: cutRuns mark chars) :
    cutRuns mark pieces.flatten = pieces := by
  have chain := List.isChain_getLast_head_splitBy
    (fun char next => (char == mark) == (next == mark)) chars
  rw [show chars.splitBy _ = cutRuns mark chars from rfl] at chain
  refine List.splitBy_flatten
    (fun nil_mem => List.nil_notMem_splitBy _ chars (inside.subset nil_mem))
    (fun _ piece_mem => List.isChain_of_mem_splitBy (inside.subset piece_mem)) ?_
  obtain ⟨front, back, cut⟩ := inside
  rw [← cut] at chain
  exact chain.left_of_append.right_of_append

/-- The runs of a mark are the pieces that hold it. -/
theorem replicate_mem_cutRuns_iff (positive : 0 < count) :
    List.replicate count mark ∈ cutRuns mark chars ↔ HasRun mark count chars := by
  constructor
  · intro run_mem
    obtain ⟨before, after, cut⟩ := List.append_of_mem run_mem
    obtain ⟨chars_eq, front_ne, back_ne⟩ := eq_of_cutRuns cut
    exact ⟨before.flatten, after.flatten, chars_eq, front_ne, back_ne⟩
  · rintro ⟨front, back, rfl, front_ne, back_ne⟩
    rw [List.append_assoc, cutRuns_append_run positive front_ne,
      cutRuns_run_append positive back_ne]
    exact List.mem_append_right _ List.mem_cons_self

/-! ## Runs beside other characters -/

theorem HasRun.mark_mem (positive : 0 < count) (run : HasRun mark count chars) : mark ∈ chars := by
  obtain ⟨front, back, rfl, -, -⟩ := run
  simp [Nat.ne_of_gt positive]

theorem HasRun.reverse (run : HasRun mark count chars) : HasRun mark count chars.reverse := by
  obtain ⟨front, back, rfl, front_ne, back_ne⟩ := run
  refine ⟨back.reverse, front.reverse, by simp, ?_, ?_⟩
  · rwa [List.getLast?_reverse]
  · rwa [List.head?_reverse]

theorem hasRun_reverse_iff : HasRun mark count chars.reverse ↔ HasRun mark count chars :=
  ⟨fun run => chars.reverse_reverse ▸ run.reverse, HasRun.reverse⟩

/-- A character that is no mark neither makes nor breaks a run in front of others. -/
theorem hasRun_cons_iff {char : Char} (positive : 0 < count) (char_ne : char ≠ mark) :
    HasRun mark count (char :: chars) ↔ HasRun mark count chars := by
  constructor
  · rintro ⟨front, back, chars_eq, front_ne, back_ne⟩
    cases front with
    | nil =>
        obtain ⟨others, rfl⟩ := Nat.exists_eq_add_of_lt positive
        rw [List.nil_append, Nat.zero_add, List.replicate_succ] at chars_eq
        exact absurd (List.cons.inj chars_eq).1 char_ne
    | cons first front =>
        obtain ⟨rfl, others_eq⟩ := List.cons.inj chars_eq
        refine ⟨front, back, others_eq, fun last_eq => front_ne ?_, back_ne⟩
        rw [List.getLast?_cons, last_eq, Option.getD_some]
  · rintro ⟨front, back, rfl, front_ne, back_ne⟩
    refine ⟨char :: front, back, rfl, ?_, back_ne⟩
    rw [List.getLast?_cons, ne_eq, Option.some_inj]
    cases last_eq : front.getLast? with
    | none => exact char_ne
    | some last => exact fun last_mark => front_ne (last_eq.trans (congrArg some last_mark))

theorem hasRun_concat_iff {char : Char} (positive : 0 < count) (char_ne : char ≠ mark) :
    HasRun mark count (chars ++ [char]) ↔ HasRun mark count chars := by
  rw [← hasRun_reverse_iff, List.reverse_append, List.reverse_singleton, List.singleton_append,
    hasRun_cons_iff positive char_ne, hasRun_reverse_iff]

/-- The run that a list starts with is told by the list. -/
theorem eq_of_run_append {count' : Nat} {back' : List Char} (positive : 0 < count)
    (positive' : 0 < count') (back_ne : back.head? ≠ some mark) (back_ne' : back'.head? ≠ some mark)
    (chars_eq : List.replicate count mark ++ back = List.replicate count' mark ++ back') :
    count = count' ∧ back = back' := by
  have cut_eq := congrArg (cutRuns mark) chars_eq
  rw [cutRuns_run_append positive back_ne, cutRuns_run_append positive' back_ne'] at cut_eq
  have count_eq : count = count' := by
    simpa using congrArg List.length (List.cons.inj cut_eq).1
  subst count_eq
  exact ⟨rfl, List.append_cancel_left chars_eq⟩

end

end Text
end RefDocs
