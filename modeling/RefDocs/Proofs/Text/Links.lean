import Mathlib.Data.List.Forall2
import RefDocs.Proofs.Text.EscapedBrackets

/-!
# Texts with links

A reader of running text sees each link `[text](path)` as its text.  Brackets with nothing in them,
as behind the component type of an array, and the parentheses of an annotation are no links.
-/

namespace RefDocs
namespace Text

/-- A list of characters starts with a path in parentheses. -/
def opensWithPath (chars : List Char) : Bool :=
  chars.head? == some '(' && chars.contains ')'

/-- A list of characters in which each link is replaced by its text.  The reader holds what stands
in front of the brackets that are open, innermost first, and what it has shown since; inside a path
it shows nothing. -/
def unlinkedList (outer : List (List Char)) (shown : List Char) (inPath : Bool) :
    List Char → List Char
  | [] => outer.foldl (fun inner before => before ++ '[' :: inner) shown
  | char :: rest =>
    if inPath then unlinkedList outer shown (char != ')') rest
    else if char = '[' then unlinkedList (shown :: outer) [] false rest
    else if char = ']' then
      match outer with
      | [] => unlinkedList [] (shown ++ [char]) false rest
      | before :: others =>
        if opensWithPath rest then unlinkedList others (before ++ shown) true rest
        else unlinkedList others (before ++ '[' :: shown ++ [char]) false rest
    else unlinkedList outer (shown ++ [char]) false rest

section

variable (outer : List (List Char)) (before shown rest : List Char)

theorem unlinkedList_plain {char : Char} (plain : char ∉ ['[', ']']) :
    unlinkedList outer shown false (char :: rest) =
      unlinkedList outer (shown ++ [char]) false rest := by
  simp only [List.mem_cons, List.not_mem_nil, or_false, not_or] at plain
  rw [unlinkedList.eq_def]
  simp only [Bool.false_eq_true, if_false, if_neg plain.1, if_neg plain.2]

theorem unlinkedList_open : unlinkedList outer shown false ('[' :: rest) =
    unlinkedList (shown :: outer) [] false rest := by
  rw [unlinkedList.eq_def]
  simp

theorem unlinkedList_close : unlinkedList (before :: outer) shown false (']' :: rest) =
    if opensWithPath rest then unlinkedList outer (before ++ shown) true rest
    else unlinkedList outer (before ++ '[' :: shown ++ [']']) false rest := by
  rw [unlinkedList.eq_def]
  simp

theorem unlinkedList_inPath (char : Char) : unlinkedList outer shown true (char :: rest) =
    unlinkedList outer shown (char != ')') rest := by
  rw [unlinkedList.eq_def]
  simp

end

/-- A text in which each link is replaced by its text. -/
def unlinked (text : String) : String :=
  .ofList (unlinkedList [] [] false text.toList)

/-- A list of characters without links: brackets are empty, and a parenthesis is opened behind
another character. -/
inductive Linkless : List Char → Prop
  /-- Nothing. -/
  | nil : Linkless []
  /-- A character that is no mark of a link. -/
  | char {char : Char} {rest : List Char} : char ∉ ['[', ']', '('] → Linkless rest →
    Linkless (char :: rest)
  /-- Such a character in front of a parenthesis. -/
  | call {char : Char} {rest : List Char} : char ∉ ['[', ']', '('] → Linkless rest →
    Linkless (char :: '(' :: rest)
  /-- Empty brackets. -/
  | brackets {rest : List Char} : Linkless rest → Linkless ('[' :: ']' :: rest)

theorem head?_append_ne {front back : List Char} {char : Char} (front_ne : front.head? ≠ some char)
    (back_ne : back.head? ≠ some char) : (front ++ back).head? ≠ some char := by
  cases front with
  | nil => exact back_ne
  | cons first rest => exact front_ne

namespace Linkless

variable {front back rest : List Char}

theorem append (front_linkless : Linkless front) (back_linkless : Linkless back) :
    Linkless (front ++ back) := by
  induction front_linkless with
  | nil => exact back_linkless
  | char plain _ ih => exact .char plain ih
  | call plain _ ih => exact .call plain ih
  | brackets _ ih => exact .brackets ih

theorem of_plain (plain : ∀ char ∈ front, char ∉ ['[', ']', '(']) : Linkless front := by
  induction front with
  | nil => exact .nil
  | cons char rest ih =>
      rw [List.forall_mem_cons] at plain
      exact .char plain.1 (ih plain.2)

theorem of_lacks {text : String} (lacks : Lacks ['[', ']', '('] text) : Linkless text.toList :=
  .of_plain lacks

/-- A call is a name and the parenthesis behind it. -/
theorem of_plain_call {first : Char} (plain : ∀ char ∈ first :: front, char ∉ ['[', ']', '(']) :
    Linkless (first :: (front ++ ['('])) := by
  induction front generalizing first with
  | nil => exact .call (plain first (by simp)) .nil
  | cons next rest ih =>
      rw [List.forall_mem_cons] at plain
      exact .char plain.1 (ih plain.2)

theorem head_ne (linkless : Linkless front) : front.head? ≠ some '(' := by
  cases linkless with
  | nil => simp
  | char plain _ | call plain _ =>
      rintro ⟨⟩
      exact plain (by simp)
  | brackets _ => simp

/-- What stands in front of empty brackets holds no link either. -/
theorem of_append_brackets (linkless : Linkless (front ++ ['[', ']'])) : Linkless front := by
  generalize whole_eq : front ++ ['[', ']'] = whole at linkless
  induction linkless generalizing front with
  | nil => simp at whole_eq
  | char plain _ ih =>
      cases front with
      | nil =>
          obtain ⟨rfl, -⟩ := List.cons.inj whole_eq
          exact absurd (by simp) plain
      | cons first others =>
          obtain ⟨rfl, others_eq⟩ := List.cons.inj whole_eq
          exact .char plain (ih others_eq)
  | call plain _ ih =>
      match front with
      | [] | [_] => simp at whole_eq
      | first :: second :: others =>
          obtain ⟨rfl, rfl, others_eq⟩ := by simpa using whole_eq
          exact .call plain (ih others_eq)
  | brackets _ ih =>
      match front with
      | [] => exact .nil
      | [_] => simp at whole_eq
      | first :: second :: others =>
          obtain ⟨rfl, rfl, others_eq⟩ := by simpa using whole_eq
          exact .brackets (ih others_eq)

/-- A reader shows a text without links as it is. -/
theorem unlinkedList_append (linkless : Linkless front) (outer : List (List Char))
    (shown : List Char) (no_path : rest.head? ≠ some '(') :
    unlinkedList outer shown false (front ++ rest) =
      unlinkedList outer (shown ++ front) false rest := by
  induction linkless generalizing shown with
  | nil => rw [List.nil_append, List.append_nil]
  | @char first _ plain _ ih =>
      have no_bracket : first ∉ ['[', ']'] := fun bracket_mem =>
        plain (List.mem_append_left ['('] bracket_mem)
      rw [List.cons_append, unlinkedList_plain _ _ _ no_bracket, ih, List.append_assoc,
        List.singleton_append]
  | @call first _ plain _ ih =>
      have no_bracket : first ∉ ['[', ']'] := fun bracket_mem =>
        plain (List.mem_append_left ['('] bracket_mem)
      rw [List.cons_append, unlinkedList_plain _ _ _ no_bracket, List.cons_append,
        unlinkedList_plain _ _ _ (by decide), ih]
      simp
  | @brackets others linkless ih =>
      have no_link : opensWithPath (others ++ rest) = false := by
        rw [opensWithPath, beq_false_of_ne (head?_append_ne linkless.head_ne no_path),
          Bool.false_and]
      rw [List.cons_append, unlinkedList_open, List.cons_append, unlinkedList_close, no_link,
        if_neg (by decide), ih]
      simp

end Linkless

/-- Inside a path a reader shows nothing. -/
theorem unlinkedList_path {path : List Char} (no_end : ')' ∉ path) (outer : List (List Char))
    (shown rest : List Char) :
    unlinkedList outer shown true (path ++ ')' :: rest) = unlinkedList outer shown false rest := by
  induction path with
  | nil => exact unlinkedList_inPath outer shown rest ')'
  | cons char path ih =>
      rw [List.mem_cons, not_or] at no_end
      have goes_on : (char != ')') = true := by simpa using Ne.symm no_end.1
      rw [List.cons_append, unlinkedList_inPath, goes_on, ih no_end.2]

/-! ## Pieces of texts -/

/-- A reader shows a piece as the given text, where no path follows. -/
structure Unlinks (piece shown : String) : Prop where
  /-- The piece starts with no path itself. -/
  no_path : piece.toList.head? ≠ some '('
  /-- It is read behind anything. -/
  reads : ∀ outer before rest, rest.head? ≠ some '(' →
    unlinkedList outer before false (piece.toList ++ rest) =
      unlinkedList outer (before ++ shown.toList) false rest

namespace Unlinks

variable {piece piece' shown shown' : String}

theorem append (front : Unlinks piece shown) (back : Unlinks piece' shown') :
    Unlinks (piece ++ piece') (shown ++ shown') := by
  constructor
  · rw [String.toList_append]
    exact head?_append_ne front.no_path back.no_path
  · intro outer before rest no_path
    rw [String.toList_append, String.toList_append, List.append_assoc,
      front.reads outer before _ (head?_append_ne back.no_path no_path), back.reads _ _ _ no_path,
      List.append_assoc]

theorem unlinked_eq (unlinks : Unlinks piece shown) : unlinked piece = shown := by
  have whole := unlinks.reads [] [] [] (by simp)
  rw [List.append_nil, unlinkedList, List.foldl_nil, List.nil_append] at whole
  rw [unlinked, whole, String.ofList_toList]

end Unlinks

theorem Linkless.unlinks {text : String} (linkless : Linkless text.toList) : Unlinks text text :=
  ⟨linkless.head_ne, fun outer before _ no_path => linkless.unlinkedList_append outer before no_path⟩

/-- A reader shows a link as its text. -/
theorem unlinks_link {text path : String} (linkless : Linkless text.toList)
    (no_end : ')' ∉ path.toList) : Unlinks ("[" ++ text ++ "](" ++ path ++ ")") text := by
  have chars_eq : ("[" ++ text ++ "](" ++ path ++ ")").toList =
      '[' :: (text.toList ++ ']' :: '(' :: (path.toList ++ [')'])) := by
    simp
  constructor
  · rw [chars_eq]
    simp
  · intro outer before rest _
    have opens : opensWithPath ('(' :: (path.toList ++ ')' :: rest)) = true := by
      simp [opensWithPath]
    rw [chars_eq, List.cons_append, List.append_assoc, unlinkedList_open, List.cons_append,
      linkless.unlinkedList_append _ _ (by simp), List.nil_append, List.cons_append,
      List.append_assoc, List.singleton_append, unlinkedList_close, opens, if_pos rfl,
      unlinkedList_inPath]
    exact unlinkedList_path no_end outer (before ++ text.toList) rest

/-! ## What is seen -/

/-- What a reader of running text sees: the text of each link, and each bracket without the backslash
that escapes it. -/
def seen (text : String) : String :=
  bare (unlinked text)

/-- A reader sees a piece of running text as the given text, where no path follows. -/
def Sees (piece shown : String) : Prop :=
  ∃ text, Unlinks piece text ∧ Bares text shown

/-- The characters that make links and escapes. -/
def linkMarks : List Char :=
  ['[', ']', '(', ')', '\\']

theorem Lacks.linkless {text : String} (lacks : Lacks linkMarks text) : Linkless text.toList :=
  .of_lacks (lacks.mono (by decide))

theorem Linkless.sees {text shown : String} (linkless : Linkless text.toList)
    (bares : Bares text shown) : Sees text shown :=
  ⟨text, linkless.unlinks, bares⟩

theorem Lacks.sees {text : String} (lacks : Lacks linkMarks text) : Sees text text :=
  lacks.linkless.sees (bares_of_lacks (lacks.mono (by decide)))

namespace Sees

theorem seen_eq {piece shown : String} (sees : Sees piece shown) : seen piece = shown := by
  obtain ⟨text, unlinks, bares⟩ := sees
  rw [seen, unlinks.unlinked_eq, bares.bare_eq]

theorem append {piece piece' shown shown' : String} (front : Sees piece shown)
    (back : Sees piece' shown') : Sees (piece ++ piece') (shown ++ shown') := by
  obtain ⟨text, unlinks, bares⟩ := front
  obtain ⟨text', unlinks', bares'⟩ := back
  exact ⟨text ++ text', unlinks.append unlinks', bares.append bares'⟩

theorem join {separator : String} (separator_seen : Sees separator separator)
    {pieces shown : List String} (pieces_seen : List.Forall₂ Sees pieces shown) :
    Sees (Text.join separator pieces) (Text.join separator shown) := by
  induction pieces_seen with
  | nil => exact Lacks.sees (by decide : Lacks linkMarks "")
  | cons first rest ih =>
      cases rest with
      | nil => simpa [Text.join] using first
      | cons next others =>
          rw [join_cons (List.cons_ne_nil _ _), join_cons (List.cons_ne_nil _ _)]
          exact (first.append separator_seen).append ih

end Sees

end Text
end RefDocs
