import RefDocs.Proofs.Markup.RenderedTags
import RefDocs.Proofs.Text.Runs

/-!
# Code spans

A reader of a page takes a run of backticks for the start of a code span, which goes on to the next
run of the same length.  It shows line breaks in the code as blanks, and leaves out one blank at
either end of code that has one at both ends and something else between.
-/

namespace RefDocs
namespace Markup

open Text (HasRun cutRuns)

/-! ## Reading code -/

/-- Characters with each line break as a blank; the characters may stand behind a carriage return,
which a line feed belongs to. -/
def onOneLine : Bool → List Char → List Char
  | _, [] => []
  | behindReturn, char :: rest =>
    if char = '\n' ∧ behindReturn then onOneLine false rest
    else (if char = '\n' ∨ char = '\r' then ' ' else char) :: onOneLine (char == '\r') rest

/-- A blank stands at either end of a line, and something else between. -/
def isPadded (line : List Char) : Bool :=
  line.head? == some ' ' && line.getLast? == some ' ' && line.any (· != ' ')

/-- The code that a reader shows for the content of a span. -/
def shownCode (content : List Char) : List Char :=
  let line := onOneLine false content
  if isPadded line then line.tail.dropLast else line

/-- The code in the span at the start of a list of characters, and what follows that span. -/
def readCode? (chars : List Char) : Option (List Char × List Char) :=
  match cutRuns '`' chars with
  | [] => none
  | fence :: pieces =>
    if fence.head? = some '`' ∧ fence ∈ pieces then
      some (shownCode (pieces.takeWhile (· != fence)).flatten,
        (pieces.dropWhile (· != fence)).tail.flatten)
    else none

theorem onOneLine_concat_blank (behindReturn : Bool) (chars : List Char) :
    onOneLine behindReturn (chars ++ [' ']) = onOneLine behindReturn chars ++ [' '] := by
  induction chars generalizing behindReturn with
  | nil => simp [onOneLine]
  | cons char rest ih =>
      rw [List.cons_append, onOneLine, onOneLine]
      split
      · exact ih false
      · rw [ih, List.cons_append]

theorem mem_onOneLine {char : Char} (no_break : char ≠ '\n' ∧ char ≠ '\r') (behindReturn : Bool)
    {chars : List Char} (char_mem : char ∈ chars) : char ∈ onOneLine behindReturn chars := by
  induction chars generalizing behindReturn with
  | nil => exact absurd char_mem List.not_mem_nil
  | cons first rest ih =>
      rw [onOneLine]
      rcases List.mem_cons.mp char_mem with rfl | rest_mem
      · rw [if_neg (fun is_break => no_break.1 is_break.1), if_neg (not_or.mpr no_break)]
        exact List.mem_cons_self
      · split
        · exact ih false rest_mem
        · exact List.mem_cons_of_mem _ (ih _ rest_mem)

/-- One blank at either end of code with anything else in it is not shown. -/
theorem shownCode_padded {char : Char} {chars : List Char}
    (visible : char ∉ ['\n', '\r', ' ']) (char_mem : char ∈ chars) :
    shownCode (' ' :: (chars ++ [' '])) = onOneLine false chars := by
  simp only [List.mem_cons, List.not_mem_nil, or_false, not_or] at visible
  have line_eq : onOneLine false (' ' :: (chars ++ [' '])) =
      ' ' :: (onOneLine false chars ++ [' ']) := by
    rw [← onOneLine_concat_blank]
    rfl
  have padded : isPadded (' ' :: (onOneLine false chars ++ [' '])) = true := by
    have any_visible : (onOneLine false chars).any (· != ' ') = true :=
      List.any_eq_true.mpr
        ⟨char, mem_onOneLine ⟨visible.1, visible.2.1⟩ false char_mem, by simpa using visible.2.2⟩
    simp [isPadded, any_visible, List.getLast?_cons]
  rw [shownCode, line_eq, padded, if_pos rfl, List.tail_cons, List.dropLast_concat]

/-- Other code is shown as it is, line breaks apart. -/
theorem shownCode_eq_iff (chars : List Char) :
    shownCode chars = onOneLine false chars ↔ isPadded (onOneLine false chars) = false := by
  rw [shownCode]
  cases padded : isPadded (onOneLine false chars) with
  | false => simp
  | true =>
      rw [if_pos rfl, iff_false_right (by decide)]
      intro same
      have shorter := congrArg List.length same
      rw [List.length_dropLast, List.length_tail] at shorter
      have empty : onOneLine false chars = [] := List.eq_nil_of_length_eq_zero (by omega)
      rw [empty] at padded
      exact absurd padded (by decide)

section

variable {count : Nat} {content rest shown : List Char}

/-- Content between two fences is read, if no run in it is as long as they are. -/
theorem readCode?_fenced (positive : 0 < count) (content_ne : content.head? ≠ some '`')
    (content_ne' : content.getLast? ≠ some '`') (rest_ne : rest.head? ≠ some '`')
    (content_nil : content ≠ []) (no_run : ¬ HasRun '`' count content) :
    readCode? (List.replicate count '`' ++ (content ++ (List.replicate count '`' ++ rest))) =
      some (shownCode content, rest) := by
  have behind_ne : (content ++ (List.replicate count '`' ++ rest)).head? ≠ some '`' := by
    rwa [List.head?_append_of_ne_nil _ content_nil]
  have pieces_ne : ∀ piece ∈ cutRuns '`' content,
      (piece != List.replicate count '`') = true := by
    intro piece piece_mem
    rw [bne_iff_ne]
    rintro rfl
    exact no_run ((Text.replicate_mem_cutRuns_iff positive).mp piece_mem)
  have fence_head : (List.replicate count '`').head? = some '`' := by
    rw [List.head?_replicate, if_neg (Nat.ne_of_gt positive)]
  rw [readCode?, Text.cutRuns_run_append positive behind_ne,
    Text.cutRuns_append_run positive content_ne', Text.cutRuns_run_append positive rest_ne]
  dsimp only
  rw [if_pos ⟨fence_head, List.mem_append_right _ List.mem_cons_self⟩,
    List.takeWhile_append_of_pos pieces_ne, List.dropWhile_append_of_pos pieces_ne]
  simp [Text.flatten_cutRuns]

/-- The runs between the first run and the next one of its length are what stands between two
fences. -/
theorem fenced_of_cutRuns {chars : List Char} {front back : List (List Char)}
    (positive : 0 < count) (cut : cutRuns '`' chars =
      List.replicate count '`' :: (front ++ List.replicate count '`' :: back))
    (fence_not_mem : List.replicate count '`' ∉ front) :
    chars = List.replicate count '`' ++
        (front.flatten ++ (List.replicate count '`' ++ back.flatten)) ∧
      front.flatten ≠ [] ∧ front.flatten.head? ≠ some '`' ∧ back.flatten.head? ≠ some '`' ∧
      ¬ HasRun '`' count front.flatten := by
  have cut_first : cutRuns '`' chars =
      [] ++ List.replicate count '`' :: (front ++ List.replicate count '`' :: back) := cut
  have cut_next : cutRuns '`' chars =
      (List.replicate count '`' :: front) ++ List.replicate count '`' :: back := cut
  obtain ⟨chars_eq, -, behind_ne⟩ := Text.eq_of_cutRuns cut_first
  obtain ⟨-, -, rest_head⟩ := Text.eq_of_cutRuns cut_next
  rw [List.flatten_append, List.flatten_cons] at behind_ne
  have content_ne : front.flatten ≠ [] := by
    intro content_eq
    have fence_head : (List.replicate count '`').head? = some '`' := by
      rw [List.head?_replicate, if_neg (by omega)]
    have fence_ne : List.replicate count '`' ≠ [] := by
      rw [ne_eq, List.replicate_eq_nil_iff]
      omega
    rw [content_eq, List.nil_append, List.head?_append_of_ne_nil _ fence_ne] at behind_ne
    exact behind_ne fence_head
  rw [List.head?_append_of_ne_nil _ content_ne] at behind_ne
  refine ⟨by simpa using chars_eq, content_ne, behind_ne, rest_head, ?_⟩
  have inside : front <:+: cutRuns '`' chars :=
    ⟨[List.replicate count '`'], List.replicate count '`' :: back, by simp [cut]⟩
  rwa [← Text.replicate_mem_cutRuns_iff positive, Text.cutRuns_flatten inside]

/-- What is read stands between two fences of one length, with no such run in it. -/
theorem exists_of_readCode? {chars : List Char} (read : readCode? chars = some (shown, rest)) :
    ∃ count content, 0 < count ∧
      chars = List.replicate count '`' ++ (content ++ (List.replicate count '`' ++ rest)) ∧
      content ≠ [] ∧ content.head? ≠ some '`' ∧ rest.head? ≠ some '`' ∧
      ¬ HasRun '`' count content ∧ shown = shownCode content := by
  rw [readCode?] at read
  split at read
  · cases read
  · rename_i fence pieces cut
    split at read
    · rename_i opens
      obtain ⟨fence_head, fence_mem⟩ := opens
      have fence_eq := Text.eq_replicate_of_mem_cutRuns (cut ▸ List.mem_cons_self) fence_head
      generalize fence.length = count at fence_eq
      subst fence_eq
      obtain ⟨front, back, rfl, fence_not_mem⟩ := List.eq_append_cons_of_mem fence_mem
      have positive : 0 < count := by
        rw [List.head?_replicate] at fence_head
        by_contra not_positive
        simp [Nat.eq_zero_of_not_pos not_positive] at fence_head
      have front_ne : ∀ piece ∈ front, (piece != List.replicate count '`') = true := by
        intro piece piece_mem
        rw [bne_iff_ne]
        exact fun piece_eq => fence_not_mem (piece_eq ▸ piece_mem)
      rw [List.takeWhile_append_of_pos front_ne, List.dropWhile_append_of_pos front_ne] at read
      simp only [List.takeWhile_cons, List.dropWhile_cons, bne_self_eq_false, Bool.false_eq_true,
        if_false, List.append_nil, List.tail_cons, Option.some_inj, Prod.mk.injEq] at read
      obtain ⟨rfl, rfl⟩ := read
      obtain ⟨chars_eq, content_ne, content_head, rest_head, no_run⟩ :=
        fenced_of_cutRuns positive cut fence_not_mem
      exact ⟨count, front.flatten, positive, chars_eq, content_ne, content_head, rest_head, no_run,
        rfl⟩
    · cases read

end

/-! ## Written code -/

/-- The length of the fences around a text that is written as code. -/
def fenceLength (text : String) : Nat :=
  if text.toList.contains '`' then 2 else 1

/-- What is written between the fences. -/
def spanContent (text : String) : List Char :=
  if text.toList.contains '`' then ' ' :: (text.toList ++ [' ']) else text.toList

section

variable {text : String}

theorem fenceLength_pos (text : String) : 0 < fenceLength text := by
  rw [fenceLength]
  split <;> omega

theorem toList_codeSpan (text : String) :
    (codeSpan text).toList = List.replicate (fenceLength text) '`' ++
      (spanContent text ++ List.replicate (fenceLength text) '`') := by
  rw [codeSpan, fenceLength, spanContent]
  split
  · simp [List.replicate_succ]
  · simp

theorem head?_spanContent_ne (text : String) : (spanContent text).head? ≠ some '`' := by
  rw [spanContent]
  split
  · simp
  · rename_i no_tick
    rw [List.contains_iff_mem] at no_tick
    exact fun head_eq => no_tick (List.mem_of_mem_head? head_eq)

theorem getLast?_spanContent_ne (text : String) : (spanContent text).getLast? ≠ some '`' := by
  rw [spanContent]
  split
  · rw [← List.cons_append, List.getLast?_concat]
    decide
  · rename_i no_tick
    rw [List.contains_iff_mem] at no_tick
    exact fun last_eq => no_tick (List.mem_of_mem_getLast? last_eq)

theorem spanContent_eq_nil_iff : spanContent text = [] ↔ text = "" := by
  rw [spanContent]
  split
  · rename_i tick
    simp only [List.cons_ne_nil, false_iff]
    rintro rfl
    exact absurd tick (by decide)
  · exact String.toList_eq_nil_iff

/-- A run in the content is as long as the fences exactly if the text has a run of two backticks. -/
theorem hasRun_spanContent_iff :
    HasRun '`' (fenceLength text) (spanContent text) ↔ HasRun '`' 2 text.toList := by
  rw [fenceLength, spanContent]
  split
  · rw [Text.hasRun_cons_iff (by decide) (by decide),
      Text.hasRun_concat_iff (by decide) (by decide)]
  · rename_i no_tick
    rw [List.contains_iff_mem] at no_tick
    constructor
    · exact fun run => absurd (run.mark_mem (by decide)) no_tick
    · exact fun run => absurd (run.mark_mem (by decide)) no_tick

/-- The text is shown but for line breaks, unless it is padded and has no backtick. -/
theorem shownCode_spanContent_eq_iff :
    onOneLine false text.toList = shownCode (spanContent text) ↔
      ('`' ∉ text.toList → isPadded (onOneLine false text.toList) = false) := by
  rw [spanContent]
  split
  · rename_i tick
    rw [List.contains_iff_mem] at tick
    rw [shownCode_padded (by decide) tick]
    simp [tick]
  · rename_i no_tick
    rw [List.contains_iff_mem] at no_tick
    rw [eq_comm, shownCode_eq_iff]
    simp [no_tick]

/-- A code span is read off again exactly if its text is not empty, has no run of two backticks and,
where it has no backtick, is not padded, and no backtick follows the span. -/
theorem readCode?_codeSpan_eq_iff (text : String) (rest : List Char) :
    readCode? ((codeSpan text).toList ++ rest) = some (onOneLine false text.toList, rest) ↔
      text ≠ "" ∧ ¬ HasRun '`' 2 text.toList ∧ rest.head? ≠ some '`' ∧
        ('`' ∉ text.toList → isPadded (onOneLine false text.toList) = false) := by
  rw [toList_codeSpan, List.append_assoc, List.append_assoc, ← hasRun_spanContent_iff,
    ← shownCode_spanContent_eq_iff, ne_eq, ← spanContent_eq_nil_iff]
  constructor
  · intro read
    obtain ⟨count, content, positive, chars_eq, content_nil, content_ne, rest_ne, no_run,
      shown_eq⟩ := exists_of_readCode? read
    have span_nil : spanContent text ≠ [] := by
      -- The two fences around nothing are one run, in front of which no content is left.
      intro span_eq
      obtain rfl := spanContent_eq_nil_iff.mp span_eq
      have lengths := congrArg List.length chars_eq
      have content_pos := List.length_pos_of_ne_nil content_nil
      simp [fenceLength, spanContent] at lengths
      omega
    obtain ⟨count_eq, behind_eq⟩ := Text.eq_of_run_append (fenceLength_pos text) positive
      (by rw [List.head?_append_of_ne_nil _ span_nil]; exact head?_spanContent_ne text)
      (by rwa [List.head?_append_of_ne_nil _ content_nil]) chars_eq
    subst count_eq
    obtain rfl := List.append_cancel_right behind_eq
    exact ⟨span_nil, no_run, rest_ne, shown_eq⟩
  · rintro ⟨content_nil, no_run, rest_ne, shown_eq⟩
    rw [shown_eq]
    exact readCode?_fenced (fenceLength_pos text) (head?_spanContent_ne text)
      (getLast?_spanContent_ne text) rest_ne content_nil no_run

/-- Behind the first run of two backticks, a text spills out of its span. -/
theorem readCode?_codeSpan_spilt {front back : List Char} (rest : List Char)
    (text_eq : text.toList = front ++ ('`' :: '`' :: back)) (no_run : ¬ HasRun '`' 2 front)
    (front_ne : front.getLast? ≠ some '`') (back_ne : back.head? ≠ some '`') :
    readCode? ((codeSpan text).toList ++ rest) =
      some (shownCode (' ' :: front), back ++ (' ' :: '`' :: '`' :: rest)) := by
  have tick : text.toList.contains '`' = true := by simp [text_eq]
  have chars_eq : (codeSpan text).toList ++ rest = List.replicate 2 '`' ++ (' ' :: front ++
      (List.replicate 2 '`' ++ (back ++ (' ' :: '`' :: '`' :: rest)))) := by
    simp [toList_codeSpan, fenceLength, spanContent, text_eq, List.replicate_succ]
  have content_last : (' ' :: front).getLast? ≠ some '`' := by
    rw [List.getLast?_cons]
    cases last_eq : front.getLast? with
    | none => decide
    | some last => rwa [last_eq] at front_ne
  have rest_head : (back ++ (' ' :: '`' :: '`' :: rest)).head? ≠ some '`' := by
    cases back with
    | nil => simp
    | cons next others => exact back_ne
  rw [chars_eq]
  refine readCode?_fenced (by decide) (by simp) content_last rest_head (List.cons_ne_nil _ _) ?_
  rwa [Text.hasRun_cons_iff (by decide) (by decide)]

end

/-- A link without a label is written with its default text as code, behind which no backtick stands
in the link. -/
theorem exists_writeNode_link_eq (source : LinkSource) (target : String)
    (member : Option String) : ∃ front back,
      writeNode source (.link target member [] false) =
        front ++ codeSpan (defaultLabel target member) ++ back ∧
      back.toList.head? ≠ some '`' := by
  rw [writeNode, linkTo_eq_wrap, List.isEmpty_nil, if_pos rfl, if_neg (by decide)]
  cases linkPath? source target member with
  | none => exact ⟨"", "", by simp [LinkSource.wrap], by decide⟩
  | some path =>
      exact ⟨"[", "](" ++ path ++ ")", by simp [LinkSource.wrap, String.append_assoc], by simp⟩

/-- Code, and the default text of a link, is written between two fences.  A run in the content is as
long as they are exactly if the text has a run of two backticks, and a reader takes the first such
run for the end of the span.  A reader gets the text back, line breaks shown as blanks, exactly if
it is not empty, has no such run and, where it has no backtick at all, is not padded with blanks,
and no backtick follows. -/
theorem writeNode_code_and_readCode?_iff (source : LinkSource) (text : String) (rest : List Char) :
    writeNode source (.code text) = codeSpan text ∧
      (∀ target member, ∃ front back,
        writeNode source (.link target member [] false) =
          front ++ codeSpan (defaultLabel target member) ++ back ∧
        back.toList.head? ≠ some '`') ∧
      (codeSpan text).toList = List.replicate (fenceLength text) '`' ++
        (spanContent text ++ List.replicate (fenceLength text) '`') ∧
      (HasRun '`' (fenceLength text) (spanContent text) ↔ HasRun '`' 2 text.toList) ∧
      (∀ front back, text.toList = front ++ ('`' :: '`' :: back) → ¬ HasRun '`' 2 front →
        front.getLast? ≠ some '`' → back.head? ≠ some '`' →
        readCode? ((codeSpan text).toList ++ rest) =
          some (shownCode (' ' :: front), back ++ (' ' :: '`' :: '`' :: rest))) ∧
      (readCode? ((codeSpan text).toList ++ rest) = some (onOneLine false text.toList, rest) ↔
        text ≠ "" ∧ ¬ HasRun '`' 2 text.toList ∧ rest.head? ≠ some '`' ∧
          ('`' ∉ text.toList → isPadded (onOneLine false text.toList) = false)) := by
  refine ⟨?_, ?_, ?_, ?_, ?_, ?_⟩
  · rw [writeNode]
  · exact exists_writeNode_link_eq source
  · exact toList_codeSpan text
  · exact hasRun_spanContent_iff
  · exact fun front back text_eq no_run front_ne back_ne =>
      readCode?_codeSpan_spilt rest text_eq no_run front_ne back_ne
  · exact readCode?_codeSpan_eq_iff text rest

example : readCode? ((codeSpan "a`b```c").toList ++ ['.']) = some ("a`b```c".toList, ['.']) := by
  decide

/-- A text with a run of three backticks and one of two. -/
def tickedCode : String :=
  "a```b``c"

theorem readCode?_tickedCode :
    tickedCode.toList = "a```b".toList ++ ('`' :: '`' :: ['c']) ∧ ¬ HasRun '`' 2 "a```b".toList ∧
      "a```b".toList.getLast? ≠ some '`' ∧ ['c'].head? ≠ some '`' ∧
      readCode? ((codeSpan tickedCode).toList ++ ['.']) = some (" a```b".toList, "c ``.".toList) ∧
      ¬ (tickedCode ≠ "" ∧ ¬ HasRun '`' 2 tickedCode.toList) := by
  have text_eq : tickedCode.toList = "a```b".toList ++ ('`' :: '`' :: ['c']) := by decide
  have no_run : ¬ HasRun '`' 2 "a```b".toList := by
    rw [← Text.replicate_mem_cutRuns_iff (by decide)]
    decide
  obtain ⟨-, -, -, -, spilt, read_iff⟩ :=
    writeNode_code_and_readCode?_iff loneSource tickedCode ['.']
  have read : readCode? ((codeSpan tickedCode).toList ++ ['.']) =
      some (" a```b".toList, "c ``.".toList) :=
    (spilt _ _ text_eq no_run (by decide) (by decide)).trans (by decide)
  refine ⟨text_eq, no_run, by decide, by decide, read, fun whole => ?_⟩
  have read_whole := read_iff.mpr ⟨whole.1, whole.2, by decide, fun no_tick =>
    absurd (by decide) no_tick⟩
  exact absurd (read.symm.trans read_whole) (by decide)

/-- A span around two backticks in a row ends at these, and the rest of its text spills out. -/
theorem codeSpan_doubleTick_spills :
    HasRun '`' (fenceLength "a``b") (spanContent "a``b") ∧
      readCode? (codeSpan "a``b").toList = some (" a".toList, "b ``".toList) := by
  constructor
  · exact ⟨" a".toList, "b ".toList, by decide, by decide, by decide⟩
  · decide

end Markup
end RefDocs
