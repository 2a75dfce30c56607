import RefDocs.Markup.Sentence
import RefDocs.Proofs.Markup.NormalForm

/-!
# The normal form of first sentences

A first sentence is the start of a comment without its paragraph tags.  Behind each node of it,
the open elements are those of the whole comment besides the paragraphs, so every end tag that the
comment accepts is accepted in the sentence too.
-/

namespace RefDocs
namespace Markup

/-- Nodes have a normal form inside the given open elements. -/
def HasNormalForm (opened : List String) (nodes : List DocNode) : Prop :=
  ∃ normal, normalizeIn opened nodes = .ok normal

/-- The open elements behind a start tag, innermost first. -/
def openBehindStart (name : String) (opened : List String) : List String :=
  let around := (beforeStart (lowerName name) opened).2
  if isVoid (lowerName name) then around else lowerName name :: around

/-! ## Normal forms node by node -/

section Nodes

variable {opened : List String} {name : String} {rest : List DocNode}

theorem hasNormalForm_nil (opened : List String) : HasNormalForm opened [] :=
  ⟨_, rfl⟩

theorem hasNormalForm_start_iff :
    HasNormalForm opened (.startElement name :: rest) ↔
      HasNormalForm (openBehindStart name opened) rest := by
  constructor
  · rintro ⟨normal, normalized⟩
    obtain ⟨others, others_eq, -⟩ := bind_eq_ok_iff.mp normalized
    exact ⟨others, others_eq⟩
  · rintro ⟨others, others_eq⟩
    exact ⟨_, bind_eq_ok_iff.mpr ⟨others, others_eq, rfl⟩⟩

theorem hasNormalForm_voidEnd_iff (void : isVoid (lowerName name) = true) :
    HasNormalForm opened (.endElement name :: rest) ↔ HasNormalForm opened rest := by
  rw [HasNormalForm, normalizeIn, if_pos void, HasNormalForm]

/-- An end tag needs its element to be the innermost one, once a paragraph in it is closed. -/
theorem hasNormalForm_end_iff (not_void : isVoid (lowerName name) = false) :
    HasNormalForm opened (.endElement name :: rest) ↔
      ∃ outer, (beforeEnd (lowerName name) opened).2 = lowerName name :: outer ∧
        HasNormalForm outer rest := by
  have not_void : ¬ isVoid (lowerName name) = true := by simp [not_void]
  rw [HasNormalForm, normalizeIn, if_neg not_void]
  generalize beforeEnd (lowerName name) opened = due
  obtain ⟨closing, _ | ⟨innermost, outer⟩⟩ := due
  · constructor
    · rintro ⟨normal, ⟨⟩⟩
    · rintro ⟨outer, ⟨⟩, -⟩
  · dsimp only
    constructor
    · rintro ⟨normal, normalized⟩
      split at normalized
      · rename_i matching_names
        obtain ⟨others, others_eq, -⟩ := bind_eq_ok_iff.mp normalized
        exact ⟨outer, by rw [matching_names], others, others_eq⟩
      · cases normalized
    · rintro ⟨outer, stack_eq, others, others_eq⟩
      obtain ⟨rfl, rfl⟩ := List.cons_eq_cons.mp stack_eq
      rw [if_pos rfl]
      exact ⟨_, bind_eq_ok_iff.mpr ⟨others, others_eq, rfl⟩⟩

theorem hasNormalForm_plain_iff {node : DocNode} (plain : IsPlain node) :
    HasNormalForm opened (node :: rest) ↔ HasNormalForm opened rest := by
  rw [HasNormalForm, normalizeIn.eq_4 opened node rest plain.not_start plain.not_end]
  constructor
  · rintro ⟨normal, normalized⟩
    obtain ⟨others, others_eq, -⟩ := bind_eq_ok_iff.mp normalized
    exact ⟨others, others_eq⟩
  · rintro ⟨others, others_eq⟩
    exact ⟨_, bind_eq_ok_iff.mpr ⟨others, others_eq, rfl⟩⟩

end Nodes

theorem hasNormalForm_cons_congr {rest rest' : List DocNode}
    (same : ∀ opened, HasNormalForm opened rest ↔ HasNormalForm opened rest')
    (opened : List String) (node : DocNode) :
    HasNormalForm opened (node :: rest) ↔ HasNormalForm opened (node :: rest') := by
  cases unnamed : node.elementName? with
  | none =>
      have plain := isPlain_of_unnamed unnamed
      rw [hasNormalForm_plain_iff plain, hasNormalForm_plain_iff plain, same]
  | some name =>
      cases node with
      | startElement name => rw [hasNormalForm_start_iff, hasNormalForm_start_iff, same]
      | endElement name =>
          cases void : isVoid (lowerName name) with
          | true => rw [hasNormalForm_voidEnd_iff void, hasNormalForm_voidEnd_iff void, same]
          | false => simp only [hasNormalForm_end_iff void, same]
      | _ => cases unnamed

/-- Block tags do not matter to the normal form of what is around them. -/
theorem hasNormalForm_body_iff {opened : List String} {nodes : List DocNode} :
    HasNormalForm opened (body nodes) ↔ HasNormalForm opened nodes := by
  induction nodes generalizing opened with
  | nil => rfl
  | cons node rest ih =>
      cases node with
      | blockTag name param tagBody =>
          have plain : IsPlain (.blockTag name param tagBody) := isPlain_of_unnamed rfl
          rw [hasNormalForm_plain_iff plain]
          exact ih
      | _ => exact hasNormalForm_cons_congr (fun _ => ih) opened _

/-! ## Open elements besides paragraphs -/

/-- The open elements that are no paragraphs. -/
def besidesParagraphs (opened : List String) : List String :=
  opened.filter fun name => name ≠ "p"

theorem besidesParagraphs_cons_paragraph (opened : List String) :
    besidesParagraphs ("p" :: opened) = besidesParagraphs opened :=
  List.filter_cons_of_neg (by simp)

theorem besidesParagraphs_cons {name : String} (not_paragraph : name ≠ "p")
    (opened : List String) :
    besidesParagraphs (name :: opened) = name :: besidesParagraphs opened :=
  List.filter_cons_of_pos (by simpa using not_paragraph)

theorem paragraph_not_mem_besidesParagraphs (opened : List String) :
    "p" ∉ besidesParagraphs opened := by
  simp [besidesParagraphs]

/-- Only a paragraph is closed before a start tag. -/
theorem besidesParagraphs_beforeStart (name : String) (opened : List String) :
    besidesParagraphs (beforeStart name opened).2 = besidesParagraphs opened := by
  rcases beforeStart_cases name opened with ⟨outer, rfl, -, cut⟩ | ⟨cut, -⟩
  · rw [cut, besidesParagraphs_cons_paragraph]
  · rw [cut]

/-- Only a paragraph is closed before an end tag. -/
theorem besidesParagraphs_beforeEnd (name : String) (opened : List String) :
    besidesParagraphs (beforeEnd name opened).2 = besidesParagraphs opened := by
  rcases beforeEnd_cases name opened with ⟨outer, rfl, -, cut⟩ | cut
  · rw [cut, besidesParagraphs_cons_paragraph]
  · rw [cut]

/-- Where no paragraph is open, none is closed before a start tag. -/
theorem beforeStart_eq_of_not_mem {name : String} {opened : List String}
    (no_paragraph : "p" ∉ opened) : beforeStart name opened = ([], opened) := by
  rcases beforeStart_cases name opened with ⟨outer, rfl, -⟩ | ⟨nothing_due, -⟩
  · exact absurd List.mem_cons_self no_paragraph
  · exact nothing_due

/-- Where no paragraph is open, none is closed before an end tag. -/
theorem beforeEnd_eq_of_not_mem {name : String} {opened : List String}
    (no_paragraph : "p" ∉ opened) : beforeEnd name opened = ([], opened) := by
  rcases beforeEnd_cases name opened with ⟨outer, rfl, -⟩ | nothing_due
  · exact absurd List.mem_cons_self no_paragraph
  · exact nothing_due

theorem openBehindStart_besidesParagraphs {name : String} (not_paragraph : lowerName name ≠ "p")
    (opened : List String) :
    openBehindStart name (besidesParagraphs opened) =
      besidesParagraphs (openBehindStart name opened) := by
  have no_paragraph := paragraph_not_mem_besidesParagraphs opened
  rw [openBehindStart, openBehindStart, beforeStart_eq_of_not_mem no_paragraph]
  dsimp only
  split
  · exact (besidesParagraphs_beforeStart _ opened).symm
  · rw [besidesParagraphs_cons not_paragraph, besidesParagraphs_beforeStart]

/-! ## First sentences -/

/-- What is left of a comment in its first sentence has a normal form inside the open elements
besides paragraphs. -/
theorem HasNormalForm.sentenceFrom {opened : List String} {nodes : List DocNode}
    (normal : HasNormalForm opened nodes) (content : Bool) :
    HasNormalForm (besidesParagraphs opened) (sentenceFrom content nodes) := by
  fun_induction Markup.sentenceFrom content nodes generalizing opened with
  | case1 | case2 | case5 => exact hasNormalForm_nil _
  | case3 => exact ⟨_, rfl⟩
  | case4 content text rest uncut ih =>
      have plain : IsPlain (.text text) := isPlain_of_unnamed rfl
      rw [hasNormalForm_plain_iff plain] at normal ⊢
      exact ih normal
  | case6 content name rest _ paragraph ih =>
      -- The tag opens a paragraph in the comment and is left out of the sentence.
      have name_eq : lowerName name = "p" := by simpa [isParagraph] using paragraph
      have same : besidesParagraphs (openBehindStart name opened) = besidesParagraphs opened := by
        rw [openBehindStart, name_eq, if_neg (by decide), besidesParagraphs_cons_paragraph,
          besidesParagraphs_beforeStart]
      rw [← same]
      exact ih (hasNormalForm_start_iff.mp normal)
  | case7 content name rest _ not_paragraph ih =>
      have not_paragraph : lowerName name ≠ "p" := by simpa [isParagraph] using not_paragraph
      rw [hasNormalForm_start_iff] at normal ⊢
      rw [openBehindStart_besidesParagraphs not_paragraph]
      exact ih normal
  | case8 content name rest paragraph ih =>
      have name_eq : lowerName name = "p" := by simpa [isParagraph] using paragraph
      obtain ⟨outer, stack_eq, rest_normal⟩ :=
        (hasNormalForm_end_iff (by rw [name_eq]; decide)).mp normal
      have same : besidesParagraphs opened = besidesParagraphs outer := by
        rw [← besidesParagraphs_beforeEnd (lowerName name), stack_eq, name_eq,
          besidesParagraphs_cons_paragraph]
      rw [same]
      exact ih rest_normal
  | case9 content name rest not_paragraph ih =>
      have not_paragraph : lowerName name ≠ "p" := by simpa [isParagraph] using not_paragraph
      cases void : isVoid (lowerName name) with
      | true =>
          rw [hasNormalForm_voidEnd_iff void] at normal ⊢
          exact ih normal
      | false =>
          rw [hasNormalForm_end_iff void] at normal ⊢
          obtain ⟨outer, stack_eq, rest_normal⟩ := normal
          refine ⟨besidesParagraphs outer, ?_, ih rest_normal⟩
          rw [beforeEnd_eq_of_not_mem (paragraph_not_mem_besidesParagraphs opened),
            ← besidesParagraphs_beforeEnd (lowerName name), stack_eq,
            besidesParagraphs_cons not_paragraph]
  | case10 content node rest _ _ not_start not_end ih =>
      have plain : IsPlain node := ⟨not_start, not_end⟩
      rw [hasNormalForm_plain_iff plain] at normal ⊢
      exact ih normal

/-- The first sentence of a comment has a normal form if the comment without its block tags has
one. -/
theorem exists_normalize_firstSentence {nodes : List DocNode}
    (normal : ∃ described, normalize (body nodes) = .ok described) :
    ∃ sentence, normalize (firstSentence nodes) = .ok sentence :=
  (hasNormalForm_body_iff.mp normal).sentenceFrom false

end Markup
end RefDocs
