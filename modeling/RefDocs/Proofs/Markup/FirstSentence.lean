import Mathlib.Data.List.Infix
import RefDocs.Proofs.Markup.Sentences

/-!
# First sentences

A first sentence is taken from the start of a comment: the nodes in front of the one that ends it,
without the paragraph tags, and of a text with a point in front of a blank the part up to the first
such point.  Nothing that is taken ends a sentence, so a first sentence is its own first sentence.
-/

namespace RefDocs
namespace Markup

/-! ## Points in front of blanks -/

/-- A point stands right in front of a blank. -/
def HasPoint (chars : List Char) : Prop :=
  ∃ blank, isBlank blank = true ∧ ['.', blank] <:+: chars

theorem not_hasPoint_nil : ¬ HasPoint [] := by
  rintro ⟨blank, -, inside⟩
  exact absurd (List.eq_nil_of_infix_nil inside) (List.cons_ne_nil _ _)

theorem hasPoint_cons_iff {char : Char} {rest : List Char} :
    HasPoint (char :: rest) ↔ char = '.' ∧ rest.head?.any isBlank = true ∨ HasPoint rest := by
  constructor
  · rintro ⟨blank, is_blank, inside⟩
    rcases List.infix_cons_iff.mp inside with first | later
    · obtain ⟨rfl, back, rfl⟩ := List.cons_prefix_cons.mp first
      exact .inl ⟨rfl, is_blank⟩
    · exact .inr ⟨blank, is_blank, later⟩
  · rintro (⟨rfl, next⟩ | ⟨blank, is_blank, later⟩)
    · obtain ⟨blank, first, is_blank⟩ := (Option.any_eq_true _ _).mp next
      obtain ⟨back, rfl⟩ := List.head?_eq_some_iff.mp first
      exact ⟨blank, is_blank, List.infix_cons_iff.mpr (.inl ⟨back, rfl⟩)⟩
    · exact ⟨blank, is_blank, List.infix_cons later⟩

theorem cutSentence?_cons (char : Char) (rest : List Char) :
    cutSentence? (char :: rest) =
      if char = '.' ∧ rest.head?.any isBlank = true then some ['.']
      else (cutSentence? rest).map (char :: ·) := by
  cases rest with
  | nil =>
      rw [cutSentence?.eq_2]
      · simp
      · simp
  | cons next rest =>
      by_cases is_point : char = '.'
      · subst is_point
        simp [cutSentence?]
      · rw [cutSentence?.eq_2]
        · simp [is_point]
        · rintro - - rfl
          exact absurd rfl is_point

/-- A list of characters is cut behind the first point in front of a blank, if there is one. -/
theorem cutSentence?_cases (chars : List Char) :
    cutSentence? chars = none ∧ ¬ HasPoint chars ∨
      ∃ front blank back, chars = front ++ '.' :: blank :: back ∧ isBlank blank = true ∧
        ¬ HasPoint (front ++ ['.']) ∧ cutSentence? chars = some (front ++ ['.']) := by
  induction chars with
  | nil => exact .inl ⟨rfl, not_hasPoint_nil⟩
  | cons char rest ih =>
      rw [cutSentence?_cons]
      by_cases ends : char = '.' ∧ rest.head?.any isBlank = true
      · obtain ⟨rfl, next⟩ := ends
        obtain ⟨blank, first, is_blank⟩ := (Option.any_eq_true _ _).mp next
        obtain ⟨back, rfl⟩ := List.head?_eq_some_iff.mp first
        have no_point : ¬ HasPoint ['.'] := by
          simp [hasPoint_cons_iff, not_hasPoint_nil]
        exact .inr ⟨[], blank, back, rfl, is_blank, no_point, if_pos ⟨rfl, is_blank⟩⟩
      · rw [if_neg ends]
        rcases ih with ⟨uncut, no_point⟩ | ⟨front, blank, back, rfl, is_blank, no_point, cut⟩
        · refine .inl ⟨by rw [uncut, Option.map_none], ?_⟩
          rw [hasPoint_cons_iff]
          exact not_or.mpr ⟨ends, no_point⟩
        · refine .inr ⟨char :: front, blank, back, rfl, is_blank, ?_, by rw [cut]; rfl⟩
          -- The character behind the first one is the same in the part that is cut off.
          have first_eq : (front ++ '.' :: blank :: back).head? = (front ++ ['.']).head? := by
            cases front <;> rfl
          rw [first_eq] at ends
          rw [List.cons_append, hasPoint_cons_iff]
          exact not_or.mpr ⟨ends, no_point⟩

/-! ## What ends a sentence -/

/-- The start or end tag of a paragraph. -/
def isParagraphTag : DocNode → Bool
  | .startElement name | .endElement name => isParagraph name
  | _ => false

/-- The start tag of a block. -/
def startsBlock : DocNode → Bool
  | .startElement name => isBlock name
  | _ => false

/-- Nodes without their paragraph tags. -/
def withoutParagraphs (nodes : List DocNode) : List DocNode :=
  nodes.filter fun node => !isParagraphTag node

/-- A node that does not end a sentence in which readers see something so far, or do not. -/
structure GoesOn (content : Bool) (node : DocNode) : Prop where
  /-- It is no block tag. -/
  no_tag : blockTag? node = none
  /-- It is no text with a point in front of a blank. -/
  no_point : ∀ text, node = .text text → ¬ HasPoint text.toList
  /-- It starts no block behind something that readers see. -/
  no_block : content = true → startsBlock node = false

/-- Nodes none of which ends a sentence. -/
structure RunsOn (nodes : List DocNode) : Prop where
  /-- There is no block tag. -/
  no_tag : ∀ node ∈ nodes, blockTag? node = none
  /-- No text has a point in front of a blank. -/
  no_point : ∀ text, .text text ∈ nodes → ¬ HasPoint text.toList
  /-- No block starts behind a node that readers see. -/
  no_block : nodes.Pairwise fun earlier later =>
    isContent earlier = true → startsBlock later = false

/-- What comes next ends a sentence in which readers see something so far, or do not, and adds the
given nodes to it. -/
inductive EndsAt (content : Bool) : List DocNode → List DocNode → Prop where
  /-- Nothing is left. -/
  | nil : EndsAt content [] []
  /-- A block tag comes next. -/
  | tag (name param body rest) : EndsAt content (.blockTag name param body :: rest) []
  /-- A block starts behind something that readers see. -/
  | block (name rest) (seen : content = true) (block : isBlock name = true) :
      EndsAt content (.startElement name :: rest) []
  /-- A text has a point in front of a blank, and its part up to the first one is added. -/
  | point (text front blank back rest) (text_eq : text.toList = front ++ '.' :: blank :: back)
      (is_blank : isBlank blank = true) (first : ¬ HasPoint (front ++ ['.'])) :
      EndsAt content (.text text :: rest) [.text (.ofList (front ++ ['.']))]

/-- Nodes that are a sentence. -/
structure IsSentence (nodes : List DocNode) : Prop extends RunsOn nodes where
  /-- There is no paragraph tag. -/
  no_paragraph : ∀ node ∈ nodes, isParagraphTag node = false

variable {content : Bool} {node : DocNode} {nodes sentence : List DocNode}

theorem GoesOn.start {name : String} (no_end : ¬ (content && isBlock name) = true) :
    GoesOn content (.startElement name) := by
  refine ⟨rfl, by simp, ?_⟩
  intro seen
  simpa [startsBlock, seen] using no_end

theorem GoesOn.stop (name : String) : GoesOn content (.endElement name) :=
  ⟨rfl, by simp, fun _ => rfl⟩

theorem runsOn_nil : RunsOn [] :=
  ⟨by simp, by simp, .nil⟩

theorem RunsOn.cons (runs : RunsOn nodes) (goes_on : GoesOn content node)
    (no_block : isContent node = true → ∀ later ∈ nodes, startsBlock later = false) :
    RunsOn (node :: nodes) := by
  refine ⟨List.forall_mem_cons.mpr ⟨goes_on.no_tag, runs.no_tag⟩, ?_, ?_⟩
  · intro text text_mem
    rcases List.mem_cons.mp text_mem with text_eq | text_mem
    · exact goes_on.no_point text text_eq.symm
    · exact runs.no_point text text_mem
  · rw [List.pairwise_cons]
    exact ⟨fun later later_mem seen => no_block seen later later_mem, runs.no_block⟩

theorem RunsOn.withoutParagraphs (runs : RunsOn nodes) : RunsOn (withoutParagraphs nodes) where
  no_tag node node_mem := runs.no_tag node (List.mem_of_mem_filter node_mem)
  no_point text text_mem := runs.no_point text (List.mem_of_mem_filter text_mem)
  no_block := runs.no_block.filter _

theorem RunsOn.concat_text (runs : RunsOn nodes) {text : String}
    (no_point : ¬ HasPoint text.toList) : RunsOn (nodes ++ [.text text]) where
  no_tag := by
    rw [List.forall_mem_append, List.forall_mem_singleton]
    exact ⟨runs.no_tag, rfl⟩
  no_point other other_mem := by
    rcases List.mem_append.mp other_mem with other_mem | last
    · exact runs.no_point other other_mem
    · obtain rfl : other = text := by simpa using last
      exact no_point
  no_block := by
    rw [List.pairwise_append]
    refine ⟨runs.no_block, List.pairwise_singleton _ _, ?_⟩
    rintro earlier - later later_mem -
    rw [List.mem_singleton.mp later_mem]
    rfl

/-! ## First sentences -/

/-- A sentence is made of the nodes in front of what ends it, without their paragraph tags, and of
what that adds to it. -/
def IsTaken (content : Bool) (nodes sentence : List DocNode) : Prop :=
  ∃ taken rest last, nodes = taken ++ rest ∧ RunsOn taken ∧
    (content = true → ∀ node ∈ taken, startsBlock node = false) ∧
    EndsAt (content || taken.any isContent) rest last ∧
    sentence = withoutParagraphs taken ++ last

theorem EndsAt.isTaken (ends : EndsAt content nodes sentence) : IsTaken content nodes sentence := by
  refine ⟨[], nodes, sentence, rfl, runsOn_nil, by simp, ?_, rfl⟩
  rw [List.any_nil, Bool.or_false]
  exact ends

/-- A node that does not end a sentence is taken, and left out if it is a paragraph tag. -/
theorem IsTaken.cons (taken : IsTaken (content || isContent node) nodes sentence)
    (goes_on : GoesOn content node) :
    IsTaken content (node :: nodes) (withoutParagraphs [node] ++ sentence) := by
  obtain ⟨front, rest, last, rfl, runs, no_later, ends, rfl⟩ := taken
  refine ⟨node :: front, rest, last, rfl, runs.cons goes_on ?_, ?_, ?_, ?_⟩
  · intro seen
    exact no_later (by rw [seen, Bool.or_true])
  · intro seen
    rw [List.forall_mem_cons]
    exact ⟨goes_on.no_block seen, no_later (by rw [seen, Bool.true_or])⟩
  · rw [List.any_cons, ← Bool.or_assoc]
    exact ends
  · rw [← List.append_assoc, withoutParagraphs, withoutParagraphs, ← List.filter_append,
      List.singleton_append, withoutParagraphs]

theorem IsTaken.keep (taken : IsTaken (content || isContent node) nodes sentence)
    (goes_on : GoesOn content node) (no_paragraph : isParagraphTag node = false) :
    IsTaken content (node :: nodes) (node :: sentence) := by
  have kept : withoutParagraphs [node] = [node] := by simp [withoutParagraphs, no_paragraph]
  have whole := taken.cons goes_on
  rw [kept] at whole
  exact whole

/-- Readers see nothing of a tag itself. -/
theorem IsTaken.keep_tag (taken : IsTaken content nodes sentence) (goes_on : GoesOn content node)
    (unseen : isContent node = false) (no_paragraph : isParagraphTag node = false) :
    IsTaken content (node :: nodes) (node :: sentence) := by
  rw [← Bool.or_false content, ← unseen] at taken
  exact taken.keep goes_on no_paragraph

theorem IsTaken.drop_tag (taken : IsTaken content nodes sentence) (goes_on : GoesOn content node)
    (unseen : isContent node = false) (paragraph : isParagraphTag node = true) :
    IsTaken content (node :: nodes) sentence := by
  have dropped : withoutParagraphs [node] = [] := by simp [withoutParagraphs, paragraph]
  rw [← Bool.or_false content, ← unseen] at taken
  have whole := taken.cons goes_on
  rw [dropped] at whole
  exact whole

/-- The induction follows the search for the end of the sentence. -/
theorem isTaken_sentenceFrom (content : Bool) (nodes : List DocNode) :
    IsTaken content nodes (sentenceFrom content nodes) := by
  fun_induction sentenceFrom content nodes with
  | case1 content => exact EndsAt.nil.isTaken
  | case2 content name param body rest => exact (EndsAt.tag name param body rest).isTaken
  | case3 content text rest sentence cut =>
      rcases cutSentence?_cases text.toList with
        ⟨uncut, -⟩ | ⟨front, blank, back, text_eq, is_blank, first, cut_eq⟩
      · rw [uncut] at cut
        cases cut
      · obtain rfl := Option.some.inj (cut_eq.symm.trans cut)
        exact (EndsAt.point text front blank back rest text_eq is_blank first).isTaken
  | case4 content text rest uncut ih =>
      refine ih.keep ⟨rfl, ?_, fun _ => rfl⟩ rfl
      intro other text_eq
      obtain rfl := DocNode.text.inj text_eq
      rcases cutSentence?_cases text.toList with ⟨-, no_point⟩ | ⟨front, -, -, -, -, -, cut⟩
      · exact no_point
      · rw [uncut] at cut
        cases cut
  | case5 content name rest ends =>
      obtain ⟨seen, block⟩ := Bool.and_eq_true_iff.mp ends
      exact (EndsAt.block name rest seen block).isTaken
  | case6 content name rest no_end paragraph ih => exact ih.drop_tag (.start no_end) rfl paragraph
  | case7 content name rest no_end no_paragraph ih =>
      exact ih.keep_tag (.start no_end) rfl (Bool.eq_false_iff.mpr no_paragraph)
  | case8 content name rest paragraph ih => exact ih.drop_tag (.stop name) rfl paragraph
  | case9 content name rest no_paragraph ih =>
      exact ih.keep_tag (.stop name) rfl (Bool.eq_false_iff.mpr no_paragraph)
  | case10 content node rest not_tag not_text not_start not_end ih =>
      cases node with
      | blockTag name param body => exact absurd rfl (not_tag name param body)
      | text text => exact absurd rfl (not_text text)
      | startElement name => exact absurd rfl (not_start name)
      | endElement name => exact absurd rfl (not_end name)
      | entity | comment | code | literal | link =>
          exact ih.keep ⟨rfl, by simp, fun _ => rfl⟩ rfl

theorem isTaken_firstSentence (nodes : List DocNode) :
    IsTaken false nodes (firstSentence nodes) :=
  isTaken_sentenceFrom false nodes

theorem IsTaken.isSentence (taken : IsTaken content nodes sentence) : IsSentence sentence := by
  obtain ⟨front, rest, last, rfl, runs, -, ends, rfl⟩ := taken
  have no_paragraph : ∀ node ∈ withoutParagraphs front, isParagraphTag node = false := by
    intro node node_mem
    simpa using List.of_mem_filter node_mem
  cases ends with
  | nil | tag | block =>
      rw [List.append_nil]
      exact ⟨runs.withoutParagraphs, no_paragraph⟩
  | point text start blank back rest text_eq is_blank first =>
      refine ⟨runs.withoutParagraphs.concat_text (by rwa [String.toList_ofList]), ?_⟩
      rw [List.forall_mem_append, List.forall_mem_singleton]
      exact ⟨no_paragraph, rfl⟩

/-- Nodes none of which ends a sentence are all taken. -/
theorem IsTaken.eq_of_runsOn (taken : IsTaken false nodes sentence) (runs : RunsOn nodes) :
    sentence = withoutParagraphs nodes := by
  obtain ⟨front, rest, last, rfl, -, -, ends, rfl⟩ := taken
  cases ends with
  | nil => rw [List.append_nil, List.append_nil]
  | tag name param body rest =>
      have no_tag := runs.no_tag (.blockTag name param body) (by simp)
      cases no_tag
  | block name rest seen block =>
      rw [Bool.false_or, List.any_eq_true] at seen
      obtain ⟨node, node_mem, seen⟩ := seen
      have no_block : startsBlock (.startElement name) = false :=
        (List.pairwise_append.mp runs.no_block).2.2 node node_mem _ List.mem_cons_self seen
      rw [startsBlock, block] at no_block
      cases no_block
  | point text start blank back rest text_eq is_blank first =>
      refine absurd ?_ (runs.no_point text (by simp))
      exact ⟨blank, is_blank, start, back, by rw [text_eq]; simp⟩

/-- Exactly the sentences are their own first sentences. -/
theorem firstSentence_eq_self_iff : firstSentence nodes = nodes ↔ IsSentence nodes := by
  constructor
  · intro same
    rw [← same]
    exact (isTaken_firstSentence nodes).isSentence
  · intro is_sentence
    rw [(isTaken_firstSentence nodes).eq_of_runsOn is_sentence.toRunsOn, withoutParagraphs,
      List.filter_eq_self]
    intro node node_mem
    rw [is_sentence.no_paragraph node node_mem, Bool.not_false]

/-- A first sentence is made of nodes from the start of a comment that do not end a sentence,
without their paragraph tags.  What comes next ends the sentence: a block tag, a block behind
something that readers see, or a text with a point in front of a blank, of which the part up to the
first such point is taken as well; or nothing is left.  So a first sentence is a sentence itself,
and its own first sentence. -/
theorem firstSentence_taken_and_isSentence (nodes : List DocNode) :
    (∃ taken rest last, nodes = taken ++ rest ∧ RunsOn taken ∧
        EndsAt (taken.any isContent) rest last ∧
        firstSentence nodes = withoutParagraphs taken ++ last) ∧
      IsSentence (firstSentence nodes) ∧
      firstSentence (firstSentence nodes) = firstSentence nodes := by
  have is_sentence := (isTaken_firstSentence nodes).isSentence
  refine ⟨?_, is_sentence, firstSentence_eq_self_iff.mpr is_sentence⟩
  obtain ⟨taken, rest, last, nodes_eq, runs, -, ends, sentence_eq⟩ := isTaken_firstSentence nodes
  rw [Bool.false_or] at ends
  exact ⟨taken, rest, last, nodes_eq, runs, ends, sentence_eq⟩

example : firstSentence [.startElement "P", .text "Version 1.2. See ", .code "x", .endElement "P"] =
    [.text "Version 1.2."] := by
  rfl

end Markup
end RefDocs
