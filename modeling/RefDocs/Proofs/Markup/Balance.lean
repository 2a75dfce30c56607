import RefDocs.Proofs.Markup.NormalForm

/-!
# Balanced markup

Markup is balanced if each element with content is closed by an end tag of its own, in nested order.
That is so exactly if its tags, taken in order, open and close elements so that none is left open.
Markup in normal form is balanced.
-/

namespace RefDocs
namespace Markup

/-- Markup in which each element with content is closed, in nested order, and nothing else is.  What
is no tag does not matter. -/
inductive Balanced : List DocNode → Prop where
  | nil : Balanced []
  /-- A node that is no tag. -/
  | plain {node : DocNode} {rest : List DocNode} (plain : IsPlain node) (others : Balanced rest) :
      Balanced (node :: rest)
  /-- An element without content. -/
  | void {name : String} {rest : List DocNode} (void : isVoid name = true)
      (others : Balanced rest) : Balanced (.startElement name :: rest)
  /-- An element with its content. -/
  | element {name : String} {inner rest : List DocNode} (not_void : isVoid name = false)
      (content : Balanced inner) (others : Balanced rest) :
      Balanced (.startElement name :: (inner ++ .endElement name :: rest))

/-! ## Open elements behind nodes -/

section Opened

variable {opened opened' behind : List String}

theorem openAfter?_cons (opened : List String) (node : DocNode) (rest : List DocNode) :
    openAfter? opened (node :: rest) =
      (openBehind? opened node).bind fun behind => openAfter? behind rest :=
  List.foldlM_cons

theorem openAfter?_append (opened : List String) (front rest : List DocNode) :
    openAfter? opened (front ++ rest) =
      (openAfter? opened front).bind fun behind => openAfter? behind rest :=
  List.foldlM_append

theorem openBehind?_endElement (name : String) (opened : List String) :
    openBehind? (name :: opened) (.endElement name) = some opened :=
  if_pos rfl

/-- A balanced list leaves the open elements around it as they are. -/
theorem Balanced.openAfter?_eq {nodes : List DocNode} (balanced : Balanced nodes)
    (opened : List String) : openAfter? opened nodes = some opened := by
  induction balanced generalizing opened with
  | nil => rfl
  | plain plain _ ih => rw [openAfter?_cons, plain.openBehind?, Option.bind_some, ih]
  | void void _ ih => rw [openAfter?_cons, openBehind?, if_pos void, Option.bind_some, ih]
  | element not_void _ _ content_ih others_ih =>
      rw [openAfter?_cons, openBehind?, if_neg (by simp [not_void]), Option.bind_some,
        openAfter?_append, content_ih, Option.bind_some, openAfter?_cons, openBehind?_endElement,
        Option.bind_some, others_ih]

/-- The open elements in front of a node are known from those behind it. -/
theorem openBehind?_inj {node : DocNode} (step : openBehind? opened node = some behind)
    (step' : openBehind? opened' node = some behind) : opened = opened' := by
  cases node with
  | startElement name =>
      by_cases void : isVoid name = true
      · simp_all [openBehind?]
      · simp_all [openBehind?, ← step']
  | endElement name =>
      rw [openBehind?_endElement_eq_some_iff] at step step'
      rw [step, step']
  | _ => exact (Option.some.inj step).trans (Option.some.inj step').symm

theorem openAfter?_inj {nodes : List DocNode} (run : openAfter? opened nodes = some behind)
    (run' : openAfter? opened' nodes = some behind) : opened = opened' := by
  induction nodes generalizing opened opened' with
  | nil => exact (Option.some.inj run).trans (Option.some.inj run').symm
  | cons node rest ih =>
      obtain ⟨next, step, run⟩ := Option.bind_eq_some_iff.mp (openAfter?_cons .. ▸ run)
      obtain ⟨next', step', run'⟩ := Option.bind_eq_some_iff.mp (openAfter?_cons .. ▸ run')
      obtain rfl := ih run run'
      exact openBehind?_inj step step'

end Opened

/-! ## Balanced pieces between end tags -/

/-- Nodes close the given open elements, innermost first, with balanced markup around the end
tags. -/
def Closes : List String → List DocNode → Prop
  | [], nodes => Balanced nodes
  | innermost :: outer, nodes => ∃ inner rest, nodes = inner ++ .endElement innermost :: rest ∧
      Balanced inner ∧ Closes outer rest

/-- Nodes that keep markup balanced when they stand in front of it close nothing. -/
theorem Closes.extend {opened : List String} {nodes : List DocNode} (closes : Closes opened nodes)
    (front : List DocNode) (extend : ∀ inner, Balanced inner → Balanced (front ++ inner)) :
    Closes opened (front ++ nodes) := by
  cases opened with
  | nil => exact extend nodes closes
  | cons innermost outer =>
      obtain ⟨inner, rest, rfl, content, others⟩ := closes
      exact ⟨front ++ inner, rest, (List.append_assoc ..).symm, extend inner content, others⟩

/-- Nodes behind which no element is open close what is open in front of them. -/
theorem closes_of_openAfter? {opened : List String} {nodes : List DocNode}
    (run : openAfter? opened nodes = some []) : Closes opened nodes := by
  induction nodes generalizing opened with
  | nil =>
      obtain rfl : opened = [] := Option.some.inj run
      exact .nil
  | cons node rest ih =>
      obtain ⟨behind, step, run⟩ := Option.bind_eq_some_iff.mp (openAfter?_cons .. ▸ run)
      have closes := ih run
      cases unnamed : node.elementName? with
      | none =>
          have plain := isPlain_of_unnamed unnamed
          obtain rfl := Option.some.inj ((plain.openBehind? opened).symm.trans step)
          exact closes.extend [node] fun inner content => .plain plain content
      | some _ =>
          cases node with
          | startElement name =>
              by_cases void : isVoid name = true
              · obtain rfl : opened = behind := by simpa [openBehind?, void] using step
                exact closes.extend [_] fun inner content => .void void content
              · -- The rest closes this element first, and then what is open around it.
                obtain rfl : name :: opened = behind := by simpa [openBehind?, void] using step
                obtain ⟨inner, others, rfl, content, closes⟩ := closes
                have extend : ∀ later, Balanced later → Balanced
                    (.startElement name :: (inner ++ [.endElement name]) ++ later) := by
                  intro later later_balanced
                  simpa using Balanced.element (by simpa using void) content later_balanced
                simpa using closes.extend _ extend
          | endElement name =>
              obtain rfl := openBehind?_endElement_eq_some_iff.mp step
              exact ⟨[], rest, rfl, .nil, closes⟩
          | _ => cases unnamed

theorem balanced_iff {nodes : List DocNode} : Balanced nodes ↔ openAfter? [] nodes = some [] :=
  ⟨fun balanced => balanced.openAfter?_eq [], fun run => closes_of_openAfter? run⟩

instance (nodes : List DocNode) : Decidable (Balanced nodes) :=
  decidable_of_iff _ balanced_iff.symm

theorem IsNormal.balanced {nodes : List DocNode} (normal : IsNormal nodes) : Balanced nodes :=
  balanced_iff.mpr normal.closed

end Markup
end RefDocs
