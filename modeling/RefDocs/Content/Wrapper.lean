import RefDocs.Content.Tabs

/-!
# Wrappers

A wrapper is a frame with a slot: a sequence at the end of the path through container bodies,
section bodies and wrapped frames, where the last tab of a tab group counts as a sequence.
Children added to the wrapper go to the slot.
-/

namespace RefDocs

namespace Content

/-- The node has a sequence that children can be appended to. -/
def hasSlot : Content → Bool
  | .run _ | .table _ | .tabbed _ => false
  | .sequence _ => true
  | .container _ _ body => body.hasSlot
  | .wrapper frame => frame.hasSlot
  | .anchored _ body => body.hasSlot
  | .tabs group => !group.tabs.isEmpty

/-- The node with a child appended to its slot, if it has one. -/
def append? (child : Content) : Content → Option Content
  | .run _ | .table _ | .tabbed _ => none
  | .sequence children => some (.sequence (children ++ [child]))
  | .container kind header body => (append? child body).map (.container kind header)
  | .wrapper frame => (append? child frame).map .wrapper
  | .anchored anchor body => (append? child body).map (.anchored anchor)
  | .tabs group =>
    (TabGroup.appendToLast? child group.tabs).map fun named => .tabs { group with tabs := named }

end Content

namespace TabGroup

theorem isSome_appendToLast? {Cell : Type} (content : Cell) (tabs : List (String × List Cell)) :
    (appendToLast? content tabs).isSome = !tabs.isEmpty := by
  induction tabs with
  | nil => rfl
  | cons tab rest ih =>
    cases rest with
    | nil => rfl
    | cons next others => simp_all [appendToLast?]

end TabGroup

/-- A frame that takes further children. -/
structure Wrapper where
  /-- What is written. -/
  frame : Content
  /-- The frame has a slot. -/
  hasSlot : frame.hasSlot = true

namespace Wrapper

/-- The wrapper over a frame, which has to have a slot. -/
def new (frame : Content) : Except ContentError Wrapper :=
  if hasSlot : frame.hasSlot = true then .ok ⟨frame, hasSlot⟩ else .error .noSlot

/-- The wrapper as a content node. -/
def toContent (wrapper : Wrapper) : Content :=
  .wrapper wrapper.frame

end Wrapper

namespace Content

theorem isSome_append? (child content : Content) :
    (append? child content).isSome = content.hasSlot := by
  induction content using Content.hasSlot.induct with
  | case1 => rfl
  | case2 => rfl
  | case3 => rfl
  | case4 => rfl
  | case5 _ _ _ ih => simpa [append?, hasSlot] using ih
  | case6 _ ih => simpa [append?, hasSlot] using ih
  | case7 _ _ ih => simpa [append?, hasSlot] using ih
  | case8 => simp [append?, hasSlot, TabGroup.isSome_appendToLast?]

/-- A node keeps its slot when a child is appended. -/
theorem hasSlot_of_append? {child content extended : Content}
    (appended : append? child content = some extended) : extended.hasSlot = true := by
  induction content using Content.hasSlot.induct generalizing extended with
  | case1 => simp [append?] at appended
  | case2 => simp [append?] at appended
  | case3 => simp [append?] at appended
  | case4 =>
    simp only [append?, Option.some.injEq] at appended
    simp [← appended, hasSlot]
  | case5 _ _ _ ih | case6 _ ih | case7 _ _ ih =>
    simp only [append?, Option.map_eq_some_iff] at appended
    obtain ⟨inner, inner_appended, rfl⟩ := appended
    simpa [hasSlot] using ih inner_appended
  | case8 group =>
    simp only [append?, Option.map_eq_some_iff] at appended
    obtain ⟨named, named_appended, rfl⟩ := appended
    cases named with
    | nil =>
      exfalso
      generalize group.tabs = tabs at named_appended
      cases tabs with
      | nil => simp [TabGroup.appendToLast?] at named_appended
      | cons tab rest =>
        cases rest <;> simp [TabGroup.appendToLast?] at named_appended
    | cons => rfl

end Content

namespace Wrapper

/-- The wrapper with a child appended to the slot of its frame. -/
def add (child : Content) (wrapper : Wrapper) : Wrapper :=
  match appended : Content.append? child wrapper.frame with
  | some frame => ⟨frame, Content.hasSlot_of_append? appended⟩
  | none => wrapper

end Wrapper

end RefDocs
