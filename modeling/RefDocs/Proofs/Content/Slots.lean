import RefDocs.Content.Wrapper
import RefDocs.Content.Write

/-!
# Slots of frames

The slot of a frame is at the end of the path through container bodies, section bodies and wrapped
frames.  A wrapper over a frame with a slot writes the frame with all added children in the slot, in
order, and everything else as it was.
-/

namespace RefDocs

/-- What a node on the path to a slot has around the next one. -/
inductive Around where
  | container (kind : ContainerKind) (header : Option Content)
  | wrapper
  | anchored (anchor : String)

namespace Around

/-- A node with the given one inside. -/
def content (inner : Content) : Around → Content
  | .container kind header => .container kind header inner
  | .wrapper => .wrapper inner
  | .anchored anchor => .anchored anchor inner

/-- A node inside a path, which is listed from the outside. -/
def within (path : List Around) (inner : Content) : Content :=
  path.foldr (fun around inner => around.content inner) inner

end Around

/-- A place that children can be appended to. -/
inductive Slot where
  /-- A sequence. -/
  | sequence (children : List Content)
  /-- The last tab of a group, behind the others. -/
  | lastTab (key : Option String) (others : List (String × List Content)) (name : String)
    (children : List Content)

namespace Slot

/-- The node with the slot. -/
def content : Slot → Content
  | .sequence children => .sequence children
  | .lastTab key others name children => .tabs ⟨key, others ++ [(name, children)]⟩

/-- The slot with further children at its end. -/
def extended (added : List Content) : Slot → Slot
  | .sequence children => .sequence (children ++ added)
  | .lastTab key others name children => .lastTab key others name (children ++ added)

theorem extended_nil (slot : Slot) : slot.extended [] = slot := by
  cases slot <;> simp [extended]

theorem extended_extended (slot : Slot) (added more : List Content) :
    (slot.extended added).extended more = slot.extended (added ++ more) := by
  cases slot <;> simp [extended]

end Slot

namespace TabGroup

variable {Cell : Type}

theorem appendToLast?_append_singleton (content : Cell) (others : List (String × List Cell))
    (name : String) (contents : List Cell) :
    appendToLast? content (others ++ [(name, contents)]) =
      some (others ++ [(name, contents ++ [content])]) := by
  induction others with
  | nil => rfl
  | cons tab rest ih =>
      -- Behind the first tab there is another one in any case.
      obtain ⟨next, later, rest_eq⟩ :=
        List.exists_cons_of_ne_nil (List.append_ne_nil_of_right_ne_nil rest
          (List.cons_ne_nil (name, contents) []))
      rw [List.cons_append, rest_eq, appendToLast?.eq_3 _ _ _ (by simp), ← rest_eq, ih,
        Option.map_some, List.cons_append]

theorem names_addTo (name : String) (content : Cell) (tabs : List (String × List Cell)) :
    (addTo name content tabs).map Prod.fst =
      if name ∈ tabs.map Prod.fst then tabs.map Prod.fst else tabs.map Prod.fst ++ [name] := by
  induction tabs with
  | nil => rfl
  | cons tab rest ih =>
      obtain ⟨other, contents⟩ := tab
      rw [addTo]
      split
      · rename_i names_eq
        simp [names_eq]
      · rename_i names_ne
        have mem_iff : name ∈ ((other, contents) :: rest).map Prod.fst ↔
            name ∈ rest.map Prod.fst := by
          simp [Ne.symm names_ne]
        simp only [mem_iff]
        rw [List.map_cons, ih]
        split <;> rfl

/-- A tab is created behind the others when its name is new, and stays in its place. -/
theorem names_addTab (name : String) (content : Cell) (group : TabGroup Cell) :
    (group.addTab name content).tabs.map Prod.fst =
      if name ∈ group.tabs.map Prod.fst then group.tabs.map Prod.fst
      else group.tabs.map Prod.fst ++ [name] :=
  names_addTo name content group.tabs

end TabGroup

namespace Content

open Around

theorem hasSlot_within (path : List Around) (inner : Content) :
    (within path inner).hasSlot = inner.hasSlot := by
  induction path with
  | nil => rfl
  | cons around outer ih => cases around <;> exact ih

/-- A node has a slot exactly if the path from it leads to one. -/
theorem hasSlot_iff {content : Content} :
    content.hasSlot = true ↔ ∃ path slot, content = within path (Slot.content slot) := by
  constructor
  · intro has_slot
    induction content using Content.hasSlot.induct with
    | case1 | case2 | case3 => cases has_slot
    | case4 children => exact ⟨[], .sequence children, rfl⟩
    | case5 kind header body ih =>
        obtain ⟨path, slot, rfl⟩ := ih has_slot
        exact ⟨.container kind header :: path, slot, rfl⟩
    | case6 frame ih =>
        obtain ⟨path, slot, rfl⟩ := ih has_slot
        exact ⟨.wrapper :: path, slot, rfl⟩
    | case7 anchor body ih =>
        obtain ⟨path, slot, rfl⟩ := ih has_slot
        exact ⟨.anchored anchor :: path, slot, rfl⟩
    | case8 group =>
        obtain ⟨key, tabs⟩ := group
        have tabs_ne : tabs ≠ [] := by simpa [hasSlot] using has_slot
        obtain ⟨others, ⟨name, children⟩, tabs_eq⟩ :=
          (List.eq_nil_or_concat tabs).resolve_left tabs_ne
        refine ⟨[], .lastTab key others name children, ?_⟩
        rw [tabs_eq, List.concat_eq_append]
        rfl
  · rintro ⟨path, slot, rfl⟩
    rw [hasSlot_within]
    cases slot <;> simp [Slot.content, hasSlot]

/-- A child is appended to the slot, and nothing else changes. -/
theorem append?_within (child : Content) (path : List Around) (slot : Slot) :
    append? child (within path slot.content) =
      some (within path (slot.extended [child]).content) := by
  induction path with
  | nil =>
      cases slot with
      | sequence children => rfl
      | lastTab key others name children =>
          change (TabGroup.appendToLast? child (others ++ [(name, children)])).map _ = _
          rw [TabGroup.appendToLast?_append_singleton]
          rfl
  | cons around outer ih =>
      have step : append? child (around.content (within outer slot.content)) =
          (append? child (within outer slot.content)).map around.content := by
        cases around <;> rfl
      exact step.trans (congrArg (Option.map _) ih)

end Content

namespace Wrapper

open Around

theorem exists_new_eq_ok_iff {frame : Content} :
    (∃ wrapper, new frame = .ok wrapper) ↔ frame.hasSlot = true := by
  rw [new]
  split
  · rename_i has_slot
    exact ⟨fun _ => has_slot, fun _ => ⟨_, rfl⟩⟩
  · rename_i no_slot
    exact ⟨nofun, fun has_slot => absurd has_slot no_slot⟩

theorem frame_of_new {frame : Content} {wrapper : Wrapper} (new_eq : new frame = .ok wrapper) :
    wrapper.frame = frame := by
  rw [new] at new_eq
  split at new_eq
  · exact congrArg Wrapper.frame (Except.ok.inj new_eq).symm
  · cases new_eq

theorem frame_add {wrapper : Wrapper} {path : List Around} {slot : Slot}
    (frame_eq : wrapper.frame = within path slot.content) (child : Content) :
    (wrapper.add child).frame = within path (slot.extended [child]).content := by
  have appended := Content.append?_within child path slot
  rw [← frame_eq] at appended
  rw [add]
  split
  · rename_i frame frame_appended
    exact Option.some.inj (frame_appended.symm.trans appended)
  · rename_i not_appended
    cases not_appended.symm.trans appended

/-- The children that are added to a wrapper are in its slot, in order. -/
theorem frame_foldl_add_within {wrapper : Wrapper} {path : List Around} {slot : Slot}
    (frame_eq : wrapper.frame = within path slot.content) (children : List Content) :
    (children.foldl (fun filled child => filled.add child) wrapper).frame =
      within path (slot.extended children).content := by
  induction children generalizing wrapper slot with
  | nil => rw [List.foldl_nil, slot.extended_nil, frame_eq]
  | cons child rest ih =>
      rw [List.foldl_cons, ih (frame_add frame_eq child), Slot.extended_extended,
        List.singleton_append]

/-- A frame makes a wrapper exactly if the path from it ends at a slot: a sequence, or the last tab
of a group, which is the one created last.  The wrapper with further children is as empty as the
frame with these children in the slot, and is written like it. -/
theorem exists_new_iff_and_foldl_add (frame : Content) :
    ((∃ wrapper, new frame = .ok wrapper) ↔
        ∃ path slot, frame = within path (Slot.content slot)) ∧
      (∀ wrapper path slot, new frame = .ok wrapper → frame = within path (Slot.content slot) →
        ∀ children : List Content,
          let filled := children.foldl (fun filled child => filled.add child) wrapper
          filled.toContent.isEmpty = (within path (slot.extended children).content).isEmpty ∧
            ∀ newline atLineStart, filled.toContent.write newline atLineStart =
              (within path (slot.extended children).content).write newline atLineStart) ∧
      ∀ (group : TabGroup Content) name content,
        (group.addTab name content).tabs.map Prod.fst =
          if name ∈ group.tabs.map Prod.fst then group.tabs.map Prod.fst
          else group.tabs.map Prod.fst ++ [name] := by
  refine ⟨exists_new_eq_ok_iff.trans Content.hasSlot_iff, ?_, ?_⟩
  · intro wrapper path slot new_eq frame_eq children
    have wrapper_eq : wrapper.frame = within path slot.content :=
      (frame_of_new new_eq).trans frame_eq
    have filled_eq := frame_foldl_add_within wrapper_eq children
    rw [← filled_eq]
    exact ⟨rfl, fun newline atLineStart => rfl⟩
  · intro group name content
    exact group.names_addTab name content

/-- A section with two tabs, in a container. -/
def tabbedTip : Content :=
  .container .tip none (.anchored "sum"
    (.tabs ⟨none, [("Java", [.text "a"]), ("Kotlin", [.empty])]⟩))

theorem foldl_add_tabbedTip : ∃ wrapper, new tabbedTip = .ok wrapper ∧
    ((wrapper.add (.text "b")).add (.sequence [.text "c"])).toContent.write "\n" true =
      (Content.container .tip none (.anchored "sum" (.tabs ⟨none, [("Java", [.text "a"]),
        ("Kotlin", [.empty, .text "b", .sequence [.text "c"]])]⟩))).write "\n" true := by
  obtain ⟨made, filled, -⟩ := exists_new_iff_and_foldl_add tabbedTip
  have frame_eq : tabbedTip = within [.container .tip none, .anchored "sum"]
      (Slot.content (.lastTab none [("Java", [.text "a"])] "Kotlin" [.empty])) := rfl
  obtain ⟨wrapper, new_eq⟩ := made.mpr ⟨_, _, frame_eq⟩
  exact ⟨wrapper, new_eq,
    (filled wrapper _ _ new_eq frame_eq [.text "b", .sequence [.text "c"]]).2 "\n" true⟩

end Wrapper
end RefDocs
