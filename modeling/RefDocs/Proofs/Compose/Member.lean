import RefDocs.Compose.Member
import RefDocs.Proofs.Compose.Basic

/-!
# Steps of member composition

The rows of a summary have a cell for each column of the members' kind, and the frame of the
details of a member has a slot.
-/

namespace RefDocs
namespace PageContext

variable {context : PageContext} {label : String → Prop}

theorem yields_summaryText (context : PageContext) (member : Member) :
    Yields (fun _ => True) (context.summaryText member) := by
  rw [summaryText]
  split
  · refine (context.yields_summary _).bind ?_
    intro words _
    exact .pure trivial
  · exact context.yields_summary member.doc

theorem yields_summaryCell (context : PageContext) (owner : TypeDecl) (member : Member)
    (column : Column) : Yields (fun _ => True) (context.summaryCell owner member column) := by
  cases column with
  | modifierAndType => exact .pure trivial
  | modifier => exact .pure trivial
  | type => exact .pure trivial
  | name => exact .pure trivial
  | description => exact context.yields_summaryText member

/-- A row has a cell for each column. -/
theorem yields_summaryRow (context : PageContext) (label : String → Prop) (owner : TypeDecl)
    (member : Member) :
    Yields (fun row => row.2.length = member.kind.layout.headers.length ∧
        ∀ cell ∈ row.2, cell.AllLabels label)
      (context.summaryRow owner member) := by
  refine (Yields.mapM fun column _ => context.yields_summaryCell owner member column).bind ?_
  rintro cells ⟨length_eq, -⟩
  refine .pure ⟨?_, ?_⟩
  · simp [MemberLayout.headers, length_eq]
  · rw [List.forall_mem_map]
    intro text _
    exact Content.allLabels_raw text

theorem unbroken_of_mem_headers {kind : MemberKind} :
    ∀ header ∈ kind.layout.headers, Text.Unbroken header := by
  cases kind <;> decide

theorem unbroken_of_mem_tabs {kind : MemberKind} :
    ∀ tab ∈ kind.layout.tabs, Text.Unbroken tab.label := by
  cases kind <;> decide

theorem unbroken_defaultTab (kind : MemberKind) : Text.Unbroken kind.layout.defaultTab := by
  cases kind <;> decide

theorem yields_memberSummary (covers : CoversLabels context.source label) (owner : TypeDecl)
    {kind : MemberKind} {members : List Member} (of_kind : ∀ member ∈ members, member.kind = kind) :
    Yields (Content.AllLabels label) (context.memberSummary owner kind members) := by
  have rows_yield : Yields
      (fun rows => rows.length = members.length ∧ ∀ row ∈ rows,
        row.2.length = kind.layout.headers.length ∧ ∀ cell ∈ row.2, cell.AllLabels label)
      (members.mapM (context.summaryRow owner)) := by
    refine .mapM ?_
    intro member member_mem
    rw [← of_kind member member_mem]
    exact context.yields_summaryRow label owner member
  refine rows_yield.bind ?_
  rintro rows ⟨-, each⟩
  refine yields_blockOf rfl (fun row row_mem => (each row row_mem).1) ?_ ?_ ?_ ?_
    (fun row row_mem => (each row row_mem).2)
  · exact covers.unbroken _ (unbroken_defaultTab kind)
  · intro key key_mem
    dsimp only at key_mem
    split at key_mem
    · cases key_mem
      exact covers.unbroken "methods" (by decide)
    · cases key_mem
  · exact fun tab tab_mem => covers.unbroken _ (unbroken_of_mem_tabs tab tab_mem)
  · exact fun header header_mem => covers.unbroken _ (unbroken_of_mem_headers header header_mem)

/-! ## Details -/

theorem yields_tagEntry? (context : PageContext) (tag : Markup.BlockTag) :
    Yields (fun _ => True) (context.tagEntry? tag) := by
  have entry_yields (entry : String → TagEntry) :
      Yields (fun _ => True) (do return some (entry (← context.markup tag.body))) := by
    refine (context.yields_markup tag.body).bind ?_
    intro text _
    exact .pure trivial
  unfold tagEntry?
  split
  · split
    · exact .pure trivial
    · exact entry_yields fun text => .parameter _
  · exact entry_yields .result
  · exact entry_yields fun text => .thrown _
  · exact entry_yields fun text => .thrown _
  · exact .pure trivial

theorem yields_memberTags (context : PageContext) (label : String → Prop) (member : Member) :
    Yields (Content.AllLabels label) (context.memberTags member) := by
  refine (Yields.mapM fun tag _ => context.yields_tagEntry? tag).bind ?_
  intro entries _
  refine .pure (Content.allLabels_sequence.mpr ?_)
  simp only [List.forall_mem_cons, Content.allLabels_labelled]
  simp

theorem allLabels_foldl_add {blocks : List Content} {wrapper : Wrapper}
    (blocks_labelled : ∀ block ∈ blocks, block.AllLabels label)
    (wrapper_labelled : wrapper.frame.AllLabels label) :
    (blocks.foldl (fun frame block => frame.add block) wrapper).frame.AllLabels label := by
  induction blocks generalizing wrapper with
  | nil => exact wrapper_labelled
  | cons block rest ih =>
      rw [List.forall_mem_cons] at blocks_labelled
      exact ih blocks_labelled.2 (Wrapper.allStrings_add blocks_labelled.1 wrapper_labelled)

/-- The section of a member keeps its labels when it is filled. -/
theorem allLabels_filled {member : Member} (name_labelled : label member.name)
    (anchor_labelled : label member.anchor) {blocks : List Content}
    (blocks_labelled : ∀ block ∈ blocks, block.AllLabels label) :
    ((blocks.flatMap Content.spaced).foldl (fun frame block => frame.add block)
      (detailFrame member)).toContent.AllLabels label := by
  have frame_labelled : (detailFrame member).frame.AllLabels label :=
    ⟨anchor_labelled, nofun, name_labelled, ⟨trivial, trivial⟩, trivial⟩
  exact allLabels_foldl_add (Content.allLabels_flatMap_spaced blocks_labelled) frame_labelled

theorem yields_memberDetail (context : PageContext) {member : Member}
    (name_labelled : label member.name) (anchor_labelled : label member.anchor) :
    Yields (Content.AllLabels label) (context.memberDetail member) := by
  refine (context.yields_deprecation label member.deprecated).bind ?_
  intro notice notice_labelled
  refine (context.yields_description member.doc).bind ?_
  intro description _
  have code_labelled : (Content.codeBlock (context.memberSignature member)).AllLabels label :=
    trivial
  have default_labelled : Content.AllLabels label
      (member.defaultValue.elim .empty fun value => .labelled "Default" ""
        ["`" ++ (AnnotationWriter.plain context.graph).valueText value ++ "`"]) := by
    cases member.defaultValue with
    | none => trivial
    | some value => exact Content.allLabels_labelled _ _ _
  refine .ite_bind (.pure trivial) (context.yields_memberTags label member) ?_
  intro tags tags_labelled
  refine .pure (allLabels_filled name_labelled anchor_labelled ?_)
  simp only [List.forall_mem_cons]
  exact ⟨code_labelled, notice_labelled, trivial, tags_labelled, default_labelled, nofun⟩

theorem yields_memberDetails (context : PageContext) (kind : MemberKind)
    {members : List Member}
    (members_labelled : ∀ member ∈ members, label member.name ∧ label member.anchor) :
    Yields (Content.AllLabels label) (context.memberDetails kind members) := by
  refine (Yields.mapM fun member member_mem => context.yields_memberDetail
    (members_labelled member member_mem).1 (members_labelled member member_mem).2).bind ?_
  rintro details ⟨-, each⟩
  exact .pure ⟨trivial, Content.allLabels_sequence.mpr each⟩

end PageContext
end RefDocs
