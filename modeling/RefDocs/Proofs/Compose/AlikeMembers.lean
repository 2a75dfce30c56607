import RefDocs.Compose.Member
import RefDocs.Proofs.Page.AlikeLinks

/-!
# Members that pages show alike

A page shows the code of a member, whether it is deprecated and, unless comments are left out, its
comment.  On pages of graphs that are alike, members that agree in this have the same rows in
summaries, and the same details if they have the same deprecation notice.
-/

namespace RefDocs

/-- Comments that pages show alike: the same ones, or any where comments are left out. -/
def RenderOptions.SameComment (options : RenderOptions) (doc doc' : List DocNode) : Prop :=
  options.noComment = true ∨ doc = doc'

theorem RenderOptions.SameComment.ite_eq {options : RenderOptions} {doc doc' : List DocNode}
    (comment : options.SameComment doc doc') {Value : Type} (absent : Value)
    (shown : List DocNode → Value) :
    (if options.noComment then absent else shown doc) =
      if options.noComment then absent else shown doc' := by
  rcases comment with left_out | rfl
  · rw [if_pos left_out, if_pos left_out]
  · rfl

/-- The code of a member: all but its deprecation and comment. -/
def Member.code (member : Member) : Member :=
  { member with deprecated := none, doc := [] }

/-- Two members that pages list alike. -/
structure Member.ListedAlike (options : RenderOptions) (member member' : Member) : Prop where
  /-- The members differ at most in deprecation and comment. -/
  code_eq : member.code = member'.code
  /-- The comments are shown alike. -/
  comment : options.SameComment member.doc member'.doc
  /-- Both or neither are deprecated, for reasons that are shown alike as comments. -/
  deprecated : Option.Rel (fun mark mark' => options.SameComment mark.doc mark'.doc)
    member.deprecated member'.deprecated

/-- The same page in two graphs that are alike. -/
structure PageContext.Alike (context context' : PageContext) : Prop where
  /-- The runs have the same options. -/
  options_eq : context.options = context'.options
  /-- Links start from the same page. -/
  source : context.source.Alike context'.source

/-- What is read off the code of a member is the same for members that are listed alike. -/
theorem Member.ListedAlike.same {options : RenderOptions} {member member' : Member}
    (listed : member.ListedAlike options member') {Value : Type} (read : Member → Value)
    (read_code : ∀ member : Member, read member.code = read member) :
    read member = read member' :=
  read_eq_of_reduce_eq listed.code_eq read read_code

theorem Member.ListedAlike.kind_eq {options : RenderOptions} {member member' : Member}
    (listed : member.ListedAlike options member') : member.kind = member'.kind :=
  listed.same kind fun _ => rfl

theorem Member.ListedAlike.modifiers_eq {options : RenderOptions} {member member' : Member}
    (listed : member.ListedAlike options member') : member.modifiers = member'.modifiers :=
  listed.same modifiers fun _ => rfl

theorem Member.ListedAlike.facts_eq {options : RenderOptions} {member member' : Member}
    (listed : member.ListedAlike options member') {owner owner' : TypeDecl}
    (owner_alike : owner.Alike owner')
    (deprecated_eq : owner.deprecated.isSome = owner'.deprecated.isSome) :
    member.facts owner = member'.facts owner' := by
  rw [facts, facts, owner_alike.isInterface_eq, deprecated_eq,
    isSome_eq_of_optionRel listed.deprecated, listed.modifiers_eq, listed.kind_eq]

namespace PageContext.Alike

variable {context context' : PageContext}

theorem graph (alike : context.Alike context') : context.graph.Alike context'.graph :=
  alike.source.site.graph

/-! ## Comments -/

theorem markup_eq (alike : context.Alike context') : context.markup = context'.markup := by
  funext nodes
  rw [markup, markup, alike.source.render_eq]

theorem description_eq (alike : context.Alike context') {doc doc' : List DocNode}
    (comment : context.options.SameComment doc doc') :
    context.description doc = context'.description doc' := by
  rw [description, description, ← alike.options_eq, alike.markup_eq]
  exact comment.ite_eq (pure "") fun nodes => context'.markup (Markup.body nodes)

theorem summary_eq (alike : context.Alike context') {doc doc' : List DocNode}
    (comment : context.options.SameComment doc doc') :
    context.summary doc = context'.summary doc' := by
  rw [summary, summary, ← alike.options_eq, alike.markup_eq]
  exact comment.ite_eq (pure "") fun nodes => context'.markup (Markup.firstSentence nodes)

theorem deprecation_eq (alike : context.Alike context') :
    context.deprecation = context'.deprecation := by
  funext mark?
  cases mark? with
  | none => rfl
  | some mark => rw [deprecation, deprecation, alike.markup_eq]

/-! ## Signatures -/

theorem plain_eq (alike : context.Alike context') :
    AnnotationWriter.plain context.graph = AnnotationWriter.plain context'.graph :=
  alike.graph.plain_eq

theorem codeAnnotations_eq (alike : context.Alike context') :
    context.codeAnnotations = context'.codeAnnotations := by
  funext uses
  rw [codeAnnotations, codeAnnotations, alike.plain_eq]

theorem codeName_eq (alike : context.Alike context') : context.codeName = context'.codeName := by
  funext type
  rw [codeName, codeName, alike.graph.typeName_eq]

theorem typeParameterList_eq (alike : context.Alike context') :
    context.typeParameterList = context'.typeParameterList := by
  funext form parameters
  unfold typeParameterList
  rw [alike.graph.typeName_eq]

theorem parameterText_eq (alike : context.Alike context') :
    context.parameterText = context'.parameterText := by
  funext form parameter
  unfold parameterText
  rw [alike.source.typeLink_eq, alike.codeName_eq, alike.plain_eq]

theorem parameterList_eq (alike : context.Alike context') :
    context.parameterList = context'.parameterList := by
  funext form member
  rw [parameterList, parameterList, alike.parameterText_eq]

theorem typesAfter_eq (alike : context.Alike context') :
    context.typesAfter = context'.typesAfter := by
  funext keyword types
  rw [typesAfter, typesAfter, alike.codeName_eq]

theorem memberSignature_eq (alike : context.Alike context') :
    context.memberSignature = context'.memberSignature := by
  funext member
  rw [memberSignature, memberSignature, memberDeclaration, memberDeclaration,
    alike.codeAnnotations_eq, alike.codeName_eq, alike.plain_eq, alike.typeParameterList_eq,
    alike.parameterList_eq, alike.typesAfter_eq]

/-! ## Summaries -/

section Member

variable {owner owner' : TypeDecl} {member member' : Member}

theorem summaryText_eq (alike : context.Alike context')
    (listed : member.ListedAlike context.options member') :
    context.summaryText member = context'.summaryText member' := by
  rw [summaryText, summaryText]
  rcases optionRel_iff.mp listed.deprecated with
    ⟨mark_eq, mark_eq'⟩ | ⟨mark, mark', mark_eq, mark_eq', same_reason⟩
  · simp only [mark_eq, mark_eq', alike.summary_eq listed.comment]
  · simp only [mark_eq, mark_eq', alike.summary_eq same_reason]

theorem summaryName_eq (alike : context.Alike context') :
    context.summaryName = context'.summaryName := by
  funext owner member
  rw [summaryName, summaryName, alike.source.member_eq, alike.parameterList_eq]

theorem summaryCell_eq (alike : context.Alike context') (owner_alike : owner.Alike owner')
    (listed : member.ListedAlike context.options member') (column : Column) :
    context.summaryCell owner member column = context'.summaryCell owner' member' column := by
  cases column with
  | modifierAndType =>
      rw [summaryCell, summaryCell, alike.typeParameterList_eq, alike.source.typeLink_eq,
        listed.kind_eq, listed.modifiers_eq, listed.same Member.typeParameters fun _ => rfl,
        listed.same Member.type fun _ => rfl]
  | modifier => rw [summaryCell, summaryCell, listed.modifiers_eq]
  | type =>
      rw [summaryCell, summaryCell, alike.source.typeLink_eq, listed.same Member.type fun _ => rfl]
  | name =>
      rw [summaryCell, summaryCell, alike.summaryName_eq,
        listed.same (context'.summaryName owner) fun _ => rfl,
        owner_alike.same (fun other => context'.summaryName other member') fun _ => rfl]
  | description => exact alike.summaryText_eq listed

theorem summaryRow_eq (alike : context.Alike context') (owner_alike : owner.Alike owner')
    (deprecated_eq : owner.deprecated.isSome = owner'.deprecated.isSome)
    (listed : member.ListedAlike context.options member') :
    context.summaryRow owner member = context'.summaryRow owner' member' := by
  have cells_eq : context.summaryCell owner member = context'.summaryCell owner' member' :=
    funext (alike.summaryCell_eq owner_alike listed)
  rw [summaryRow, summaryRow, cells_eq, listed.facts_eq owner_alike deprecated_eq,
    listed.kind_eq]

theorem memberSummary_eq (alike : context.Alike context') (owner_alike : owner.Alike owner')
    (deprecated_eq : owner.deprecated.isSome = owner'.deprecated.isSome) (kind : MemberKind)
    {members members' : List Member}
    (all_listed : List.Forall₂ (Member.ListedAlike context.options) members members') :
    context.memberSummary owner kind members = context'.memberSummary owner' kind members' := by
  have rows_eq := mapM_eq_of_forall₂ all_listed fun _ _ listed =>
    alike.summaryRow_eq owner_alike deprecated_eq listed
  rw [memberSummary, memberSummary, alike.options_eq, rows_eq]

/-! ## Details -/

theorem tagEntry?_eq (alike : context.Alike context') : context.tagEntry? = context'.tagEntry? := by
  funext tag
  unfold tagEntry?
  rw [alike.markup_eq, alike.source.named_eq]

theorem memberTags_eq (alike : context.Alike context') (doc_eq : member.doc = member'.doc) :
    context.memberTags member = context'.memberTags member' := by
  rw [memberTags, memberTags, alike.tagEntry?_eq, doc_eq]

theorem memberDetail_eq (alike : context.Alike context')
    (listed : member.ListedAlike context.options member')
    (notice_eq : context.deprecation member.deprecated = context.deprecation member'.deprecated) :
    context.memberDetail member = context'.memberDetail member' := by
  rw [memberDetail, memberDetail, notice_eq, alike.deprecation_eq,
    alike.description_eq listed.comment, ← alike.options_eq, alike.memberSignature_eq,
    alike.plain_eq, listed.same context'.memberSignature fun _ => rfl,
    listed.same detailFrame fun _ => rfl, listed.same Member.defaultValue fun _ => rfl]
  rcases listed.comment with left_out | doc_eq
  · simp only [if_pos left_out]
  · rw [alike.memberTags_eq doc_eq]

theorem memberDetails_eq (alike : context.Alike context') (kind : MemberKind)
    {members members' : List Member}
    (all_listed : List.Forall₂ (fun member member' =>
      member.ListedAlike context.options member' ∧
        context.deprecation member.deprecated = context.deprecation member'.deprecated)
      members members') :
    context.memberDetails kind members = context'.memberDetails kind members' := by
  have details_eq := mapM_eq_of_forall₂ all_listed fun _ _ both =>
    alike.memberDetail_eq both.1 both.2
  rw [memberDetails, memberDetails, details_eq]

end Member
end PageContext.Alike
end RefDocs
