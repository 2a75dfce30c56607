import RefDocs.Compose.Constants
import RefDocs.Compose.Package
import RefDocs.Compose.TypePage
import RefDocs.Proofs.Compose.AlikeMembers

/-!
# Pages that are alike

Of other declarations a page mentions the outline and, if they are known, lists code and comment.
Where mentioned declarations agree, and the declaration that the page is about is shown alike, the
page has the same content or fails alike.
-/

namespace RefDocs

/-! ## Listed declarations -/

/-- The code of a package: all but its comment. -/
def PackageDecl.code (decl : PackageDecl) : PackageDecl :=
  { decl with doc := [] }

/-- The code of a type: all but the deprecations and comments of the type and its members. -/
def TypeDecl.code (decl : TypeDecl) : TypeDecl :=
  { decl with members := decl.members.map Member.code, deprecated := none, doc := [] }

/-- Two packages that pages list alike. -/
structure PackageDecl.ListedAlike (options : RenderOptions) (decl decl' : PackageDecl) : Prop where
  /-- The packages differ at most in their comments. -/
  code_eq : decl.code = decl'.code
  /-- The comments are shown alike. -/
  comment : options.SameComment decl.doc decl'.doc

/-- Two types that pages list alike, with their members. -/
structure TypeDecl.ListedAlike (options : RenderOptions) (decl decl' : TypeDecl) : Prop where
  /-- The types differ at most in deprecations and comments. -/
  code_eq : decl.code = decl'.code
  /-- The comments are shown alike. -/
  comment : options.SameComment decl.doc decl'.doc
  /-- Both or neither are deprecated. -/
  deprecated_eq : decl.deprecated.isSome = decl'.deprecated.isSome
  /-- The members are listed alike, place by place. -/
  members : List.Forall₂ (Member.ListedAlike options) decl.members decl'.members

/-- Two packages that pages mention alike. -/
structure PackageDecl.MentionedAlike (options : RenderOptions) (decl decl' : PackageDecl) :
    Prop where
  /-- The packages differ at most in what others do not show. -/
  alike : decl.Alike decl'
  /-- Known packages are listed. -/
  listed : decl.included = true → decl.ListedAlike options decl'

/-- Two types that pages mention alike. -/
structure TypeDecl.MentionedAlike (options : RenderOptions) (decl decl' : TypeDecl) : Prop where
  /-- The types differ at most in what others do not show. -/
  outline_eq : decl.outline = decl'.outline
  /-- Known types are listed. -/
  listed : decl.included = true → decl.ListedAlike options decl'

/-- Two graphs whose declarations are mentioned alike on all pages. -/
structure Graph.MentionsAlike (options : RenderOptions) (graph graph' : Graph) : Prop where
  /-- The hierarchy has the same root. -/
  rootType_eq : graph.rootType = graph'.rootType
  /-- The same annotation types declared elsewhere are shown. -/
  mem_shownElsewhere_iff : ∀ name, name ∈ graph.shownElsewhere ↔ name ∈ graph'.shownElsewhere
  /-- The packages are mentioned alike, place by place. -/
  packages : List.Forall₂ (PackageDecl.MentionedAlike options) graph.packages graph'.packages
  /-- The types are mentioned alike, place by place. -/
  types : List.Forall₂ (TypeDecl.MentionedAlike options) graph.types graph'.types

/-- What is read off the code of a package is the same for packages that are listed alike. -/
theorem PackageDecl.ListedAlike.same {options : RenderOptions} {decl decl' : PackageDecl}
    (listed : decl.ListedAlike options decl') {Value : Type} (read : PackageDecl → Value)
    (read_code : ∀ decl : PackageDecl, read decl.code = read decl) :
    read decl = read decl' :=
  read_eq_of_reduce_eq listed.code_eq read read_code

theorem PackageDecl.ListedAlike.alike {options : RenderOptions} {decl decl' : PackageDecl}
    (listed : decl.ListedAlike options decl') : decl.Alike decl' :=
  listed.same PackageDecl.outline fun _ => rfl

theorem Reference.anchor_code (decl : TypeDecl) : anchor decl.code = anchor decl := by
  funext reference
  -- References fit members by names and parameters, which their code has.
  have found : member? decl.code reference = (member? decl reference).map Member.code := by
    simp only [member?, TypeDecl.code, List.find?_map]
    rfl
  rw [anchor, anchor, found]
  cases member? decl reference with
  | none => rfl
  | some member => rfl

namespace TypeDecl

variable {options : RenderOptions} {decl decl' : TypeDecl}

/-- What is read off the code of a type is the same for types that are listed alike. -/
theorem ListedAlike.same (listed : decl.ListedAlike options decl') {Value : Type}
    (read : TypeDecl → Value)
    (read_code : ∀ decl : TypeDecl, read decl.code = read decl) :
    read decl = read decl' :=
  read_eq_of_reduce_eq listed.code_eq read read_code

theorem ListedAlike.anchor_eq (listed : decl.ListedAlike options decl') :
    Reference.anchor decl = Reference.anchor decl' :=
  listed.same Reference.anchor Reference.anchor_code

theorem ListedAlike.alike (listed : decl.ListedAlike options decl') : decl.Alike decl' where
  outline_eq := listed.same outline fun _ => rfl
  anchor_eq _ := listed.anchor_eq

theorem MentionedAlike.alike (mentioned : decl.MentionedAlike options decl') :
    decl.Alike decl' where
  outline_eq := mentioned.outline_eq
  anchor_eq known := (mentioned.listed known).anchor_eq

theorem code_constants (decl : TypeDecl) :
    decl.code.constants = decl.constants.map Member.code := by
  simp only [constants, code, List.filter_map]
  rfl

theorem ListedAlike.isEmpty_constants_eq (listed : decl.ListedAlike options decl') :
    decl.constants.isEmpty = decl'.constants.isEmpty := by
  refine listed.same (fun other => other.constants.isEmpty) fun other => ?_
  rw [code_constants, List.isEmpty_map]

end TypeDecl

namespace Graph.MentionsAlike

variable {options : RenderOptions} {graph graph' : Graph}

theorem alike (mentions : graph.MentionsAlike options graph') : graph.Alike graph' where
  rootType_eq := mentions.rootType_eq
  mem_shownElsewhere_iff := mentions.mem_shownElsewhere_iff
  packages := mentions.packages.imp fun _ _ => PackageDecl.MentionedAlike.alike
  types := mentions.types.imp fun _ _ => TypeDecl.MentionedAlike.alike

theorem rel_package? (mentions : graph.MentionsAlike options graph') (name : String) :
    Option.Rel (PackageDecl.MentionedAlike options) (graph.package? name) (graph'.package? name) :=
  optionRel_find? mentions.packages fun _ _ mentioned => by
    rw [mentioned.alike.name_eq]

theorem rel_type? (mentions : graph.MentionsAlike options graph') (name : String) :
    Option.Rel (TypeDecl.MentionedAlike options) (graph.type? name) (graph'.type? name) :=
  optionRel_find? mentions.types fun _ _ mentioned => by
    rw [mentioned.alike.qualifiedName_eq]

theorem forall₂_knownPackages (mentions : graph.MentionsAlike options graph') :
    List.Forall₂ (PackageDecl.ListedAlike options) graph.knownPackages graph'.knownPackages :=
  (forall₂_filter mentions.packages fun _ _ mentioned =>
    mentioned.alike.included_eq).imp fun _ _ kept => kept.1.listed kept.2

theorem forall₂_knownTypes (mentions : graph.MentionsAlike options graph') :
    List.Forall₂ (TypeDecl.ListedAlike options) graph.knownTypes graph'.knownTypes :=
  (forall₂_filter mentions.types fun _ _ mentioned =>
    mentioned.alike.included_eq).imp fun _ _ kept => kept.1.listed kept.2

theorem forall₂_typesInPackage (mentions : graph.MentionsAlike options graph') (name : String) :
    List.Forall₂ (TypeDecl.ListedAlike options) (graph.typesInPackage name)
      (graph'.typesInPackage name) := by
  refine (forall₂_filter mentions.types fun decl decl' mentioned => ?_).imp ?_
  · rw [mentioned.alike.included_eq, mentions.alike.ownerName_eq mentioned.alike]
  · rintro decl decl' ⟨mentioned, owned⟩
    exact mentioned.listed (Bool.and_eq_true_iff.mp owned).1

theorem forall₂_nestedTypes (mentions : graph.MentionsAlike options graph') (name : String) :
    List.Forall₂ (TypeDecl.ListedAlike options) (graph.nestedTypes name)
      (graph'.nestedTypes name) := by
  refine (forall₂_filter mentions.types fun decl decl' mentioned => ?_).imp ?_
  · rw [mentioned.alike.included_eq, mentioned.alike.same TypeDecl.enclosingType? fun _ => rfl]
  · rintro decl decl' ⟨mentioned, nested⟩
    exact mentioned.listed (Bool.and_eq_true_iff.mp nested).1

/-! ### The package tree -/

theorem rel_parentPackage? (mentions : graph.MentionsAlike options graph')
    {decl decl' : PackageDecl} (decl_alike : decl.Alike decl') :
    Option.Rel (PackageDecl.ListedAlike options) (graph.parentPackage? decl)
      (graph'.parentPackage? decl') := by
  rw [parentPackage?, parentPackage?, decl_alike.included_eq,
    decl_alike.name_eq]
  split
  · have found : Option.Rel (PackageDecl.MentionedAlike options)
        ((Text.beforeLast? '.' decl'.name).bind graph.package?)
        ((Text.beforeLast? '.' decl'.name).bind graph'.package?) := by
      cases Text.beforeLast? '.' decl'.name with
      | none => exact .none
      | some name => exact mentions.rel_package? name
    refine optionRel_mono (optionRel_filter found fun _ _ mentioned => ?_)
      fun _ _ kept => kept.1.listed kept.2
    exact mentioned.alike.included_eq
  · exact .none

theorem included_of_parentPackage? {decl parent : PackageDecl}
    (parent_eq : graph.parentPackage? decl = some parent) : decl.included = true := by
  rw [parentPackage?] at parent_eq
  split at parent_eq
  · assumption
  · cases parent_eq

theorem forall₂_childPackages (mentions : graph.MentionsAlike options graph') (name : String) :
    List.Forall₂ (PackageDecl.ListedAlike options) (graph.childPackages name)
      (graph'.childPackages name) := by
  refine (forall₂_filter mentions.packages fun decl decl' mentioned => ?_).imp ?_
  · refine any_eq_of_optionRel (mentions.rel_parentPackage? mentioned.alike) ?_
    intro parent parent' parent_listed
    rw [parent_listed.alike.name_eq]
  · rintro decl decl' ⟨mentioned, is_child⟩
    obtain ⟨parent, parent_eq, -⟩ := (Option.any_eq_true _ _).mp is_child
    exact mentioned.listed (included_of_parentPackage? parent_eq)

/-! ### Constants -/

theorem forall₂_typesWithConstants (mentions : graph.MentionsAlike options graph') :
    List.Forall₂ (TypeDecl.ListedAlike options) graph.typesWithConstants
      graph'.typesWithConstants := by
  refine (forall₂_filter mentions.forall₂_knownTypes fun _ _ listed => ?_).imp
    fun _ _ kept => kept.1
  rw [listed.isEmpty_constants_eq]

theorem constantsGroup_eq (mentions : graph.MentionsAlike options graph') {decl decl' : TypeDecl}
    (decl_alike : decl.Alike decl') : graph.constantsGroup decl = graph'.constantsGroup decl' := by
  rw [constantsGroup, constantsGroup, mentions.alike.ownerName_eq decl_alike]

theorem constantsGroups_eq (mentions : graph.MentionsAlike options graph') :
    graph.constantsGroups = graph'.constantsGroups := by
  have groups_eq := map_eq_of_forall₂ mentions.forall₂_typesWithConstants fun _ _ listed =>
    mentions.constantsGroup_eq listed.alike
  rw [constantsGroups, constantsGroups, groups_eq]

theorem forall₂_typesInGroup (mentions : graph.MentionsAlike options graph') (group : String) :
    List.Forall₂ (TypeDecl.ListedAlike options) (graph.typesInGroup group)
      (graph'.typesInGroup group) := by
  refine (forall₂_filter mentions.forall₂_typesWithConstants fun _ _ listed => ?_).imp
    fun _ _ kept => kept.1
  rw [mentions.constantsGroup_eq listed.alike]

end Graph.MentionsAlike

/-! ## Pages -/

/-- The same page in two graphs whose declarations are mentioned alike. -/
structure PageContext.MentionsAlike (context context' : PageContext) : Prop
    extends context.Alike context' where
  /-- The declarations are mentioned alike. -/
  mentions : context.graph.MentionsAlike context.options context'.graph

/-- The deprecation notices on the page of a type: its own and those of its members. -/
def PageContext.notices (context : PageContext) (decl : TypeDecl) : List (Composed Content) :=
  context.deprecation decl.deprecated ::
    decl.members.map fun member => context.deprecation member.deprecated

namespace PageContext.MentionsAlike

variable {context context' : PageContext}

/-! ### Packages -/

section PackagePage

variable {decl decl' : PackageDecl}

theorem contentsRow_eq (alike : context.MentionsAlike context') (package : String)
    {type type' : TypeDecl} (listed : type.ListedAlike context.options type') :
    context.contentsRow package type = context'.contentsRow package type' := by
  rw [contentsRow, contentsRow, alike.summary_eq listed.comment, alike.source.named_eq,
    listed.alike.qualifiedName_eq, listed.same TypeDecl.simpleName fun _ => rfl,
    listed.same TypeDecl.kind fun _ => rfl]

theorem packageContents_eq (alike : context.MentionsAlike context') :
    context.packageContents = context'.packageContents := by
  funext package
  have rows_eq := mapM_eq_of_forall₂ (alike.mentions.forall₂_typesInPackage package) fun _ _ =>
    alike.contentsRow_eq package
  rw [packageContents, packageContents, alike.options_eq, rows_eq]

theorem relatedRow_eq (alike : context.MentionsAlike context')
    (listed : decl.ListedAlike context.options decl') :
    context.relatedRow decl = context'.relatedRow decl' := by
  rw [relatedRow, relatedRow, alike.summary_eq listed.comment, alike.source.package_eq,
    listed.alike.name_eq]

theorem relatedPackages_eq (alike : context.MentionsAlike context')
    (decl_alike : decl.Alike decl') :
    context.relatedPackages decl = context'.relatedPackages decl' := by
  have others : List.Forall₂ (PackageDecl.ListedAlike context.options)
      ((context.graph.parentPackage? decl).toList ++ context.graph.childPackages decl'.name)
      ((context'.graph.parentPackage? decl').toList ++ context'.graph.childPackages decl'.name) :=
    List.rel_append (forall₂_toList (alike.mentions.rel_parentPackage? decl_alike))
      (alike.mentions.forall₂_childPackages decl'.name)
  have rows_eq := mapM_eq_of_forall₂ others fun _ _ => alike.relatedRow_eq
  rw [relatedPackages, relatedPackages, decl_alike.name_eq, rows_eq,
    alike.options_eq]

theorem packagePage_eq (alike : context.MentionsAlike context')
    (listed : decl.ListedAlike context.options decl') :
    context.packagePage decl = context'.packagePage decl' := by
  rw [packagePage, packagePage, alike.description_eq listed.comment, alike.packageContents_eq,
    alike.relatedPackages_eq listed.alike, alike.codeAnnotations_eq,
    listed.same PackageDecl.annotations fun _ => rfl, listed.alike.name_eq]

end PackagePage

/-! ### Constants -/

theorem constantRow_eq (alike : context.MentionsAlike context') :
    context.constantRow = context'.constantRow := by
  funext owner member
  rw [constantRow, constantRow, alike.source.typeLink_eq, alike.source.member_eq]

theorem code_constantsTable (context : PageContext) (decl : TypeDecl) :
    context.constantsTable decl.code = context.constantsTable decl := by
  rw [constantsTable, constantsTable, TypeDecl.code_constants, List.map_map]
  rfl

theorem constantsTable_eq (alike : context.MentionsAlike context') {decl decl' : TypeDecl}
    (listed : decl.ListedAlike context.options decl') :
    context.constantsTable decl = context'.constantsTable decl' := by
  rw [listed.same context.constantsTable (code_constantsTable context), constantsTable,
    constantsTable, alike.options_eq, alike.source.named_eq, alike.constantRow_eq]

theorem constantsBlocks_eq (alike : context.MentionsAlike context') :
    context.constantsBlocks = context'.constantsBlocks := by
  funext group
  have tables_eq := mapM_eq_of_forall₂ (alike.mentions.forall₂_typesInGroup group) fun _ _ =>
    alike.constantsTable_eq
  rw [constantsBlocks, constantsBlocks, tables_eq]

theorem constantsPage?_eq (alike : context.MentionsAlike context') :
    context.constantsPage? = context'.constantsPage? := by
  rw [constantsPage?, constantsPage?, alike.mentions.constantsGroups_eq, alike.constantsBlocks_eq]

/-! ### Types -/

section TypePage

variable {decl decl' : TypeDecl}

theorem typeSignature_eq (alike : context.MentionsAlike context') :
    context.typeSignature = context'.typeSignature := by
  funext decl
  rw [typeSignature, typeSignature, shownSuperclass, shownSuperclass, alike.codeAnnotations_eq,
    alike.codeName_eq, alike.typesAfter_eq, alike.graph.rootType_eq]

theorem hierarchy_eq (alike : context.MentionsAlike context') (decl_alike : decl.Alike decl') :
    context.hierarchy decl = context'.hierarchy decl' := by
  rw [hierarchy, hierarchy, alike.graph.ancestors_eq decl_alike, alike.source.typeRef_eq,
    decl_alike.same TypeDecl.selfType fun _ => rfl]

theorem typeParameterEntry?_eq (alike : context.MentionsAlike context') :
    context.typeParameterEntry? = context'.typeParameterEntry? := by
  funext tag
  rw [ typeParameterEntry?, typeParameterEntry?, alike.markup_eq]

theorem typeParameterBlock_eq (alike : context.MentionsAlike context')
    (comment : context.options.SameComment decl.doc decl'.doc) :
    context.typeParameterBlock decl = context'.typeParameterBlock decl' := by
  rw [typeParameterBlock, typeParameterBlock, ← alike.options_eq, alike.typeParameterEntry?_eq]
  rcases comment with left_out | doc_eq
  · rw [if_pos left_out, if_pos left_out]
  · rw [doc_eq]

theorem declLinks_eq (alike : context.MentionsAlike context') {decls decls' : List TypeDecl}
    (decls_alike : List.Forall₂ TypeDecl.Alike decls decls') :
    context.declLinks decls = context'.declLinks decls' :=
  map_eq_of_forall₂ decls_alike fun _ _ => alike.source.declLink_eq .documentation

theorem enclosingBlock_eq (alike : context.MentionsAlike context') (decl_alike : decl.Alike decl') :
    context.enclosingBlock decl = context'.enclosingBlock decl' := by
  have outers_alike : Option.Rel TypeDecl.Alike (decl.enclosingType?.bind context.graph.type?)
      (decl'.enclosingType?.bind context'.graph.type?) :=
    optionRel_outerType? alike.graph.types decl_alike
  rw [enclosingBlock, enclosingBlock]
  rcases optionRel_iff.mp outers_alike with
    ⟨outer_eq, outer_eq'⟩ | ⟨outer, outer', outer_eq, outer_eq', outer_alike⟩
  · simp only [outer_eq, outer_eq']
  · have links_eq := alike.declLinks_eq (.cons outer_alike .nil)
    simp only [outer_eq, outer_eq', links_eq, outer_alike.isInterface_eq]

theorem declLinks_filter_eq (alike : context.MentionsAlike context') {decls decls' : List TypeDecl}
    (decls_alike : List.Forall₂ TypeDecl.Alike decls decls') (kept : Bool → Bool) :
    context.declLinks (decls.filter fun other => kept other.isInterface) =
      context'.declLinks (decls'.filter fun other => kept other.isInterface) := by
  refine alike.declLinks_eq ((forall₂_filter decls_alike fun _ _ other_alike => ?_).imp
    fun _ _ filtered => filtered.1)
  rw [other_alike.isInterface_eq]

theorem relations_eq (alike : context.MentionsAlike context') (decl_alike : decl.Alike decl') :
    context.relations decl = context'.relations decl' := by
  have implementors := alike.graph.forall₂_directImplementors decl'.qualifiedName
  have subtypes_eq := alike.declLinks_eq (alike.graph.forall₂_directSubtypes decl'.qualifiedName)
  have subinterfaces_eq := alike.declLinks_filter_eq implementors id
  have classes_eq := alike.declLinks_filter_eq implementors Bool.not
  simp only [id_eq] at subinterfaces_eq
  simp only [relations, decl_alike.qualifiedName_eq,
    decl_alike.isInterface_eq, decl_alike.same TypeDecl.interfaces fun _ => rfl,
    alike.graph.isVisible_eq, alike.source.typeLink_eq, alike.enclosingBlock_eq decl_alike,
    subtypes_eq, subinterfaces_eq, classes_eq]

theorem tagList_eq (alike : context.MentionsAlike context') :
    context.tagList = context'.tagList := by
  funext doc tag
  rw [tagList, tagList, alike.markup_eq]

theorem tagLists_eq (alike : context.MentionsAlike context') {doc doc' : List DocNode}
    (comment : context.options.SameComment doc doc') :
    context.tagLists doc = context'.tagLists doc' := by
  rw [tagLists, tagLists, ← alike.options_eq, alike.tagList_eq]
  exact comment.ite_eq (pure []) fun nodes => listedTags.mapM (context'.tagList nodes)

theorem nestedRow_eq (alike : context.MentionsAlike context') {outer outer' : TypeDecl}
    (outer_alike : outer.Alike outer') (listed : decl.ListedAlike context.options decl') :
    context.nestedRow outer decl = context'.nestedRow outer' decl' := by
  rw [nestedRow, nestedRow, alike.summary_eq listed.comment, alike.source.named_eq,
    outer_alike.qualifiedName_eq, listed.alike.qualifiedName_eq,
    listed.same TypeDecl.simpleName fun _ => rfl, listed.same TypeDecl.modifiers fun _ => rfl,
    listed.same TypeDecl.kind fun _ => rfl]

theorem nestedSummary_eq (alike : context.MentionsAlike context') (decl_alike : decl.Alike decl') :
    context.nestedSummary decl = context'.nestedSummary decl' := by
  have nested := alike.mentions.forall₂_nestedTypes decl'.qualifiedName
  have rows_eq := mapM_eq_of_forall₂ nested fun _ _ => alike.nestedRow_eq decl_alike
  have isEmpty_eq := isEmpty_eq_of_forall₂ nested
  rw [nestedSummary, nestedSummary, decl_alike.qualifiedName_eq]
  simp only [rows_eq, isEmpty_eq, alike.options_eq]

theorem summaryBlocks_eq (alike : context.MentionsAlike context')
    (listed : decl.ListedAlike context.options decl') :
    context.summaryBlocks decl = context'.summaryBlocks decl' := by
  funext kind
  have members : List.Forall₂ (Member.ListedAlike context.options) (membersOf decl kind)
      (membersOf decl' kind) := by
    refine (forall₂_filter listed.members fun _ _ member_listed => ?_).imp fun _ _ kept => kept.1
    rw [member_listed.kind_eq]
  rw [summaryBlocks, summaryBlocks, isEmpty_eq_of_forall₂ members,
    alike.memberSummary_eq listed.alike listed.deprecated_eq kind members]

theorem typeDetails_eq (alike : context.MentionsAlike context')
    (listed : decl.ListedAlike context.options decl')
    (notices_eq : context.notices decl = context.notices decl') (kind : MemberKind) :
    context.memberDetails kind (membersOf decl kind) =
      context'.memberDetails kind (membersOf decl' kind) := by
  -- The notices are compared member by member before the members are sorted by kind.
  have noticed := forall₂_and_of_map_eq listed.members (List.cons_eq_cons.mp notices_eq).2
  refine alike.memberDetails_eq kind ((forall₂_filter noticed fun _ _ both => ?_).imp
    fun _ _ kept => kept.1)
  rw [both.1.kind_eq]

/-- The page of a type shows of the reasons for deprecations just what the notices show. -/
theorem typePage_eq (alike : context.MentionsAlike context')
    (listed : decl.ListedAlike context.options decl')
    (notices_eq : context.notices decl = context.notices decl') :
    context.typePage decl = context'.typePage decl' := by
  have decl_alike := listed.alike
  have details_eq := funext (alike.typeDetails_eq listed notices_eq)
  rw [typePage, typePage, alike.hierarchy_eq decl_alike,
    alike.typeParameterBlock_eq listed.comment, (List.cons_eq_cons.mp notices_eq).1,
    alike.deprecation_eq, alike.description_eq listed.comment, alike.tagLists_eq listed.comment,
    alike.nestedSummary_eq decl_alike, alike.summaryBlocks_eq listed, details_eq,
    alike.relations_eq decl_alike, alike.typeSignature_eq, alike.graph.typeName_eq,
    alike.graph.ownerName_eq decl_alike, alike.source.package_eq,
    listed.same context'.typeSignature fun _ => rfl, decl_alike.same TypeDecl.selfType fun _ => rfl,
    decl_alike.same TypeDecl.simpleName fun _ => rfl, decl_alike.same TypeDecl.kind fun _ => rfl,
    decl_alike.same TypeDecl.functional fun _ => rfl, alike.options_eq]

end TypePage
end PageContext.MentionsAlike
end RefDocs
