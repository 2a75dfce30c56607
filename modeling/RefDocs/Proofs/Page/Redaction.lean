import RefDocs.Proofs.Graph.Building
import RefDocs.Proofs.Page.AlikeRuns

/-!
# What pages do not show

Parts of declarations that do not reach any page of a run: whatever excluded declarations hold
besides their outlines and, where comments are left out, all comments.  The reasons for deprecations
reach the pages of types even then, in the notices and nowhere else.
-/

namespace RefDocs

/-- Parts of declarations to leave out.  Names stay. -/
structure Redaction where
  /-- What is left of a package. -/
  package : PackageDecl → PackageDecl
  /-- What is left of a type. -/
  type : TypeDecl → TypeDecl
  /-- Packages keep their names. -/
  name_package : ∀ decl, (package decl).name = decl.name
  /-- Types keep their names. -/
  qualifiedName_type : ∀ decl, (type decl).qualifiedName = decl.qualifiedName

/-- What a redaction leaves of a snapshot.  Two snapshots of which the same is left differ only in
the parts that are left out. -/
def Snapshot.redacted (snapshot : Snapshot) (redaction : Redaction) : Snapshot :=
  { snapshot with
    packages := snapshot.packages.map redaction.package
    types := snapshot.types.map redaction.type }

/-- Pages mention nothing of what a redaction leaves out. -/
structure Redaction.Unmentioned (redaction : Redaction) (options : RenderOptions) : Prop where
  /-- Packages of which the same is left are mentioned alike. -/
  packages : ∀ decl decl', redaction.package decl = redaction.package decl' →
    decl.MentionedAlike options decl'
  /-- Types of which the same is left are mentioned alike. -/
  types : ∀ decl decl', redaction.type decl = redaction.type decl' →
    decl.MentionedAlike options decl'

namespace Graph

variable {snapshot snapshot' : Snapshot} {rootType : String} {graph graph' : Graph}
  {redaction : Redaction} {options : RenderOptions}

theorem rootType_and_shownElsewhere_of_build (built : build snapshot rootType = .ok graph) :
    graph.rootType = rootType ∧ graph.shownElsewhere =
      (snapshot.annotationTypes.filter ExternalAnnotation.documented).map (·.name) := by
  rw [build] at built
  split at built
  · cases built
  · cases built
    exact ⟨rfl, rfl⟩

theorem forall₂_types_of_redacted (built : build snapshot rootType = .ok graph)
    (built' : build snapshot' rootType = .ok graph')
    (same : snapshot.redacted redaction = snapshot'.redacted redaction) :
    List.Forall₂ (fun decl decl' => redaction.type decl = redaction.type decl') graph.types
      graph'.types := by
  obtain ⟨-, types_eq, -⟩ := sound_of_build built
  obtain ⟨-, types_eq', -⟩ := sound_of_build built'
  have left_eq : snapshot.types.map redaction.type = snapshot'.types.map redaction.type :=
    congrArg Snapshot.types same
  refine forall₂_of_map_eq ?_
  rw [types_eq, types_eq', ← sortByName_map redaction.qualifiedName_type, left_eq,
    sortByName_map redaction.qualifiedName_type]

theorem forall₂_packages_of_redacted (built : build snapshot rootType = .ok graph)
    (built' : build snapshot' rootType = .ok graph')
    (same : snapshot.redacted redaction = snapshot'.redacted redaction) :
    List.Forall₂ (fun decl decl' => redaction.package decl = redaction.package decl')
      graph.packages graph'.packages := by
  obtain ⟨packages_eq, -⟩ := sound_of_build built
  obtain ⟨packages_eq', -⟩ := sound_of_build built'
  have left_eq : snapshot.packages.map redaction.package =
      snapshot'.packages.map redaction.package :=
    congrArg Snapshot.packages same
  refine forall₂_of_map_eq ?_
  rw [packages_eq, packages_eq', ← sortByName_map redaction.name_package, left_eq,
    sortByName_map redaction.name_package]

theorem mentionsAlike_of_redacted (built : build snapshot rootType = .ok graph)
    (built' : build snapshot' rootType = .ok graph')
    (same : snapshot.redacted redaction = snapshot'.redacted redaction)
    (unmentioned : redaction.Unmentioned options) : graph.MentionsAlike options graph' where
  rootType_eq := by
    rw [(rootType_and_shownElsewhere_of_build built).1,
      (rootType_and_shownElsewhere_of_build built').1]
  mem_shownElsewhere_iff := by
    intro name
    have external_eq := congrArg Snapshot.annotationTypes same
    rw [Snapshot.redacted, Snapshot.redacted] at external_eq
    rw [(rootType_and_shownElsewhere_of_build built).2,
      (rootType_and_shownElsewhere_of_build built').2, external_eq]
  packages := (forall₂_packages_of_redacted built built' same).imp unmentioned.packages
  types := (forall₂_types_of_redacted built built' same).imp unmentioned.types

/-- What is left out of two snapshots does not reach any page of a run, if pages do not mention it
and it has no part in deprecation notices. -/
theorem generate_eq_of_redacted (built : build snapshot rootType = .ok graph)
    (built' : build snapshot' rootType = .ok graph')
    (same : snapshot.redacted redaction = snapshot'.redacted redaction)
    (unmentioned : redaction.Unmentioned options)
    (unnoticed : ∀ (context : PageContext) decl decl', decl.included = true →
      redaction.type decl = redaction.type decl' →
        context.notices decl = context.notices decl') :
    graph.generate options = graph'.generate options := by
  obtain ⟨-, -, sound⟩ := sound_of_build built
  refine (mentionsAlike_of_redacted built built' same unmentioned).generate_eq sound ?_
  rintro page - name decl decl' - found known found'
  -- As names stay, what the two graphs find under one name has the same left of it.
  have left_eq : Option.Rel (fun decl decl' => redaction.type decl = redaction.type decl')
      (graph.type? name) (graph'.type? name) :=
    optionRel_find? (forall₂_types_of_redacted built built' same) fun decl decl' type_eq => by
      rw [read_eq_of_reduce_eq type_eq TypeDecl.qualifiedName redaction.qualifiedName_type]
  rw [found, found', Option.rel_some_some] at left_eq
  exact unnoticed _ decl decl' known left_eq

end Graph

/-! ## Excluded declarations -/

theorem PackageDecl.ListedAlike.refl (options : RenderOptions) (decl : PackageDecl) :
    decl.ListedAlike options decl :=
  ⟨rfl, .inr rfl⟩

theorem Member.ListedAlike.refl (options : RenderOptions) (member : Member) :
    member.ListedAlike options member := by
  refine ⟨rfl, .inr rfl, ?_⟩
  cases member.deprecated with
  | none => exact .none
  | some mark => exact .some (.inr rfl)

theorem TypeDecl.ListedAlike.refl (options : RenderOptions) (decl : TypeDecl) :
    decl.ListedAlike options decl :=
  ⟨rfl, .inr rfl, rfl,
    List.forall₂_same.mpr fun member _ => Member.ListedAlike.refl options member⟩

/-- A declaration, or its outline if it is excluded. -/
def unlessExcluded {Decl : Type} (included : Decl → Bool) (outline : Decl → Decl) (decl : Decl) :
    Decl :=
  if included decl then decl else outline decl

/-- Declarations of which the same is left have one outline, and known ones are the same. -/
theorem outline_eq_and_eq_of_unlessExcluded {Decl : Type} (included : Decl → Bool)
    (outline : Decl → Decl) (outline_outline : ∀ decl, outline (outline decl) = outline decl)
    (included_outline : ∀ decl, included (outline decl) = included decl) {decl decl' : Decl}
    (left_eq : unlessExcluded included outline decl = unlessExcluded included outline decl') :
    outline decl = outline decl' ∧ (included decl = true → decl = decl') := by
  have outline_left (other : Decl) :
      outline (unlessExcluded included outline other) = outline other := by
    rw [unlessExcluded]
    split
    · rfl
    · exact outline_outline other
  have outline_eq : outline decl = outline decl' :=
    read_eq_of_reduce_eq left_eq outline outline_left
  refine ⟨outline_eq, fun known => ?_⟩
  have known' : included decl' = true := by
    rw [← included_outline decl', ← outline_eq, included_outline decl, known]
  rwa [unlessExcluded, unlessExcluded, if_pos known, if_pos known'] at left_eq

theorem PackageDecl.outline_eq_and_eq_of_left {decl decl' : PackageDecl}
    (left_eq : unlessExcluded included outline decl = unlessExcluded included outline decl') :
    decl.outline = decl'.outline ∧ (decl.included = true → decl = decl') :=
  outline_eq_and_eq_of_unlessExcluded included outline (fun _ => rfl) (fun _ => rfl) left_eq

theorem TypeDecl.outline_eq_and_eq_of_left {decl decl' : TypeDecl}
    (left_eq : unlessExcluded included outline decl = unlessExcluded included outline decl') :
    decl.outline = decl'.outline ∧ (decl.included = true → decl = decl') :=
  outline_eq_and_eq_of_unlessExcluded included outline (fun _ => rfl) (fun _ => rfl) left_eq

/-- Of excluded declarations, the outlines are left. -/
def Redaction.excluded : Redaction where
  package := unlessExcluded PackageDecl.included PackageDecl.outline
  type := unlessExcluded TypeDecl.included TypeDecl.outline
  name_package decl := by
    rw [unlessExcluded]
    split <;> rfl
  qualifiedName_type decl := by
    rw [unlessExcluded]
    split <;> rfl

theorem Redaction.unmentioned_excluded (options : RenderOptions) :
    excluded.Unmentioned options where
  packages decl decl' left_eq := by
    obtain ⟨outline_eq, eq_of_known⟩ := PackageDecl.outline_eq_and_eq_of_left left_eq
    exact ⟨outline_eq, fun known => eq_of_known known ▸ PackageDecl.ListedAlike.refl options decl⟩
  types decl decl' left_eq := by
    obtain ⟨outline_eq, eq_of_known⟩ := TypeDecl.outline_eq_and_eq_of_left left_eq
    exact ⟨outline_eq, fun known => eq_of_known known ▸ TypeDecl.ListedAlike.refl options decl⟩

/-- Nothing of excluded declarations but their outlines reaches a run: not their annotations and
comments, nor the members and deprecations of excluded types. -/
theorem Graph.generate_eq_of_excluded {snapshot snapshot' : Snapshot} {rootType : String}
    {graph graph' : Graph} (built : build snapshot rootType = .ok graph)
    (built' : build snapshot' rootType = .ok graph')
    (same : snapshot.redacted .excluded = snapshot'.redacted .excluded)
    (options : RenderOptions) : graph.generate options = graph'.generate options := by
  refine generate_eq_of_redacted built built' same (Redaction.unmentioned_excluded options) ?_
  intro context decl decl' known left_eq
  rw [(TypeDecl.outline_eq_and_eq_of_left left_eq).2 known]

/-- An excluded type with nothing in it. -/
def emptySafe : TypeDecl where
  qualifiedName := "vault.Safe"
  simpleName := "Safe"
  kind := .classType
  enclosing := .package "vault"
  included := false

/-- The same type with a constant and a comment that has no normal form. -/
def fullSafe : TypeDecl :=
  { emptySafe with
    annotations := [⟨"shop.Sealed", [], false⟩]
    members := [{ kind := .field, name := "open", constantValue := some "1" }]
    deprecated := some { forRemoval := true }
    doc := [.endElement "b"] }

/-- A known type that extends a type of an excluded package and links to a member of it. -/
def fencedSnapshot (safe : TypeDecl) : Snapshot where
  packages :=
    [{ name := "shop" },
     { name := "vault", included := false, annotations := safe.annotations, doc := safe.doc }]
  types :=
    [{ qualifiedName := "shop.Cart", simpleName := "Cart", kind := .classType
       enclosing := .package "shop", superclass := some safe.selfType
       doc := [.link "vault.Safe" (some "open") [] false] }, safe]

theorem Graph.generate_eq_fenced : ∃ graph graph' : Graph,
    build (fencedSnapshot emptySafe) defaultRootType = .ok graph ∧
      build (fencedSnapshot fullSafe) defaultRootType = .ok graph' ∧
      graph.generate {} = graph'.generate {} := by
  refine ⟨_, _, rfl, rfl, ?_⟩
  exact @generate_eq_of_excluded (fencedSnapshot emptySafe) (fencedSnapshot fullSafe)
    defaultRootType _ _ rfl rfl rfl {}

/-! ## Comments -/

/-- A member without its comment. -/
def Member.withoutComment (member : Member) : Member :=
  { member with doc := [] }

/-- A type without its comment and those of its members. -/
def TypeDecl.withoutComments (decl : TypeDecl) : TypeDecl :=
  { decl with members := decl.members.map Member.withoutComment, doc := [] }

/-- The comments of packages, types and members are left out. -/
def Redaction.comments : Redaction where
  package := PackageDecl.code
  type := TypeDecl.withoutComments
  name_package _ := rfl
  qualifiedName_type _ := rfl

namespace TypeDecl

variable {options : RenderOptions} {decl decl' : TypeDecl}

/-- Which members of a type are deprecated. -/
def deprecatedMembers (decl : TypeDecl) : List Bool :=
  decl.members.map fun member => member.deprecated.isSome

/-- Where comments are left out, pages list of deprecations only that there are any. -/
theorem ListedAlike.of_noComment (left_out : options.noComment = true)
    (code_eq : decl.code = decl'.code)
    (deprecated_eq : decl.deprecated.isSome = decl'.deprecated.isSome)
    (deprecatedMembers_eq : decl.deprecatedMembers = decl'.deprecatedMembers) :
    decl.ListedAlike options decl' := by
  refine ⟨code_eq, .inl left_out, deprecated_eq, ?_⟩
  have members_eq : decl.members.map Member.code = decl'.members.map Member.code :=
    congrArg TypeDecl.members code_eq
  refine (forall₂_and_of_map_eq (forall₂_of_map_eq members_eq) deprecatedMembers_eq).imp ?_
  rintro member member' ⟨code_eq, isSome_eq⟩
  exact ⟨code_eq, .inl left_out, optionRel_of_isSome_eq (fun _ _ => .inl left_out) isSome_eq⟩

theorem code_withoutComments (decl : TypeDecl) : decl.withoutComments.code = decl.code := by
  rw [code, withoutComments, List.map_map]
  rfl

theorem deprecatedMembers_withoutComments (decl : TypeDecl) :
    decl.withoutComments.deprecatedMembers = decl.deprecatedMembers := by
  rw [deprecatedMembers, withoutComments, List.map_map]
  rfl

end TypeDecl

theorem PageContext.notices_withoutComments (context : PageContext) (decl : TypeDecl) :
    context.notices decl.withoutComments = context.notices decl := by
  rw [notices, TypeDecl.withoutComments, List.map_map]
  rfl

theorem Redaction.unmentioned_comments {options : RenderOptions}
    (left_out : options.noComment = true) : comments.Unmentioned options where
  packages decl decl' code_eq :=
    have listed : decl.ListedAlike options decl' := ⟨code_eq, .inl left_out⟩
    ⟨listed.alike, fun _ => listed⟩
  types decl decl' left_eq := by
    have listed : decl.ListedAlike options decl' :=
      .of_noComment left_out
        (read_eq_of_reduce_eq left_eq TypeDecl.code TypeDecl.code_withoutComments)
        (read_eq_of_reduce_eq left_eq (fun other => other.deprecated.isSome) fun _ => rfl)
        (read_eq_of_reduce_eq left_eq TypeDecl.deprecatedMembers
          TypeDecl.deprecatedMembers_withoutComments)
    exact ⟨listed.same TypeDecl.outline fun _ => rfl, fun _ => listed⟩

/-- Where comments are left out, no comment of a package, type or member reaches a run, be it
through its text, a block tag or the fault that it has no normal form. -/
theorem Graph.generate_eq_of_comments {snapshot snapshot' : Snapshot} {rootType : String}
    {graph graph' : Graph} (built : build snapshot rootType = .ok graph)
    (built' : build snapshot' rootType = .ok graph') {options : RenderOptions}
    (left_out : options.noComment = true)
    (same : snapshot.redacted .comments = snapshot'.redacted .comments) :
    graph.generate options = graph'.generate options := by
  refine generate_eq_of_redacted built built' same (Redaction.unmentioned_comments left_out) ?_
  intro context decl decl' _ left_eq
  exact read_eq_of_reduce_eq left_eq context.notices context.notices_withoutComments

/-- A package, a type and a member of it, with one comment. -/
def commentedSnapshot (doc : List DocNode) : Snapshot where
  packages := [{ name := "shop", doc }]
  types :=
    [{ qualifiedName := "shop.Cart", simpleName := "Cart", kind := .classType
       enclosing := .package "shop", members := [{ kind := .method, name := "sum", doc }], doc }]

theorem Graph.generate_eq_commented : ∃ graph graph' : Graph,
    build (commentedSnapshot [.text "Sums up."]) defaultRootType = .ok graph ∧
      build (commentedSnapshot [.endElement "b"]) defaultRootType = .ok graph' ∧
      graph.generate { noComment := true } = graph'.generate { noComment := true } := by
  refine ⟨_, _, rfl, rfl, ?_⟩
  exact @generate_eq_of_comments (commentedSnapshot [.text "Sums up."])
    (commentedSnapshot [.endElement "b"]) defaultRootType _ _ rfl rfl { noComment := true } rfl rfl

/-! ## Reasons for deprecations -/

/-- A deprecation without its reason. -/
def Deprecation.withoutReason (mark : Deprecation) : Deprecation :=
  { mark with doc := [] }

/-- A member without the reason for its deprecation. -/
def Member.withoutReason (member : Member) : Member :=
  { member with deprecated := member.deprecated.map Deprecation.withoutReason }

/-- A type without the reasons for its deprecation and those of its members. -/
def TypeDecl.withoutReasons (decl : TypeDecl) : TypeDecl :=
  { decl with
    members := decl.members.map Member.withoutReason
    deprecated := decl.deprecated.map Deprecation.withoutReason }

/-- The reasons for deprecations are left out. -/
def Redaction.reasons : Redaction where
  package := id
  type := TypeDecl.withoutReasons
  name_package _ := rfl
  qualifiedName_type _ := rfl

namespace TypeDecl

theorem code_withoutReasons (decl : TypeDecl) :
    decl.withoutReasons.code = decl.code := by
  rw [code, withoutReasons, List.map_map]
  rfl

theorem deprecated_withoutReasons (decl : TypeDecl) :
    decl.withoutReasons.deprecated.isSome = decl.deprecated.isSome := by
  rw [withoutReasons, Option.isSome_map]

theorem deprecatedMembers_withoutReasons (decl : TypeDecl) :
    decl.withoutReasons.deprecatedMembers = decl.deprecatedMembers := by
  have same_mark : (fun member : Member => member.deprecated.isSome) ∘ Member.withoutReason =
      fun member => member.deprecated.isSome := by
    funext member
    exact Option.isSome_map
  rw [deprecatedMembers, withoutReasons, List.map_map, same_mark, deprecatedMembers]

end TypeDecl

theorem Redaction.unmentioned_reasons {options : RenderOptions}
    (left_out : options.noComment = true) : reasons.Unmentioned options where
  packages decl decl' left_eq := by
    obtain rfl : decl = decl' := left_eq
    exact ⟨rfl, fun _ => PackageDecl.ListedAlike.refl options decl⟩
  types decl decl' left_eq := by
    have listed : decl.ListedAlike options decl' :=
      .of_noComment left_out
        (read_eq_of_reduce_eq left_eq TypeDecl.code TypeDecl.code_withoutReasons)
        (read_eq_of_reduce_eq left_eq (fun other => other.deprecated.isSome)
          TypeDecl.deprecated_withoutReasons)
        (read_eq_of_reduce_eq left_eq TypeDecl.deprecatedMembers
          TypeDecl.deprecatedMembers_withoutReasons)
    exact ⟨listed.same TypeDecl.outline fun _ => rfl, fun _ => listed⟩

/-- Where comments are left out, the reasons for deprecations reach a run in the notices on the
pages of types and nowhere else.  Other pages, and the summaries on the pages of types, are the same
whatever the reasons are.  The page of a type is the same if its notices are, and so is the run if
all notices are. -/
theorem Graph.generate_eq_of_notices {snapshot snapshot' : Snapshot} {rootType : String}
    {graph graph' : Graph} (built : build snapshot rootType = .ok graph)
    (built' : build snapshot' rootType = .ok graph') {options : RenderOptions}
    (left_out : options.noComment = true)
    (same : snapshot.redacted .reasons = snapshot'.redacted .reasons) :
    graph.pages options = graph'.pages options ∧
      (∀ page ∈ graph.pages options, (∀ name, page ≠ .type name) →
        graph.renderPage options page = graph'.renderPage options page) ∧
      (∀ name decl decl', .type name ∈ graph.pages options → graph.type? name = some decl →
        graph'.type? name = some decl' →
          (graph.pageContext options (.type name)).summaryBlocks decl =
            (graph'.pageContext options (.type name)).summaryBlocks decl') ∧
      (∀ page ∈ graph.pages options, SameNotices graph graph' options page →
        graph.renderPage options page = graph'.renderPage options page) ∧
      ((∀ page ∈ graph.pages options, SameNotices graph graph' options page) →
        graph.generate options = graph'.generate options) := by
  obtain ⟨-, -, sound⟩ := sound_of_build built
  have mentions : graph.MentionsAlike options graph' :=
    mentionsAlike_of_redacted built built' same (Redaction.unmentioned_reasons left_out)
  refine ⟨mentions.pages_eq, ?_, ?_, ?_, mentions.generate_eq sound⟩
  · intro page page_mem not_type
    refine mentions.renderPage_eq (isKnown_of_mem_pages sound page_mem) ?_
    intro name decl decl' page_eq
    exact absurd page_eq (not_type name)
  · intro name decl decl' page_mem found found'
    have known := isKnown_of_mem_pages sound page_mem
    have mentioned := mentions.rel_type? name
    rw [found, found', Option.rel_some_some] at mentioned
    have decl_known : decl.included = true :=
      (congrArg (Option.any TypeDecl.included) found).symm.trans known
    exact (mentions.pageContext known).summaryBlocks_eq (mentioned.listed decl_known)
  · intro page page_mem same_notices
    exact mentions.renderPage_eq (isKnown_of_mem_pages sound page_mem) same_notices

/-- A deprecated type with a deprecated method. -/
def retiredSnapshot (typeReason methodReason : List DocNode) : Snapshot where
  packages := [{ name := "shop" }]
  types :=
    [{ qualifiedName := "shop.Cart", simpleName := "Cart", kind := .classType
       enclosing := .package "shop"
       members := [{ kind := .method, name := "sum", deprecated := some { doc := methodReason } }]
       deprecated := some { doc := typeReason } }]

theorem Graph.renderPage_eq_retired : ∃ graph graph' : Graph,
    build (retiredSnapshot [.text "Use Basket."] []) defaultRootType = .ok graph ∧
      build (retiredSnapshot [] []) defaultRootType = .ok graph' ∧
      graph.renderPage { noComment := true } (.package "shop") =
        graph'.renderPage { noComment := true } (.package "shop") := by
  refine ⟨_, _, rfl, rfl, ?_⟩
  exact (@generate_eq_of_notices (retiredSnapshot [.text "Use Basket."] []) (retiredSnapshot [] [])
    defaultRootType _ _ rfl rfl { noComment := true } rfl rfl).2.1 _ List.mem_cons_self nofun

/-- Runs that leave comments out may differ in the reason for a deprecation: one that has no normal
form keeps the page of the type from being written. -/
theorem Graph.generate_ne_retired : ∃ graph graph' : Graph,
    build (retiredSnapshot [.endElement "b"] []) defaultRootType = .ok graph ∧
      build (retiredSnapshot [] []) defaultRootType = .ok graph' ∧
      (retiredSnapshot [.endElement "b"] []).redacted .reasons =
        (retiredSnapshot [] []).redacted .reasons ∧
      graph.generate { noComment := true } ≠ graph'.generate { noComment := true } := by
  refine ⟨_, _, rfl, rfl, rfl, ?_⟩
  intro runs_eq
  have errors_eq := congrArg (Option.map fun run : Generated => run.errors.length) runs_eq
  exact absurd errors_eq (by decide +kernel)

end RefDocs
