import RefDocs.Proofs.Member.Anchor
import RefDocs.Proofs.Page.Members
import RefDocs.Proofs.Text.CharacterReferences

/-!
# Clashes of sections

Two members of a type have one anchor only where they share what anchors show.  The sections on the
page of the type can be told apart by what is written of their anchors, unless there are two such
members.
-/

namespace RefDocs

/-- Two members of a type have one anchor exactly if they have one name and neither is called, or
both are with the same parameter types.  So what is written of the anchors of the sections on a page
that is composed is distinct exactly if no two members of the type are such. -/
theorem Graph.anchor_eq_iff_and_sections_nodup_iff {decl : TypeDecl}
    (named : ∀ member ∈ decl.members, member.PlainlyNamed ['(', ')', ','] ['(', ')', ',']) :
    (∀ left ∈ decl.members, ∀ right ∈ decl.members,
        (left.anchor = right.anchor ↔ left.SharesAnchor right)) ∧
      (∀ (left right : Parameter) (component : TypeRef) (annotations : List AnnotationUse),
        left.varargs = true → right.varargs = false → right.type = .array component annotations →
          left.anchorType ≠ right.anchorType) ∧
      ∀ (snapshot : Snapshot) (rootType : String) (graph : Graph) (options : RenderOptions)
        (page : Content), Graph.build snapshot rootType = .ok graph → decl ∈ graph.types →
          graph.content? options (.type decl.qualifiedName) = .ok (some page) →
          ((page.anchors.map Text.escape).Nodup ↔
            decl.members.Pairwise fun left right => ¬left.SharesAnchor right) := by
  have anchors_iff : ∀ left ∈ decl.members, ∀ right ∈ decl.members,
      (left.anchor = right.anchor ↔ left.SharesAnchor right) :=
    fun left left_mem right right_mem =>
      Member.anchor_eq_iff_sharesAnchor (named left left_mem) (named right right_mem)
  refine ⟨anchors_iff, ?_, ?_⟩
  · intro left right component annotations varargs not_varargs array
    exact Parameter.anchorType_ne_of_array varargs not_varargs array
  · intro snapshot rootType graph options page built decl_mem composed
    have is_page := isTypePageOf_content? built options decl_mem composed
    rw [List.nodup_map_iff Text.escape_injective, is_page.anchors_perm.nodup_iff, List.Nodup,
      List.pairwise_map]
    refine List.Pairwise.iff_of_mem ?_
    intro left right left_mem right_mem
    exact not_congr (anchors_iff left left_mem right right_mem)

/-- A class with a field and two methods of one name. -/
def overloadSnapshot : Snapshot where
  packages := [{ name := "shop" }]
  types :=
    [{ qualifiedName := "shop.Cart", simpleName := "Cart", kind := .classType
       enclosing := .package "shop"
       members :=
         [{ kind := .field, name := "sum", type := some (.primitive "int" []) },
          { kind := .method, name := "sum"
            parameters := [{ name := "values", type := .array (.primitive "int" []) [] }] },
          { kind := .method, name := "sum"
            parameters :=
              [{ name := "values", type := .array (.primitive "int" []) [], varargs := true }] }] }]

theorem Graph.sections_nodup_overloads : ∃ (graph : Graph) (page : Content),
    Graph.build overloadSnapshot defaultRootType = .ok graph ∧
      graph.content? {} (.type "shop.Cart") = .ok (some page) ∧
      (page.anchors.map Text.escape).Nodup := by
  refine ⟨_, _, rfl, rfl, ?_⟩
  have named : ∀ decl ∈ overloadSnapshot.types, ∀ member ∈ decl.members,
      member.PlainlyNamed ['(', ')', ','] ['(', ')', ','] := by
    decide
  exact ((anchor_eq_iff_and_sections_nodup_iff (named _ List.mem_cons_self)).2.2 overloadSnapshot
    defaultRootType _ {} _ rfl List.mem_cons_self rfl).mpr (by decide)

end RefDocs
