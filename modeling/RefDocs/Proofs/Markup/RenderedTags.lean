import RefDocs.Proofs.Markup.Balance
import RefDocs.Proofs.Markup.Pieces

/-!
# The tags in rendered markup

The tags that a comment is rendered with are balanced outside the labels of links.  The label of a
link is written as it is, so what it leaves open, or closes, is open or closed around it.
-/

namespace RefDocs
namespace Markup

/-- The labels of the links among nodes are written with balanced tags. -/
def LabelsBalanced (nodes : List DocNode) : Prop :=
  ∀ target member label plain, .link target member label plain ∈ nodes →
    Balanced (writtenTags label)

/-- Where labels are balanced, the tags in them do not change what is open around them. -/
theorem openAfter?_writtenTags {nodes : List DocNode} (labels : LabelsBalanced nodes)
    (opened : List String) : openAfter? opened (writtenTags nodes) = openAfter? opened nodes := by
  induction nodes generalizing opened with
  | nil => rfl
  | cons node rest ih =>
      have rest_labels : LabelsBalanced rest := fun target member label plain link_mem =>
        labels target member label plain (List.mem_cons_of_mem node link_mem)
      have node_eq : openAfter? opened (nodeTags node) = openBehind? opened node := by
        cases node with
        | link target member label plain =>
            exact (labels target member label plain List.mem_cons_self).openAfter?_eq opened
        | startElement name | endElement name =>
            exact (openAfter?_cons ..).trans (Option.bind_fun_some _)
        | _ => rfl
      rw [writtenTags, openAfter?_append, node_eq, openAfter?_cons]
      exact congrArg _ (funext fun behind => ih rest_labels behind)

/-- With one link whose label may be anything, the tags of markup in normal form are balanced
exactly if those in the label leave the elements open that are open around the link. -/
theorem IsNormal.balanced_writtenTags_iff {normal front back : List DocNode} {target : String}
    {member : Option String} {label : List DocNode} {plain : Bool} (is_normal : IsNormal normal)
    (normal_eq : normal = front ++ .link target member label plain :: back)
    (front_labels : LabelsBalanced front) (back_labels : LabelsBalanced back) :
    ∃ opened, openAfter? [] front = some opened ∧
      (Balanced (writtenTags normal) ↔
        openAfter? opened (writtenTags label) = some opened) := by
  have closed := is_normal.closed
  rw [normal_eq, openAfter?_append] at closed
  obtain ⟨opened, front_eq, back_eq⟩ := Option.bind_eq_some_iff.mp closed
  rw [openAfter?_cons] at back_eq
  change openAfter? opened back = some [] at back_eq
  refine ⟨opened, front_eq, ?_⟩
  rw [balanced_iff, normal_eq, writtenTags_append, writtenTags, nodeTags, openAfter?_append,
    openAfter?_writtenTags front_labels, front_eq, Option.bind_some, openAfter?_append]
  simp only [openAfter?_writtenTags back_labels]
  constructor
  · intro run
    obtain ⟨behind, label_eq, run⟩ := Option.bind_eq_some_iff.mp run
    rw [label_eq, openAfter?_inj run back_eq]
  · intro label_eq
    rw [label_eq, Option.bind_some, back_eq]

theorem LabelsBalanced.of_normalize {nodes normal : List DocNode} (labels : LabelsBalanced nodes)
    (normalized : normalize nodes = .ok normal) : LabelsBalanced normal := by
  intro target member label plain link_mem
  refine labels target member label plain ?_
  -- Normalizing adds end tags only, so the link stands in the comment already.
  have mem_of_adds {nodes extended : List DocNode} (adds : AddsEndTags nodes extended) :
      .link target member label plain ∈ extended → .link target member label plain ∈ nodes := by
    induction adds with
    | nil => exact id
    | keep node _ ih => simpa using Or.imp_right ih
    | add name _ ih => simpa using ih
  have tidied_mem := mem_of_adds (isNormal_of_normalize normalized).2 link_mem
  obtain ⟨node, node_mem, node_eq⟩ := List.mem_map.mp tidied_mem
  cases node with
  | link => exact node_eq ▸ List.mem_of_mem_filter node_mem
  | _ => cases node_eq

/-- Rendered markup is the text of pieces, among which the tags outside the labels of links are
balanced.  All of its tags are balanced if those of each label are; with one label that may be
anything, they are exactly if that label leaves the elements open that are open around it. -/
theorem render_eq_pieces_and_balanced (source : LinkSource) (nodes : List DocNode) :
    render source nodes = (renderPieces source nodes).map pieceText ∧
      ∀ pieces, renderPieces source nodes = .ok pieces →
        ∃ normal, normalize nodes = .ok normal ∧ Balanced normal ∧
          pieceTags pieces = writtenTags normal ∧
          (LabelsBalanced nodes → Balanced (pieceTags pieces)) ∧
          ∀ front target member label plain back,
            normal = front ++ .link target member label plain :: back →
            LabelsBalanced front → LabelsBalanced back →
              ∃ opened, openAfter? [] front = some opened ∧
                (Balanced (pieceTags pieces) ↔
                  openAfter? opened (writtenTags label) = some opened) := by
  refine ⟨render_eq_map_renderPieces source nodes, fun pieces rendered => ?_⟩
  obtain ⟨normal, normalized, tags_eq⟩ := pieceTags_of_renderPieces rendered
  have is_normal := (isNormal_of_normalize normalized).1
  refine ⟨normal, normalized, is_normal.balanced, tags_eq, ?_, ?_⟩
  · intro labels
    rw [tags_eq, balanced_iff, openAfter?_writtenTags (labels.of_normalize normalized)]
    exact is_normal.closed
  · intro front target member label plain back normal_eq front_labels back_labels
    rw [tags_eq]
    exact is_normal.balanced_writtenTags_iff normal_eq front_labels back_labels

/-- A page without any declarations around it. -/
def loneSource : LinkSource :=
  ⟨⟨⟨defaultRootType, [], [], []⟩, "md"⟩, .constants⟩

/-- A link in a paragraph that is left open in front of a block. -/
def linkedParagraph : List DocNode :=
  [.startElement "P",
    .link "shop.Cart" none [.startElement "i", .text "cart", .endElement "i"] false,
    .startElement "ul"]

theorem balanced_linkedParagraph : ∃ pieces,
    renderPieces loneSource linkedParagraph = .ok pieces ∧
      render loneSource linkedParagraph = .ok "<p><i>cart</i></p><ul></ul>" ∧
      LabelsBalanced linkedParagraph ∧ Balanced (pieceTags pieces) ∧
      ∃ opened, openAfter? [] [.startElement "p"] = some opened ∧
        (Balanced (pieceTags pieces) ↔
          openAfter? opened (writtenTags [.startElement "i", .text "cart", .endElement "i"]) =
            some opened) := by
  have labels : LabelsBalanced linkedParagraph := by
    intro target member label plain link_mem
    simp only [linkedParagraph, List.mem_cons, List.not_mem_nil, reduceCtorEq, or_false, false_or,
      DocNode.link.injEq] at link_mem
    rw [link_mem.2.2.1]
    decide
  obtain ⟨-, of_pieces⟩ := render_eq_pieces_and_balanced loneSource linkedParagraph
  obtain ⟨normal, normalized, -, -, balanced, exactly⟩ := of_pieces _ rfl
  obtain rfl := Except.ok.inj normalized
  refine ⟨_, rfl, by rfl, labels, balanced labels, ?_⟩
  exact exactly [.startElement "p"] _ _ _ _ [.endElement "p", .startElement "ul", .endElement "ul"]
    rfl (by simp [LabelsBalanced]) (by simp [LabelsBalanced])

/-- An element that is left open in a label stays open in the markup around the link. -/
theorem not_balanced_openLabel : ∃ pieces,
    renderPieces loneSource [.link "shop.Cart" none [.startElement "b", .text "cart"] false] =
        .ok pieces ∧
      render loneSource [.link "shop.Cart" none [.startElement "b", .text "cart"] false] =
        .ok "<b>cart" ∧
      ¬ Balanced (pieceTags pieces) :=
  ⟨_, rfl, by rfl, by decide⟩

end Markup
end RefDocs
