import RefDocs.Compose.Package
import RefDocs.Compose.TypePage
import RefDocs.Proofs.Markup.Sentences

/-!
# Summaries of described declarations

A declaration is described on its own page and summed up in a row on others.  The row can be
composed wherever the description can.
-/

namespace RefDocs
namespace PageContext

/-- The text of a comment can be composed exactly if the comment has a normal form. -/
theorem exists_markup_eq_ok_iff (context : PageContext) (nodes : List DocNode) :
    (∃ text, context.markup nodes = .ok text) ↔
      ∃ normal, Markup.normalize nodes = .ok normal := by
  rw [markup, Markup.render]
  cases Markup.normalize nodes with
  | error fault => exact ⟨nofun, nofun⟩
  | ok normal => exact ⟨fun _ => ⟨normal, rfl⟩, fun _ => ⟨_, rfl⟩⟩

section Rows

variable {own other : PageContext} (same_comments : own.options.noComment = other.options.noComment)

include same_comments

theorem exists_summary_of_description {doc : List DocNode}
    (described : ∃ text, own.description doc = .ok text) :
    ∃ sentence, other.summary doc = .ok sentence := by
  rw [summary]
  split
  · exact ⟨_, rfl⟩
  · rename_i commented
    rw [description, same_comments, if_neg commented, exists_markup_eq_ok_iff] at described
    exact (other.exists_markup_eq_ok_iff _).mpr (Markup.exists_normalize_firstSentence described)

/-- The reason for a deprecation is given in full in its notice, so its first sentence can be
composed where the notice can. -/
theorem exists_summary_of_deprecation {mark : Deprecation}
    (noticed : ∃ notice, own.deprecation (some mark) = .ok notice) :
    ∃ sentence, other.summary mark.doc = .ok sentence := by
  obtain ⟨notice, notice_eq⟩ := noticed
  obtain ⟨reason, reason_eq, -⟩ := bind_eq_ok_iff.mp notice_eq
  obtain ⟨normal, normal_eq⟩ := (own.exists_markup_eq_ok_iff mark.doc).mp ⟨reason, reason_eq⟩
  refine exists_summary_of_description same_comments ?_
  rw [description]
  split
  · exact ⟨_, rfl⟩
  · exact (own.exists_markup_eq_ok_iff _).mpr
      (Markup.hasNormalForm_body_iff.mpr ⟨normal, normal_eq⟩)

theorem exists_summaryText {member : Member}
    (described : ∃ text, own.description member.doc = .ok text)
    (noticed : ∃ notice, own.deprecation member.deprecated = .ok notice) :
    ∃ text, other.summaryText member = .ok text := by
  rw [summaryText]
  cases deprecated : member.deprecated with
  | none => exact exists_summary_of_description same_comments described
  | some mark =>
      rw [deprecated] at noticed
      obtain ⟨sentence, sentence_eq⟩ := exists_summary_of_deprecation same_comments noticed
      exact ⟨_, bind_eq_ok_iff.mpr ⟨sentence, sentence_eq, rfl⟩⟩

theorem exists_summaryRow {member : Member}
    (described : ∃ text, own.description member.doc = .ok text)
    (noticed : ∃ notice, own.deprecation member.deprecated = .ok notice) (owner : TypeDecl) :
    ∃ row, other.summaryRow owner member = .ok row := by
  have each : ∀ column ∈ member.kind.layout.columns,
      ∃ cell, other.summaryCell owner member column = .ok cell ∧ True := by
    intro column _
    cases column with
    | description =>
        obtain ⟨text, text_eq⟩ := exists_summaryText same_comments described noticed
        exact ⟨text, text_eq, trivial⟩
    | _ => exact ⟨_, rfl, trivial⟩
  obtain ⟨cells, cells_eq, -⟩ := exists_mapM_eq_ok each
  exact ⟨_, bind_eq_ok_iff.mpr ⟨cells, cells_eq, rfl⟩⟩

end Rows

/-- The first sentence of a comment has a normal form if the comment without its block tags has
one.  So the row for a package, a type or a member can be composed on any page of a run whose pages
describe it; the row for a deprecated member needs the reason to be shown in its notice. -/
theorem exists_sentence_and_rows :
    (∀ nodes, (∃ described, Markup.normalize (Markup.body nodes) = .ok described) →
        ∃ sentence, Markup.normalize (Markup.firstSentence nodes) = .ok sentence) ∧
      ∀ own other : PageContext, own.options.noComment = other.options.noComment →
        (∀ doc, (∃ text, own.description doc = .ok text) →
            ∃ sentence, other.summary doc = .ok sentence) ∧
          (∀ decl : PackageDecl, (∃ text, own.description decl.doc = .ok text) →
            ∃ row, other.relatedRow decl = .ok row) ∧
          (∀ decl : TypeDecl, (∃ text, own.description decl.doc = .ok text) →
            (∀ package, ∃ row, other.contentsRow package decl = .ok row) ∧
              ∀ outer, ∃ row, other.nestedRow outer decl = .ok row) ∧
          ∀ member : Member, (∃ text, own.description member.doc = .ok text) →
            (∃ notice, own.deprecation member.deprecated = .ok notice) →
              ∀ owner, ∃ row, other.summaryRow owner member = .ok row := by
  refine ⟨fun nodes => Markup.exists_normalize_firstSentence, ?_⟩
  intro own other same_comments
  refine ⟨fun doc => exists_summary_of_description same_comments, ?_, ?_, ?_⟩
  · intro decl described
    obtain ⟨sentence, sentence_eq⟩ := exists_summary_of_description same_comments described
    exact ⟨_, bind_eq_ok_iff.mpr ⟨sentence, sentence_eq, rfl⟩⟩
  · intro decl described
    obtain ⟨sentence, sentence_eq⟩ := exists_summary_of_description same_comments described
    exact ⟨fun package => ⟨_, bind_eq_ok_iff.mpr ⟨sentence, sentence_eq, rfl⟩⟩,
      fun outer => ⟨_, bind_eq_ok_iff.mpr ⟨sentence, sentence_eq, rfl⟩⟩⟩
  · intro member described noticed owner
    exact exists_summaryRow same_comments described noticed owner

/-- A comment whose paragraphs are left open in front of a block and an end tag. -/
def looseComment : List DocNode :=
  [.startElement "p", .text "Holds ", .startElement "B", .startElement "P", .text "items. All",
    .endElement "b", .startElement "ul", .blockTag "see" none [.endElement "i"]]

/-- A deprecated method under a loose comment. -/
def looseMember : Member :=
  { kind := .method, name := "sum", doc := looseComment
    deprecated := some { doc := looseComment } }

/-- A class under a loose comment. -/
def looseType : TypeDecl :=
  { qualifiedName := "shop.Cart", simpleName := "Cart", kind := .classType
    enclosing := .package "shop", members := [looseMember], doc := looseComment }

/-- A page of the class under a loose comment. -/
def looseContext (page : Page) : PageContext where
  options := {}
  source := ⟨⟨⟨defaultRootType, [{ name := "shop" }], [looseType], []⟩, "md"⟩, page⟩

theorem exists_rows_loose : ∃ text notice row memberRow,
    (looseContext (.type "shop.Cart")).description looseComment = .ok text ∧
      (looseContext (.type "shop.Cart")).deprecation looseMember.deprecated = .ok notice ∧
      (looseContext (.package "shop")).contentsRow "shop" looseType = .ok row ∧
      (looseContext (.package "shop")).summaryRow looseType looseMember = .ok memberRow ∧
      ∃ sentence, Markup.normalize (Markup.firstSentence looseComment) = .ok sentence := by
  have described : ∃ text,
      (looseContext (.type "shop.Cart")).description looseComment = .ok text := ⟨_, rfl⟩
  have noticed : ∃ notice,
      (looseContext (.type "shop.Cart")).deprecation looseMember.deprecated = .ok notice :=
    ⟨_, rfl⟩
  obtain ⟨sentences, rows⟩ := exists_sentence_and_rows
  obtain ⟨-, -, of_type, of_member⟩ :=
    rows (looseContext (.type "shop.Cart")) (looseContext (.package "shop")) rfl
  obtain ⟨text, text_eq⟩ := described
  obtain ⟨notice, notice_eq⟩ := noticed
  obtain ⟨row, row_eq⟩ := (of_type looseType ⟨text, text_eq⟩).1 "shop"
  obtain ⟨memberRow, memberRow_eq⟩ :=
    of_member looseMember ⟨text, text_eq⟩ ⟨notice, notice_eq⟩ looseType
  exact ⟨text, notice, row, memberRow, text_eq, notice_eq, row_eq, memberRow_eq,
    sentences looseComment ⟨_, rfl⟩⟩

end PageContext
end RefDocs
