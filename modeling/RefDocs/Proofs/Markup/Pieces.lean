import RefDocs.Markup.Render
import RefDocs.Proofs.Outcome

/-!
# Pieces of rendered markup

Rendered markup is a text in which tags stand between characters.  Rendering is followed here in
pieces that keep the tags apart, so that the tags of a comment can be read off in the order in which
they are written: those of its nodes, and at the place of a link those of the nodes in its label.
-/

namespace RefDocs
namespace Markup

/-- A piece of rendered markup. -/
inductive Piece where
  /-- A character of text. -/
  | plain (char : Char)
  /-- The start tag of an element. -/
  | startTag (name : String)
  /-- The end tag of an element. -/
  | endTag (name : String)
  deriving DecidableEq

namespace Piece

/-- The characters of a piece. -/
def chars : Piece → List Char
  | .plain char => [char]
  | .startTag name => '<' :: (name.toList ++ ['>'])
  | .endTag name => '<' :: '/' :: (name.toList ++ ['>'])

/-- The tag in a piece, if it is one. -/
def tag? : Piece → Option DocNode
  | .plain _ => none
  | .startTag name => some (.startElement name)
  | .endTag name => some (.endElement name)

/-- A piece that is a blank. -/
def isBlank : Piece → Bool
  | .plain char => RefDocs.isBlank char
  | .startTag _ | .endTag _ => false

theorem isBlank_of_tag? {piece : Piece} {tag : DocNode} (tag_eq : piece.tag? = some tag) :
    piece.isBlank = false := by
  cases piece with
  | plain char => cases tag_eq
  | startTag name | endTag name => rfl

end Piece

/-- The text of pieces in order. -/
def pieceText (pieces : List Piece) : String :=
  String.ofList (pieces.flatMap Piece.chars)

/-- The tags among pieces, in order. -/
def pieceTags (pieces : List Piece) : List DocNode :=
  pieces.filterMap Piece.tag?

/-- The pieces of a text without tags. -/
def plainPieces (text : String) : List Piece :=
  text.toList.map .plain

/-- Pieces without the blanks at either end. -/
def trimPieces (pieces : List Piece) : List Piece :=
  Text.dropEndWhile Piece.isBlank (pieces.dropWhile Piece.isBlank)

/-- The path that a link leads to, if it is written as a link. -/
def linkPath? (source : LinkSource) (target : String) (member : Option String) : Option String :=
  match linkOwner? source target, member with
  | some owner, some reference =>
    let file? := if source.page = .type owner.qualifiedName then some ""
      else source.site.relativeLink? source.page (.type owner.qualifiedName)
    file?.map fun file => file ++ "#" ++ Reference.anchor owner reference
  | some _, none => (source.graph.type? target).bind fun _ => source.pathTo? (.type target)
  | none, _ => (source.graph.package? target).bind fun _ => source.pathTo? (.package target)

/-- The pieces of a link around those of its text. -/
def linkPieces (path? : Option String) (text : List Piece) : List Piece :=
  match path? with
  | some path => plainPieces "[" ++ text ++ plainPieces ("](" ++ path ++ ")")
  | none => text

mutual

/-- The pieces of a node. -/
def nodePieces (source : LinkSource) : DocNode → List Piece
  | .startElement name => [.startTag name]
  | .endElement name => [.endTag name]
  | .link target member label plain =>
    linkPieces (linkPath? source target member) <|
      if label.isEmpty then
        plainPieces (if plain then defaultLabel target member
          else codeSpan (defaultLabel target member))
      else trimPieces (allPieces source label)
  | node => plainPieces (writeNode source node)
termination_by structural node => node

/-- The pieces of nodes in order. -/
def allPieces (source : LinkSource) : List DocNode → List Piece
  | [] => []
  | node :: rest => nodePieces source node ++ allPieces source rest
termination_by structural nodes => nodes

end

mutual

/-- The tags that a node is written with: its own, or those in the label of a link. -/
def nodeTags : DocNode → List DocNode
  | .startElement name => [.startElement name]
  | .endElement name => [.endElement name]
  | .link _ _ label _ => writtenTags label
  | _ => []
termination_by structural node => node

/-- The tags that nodes are written with, in order. -/
def writtenTags : List DocNode → List DocNode
  | [] => []
  | node :: rest => nodeTags node ++ writtenTags rest
termination_by structural nodes => nodes

end

/-- The pieces of a comment in normal form, without blanks at its ends. -/
def renderPieces (source : LinkSource) (nodes : List DocNode) : Except MarkupError (List Piece) :=
  do return trimPieces (allPieces source (← normalize nodes))

/-! ## The text of pieces -/

theorem pieceText_append (front rest : List Piece) :
    pieceText (front ++ rest) = pieceText front ++ pieceText rest := by
  simp [pieceText]

theorem pieceText_plainPieces (text : String) : pieceText (plainPieces text) = text := by
  simp [pieceText, plainPieces, List.flatMap_map, Piece.chars]

/-- Blanks are dropped from what is written for pieces as they are from the pieces, if each
character is written as itself and what is written for a tag starts with no blank. -/
theorem dropWhile_isBlank_flatMap {write : Piece → List Char}
    (write_plain : ∀ char, write (.plain char) = [char])
    (write_tag : ∀ piece tag, piece.tag? = some tag →
      ∃ first rest, write piece = first :: rest ∧ isBlank first = false)
    (pieces : List Piece) :
    (pieces.flatMap write).dropWhile isBlank =
      (pieces.dropWhile Piece.isBlank).flatMap write := by
  induction pieces with
  | nil => rfl
  | cons piece rest ih =>
      rw [List.flatMap_cons]
      cases tag_eq : piece.tag? with
      | some tag =>
          have not_blank := Piece.isBlank_of_tag? tag_eq
          obtain ⟨first, others, write_eq, first_stays⟩ := write_tag piece tag tag_eq
          rw [List.dropWhile_cons_of_neg (by simp [not_blank]), List.flatMap_cons, write_eq,
            List.cons_append, List.dropWhile_cons_of_neg (by simp [first_stays])]
      | none =>
          cases piece with
          | plain char =>
              rw [write_plain, List.singleton_append, List.dropWhile_cons, List.dropWhile_cons, ih,
                Piece.isBlank]
              split
              · rfl
              · rw [List.flatMap_cons, write_plain, List.singleton_append]
          | _ => cases tag_eq

theorem pieceText_trimPieces (pieces : List Piece) :
    pieceText (trimPieces pieces) = Text.trim (pieceText pieces) := by
  have from_start (pieces : List Piece) : (pieces.flatMap Piece.chars).dropWhile isBlank =
      (pieces.dropWhile Piece.isBlank).flatMap Piece.chars := by
    refine dropWhile_isBlank_flatMap (fun _ => rfl) ?_ pieces
    rintro (char | name | name) tag ⟨⟩
    · exact ⟨'<', _, rfl, by decide⟩
    · exact ⟨'<', _, rfl, by decide⟩
  have from_end (pieces : List Piece) :
      (pieces.flatMap fun piece => piece.chars.reverse).dropWhile isBlank =
        (pieces.dropWhile Piece.isBlank).flatMap fun piece => piece.chars.reverse := by
    refine dropWhile_isBlank_flatMap (fun _ => rfl) ?_ pieces
    rintro (char | name | name) tag ⟨⟩
    · exact ⟨'>', '<' :: name.toList |>.reverse, by simp [Piece.chars], by decide⟩
    · exact ⟨'>', '<' :: '/' :: name.toList |>.reverse, by simp [Piece.chars], by decide⟩
  rw [pieceText, trimPieces, Text.trim, Text.trimStart, Text.trimEnd, pieceText,
    String.toList_ofList, String.toList_ofList, from_start, Text.dropEndWhile, Text.dropEndWhile,
    List.reverse_flatMap, Function.comp_def, from_end, List.flatMap_reverse, Function.comp_def]

theorem linkTo_eq_wrap (source : LinkSource) (target : String) (member : Option String)
    (text : String) :
    linkTo source target member text =
      LinkSource.wrap text (linkPath? source target member) := by
  unfold linkTo linkPath?
  cases linkOwner? source target with
  | some owner =>
      cases member with
      | some reference => rfl
      | none =>
          dsimp only [LinkSource.named]
          cases source.graph.type? target with
          | some decl => rfl
          | none => rfl
  | none =>
      dsimp only
      cases source.graph.package? target with
      | none => rfl
      | some decl =>
          dsimp only [Option.bind_some, packageLink]
          cases source.pathTo? (.package target) with
          | some path => rfl
          | none => rfl

theorem pieceText_linkPieces (path? : Option String) (text : List Piece) :
    pieceText (linkPieces path? text) = LinkSource.wrap (pieceText text) path? := by
  cases path? with
  | none => rfl
  | some path =>
      rw [linkPieces, pieceText_append, pieceText_append, pieceText_plainPieces,
        pieceText_plainPieces, LinkSource.wrap]
      simp [String.append_assoc]

mutual

theorem pieceText_nodePieces (source : LinkSource) : (node : DocNode) →
    pieceText (nodePieces source node) = writeNode source node
  | .startElement name | .endElement name => by
    rw [nodePieces, writeNode, ← String.toList_inj]
    simp [pieceText, Piece.chars]
  | .link target member label plain => by
    rw [nodePieces, pieceText_linkPieces, writeNode, linkTo_eq_wrap]
    split
    · rw [pieceText_plainPieces]
    · rw [pieceText_trimPieces, pieceText_allPieces source label]
  | .text _ | .entity _ | .comment _ | .code _ | .literal _ | .blockTag _ _ _ =>
    pieceText_plainPieces _
termination_by structural node => node

theorem pieceText_allPieces (source : LinkSource) : (nodes : List DocNode) →
    pieceText (allPieces source nodes) = writeNodes source nodes
  | [] => rfl
  | node :: rest => by
    rw [allPieces, pieceText_append, pieceText_nodePieces source node,
      pieceText_allPieces source rest, writeNodes]
termination_by structural nodes => nodes

end

/-- Rendering gives the text of the pieces. -/
theorem render_eq_map_renderPieces (source : LinkSource) (nodes : List DocNode) :
    render source nodes = (renderPieces source nodes).map pieceText := by
  rw [render, renderPieces]
  cases normalize nodes with
  | error fault => rfl
  | ok normal =>
      refine congrArg Except.ok ?_
      rw [pieceText_trimPieces, pieceText_allPieces]

/-! ## The tags among pieces -/

theorem pieceTags_append (front rest : List Piece) :
    pieceTags (front ++ rest) = pieceTags front ++ pieceTags rest :=
  List.filterMap_append

theorem pieceTags_plainPieces (text : String) : pieceTags (plainPieces text) = [] := by
  simp [pieceTags, plainPieces, Piece.tag?]

theorem pieceTags_dropWhile_isBlank (pieces : List Piece) :
    pieceTags (pieces.dropWhile Piece.isBlank) = pieceTags pieces := by
  induction pieces with
  | nil => rfl
  | cons piece rest ih =>
      rw [List.dropWhile_cons]
      split
      · cases piece with
        | plain char => exact ih
        | _ => contradiction
      · rfl

theorem pieceTags_trimPieces (pieces : List Piece) :
    pieceTags (trimPieces pieces) = pieceTags pieces := by
  have reversed (pieces : List Piece) : pieceTags pieces.reverse = (pieceTags pieces).reverse :=
    List.filterMap_reverse
  rw [trimPieces, Text.dropEndWhile, reversed, pieceTags_dropWhile_isBlank, reversed,
    List.reverse_reverse, pieceTags_dropWhile_isBlank]

theorem pieceTags_linkPieces (path? : Option String) (text : List Piece) :
    pieceTags (linkPieces path? text) = pieceTags text := by
  cases path? with
  | none => rfl
  | some path =>
      rw [linkPieces, pieceTags_append, pieceTags_append, pieceTags_plainPieces,
        pieceTags_plainPieces, List.nil_append, List.append_nil]

mutual

theorem pieceTags_nodePieces (source : LinkSource) : (node : DocNode) →
    pieceTags (nodePieces source node) = nodeTags node
  | .startElement _ | .endElement _ => rfl
  | .link target member [] plain => by
    rw [nodePieces, pieceTags_linkPieces]
    exact pieceTags_plainPieces _
  | .link target member (first :: others) plain => by
    rw [nodePieces, pieceTags_linkPieces, List.isEmpty_cons, if_neg (by decide),
      pieceTags_trimPieces, pieceTags_allPieces source (first :: others), nodeTags]
  | .text _ | .entity _ | .comment _ | .code _ | .literal _ | .blockTag _ _ _ =>
    pieceTags_plainPieces _
termination_by structural node => node

theorem pieceTags_allPieces (source : LinkSource) : (nodes : List DocNode) →
    pieceTags (allPieces source nodes) = writtenTags nodes
  | [] => rfl
  | node :: rest => by
    rw [allPieces, pieceTags_append, pieceTags_nodePieces source node,
      pieceTags_allPieces source rest, writtenTags]
termination_by structural nodes => nodes

end

theorem writtenTags_append (front rest : List DocNode) :
    writtenTags (front ++ rest) = writtenTags front ++ writtenTags rest := by
  induction front with
  | nil => rfl
  | cons node front ih => rw [List.cons_append, writtenTags, writtenTags, ih, List.append_assoc]

theorem pieceTags_of_renderPieces {source : LinkSource} {nodes : List DocNode}
    {pieces : List Piece} (rendered : renderPieces source nodes = .ok pieces) :
    ∃ normal, normalize nodes = .ok normal ∧ pieceTags pieces = writtenTags normal := by
  obtain ⟨normal, normal_eq, pieces_eq⟩ := bind_eq_ok_iff.mp rendered
  obtain rfl := Except.ok.inj pieces_eq
  exact ⟨normal, normal_eq, by rw [pieceTags_trimPieces, pieceTags_allPieces]⟩

end Markup
end RefDocs
