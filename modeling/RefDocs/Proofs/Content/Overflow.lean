import RefDocs.Proofs.Content.Nesting

/-!
# Containers that overflow

A container has a fence unless it is too deep, which it is exactly if its body has a marker that
leaves no room for a longer fence.  A node is written unless a container in it is too deep, wherever
the cursor stands.
-/

namespace RefDocs
namespace Depth

/-- The greatest depth with a fence. -/
def maxFenced : Nat := Nat.pow 2 62 - 1

theorem around?_eq_some_iff {body : String} {depth : Nat} :
    around? body = some depth ↔ around body = depth ∧ depth ≤ maxMarked := by
  rw [around?, Option.ite_none_right_eq_some, Option.some_inj]
  constructor
  · rintro ⟨small, rfl⟩
    exact ⟨rfl, small⟩
  · rintro ⟨rfl, small⟩
    exact ⟨small, rfl⟩

theorem fence?_eq_some_iff {depth : Nat} {text : String} :
    fence? depth = some text ↔ fence depth = text ∧ depth ≤ maxFenced := by
  have room_iff : 2 * depth ≤ maxBytes ↔ depth ≤ maxFenced := by
    have bytes_eq : maxBytes = 2 * maxFenced + 1 := by decide
    omega
  rw [fence?, Option.ite_none_right_eq_some, room_iff, Option.some_inj, and_comm]

end Depth

namespace FencedBlock

theorem fence?_eq_some_iff {block : FencedBlock} {text : String} :
    block.fence? = some text ↔ block.fence = text ∧ block.depth ≤ Depth.maxFenced := by
  have fenced_le : Depth.maxFenced ≤ Depth.maxMarked := by decide
  constructor
  · intro fence_eq
    obtain ⟨depth, around_eq, fence_eq⟩ := Option.bind_eq_some_iff.mp fence_eq
    obtain ⟨rfl, -⟩ := Depth.around?_eq_some_iff.mp around_eq
    exact Depth.fence?_eq_some_iff.mp fence_eq
  · rintro ⟨fence_eq, small⟩
    have around_eq := Depth.around?_eq_some_iff.mpr ⟨rfl, small.trans fenced_le⟩
    exact Option.bind_eq_some_iff.mpr
      ⟨block.depth, around_eq, Depth.fence?_eq_some_iff.mpr ⟨fence_eq, small⟩⟩

theorem isSome_fence?_iff {block : FencedBlock} :
    block.fence?.isSome = true ↔ block.depth ≤ Depth.maxFenced := by
  rw [Option.isSome_iff_exists]
  constructor
  · rintro ⟨text, fence_eq⟩
    exact (fence?_eq_some_iff.mp fence_eq).2
  · intro small
    exact ⟨block.fence, fence?_eq_some_iff.mpr ⟨rfl, small⟩⟩

end FencedBlock

namespace Content

variable {newline : String} {content : Content}

theorem fits_iff : content.fits newline = true ↔
    ∀ block ∈ content.containers newline, block.depth ≤ Depth.maxFenced := by
  simp only [fits, List.all_reverse, List.all_eq_true, FencedBlock.isSome_fence?_iff]

theorem fits_of_isEmpty (content_empty : content.isEmpty = true) (newline : String) :
    content.fits newline = true := by
  rw [fits_iff, containers_eq_nil content_empty]
  exact nofun

/-! ## The parts of a node that fits -/

theorem fits_sequence_iff {children : List Content} :
    (Content.sequence children).fits newline = true ↔
      ∀ child ∈ children, child.fits newline = true := by
  simp only [fits_iff, containers, containersIn_eq_flatMap, List.forall_mem_flatMap]

theorem fits_container_iff {kind : ContainerKind} {header : Option Content} {body : Content}
    (body_written : body.isEmpty = false) :
    (Content.container kind header body).fits newline = true ↔
      Depth.around (body.write newline true).text ≤ Depth.maxFenced ∧
        (∀ content ∈ header, content.fits newline = true) ∧ body.fits newline = true := by
  have header_iff : (∀ block ∈ containersInHeader newline header,
        block.depth ≤ Depth.maxFenced) ↔ ∀ content ∈ header, content.fits newline = true := by
    cases header with
    | none => simp [containersInHeader]
    | some content => simp [containersInHeader, fits_iff]
  rw [fits_iff, containers, dif_neg (by simp [body_written]), List.forall_mem_cons,
    List.forall_mem_append, header_iff, ← fits_iff]
  rfl

theorem fits_table_iff {style : TableStyle} {caption : Option String} {headers : List String}
    {rows : List (List Content)} :
    (Content.table ⟨style, caption, some ⟨headers, rows⟩⟩).fits newline = true ↔
      ∀ row ∈ rows, ∀ cell ∈ row, cell.fits "\n" = true := by
  simp only [fits_iff, containers_table, List.forall_mem_flatMap]

theorem fits_tabs_iff {key : Option String} {named : List (String × List Content)} :
    (Content.tabs ⟨key, named⟩).fits newline = true ↔
      ∀ tab ∈ named, ∀ child ∈ tab.2, child.fits newline = true := by
  simp only [fits_iff, containers, containersInTabs_eq_flatMap, List.forall_mem_flatMap]

theorem fits_tabbed_iff {style : TableStyle} {label : String} {key : Option String} {forced : Bool}
    {selections : List (String × List Bool)} {headers : List String}
    {rows : List (List Content)} :
    (Content.tabbed ⟨style, label, key, forced, selections, some ⟨headers, rows⟩⟩).fits newline =
        true ↔
      ∀ row ∈ TabbedTable.shownRows ⟨style, label, key, forced, selections, none⟩ rows,
        ∀ cell ∈ row, cell.fits "\n" = true := by
  simp only [fits_iff, containers_tabbed, List.forall_mem_flatMap]

/-! ## What is written unless a container overflows -/

theorem write?_eq_some_iff {atLineStart : Bool} {written : Written} :
    content.write? newline atLineStart = some written ↔
      content.fits newline = true ∧ content.write newline atLineStart = written := by
  rw [write?, Option.ite_none_right_eq_some, Option.some_inj]

/-- A container is written around what is written for its body, with a depth and a fence that are
computed from that. -/
theorem write?_container (kind : ContainerKind) (header : Option Content) {body : Content}
    (body_written : body.isEmpty = false) (atLineStart : Bool) :
    (Content.container kind header body).write? newline atLineStart = (do
      let inner ← body.write? newline true
      let depth ← Depth.around? inner.text
      let fence ← Depth.fence? depth
      if header.all (fits newline) then
        some ⟨freshLine newline atLineStart ++ Depth.marker depth ++ newline
          ++ fence ++ " " ++ kind.word ++ writeHeader newline header
          ++ inner.closed newline ++ fence ++ newline, true⟩
      else none) := by
  have not_empty : ¬body.isEmpty = true := by simp [body_written]
  refine Option.ext fun written => ?_
  simp only [Option.bind_eq_bind, Option.bind_eq_some_iff, Option.ite_none_right_eq_some,
    Option.some_inj, Option.all_eq_true, write?_eq_some_iff, Depth.around?_eq_some_iff,
    Depth.fence?_eq_some_iff, fits_container_iff body_written]
  constructor
  · rintro ⟨⟨small, header_fits, body_fits⟩, rfl⟩
    have word : Depth.around (body.write newline true).text ≤ Depth.maxMarked :=
      small.trans (by decide)
    refine ⟨_, ⟨body_fits, rfl⟩, _, ⟨rfl, word⟩, _, ⟨rfl, small⟩, header_fits, ?_⟩
    rw [write, if_neg not_empty]
  · rintro ⟨_, ⟨body_fits, rfl⟩, _, ⟨rfl, -⟩, _, ⟨rfl, small⟩, header_fits, rfl⟩
    refine ⟨⟨small, header_fits, body_fits⟩, ?_⟩
    rw [write, if_neg not_empty]

end Content
end RefDocs
