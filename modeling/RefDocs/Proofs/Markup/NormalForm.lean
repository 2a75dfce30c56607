import Mathlib.Data.List.Chain
import RefDocs.Markup.Normalize
import RefDocs.Proofs.Outcome

/-!
# Markup in normal form

Markup is in normal form if its tags are nested and closed, its element names are in lower case, and
no block starts directly in a paragraph.  Normalizing adds end tags until that is so, and leaves
markup in normal form as it is.
-/

namespace RefDocs

/-- The name of the element that a tag starts or ends. -/
def DocNode.elementName? : DocNode → Option String
  | .startElement name | .endElement name => some name
  | _ => none

namespace Markup

/-! ## Names in lower case -/

/-- A name without upper-case ASCII letters. -/
def IsLowerName (name : String) : Prop :=
  ∀ char ∈ name.toList, char.isUpper = false

theorem isUpper_toLower (char : Char) : char.toLower.isUpper = false := by
  unfold Char.toLower Char.isUpper
  split
  · simp
    grind
  · grind

theorem toLower_of_not_isUpper {char : Char} (not_upper : char.isUpper = false) :
    char.toLower = char := by
  unfold Char.isUpper at not_upper
  unfold Char.toLower
  split
  · grind
  · rfl

theorem isLowerName_lowerName (name : String) : IsLowerName (lowerName name) := by
  intro char char_mem
  rw [lowerName, String.toList_ofList] at char_mem
  obtain ⟨before, -, rfl⟩ := List.mem_map.mp char_mem
  exact isUpper_toLower before

theorem IsLowerName.lowerName_eq {name : String} (lower : IsLowerName name) :
    lowerName name = name := by
  have chars_eq : name.toList.map Char.toLower = name.toList := by
    refine (List.map_congr_left fun char char_mem => ?_).trans (List.map_id _)
    exact toLower_of_not_isUpper (lower char char_mem)
  rw [lowerName, chars_eq, String.ofList_toList]

theorem isVoid_lowerName (name : String) : isVoid (lowerName name) = isVoid name := by
  rw [isVoid, isVoid, (isLowerName_lowerName name).lowerName_eq]

/-! ## Normal form -/

/-- The elements that are open behind a node, innermost first; there is no such state behind an end
tag of any other element than the innermost. -/
def openBehind? (opened : List String) : DocNode → Option (List String)
  | .startElement name => some (if isVoid name then opened else name :: opened)
  | .endElement name =>
    match opened with
    | innermost :: outer => if innermost = name then some outer else none
    | [] => none
  | _ => some opened

/-- The elements that are open behind nodes inside the given open elements. -/
def openAfter? (opened : List String) (nodes : List DocNode) : Option (List String) :=
  nodes.foldlM openBehind? opened

/-- Nodes in normal form inside the given open elements, innermost first, all of which they
close. -/
structure IsNormalIn (opened : List String) (nodes : List DocNode) : Prop where
  /-- Element names are in lower case. -/
  lower_names : ∀ node ∈ nodes, ∀ name, node.elementName? = some name → IsLowerName name
  /-- No element without content has an end tag. -/
  void_unended : ∀ name, .endElement name ∈ nodes → isVoid name = false
  /-- Every end tag is that of the innermost open element, and every element is closed. -/
  closed : openAfter? opened nodes = some []
  /-- No block starts while a paragraph is the innermost open element. -/
  blocks_apart : ∀ front name rest, nodes = front ++ .startElement name :: rest →
    isBlock name = true → ∀ outer, openAfter? opened front ≠ some ("p" :: outer)

/-- Markup in normal form. -/
def IsNormal (nodes : List DocNode) : Prop :=
  IsNormalIn [] nodes

/-- An element may start inside the given open elements: it is no block, or no paragraph is the
innermost of them. -/
def MayStart (opened : List String) (name : String) : Prop :=
  isBlock name = true → ∀ outer, opened ≠ "p" :: outer

/-- A node that may stand in normal form inside the given open elements. -/
structure Fits (opened : List String) (node : DocNode) : Prop where
  lower_name : ∀ name, node.elementName? = some name → IsLowerName name
  void_unended : ∀ name, node = .endElement name → isVoid name = false
  may_start : ∀ name, node = .startElement name → MayStart opened name

theorem isNormalIn_nil_iff {opened : List String} : IsNormalIn opened [] ↔ opened = [] := by
  constructor
  · intro normal
    simpa [openAfter?] using normal.closed
  · rintro rfl
    exact ⟨by simp, by simp, rfl, by simp⟩

theorem openBehind?_endElement_eq_some_iff {opened behind : List String} {name : String} :
    openBehind? opened (.endElement name) = some behind ↔ opened = name :: behind := by
  cases opened with
  | nil => simp [openBehind?]
  | cons innermost outer =>
      by_cases names_eq : innermost = name
      · simp [openBehind?, names_eq]
      · simp [openBehind?, names_eq]

/-- Normal form is decided node by node. -/
theorem isNormalIn_cons_iff {opened : List String} {node : DocNode} {rest : List DocNode} :
    IsNormalIn opened (node :: rest) ↔
      Fits opened node ∧ ∃ behind, openBehind? opened node = some behind ∧
        IsNormalIn behind rest := by
  constructor
  · intro normal
    obtain ⟨behind, step, closed⟩ := Option.bind_eq_some_iff.mp normal.closed
    refine ⟨⟨normal.lower_names node List.mem_cons_self, ?_, ?_⟩, behind, step, ?_, ?_, closed, ?_⟩
    · rintro name rfl
      exact normal.void_unended name List.mem_cons_self
    · rintro name rfl block outer rfl
      exact normal.blocks_apart [] name rest rfl block outer rfl
    · intro other other_mem
      exact normal.lower_names other (List.mem_cons_of_mem node other_mem)
    · intro name end_mem
      exact normal.void_unended name (List.mem_cons_of_mem node end_mem)
    · rintro front name others rfl block outer front_open
      refine normal.blocks_apart (node :: front) name others rfl block outer ?_
      simpa [openAfter?, step] using front_open
  · rintro ⟨fits, behind, step, normal⟩
    refine ⟨?_, ?_, ?_, ?_⟩
    · intro other other_mem
      rcases List.mem_cons.mp other_mem with rfl | other_mem
      · exact fits.lower_name
      · exact normal.lower_names other other_mem
    · intro name end_mem
      rcases List.mem_cons.mp end_mem with is_node | end_mem
      · exact fits.void_unended name is_node.symm
      · exact normal.void_unended name end_mem
    · simpa [openAfter?, step] using normal.closed
    · intro front name others nodes_eq block outer front_open
      cases front with
      | nil =>
          obtain ⟨rfl, -⟩ := List.cons_eq_cons.mp nodes_eq
          exact fits.may_start name rfl block outer (Option.some.inj front_open)
      | cons first front =>
          obtain ⟨rfl, rest_eq⟩ := List.cons_eq_cons.mp nodes_eq
          refine normal.blocks_apart front name others rest_eq block outer ?_
          simpa [openAfter?, step] using front_open

/-! ## Nodes in normal form -/

section Nodes

variable {opened : List String} {name : String} {rest : List DocNode}

theorem IsNormalIn.start (lower : IsLowerName name) (may_start : MayStart opened name)
    (normal : IsNormalIn (if isVoid name then opened else name :: opened) rest) :
    IsNormalIn opened (.startElement name :: rest) := by
  refine isNormalIn_cons_iff.mpr ⟨⟨?_, nofun, ?_⟩, _, rfl, normal⟩
  · rintro _ ⟨⟩
    exact lower
  · rintro _ ⟨⟩
    exact may_start

theorem IsNormalIn.stop (lower : IsLowerName name) (not_void : isVoid name = false)
    (normal : IsNormalIn opened rest) : IsNormalIn (name :: opened) (.endElement name :: rest) := by
  refine isNormalIn_cons_iff.mpr ⟨⟨?_, ?_, nofun⟩, opened, if_pos rfl, normal⟩
  · rintro _ ⟨⟩
    exact lower
  · rintro _ ⟨⟩
    exact not_void

/-- A node that is no tag. -/
structure IsPlain (node : DocNode) : Prop where
  not_start : ∀ name, node ≠ .startElement name
  not_end : ∀ name, node ≠ .endElement name

theorem isPlain_of_unnamed {node : DocNode} (unnamed : node.elementName? = none) :
    IsPlain node := by
  constructor
  · rintro name rfl
    cases unnamed
  · rintro name rfl
    cases unnamed

theorem IsPlain.openBehind? {node : DocNode} (plain : IsPlain node) (opened : List String) :
    openBehind? opened node = some opened := by
  cases node with
  | startElement name => exact absurd rfl (plain.not_start name)
  | endElement name => exact absurd rfl (plain.not_end name)
  | _ => rfl

theorem IsPlain.elementName? {node : DocNode} (plain : IsPlain node) :
    node.elementName? = none := by
  cases node with
  | startElement name => exact absurd rfl (plain.not_start name)
  | endElement name => exact absurd rfl (plain.not_end name)
  | _ => rfl

theorem IsNormalIn.plain {node : DocNode} (plain : IsPlain node) (normal : IsNormalIn opened rest) :
    IsNormalIn opened (node :: rest) := by
  refine isNormalIn_cons_iff.mpr ⟨⟨?_, ?_, ?_⟩, opened, plain.openBehind? opened, normal⟩
  · simp [plain.elementName?]
  · exact fun name is_end => absurd is_end (plain.not_end name)
  · exact fun name is_start => absurd is_start (plain.not_start name)

end Nodes

/-! ## What normalizing adds -/

/-- A node with the name of its element in lower case. -/
def lowered : DocNode → DocNode
  | .startElement name => .startElement (lowerName name)
  | .endElement name => .endElement (lowerName name)
  | node => node

/-- An end tag of an element without content. -/
def isVoidEnd : DocNode → Bool
  | .endElement name => isVoid name
  | _ => false

/-- Nodes with element names in lower case, without the end tags of elements without content. -/
def tidied (nodes : List DocNode) : List DocNode :=
  (nodes.filter fun node => !isVoidEnd node).map lowered

/-- The second list has the nodes of the first in order, and otherwise only end tags. -/
inductive AddsEndTags : List DocNode → List DocNode → Prop where
  | nil : AddsEndTags [] []
  | keep (node : DocNode) {nodes extended : List DocNode} (adds : AddsEndTags nodes extended) :
      AddsEndTags (node :: nodes) (node :: extended)
  | add (name : String) {nodes extended : List DocNode} (adds : AddsEndTags nodes extended) :
      AddsEndTags nodes (.endElement name :: extended)

theorem IsPlain.tidied_cons {node : DocNode} (plain : IsPlain node) (rest : List DocNode) :
    tidied (node :: rest) = node :: tidied rest := by
  cases node with
  | startElement name => exact absurd rfl (plain.not_start name)
  | endElement name => exact absurd rfl (plain.not_end name)
  | _ => rfl

theorem addsEndTags_map_endElement (names : List String) :
    AddsEndTags [] (names.map .endElement) := by
  induction names with
  | nil => exact .nil
  | cons name names ih => exact .add name ih

/-! ## Normalizing gives normal form -/

/-- The elements that are open while nodes are normalized, innermost first. -/
structure Opened (names : List String) : Prop where
  /-- Their names are in lower case. -/
  lower_names : ∀ name ∈ names, IsLowerName name
  /-- They have content. -/
  not_void : ∀ name ∈ names, isVoid name = false
  /-- No paragraph is open directly in a paragraph. -/
  paragraphs_apart : names.IsChain fun inner outer => inner = "p" → outer ≠ "p"

namespace Opened

variable {name : String} {names : List String}

theorem tail (opened : Opened (name :: names)) : Opened names where
  lower_names other other_mem := opened.lower_names other (List.mem_cons_of_mem name other_mem)
  not_void other other_mem := opened.not_void other (List.mem_cons_of_mem name other_mem)
  paragraphs_apart := opened.paragraphs_apart.tail

theorem push (opened : Opened names) (lower : IsLowerName name) (not_void : isVoid name = false)
    (may_start : MayStart names name) : Opened (name :: names) where
  lower_names := List.forall_mem_cons.mpr ⟨lower, opened.lower_names⟩
  not_void := List.forall_mem_cons.mpr ⟨not_void, opened.not_void⟩
  paragraphs_apart := by
    refine List.isChain_cons.mpr ⟨?_, opened.paragraphs_apart⟩
    rintro outer outer_first rfl rfl
    obtain ⟨others, rfl⟩ := List.head?_eq_some_iff.mp outer_first
    exact may_start (by decide) others rfl

theorem behindStart (opened : Opened names) (lower : IsLowerName name)
    (may_start : MayStart names name) :
    Opened (if isVoid name then names else name :: names) := by
  by_cases void : isVoid name = true
  · simpa [void] using opened
  · rw [if_neg void]
    exact opened.push lower (by simpa using void) may_start

theorem mayStart_outside_paragraph (opened : Opened ("p" :: names)) (name : String) :
    MayStart names name := by
  rintro - outer rfl
  exact (List.isChain_cons_cons.mp opened.paragraphs_apart).1 rfl rfl

theorem stop (opened : Opened (name :: names)) {rest : List DocNode}
    (normal : IsNormalIn names rest) : IsNormalIn (name :: names) (.endElement name :: rest) :=
  .stop (opened.lower_names name List.mem_cons_self) (opened.not_void name List.mem_cons_self)
    normal

theorem isNormalIn_map_endElement (opened : Opened names) :
    IsNormalIn names (names.map .endElement) := by
  induction names with
  | nil => exact isNormalIn_nil_iff.mpr rfl
  | cons name names ih => exact opened.stop (ih opened.tail)

end Opened

/-- Before a start tag, a paragraph is closed exactly if it is the innermost element and the tag
starts a block. -/
theorem beforeStart_cases (name : String) (opened : List String) :
    (∃ outer, opened = "p" :: outer ∧ isBlock name = true ∧
        beforeStart name opened = ([.endElement "p"], outer)) ∨
      beforeStart name opened = ([], opened) ∧ MayStart opened name := by
  unfold beforeStart
  split
  · rename_i outer
    by_cases block : isBlock name = true
    · exact Or.inl ⟨outer, rfl, block, if_pos block⟩
    · exact Or.inr ⟨if_neg block, fun is_block => absurd is_block block⟩
  · rename_i not_in_paragraph
    exact Or.inr ⟨rfl, fun _ => not_in_paragraph⟩

/-- Before an end tag, a paragraph is closed only if the tag is that of the element around it. -/
theorem beforeEnd_cases (name : String) (opened : List String) :
    (∃ outer, opened = "p" :: name :: outer ∧ name ≠ "p" ∧
        beforeEnd name opened = ([.endElement "p"], name :: outer)) ∨
      beforeEnd name opened = ([], opened) := by
  unfold beforeEnd
  split
  · rename_i parent outer
    by_cases closes : name ≠ "p" ∧ parent = name
    · obtain rfl := closes.2
      exact Or.inl ⟨outer, rfl, closes.1, if_pos closes⟩
    · exact Or.inr (if_neg closes)
  · exact Or.inr rfl

section Normalized

variable {opened : List String} {nodes result : List DocNode}

theorem isNormalIn_of_normalizeIn (stack : Opened opened)
    (normalized : normalizeIn opened nodes = .ok result) :
    IsNormalIn opened result ∧ AddsEndTags (tidied nodes) result := by
  fun_induction normalizeIn opened nodes generalizing result with
  | case1 opened =>
      obtain rfl := Except.ok.inj normalized
      exact ⟨stack.isNormalIn_map_endElement, addsEndTags_map_endElement opened⟩
  | case2 opened written rest name closing behind before_eq =>
      rename_i ih
      obtain ⟨others, others_eq, result_eq⟩ := bind_eq_ok_iff.mp normalized
      obtain rfl := Except.ok.inj result_eq
      have lower : IsLowerName name := isLowerName_lowerName written
      have tidied_eq : tidied (.startElement written :: rest) =
          .startElement name :: tidied rest := by
        simp [tidied, isVoidEnd, lowered, name]
      rw [tidied_eq]
      rcases beforeStart_cases name opened with ⟨outer, rfl, -, cut⟩ | ⟨cut, may_start⟩
      · obtain ⟨rfl, rfl⟩ := Prod.mk.inj (cut.symm.trans before_eq)
        have may_start := stack.mayStart_outside_paragraph name
        obtain ⟨normal, adds⟩ := ih (stack.tail.behindStart lower may_start) others_eq
        exact ⟨stack.stop (.start lower may_start normal), .add "p" (.keep _ adds)⟩
      · obtain ⟨rfl, rfl⟩ := Prod.mk.inj (cut.symm.trans before_eq)
        obtain ⟨normal, adds⟩ := ih (stack.behindStart lower may_start) others_eq
        exact ⟨.start lower may_start normal, .keep _ adds⟩
  | case3 opened written rest name void =>
      rename_i ih
      have tidied_eq : tidied (.endElement written :: rest) = tidied rest := by
        have written_void : isVoid written = true := (isVoid_lowerName written).symm.trans void
        simp [tidied, isVoidEnd, written_void]
      rw [tidied_eq]
      exact ih stack normalized
  | case4 | case6 => simp at normalized
  | case5 opened written rest name not_void closing outer before_eq =>
      rename_i ih
      obtain ⟨others, others_eq, result_eq⟩ := bind_eq_ok_iff.mp normalized
      obtain rfl := Except.ok.inj result_eq
      have tidied_eq : tidied (.endElement written :: rest) = .endElement name :: tidied rest := by
        have written_not_void : isVoid written = false :=
          (isVoid_lowerName written).symm.trans (by simpa using not_void)
        simp [tidied, isVoidEnd, lowered, written_not_void, name]
      rw [tidied_eq]
      rcases beforeEnd_cases name opened with ⟨others_open, rfl, -, cut⟩ | cut
      · obtain ⟨rfl, open_eq⟩ := Prod.mk.inj (cut.symm.trans before_eq)
        obtain rfl := List.tail_eq_of_cons_eq open_eq
        obtain ⟨normal, adds⟩ := ih stack.tail.tail others_eq
        exact ⟨stack.stop (stack.tail.stop normal), .add "p" (.keep _ adds)⟩
      · obtain ⟨rfl, rfl⟩ := Prod.mk.inj (cut.symm.trans before_eq)
        obtain ⟨normal, adds⟩ := ih stack.tail others_eq
        exact ⟨stack.stop normal, .keep _ adds⟩
  | case7 opened node rest not_start not_end ih =>
      obtain ⟨others, others_eq, result_eq⟩ := bind_eq_ok_iff.mp normalized
      obtain rfl := Except.ok.inj result_eq
      have plain : IsPlain node := ⟨not_start, not_end⟩
      obtain ⟨normal, adds⟩ := ih stack others_eq
      rw [plain.tidied_cons]
      exact ⟨.plain plain normal, .keep _ adds⟩

/-- Nodes in normal form are left as they are. -/
theorem IsNormalIn.normalizeIn_eq (normal : IsNormalIn opened nodes) :
    normalizeIn opened nodes = .ok nodes := by
  induction nodes generalizing opened with
  | nil =>
      obtain rfl := isNormalIn_nil_iff.mp normal
      rfl
  | cons node rest ih =>
      obtain ⟨fits, behind, step, normal⟩ := isNormalIn_cons_iff.mp normal
      have rest_eq := ih normal
      cases node with
      | startElement name =>
          obtain rfl := Option.some.inj step
          have lower_eq := (fits.lower_name name rfl).lowerName_eq
          have nothing_due : beforeStart name opened = ([], opened) := by
            rcases beforeStart_cases name opened with ⟨outer, rfl, block, -⟩ | ⟨nothing_due, -⟩
            · exact absurd rfl (fits.may_start name rfl block outer)
            · exact nothing_due
          rw [normalizeIn, lower_eq, nothing_due]
          exact bind_eq_ok_iff.mpr ⟨rest, rest_eq, rfl⟩
      | endElement name =>
          have lower_eq := (fits.lower_name name rfl).lowerName_eq
          have not_void : isVoid name = false := fits.void_unended name rfl
          obtain rfl := openBehind?_endElement_eq_some_iff.mp step
          have nothing_due : beforeEnd name (name :: behind) = ([], name :: behind) := by
            rcases beforeEnd_cases name (name :: behind) with
              ⟨outer, open_eq, apart, -⟩ | nothing_due
            · exact absurd (List.head_eq_of_cons_eq open_eq) apart
            · exact nothing_due
          rw [normalizeIn, lower_eq, if_neg (by simp [not_void]), nothing_due]
          simp only [if_true]
          exact bind_eq_ok_iff.mpr ⟨rest, rest_eq, rfl⟩
      | _ =>
          obtain rfl := Option.some.inj step
          exact bind_eq_ok_iff.mpr ⟨rest, rest_eq, rfl⟩

end Normalized

theorem isNormal_of_normalize {nodes result : List DocNode}
    (normalized : normalize nodes = .ok result) :
    IsNormal result ∧ AddsEndTags (tidied nodes) result :=
  isNormalIn_of_normalizeIn ⟨by simp, by simp, .nil⟩ normalized

/-- Normalizing gives markup in normal form, which has the tidied nodes of the source in order and
otherwise only end tags.  It leaves markup in normal form as it is, so its results are exactly what
it leaves as it is. -/
theorem normalize_isNormal_and_fixed (nodes : List DocNode) :
    (∀ result, normalize nodes = .ok result →
        IsNormal result ∧ AddsEndTags (tidied nodes) result ∧ normalize result = .ok result) ∧
      (IsNormal nodes → normalize nodes = .ok nodes) ∧
      ((∃ source, normalize source = .ok nodes) ↔ normalize nodes = .ok nodes) := by
  refine ⟨?_, IsNormalIn.normalizeIn_eq, ?_, fun fixed => ⟨nodes, fixed⟩⟩
  · intro result normalized
    obtain ⟨normal, adds⟩ := isNormal_of_normalize normalized
    exact ⟨normal, adds, normal.normalizeIn_eq⟩
  · rintro ⟨source, normalized⟩
    exact (isNormal_of_normalize normalized).1.normalizeIn_eq

theorem normalize_openParagraph : ∃ result,
    result = [.startElement "p", .text "a", .endElement "p", .startElement "ul",
      .endElement "ul"] ∧
      normalize [.startElement "P", .text "a", .endElement "BR", .startElement "ul"] =
        .ok result ∧ IsNormal result ∧ normalize result = .ok result := by
  refine ⟨_, rfl, rfl, ?_⟩
  obtain ⟨normal, -, fixed⟩ := (normalize_isNormal_and_fixed
    [.startElement "P", .text "a", .endElement "BR", .startElement "ul"]).1 _ rfl
  exact ⟨normal, fixed⟩

end Markup
end RefDocs
