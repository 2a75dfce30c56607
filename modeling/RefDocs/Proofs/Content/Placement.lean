import RefDocs.Compose.Basic
import RefDocs.Proofs.Content.Children
import RefDocs.Proofs.Content.ShownTables
import RefDocs.Proofs.Text.LineBreaks

/-!
# Where blocks are written

The text of a block stands in the text of the page that it is on, and below its heading if it has
one.
-/

namespace RefDocs

/-- A text stands somewhere in another. -/
def Text.Within (part text : String) : Prop :=
  ∃ front back, text = front ++ part ++ back

namespace Text.Within

variable {part text : String}

theorem refl (text : String) : Within text text :=
  ⟨"", "", by simp⟩

theorem trans {whole : String} (inner : Within part text) (outer : Within text whole) :
    Within part whole := by
  obtain ⟨front, back, rfl⟩ := inner
  obtain ⟨front', back', rfl⟩ := outer
  exact ⟨front' ++ front, back ++ back', by simp only [String.append_assoc]⟩

theorem append_left (within : Within part text) (front : String) : Within part (front ++ text) :=
  within.trans ⟨front, "", by simp⟩

theorem append_right (within : Within part text) (back : String) : Within part (text ++ back) :=
  within.trans ⟨"", back, by simp⟩

end Text.Within

namespace Content

open Text (Within)

variable {newline : String}

theorem exists_closed_eq (newline : String) (written : Written) :
    ∃ rest, written.closed newline = written.text ++ rest := by
  rw [Written.closed]
  split
  · exact ⟨"", String.append_empty.symm⟩
  · exact ⟨newline, rfl⟩

theorem within_closed (newline : String) (written : Written) :
    Within written.text (written.closed newline) := by
  obtain ⟨rest, closed_eq⟩ := exists_closed_eq newline written
  exact closed_eq ▸ (Within.refl _).append_right rest

theorem text_writeAll_append (newline : String) (front back : List Content) :
    (writeAll newline (front ++ back) true).text =
      (writeAll newline front true).text ++ (writeAll newline back true).text := by
  rw [writeAll_append, Written.andThen, atLineStart_writeAll, Bool.true_or]

theorem text_writeAll_cons {child : Content} (not_empty : child.isEmpty = false)
    (newline : String) (rest : List Content) :
    (writeAll newline (child :: rest) true).text =
      (child.write newline true).closed newline ++ (writeAll newline rest true).text := by
  rw [writeAll, if_neg (by simp [not_empty])]

/-- What is written for some neighbours stands in what is written for all. -/
theorem within_sequence {children front middle back : List Content}
    (children_eq : children = front ++ middle ++ back) :
    Within (writeAll newline middle true).text ((Content.sequence children).render newline) := by
  rw [children_eq, render, write, text_writeAll_append, text_writeAll_append]
  exact ((Within.refl _).append_left _).append_right _

theorem within_sequence_of_mem {children : List Content} {child : Content}
    (child_mem : child ∈ children) (not_empty : child.isEmpty = false) :
    Within (child.render newline) ((Content.sequence children).render newline) := by
  obtain ⟨front, back, children_eq⟩ := List.append_of_mem child_mem
  have child_within : Within (child.render newline) (writeAll newline [child] true).text := by
    rw [text_writeAll_cons not_empty]
    exact (within_closed newline _).append_right _
  refine child_within.trans (@within_sequence _ _ front _ back ?_)
  rw [children_eq, List.append_assoc, List.singleton_append]

theorem within_container {kind : ContainerKind} {header : Option Content} {body : Content}
    (not_empty : body.isEmpty = false) :
    Within (body.render newline) ((Content.container kind header body).render newline) := by
  rw [render, render, write, if_neg (by simp [not_empty])]
  exact ((((within_closed newline _).append_left _).append_right _).append_right _)

theorem within_anchored {anchor : String} {body : Content} (not_empty : body.isEmpty = false) :
    Within ("<section id=\"" ++ Text.escape anchor ++ "\">")
      ((Content.anchored anchor body).render newline) := by
  have tag_within (rest : String) :
      Within ("<section id=\"" ++ Text.escape anchor ++ "\">")
        ("" ++ "<section id=\"" ++ Text.escape anchor ++ "\">" ++ rest) :=
    ⟨"", rest, by simp only [String.append_assoc]⟩
  rw [render, write, if_neg (by simp [not_empty])]
  simpa only [freshLine, if_true, String.append_assoc] using tag_within _

/-! ## Pages -/

theorem mem_flatMap_spaced {blocks : List Content} {block : Content} (block_mem : block ∈ blocks)
    (not_empty : block.isEmpty = false) : block ∈ blocks.flatMap spaced := by
  refine List.mem_flatMap.mpr ⟨block, block_mem, ?_⟩
  rw [spaced, if_neg (by simp [not_empty])]
  exact List.mem_cons_self

theorem within_page_of_mem (front : List (String × String)) {blocks : List Content}
    {block : Content} (block_mem : block ∈ blocks) (not_empty : block.isEmpty = false) :
    Within (block.render newline) ((page front blocks).render newline) :=
  within_sequence_of_mem (List.mem_cons_of_mem _ (mem_flatMap_spaced block_mem not_empty)) not_empty

/-- A line of text is ended by a separator. -/
theorem closed_run (piece : Run) (text_ne : piece.text ≠ "") (unbroken : Text.Unbroken piece.text)
    (newline : String) :
    ((Content.run piece).write newline true).closed newline =
      (if piece.escaped then Text.escape piece.text else piece.text) ++ newline := by
  have last_ne : piece.text.toList.getLast? ≠ some '\n' := fun last_eq =>
    unbroken (List.mem_of_getLast? last_eq)
  have written_unbroken :
      Text.Unbroken (if piece.escaped then Text.escape piece.text else piece.text) := by
    split
    · exact unbroken.escape
    · exact unbroken
  have written_eq : (Content.run piece).write newline true =
      ⟨if piece.escaped then Text.escape piece.text else piece.text, false⟩ := by
    rw [write, Run.write, if_neg (by simpa using text_ne)]
    simp [Text.replaceChar_of_not_mem written_unbroken, last_ne]
  rw [written_eq]
  rfl

theorem closed_blank : ((raw "\n").write newline true).closed newline = newline := by
  have text_eq : Text.replaceChar '\n' newline "\n" = newline := by
    rw [← String.toList_inj, Text.toList_replaceChar]
    simp
  have written_eq : (raw "\n").write newline true = ⟨newline, true⟩ := by
    simp [raw, write, Run.write, text_eq]
  rw [written_eq]
  rfl

/-- A page is written in two parts, and no line goes over from one to the other. -/
theorem render_page_append (newline : String) (front : List (String × String))
    (upper lower : List Content) :
    (page front (upper ++ lower)).render newline =
      (page front upper).render newline ++ (writeAll newline (lower.flatMap spaced) true).text := by
  rw [page, page, render, render, write, write, List.flatMap_append, ← List.cons_append,
    text_writeAll_append]

theorem text_writeAll_spaced (block : Content) (rest : List Content) :
    (writeAll newline (spaced block ++ rest) true).text =
      (if block.isEmpty then "" else (block.write newline true).closed newline ++ newline) ++
        (writeAll newline rest true).text := by
  rw [spaced]
  split
  · rw [List.nil_append, String.empty_append]
  · rename_i not_empty
    rw [List.cons_append, text_writeAll_cons (by simpa using not_empty), List.cons_append,
      text_writeAll_cons (by decide), closed_blank, List.nil_append, String.append_assoc]

/-- The text of a block on a page with the blank line below it; nothing for an empty one. -/
def spacedText (newline : String) (block : Content) : String :=
  if block.isEmpty then "" else (block.write newline true).closed newline ++ newline

/-- Blocks are written one below the other. -/
theorem text_writeAll_flatMap_spaced (newline : String) (blocks : List Content) :
    (writeAll newline (blocks.flatMap spaced) true).text =
      String.join (blocks.map (spacedText newline)) := by
  induction blocks with
  | nil => rfl
  | cons block rest ih =>
      rw [List.flatMap_cons, text_writeAll_spaced, ih, List.map_cons, String.join_cons, spacedText]

theorem isEmpty_raw {text : String} (text_ne : text ≠ "") : (raw text).isEmpty = false := by
  simpa [raw, isEmpty] using text_ne

/-- A line of text that may go over several lines is ended by a separator. -/
theorem closed_raw {text : String} (text_ne : text ≠ "")
    (last_ne : text.toList.getLast? ≠ some '\n') (newline : String) :
    ((raw text).write newline true).closed newline =
      Text.replaceChar '\n' newline text ++ newline := by
  have written_eq : (raw text).write newline true =
      ⟨Text.replaceChar '\n' newline text, false⟩ := by
    rw [raw, write, Run.write, if_neg (by simpa using text_ne)]
    simp [last_ne]
  rw [written_eq]
  rfl

/-- Whole lines of text are written without a further separator. -/
theorem closed_lines {text : String} (last_eq : text.toList.getLast? = some '\n')
    (newline : String) :
    ((raw text).write newline true).closed newline = Text.replaceChar '\n' newline text := by
  have text_ne : text ≠ "" := by
    rintro rfl
    simp at last_eq
  have written_eq : (raw text).write newline true = ⟨Text.replaceChar '\n' newline text, true⟩ := by
    rw [raw, write, Run.write, if_neg (by simpa using text_ne)]
    simp [last_eq]
  rw [written_eq]
  rfl

/-- A heading stands on a line of its own, with a blank line below it. -/
theorem text_writeAll_heading {heading : String} (heading_ne : heading ≠ "")
    (unbroken : Text.Unbroken heading) (newline : String) (rest : List Content) :
    (writeAll newline (spaced (raw heading) ++ rest) true).text =
      heading ++ newline ++ newline ++ (writeAll newline rest true).text := by
  have heading_closed : ((raw heading).write newline true).closed newline = heading ++ newline :=
    closed_run ⟨heading, false⟩ heading_ne unbroken newline
  rw [text_writeAll_spaced, if_neg (by simp [isEmpty_raw heading_ne]), heading_closed]

/-- A block behind a heading is written below it. -/
theorem within_page_of_heading (newline : String) (front : List (String × String))
    {blocks before after : List Content} {heading : String} {block : Content}
    (blocks_eq : blocks = before ++ raw heading :: block :: after) (heading_ne : heading ≠ "")
    (unbroken : Text.Unbroken heading) (not_empty : block.isEmpty = false) :
    Within (heading ++ newline ++ newline ++ block.render newline)
      ((page front blocks).render newline) := by
  have text_eq : (writeAll newline (spaced (raw heading) ++ [block]) true).text =
      heading ++ newline ++ newline ++ (block.write newline true).closed newline := by
    rw [text_writeAll_heading heading_ne unbroken, text_writeAll_cons not_empty, writeAll,
      String.append_empty]
  have block_within : Within (heading ++ newline ++ newline ++ block.render newline)
      (writeAll newline (spaced (raw heading) ++ [block]) true).text := by
    obtain ⟨rest, closed_eq⟩ := exists_closed_eq newline (block.write newline true)
    rw [text_eq, closed_eq, ← String.append_assoc]
    exact (Within.refl _).append_right rest
  refine block_within.trans (@within_sequence _ _ (frontMatter front :: before.flatMap spaced) _
    (raw "\n" :: after.flatMap spaced) ?_)
  rw [blocks_eq]
  simp [spaced, isEmpty_raw heading_ne, not_empty]

end Content
end RefDocs
