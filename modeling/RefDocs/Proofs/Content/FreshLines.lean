import RefDocs.Proofs.Content.Children
import RefDocs.Proofs.Content.TableLines

/-!
# Blocks on fresh lines

From the middle of a line, a block is written as from its start, behind one line separator.  The
block itself starts with something that can be seen, so the separator is never doubled, whatever is
written in front of the block.
-/

namespace RefDocs

/-! ## Texts that start visibly -/

/-- The first character of a text is there and is not a blank. -/
def StartsVisibly (text : String) : Prop :=
  (text.toList.head?.any fun char => !isBlank char) = true

instance (text : String) : Decidable (StartsVisibly text) :=
  inferInstanceAs (Decidable (_ = true))

namespace StartsVisibly

variable {text : String}

theorem append (visibly : StartsVisibly text) (rest : String) : StartsVisibly (text ++ rest) := by
  rw [StartsVisibly, String.toList_append]
  rw [StartsVisibly] at visibly
  cases chars_eq : text.toList with
  | nil => simp [chars_eq] at visibly
  | cons char others => simpa [chars_eq] using visibly

theorem not_prefix (visibly : StartsVisibly text) (separator : LineSeparator) :
    ¬ separator.text.toList <+: text.toList := by
  rintro ⟨rest, text_eq⟩
  rw [StartsVisibly, ← text_eq] at visibly
  cases separator <;> revert visibly <;> simp [LineSeparator.text] <;> decide

end StartsVisibly

theorem startsVisibly_tableLabel (newline label : String) :
    StartsVisibly (tableLabel newline label) := by
  simp only [tableLabel, String.append_assoc]
  exact .append (by decide) _

theorem startsVisibly_openTabs (newline : String) (key : Option String) :
    StartsVisibly (openTabs newline key) := by
  rw [openTabs.eq_def, String.append_assoc]
  exact .append (by decide) _

theorem Depth.startsVisibly_marker (depth : Nat) : StartsVisibly (marker depth) :=
  .append (.append (by decide) _) _

theorem TableStyle.startsVisibly_writeTable (newline : String) (headers : List String)
    (rows : List (List String)) (style : TableStyle) :
    StartsVisibly (style.writeTable newline headers rows) := by
  rw [writeTable_eq]
  refine .append (.append ?_ _) _
  cases style with
  | html =>
      unfold headLines
      simp only [String.append_assoc]
      exact .append (by decide) _
  | markdown =>
      unfold headLines
      simp only [String.append_assoc]
      exact .append (by decide) _

theorem TabbedTable.startsVisibly_writeTables (newline : String) (table : TabbedTable Content)
    (headers : List String) (rows : List (List String)) :
    StartsVisibly (table.writeTables newline headers rows) := by
  rw [writeTables]
  dsimp only
  split
  · simp only [String.append_assoc]
    exact (startsVisibly_openTabs newline table.key).append _
  · exact (startsVisibly_tableLabel newline _).append _

/-! ## Blocks -/

namespace Content

/-- The node is written on lines of its own: a container, a section, a table or tabs, also as the
frame of a wrapper. -/
def isBlock : Content → Bool
  | .run _ | .sequence _ => false
  | .wrapper frame => frame.isBlock
  | .container .. | .anchored .. | .table _ | .tabs _ | .tabbed _ => true

/-- A block writes the same from any cursor, apart from what brings that to a fresh line. -/
theorem exists_write_eq_freshLine (newline : String) : (block : Content) →
    block.isBlock = true → block.isEmpty = false →
      ∃ text, StartsVisibly text ∧
        ∀ atLineStart, block.write newline atLineStart = ⟨freshLine newline atLineStart ++ text, true⟩
  | .wrapper frame, is_block, not_empty => by
      simp only [write]
      exact exists_write_eq_freshLine newline frame is_block not_empty
  | .container kind header body, _, not_empty => by
      have body_shows : body.isEmpty = false := not_empty
      simp only [write, body_shows, String.append_assoc]
      exact ⟨_, (Depth.startsVisibly_marker _).append _, fun _ => rfl⟩
  | .anchored anchor body, _, not_empty => by
      have body_shows : body.isEmpty = false := not_empty
      simp only [write, body_shows, String.append_assoc]
      exact ⟨_, .append (by decide) _, fun _ => rfl⟩
  | .table ⟨style, caption, some ⟨headers, rows⟩⟩, _, not_empty => by
      have rows_shown : rows.isEmpty = false := not_empty
      have table_visible := style.startsVisibly_writeTable newline headers (rowTexts style rows)
      cases caption with
      | none =>
          simp only [write, rows_shown, String.append_empty]
          exact ⟨_, table_visible, fun _ => rfl⟩
      | some label =>
          simp only [write, rows_shown, String.append_assoc]
          exact ⟨_, (startsVisibly_tableLabel newline label).append _, fun _ => rfl⟩
  | .tabs ⟨key, named⟩, _, not_empty => by
      have tabs_shown : allTabsEmpty named = false := not_empty
      simp only [write, tabs_shown, String.append_assoc]
      exact ⟨_, (startsVisibly_openTabs newline key).append _, fun _ => rfl⟩
  | .tabbed ⟨style, label, key, forced, selections, some ⟨headers, rows⟩⟩, _, not_empty => by
      have rows_shown : rows.isEmpty = false := not_empty
      simp only [write, rows_shown]
      exact ⟨_, TabbedTable.startsVisibly_writeTables newline _ headers _, fun _ => rfl⟩
termination_by structural block => block

/-- A block that is not empty is written from the middle of a line as from its start, behind one line
separator, and leaves the cursor at the start of a line in both cases.  It does not start with a
separator itself.  Among the children of a sequence it stands behind what is written in front of it,
and the separator is only put in if nothing is and the sequence starts in the middle of a line. -/
theorem write_block_mid_line {block : Content} (is_block : block.isBlock = true)
    (not_empty : block.isEmpty = false) :
    (∀ newline,
        block.write newline false = ⟨newline ++ (block.write newline true).text, true⟩ ∧
          (block.write newline true).atLineStart = true) ∧
      (∀ separator : LineSeparator,
        ¬ separator.text.toList <+: (block.write separator.text true).text.toList) ∧
      ∀ newline front back atLineStart,
        let before := (Content.sequence front).write newline atLineStart
        (Content.sequence (front ++ block :: back)).write newline atLineStart =
            ⟨before.text ++ freshLine newline before.atLineStart ++
              (block.write newline true).text ++ ((Content.sequence back).write newline true).text,
              true⟩ ∧
          before.atLineStart = (atLineStart || !(Content.sequence front).isEmpty) := by
  refine ⟨fun newline => ?_, fun separator => ?_, fun newline front back atLineStart => ⟨?_, ?_⟩⟩
  · obtain ⟨text, -, written⟩ := exists_write_eq_freshLine newline block is_block not_empty
    rw [written, written]
    simp [freshLine]
  · obtain ⟨text, visibly, written⟩ :=
      exists_write_eq_freshLine separator.text block is_block not_empty
    rw [written, freshLine, if_pos rfl, String.empty_append]
    exact visibly.not_prefix separator
  · obtain ⟨text, -, written⟩ := exists_write_eq_freshLine newline block is_block not_empty
    have behind_at_start := atLineStart_writeAll newline back true
    simp only [write, writeAll_append, Written.andThen, writeAll, not_empty, written,
      Written.closed, behind_at_start]
    simp [freshLine, String.append_assoc]
  · exact atLineStart_writeAll newline front atLineStart

/-- A tab switcher in a section, as the frame of a wrapper. -/
def framedTabs : Content :=
  .wrapper (.anchored "sum" (.tabs ⟨some "language", [("Java", [.text "a"])]⟩))

theorem write_framedTabs :
    framedTabs.isBlock = true ∧ framedTabs.isEmpty = false ∧
      framedTabs.write "\r\n" false =
        ⟨"\r\n" ++ (framedTabs.write "\r\n" true).text, true⟩ ∧
      (Content.sequence [.empty, .text "b", framedTabs, .text "c"]).write "\n" false =
        ⟨"b\n" ++ (framedTabs.write "\n" true).text ++ "c\n", true⟩ ∧
      (framedTabs.write "\n" true).text =
        "<section id=\"sum\">\n\n:::tabs key:language\n== Java\na\n:::\n\n</section>\n\n" := by
  have is_block : framedTabs.isBlock = true := rfl
  have not_empty : framedTabs.isEmpty = false := by decide
  obtain ⟨mid_line, -, behind⟩ := write_block_mid_line is_block not_empty
  refine ⟨is_block, not_empty, (mid_line "\r\n").1, ?_, by decide +kernel⟩
  exact (behind "\n" [.empty, .text "b"] [.text "c"] false).1.trans (by decide +kernel)

end Content

end RefDocs
