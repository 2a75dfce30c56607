import RefDocs.Proofs.Content.Cursor
import RefDocs.Proofs.Content.Induction
import RefDocs.Proofs.Content.Overflow
import RefDocs.Proofs.Content.Strings
import RefDocs.Proofs.Content.TableLines
import RefDocs.Proofs.Content.Tabs
import RefDocs.Proofs.Text.LineBreaks

/-!
# Content with another line separator

What is written with a carriage return and a line feed at the end of each line is what is written
with line feeds alone, with each line break replaced.  Labels, which are written as they are, must
not hold line breaks themselves.
-/

namespace RefDocs

open Text (Unbroken inCrlf inCrlf_append inCrlf_break inCrlf_of_not_mem inCrlf_join_map)

/-- Written text with each line break replaced. -/
def Written.inCrlf (written : Written) : Written :=
  { written with text := Text.inCrlf written.text }

namespace Written

theorem inCrlf_mk (text : String) (atLineStart : Bool) :
    (Written.mk text atLineStart).inCrlf = ⟨Text.inCrlf text, atLineStart⟩ := rfl

theorem text_inCrlf (written : Written) : written.inCrlf.text = Text.inCrlf written.text := rfl

theorem atLineStart_inCrlf (written : Written) : written.inCrlf.atLineStart = written.atLineStart :=
  rfl

theorem closed_inCrlf (written : Written) :
    written.inCrlf.closed "\r\n" = Text.inCrlf (written.closed "\n") := by
  cases at_start : written.atLineStart with
  | true => simp [closed, Written.inCrlf, at_start]
  | false => simp [closed, Written.inCrlf, at_start, inCrlf_append, inCrlf_break]

end Written

/-! ## Pieces of written text -/

theorem freshLine_crlf (atLineStart : Bool) :
    freshLine "\r\n" atLineStart = inCrlf (freshLine "\n" atLineStart) := by
  cases atLineStart with
  | true => rfl
  | false => exact inCrlf_break.symm

theorem Depth.unbroken_marker (depth : Nat) : Unbroken (marker depth) := by
  have start_unbroken : Unbroken markerStart := by decide
  have end_unbroken : Unbroken markerEnd := by decide
  exact (start_unbroken.append (not_mem_toDigits (by decide) depth)).append end_unbroken

theorem Depth.unbroken_fence (depth : Nat) : Unbroken (fence depth) := by
  have colons_unbroken : Unbroken (Text.replicate depth "::") := .replicate (by decide) depth
  exact .append (by decide) colons_unbroken

theorem ContainerKind.unbroken_word (kind : ContainerKind) : Unbroken kind.word := by
  cases kind <;> decide

theorem Run.write_crlf (run : Run) (atLineStart : Bool) :
    run.write "\r\n" atLineStart = (run.write "\n" atLineStart).inCrlf := by
  unfold write
  split
  · rfl
  · rw [Written.inCrlf_mk, show "\n" = String.singleton '\n' from rfl, Text.replaceChar_self]
    rfl

namespace TableStyle

theorem unbroken_cellText (style : TableStyle) (rendered : String) :
    Unbroken (style.cellText rendered) := by
  have line_unbroken : Unbroken (Text.replaceChar '\n' "<br>" (Text.trimEndOf '\n' rendered)) :=
    Text.not_mem_replaceChar (by decide) _
  cases style with
  | html => exact line_unbroken
  | markdown => exact line_unbroken.replaceChar (by decide)

theorem writeTable_crlf (style : TableStyle) {headers : List String} {rows : List (List String)}
    (headers_unbroken : ∀ header ∈ headers, Unbroken header)
    (rows_unbroken : ∀ row ∈ rows, ∀ cell ∈ row, Unbroken cell) :
    style.writeTable "\r\n" headers rows = inCrlf (style.writeTable "\n" headers rows) := by
  rw [writeTable_eq_ofLines, writeTable_eq_ofLines]
  exact Text.ofLines_crlf (style.unbroken_lines headers_unbroken rows_unbroken)

end TableStyle

theorem tableLabel_crlf {label : String} (unbroken : Unbroken label) :
    tableLabel "\r\n" label = inCrlf (tableLabel "\n" label) := by
  have stars_unbroken : Unbroken "**" := by decide
  simp only [tableLabel, inCrlf_append, inCrlf_break, stars_unbroken.inCrlf_eq,
    unbroken.escape.inCrlf_eq]

theorem openTabs_crlf {key : Option String} (unbroken : ∀ text ∈ key, Unbroken text) :
    openTabs "\r\n" key = inCrlf (openTabs "\n" key) := by
  have tabs_unbroken : Unbroken ":::tabs" := by decide
  have key_unbroken : Unbroken " key:" := by decide
  cases key with
  | none => decide
  | some key =>
      simp only [openTabs, inCrlf_append, inCrlf_break, tabs_unbroken.inCrlf_eq,
        key_unbroken.inCrlf_eq, (unbroken key rfl).inCrlf_eq]

theorem openTab_crlf {label : String} (unbroken : Unbroken label) :
    openTab "\r\n" label = inCrlf (openTab "\n" label) := by
  have equals_unbroken : Unbroken "== " := by decide
  simp only [openTab, inCrlf_append, inCrlf_break, equals_unbroken.inCrlf_eq, unbroken.inCrlf_eq]

theorem closeTabs_crlf : closeTabs "\r\n" = inCrlf (closeTabs "\n") := by
  decide

theorem TabbedTable.writeTables_crlf (table : TabbedTable Content) {headers : List String}
    {rows : List (List String)} (label_unbroken : Unbroken table.defaultLabel)
    (key_unbroken : ∀ text ∈ table.key, Unbroken text)
    (tabs_unbroken : ∀ tab ∈ table.tabs, Unbroken tab.1)
    (headers_unbroken : ∀ header ∈ headers, Unbroken header)
    (rows_unbroken : ∀ row ∈ rows, ∀ cell ∈ row, Unbroken cell) :
    table.writeTables "\r\n" headers rows = inCrlf (table.writeTables "\n" headers rows) := by
  have matching_unbroken : ∀ tab ∈ matching table.tabs rows,
      Unbroken tab.1 ∧ ∀ row ∈ tab.2, ∀ cell ∈ row, Unbroken cell := by
    intro tab tab_mem
    obtain ⟨⟨selected, selected_mem⟩, sublist⟩ := mem_matching tab_mem
    exact ⟨tabs_unbroken _ selected_mem, fun row row_mem => rows_unbroken row (sublist.mem row_mem)⟩
  have one_crlf (tab : String × List (List String))
      (tab_unbroken : ∀ row ∈ tab.2, ∀ cell ∈ row, Unbroken cell) :
      table.style.writeTable "\r\n" headers tab.2 =
        inCrlf (table.style.writeTable "\n" headers tab.2) :=
    table.style.writeTable_crlf headers_unbroken tab_unbroken
  rw [writeTables, writeTables]
  dsimp only
  split
  · have shown_crlf (shown : List (String × List (List String)))
        (shown_unbroken : ∀ tab ∈ shown,
          Unbroken tab.1 ∧ ∀ row ∈ tab.2, ∀ cell ∈ row, Unbroken cell) :
        String.join (shown.map fun tab =>
          openTab "\r\n" tab.1 ++ table.style.writeTable "\r\n" headers tab.2) =
          inCrlf (String.join (shown.map fun tab =>
            openTab "\n" tab.1 ++ table.style.writeTable "\n" headers tab.2)) := by
      refine inCrlf_join_map ?_
      intro tab tab_mem
      obtain ⟨name_unbroken, tab_unbroken⟩ := shown_unbroken tab tab_mem
      rw [inCrlf_append, openTab_crlf name_unbroken, one_crlf tab tab_unbroken]
    rw [inCrlf_append, inCrlf_append, openTabs_crlf key_unbroken, closeTabs_crlf, shown_crlf]
    split
    · exact List.forall_mem_cons.mpr ⟨⟨label_unbroken, rows_unbroken⟩, matching_unbroken⟩
    · exact matching_unbroken
  · rw [inCrlf_append]
    cases tabs_eq : matching table.tabs rows with
    | nil =>
        have default_crlf := one_crlf (table.defaultLabel, rows) rows_unbroken
        exact congrArg₂ (· ++ ·) (tableLabel_crlf label_unbroken) default_crlf
    | cons tab rest =>
        have tab_unbroken := matching_unbroken tab (tabs_eq ▸ List.mem_cons_self)
        have tab_crlf := one_crlf tab tab_unbroken.2
        exact congrArg₂ (· ++ ·) (tableLabel_crlf tab_unbroken.1) tab_crlf

namespace Content

/-- A tree without line breaks in its labels. -/
def UnbrokenLabels (content : Content) : Prop :=
  content.AllLabels Unbroken

/-- A node is written with line feeds and then with each of them replaced. -/
def CommutesWithBreaks (content : Content) : Prop :=
  content.UnbrokenLabels → ∀ atLineStart,
    content.write "\r\n" atLineStart = (content.write "\n" atLineStart).inCrlf

theorem unbroken_rowTexts (style : TableStyle) (rows : List (List Content)) :
    ∀ texts ∈ rowTexts style rows, ∀ text ∈ texts, Unbroken text := by
  simp only [rowTexts_eq_map, cellTexts_eq_map, List.forall_mem_map]
  intro row _ cell _
  exact style.unbroken_cellText _

theorem writeAll_crlf {children : List Content} (labels : ∀ child ∈ children, child.UnbrokenLabels)
    (commutes : ∀ child ∈ children, child.CommutesWithBreaks) (atLineStart : Bool) :
    writeAll "\r\n" children atLineStart = (writeAll "\n" children atLineStart).inCrlf := by
  induction children generalizing atLineStart with
  | nil => rfl
  | cons child rest ih =>
      rw [List.forall_mem_cons] at labels commutes
      have rest_crlf := ih labels.2 commutes.2
      rw [writeAll, writeAll]
      split
      · exact rest_crlf atLineStart
      · simp only [Written.inCrlf_mk, inCrlf_append, commutes.1 labels.1, rest_crlf,
          Written.closed_inCrlf, Written.text_inCrlf, Written.atLineStart_inCrlf]

theorem writeHeader_crlf {header : Option Content}
    (labels : ∀ content ∈ header, content.UnbrokenLabels)
    (commutes : ∀ content ∈ header, content.CommutesWithBreaks) :
    writeHeader "\r\n" header = inCrlf (writeHeader "\n" header) := by
  cases header with
  | none => exact inCrlf_break.symm
  | some content =>
      rw [writeHeader, writeHeader]
      split
      · exact inCrlf_break.symm
      · have blank_unbroken : Unbroken " " := by decide
        rw [commutes content rfl (labels content rfl), Written.closed_inCrlf, inCrlf_append,
          blank_unbroken.inCrlf_eq]

theorem writeTabs_crlf {named : List (String × List Content)}
    (names : ∀ tab ∈ named, Unbroken tab.1)
    (labels : ∀ tab ∈ named, ∀ child ∈ tab.2, child.UnbrokenLabels)
    (commutes : ∀ tab ∈ named, ∀ child ∈ tab.2, child.CommutesWithBreaks) :
    writeTabs "\r\n" named = inCrlf (writeTabs "\n" named) := by
  induction named with
  | nil => rfl
  | cons tab rest ih =>
      rw [List.forall_mem_cons] at names labels commutes
      have rest_crlf := ih names.2 labels.2 commutes.2
      rw [writeTabs, writeTabs]
      split
      · exact rest_crlf
      · rw [openTab_crlf names.1, writeAll_crlf labels.1 commutes.1, Written.closed_inCrlf,
          rest_crlf, inCrlf_append, inCrlf_append]

theorem hereditary_commutesWithBreaks : Hereditary CommutesWithBreaks where
  run piece _ := piece.write_crlf
  sequence children ih labels atLineStart := by
    exact writeAll_crlf (allStringsIn_iff.mp labels) ih atLineStart
  container kind header body header_ih body_ih labels atLineStart := by
    have ⟨header_labels, body_labels⟩ := labels
    have header_crlf := writeHeader_crlf (allStringsInHeader_iff.mp header_labels) header_ih
    have blank_unbroken : Unbroken " " := by decide
    rw [write, write]
    split
    · rfl
    · -- The depth is read from the written body, where it does not depend on the separator.
      simp only [Written.inCrlf_mk, inCrlf_append, inCrlf_break, body_ih body_labels true,
        Written.closed_inCrlf, Written.text_inCrlf, Depth.around_inCrlf, header_crlf,
        freshLine_crlf, (Depth.unbroken_marker _).inCrlf_eq, (Depth.unbroken_fence _).inCrlf_eq,
        kind.unbroken_word.inCrlf_eq, blank_unbroken.inCrlf_eq]
  wrapper frame ih := ih
  anchored anchor body ih labels atLineStart := by
    have ⟨anchor_unbroken, body_labels⟩ := labels
    have open_unbroken : Unbroken "<section id=\"" := by decide
    have quote_unbroken : Unbroken "\">" := by decide
    have end_unbroken : Unbroken "</section>" := by decide
    rw [write, write]
    split
    · rfl
    · simp only [Written.inCrlf_mk, inCrlf_append, inCrlf_break, ih body_labels true,
        Written.closed_inCrlf, freshLine_crlf, open_unbroken.inCrlf_eq, quote_unbroken.inCrlf_eq,
        end_unbroken.inCrlf_eq, (Unbroken.escape anchor_unbroken).inCrlf_eq]
  table plain ih labels atLineStart := by
    obtain ⟨style, caption, _ | ⟨headers, rows⟩⟩ := plain
    · rfl
    · have ⟨caption_unbroken, headers_unbroken, _⟩ := labels
      have table_crlf := style.writeTable_crlf headers_unbroken (unbroken_rowTexts style rows)
      rw [write.eq_def, write.eq_def]
      dsimp only
      split
      · rfl
      · cases caption with
        | none =>
            rw [Written.inCrlf_mk, inCrlf_append, inCrlf_append, ← table_crlf, freshLine_crlf]
            rfl
        | some caption =>
            dsimp only
            rw [Written.inCrlf_mk, inCrlf_append, inCrlf_append, ← table_crlf, freshLine_crlf,
              tableLabel_crlf (caption_unbroken caption rfl)]
  tabs group ih labels atLineStart := by
    obtain ⟨key, named⟩ := group
    have ⟨key_unbroken, tab_labels⟩ := labels
    have ⟨names_unbroken, children_labels⟩ := allStringsInTabs_iff.mp tab_labels
    have tabs_crlf := writeTabs_crlf names_unbroken children_labels ih
    rw [write, write]
    split
    · rfl
    · simp only [Written.inCrlf_mk, inCrlf_append, freshLine_crlf, openTabs_crlf key_unbroken,
        tabs_crlf, closeTabs_crlf]
  tabbed spread ih labels atLineStart := by
    obtain ⟨style, label, key, forced, selections, _ | ⟨headers, rows⟩⟩ := spread
    · rfl
    · have ⟨label_unbroken, key_unbroken, tabs_unbroken, headers_unbroken, _⟩ := labels
      have tables_crlf := TabbedTable.writeTables_crlf
        ⟨style, label, key, forced, selections, none⟩ label_unbroken key_unbroken tabs_unbroken
        headers_unbroken (unbroken_rowTexts style rows)
      rw [write.eq_def, write.eq_def]
      dsimp only
      split
      · rfl
      · rw [Written.inCrlf_mk, inCrlf_append, freshLine_crlf, tables_crlf]

/-- The depths of containers do not depend on the separator, so they overflow with both or with
neither. -/
theorem hereditary_fits_crlf : Hereditary fun content =>
    content.UnbrokenLabels → (content.fits "\r\n" = true ↔ content.fits "\n" = true) where
  run piece _ := Iff.rfl
  sequence children ih labels := by
    rw [fits_sequence_iff, fits_sequence_iff]
    have child_labels := allStringsIn_iff.mp labels
    exact forall₂_congr fun child child_mem => ih child child_mem (child_labels child child_mem)
  container kind header body header_ih body_ih labels := by
    have ⟨header_labels, body_labels⟩ := labels
    by_cases body_empty : body.isEmpty = true
    · have container_empty : (Content.container kind header body).isEmpty = true := body_empty
      simp only [fits_of_isEmpty container_empty]
    · have body_written : body.isEmpty = false := Bool.eq_false_iff.mpr body_empty
      have body_crlf := hereditary_commutesWithBreaks.forall_content body body_labels true
      have header_iff : (∀ content ∈ header, content.fits "\r\n" = true) ↔
          ∀ content ∈ header, content.fits "\n" = true :=
        forall₂_congr fun content content_mem =>
          header_ih content content_mem (allStringsInHeader_iff.mp header_labels content content_mem)
      rw [fits_container_iff body_written, fits_container_iff body_written, body_crlf,
        Written.text_inCrlf, Depth.around_inCrlf, header_iff, body_ih body_labels]
  wrapper frame ih := ih
  anchored anchor body ih labels := ih labels.2
  table plain ih labels := by
    obtain ⟨style, caption, _ | ⟨headers, rows⟩⟩ := plain
    · exact Iff.rfl
    · rw [fits_table_iff, fits_table_iff]
  tabs group ih labels := by
    obtain ⟨key, named⟩ := group
    have ⟨_, tab_labels⟩ := labels
    have child_labels := (allStringsInTabs_iff.mp tab_labels).2
    rw [fits_tabs_iff, fits_tabs_iff]
    exact forall₂_congr fun tab tab_mem => forall₂_congr fun child child_mem =>
      ih tab tab_mem child child_mem (child_labels tab tab_mem child child_mem)
  tabbed spread ih labels := by
    obtain ⟨style, label, key, forced, selections, _ | ⟨headers, rows⟩⟩ := spread
    · exact Iff.rfl
    · rw [fits_tabbed_iff, fits_tabbed_iff]

theorem fits_crlf {content : Content} (labels : content.UnbrokenLabels) :
    content.fits "\r\n" = content.fits "\n" :=
  Bool.eq_iff_iff.mpr (hereditary_fits_crlf.forall_content content labels)

theorem write_crlf {content : Content} (labels : content.UnbrokenLabels) (atLineStart : Bool) :
    content.write "\r\n" atLineStart = (content.write "\n" atLineStart).inCrlf :=
  hereditary_commutesWithBreaks.forall_content content labels atLineStart

theorem render?_crlf {content : Content} (labels : content.UnbrokenLabels) :
    content.render? "\r\n" = (content.render? "\n").map inCrlf := by
  rw [render?, render?, fits_crlf labels, render, render, write_crlf labels]
  split <;> rfl

end Content
end RefDocs
