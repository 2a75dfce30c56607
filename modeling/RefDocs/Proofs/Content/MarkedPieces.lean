import RefDocs.Proofs.Content.Cursor
import RefDocs.Proofs.Content.Markers
import RefDocs.Proofs.Content.TableLines
import RefDocs.Proofs.Content.Tabs
import RefDocs.Proofs.Text.CharacterReferences

/-!
# Markers in pieces of written text

A line separator cuts off what stands in front of it, so the markers of written lines are those of
each line.  Labels without the start of a comment add none to the markers of what they stand with,
and a table has the markers of its cells.
-/

namespace RefDocs

open Depth (Carries markersIn)

/-- A text without the start of a comment. -/
def CommentFree (text : String) : Prop :=
  Text.contains "<!--" text = false

namespace Depth

theorem readMarker?_eq_none_of_not_prefix {chars : List Char}
    (not_start : ("<!--".toList.isPrefixOf chars) = false) : readMarker? chars = none := by
  have no_marker : ¬markerStart.toList.isPrefixOf chars = true := by
    intro starts
    obtain ⟨rest, rfl⟩ := List.isPrefixOf_iff_prefix.mp starts
    cases not_start
  rw [readMarker?, if_neg no_marker]

/-- A text without the start of a comment is taken for no marker. -/
theorem markersIn_eq_nil {text : String} (free : CommentFree text) : markersIn text = [] := by
  rw [CommentFree, Text.contains] at free
  rw [markersIn]
  generalize text.toList = chars at free
  induction chars with
  | nil => rfl
  | cons char rest ih =>
      rw [Text.contains.go, Bool.or_eq_false_iff] at free
      rw [markers_cons, readMarker?_eq_none_of_not_prefix free.1, ih free.2]
      rfl

theorem Carries.markersIn_append {left : String} {depths : List Nat} (carries : Carries left depths)
    (right : String) : markersIn (left ++ right) = depths ++ markersIn right := by
  rw [markersIn, String.toList_append, carries, markersIn]

/-! ## Line separators and closed texts -/

section Separator

variable (separator : LineSeparator)

theorem carries_separator : Carries separator.text [] := by
  cases separator with
  | lf => exact .of_not_mem (by decide)
  | crlf => exact .of_not_mem (by decide)

theorem carries_append_separator (text : String) :
    Carries (text ++ separator.text) (markersIn text) := by
  cases separator with
  | lf => exact .close (carries_separator .lf) rfl (by decide) text
  | crlf => exact .close (carries_separator .crlf) rfl (by decide) text

theorem carries_of_endsLine {text : String} (ends : EndsLine separator.text text) :
    Carries text (markersIn text) := by
  obtain ⟨front, text_eq⟩ := ends
  have cut_eq : text = String.ofList front ++ separator.text := by
    rw [← String.toList_inj, String.toList_append, String.toList_ofList, text_eq]
  have carries := carries_append_separator separator (String.ofList front)
  rw [cut_eq, carries.markersIn_eq]
  exact carries

theorem markersIn_replaceChar_separator (text : String) :
    markersIn (Text.replaceChar '\n' separator.text text) = markersIn text := by
  cases separator with
  | lf => exact congrArg markersIn (Text.replaceChar_self '\n' text)
  | crlf => exact markersIn_inCrlf text

theorem carries_freshLine (atLineStart : Bool) :
    Carries (freshLine separator.text atLineStart) [] := by
  cases atLineStart with
  | true => exact .empty
  | false => exact carries_separator separator

/-- What is written for a node can be followed by anything, once it is closed. -/
theorem carries_closed (content : Content) (atLineStart : Bool) :
    Carries ((content.write separator.text atLineStart).closed separator.text)
      (markersIn (content.write separator.text atLineStart).text) := by
  have tracks := Content.write_tracks separator content atLineStart
  rw [Written.closed]
  split
  · rename_i at_start
    cases content_empty : content.isEmpty with
    | true =>
        rw [tracks.nothing content_empty]
        exact .empty
    | false => exact carries_of_endsLine separator ((tracks.cursor content_empty).mp at_start)
  · exact carries_append_separator separator _

end Separator

theorem carries_escape (text : String) : Carries (Text.escape text) [] :=
  .of_not_mem (Text.isEscaped_escape text).no_opening

theorem Carries.replicate {text : String} (carries : Carries text []) (count : Nat) :
    Carries (Text.replicate count text) [] := by
  rw [Text.replicate]
  induction count with
  | zero => exact .empty
  | succ count ih =>
      rw [List.replicate_succ, String.join_cons]
      exact carries.append ih

theorem carries_fence (depth : Nat) : Carries (fence depth) [] := by
  have pair_carries : Carries "::" [] := .of_not_mem (by decide)
  exact .append (.of_not_mem (by decide)) (pair_carries.replicate depth)

theorem carries_word (kind : ContainerKind) : Carries kind.word [] := by
  cases kind <;> exact .of_not_mem (by decide)

end Depth

open Depth (carries_separator carries_append_separator carries_freshLine carries_escape)

theorem tableLabel_carries (separator : LineSeparator) (label : String) :
    Carries (tableLabel separator.text label) [] := by
  have stars_carry : Carries "**" [] := .of_not_mem (by decide)
  exact (((stars_carry.append (carries_escape label)).append stars_carry).append
    (carries_separator separator)).append (carries_separator separator)

theorem caption_carries (separator : LineSeparator) (caption : Option String) :
    Carries (match caption with
      | some caption => tableLabel separator.text caption
      | none => "") [] := by
  cases caption with
  | none => exact .empty
  | some caption => exact tableLabel_carries separator caption

theorem openTab_carries (separator : LineSeparator) {label : String} (free : CommentFree label) :
    Carries (openTab separator.text label) [] := by
  have label_carries := carries_append_separator separator label
  rw [Depth.markersIn_eq_nil free] at label_carries
  rw [openTab, String.append_assoc]
  exact .append (.of_not_mem (by decide)) label_carries

theorem closeTabs_carries (separator : LineSeparator) : Carries (closeTabs separator.text) [] :=
  .append (.of_not_mem (by decide)) (carries_separator separator)

theorem openTabs_carries (separator : LineSeparator) {key : Option String}
    (free : ∀ text ∈ key, CommentFree text) : Carries (openTabs separator.text key) [] := by
  have tabs_carry : Carries ":::tabs" [] := .of_not_mem (by decide)
  cases key with
  | none => exact (tabs_carry.append .empty).append (carries_separator separator)
  | some key =>
      have key_carries := carries_append_separator separator key
      rw [Depth.markersIn_eq_nil (free key rfl)] at key_carries
      rw [openTabs, String.append_assoc, String.append_assoc]
      exact tabs_carry.append (.append (.of_not_mem (by decide)) key_carries)

namespace TableStyle

variable (style : TableStyle) (separator : LineSeparator)

theorem headLines_carries {headers : List String} (free : ∀ header ∈ headers, CommentFree header) :
    Carries (style.headLines separator.text headers) [] := by
  have break_carries := carries_separator separator
  unfold headLines
  cases style with
  | html =>
      have table_carries : Carries "<table>" [] := fun _ => rfl
      have headers_carry : Carries (String.join (headers.map fun header =>
          "<th>" ++ Text.escape header ++ "</th>")) [] := by
        refine .join_nil ?_
        intro header _
        have open_carries : Carries "<th>" [] := fun _ => rfl
        exact (open_carries.before (carries_escape header)).before fun _ => rfl
      exact ((((((((((table_carries.before break_carries).before fun _ => rfl).before
        break_carries).before fun _ => rfl).before headers_carry).before fun _ => rfl).before
        break_carries).before fun _ => rfl).before break_carries).before fun _ => rfl).before
        break_carries
  | markdown =>
      have pipe_carries : Carries "|" [] := .of_not_mem (by decide)
      have headers_carry : Carries (String.join (headers.map fun header =>
          Text.replaceChar '|' "\\|" header ++ "|")) [] := by
        refine .join_nil ?_
        intro header header_mem
        have none_in_header : markersIn (Text.replaceChar '|' "\\|" header) = [] := by
          rw [Depth.markersIn_replaceChar (by decide) (by decide) (.of_not_mem (by decide)) rfl
            (by decide), Depth.markersIn_eq_nil (free header header_mem)]
        rw [← none_in_header]
        exact .close pipe_carries rfl (by decide) _
      have rule_carries : Carries (Text.replicate headers.length "---|") [] :=
        .replicate (.of_not_mem (by decide)) headers.length
      exact ((((pipe_carries.before headers_carry).before break_carries).before
        pipe_carries).before rule_carries).before break_carries

theorem rowLine_carries (cells : List String) :
    Carries (style.rowLine separator.text cells) (cells.flatMap markersIn) := by
  have break_carries := carries_separator separator
  unfold rowLine
  cases style with
  | html =>
      have cells_carry : Carries (String.join (cells.map fun cell => "<td>" ++ cell ++ "</td>"))
          (cells.flatMap markersIn) := by
        refine .join ?_
        intro cell _
        have closed_carries : Carries (cell ++ "</td>") (markersIn cell) :=
          .close (fun _ => rfl) rfl (by decide) cell
        rw [String.append_assoc]
        exact .behind (fun _ => rfl) closed_carries
      exact ((Carries.behind (fun _ => rfl) cells_carry).before fun _ => rfl).before break_carries
  | markdown =>
      have pipe_carries : Carries "|" [] := .of_not_mem (by decide)
      have cells_carry : Carries (String.join (cells.map fun cell => cell ++ "|"))
          (cells.flatMap markersIn) :=
        .join fun cell _ => .close pipe_carries rfl (by decide) cell
      exact (pipe_carries.behind cells_carry).before break_carries

theorem footLines_carries : Carries (style.footLines separator.text) [] := by
  have break_carries := carries_separator separator
  cases style with
  | html =>
      have body_end_carries : Carries "  </tbody>" [] := fun _ => rfl
      exact ((body_end_carries.before break_carries).before fun _ => rfl).before break_carries
  | markdown => exact .empty

/-- A table has the markers of its cells. -/
theorem writeTable_carries {headers : List String} (free : ∀ header ∈ headers, CommentFree header)
    (rows : List (List String)) :
    Carries (style.writeTable separator.text headers rows)
      (rows.flatMap fun row => row.flatMap markersIn) := by
  have rows_carry : Carries (String.join (rows.map fun cells =>
      style.rowLine separator.text cells)) (rows.flatMap fun row => row.flatMap markersIn) :=
    .join fun cells _ => style.rowLine_carries separator cells
  rw [writeTable_eq]
  exact ((style.headLines_carries separator free).behind rows_carry).before
    (style.footLines_carries separator)

end TableStyle

/-- The tables of a tabbed table have the markers of the cells in the rows that are shown. -/
theorem TabbedTable.writeTables_carries (table : TabbedTable Content) (separator : LineSeparator)
    {headers : List String} (key_free : ∀ text ∈ table.key, CommentFree text)
    (label_free : CommentFree table.defaultLabel)
    (tabs_free : ∀ tab ∈ table.tabs, CommentFree tab.1)
    (headers_free : ∀ header ∈ headers, CommentFree header) (rows : List (List String)) :
    Carries (table.writeTables separator.text headers rows)
      ((table.shownRows rows).flatMap fun row => row.flatMap markersIn) := by
  have one_carries (tab : String × List (List String)) :
      Carries (table.style.writeTable separator.text headers tab.2)
        (tab.2.flatMap fun row => row.flatMap markersIn) :=
    table.style.writeTable_carries separator headers_free tab.2
  have names_free : ∀ tab ∈ matching table.tabs rows, CommentFree tab.1 := by
    intro tab tab_mem
    obtain ⟨⟨selected, selected_mem⟩, -⟩ := mem_matching tab_mem
    exact tabs_free _ selected_mem
  rw [writeTables, shownRows]
  dsimp only
  split
  · have shown_carry {shown : List (String × List (List String))}
        (shown_free : ∀ tab ∈ shown, CommentFree tab.1) :
        Carries (String.join (shown.map fun tab => openTab separator.text tab.1 ++
          table.style.writeTable separator.text headers tab.2))
          ((shown.flatMap Prod.snd).flatMap fun row => row.flatMap markersIn) := by
      rw [List.flatMap_assoc]
      refine .join ?_
      intro tab tab_mem
      exact (openTab_carries separator (shown_free tab tab_mem)).behind (one_carries tab)
    refine ((openTabs_carries separator key_free).behind (shown_carry ?_)).before
      (closeTabs_carries separator)
    split
    · exact List.forall_mem_cons.mpr ⟨label_free, names_free⟩
    · exact names_free
  · exact (tableLabel_carries separator _).behind (one_carries _)

end RefDocs
