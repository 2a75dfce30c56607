import Mathlib.Data.List.Induction
import Mathlib.Data.List.Nodup
import RefDocs.Proofs.Content.Containers
import RefDocs.Proofs.Content.Placement

/-!
# Groups of named tabs

A group that is filled by calls has a tab for each name, in order of first use, and each tab has the
contents that were added under its name, in order.  Only what is not empty is shown, and each content
starts on a fresh line.
-/

namespace RefDocs
namespace TabGroup

section Calls

variable {Cell : Type}

/-- The group that calls make of a new one; each adds a content under a name. -/
def filled (key : Option String) (calls : List (String × Cell)) : TabGroup Cell :=
  calls.foldl (fun group call => group.addTab call.1 call.2) ⟨key, []⟩

/-- The names that calls use, in order of first use. -/
def firstUses (calls : List (String × Cell)) : List String :=
  (calls.map Prod.fst).eraseDups

/-- The contents that calls add under a name, in order. -/
def contentsOf (calls : List (String × Cell)) (name : String) : List Cell :=
  (calls.filter fun call => call.1 = name).map Prod.snd

theorem mem_firstUses {calls : List (String × Cell)} {name : String} :
    name ∈ firstUses calls ↔ name ∈ calls.map Prod.fst := by
  rw [firstUses, List.mem_eraseDups]

theorem firstUses_append_singleton (calls : List (String × Cell)) (call : String × Cell) :
    firstUses (calls ++ [call]) =
      if call.1 ∈ firstUses calls then firstUses calls else firstUses calls ++ [call.1] := by
  simp only [mem_firstUses]
  rw [firstUses, List.map_append, List.eraseDups_append, List.map_singleton, List.removeAll]
  split
  · rename_i used
    rw [List.filter_cons_of_neg (by simpa using used), List.filter_nil, List.eraseDups_nil,
      List.append_nil]
    rfl
  · rename_i unused
    rw [List.filter_cons_of_pos (by simpa using unused), List.filter_nil]
    rfl

theorem nodup_firstUses (calls : List (String × Cell)) : (firstUses calls).Nodup := by
  induction calls using List.reverseRecOn with
  | nil => exact List.nodup_nil
  | append_singleton calls call ih =>
      rw [firstUses_append_singleton]
      split
      · exact ih
      · rename_i unused
        rw [← List.concat_eq_append]
        exact List.Nodup.concat unused ih

theorem contentsOf_append_singleton (calls : List (String × Cell)) (call : String × Cell)
    (name : String) :
    contentsOf (calls ++ [call]) name =
      if call.1 = name then contentsOf calls name ++ [call.2] else contentsOf calls name := by
  rw [contentsOf, List.filter_append, List.map_append]
  split
  · rename_i name_eq
    rw [List.filter_cons_of_pos (by simpa using name_eq)]
    rfl
  · rename_i name_ne
    rw [List.filter_cons_of_neg (by simpa using name_ne), List.filter_nil, List.map_nil,
      List.append_nil]
    rfl

theorem contentsOf_eq_nil {calls : List (String × Cell)} {name : String}
    (unused : name ∉ firstUses calls) : contentsOf calls name = [] := by
  rw [mem_firstUses] at unused
  rw [contentsOf, List.map_eq_nil_iff, List.filter_eq_nil_iff]
  intro call call_mem name_eq
  exact unused (List.mem_map.mpr ⟨call, call_mem, by simpa using name_eq⟩)

/-! ## One call -/

theorem addTo_of_not_mem {name : String} {tabs : List (String × List Cell)}
    (unused : name ∉ tabs.map Prod.fst) (content : Cell) :
    addTo name content tabs = tabs ++ [(name, [content])] := by
  induction tabs with
  | nil => rfl
  | cons tab rest ih =>
      rw [List.map_cons, List.mem_cons, not_or] at unused
      rw [addTo, if_neg (Ne.symm unused.1), ih unused.2, List.cons_append]

theorem addTo_of_mem {name : String} {tabs : List (String × List Cell)}
    (distinct : (tabs.map Prod.fst).Nodup) (used : name ∈ tabs.map Prod.fst) (content : Cell) :
    addTo name content tabs =
      tabs.map fun tab => if tab.1 = name then (tab.1, tab.2 ++ [content]) else tab := by
  induction tabs with
  | nil => exact absurd used List.not_mem_nil
  | cons tab rest ih =>
      rw [List.map_cons, List.nodup_cons] at distinct
      rw [addTo, List.map_cons]
      by_cases name_eq : tab.1 = name
      · have rest_same : (rest.map fun other =>
            if other.1 = name then (other.1, other.2 ++ [content]) else other) = rest := by
          refine (List.map_congr_left fun other other_mem => ?_).trans (List.map_id rest)
          refine if_neg ?_
          intro other_eq
          exact distinct.1 (List.mem_map.mpr ⟨other, other_mem, other_eq.trans name_eq.symm⟩)
        rw [if_pos name_eq, if_pos name_eq, rest_same]
      · have used_rest : name ∈ rest.map Prod.fst :=
          (List.mem_cons.mp used).resolve_left (Ne.symm name_eq)
        rw [if_neg name_eq, if_neg name_eq, ih distinct.2 used_rest]

/-- The tabs that calls make. -/
def tabsOf (calls : List (String × Cell)) : List (String × List Cell) :=
  (firstUses calls).map fun name => (name, contentsOf calls name)

theorem names_tabsOf (calls : List (String × Cell)) :
    (tabsOf calls).map Prod.fst = firstUses calls := by
  simp [tabsOf, Function.comp_def]

theorem addTo_tabsOf (calls : List (String × Cell)) (call : String × Cell) :
    addTo call.1 call.2 (tabsOf calls) = tabsOf (calls ++ [call]) := by
  by_cases used : call.1 ∈ firstUses calls
  · rw [addTo_of_mem (by rw [names_tabsOf]; exact nodup_firstUses calls)
      (by rw [names_tabsOf]; exact used), tabsOf, tabsOf, firstUses_append_singleton, if_pos used,
      List.map_map]
    refine List.map_congr_left ?_
    intro name _
    rw [Function.comp_apply, contentsOf_append_singleton]
    simp only [eq_comm (a := call.1)]
    split <;> rfl
  · rw [addTo_of_not_mem (by rw [names_tabsOf]; exact used), tabsOf, tabsOf,
      firstUses_append_singleton, if_neg used, List.map_append, List.map_singleton,
      contentsOf_append_singleton, if_pos rfl, contentsOf_eq_nil used, List.nil_append]
    refine congrArg (· ++ [(call.1, [call.2])]) (List.map_congr_left ?_)
    intro name name_mem
    have name_ne : call.1 ≠ name := (ne_of_mem_of_not_mem name_mem used).symm
    rw [contentsOf_append_singleton, if_neg name_ne]

/-! ## A run of calls -/

theorem filled_eq (key : Option String) (calls : List (String × Cell)) :
    filled key calls = ⟨key, tabsOf calls⟩ := by
  induction calls using List.reverseRecOn with
  | nil => rfl
  | append_singleton calls call ih =>
      rw [filled, List.foldl_append, ← filled, ih, List.foldl_cons, List.foldl_nil, addTab,
        addTo_tabsOf]

end Calls

section Written

/-- The tabs with a content that is not empty, each with its contents that are not empty. -/
def shown (tabs : List (String × List Content)) : List (String × List Content) :=
  (tabs.map fun tab => (tab.1, tab.2.filter fun content => !content.isEmpty)).filter
    fun tab => !tab.2.isEmpty

/-- The text of a tab: the line that opens it, and its contents, each closed. -/
def tabText (newline : String) (tab : String × List Content) : String :=
  openTab newline tab.1 ++
    String.join (tab.2.map fun content => (content.write newline true).closed newline)

theorem allEmpty_iff_filter_eq_nil {contents : List Content} :
    Content.allEmpty contents = true ↔
      (contents.filter fun content => !content.isEmpty) = [] := by
  rw [Content.allEmpty_iff, List.filter_eq_nil_iff]
  simp

theorem writeAll_eq_join (newline : String) (contents : List Content) :
    Content.writeAll newline contents true =
      ⟨String.join ((contents.filter fun content => !content.isEmpty).map
        fun content => (content.write newline true).closed newline), true⟩ := by
  induction contents with
  | nil => rfl
  | cons content rest ih =>
      rw [Content.writeAll]
      cases content_empty : content.isEmpty with
      | true =>
          rw [if_pos rfl, ih, List.filter_cons_of_neg (by simp [content_empty])]
      | false =>
          rw [if_neg (by simp), ih, List.filter_cons_of_pos (by simp [content_empty]),
            List.map_cons, String.join_cons]

theorem shown_cons (tab : String × List Content) (rest : List (String × List Content)) :
    shown (tab :: rest) =
      if Content.allEmpty tab.2 = true then shown rest
      else (tab.1, tab.2.filter fun content => !content.isEmpty) :: shown rest := by
  rw [shown, List.map_cons, List.filter_cons, shown]
  simp only [allEmpty_iff_filter_eq_nil, Bool.not_eq_true', List.isEmpty_eq_false_iff, ne_eq,
    ite_not]

theorem writeTabs_eq_join (newline : String) (tabs : List (String × List Content)) :
    Content.writeTabs newline tabs = String.join ((shown tabs).map (tabText newline)) := by
  induction tabs with
  | nil => rfl
  | cons tab rest ih =>
      rw [Content.writeTabs, shown_cons]
      split
      · exact ih
      · rw [ih, List.map_cons, String.join_cons, tabText, writeAll_eq_join]
        rfl

theorem allTabsEmpty_iff_shown_eq_nil {tabs : List (String × List Content)} :
    Content.allTabsEmpty tabs = true ↔ shown tabs = [] := by
  induction tabs with
  | nil => exact iff_of_true rfl rfl
  | cons tab rest ih =>
      rw [Content.allTabsEmpty, Bool.and_eq_true, ih, shown_cons]
      split
      · rename_i tab_empty
        exact and_iff_right tab_empty
      · rename_i tab_shows
        exact iff_of_false (fun both => tab_shows both.1) (List.cons_ne_nil _ _)

/-- A group is written as the texts of the tabs that show something, if there are any. -/
theorem write_eq_tabTexts (newline : String) (group : TabGroup Content) (atLineStart : Bool) :
    (Content.tabs group).write newline atLineStart =
      if shown group.tabs = [] then ⟨"", atLineStart⟩
      else
        ⟨freshLine newline atLineStart ++ openTabs newline group.key ++
          String.join ((shown group.tabs).map (tabText newline)) ++ closeTabs newline, true⟩ := by
  obtain ⟨key, tabs⟩ := group
  rw [Content.write, writeTabs_eq_join]
  simp only [allTabsEmpty_iff_shown_eq_nil]

/-- What stands in front of a content in its tab ends a line. -/
theorem exists_tabText_eq (separator : LineSeparator) {tab : String × List Content}
    (shows : ∀ content ∈ tab.2, content.isEmpty = false) {front back : List Content}
    {content : Content} (contents_eq : tab.2 = front ++ content :: back) :
    ∃ before rest, tabText separator.text tab =
        before ++ (content.write separator.text true).text ++ rest ∧
      EndsLine separator.text before := by
  refine ⟨tabText separator.text (tab.1, front), ?_⟩
  have front_ends : EndsLine separator.text (tabText separator.text (tab.1, front)) := by
    refine EndsLine.append_join (EndsLine.append_newline _) ?_
    intro line line_mem
    obtain ⟨earlier, earlier_mem, rfl⟩ := List.mem_map.mp line_mem
    have earlier_shows : earlier.isEmpty = false :=
      shows earlier (contents_eq ▸ List.mem_append_left _ earlier_mem)
    have tracks := Content.write_tracks separator earlier true
    rw [earlier_shows] at tracks
    exact tracks.endsLine_closed
  obtain ⟨closing, closed_eq⟩ :=
    Content.exists_closed_eq separator.text (content.write separator.text true)
  refine ⟨closing ++ String.join (back.map fun later =>
    (later.write separator.text true).closed separator.text), ?_, front_ends⟩
  rw [tabText, contents_eq, List.map_append, List.map_cons, String.join_append, String.join_cons,
    closed_eq, tabText]
  simp only [String.append_assoc]

theorem tabsOf_congr {calls others : List (String × Content)}
    (uses_eq : firstUses calls = firstUses others)
    (contents_eq : ∀ name, contentsOf calls name = contentsOf others name) :
    tabsOf calls = tabsOf others := by
  rw [tabsOf, tabsOf, uses_eq]
  exact List.map_congr_left fun name _ => by rw [contents_eq]

/-- A group that calls fill has one tab for each name, in order of first use, with the contents added
under the name, in order.  It is written as the tabs with a content that is not empty, with these
contents, each on a fresh line.  So calls that use the same names first, in the same order, and add
the same contents under each name write the same. -/
theorem filled_tabs_and_write_eq (key : Option String) (calls : List (String × Content)) :
    ((filled key calls).tabs.map Prod.fst).Nodup ∧
      (filled key calls).tabs =
        (firstUses calls).map (fun name => (name, contentsOf calls name)) ∧
      (∀ newline atLineStart, (Content.tabs (filled key calls)).write newline atLineStart =
        if shown (filled key calls).tabs = [] then ⟨"", atLineStart⟩
        else
          ⟨freshLine newline atLineStart ++ openTabs newline key ++
            String.join ((shown (filled key calls).tabs).map (tabText newline)) ++
            closeTabs newline, true⟩) ∧
      (∀ separator : LineSeparator, ∀ tab ∈ shown (filled key calls).tabs,
        ∀ front content back, tab.2 = front ++ content :: back →
          ∃ before rest, tabText separator.text tab =
              before ++ (content.write separator.text true).text ++ rest ∧
            EndsLine separator.text before) ∧
      ∀ others, firstUses calls = firstUses others →
        (∀ name, contentsOf calls name = contentsOf others name) →
        ∀ newline atLineStart, (Content.tabs (filled key calls)).write newline atLineStart =
          (Content.tabs (filled key others)).write newline atLineStart := by
  refine ⟨?_, ?_, ?_, ?_, ?_⟩
  · rw [filled_eq, names_tabsOf]
    exact nodup_firstUses calls
  · rw [filled_eq, tabsOf]
  · intro newline atLineStart
    rw [write_eq_tabTexts, filled_eq]
  · intro separator tab tab_mem front content back contents_eq
    have shows : ∀ other ∈ tab.2, other.isEmpty = false := by
      obtain ⟨stored, -, rfl⟩ := List.mem_map.mp (List.mem_of_mem_filter tab_mem)
      intro other other_mem
      simpa using (List.mem_filter.mp other_mem).2
    exact exists_tabText_eq separator shows contents_eq
  · intro others uses_eq contents_eq newline atLineStart
    rw [filled_eq, filled_eq, tabsOf_congr uses_eq contents_eq]

/-- Calls whose names alternate, one of which adds only what is empty. -/
def languageCalls : List (String × Content) :=
  [("Java", .text "a"), ("None", .empty), ("Kotlin", .text "b\n"), ("Java", .empty),
    ("Java", .text "c")]

theorem write_languageCalls :
    firstUses languageCalls = firstUses [("Java", .text "a"), ("Java", .empty), ("None", .empty),
        ("Java", .text "c"), ("Kotlin", Content.text "b\n")] ∧
      (Content.tabs (filled none [("Java", .text "a"), ("Java", .empty), ("None", .empty),
        ("Java", .text "c"), ("Kotlin", .text "b\n")])).write "\n" true =
        ⟨":::tabs\n== Java\na\nc\n== Kotlin\nb\n:::\n", true⟩ := by
  have uses_eq : firstUses languageCalls = firstUses [("Java", .text "a"), ("Java", .empty),
      ("None", .empty), ("Java", .text "c"), ("Kotlin", Content.text "b\n")] := by decide
  have contents_eq : ∀ name, contentsOf languageCalls name = contentsOf [("Java", .text "a"),
      ("Java", .empty), ("None", .empty), ("Java", .text "c"), ("Kotlin", Content.text "b\n")]
      name := by
    intro name
    simp only [languageCalls, contentsOf, List.filter_cons, List.filter_nil, decide_eq_true_eq]
    by_cases java : "Java" = name
    · simp [← java]
    · by_cases kotlin : "Kotlin" = name
      · simp [← kotlin]
      · simp [java, kotlin]
  obtain ⟨-, -, written, -, same⟩ := filled_tabs_and_write_eq none languageCalls
  refine ⟨uses_eq, ?_⟩
  rw [← same _ uses_eq contents_eq]
  decide +kernel

end Written

end TabGroup
end RefDocs
