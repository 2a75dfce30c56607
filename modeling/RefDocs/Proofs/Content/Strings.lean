import RefDocs.Content.Wrapper

/-!
# Strings in content

A tree stores runs of text, and labels: the names and keys of tabs, the headers and captions of
tables, and the anchors of sections.
-/

namespace RefDocs
namespace Content

mutual

/-- Every run of a tree satisfies the first predicate, and every label the second. -/
def AllStrings (run : Run → Prop) (label : String → Prop) : Content → Prop
  | .run piece => run piece
  | .sequence children => AllStringsIn run label children
  | .container _ header body => AllStringsInHeader run label header ∧ body.AllStrings run label
  | .wrapper frame => frame.AllStrings run label
  | .anchored anchor body => label anchor ∧ body.AllStrings run label
  | .table ⟨_, caption, some ⟨headers, rows⟩⟩ =>
    (∀ text ∈ caption, label text) ∧ (∀ text ∈ headers, label text)
      ∧ AllStringsInRows run label rows
  | .table ⟨_, caption, none⟩ => ∀ text ∈ caption, label text
  | .tabs ⟨key, named⟩ => (∀ text ∈ key, label text) ∧ AllStringsInTabs run label named
  | .tabbed ⟨_, defaultLabel, key, _, selections, some ⟨headers, rows⟩⟩ =>
    label defaultLabel ∧ (∀ text ∈ key, label text) ∧ (∀ tab ∈ selections, label tab.1)
      ∧ (∀ text ∈ headers, label text) ∧ AllStringsInRows run label rows
  | .tabbed ⟨_, defaultLabel, key, _, selections, none⟩ =>
    label defaultLabel ∧ (∀ text ∈ key, label text) ∧ ∀ tab ∈ selections, label tab.1
termination_by structural content => content

/-- The strings of a header satisfy the predicates. -/
def AllStringsInHeader (run : Run → Prop) (label : String → Prop) : Option Content → Prop
  | some header => header.AllStrings run label
  | none => True
termination_by structural header => header

/-- The strings of the nodes of a list satisfy the predicates. -/
def AllStringsIn (run : Run → Prop) (label : String → Prop) : List Content → Prop
  | [] => True
  | child :: rest => child.AllStrings run label ∧ AllStringsIn run label rest
termination_by structural children => children

/-- The strings of the tabs of a list satisfy the predicates. -/
def AllStringsInTabs (run : Run → Prop) (label : String → Prop) :
    List (String × List Content) → Prop
  | [] => True
  | (name, children) :: rest =>
    label name ∧ AllStringsIn run label children ∧ AllStringsInTabs run label rest
termination_by structural named => named

/-- The strings of the cells of a list of rows satisfy the predicates. -/
def AllStringsInRows (run : Run → Prop) (label : String → Prop) : List (List Content) → Prop
  | [] => True
  | row :: rest => AllStringsIn run label row ∧ AllStringsInRows run label rest
termination_by structural rows => rows

end

/-- Every label of a tree satisfies a predicate. -/
def AllLabels (label : String → Prop) (content : Content) : Prop :=
  content.AllStrings (fun _ => True) label

variable {run : Run → Prop} {label : String → Prop}

theorem allStringsIn_iff {children : List Content} :
    AllStringsIn run label children ↔ ∀ child ∈ children, child.AllStrings run label := by
  induction children with
  | nil => simp [AllStringsIn]
  | cons child rest ih => simp [AllStringsIn, ih]

theorem allStringsInHeader_iff {header : Option Content} :
    AllStringsInHeader run label header ↔ ∀ content ∈ header, content.AllStrings run label := by
  cases header with
  | none => simp [AllStringsInHeader]
  | some content => simp [AllStringsInHeader]

theorem allStringsInTabs_iff {named : List (String × List Content)} :
    AllStringsInTabs run label named ↔
      (∀ tab ∈ named, label tab.1) ∧
        ∀ tab ∈ named, ∀ child ∈ tab.2, child.AllStrings run label := by
  induction named with
  | nil => simp [AllStringsInTabs]
  | cons tab rest ih =>
      simp only [AllStringsInTabs, allStringsIn_iff, ih, List.forall_mem_cons]
      exact ⟨fun ⟨name, children, names, all⟩ => ⟨⟨name, names⟩, children, all⟩,
        fun ⟨⟨name, names⟩, children, all⟩ => ⟨name, children, names, all⟩⟩

theorem allStringsInRows_iff {rows : List (List Content)} :
    AllStringsInRows run label rows ↔
      ∀ row ∈ rows, ∀ cell ∈ row, cell.AllStrings run label := by
  induction rows with
  | nil => simp [AllStringsInRows]
  | cons row rest ih => simp [AllStringsInRows, allStringsIn_iff, ih]

theorem allStringsIn_append_singleton {child : Content} {children : List Content}
    (child_all : child.AllStrings run label) (children_all : AllStringsIn run label children) :
    AllStringsIn run label (children ++ [child]) := by
  have each := allStringsIn_iff.mp children_all
  refine allStringsIn_iff.mpr ?_
  simpa [or_imp, forall_and] using ⟨each, child_all⟩

theorem allStringsInTabs_appendToLast? {child : Content}
    {named longer : List (String × List Content)}
    (child_all : child.AllStrings run label) (named_all : AllStringsInTabs run label named)
    (appended : TabGroup.appendToLast? child named = some longer) :
    AllStringsInTabs run label longer := by
  induction named generalizing longer with
  | nil => simp [TabGroup.appendToLast?] at appended
  | cons tab rest ih =>
      obtain ⟨name, children⟩ := tab
      obtain ⟨name_holds, children_all, rest_all⟩ := named_all
      cases rest with
      | nil =>
          obtain rfl := Option.some.inj appended
          exact ⟨name_holds, allStringsIn_append_singleton child_all children_all, rest_all⟩
      | cons next others =>
          rw [TabGroup.appendToLast?, Option.map_eq_some_iff] at appended
          · obtain ⟨others_longer, others_eq, rfl⟩ := appended
            exact ⟨name_holds, children_all, ih rest_all others_eq⟩
          · simp

/-- A node keeps what its strings satisfy when a child is appended whose strings satisfy it. -/
theorem AllStrings.append? {child content extended : Content}
    (child_all : child.AllStrings run label) (content_all : content.AllStrings run label)
    (appended : Content.append? child content = some extended) :
    extended.AllStrings run label := by
  induction content using Content.hasSlot.induct generalizing extended with
  | case1 => simp [Content.append?] at appended
  | case2 => simp [Content.append?] at appended
  | case3 => simp [Content.append?] at appended
  | case4 children =>
      simp only [Content.append?, Option.some.injEq] at appended
      subst appended
      exact allStringsIn_append_singleton child_all content_all
  | case5 kind header body ih =>
      simp only [Content.append?, Option.map_eq_some_iff] at appended
      obtain ⟨inner, inner_appended, rfl⟩ := appended
      exact ⟨content_all.1, ih content_all.2 inner_appended⟩
  | case6 frame ih =>
      simp only [Content.append?, Option.map_eq_some_iff] at appended
      obtain ⟨inner, inner_appended, rfl⟩ := appended
      have inner_all := ih content_all inner_appended
      exact inner_all
  | case7 anchor body ih =>
      simp only [Content.append?, Option.map_eq_some_iff] at appended
      obtain ⟨inner, inner_appended, rfl⟩ := appended
      exact ⟨content_all.1, ih content_all.2 inner_appended⟩
  | case8 group =>
      obtain ⟨key, named⟩ := group
      simp only [Content.append?, Option.map_eq_some_iff] at appended
      obtain ⟨longer, longer_eq, rfl⟩ := appended
      exact ⟨content_all.1, allStringsInTabs_appendToLast? child_all content_all.2 longer_eq⟩

end Content

theorem Wrapper.allStrings_add {run : Run → Prop} {label : String → Prop} {child : Content}
    {wrapper : Wrapper} (child_all : child.AllStrings run label)
    (wrapper_all : wrapper.frame.AllStrings run label) :
    (wrapper.add child).frame.AllStrings run label := by
  rw [add]
  split
  · rename_i frame appended
    exact child_all.append? wrapper_all appended
  · exact wrapper_all

end RefDocs
