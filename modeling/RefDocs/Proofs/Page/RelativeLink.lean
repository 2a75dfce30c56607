import Mathlib.Data.List.Infix
import Mathlib.Order.Bounds.Basic
import RefDocs.Proofs.Page.Paths
import RefDocs.Proofs.Graph.Building
import RefDocs.Proofs.Settings.Acceptance

/-!
# Relative links

A link between two written pages leaves the directories that they do not share, and then leads to
the path of its target.  It leaves no more directories than those.
-/

namespace RefDocs

/-- The names that a path leads to from a list of directories: each `..` in front of the other
names leaves one directory. -/
def climb? : List String → List String → Option (List String)
  | directories, name :: next :: rest =>
    if name = ".." then
      if directories = [] then none else climb? directories.dropLast (next :: rest)
    else some (directories ++ name :: next :: rest)
  | directories, names => some (directories ++ names)

/-- The path that a link on the page of another path leads to. -/
def resolve? (sourcePath link : String) : Option String :=
  (climb? (Text.split '/' sourcePath).dropLast (Text.split '/' link)).map (Text.join "/")

/-- A link starts with `../` exactly the given number of times. -/
def Climbs (link : String) (count : Nat) : Prop :=
  ∃ rest, link = Text.replicate count "../" ++ rest ∧ ¬"../".toList <+: rest.toList

/-- The length of the longest list that both lists start with. -/
def IsSharedLength (left right : List String) (length : Nat) : Prop :=
  IsGreatest {count | ∃ start, start <+: left ∧ start <+: right ∧ start.length = count} length

theorem climb?_replicate (count : Nat) {directories names : List String}
    (enough : count ≤ directories.length) (names_ne : names ≠ [])
    (stays : ∀ name ∈ names, name ≠ "..") :
    climb? directories (List.replicate count ".." ++ names) =
      some (directories.take (directories.length - count) ++ names) := by
  induction count generalizing directories with
  | zero =>
      obtain ⟨name, rest, rfl⟩ := List.exists_cons_of_ne_nil names_ne
      have name_stays : name ≠ ".." := stays name List.mem_cons_self
      cases rest with
      | nil => simp [climb?]
      | cons next rest => simp [climb?, name_stays]
  | succ count ih =>
      have directories_ne : directories ≠ [] := by
        rintro rfl
        simp at enough
      obtain ⟨next, rest, names_eq⟩ :
          ∃ next rest, List.replicate count ".." ++ names = next :: rest :=
        List.exists_cons_of_ne_nil (by simp [names_ne])
      have enough' : count ≤ directories.dropLast.length := by
        rw [List.length_dropLast]
        omega
      rw [List.replicate_succ, List.cons_append, names_eq, climb?, if_pos rfl,
        if_neg directories_ne, ← names_eq, ih enough', List.length_dropLast, List.dropLast_eq_take,
        List.take_take]
      congr 3
      omega

namespace Site

theorem take_commonLength (left right : List String) :
    left.take (commonLength left right) = right.take (commonLength left right) := by
  induction left generalizing right with
  | nil => simp [commonLength]
  | cons name lefts ih =>
      cases right with
      | nil => simp [commonLength]
      | cons other rights =>
          by_cases names_eq : name = other
          · simp [commonLength, names_eq, ih rights]
          · simp [commonLength, names_eq]

theorem commonLength_le (left right : List String) : commonLength left right ≤ left.length := by
  induction left generalizing right with
  | nil => simp [commonLength]
  | cons name lefts ih =>
      cases right with
      | nil => simp [commonLength]
      | cons other rights =>
          have := ih rights
          by_cases names_eq : name = other
          · simpa [commonLength, names_eq] using this
          · simp [commonLength, names_eq]

theorem length_le_commonLength {start left right : List String} (in_left : start <+: left)
    (in_right : start <+: right) : start.length ≤ commonLength left right := by
  induction start generalizing left right with
  | nil => simp
  | cons name start ih =>
      obtain ⟨lefts, rfl, in_lefts⟩ := List.cons_prefix_iff.mp in_left
      obtain ⟨rights, rfl, in_rights⟩ := List.cons_prefix_iff.mp in_right
      have := ih in_lefts in_rights
      simpa [commonLength] using this

theorem isSharedLength_commonLength (left right : List String) :
    IsSharedLength left right (commonLength left right) := by
  constructor
  · refine ⟨left.take (commonLength left right), List.take_prefix _ _, ?_, ?_⟩
    · rw [take_commonLength]
      exact List.take_prefix _ _
    · exact List.length_take_of_le (commonLength_le left right)
  · rintro _ ⟨start, in_left, in_right, rfl⟩
    exact length_le_commonLength in_left in_right

variable {site : Site}

theorem split_replicate_append (count : Nat) (text : String) :
    Text.split '/' (Text.replicate count "../" ++ text) =
      List.replicate count ".." ++ Text.split '/' text := by
  induction count with
  | zero => simp [Text.replicate]
  | succ count ih =>
      have link_eq : Text.replicate (count + 1) "../" ++ text =
          ".." ++ String.singleton '/' ++ (Text.replicate count "../" ++ text) := by
        rw [Text.replicate, List.replicate_succ, String.join_cons, String.append_assoc]
        rfl
      rw [link_eq, Text.split_append, ih, List.replicate_succ]
      rfl

theorem not_climbing_of_slash_free {text : String} (free : '/' ∉ text.toList) :
    ¬"../".toList <+: text.toList := by
  intro climbing
  exact free (climbing.subset (by decide))

theorem not_climbing_joinPath {directories : List String} {file : String}
    (named : ∀ directory ∈ directories, directory ≠ "" ∧ '.' ∉ directory.toList)
    (file_free : '/' ∉ file.toList) : ¬"../".toList <+: (joinPath directories file).toList := by
  cases directories with
  | nil => simpa [joinPath] using not_climbing_of_slash_free file_free
  | cons directory rest =>
      obtain ⟨directory_ne, point_free⟩ := named directory List.mem_cons_self
      obtain ⟨first, others, chars_eq⟩ :=
        List.exists_cons_of_ne_nil (String.toList_eq_nil_iff.not.mpr directory_ne)
      intro climbing
      rw [joinPath, List.map_cons, String.join_cons, String.append_assoc, String.append_assoc,
        String.toList_append, chars_eq, List.cons_append] at climbing
      obtain rfl : '.' = first := (List.cons_prefix_cons.mp climbing).1
      exact point_free (by simp [chars_eq])

theorem fileName_ne_up (bare : IsBareExtension site.extension) (page : Page) :
    site.fileName page ≠ ".." := by
  rw [fileName_eq]
  exact (bare.names_entry (site.stem page ++ ".")).2.2

theorem relativeLink?_eq_none_iff (source target : Page) :
    site.relativeLink? source target = none ↔
      source ≠ target ∧ ¬(site.isKnown source = true ∧ site.isKnown target = true) := by
  rw [relativeLink?]
  by_cases pages_eq : source = target
  · simp [pages_eq]
  · by_cases known : site.isKnown source = true ∧ site.isKnown target = true
    · simp [pages_eq, known]
    · simp [pages_eq, known]

/-- A link leads to its target, and leaves the directories of its source that are not shared. -/
structure LeadsTo (site : Site) (source target : Page) (link : String) : Prop where
  /-- Resolved on the page of the source, the link is the path of the target. -/
  resolves : resolve? (site.pagePath source) link = some (site.pagePath target)
  /-- The link leaves the directories after the shared ones, and no others. -/
  climbs : ∃ shared, IsSharedLength (site.segments source) (site.segments target) shared ∧
    Climbs link ((site.segments source).length - shared)

theorem leadsTo_self (names_free : site.graph.SlashFree) (bare : IsBareExtension site.extension)
    (page : Page) : site.LeadsTo page page (site.fileName page) where
  resolves := by
    have file_free : '/' ∉ (site.fileName page).toList :=
      fileName_slash_free names_free bare.slash_free page
    rw [resolve?, Text.split_of_not_mem file_free, pagePath, split_joinPath,
      Text.split_of_not_mem file_free, List.dropLast_concat, climb?, Option.map_some,
      ← Text.split_of_not_mem file_free, ← split_joinPath]
    · exact congrArg some (Text.join_split '/' _)
    · simp
  climbs := by
    have file_free : '/' ∉ (site.fileName page).toList :=
      fileName_slash_free names_free bare.slash_free page
    -- All directories are shared, so none is left.
    refine ⟨(site.segments page).length, ⟨?_, ?_⟩, site.fileName page, ?_, ?_⟩
    · exact ⟨site.segments page, List.prefix_rfl, List.prefix_rfl, rfl⟩
    · rintro _ ⟨start, in_left, -, rfl⟩
      exact in_left.length_le
    · simp [Text.replicate]
    · exact not_climbing_of_slash_free file_free

/-- A link that leaves all but some directories which the pages share leads to its target. -/
theorem resolve?_link (sound : Sound site.graph.packages site.graph.types)
    (names_free : site.graph.SlashFree) (bare : IsBareExtension site.extension)
    {source target : Page} (source_declared : site.graph.HasPage source)
    (target_declared : site.graph.HasPage target) {shared : Nat}
    (shared_le : shared ≤ (site.segments source).length)
    (take_eq : (site.segments source).take shared = (site.segments target).take shared) :
    resolve? (site.pagePath source)
        (Text.replicate ((site.segments source).length - shared) "../" ++
          joinPath ((site.segments target).drop shared) (site.fileName target)) =
      some (site.pagePath target) := by
  have source_cut := split_pagePath sound names_free bare.slash_free source_declared
  have target_cut := split_pagePath sound names_free bare.slash_free target_declared
  have file_free := fileName_slash_free names_free bare.slash_free target
  have rest_free : ∀ segment ∈ (site.segments target).drop shared, '/' ∉ segment.toList := by
    intro segment segment_mem
    exact segments_slash_free sound names_free target_declared segment
      (List.mem_of_mem_drop segment_mem)
  have stays : ∀ name ∈ (site.segments target).drop shared ++ [site.fileName target],
      name ≠ ".." := by
    intro name name_mem
    rcases List.mem_append.mp name_mem with in_segments | is_file
    · rintro rfl
      exact (mem_segments (List.mem_of_mem_drop in_segments)).2 (by decide)
    · rw [List.mem_singleton.mp is_file]
      exact fileName_ne_up bare target
  rw [resolve?, source_cut, List.dropLast_concat, split_replicate_append, split_joinPath,
    Text.flatMap_split_of_not_mem rest_free, Text.split_of_not_mem file_free,
    climb?_replicate _ (Nat.sub_le _ _) (by simp) stays, Option.map_some,
    Nat.sub_sub_self shared_le, take_eq, ← List.append_assoc, List.take_append_drop, ← target_cut]
  exact congrArg some (Text.join_split '/' _)

theorem leadsTo_of_known (sound : Sound site.graph.packages site.graph.types)
    (names_free : site.graph.SlashFree) (bare : IsBareExtension site.extension)
    {source target : Page} (pages_ne : source ≠ target) (source_known : site.isKnown source = true)
    (target_known : site.isKnown target = true) {link : String}
    (link_eq : site.relativeLink? source target = some link) :
    site.LeadsTo source target link := by
  rw [relativeLink?, if_neg pages_ne, if_pos (by simp [source_known, target_known])] at link_eq
  obtain rfl := Option.some.inj link_eq
  constructor
  · exact resolve?_link sound names_free bare (hasPage_of_isKnown source_known)
      (hasPage_of_isKnown target_known) (commonLength_le _ _) (take_commonLength _ _)
  · refine ⟨_, isSharedLength_commonLength _ _, _, rfl, ?_⟩
    refine not_climbing_joinPath ?_ (fileName_slash_free names_free bare.slash_free target)
    intro segment segment_mem
    exact mem_segments (List.mem_of_mem_drop segment_mem)

/-- Two different pages have no link exactly if one of them is not written.  Every other link leads
to its target. -/
theorem relativeLink?_none_iff_and_leadsTo {snapshot : Snapshot} {rootType : String} {graph : Graph}
    (built : Graph.build snapshot rootType = .ok graph) (names_free : graph.SlashFree)
    (settings : Settings) (accepted : settings.fault? = none) (source target : Page) :
    let site : Site := ⟨graph, settings.extension⟩
    (site.relativeLink? source target = none ↔
        source ≠ target ∧ ¬(site.isKnown source = true ∧ site.isKnown target = true)) ∧
      ∀ link, site.relativeLink? source target = some link → site.LeadsTo source target link := by
  intro site
  refine ⟨relativeLink?_eq_none_iff source target, fun link link_eq => ?_⟩
  obtain ⟨-, -, sound⟩ := Graph.sound_of_build built
  have bare : IsBareExtension settings.extension := ((settings.fault?_eq_none_iff).mp accepted).1
  by_cases pages_eq : source = target
  · subst pages_eq
    obtain rfl : site.fileName source = link := by simpa [relativeLink?] using link_eq
    exact leadsTo_self names_free bare source
  · by_cases known : site.isKnown source = true ∧ site.isKnown target = true
    · exact leadsTo_of_known sound names_free bare pages_eq known.1 known.2 link_eq
    · have missing := (relativeLink?_eq_none_iff source target).mpr ⟨pages_eq, known⟩
      exact absurd (missing.symm.trans link_eq) (by simp)

/-- Two packages, one inside the other, and two types, one inside the other. -/
def nestedSnapshot : Snapshot where
  packages := [{ name := "shop" }, { name := "shop.cart" }]
  types :=
    [{ qualifiedName := "shop.Item.Size", simpleName := "Size", kind := .enumType
       enclosing := .type "shop.Item" },
     { qualifiedName := "shop.Item", simpleName := "Item", kind := .classType
       enclosing := .package "shop" }]

theorem leadsTo_nested_type : ∃ graph : Graph,
    Graph.build nestedSnapshot defaultRootType = .ok graph ∧ graph.SlashFree ∧
      Settings.fault? { dir := "." } = none ∧
      relativeLink? ⟨graph, "md"⟩ (.package "shop.cart") (.type "shop.Item.Size") =
        some "../Item$Size.md" ∧
      LeadsTo ⟨graph, "md"⟩ (.package "shop.cart") (.type "shop.Item.Size") "../Item$Size.md" := by
  refine ⟨_, rfl, ⟨by decide, by decide⟩, rfl, rfl, ?_⟩
  exact (@relativeLink?_none_iff_and_leadsTo nestedSnapshot defaultRootType _ rfl
    ⟨by decide, by decide⟩ { dir := "." } rfl (.package "shop.cart")
    (.type "shop.Item.Size")).2 _ rfl

end Site
end RefDocs
