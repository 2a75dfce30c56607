import RefDocs.Proofs.Graph.Building
import RefDocs.Proofs.Page.Paths
import RefDocs.Proofs.Settings.Acceptance

/-!
# Pages with one path

Two pages have one path only if one is the index page of a package and the other the page of a type
in that package that is called `index`.
-/

namespace RefDocs

/-- The first page is the index page of a package, and the second that of a type called `index`
that is declared directly in the package. -/
def Graph.SharesIndex (graph : Graph) : Page → Page → Prop
  | .package package, .type name => ∃ decl ∈ graph.types,
      decl.qualifiedName = name ∧ decl.enclosing = .package package ∧ decl.simpleName = "index"
  | _, _ => False

namespace Site

variable {site : Site}

theorem pagePath_eq_iff_parts (sound : Sound site.graph.packages site.graph.types)
    (names_free : site.graph.SlashFree) (extension_free : '/' ∉ site.extension.toList)
    {left right : Page} (left_declared : site.graph.HasPage left)
    (right_declared : site.graph.HasPage right) :
    site.pagePath left = site.pagePath right ↔
      site.segments left = site.segments right ∧ site.stem left = site.stem right := by
  constructor
  · intro paths_eq
    have cut_eq := congrArg (Text.split '/') paths_eq
    rw [split_pagePath sound names_free extension_free left_declared,
      split_pagePath sound names_free extension_free right_declared] at cut_eq
    obtain ⟨segments_eq, files_eq⟩ := List.append_inj' cut_eq rfl
    rw [fileName_eq, fileName_eq] at files_eq
    simpa [segments_eq, String.append_left_inj] using files_eq
  · rintro ⟨segments_eq, stems_eq⟩
    rw [pagePath, pagePath, segments_eq, fileName_eq, fileName_eq, stems_eq]

theorem packageSegments_eq_split (named : site.graph.WellNamed) {package : String}
    (declared : DeclaresPackage site.graph.packages package) :
    packageSegments package = Text.split '.' package := by
  obtain ⟨decl, decl_mem, rfl⟩ := declared
  refine List.filter_eq_self.mpr ?_
  rintro segment segment_mem
  have segment_ne : segment ≠ "" := by
    rintro rfl
    exact named.packages_dotted decl decl_mem segment_mem
  simpa using segment_ne

theorem packageSegments_inj (named : site.graph.WellNamed) {left right : String}
    (left_declared : DeclaresPackage site.graph.packages left)
    (right_declared : DeclaresPackage site.graph.packages right) :
    packageSegments left = packageSegments right ↔ left = right := by
  constructor
  · intro segments_eq
    rw [packageSegments_eq_split named left_declared,
      packageSegments_eq_split named right_declared] at segments_eq
    rw [← Text.join_split '.' left, segments_eq, Text.join_split]
  · rintro rfl
    rfl

theorem packageSegments_ne_nil (named : site.graph.WellNamed) {package : String}
    (declared : DeclaresPackage site.graph.packages package) : packageSegments package ≠ [] := by
  rw [packageSegments_eq_split named declared]
  exact Text.split_ne_nil '.' package

theorem dollar_free_of_mem_simpleNames (named : site.graph.WellNamed) {decl : TypeDecl}
    (decl_mem : decl ∈ site.graph.types) :
    ∀ name ∈ site.graph.simpleNames decl, '$' ∉ name.toList := by
  intro name name_mem
  obtain ⟨outer, outer_mem, rfl⟩ := Graph.exists_of_mem_simpleNames decl_mem name_mem
  exact (named.types_simple outer outer_mem).2.2

/-- Different types have different directories or stems. -/
theorem type_parts_inj (sound : Sound site.graph.packages site.graph.types)
    (named : site.graph.WellNamed) {left right : TypeDecl} (left_mem : left ∈ site.graph.types)
    (right_mem : right ∈ site.graph.types)
    (segments_eq : site.segments (.type left.qualifiedName) =
      site.segments (.type right.qualifiedName))
    (stems_eq : site.stem (.type left.qualifiedName) = site.stem (.type right.qualifiedName)) :
    left.qualifiedName = right.qualifiedName := by
  have left_found : site.graph.type? left.qualifiedName = some left :=
    sound.findType?_eq_some_iff.mpr ⟨left_mem, rfl⟩
  have right_found : site.graph.type? right.qualifiedName = some right :=
    sound.findType?_eq_some_iff.mpr ⟨right_mem, rfl⟩
  rw [segments_type left_found, segments_type right_found] at segments_eq
  rw [stem_type left_found, stem_type right_found] at stems_eq
  have owners_eq : site.graph.ownerName left = site.graph.ownerName right :=
    (packageSegments_inj named (sound.declaresPackage_ownerOf left_mem)
      (sound.declaresPackage_ownerOf right_mem)).mp segments_eq
  have names_eq : site.graph.simpleNames left = site.graph.simpleNames right :=
    Text.join_inj (site.graph.simpleNames_ne_nil left) (site.graph.simpleNames_ne_nil right)
      (dollar_free_of_mem_simpleNames named left_mem)
      (dollar_free_of_mem_simpleNames named right_mem) stems_eq
  rw [Graph.qualifiedName_eq sound named left_mem, Graph.qualifiedName_eq sound named right_mem,
    owners_eq, names_eq]

/-- An index page has the directories and the stem of a type only if it shares its file. -/
theorem index_parts_eq_iff (sound : Sound site.graph.packages site.graph.types)
    (named : site.graph.WellNamed) {package name : String}
    (package_declared : DeclaresPackage site.graph.packages package)
    (type_declared : DeclaresType site.graph.types name) :
    site.segments (.package package) = site.segments (.type name) ∧
        site.stem (.package package) = site.stem (.type name) ↔
      site.graph.SharesIndex (.package package) (.type name) := by
  obtain ⟨decl, decl_mem, rfl⟩ := type_declared
  have found : site.graph.type? decl.qualifiedName = some decl :=
    sound.findType?_eq_some_iff.mpr ⟨decl_mem, rfl⟩
  have index_iff : "index" = Text.join "$" (site.graph.simpleNames decl) ↔
      site.graph.simpleNames decl = ["index"] := by
    constructor
    · intro stem_eq
      have joined_eq : Text.join "$" (site.graph.simpleNames decl) = Text.join "$" ["index"] :=
        stem_eq.symm
      exact Text.join_inj (site.graph.simpleNames_ne_nil decl) (by simp)
        (dollar_free_of_mem_simpleNames named decl_mem) (by decide) joined_eq
    · intro names_eq
      rw [names_eq]
      rfl
  have owner_declared : DeclaresPackage site.graph.packages (site.graph.ownerName decl) :=
    sound.declaresPackage_ownerOf decl_mem
  rw [segments_type found, stem_type found, segments, stem, index_iff,
    packageSegments_inj named package_declared owner_declared, @eq_comm _ package,
    Graph.simpleNames_eq_singleton_iff sound named decl_mem]
  constructor
  · rintro ⟨enclosing_eq, simple_eq⟩
    exact ⟨decl, decl_mem, rfl, enclosing_eq, simple_eq⟩
  · rintro ⟨other, other_mem, name_eq, enclosing_eq, simple_eq⟩
    obtain rfl : other = decl :=
      List.inj_on_of_nodup_map sound.types_distinct other_mem decl_mem name_eq
    exact ⟨enclosing_eq, simple_eq⟩

theorem segments_ne_nil (sound : Sound site.graph.packages site.graph.types)
    (named : site.graph.WellNamed) {page : Page} (declared : site.graph.HasPage page)
    (page_ne : page ≠ .constants) : site.segments page ≠ [] := by
  cases page with
  | package name => exact packageSegments_ne_nil named declared
  | type name =>
      obtain ⟨decl, decl_mem, rfl⟩ := declared
      rw [segments_type (sound.findType?_eq_some_iff.mpr ⟨decl_mem, rfl⟩)]
      exact packageSegments_ne_nil named (sound.declaresPackage_ownerOf decl_mem)
  | constants => exact absurd rfl page_ne

theorem parts_eq_iff_sharesIndex (sound : Sound site.graph.packages site.graph.types)
    (named : site.graph.WellNamed) {left right : Page} (left_declared : site.graph.HasPage left)
    (right_declared : site.graph.HasPage right) (pages_ne : left ≠ right) :
    site.segments left = site.segments right ∧ site.stem left = site.stem right ↔
      site.graph.SharesIndex left right ∨ site.graph.SharesIndex right left := by
  cases left with
  | package package =>
      cases right with
      | package other =>
          refine iff_of_false ?_ (by simp [Graph.SharesIndex])
          rintro ⟨segments_eq, -⟩
          have names_eq : package = other :=
            (packageSegments_inj named left_declared right_declared).mp segments_eq
          exact pages_ne (congrArg Page.package names_eq)
      | type name =>
          rw [index_parts_eq_iff sound named left_declared right_declared]
          simp [Graph.SharesIndex]
      | constants =>
          refine iff_of_false ?_ (by simp [Graph.SharesIndex])
          rintro ⟨segments_eq, -⟩
          exact segments_ne_nil sound named left_declared pages_ne segments_eq
  | type name =>
      cases right with
      | package package =>
          rw [@eq_comm _ (site.segments (.type name)), @eq_comm _ (site.stem (.type name)),
            index_parts_eq_iff sound named right_declared left_declared]
          simp [Graph.SharesIndex]
      | type other =>
          refine iff_of_false ?_ (by simp [Graph.SharesIndex])
          rintro ⟨segments_eq, stems_eq⟩
          obtain ⟨decl, decl_mem, rfl⟩ := left_declared
          obtain ⟨otherDecl, other_mem, rfl⟩ := right_declared
          have names_eq : decl.qualifiedName = otherDecl.qualifiedName :=
            type_parts_inj sound named decl_mem other_mem segments_eq stems_eq
          exact pages_ne (congrArg Page.type names_eq)
      | constants =>
          refine iff_of_false ?_ (by simp [Graph.SharesIndex])
          rintro ⟨segments_eq, -⟩
          exact segments_ne_nil sound named left_declared pages_ne segments_eq
  | constants =>
      refine iff_of_false ?_ (by simp [Graph.SharesIndex])
      rintro ⟨segments_eq, -⟩
      exact segments_ne_nil sound named right_declared pages_ne.symm segments_eq.symm

/-- Two different written pages have one path exactly if one of them is the index page of a package
and the other is the page of a type called `index` in that package. -/
theorem pagePath_eq_iff_sharesIndex {snapshot : Snapshot} {rootType : String} {graph : Graph}
    (built : Graph.build snapshot rootType = .ok graph) (named : graph.WellNamed)
    (settings : Settings) (accepted : settings.fault? = none) {left right : Page}
    (pages_ne : left ≠ right) :
    let site : Site := ⟨graph, settings.extension⟩
    site.isKnown left = true → site.isKnown right = true →
      (site.pagePath left = site.pagePath right ↔
        graph.SharesIndex left right ∨ graph.SharesIndex right left) := by
  intro site left_known right_known
  obtain ⟨-, -, sound⟩ := Graph.sound_of_build built
  have bare : IsBareExtension settings.extension := ((settings.fault?_eq_none_iff).mp accepted).1
  have left_declared : site.graph.HasPage left := hasPage_of_isKnown left_known
  have right_declared : site.graph.HasPage right := hasPage_of_isKnown right_known
  rw [pagePath_eq_iff_parts sound named.toSlashFree bare.slash_free left_declared right_declared]
  exact parts_eq_iff_sharesIndex sound named left_declared right_declared pages_ne

/-- A package with a type called `index`. -/
def indexSnapshot : Snapshot where
  packages := [{ name := "shop" }]
  types :=
    [{ qualifiedName := "shop.index", simpleName := "index", kind := .classType
       enclosing := .package "shop" }]

theorem pagePath_index_type : ∃ graph : Graph,
    Graph.build indexSnapshot defaultRootType = .ok graph ∧ graph.WellNamed ∧
      Settings.fault? { dir := "." } = none ∧
      isKnown ⟨graph, "md"⟩ (.package "shop") = true ∧
      isKnown ⟨graph, "md"⟩ (.type "shop.index") = true ∧
      pagePath ⟨graph, "md"⟩ (.package "shop") = pagePath ⟨graph, "md"⟩ (.type "shop.index") := by
  refine ⟨_, rfl, ⟨⟨by decide, by decide⟩, by decide, by decide, by decide⟩, rfl, rfl, rfl, ?_⟩
  refine (@pagePath_eq_iff_sharesIndex indexSnapshot defaultRootType _ rfl
    ⟨⟨by decide, by decide⟩, by decide, by decide, by decide⟩ { dir := "." } rfl
    (.package "shop") (.type "shop.index") (by decide) rfl rfl).mpr (Or.inl ?_)
  exact ⟨_, List.mem_cons_self, rfl, rfl, rfl⟩

end Site

end RefDocs
