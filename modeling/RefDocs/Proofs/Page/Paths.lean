import RefDocs.Page.Naming
import RefDocs.Proofs.Graph.QualifiedName

/-!
# Paths of pages

The path of a page is its directories and its file name, joined by slashes.  Where no name holds a
slash, cutting the path at its slashes gives the directories and the file name back.
-/

namespace RefDocs

/-- A graph whose declarations have a page of the given kind and name, documented or not. -/
def Graph.HasPage (graph : Graph) : Page → Prop
  | .package name => DeclaresPackage graph.packages name
  | .type name => DeclaresType graph.types name
  | .constants => True

namespace Site

variable {site : Site}

theorem hasPage_of_isKnown {page : Page} (known : site.isKnown page = true) :
    site.graph.HasPage page := by
  cases page with
  | package name =>
      obtain ⟨decl, found, -⟩ := (Option.any_eq_true _ _).mp known
      exact ⟨decl, exists_of_find?_name found⟩
  | type name =>
      obtain ⟨decl, found, -⟩ := (Option.any_eq_true _ _).mp known
      exact ⟨decl, mem_of_findType? found⟩
  | constants => trivial

/-! ## Directories -/

/-- A directory of a package has a name, which holds no point and only characters of the package's
name. -/
theorem mem_packageSegments {name segment : String} (segment_mem : segment ∈ packageSegments name) :
    segment ≠ "" ∧ '.' ∉ segment.toList ∧ segment.toList ⊆ name.toList := by
  obtain ⟨piece_mem, segment_ne⟩ := List.mem_filter.mp segment_mem
  exact ⟨by simpa using segment_ne, Text.mem_split piece_mem⟩

theorem mem_segments {page : Page} {segment : String} (segment_mem : segment ∈ site.segments page) :
    segment ≠ "" ∧ '.' ∉ segment.toList := by
  cases page with
  | package name =>
      have known := mem_packageSegments segment_mem
      exact ⟨known.1, known.2.1⟩
  | type name =>
      have known := mem_packageSegments segment_mem
      exact ⟨known.1, known.2.1⟩
  | constants => simp [segments] at segment_mem

theorem segments_type {decl : TypeDecl} (found : site.graph.type? decl.qualifiedName = some decl) :
    site.segments (.type decl.qualifiedName) = packageSegments (site.graph.ownerName decl) := by
  simp [segments, found]

theorem not_mem_segments {char : Char} (sound : Sound site.graph.packages site.graph.types)
    (packages_free : ∀ package ∈ site.graph.packages, char ∉ package.name.toList) {page : Page}
    (declared : site.graph.HasPage page) : ∀ segment ∈ site.segments page, char ∉ segment.toList := by
  have package_free {name : String} (name_declared : DeclaresPackage site.graph.packages name) :
      ∀ segment ∈ packageSegments name, char ∉ segment.toList := by
    obtain ⟨package, package_mem, rfl⟩ := name_declared
    intro segment segment_mem char_mem
    exact packages_free package package_mem ((mem_packageSegments segment_mem).2.2 char_mem)
  cases page with
  | package name => exact package_free declared
  | type name =>
      obtain ⟨decl, decl_mem, rfl⟩ := declared
      rw [segments_type (sound.findType?_eq_some_iff.mpr ⟨decl_mem, rfl⟩)]
      exact package_free (sound.declaresPackage_ownerOf decl_mem)
  | constants => simp [segments]

theorem segments_slash_free (sound : Sound site.graph.packages site.graph.types)
    (names_free : site.graph.SlashFree) {page : Page} (declared : site.graph.HasPage page) :
    ∀ segment ∈ site.segments page, '/' ∉ segment.toList :=
  not_mem_segments sound names_free.packages_slash_free declared

/-! ## Files -/

/-- The name of a page's file without the extension. -/
def stem (site : Site) : Page → String
  | .package _ => "index"
  | .type name => typeStem site.graph name
  | .constants => "constant-values"

theorem fileName_eq (site : Site) (page : Page) :
    site.fileName page = site.stem page ++ "." ++ site.extension := by
  cases page with
  | package name => rfl
  | type name => rfl
  | constants => rfl

theorem stem_type {decl : TypeDecl} (found : site.graph.type? decl.qualifiedName = some decl) :
    site.stem (.type decl.qualifiedName) = Text.join "$" (site.graph.simpleNames decl) := by
  rw [stem, typeStem, found]
  rfl

theorem not_mem_typeStem {char : Char} (not_dollar : char ≠ '$')
    (types_free : ∀ decl ∈ site.graph.types, char ∉ decl.simpleName.toList) (name : String) :
    char ∉ (typeStem site.graph name).toList := by
  rw [typeStem]
  cases found : site.graph.type? name with
  | none => simp
  | some decl =>
      intro char_mem
      have decl_mem : decl ∈ site.graph.types := (mem_of_findType? found).1
      rcases Text.mem_join char_mem with in_separator | ⟨piece, piece_mem, in_piece⟩
      · exact not_dollar (List.mem_singleton.mp in_separator)
      · obtain ⟨outer, outer_mem, rfl⟩ := Graph.exists_of_mem_simpleNames decl_mem piece_mem
        exact types_free outer outer_mem in_piece

theorem stem_slash_free (names_free : site.graph.SlashFree) (page : Page) :
    '/' ∉ (site.stem page).toList := by
  cases page with
  | package name =>
      rw [stem]
      decide
  | type name => exact not_mem_typeStem (by decide) names_free.types_slash_free name
  | constants =>
      rw [stem]
      decide

theorem fileName_slash_free (names_free : site.graph.SlashFree)
    (extension_free : '/' ∉ site.extension.toList) (page : Page) :
    '/' ∉ (site.fileName page).toList := by
  rw [fileName_eq, String.toList_append, String.toList_append, List.mem_append, List.mem_append,
    not_or, not_or]
  exact ⟨⟨stem_slash_free names_free page, by decide⟩, extension_free⟩

/-! ## Paths -/

theorem split_joinPath (directories : List String) (file : String) :
    Text.split '/' (joinPath directories file) =
      directories.flatMap (Text.split '/') ++ Text.split '/' file := by
  induction directories with
  | nil => simp [joinPath]
  | cons directory rest ih =>
      have path_eq : joinPath (directory :: rest) file =
          directory ++ String.singleton '/' ++ joinPath rest file := by
        rw [joinPath, joinPath, List.map_cons, String.join_cons, String.append_assoc]
        rfl
      rw [path_eq, Text.split_append, ih, List.flatMap_cons, List.append_assoc]

/-- The directories and the file name are recovered from the path of a page. -/
theorem split_pagePath (sound : Sound site.graph.packages site.graph.types)
    (names_free : site.graph.SlashFree) (extension_free : '/' ∉ site.extension.toList)
    {page : Page} (declared : site.graph.HasPage page) :
    Text.split '/' (site.pagePath page) = site.segments page ++ [site.fileName page] := by
  have segments_free := segments_slash_free sound names_free declared
  have file_free := fileName_slash_free names_free extension_free page
  rw [pagePath, split_joinPath, Text.flatMap_split_of_not_mem segments_free,
    Text.split_of_not_mem file_free]

/-! ## Links -/

/-- A character that no name in a path holds is in no link to the page of a type. -/
theorem not_mem_relativeLink? {char : Char} (not_mark : char ∉ ['.', '/', '$'])
    (sound : Sound site.graph.packages site.graph.types)
    (packages_free : ∀ package ∈ site.graph.packages, char ∉ package.name.toList)
    (types_free : ∀ decl ∈ site.graph.types, char ∉ decl.simpleName.toList)
    (extension_free : char ∉ site.extension.toList) (source : Page) {decl : TypeDecl}
    (decl_mem : decl ∈ site.graph.types) :
    ∀ path ∈ site.relativeLink? source (.type decl.qualifiedName), char ∉ path.toList := by
  simp only [List.mem_cons, List.not_mem_nil, or_false, not_or] at not_mark
  obtain ⟨not_point, not_slash, not_dollar⟩ := not_mark
  have file_free : char ∉ (site.fileName (.type decl.qualifiedName)).toList := by
    rw [fileName_eq, String.toList_append, String.toList_append, List.mem_append, List.mem_append,
      not_or, not_or]
    exact ⟨⟨not_mem_typeStem not_dollar types_free _, by simpa using not_point⟩, extension_free⟩
  have segments_free : ∀ segment ∈ site.segments (.type decl.qualifiedName),
      char ∉ segment.toList :=
    not_mem_segments sound packages_free ⟨decl, decl_mem, rfl⟩
  have directory_free : ∀ segment ∈ site.segments (.type decl.qualifiedName),
      char ∉ (segment ++ "/").toList := by
    intro segment segment_mem
    simpa [not_slash] using segments_free segment segment_mem
  intro path path_mem
  rw [relativeLink?] at path_mem
  split at path_mem
  · obtain rfl := Option.some.inj path_mem
    exact file_free
  · split at path_mem
    · obtain rfl := Option.some.inj path_mem
      rw [String.toList_append, List.mem_append, joinPath, String.toList_append, List.mem_append,
        Text.replicate, String.toList_join, String.toList_join, List.mem_flatMap, List.mem_flatMap]
      rintro (⟨step, step_mem, in_step⟩ | ⟨directory, directory_mem, in_directory⟩ | in_file)
      · obtain rfl := List.eq_of_mem_replicate step_mem
        simp [not_point, not_slash] at in_step
      · obtain ⟨segment, segment_mem, rfl⟩ := List.mem_map.mp directory_mem
        exact directory_free segment (List.mem_of_mem_drop segment_mem) in_directory
      · exact file_free in_file
    · cases path_mem

end Site
end RefDocs
