import RefDocs.Page.Link
import RefDocs.Proofs.Display.Spellings

/-!
# Type names in running text and in code

In running text the brackets around type arguments are escaped, and in code they are bare.  Where
no stored text has a backslash, there are no other escapes, and without them both names are the
same.
-/

namespace RefDocs

open Text (Lacks Bares bares_of_lacks)

/-! ## Texts without backslashes -/

/-- Where no stored text has a backslash, the form with escaped brackets reads as the form with bare
ones. -/
theorem respelling_bares : Respelling (Lacks ['\\']) Bares where
  append front back := front.append back
  mark mark mark_mem := by
    have no_escape : ∀ mark ∈ fixedMarks, Lacks ['\\'] mark := by decide
    exact bares_of_lacks (no_escape mark mark_mem)
  stored lacks := bares_of_lacks lacks
  simple lacks := bares_of_lacks lacks.simpleName
  call lacks :=
    ((bares_of_lacks (by decide)).append (bares_of_lacks lacks.simpleName)).append
      (bares_of_lacks (by decide))
  opening := Text.bares_opening
  closing := Text.bares_closing

/-! ## Package names -/

theorem TypeRef.mem_texts_of_declaredName? {name : String} :
    (type : TypeRef) → type.declaredName? = some name → name ∈ type.texts
  | .declared _ _ _ _, found => by
      rw [TypeRef.texts, Option.some.inj found]
      exact List.mem_cons_self
  | .array component _, found => by
      rw [TypeRef.texts]
      exact List.mem_append_left _ (mem_texts_of_declaredName? component found)
  | .typeVariable _ _ _, found | .wildcard _ _ _, found | .primitive _ _, found
  | .void, found => by cases found

namespace Graph

variable {graph : Graph}

/-- The package part of a name starts the name. -/
theorem lacks_packagePart? {marks : List Char} {name package : String} (lacks : Lacks marks name)
    (part : graph.packagePart? name = some package) : Lacks marks package := by
  obtain ⟨bytes, -, cut⟩ := Option.bind_eq_some_iff.mp part
  obtain ⟨rest, rfl, -⟩ := Text.slice?_eq_some_iff.mp cut
  intro char char_mem
  refine lacks char ?_
  rw [String.toList_append]
  exact List.mem_append_left _ char_mem

/-- The package in front of a name has no backslash either. -/
theorem bares_typeName (mode : NameMode) {type : TypeRef}
    (no_backslash : ∀ text ∈ type.texts, Lacks ['\\'] text) :
    Bares (graph.typeName mode .escaped type) (graph.typeName mode .plain type) := by
  have in_full :
      Bares (graph.documentationName .escaped type) (graph.documentationName .plain type) :=
    respelling_bares.documentationName type no_backslash
  cases mode with
  | qualified => exact respelling_bares.erasedName type no_backslash
  | simple => exact respelling_bares.erasedSimpleName type no_backslash
  | documentation => exact in_full
  | packageQualified =>
      rw [typeName, typeName]
      refine Bares.append ?_ in_full
      split
      · rename_i package part
        obtain ⟨name, declared, part⟩ := Option.bind_eq_some_iff.mp part
        have name_lacks := no_backslash name (type.mem_texts_of_declaredName? declared)
        exact (bares_of_lacks (lacks_packagePart? name_lacks part)).append
          (bares_of_lacks (by decide))
      · exact bares_of_lacks (by decide)

/-- The name of a type in running text reads, with each escaped bracket as the bracket, as its name
in code, in any mode, for types in whose names and annotations no backslash is stored.  On a page it
is the text of the link to the type, or stands without a link. -/
theorem bare_typeName_and_typeRef (graph : Graph) (mode : NameMode) {type : TypeRef}
    (no_backslash : ∀ text ∈ type.texts, Lacks ['\\'] text) :
    Text.bare (graph.typeName mode .escaped type) = graph.typeName mode .plain type ∧
      ∀ source : LinkSource, source.graph = graph → ∃ path?,
        source.typeRef mode type = LinkSource.wrap (graph.typeName mode .escaped type) path? := by
  refine ⟨(bares_typeName mode no_backslash).bare_eq, ?_⟩
  rintro source rfl
  rw [LinkSource.typeRef]
  cases type.declaredName? with
  | none => exact ⟨none, rfl⟩
  | some name =>
      simp only [LinkSource.named]
      split
      · exact ⟨_, rfl⟩
      · exact ⟨none, rfl⟩

end Graph

/-- A map from numbers that are not null to arrays of lists. -/
def numberLists : TypeRef :=
  .declared "java.util.Map"
    [.wildcard (some (.declared "java.lang.Number" [] none
        [⟨"a.NonNull", [⟨"when", .literal "ALWAYS"⟩], false⟩])) none [],
      .array (.declared "java.util.List" [.named "java.lang.String"] none []) []] none []

/-- A graph without declarations that shows one annotation type. -/
def nonNullGraph : Graph :=
  ⟨defaultRootType, [], [], ["a.NonNull"]⟩

theorem bare_typeName_numberLists :
    (∀ text ∈ numberLists.texts, Lacks ['\\'] text) ∧
      nonNullGraph.typeName .packageQualified .escaped numberLists =
        "java.util.Map\\<? extends @NonNull(when=ALWAYS) Number,List\\<String\\>[]\\>" ∧
      Text.bare (nonNullGraph.typeName .packageQualified .escaped numberLists) =
        nonNullGraph.typeName .packageQualified .plain numberLists := by
  have no_backslash : ∀ text ∈ numberLists.texts, Lacks ['\\'] text := by decide
  refine ⟨no_backslash, by decide +kernel, ?_⟩
  exact (nonNullGraph.bare_typeName_and_typeRef .packageQualified no_backslash).1

end RefDocs
