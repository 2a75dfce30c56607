import RefDocs.Proofs.Member.Reference
import RefDocs.Proofs.Related

/-!
# References that spell a member

A reference leads to the one member with its name and its number of parameters, however its
parameters are written: with the last segments of their names, with type arguments behind segments,
with points in place of array brackets and with the names of the parameters behind.
-/

namespace RefDocs

/-- The characters that reference texts are put together with. -/
def Text.referenceMarks : List Char :=
  ['(', ')', '<', '>', '[', ']', ',']

/-- The segments of a name between its points are not empty, and hold neither blanks nor the
characters that references are put together with. -/
def Text.IsDotted (name : String) : Prop :=
  ∀ segment ∈ Text.split '.' name, segment ≠ "" ∧ Text.FreeOf Text.referenceMarks segment

instance (name : String) : Decidable (Text.IsDotted name) :=
  List.decidableBAll (fun segment => segment ≠ "" ∧ Text.FreeOf Text.referenceMarks segment)
    (Text.split '.' name)

/-- A number of array brackets. -/
def arrayBrackets (count : Nat) : String :=
  Text.replicate count "[]"

theorem arrayBrackets_succ (count : Nat) :
    arrayBrackets (count + 1) = arrayBrackets count ++ "[]" := by
  rw [arrayBrackets, arrayBrackets, Text.replicate, Text.replicate, List.replicate_succ',
    String.join_append]
  simp

theorem arrayBrackets_free (count : Nat) :
    Text.FreeOf ['(', ')', '<', '>', ','] (arrayBrackets count) := by
  induction count with
  | zero => decide
  | succ count ih =>
      rw [arrayBrackets_succ]
      exact ih.append (by decide)

namespace TypeRef

/-- The erased name of a type without its array brackets. -/
def componentName : TypeRef → String
  | .array component _ => component.componentName
  | type => type.erasedName

/-- The number of array brackets behind the erased name of a type. -/
def dimensions : TypeRef → Nat
  | .array component _ => component.dimensions + 1
  | _ => 0

theorem erasedName_eq (type : TypeRef) :
    type.erasedName = type.componentName ++ arrayBrackets type.dimensions := by
  induction type using TypeRef.dimensions.induct with
  | case1 component annotations ih =>
      rw [componentName, dimensions, arrayBrackets_succ, ← String.append_assoc, ← ih]
      rfl
  | case2 type not_array =>
      rw [componentName, dimensions]
      · simp [arrayBrackets, Text.replicate]
      · exact not_array
      · exact not_array

end TypeRef

/-- The number of array brackets behind the type of a parameter.  One that takes any number of
values has some, whatever its type is. -/
def Parameter.dimensions (parameter : Parameter) : Nat :=
  if parameter.varargs then max 1 parameter.type.dimensions else parameter.type.dimensions

/-! ## Array brackets and points -/

namespace Reference

theorem arrayForm_points (front : String) : arrayForm (front ++ "...") = front ++ "[]" := by
  rw [arrayForm, Text.dropEnd?_eq_some_iff.mpr rfl]

theorem arrayForm_brackets {front : String} (no_point : front.toList.getLast? ≠ some '.')
    (count : Nat) : arrayForm (front ++ arrayBrackets count) = front ++ arrayBrackets count := by
  have no_points : Text.dropEnd? "..." (front ++ arrayBrackets count) = none := by
    rw [Option.eq_none_iff_forall_ne_some]
    intro other dropped
    have last_eq := congrArg (fun text => text.toList.getLast?)
      (Text.dropEnd?_eq_some_iff.mp dropped)
    cases count with
    | zero => exact no_point (by simpa [arrayBrackets, Text.replicate] using last_eq)
    | succ count =>
        rw [arrayBrackets_succ] at last_eq
        simp at last_eq
  rw [arrayForm, no_points]

end Reference

namespace Text

theorem getLast?_join_ne {segments : List String} (segments_ne : segments ≠ [])
    (pieces : ∀ segment ∈ segments, segment ≠ "" ∧ '.' ∉ segment.toList) :
    (join "." segments).toList.getLast? ≠ some '.' := by
  obtain ⟨front, last, rfl⟩ : ∃ front last, segments = front ++ [last] :=
    ⟨_, _, (List.dropLast_append_getLast segments_ne).symm⟩
  obtain ⟨last_ne, point_free⟩ := pieces last (by simp)
  have last_eq : (join "." (front ++ [last])).toList.getLast? = last.toList.getLast? := by
    by_cases front_nil : front = []
    · simp [front_nil, join]
    · rw [join_concat front_nil, String.toList_append]
      exact List.getLast?_append_of_ne_nil _ (String.toList_eq_nil_iff.not.mpr last_ne)
  rw [last_eq]
  intro point_last
  exact point_free (List.mem_of_mem_getLast? point_last)

namespace IsDotted

variable {name : String}

theorem pieces (dotted : IsDotted name) :
    ∀ segment ∈ split '.' name, segment ≠ "" ∧ '.' ∉ segment.toList :=
  fun segment segment_mem => ⟨(dotted segment segment_mem).1, (mem_split segment_mem).1⟩

theorem getLast?_ne (dotted : IsDotted name) : name.toList.getLast? ≠ some '.' := by
  have last_ne := getLast?_join_ne (split_ne_nil '.' name) dotted.pieces
  rwa [show "." = String.singleton '.' from rfl, join_split] at last_ne

theorem bracket_free (dotted : IsDotted name) : ']' ∉ name.toList := by
  rw [← join_split '.' name]
  intro bracket_mem
  rcases mem_join bracket_mem with in_point | ⟨segment, segment_mem, in_segment⟩
  · exact absurd in_point (by decide)
  · exact (dotted segment segment_mem).2.not_mem (by decide) in_segment

end IsDotted
end Text

theorem Parameter.arrayForm_anchorType {parameter : Parameter}
    (dotted : Text.IsDotted parameter.type.componentName) :
    Reference.arrayForm parameter.anchorType =
      parameter.type.componentName ++ arrayBrackets parameter.dimensions := by
  rw [anchorType, Parameter.dimensions, TypeRef.erasedName_eq]
  cases varargs : parameter.varargs with
  | false => exact Reference.arrayForm_brackets dotted.getLast?_ne _
  | true =>
      rw [if_pos rfl, if_pos rfl, Reference.arrayForm_points]
      cases parameter.type.dimensions with
      | zero =>
          have no_brackets : Text.dropEnd? "[]"
              (parameter.type.componentName ++ arrayBrackets 0) = none := by
            rw [Option.eq_none_iff_forall_ne_some]
            intro front dropped
            have name_eq := Text.dropEnd?_eq_some_iff.mp dropped
            refine dotted.bracket_free ?_
            rw [show arrayBrackets 0 = "" from rfl, String.append_empty] at name_eq
            simp [name_eq]
          rw [no_brackets, Option.getD_none, String.append_assoc]
          rfl
      | succ count =>
          rw [arrayBrackets_succ, ← String.append_assoc, Text.dropEnd?_eq_some_iff.mpr rfl,
            Nat.max_eq_right (by omega), arrayBrackets_succ, ← String.append_assoc]
          rfl

/-! ## Written parameters -/

/-- Segments of a name with points between them and lists of type arguments behind them. -/
inductive SpellsSegments : List String → String → Prop where
  | last {segment arguments : String} (lists : Reference.ArgumentLists arguments.toList) :
      SpellsSegments [segment] (segment ++ arguments)
  | cons {segment arguments rest : String} {segments : List String}
      (lists : Reference.ArgumentLists arguments.toList)
      (spells_rest : SpellsSegments segments rest) :
      SpellsSegments (segment :: segments) (segment ++ arguments ++ "." ++ rest)

/-- A number of array brackets, or points in place of the last ones. -/
inductive SpellsBrackets : Nat → String → Prop where
  | brackets (count : Nat) : SpellsBrackets count (arrayBrackets count)
  | points (count : Nat) : SpellsBrackets (count + 1) (arrayBrackets count ++ "...")

/-- Nothing, or blanks and the name of a parameter. -/
inductive SpellsLabel : String → Prop where
  | none : SpellsLabel ""
  | name {blanks name : String} (blanks_ne : blanks ≠ "")
      (blanks_blank : ∀ char ∈ blanks.toList, isBlank char)
      (name_free : Text.FreeOf Text.referenceMarks name) : SpellsLabel (blanks ++ name)

/-- A text spells a parameter: between blanks, it is made up of the last segments of the name of its
type, the brackets of the type and perhaps the name of the parameter. -/
inductive Parameter.SpelledBy (parameter : Parameter) : String → Prop where
  | intro {before segments brackets label after : String} {left kept : List String}
      (before_blank : ∀ char ∈ before.toList, isBlank char)
      (name_eq : Text.split '.' parameter.type.componentName = left ++ kept)
      (spells_segments : SpellsSegments kept segments)
      (spells_brackets : SpellsBrackets parameter.dimensions brackets)
      (spells_label : SpellsLabel label)
      (after_blank : ∀ char ∈ after.toList, isBlank char) :
      parameter.SpelledBy (before ++ segments ++ brackets ++ label ++ after)

namespace Reference

theorem Outside.of_freeOf {reserved : List Char} {text : String}
    (free : Text.FreeOf reserved text) (marks_reserved : ['<', '>', ','] ⊆ reserved) :
    Outside text.toList text.toList :=
  .of_free (free.not_mem (marks_reserved (by simp))) (free.not_mem (marks_reserved (by simp)))
    (free.not_mem (marks_reserved (by simp)))

theorem Outside.of_blank {text : String} (blank : ∀ char ∈ text.toList, isBlank char) :
    Outside text.toList text.toList := by
  have not_mem : ∀ char, isBlank char = false → char ∉ text.toList := by
    intro char not_blank char_mem
    rw [blank char char_mem] at not_blank
    cases not_blank
  exact .of_free (not_mem ',' (by decide)) (not_mem '<' (by decide)) (not_mem '>' (by decide))

end Reference

open Reference (Outside)

namespace SpellsSegments

variable {segments : List String} {text : String}

theorem ne_nil (spells : SpellsSegments segments text) : segments ≠ [] := by
  cases spells with
  | last => simp
  | cons => simp

theorem outside (spells : SpellsSegments segments text)
    (free : ∀ segment ∈ segments, Text.FreeOf Text.referenceMarks segment) :
    Outside text.toList (Text.join "." segments).toList := by
  induction spells with
  | @last segment arguments lists =>
      have segment_outside := Outside.of_freeOf (free segment (by simp)) (by decide)
      simpa [Text.join] using segment_outside.append (.of_argumentLists lists)
  | @cons segment arguments rest segments lists spells_rest ih =>
      rw [List.forall_mem_cons] at free
      have segment_outside := Outside.of_freeOf free.1 (by decide)
      have front_outside := segment_outside.append (Outside.of_argumentLists lists)
      have point_outside : Outside ".".toList ".".toList :=
        .of_free (by decide) (by decide) (by decide)
      rw [Text.join_cons spells_rest.ne_nil]
      simpa using (front_outside.append point_outside).append (ih free.2)

theorem exists_not_blank (spells : SpellsSegments segments text)
    (named : ∀ segment ∈ segments, segment ≠ "" ∧ Text.FreeOf Text.referenceMarks segment) :
    ∃ char ∈ text.toList, isBlank char = false := by
  have first_segment : ∃ segment ∈ segments, segment.toList ⊆ text.toList := by
    cases spells with
    | @last segment => exact ⟨segment, by simp, by simp⟩
    | @cons segment => exact ⟨segment, by simp, by simp⟩
  obtain ⟨segment, segment_mem, subset⟩ := first_segment
  obtain ⟨segment_ne, segment_free⟩ := named segment segment_mem
  obtain ⟨char, rest, chars_eq⟩ :=
    List.exists_cons_of_ne_nil (String.toList_eq_nil_iff.not.mpr segment_ne)
  have char_mem : char ∈ segment.toList := by simp [chars_eq]
  exact ⟨char, subset char_mem, (segment_free char char_mem).1⟩

end SpellsSegments

namespace SpellsBrackets

variable {count : Nat} {brackets : String}

theorem free (spells : SpellsBrackets count brackets) :
    Text.FreeOf ['(', ')', '<', '>', ','] brackets := by
  cases spells with
  | brackets => exact arrayBrackets_free count
  | points count => exact (arrayBrackets_free count).append (by decide)

theorem arrayForm_append (spells : SpellsBrackets count brackets) {front : String}
    (no_point : front.toList.getLast? ≠ some '.') :
    Reference.arrayForm (front ++ brackets) = front ++ arrayBrackets count := by
  cases spells with
  | brackets => exact Reference.arrayForm_brackets no_point count
  | points count =>
      rw [← String.append_assoc, Reference.arrayForm_points, arrayBrackets_succ,
        String.append_assoc]

end SpellsBrackets

namespace SpellsLabel

variable {label : String}

theorem outside (spells : SpellsLabel label) : Outside label.toList label.toList := by
  cases spells with
  | none => exact .nil
  | name _ blanks_blank name_free =>
      rw [String.toList_append]
      exact (Outside.of_blank blanks_blank).append (.of_freeOf name_free (by decide))

/-- What stands behind the type starts with a blank. -/
theorem isBlank_head? (spells : SpellsLabel label) {after : String}
    (after_blank : ∀ char ∈ after.toList, isBlank char) :
    ∀ char, (label ++ after).toList.head? = some char → isBlank char := by
  intro char first
  cases spells with
  | none => exact after_blank char (List.mem_of_mem_head? (by simpa using first))
  | @name blanks name blanks_ne blanks_blank _ =>
      obtain ⟨blank, rest, chars_eq⟩ :=
        List.exists_cons_of_ne_nil (String.toList_eq_nil_iff.not.mpr blanks_ne)
      obtain rfl : blank = char := by simpa [chars_eq] using first
      exact blanks_blank blank (by simp [chars_eq])

end SpellsLabel

namespace Parameter.SpelledBy

variable {parameter : Parameter} {text : String}

/-- A text that spells a parameter is not blank, is not cut and names the type of the parameter. -/
theorem namesType (spelled : parameter.SpelledBy text)
    (dotted : Text.IsDotted parameter.type.componentName) :
    Text.isBlankText text = false ∧ (∃ outer, Outside text.toList outer) ∧
      Reference.namesType parameter.anchorType text = true := by
  obtain ⟨before_blank, name_eq, spells_segments, spells_brackets, spells_label, after_blank⟩ :=
    spelled
  rename_i before segments brackets label after left kept
  have kept_named : ∀ segment ∈ kept,
      segment ≠ "" ∧ Text.FreeOf Text.referenceMarks segment := by
    intro segment segment_mem
    exact dotted segment (by rw [name_eq]; exact List.mem_append_right left segment_mem)
  have kept_pieces : ∀ segment ∈ kept, segment ≠ "" ∧ '.' ∉ segment.toList := by
    intro segment segment_mem
    exact dotted.pieces segment (by rw [name_eq]; exact List.mem_append_right left segment_mem)
  have kept_ne := spells_segments.ne_nil
  have word_free : Text.FreeOf [] (Text.join "." kept ++ brackets) := by
    refine .append (.join (by decide) ?_) (spells_brackets.free.mono (List.nil_subset _))
    intro segment segment_mem
    exact (kept_named segment segment_mem).2.mono (List.nil_subset _)
  have word_ne : Text.join "." kept ++ brackets ≠ "" := by
    obtain ⟨first, rest, rfl⟩ := List.exists_cons_of_ne_nil kept_ne
    rw [ne_eq, String.append_eq_empty_iff]
    exact fun empty => Text.join_ne_empty "." rest (kept_named first (by simp)).1 empty.1
  have outside : Outside (before ++ segments ++ brackets ++ label ++ after).toList
      (before ++ (Text.join "." kept ++ brackets) ++ (label ++ after)).toList := by
    have segments_outside := spells_segments.outside fun segment segment_mem =>
      (kept_named segment segment_mem).2
    have brackets_outside := Outside.of_freeOf spells_brackets.free (by decide)
    simpa using ((Outside.of_blank before_blank).append
      (segments_outside.append brackets_outside)).append
        (spells_label.outside.append (.of_blank after_blank))
  refine ⟨?_, ⟨_, outside⟩, ?_⟩
  · obtain ⟨char, char_mem, not_blank⟩ := spells_segments.exists_not_blank kept_named
    rw [Text.isBlankText, List.all_eq_false]
    exact ⟨char, by simp [char_mem], by simp [not_blank]⟩
  · have first_word := Reference.firstWord?_eq before_blank word_ne word_free
      (spells_label.isBlank_head? after_blank)
    rw [← outside.eraseArguments_eq] at first_word
    rw [Reference.namesType_iff_of_firstWord? first_word, Reference.Admits,
      arrayForm_anchorType dotted,
      spells_brackets.arrayForm_append (Text.getLast?_join_ne kept_ne kept_pieces),
      ← Text.join_split '.' parameter.type.componentName, name_eq]
    by_cases left_nil : left = []
    · left
      rw [left_nil, List.nil_append]
      rfl
    · right
      refine ⟨Text.join "." left, ?_⟩
      rw [← String.append_assoc, ← Text.join_append left_nil kept_ne]
      rfl

end Parameter.SpelledBy

namespace Reference

variable {owner : TypeDecl} {member : Member} {written : List String}

theorem fits_join_of_spelled
    (dotted : ∀ parameter ∈ member.parameters, Text.IsDotted parameter.type.componentName)
    (spelled : List.Forall₂ Parameter.SpelledBy member.parameters written) :
    splitParameters (Text.join "," written) = written ∧
      fits member (Text.join "," written) = true := by
  have named : List.Forall₂ (fun parameter text =>
      (Text.isBlankText text = false ∧ ∃ outer, Outside text.toList outer) ∧
        namesType parameter.anchorType text = true) member.parameters written := by
    refine List.forall₂_iff_zip.mpr ⟨spelled.length_eq, fun pair_mem => ?_⟩
    have pair_spelled := (List.forall₂_iff_zip.mp spelled).2 pair_mem
    obtain ⟨not_blank, outside, names⟩ :=
      pair_spelled.namesType (dotted _ (List.of_mem_zip pair_mem).1)
    exact ⟨⟨not_blank, outside⟩, names⟩
  have split_eq : splitParameters (Text.join "," written) = written := by
    apply splitParameters_join
    exact forall_mem_of_forall₂ named fun _ _ text_named => text_named.1
  refine ⟨split_eq, (fits_iff_of_splitParameters split_eq member).mpr ?_⟩
  rw [Member.anchorTypes, List.forall₂_map_left_iff]
  exact named.imp fun _ _ text_named => text_named.2

/-- A reference that spells the parameters of a member leads to it, if no other member of the type
has its name and its number of parameters. -/
theorem anchor_eq_of_spelled {before after : List Member}
    (members_eq : owner.members = before ++ member :: after)
    (alone : ∀ other ∈ before ++ after, other.name = member.name →
      other.parameters.length ≠ member.parameters.length)
    (opening_free : '(' ∉ member.name.toList) (trimmed : Text.IsTrimmed member.name)
    (dotted : ∀ parameter ∈ member.parameters, Text.IsDotted parameter.type.componentName)
    (spelled : List.Forall₂ Parameter.SpelledBy member.parameters written) :
    anchor owner (member.name ++ "(" ++ Text.join "," written ++ ")") = member.anchor := by
  obtain ⟨split_eq, member_fits⟩ := fits_join_of_spelled dotted spelled
  have others_fail : ∀ other ∈ before,
      (!(other.name == member.name && fits other (Text.join "," written))) = true := by
    intro other other_mem
    rw [Bool.not_eq_true', Bool.eq_false_iff]
    intro found
    rw [Bool.and_eq_true, beq_iff_eq, fits_iff_of_splitParameters split_eq] at found
    have length_eq : other.parameters.length = written.length := by
      simpa [Member.anchorTypes] using found.2.length_eq
    exact alone other (List.mem_append_left after other_mem) found.1
      (length_eq.trans spelled.length_eq.symm)
  have found_eq : member? owner (member.name ++ "(" ++ Text.join "," written ++ ")") =
      some member := by
    rw [member?, parts_eq opening_free trimmed, members_eq]
    apply List.find?_eq_some_iff_append.mpr
    exact ⟨by simp [member_fits], before, after, rfl, others_fail⟩
  rw [anchor, found_eq]

/-- A type with a field and a method of one name. -/
def puttingOwner : TypeDecl where
  qualifiedName := "shop.Cart"
  simpleName := "Cart"
  kind := .classType
  enclosing := .package "shop"
  members :=
    [{ kind := .field, name := "put" },
     { kind := .method, name := "put"
       parameters :=
         [{ name := "items", type := .declared "java.util.Map" [] none [] },
          { name := "keys", type := .array (.declared "shop.Outer.Key" [] none []) []
            varargs := true }] }]

theorem anchor_puttingOwner :
    anchor puttingOwner "put( util.Map<K, List<V>> items,Outer<K>.Key[])" =
      "put(java.util.Map,shop.Outer.Key...)" := by
  have keys_listed : ArgumentLists "<K, List<V>>".toList := by
    have values_balanced : Balanced ['V'] := .char (by decide) (by decide) .nil
    have list_balanced : Balanced "List<V>".toList :=
      .char (by decide) (by decide) (.char (by decide) (by decide) (.char (by decide) (by decide)
        (.char (by decide) (by decide) (.arguments values_balanced .nil))))
    have inside_balanced : Balanced "K, List<V>".toList :=
      .char (by decide) (by decide) (.char (by decide) (by decide) (.char (by decide) (by decide)
        list_balanced))
    exact .cons inside_balanced .nil
  have key_listed : ArgumentLists "<K>".toList :=
    .cons (.char (by decide) (by decide) .nil) .nil
  have no_blank : ∀ char ∈ "".toList, isBlank char := by simp
  have one_blank : ∀ char ∈ " ".toList, isBlank char := by
    have space_blank : isBlank ' ' := by decide
    simpa using space_blank
  have items_spelled : Parameter.SpelledBy
      { name := "items", type := .declared "java.util.Map" [] none [] }
      " util.Map<K, List<V>> items" := by
    have map_spelled : SpellsSegments ["util", "Map"]
        ("util" ++ "" ++ "." ++ ("Map" ++ "<K, List<V>>")) := .cons .nil (.last keys_listed)
    have text_eq : " " ++ ("util" ++ "" ++ "." ++ ("Map" ++ "<K, List<V>>")) ++ arrayBrackets 0 ++
        (" " ++ "items") ++ "" = " util.Map<K, List<V>> items" := by decide
    have name_eq : Text.split '.' "java.util.Map" = ["java"] ++ ["util", "Map"] := by decide
    rw [← text_eq]
    exact .intro one_blank name_eq map_spelled (.brackets 0)
      (.name (by decide) one_blank (by decide)) no_blank
  have keys_spelled : Parameter.SpelledBy
      { name := "keys", type := .array (.declared "shop.Outer.Key" [] none []) [], varargs := true }
      "Outer<K>.Key[]" := by
    have key_spelled : SpellsSegments ["Outer", "Key"] ("Outer" ++ "<K>" ++ "." ++ ("Key" ++ "")) :=
      .cons key_listed (.last .nil)
    have text_eq : "" ++ ("Outer" ++ "<K>" ++ "." ++ ("Key" ++ "")) ++ arrayBrackets 1 ++ "" ++ "" =
        "Outer<K>.Key[]" := by decide
    have name_eq : Text.split '.' "shop.Outer.Key" = ["shop"] ++ ["Outer", "Key"] := by decide
    rw [← text_eq]
    exact .intro no_blank name_eq key_spelled (.brackets 1) .none no_blank
  have leads := @anchor_eq_of_spelled puttingOwner puttingOwner.members[1]
    [" util.Map<K, List<V>> items", "Outer<K>.Key[]"] (puttingOwner.members.take 1) [] rfl
    (by decide) (by decide) (by decide) (by decide)
    (.cons items_spelled (.cons keys_spelled .nil))
  have reference_eq : "put( util.Map<K, List<V>> items,Outer<K>.Key[])" =
      puttingOwner.members[1].name ++ "("
        ++ Text.join "," [" util.Map<K, List<V>> items", "Outer<K>.Key[]"] ++ ")" := by
    decide
  have anchor_eq : puttingOwner.members[1].anchor = "put(java.util.Map,shop.Outer.Key...)" := by
    decide
  rw [reference_eq, leads, anchor_eq]

end Reference
end RefDocs
