import RefDocs.Compose.Signature
import RefDocs.Proofs.Display.Spellings
import RefDocs.Proofs.Graph.Building
import RefDocs.Proofs.Page.Paths
import RefDocs.Proofs.Text.Links

/-!
# Parameter lists

A member's parameters are listed with links in a summary, and without in its signature.  The points
of a parameter that takes any number of values are put for the brackets that its type ends with,
and a linked type ends with its path, so a reader of the summary sees the brackets there.
-/

namespace RefDocs

open Text (Lacks Linkless Bares Sees seen linkMarks)

/-! ## Type names -/

/-- Where no stored text has a mark of a link, the documentation form of a type holds no link, and
reads as the form with bare brackets. -/
theorem respelling_linkless :
    Respelling (Lacks linkMarks) fun text shown => Linkless text.toList ∧ Bares text shown where
  append front back := by
    rw [String.toList_append]
    exact ⟨front.1.append back.1, front.2.append back.2⟩
  mark := by
    have no_escape : ∀ mark ∈ fixedMarks, Lacks ['\\'] mark := by decide
    have no_link : ∀ mark ∈ fixedMarks, mark ≠ "[]" → Lacks ['[', ']', '('] mark := by decide
    intro mark mark_mem
    refine ⟨?_, Text.bares_of_lacks (no_escape mark mark_mem)⟩
    by_cases is_brackets : mark = "[]"
    · rw [is_brackets]
      exact .brackets .nil
    · exact .of_lacks (no_link mark mark_mem is_brackets)
  stored lacks := ⟨lacks.linkless, Text.bares_of_lacks (lacks.mono (by decide))⟩
  simple lacks := ⟨lacks.simpleName.linkless, Text.bares_of_lacks (lacks.simpleName.mono (by decide))⟩
  call {name} lacks := by
    have name_lacks : Lacks linkMarks (simpleName name) := lacks.simpleName
    constructor
    · have plain : Lacks ['[', ']', '('] (simpleName name) := name_lacks.mono (by decide)
      have chars_eq : ("@" ++ simpleName name ++ "(").toList =
          '@' :: ((simpleName name).toList ++ ['(']) := by
        simp
      rw [chars_eq]
      exact .of_plain_call (List.forall_mem_cons.mpr ⟨by decide, plain⟩)
    · exact ((Text.bares_of_lacks (by decide)).append
        (Text.bares_of_lacks (name_lacks.mono (by decide)))).append
        (Text.bares_of_lacks (by decide))
  opening := ⟨.of_lacks (by decide), Text.bares_opening⟩
  closing := ⟨.of_lacks (by decide), Text.bares_closing⟩

namespace LinkSource

variable {source : LinkSource}

/-- The path behind the name of a type, if that is linked. -/
def typePath? (source : LinkSource) (type : TypeRef) : Option String :=
  type.declaredName?.bind fun name =>
    (source.graph.type? name).bind fun _ => source.pathTo? (.type name)

theorem typeLink_eq (type : TypeRef) :
    source.typeLink type =
      wrap (source.graph.documentationName .escaped type) (source.typePath? type) := by
  rw [typeLink, typeRef, typePath?, Graph.typeName]
  cases type.declaredName? with
  | none => rfl
  | some name =>
      simp only [Option.bind_some, named]
      cases source.graph.type? name <;> rfl

theorem not_mem_typePath? {char : Char} (not_mark : char ∉ ['.', '/', '$'])
    (sound : Sound source.graph.packages source.graph.types)
    (packages_free : ∀ package ∈ source.graph.packages, char ∉ package.name.toList)
    (types_free : ∀ decl ∈ source.graph.types, char ∉ decl.simpleName.toList)
    (extension_free : char ∉ source.site.extension.toList) (type : TypeRef) :
    ∀ path ∈ source.typePath? type, char ∉ path.toList := by
  intro path path_mem
  obtain ⟨name, -, path_mem⟩ := Option.bind_eq_some_iff.mp path_mem
  obtain ⟨decl, found, path_mem⟩ := Option.bind_eq_some_iff.mp path_mem
  obtain ⟨decl_mem, rfl⟩ := mem_of_findType? found
  rw [pathTo?] at path_mem
  split at path_mem
  · cases path_mem
  · exact Site.not_mem_relativeLink? not_mark sound packages_free types_free extension_free
      source.page decl_mem path path_mem

end LinkSource

/-! ## One parameter -/

/-- The text of a type with points for the brackets at its end, if it takes any number of values. -/
def withPoints (varargs : Bool) (type : String) : String :=
  if varargs then
    match Text.dropEnd? "[]" type with
    | some component => component ++ "..."
    | none => type
  else type

/-- A name behind a blank, if there is one. -/
def afterBlank (name : String) : String :=
  if name.isEmpty then "" else " " ++ name

theorem joinWords_eq (type name : String) :
    joinWords ["", type, name] = if type.isEmpty then name else type ++ afterBlank name := by
  by_cases type_empty : type.isEmpty <;> by_cases name_empty : name.isEmpty <;>
    simp_all [joinWords, Text.join, afterBlank, String.append_assoc]

theorem sees_afterBlank {name : String} (lacks : Lacks linkMarks name) :
    Sees (afterBlank name) (afterBlank name) := by
  unfold afterBlank
  split
  · exact Lacks.sees (by decide : Lacks linkMarks "")
  · exact (Lacks.sees (by decide : Lacks linkMarks " ")).append lacks.sees

/-- Points are put for the same brackets in running text without links and in what it reads as. -/
theorem withPoints_spelled (varargs : Bool) {text shown : String} (linkless : Linkless text.toList)
    (bares : Bares text shown) : Linkless (withPoints varargs text).toList ∧
      Bares (withPoints varargs text) (withPoints varargs shown) := by
  have ends_alike := Text.dropEnd?_brackets_bare text
  rw [bares.bare_eq] at ends_alike
  rw [withPoints, withPoints, ends_alike]
  split
  · cases dropped : Text.dropEnd? "[]" text with
    | none => exact ⟨linkless, bares⟩
    | some component =>
        rw [Text.dropEnd?_eq_some_iff.mp dropped, String.toList_append] at linkless
        constructor
        · rw [String.toList_append]
          exact linkless.of_append_brackets.append (.of_lacks (by decide))
        · intro rest
          have points_read := Text.bares_of_lacks (by decide : Lacks ['\\'] "...") rest
          have component_read : Text.bareList (component.toList ++ ("...".toList ++ rest)) =
              Text.bareList component.toList ++ Text.bareList ("...".toList ++ rest) :=
            Text.bareList_append _ rfl
          rw [String.toList_append, List.append_assoc, component_read, points_read,
            Option.map_some, String.toList_append, Text.toList_bare, List.append_assoc]
  · exact ⟨linkless, bares⟩

theorem wrap_ne_empty (text path : String) : (LinkSource.wrap text (some path)).isEmpty = false := by
  simp [LinkSource.wrap]

/-- A link does not end with the brackets of its text. -/
theorem withPoints_link (varargs : Bool) (text path : String) :
    withPoints varargs (LinkSource.wrap text (some path)) = LinkSource.wrap text (some path) := by
  rw [withPoints]
  split
  · cases dropped : Text.dropEnd? "[]" (LinkSource.wrap text (some path)) with
    | none => rfl
    | some component =>
        have chars_eq := congrArg String.toList (Text.dropEnd?_eq_some_iff.mp dropped)
        have last_eq := congrArg List.getLast? chars_eq
        simp only [LinkSource.wrap, String.toList_append, List.getLast?_append] at last_eq
        have marks_eq : some ')' = some ']' := last_eq
        exact absurd marks_eq (by decide)
  · rfl

namespace PageContext

variable {context : PageContext} {parameter : Parameter} {member : Member}

/-- No name that a parameter list or a path on it is made of has a mark of a link. -/
structure PlainlyNamed (context : PageContext) (parameters : List Parameter) : Prop where
  /-- Package names have none. -/
  packages_plain : ∀ package ∈ context.graph.packages, Lacks linkMarks package.name
  /-- Simple names of types have none. -/
  types_plain : ∀ decl ∈ context.graph.types, Lacks linkMarks decl.simpleName
  /-- The extension of the files has none. -/
  extension_plain : Lacks linkMarks context.source.site.extension
  /-- The names of parameters have none. -/
  names_plain : ∀ parameter ∈ parameters, Lacks linkMarks parameter.name
  /-- The texts in their types have none. -/
  texts_plain : ∀ parameter ∈ parameters, ∀ text ∈ parameter.type.texts, Lacks linkMarks text

/-- What a reader of a summary sees of a parameter: of a linked type the whole name, and of others
what the signature shows. -/
def seenParameter (context : PageContext) (parameter : Parameter) : String :=
  if (context.source.typePath? parameter.type).isSome then
    context.codeName parameter.type ++ afterBlank parameter.name
  else context.parameterText .code parameter

theorem parameterText_linked (context : PageContext) (parameter : Parameter) :
    context.parameterText .linked parameter =
      joinWords ["", withPoints parameter.varargs (context.source.typeLink parameter.type),
        parameter.name] := rfl

theorem parameterText_code (unannotated : parameter.annotations = []) :
    context.parameterText .code parameter =
      joinWords ["", withPoints parameter.varargs (context.codeName parameter.type),
        parameter.name] := by
  have no_text : (AnnotationWriter.plain context.graph).inline parameter.annotations = "" := by
    rw [unannotated]
    rfl
  rw [parameterText]
  simp only [no_text]
  rfl

theorem sees_parameterText (sound : Sound context.graph.packages context.graph.types)
    {parameters : List Parameter} (named : context.PlainlyNamed parameters)
    (parameter_mem : parameter ∈ parameters) (unannotated : parameter.annotations = []) :
    Sees (context.parameterText .linked parameter) (context.seenParameter parameter) := by
  have name_seen := sees_afterBlank (named.names_plain parameter parameter_mem)
  obtain ⟨linkless, bares⟩ : Linkless _ ∧ Bares _ (context.codeName parameter.type) :=
    respelling_linkless.documentationName parameter.type
      (named.texts_plain parameter parameter_mem)
  have link_eq : context.source.typeLink parameter.type =
      LinkSource.wrap (context.graph.documentationName .escaped parameter.type)
        (context.source.typePath? parameter.type) :=
    LinkSource.typeLink_eq parameter.type
  rw [parameterText_linked, link_eq, seenParameter]
  cases path_eq : context.source.typePath? parameter.type with
  | some path =>
      have no_end : ')' ∉ path.toList :=
        LinkSource.not_mem_typePath? (by decide) sound
          (fun package package_mem => (named.packages_plain package package_mem).not_mem (by decide))
          (fun decl decl_mem => (named.types_plain decl decl_mem).not_mem (by decide))
          (named.extension_plain.not_mem (by decide)) parameter.type path path_eq
      rw [withPoints_link, joinWords_eq, wrap_ne_empty, Option.isSome_some, if_neg (by decide),
        if_pos rfl]
      exact Sees.append ⟨_, Text.unlinks_link linkless no_end, bares⟩ name_seen
  | none =>
      obtain ⟨points_linkless, points_bare⟩ := withPoints_spelled parameter.varargs linkless bares
      have empty_alike : (withPoints parameter.varargs (context.codeName parameter.type)).isEmpty =
          (withPoints parameter.varargs
            (context.graph.documentationName .escaped parameter.type)).isEmpty := by
        rw [← points_bare.bare_eq, Bool.eq_iff_iff, String.isEmpty_iff, String.isEmpty_iff,
          Text.bare_eq_empty_iff]
      rw [Option.isSome_none, if_neg Bool.false_ne_true, LinkSource.wrap,
        parameterText_code unannotated, joinWords_eq, joinWords_eq, empty_alike]
      split
      · exact (named.names_plain parameter parameter_mem).sees
      · exact (points_linkless.sees points_bare).append name_seen

/-! ## Differences -/

/-- A reader of a summary sees a parameter otherwise than the signature shows it: its type is linked,
and either points stand for the brackets of the type in the signature alone, or the type has no text
at all and only the summary has a blank in front of the name. -/
def seenOtherwise (context : PageContext) (parameter : Parameter) : Bool :=
  (context.source.typePath? parameter.type).isSome &&
    (parameter.varargs && Text.endsWith "[]" (context.codeName parameter.type) ||
      (context.codeName parameter.type).isEmpty && !parameter.name.isEmpty)

theorem withPoints_of_not_endsWith {varargs : Bool} {type : String}
    (no_points : (varargs && Text.endsWith "[]" type) = false) : withPoints varargs type = type := by
  rw [withPoints]
  split
  · rename_i is_varargs
    have no_brackets : Text.endsWith "[]" type = false := by simpa [is_varargs] using no_points
    rw [Text.dropEnd?, no_brackets]
    rfl
  · rfl

theorem seenParameter_eq (unannotated : parameter.annotations = [])
    (alike : context.seenOtherwise parameter = false) :
    context.seenParameter parameter = context.parameterText .code parameter := by
  rw [seenParameter]
  split
  · rename_i linked
    rw [seenOtherwise, linked, Bool.true_and, Bool.or_eq_false_iff] at alike
    obtain ⟨no_points, no_blank⟩ := alike
    rw [parameterText_code unannotated, withPoints_of_not_endsWith no_points, joinWords_eq]
    split
    · rename_i type_empty
      have name_empty : parameter.name.isEmpty = true := by simpa [type_empty] using no_blank
      rw [String.isEmpty_iff.mp type_empty, String.isEmpty_iff.mp name_empty]
      rfl
    · rfl
  · rfl

/-- A blank that only one side has in front of a name is missing behind it on the other side. -/
theorem blank_append_ne (name : List Char) (back : List Char) {back' : List Char}
    (no_blank : back'.head? ≠ some ' ') : ' ' :: (name ++ back) ≠ name ++ back' := by
  induction name with
  | nil =>
      rintro rfl
      exact no_blank rfl
  | cons char rest ih =>
      intro chars_eq
      obtain ⟨rfl, rest_eq⟩ := List.cons.inj chars_eq
      exact ih rest_eq

/-- What differs in a list differs whatever follows, as no blank follows in the signature. -/
theorem seenParameter_append_ne (unannotated : parameter.annotations = [])
    (otherwise : context.seenOtherwise parameter = true) (back : String) {back' : String}
    (no_blank : back'.toList.head? ≠ some ' ') :
    context.seenParameter parameter ++ back ≠ context.parameterText .code parameter ++ back' := by
  rw [seenOtherwise, Bool.and_eq_true, Bool.or_eq_true, Bool.and_eq_true, Bool.and_eq_true]
    at otherwise
  obtain ⟨linked, ⟨varargs, ends⟩ | ⟨type_empty, named⟩⟩ := otherwise
  · obtain ⟨component, type_eq⟩ := Text.endsWith_iff.mp ends
    have points_eq : withPoints true (component ++ "[]") = component ++ "..." := by
      rw [withPoints, Text.dropEnd?_eq_some_iff.mpr rfl]
      rfl
    have points_ne : (component ++ "...").isEmpty = false := by simp
    rw [seenParameter, if_pos linked, parameterText_code unannotated, varargs, type_eq, points_eq,
      joinWords_eq, points_ne, if_neg Bool.false_ne_true]
    intro texts_eq
    have chars_eq := congrArg String.toList texts_eq
    simp only [String.toList_append, List.append_assoc, List.append_cancel_left_eq] at chars_eq
    have marks_eq : '[' = '.' := (List.cons.inj chars_eq).1
    exact absurd marks_eq (by decide)
  · rw [String.isEmpty_iff] at type_empty
    have no_points : withPoints parameter.varargs "" = "" := by
      cases parameter.varargs <;> rfl
    have name_behind : afterBlank parameter.name = " " ++ parameter.name := by
      rw [afterBlank, if_neg (by simpa using named)]
    rw [seenParameter, if_pos linked, parameterText_code unannotated, type_empty, no_points,
      joinWords_eq, name_behind]
    intro texts_eq
    have chars_eq := congrArg String.toList texts_eq
    simp only [String.toList_append] at chars_eq
    exact blank_append_ne parameter.name.toList back.toList no_blank chars_eq

theorem join_seenParameter_eq_iff {parameters : List Parameter}
    (unannotated : ∀ parameter ∈ parameters, parameter.annotations = []) :
    Text.join ", " (parameters.map context.seenParameter) =
        Text.join ", " (parameters.map (context.parameterText .code)) ↔
      ∀ parameter ∈ parameters, context.seenOtherwise parameter = false := by
  induction parameters with
  | nil => simp
  | cons parameter rest ih =>
      rw [List.forall_mem_cons] at unannotated
      rw [List.forall_mem_cons, List.map_cons, List.map_cons]
      cases otherwise : context.seenOtherwise parameter with
      | true =>
          simp only [Bool.true_eq_false, false_and, iff_false]
          cases rest with
          | nil =>
              have no_blank : "".toList.head? ≠ some ' ' := by decide
              simpa [Text.join] using seenParameter_append_ne unannotated.1 otherwise "" no_blank
          | cons next others =>
              rw [List.map_cons, List.map_cons, Text.join_cons (List.cons_ne_nil _ _),
                Text.join_cons (List.cons_ne_nil _ _), String.append_assoc, String.append_assoc]
              exact seenParameter_append_ne unannotated.1 otherwise _ (by simp)
      | false =>
          rw [seenParameter_eq unannotated.1 otherwise, ← ih unannotated.2, eq_self, true_and]
          cases rest with
          | nil => simp
          | cons next others =>
              rw [List.map_cons, List.map_cons, Text.join_cons (List.cons_ne_nil _ _),
                Text.join_cons (List.cons_ne_nil _ _), String.append_right_inj]

/-- A parameter that takes one value where its type is linked. -/
def singleIfLinked (context : PageContext) (parameter : Parameter) : Parameter :=
  { parameter with
    varargs := parameter.varargs && (context.source.typePath? parameter.type).isNone }

theorem seenParameter_eq_singleIfLinked (unannotated : parameter.annotations = [])
    (type_ne : context.codeName parameter.type ≠ "") :
    context.seenParameter parameter =
      context.parameterText .code (context.singleIfLinked parameter) := by
  have single_unannotated : (context.singleIfLinked parameter).annotations = [] := unannotated
  have type_text : (context.codeName parameter.type).isEmpty = false := by simpa using type_ne
  rw [seenParameter]
  cases path_eq : context.source.typePath? parameter.type with
  | some path =>
      rw [Option.isSome_some, if_pos rfl, parameterText_code single_unannotated, singleIfLinked,
        path_eq, Option.isNone_some, Bool.and_false, withPoints, if_neg Bool.false_ne_true,
        joinWords_eq, type_text, if_neg Bool.false_ne_true]
  | none =>
      rw [Option.isSome_none, if_neg Bool.false_ne_true, singleIfLinked, path_eq,
        Option.isNone_none, Bool.and_true]

/-- A reader sees the parameter list of a summary as the signature shows it exactly if no parameter
is seen otherwise.  Where each type has a text, the reader sees the list in which no parameter with
a linked type takes any number of values. -/
theorem seen_parameterList_eq_iff {snapshot : Snapshot} {rootType : String}
    (built : Graph.build snapshot rootType = .ok context.graph)
    (named : context.PlainlyNamed member.parameters)
    (unannotated : ∀ parameter ∈ member.parameters, parameter.annotations = []) :
    (seen (context.parameterList .linked member) = context.parameterList .code member ↔
        ∀ parameter ∈ member.parameters, context.seenOtherwise parameter = false) ∧
      ((∀ parameter ∈ member.parameters, context.codeName parameter.type ≠ "") →
        seen (context.parameterList .linked member) =
          context.parameterList .code
            { member with parameters := member.parameters.map context.singleIfLinked }) := by
  obtain ⟨-, -, sound⟩ := Graph.sound_of_build built
  have pieces_seen : List.Forall₂ Sees
      (member.parameters.map (context.parameterText .linked))
      (member.parameters.map context.seenParameter) := by
    rw [List.forall₂_map_left_iff, List.forall₂_map_right_iff, List.forall₂_same]
    intro parameter parameter_mem
    exact sees_parameterText sound named parameter_mem (unannotated parameter parameter_mem)
  have list_seen : seen (context.parameterList .linked member) =
      Text.join ", " (member.parameters.map context.seenParameter) :=
    (Sees.join (Lacks.sees (by decide : Lacks linkMarks ", ")) pieces_seen).seen_eq
  rw [list_seen]
  refine ⟨join_seenParameter_eq_iff unannotated, fun types_ne => ?_⟩
  rw [parameterList, List.map_map]
  refine congrArg (Text.join ", ") (List.map_congr_left fun parameter parameter_mem => ?_)
  exact seenParameter_eq_singleIfLinked (unannotated parameter parameter_mem)
    (types_ne parameter parameter_mem)

end PageContext

/-! ## A method on the page of another type -/

/-- A shop with carts and items. -/
def cartSnapshot : Snapshot where
  packages := [{ name := "shop" }]
  types :=
    [{ qualifiedName := "shop.Cart", simpleName := "Cart", kind := .classType
       enclosing := .package "shop" },
     { qualifiedName := "shop.Item", simpleName := "Item", kind := .classType
       enclosing := .package "shop" }]

/-- The page of carts. -/
def cartPage : PageContext :=
  ⟨{}, ⟨⟨defaultRootType, cartSnapshot.packages, cartSnapshot.types, []⟩, "md"⟩, .type "shop.Cart"⟩

/-- A method that takes any number of items. -/
def addAll : Member where
  kind := .method
  name := "addAll"
  parameters := [{ name := "items", type := .array (.named "shop.Item") [], varargs := true }]

theorem plainlyNamed_addAll : cartPage.PlainlyNamed addAll.parameters :=
  ⟨by decide, by decide, by decide, by decide, by decide⟩

theorem seen_parameterList_addAll :
    Graph.build cartSnapshot defaultRootType = .ok cartPage.graph ∧
      (∀ parameter ∈ addAll.parameters, parameter.annotations = []) ∧
      seen (cartPage.parameterList .linked addAll) =
        cartPage.parameterList .code
          { addAll with parameters := addAll.parameters.map cartPage.singleIfLinked } := by
  have built : Graph.build cartSnapshot defaultRootType = .ok cartPage.graph := rfl
  have unannotated : ∀ parameter ∈ addAll.parameters, parameter.annotations = [] := by
    simp [addAll]
  refine ⟨built, unannotated, ?_⟩
  exact (PageContext.seen_parameterList_eq_iff built plainlyNamed_addAll unannotated).2 (by decide)

/-- Of the items that have a page a summary shows the brackets, and the signature the points. -/
theorem seen_parameterList_addAll_ne :
    cartPage.parameterList .linked addAll = "[Item[]](Item.md) items" ∧
      seen (cartPage.parameterList .linked addAll) = "Item[] items" ∧
      cartPage.parameterList .code addAll = "Item... items" ∧
      ¬ ∀ (context : PageContext) (member : Member) (snapshot : Snapshot) (rootType : String),
        Graph.build snapshot rootType = .ok context.graph →
        context.PlainlyNamed member.parameters →
        (∀ parameter ∈ member.parameters, parameter.annotations = []) →
        seen (context.parameterList .linked member) = context.parameterList .code member := by
  refine ⟨by decide +kernel, by decide +kernel, by decide +kernel, fun alike => ?_⟩
  have lists_eq := alike cartPage addAll cartSnapshot defaultRootType rfl plainlyNamed_addAll
    (by simp [addAll])
  exact absurd lists_eq (by decide +kernel)

end RefDocs
