import RefDocs.Markup.Render
import RefDocs.Proofs.Graph.Alike

/-!
# Names and links in graphs that are alike

Names of types and packages, the paths of pages and the links between them do not depend on more
than declarations show of each other.  So comments are rendered alike on a page that is written.
-/

namespace RefDocs

/-! ## Names -/

namespace Graph.Alike

variable {graph graph' : Graph}

theorem packagePart?_eq (alike : graph.Alike graph') :
    graph.packagePart? = graph'.packagePart? := by
  funext name
  rw [packagePart?, packagePart?, packageEnd?, packageEnd?]
  rcases optionRel_iff.mp (alike.rel_type? name) with
    ⟨found_eq, found_eq'⟩ | ⟨decl, decl', found_eq, found_eq', decl_alike⟩
  · simp only [found_eq, found_eq']
  · simp only [found_eq, found_eq', alike.ownerName_eq decl_alike]

theorem plain_eq (alike : graph.Alike graph') :
    AnnotationWriter.plain graph = AnnotationWriter.plain graph' := by
  rw [AnnotationWriter.plain, AnnotationWriter.plain, alike.showsAnnotation_eq]

theorem isImpliedBound_eq (alike : graph.Alike graph') :
    graph.isImpliedBound = graph'.isImpliedBound := by
  funext bounds
  unfold isImpliedBound
  rw [alike.rootType_eq]

theorem leadingAnnotations_eq (alike : graph.Alike graph') :
    graph.leadingAnnotations = graph'.leadingAnnotations := by
  funext uses
  rw [leadingAnnotations, leadingAnnotations, alike.plain_eq]

mutual

theorem documentationName_eq (alike : graph.Alike graph') (brackets : Brackets) :
    ∀ type, graph.documentationName brackets type = graph'.documentationName brackets type
  | .declared name arguments enclosing annotations => by
      rw [documentationName, documentationName, enclosingPart_eq alike brackets enclosing,
        documentationNames_eq alike brackets arguments, alike.leadingAnnotations_eq]
  | .typeVariable name bounds annotations => by
      rw [documentationName, documentationName, documentationNames_eq alike brackets bounds,
        alike.leadingAnnotations_eq, alike.isImpliedBound_eq]
  | .wildcard upper lower annotations => by
      rw [documentationName, documentationName, boundPart_eq alike brackets " extends " upper,
        boundPart_eq alike brackets " super " lower, alike.leadingAnnotations_eq]
  | .primitive name annotations => by
      rw [documentationName, documentationName, alike.leadingAnnotations_eq]
  | .array component annotations => by
      rw [documentationName, documentationName, documentationName_eq alike brackets component,
        alike.leadingAnnotations_eq]
  | .void => rfl

theorem documentationNames_eq (alike : graph.Alike graph') (brackets : Brackets) :
    ∀ types, graph.documentationNames brackets types = graph'.documentationNames brackets types
  | [] => rfl
  | type :: rest => by
      rw [documentationNames, documentationNames, documentationName_eq alike brackets type,
        documentationNames_eq alike brackets rest]

theorem enclosingPart_eq (alike : graph.Alike graph') (brackets : Brackets) :
    ∀ outer?, graph.enclosingPart brackets outer? = graph'.enclosingPart brackets outer?
  | none => rfl
  | some outer => by
      rw [enclosingPart, enclosingPart, documentationName_eq alike brackets outer]

theorem boundPart_eq (alike : graph.Alike graph') (brackets : Brackets) (keyword : String) :
    ∀ bound?, graph.boundPart brackets keyword bound? = graph'.boundPart brackets keyword bound?
  | none => rfl
  | some bound => by
      rw [boundPart, boundPart, documentationName_eq alike brackets bound]

end

theorem typeName_eq (alike : graph.Alike graph') : graph.typeName = graph'.typeName := by
  funext mode brackets type
  cases mode with
  | qualified => rfl
  | simple => rfl
  | documentation => exact documentationName_eq alike brackets type
  | packageQualified =>
      rw [typeName, typeName, alike.packagePart?_eq, documentationName_eq alike brackets type]

theorem typeStem_eq (alike : graph.Alike graph') :
    Site.typeStem graph = Site.typeStem graph' := by
  funext name
  rw [Site.typeStem, Site.typeStem]
  rcases optionRel_iff.mp (alike.rel_type? name) with
    ⟨found_eq, found_eq'⟩ | ⟨decl, decl', found_eq, found_eq', decl_alike⟩
  · simp only [found_eq, found_eq']
  · have names_eq := map_eq_of_forall₂ (alike.forall₂_enclosingChain decl_alike)
      fun _ _ outer_alike => outer_alike.same TypeDecl.simpleName fun _ => rfl
    simp only [found_eq, found_eq', List.map_reverse, names_eq]

end Graph.Alike

/-! ## Paths -/

/-- Two sites with one extension whose graphs are alike. -/
structure Site.Alike (site site' : Site) : Prop where
  /-- The declarations are alike. -/
  graph : site.graph.Alike site'.graph
  /-- The files have the same extension. -/
  extension_eq : site.extension = site'.extension

namespace Site.Alike

variable {site site' : Site}

theorem isKnown_eq (alike : site.Alike site') : site.isKnown = site'.isKnown := by
  funext page
  cases page with
  | package name => exact congrFun alike.graph.knowsPackage_eq name
  | type name => exact congrFun alike.graph.knowsType_eq name
  | constants => rfl

theorem segments_eq (alike : site.Alike site') : site.segments = site'.segments := by
  funext page
  cases page with
  | package name => rfl
  | type name =>
      have owner_eq := map_eq_of_optionRel (alike.graph.rel_type? name)
        fun _ _ decl_alike => alike.graph.ownerName_eq decl_alike
      rw [segments, segments, owner_eq]
  | constants => rfl

theorem fileName_eq (alike : site.Alike site') : site.fileName = site'.fileName := by
  funext page
  cases page with
  | package name => exact congrArg ("index." ++ ·) alike.extension_eq
  | type name =>
      have stem_eq := congrFun alike.graph.typeStem_eq name
      exact congrArg₂ (fun stem extension => stem ++ "." ++ extension) stem_eq alike.extension_eq
  | constants => exact congrArg ("constant-values." ++ ·) alike.extension_eq

theorem pagePath_eq (alike : site.Alike site') : site.pagePath = site'.pagePath := by
  funext page
  rw [pagePath, pagePath, alike.segments_eq, alike.fileName_eq]

theorem relativeLink?_eq (alike : site.Alike site') :
    site.relativeLink? = site'.relativeLink? := by
  funext source target
  rw [relativeLink?, relativeLink?, alike.isKnown_eq, alike.segments_eq, alike.fileName_eq]

end Site.Alike

/-! ## Links -/

/-- Links from one page that is written, in two sites that are alike. -/
structure LinkSource.Alike (source source' : LinkSource) : Prop where
  /-- The sites are alike. -/
  site : source.site.Alike source'.site
  /-- The links start from the same page. -/
  page_eq : source.page = source'.page
  /-- The page is written. -/
  known : source.site.isKnown source.page = true

namespace LinkSource.Alike

variable {source source' : LinkSource}

theorem graph (alike : source.Alike source') : source.graph.Alike source'.graph :=
  alike.site.graph

theorem pathTo?_eq (alike : source.Alike source') : source.pathTo? = source'.pathTo? := by
  funext target
  rw [pathTo?, pathTo?, alike.page_eq, alike.site.relativeLink?_eq]

theorem named_eq (alike : source.Alike source') : source.named = source'.named := by
  funext name text
  rw [named, named, alike.pathTo?_eq]
  rcases optionRel_iff.mp (alike.graph.rel_type? name) with
    ⟨found_eq, found_eq'⟩ | ⟨decl, decl', found_eq, found_eq', -⟩
  · simp only [found_eq, found_eq']
  · simp only [found_eq, found_eq']

theorem typeRef_eq (alike : source.Alike source') : source.typeRef = source'.typeRef := by
  funext mode type
  rw [typeRef, typeRef, alike.graph.typeName_eq, alike.named_eq]

theorem typeLink_eq (alike : source.Alike source') : source.typeLink = source'.typeLink := by
  funext type
  rw [typeLink, typeLink, alike.typeRef_eq]

theorem declLink_eq (alike : source.Alike source') (mode : NameMode) {decl decl' : TypeDecl}
    (decl_alike : decl.Alike decl') : source.declLink mode decl = source'.declLink mode decl' := by
  rw [declLink, declLink, alike.typeRef_eq, decl_alike.same TypeDecl.selfType fun _ => rfl]

theorem package_eq (alike : source.Alike source') : source.package = source'.package := by
  funext qualified name
  rw [package, package, alike.pathTo?_eq]

theorem member_eq (alike : source.Alike source') : source.member = source'.member := by
  funext owner anchor text
  rw [member, member, alike.page_eq, alike.site.relativeLink?_eq]

/-- No link leads to the members of a type that is not known, so no anchor is shown. -/
theorem member_unknown (alike : source.Alike source') {owner : TypeDecl}
    (found : source.graph.type? owner.qualifiedName = some owner) (unknown : owner.included = false)
    (anchor text : String) : source.member owner.qualifiedName anchor text = text := by
  have owner_unknown : source.site.isKnown (.type owner.qualifiedName) = false := by
    simp [Site.isKnown, Graph.knowsType, show source.site.graph.type? _ = _ from found, unknown]
  have page_ne : source.page ≠ .type owner.qualifiedName := by
    intro page_eq
    have known := alike.known
    rw [page_eq, owner_unknown] at known
    cases known
  rw [member, if_neg page_ne, Site.relativeLink?, if_neg page_ne, owner_unknown, Bool.and_false,
    if_neg Bool.false_ne_true]
  rfl

end LinkSource.Alike

/-! ## Comments -/

namespace LinkSource.Alike

variable {source source' : LinkSource}

theorem rel_linkOwner? (alike : source.Alike source') (target : String) :
    Option.Rel TypeDecl.Alike (Markup.linkOwner? source target)
      (Markup.linkOwner? source' target) := by
  rw [Markup.linkOwner?, Markup.linkOwner?, alike.page_eq]
  split
  · split
    · exact alike.graph.rel_type? _
    · exact .none
  · exact alike.graph.rel_type? target

theorem type?_linkOwner? {target : String} {owner : TypeDecl}
    (owner_eq : Markup.linkOwner? source target = some owner) :
    source.graph.type? owner.qualifiedName = some owner := by
  have found_again {name : String} (found : source.graph.type? name = some owner) :
      source.graph.type? owner.qualifiedName = some owner := by
    obtain ⟨-, rfl⟩ := mem_of_findType? found
    exact found
  rw [Markup.linkOwner?] at owner_eq
  split at owner_eq
  · split at owner_eq
    · exact found_again owner_eq
    · cases owner_eq
  · exact found_again owner_eq

/-- References to members lead to the same places: to an anchor of a known type, and nowhere
otherwise. -/
theorem member_anchor_eq (alike : source.Alike source') {owner owner' : TypeDecl}
    (owner_alike : owner.Alike owner')
    (found : source.graph.type? owner.qualifiedName = some owner) (reference text : String) :
    source.member owner.qualifiedName (Reference.anchor owner reference) text =
      source'.member owner'.qualifiedName (Reference.anchor owner' reference) text := by
  rw [← alike.member_eq, ← owner_alike.qualifiedName_eq]
  cases known : owner.included with
  | true => rw [owner_alike.anchor_eq known]
  | false => rw [alike.member_unknown found known, alike.member_unknown found known]

theorem linkTo_eq (alike : source.Alike source') :
    Markup.linkTo source = Markup.linkTo source' := by
  funext target member text
  unfold Markup.linkTo
  rcases optionRel_iff.mp (alike.rel_linkOwner? target) with
    ⟨owner_eq, owner_eq'⟩ | ⟨owner, owner', owner_eq, owner_eq', owner_alike⟩
  · rw [owner_eq, owner_eq']
    rcases optionRel_iff.mp (alike.graph.rel_package? target) with
      ⟨found_eq, found_eq'⟩ | ⟨decl, decl', found_eq, found_eq', -⟩
    · simp only [found_eq, found_eq']
    · simp only [found_eq, found_eq', Markup.packageLink, alike.pathTo?_eq]
  · rw [owner_eq, owner_eq']
    cases member with
    | none => exact congrFun (congrFun alike.named_eq target) text
    | some reference =>
        exact alike.member_anchor_eq owner_alike (type?_linkOwner? owner_eq) reference text

mutual

theorem writeNode_eq (alike : source.Alike source') :
    ∀ node, Markup.writeNode source node = Markup.writeNode source' node
  | .link target member label plain => by
      rw [Markup.writeNode, Markup.writeNode, writeNodes_eq alike label, alike.linkTo_eq]
  | .text _ | .startElement _ | .endElement _ | .entity _ | .code _ | .literal _ | .comment _
  | .blockTag .. => rfl

theorem writeNodes_eq (alike : source.Alike source') :
    ∀ nodes, Markup.writeNodes source nodes = Markup.writeNodes source' nodes
  | [] => rfl
  | node :: rest => by
      rw [Markup.writeNodes, Markup.writeNodes, writeNode_eq alike node, writeNodes_eq alike rest]

end

/-- Comments are rendered alike. -/
theorem render_eq (alike : source.Alike source') :
    Markup.render source = Markup.render source' := by
  funext nodes
  simp only [Markup.render, writeNodes_eq alike]

end LinkSource.Alike
end RefDocs
