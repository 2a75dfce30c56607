import RefDocs.Content.Tabs
import RefDocs.Snapshot.Basic

/-!
# Member layout

What summaries and details of the member kinds have of their own: labels, table columns and the
tabs that members are sorted into.
-/

namespace RefDocs

/-- A column of a member summary. -/
inductive Column where
  | modifierAndType | modifier | type
  /-- The name of the member, under a header that depends on its kind. -/
  | name
  | description
  deriving DecidableEq, Repr

/-- What the tabs of a summary select members by. -/
structure MemberFacts where
  /-- Declared static. -/
  isStatic : Bool
  /-- Declared abstract, or an interface method without a body. -/
  isAbstract : Bool
  /-- Declared as a default method. -/
  isDefault : Bool
  /-- The member or its type is deprecated. -/
  isDeprecated : Bool
  /-- A member of an interface. -/
  inInterface : Bool
  deriving DecidableEq, Repr

/-- The facts about a member of a type. -/
def Member.facts (owner : TypeDecl) (member : Member) : MemberFacts :=
  let isStatic := member.modifiers.contains .isStatic
  let isDefault := member.modifiers.contains .isDefault
  let bodyless := owner.isInterface && member.kind = .method && !isStatic && !isDefault
  { isStatic, isDefault
    isAbstract := member.modifiers.contains .isAbstract || bodyless
    isDeprecated := member.deprecated.isSome || owner.deprecated.isSome
    inInterface := owner.isInterface }

/-- The layout of the members of a kind. -/
structure MemberLayout where
  /-- Heading of the summary. -/
  summaryLabel : String
  /-- Heading of the details. -/
  detailsLabel : String
  /-- Label of the summary table where no tab applies. -/
  defaultTab : String
  /-- Header of the name column. -/
  nameHeader : String
  /-- The columns of the summary. -/
  columns : List Column
  /-- The tabs of the summary. -/
  tabs : List (TabRule MemberFacts) := []

/-- The tabs of method summaries. -/
def methodTabs : List (TabRule MemberFacts) :=
  [⟨"Static Methods", fun facts => facts.isStatic⟩,
    ⟨"Instance Methods", fun facts => !facts.isStatic⟩,
    ⟨"Abstract Methods", fun facts => facts.isAbstract⟩,
    ⟨"Concrete Methods", fun facts => !facts.isAbstract && !facts.inInterface⟩,
    ⟨"Default Methods", fun facts => facts.isDefault⟩,
    ⟨"Deprecated Methods", fun facts => facts.isDeprecated⟩]

namespace MemberKind

/-- The member kinds in the order of their sections on a page. -/
def inPageOrder : List MemberKind :=
  [.enumConstant, .property, .field, .constructor, .annotationElement, .method]

/-- The layout of a member kind. -/
def layout : MemberKind → MemberLayout
  | .enumConstant =>
    { summaryLabel := "Enum Constant Summary", detailsLabel := "Enum Constant Details"
      defaultTab := "Enum Constants", nameHeader := "Enum Constant"
      columns := [.name, .description] }
  | .property =>
    { summaryLabel := "Property Summary", detailsLabel := "Property Details"
      defaultTab := "Properties", nameHeader := "Property"
      columns := [.type, .name, .description] }
  | .field =>
    { summaryLabel := "Field Summary", detailsLabel := "Field Details"
      defaultTab := "Fields", nameHeader := "Field"
      columns := [.modifierAndType, .name, .description] }
  | .constructor =>
    { summaryLabel := "Constructor Summary", detailsLabel := "Constructor Details"
      defaultTab := "Constructors", nameHeader := "Constructor"
      columns := [.modifier, .name, .description] }
  | .annotationElement =>
    { summaryLabel := "Annotation Interface Element Summary"
      detailsLabel := "Annotation Interface Element Details"
      defaultTab := "Annotation Interface Elements", nameHeader := "Element"
      columns := [.modifierAndType, .name, .description] }
  | .method =>
    { summaryLabel := "Method Summary", detailsLabel := "Method Details"
      defaultTab := "All Methods", nameHeader := "Method"
      columns := [.modifierAndType, .name, .description], tabs := methodTabs }

end MemberKind

namespace MemberLayout

/-- The header of a column. -/
def header (layout : MemberLayout) : Column → String
  | .modifierAndType => "Modifier and Type"
  | .modifier => "Modifier"
  | .type => "Type"
  | .name => layout.nameHeader
  | .description => "Description"

/-- The headers of a summary. -/
def headers (layout : MemberLayout) : List String :=
  layout.columns.map layout.header

/-- A summary without rows. -/
def summaryTable (layout : MemberLayout) (style : TableStyle) : TabbedBlock MemberFacts where
  style := style
  defaultLabel := layout.defaultTab
  tabs := layout.tabs
  grid := some ⟨layout.headers, []⟩

end MemberLayout
end RefDocs
