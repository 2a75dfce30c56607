/-!
# Content trees

A page is assembled as a tree of content nodes and written in one pass.  This module holds the
node types, the test for a tree that writes nothing, and the builders of tables.
-/

namespace RefDocs

/-- Why content cannot be built. -/
inductive ContentError where
  /-- A row came before the column headers. -/
  | headersNotSet
  /-- A row has another number of cells than the table has columns. -/
  | rowArity (expected found : Nat)
  /-- A frame has no sequence that children could be appended to. -/
  | noSlot
  deriving DecidableEq, Repr

/-- The text of a content error. -/
def ContentError.message : ContentError → String
  | .headersNotSet => "Table rows added before headers were set"
  | .rowArity expected found =>
    s!"Table row has {found} cells but the table has {expected} columns"
  | .noSlot => "Wrapper frame has no accumulation target"

/-- A run of text, with `\n` as its line break. -/
structure Run where
  /-- The characters of the run. -/
  text : String
  /-- Reserved characters are written as references. -/
  escaped : Bool
  deriving DecidableEq, Repr

namespace Run

/-- A run with more text at its end. -/
def append (run : Run) (more : String) : Run :=
  { run with text := run.text ++ more }

end Run

/-- The kinds of fenced container. -/
inductive ContainerKind where
  | info | tip | warning | danger | details
  deriving DecidableEq, Repr

/-- The word written after the opening fence. -/
def ContainerKind.word : ContainerKind → String
  | .info => "info"
  | .tip => "tip"
  | .warning => "warning"
  | .danger => "danger"
  | .details => "details"

/-- The two written forms of a table. -/
inductive TableStyle where
  /-- Element markup, which survives inside containers and tabs. -/
  | html
  /-- Lines of cells between pipes. -/
  | markdown
  deriving DecidableEq, Repr

/-- Column headers and the rows under them. -/
structure Grid (Row : Type) where
  /-- One text per column. -/
  headers : List String
  /-- The rows in order. -/
  rows : List Row
  deriving DecidableEq, Repr

namespace Grid

/-- The grid with other headers and the same rows, or an empty grid where there was none. -/
def withHeaders {Row : Type} (headers : List String) : Option (Grid Row) → Grid Row
  | none => ⟨headers, []⟩
  | some grid => { grid with headers }

/-- The grid with one more row, whose cell count has to be the number of columns. -/
def addRow {Row : Type} (row : Row) (cellCount : Nat) :
    Option (Grid Row) → Except ContentError (Grid Row)
  | none => .error .headersNotSet
  | some grid =>
    if grid.headers.length = cellCount then .ok { grid with rows := grid.rows ++ [row] }
    else .error (.rowArity grid.headers.length cellCount)

/-- The rows of a grid that may be missing. -/
def rowsOf {Row : Type} : Option (Grid Row) → List Row
  | none => []
  | some grid => grid.rows

end Grid

/-- A table of cells; without headers it has no rows. -/
structure Table (Cell : Type) where
  /-- The written form. -/
  style : TableStyle
  /-- Label written above the table. -/
  caption : Option String := none
  /-- Headers and rows, once the headers are set. -/
  grid : Option (Grid (List Cell)) := none
  deriving DecidableEq, Repr

/-- Named tabs, each a sequence of its own. -/
structure TabGroup (Cell : Type) where
  /-- Key shared by the groups that switch together. -/
  key : Option String := none
  /-- The tabs in order of first use. -/
  tabs : List (String × List Cell) := []
  deriving DecidableEq, Repr

/-- A table whose rows are spread over tabs that select some of them. -/
structure TabbedTable (Cell : Type) where
  /-- The written form of each table. -/
  style : TableStyle
  /-- Label over all rows together. -/
  defaultLabel : String
  /-- Key shared by the tables that switch together. -/
  key : Option String
  /-- A switcher is written in any case, led by a tab with every row. -/
  forced : Bool
  /-- The label of each tab, and for each row whether the tab selects it. -/
  tabs : List (String × List Bool)
  /-- Headers and rows, once the headers are set. -/
  grid : Option (Grid (List Cell))
  deriving DecidableEq, Repr

/-- A node of a page. -/
inductive Content where
  /-- A run of text. -/
  | run (run : Run)
  /-- Children that each start on a fresh line. -/
  | sequence (children : List Content)
  /-- A fenced block with an optional header on its first line. -/
  | container (kind : ContainerKind) (header : Option Content) (body : Content)
  /-- A frame whose innermost sequence takes further children. -/
  | wrapper (frame : Content)
  /-- A block that can be linked to by its anchor. -/
  | anchored (anchor : String) (body : Content)
  /-- A table. -/
  | table (table : Table Content)
  /-- A tab switcher. -/
  | tabs (group : TabGroup Content)
  /-- A table spread over tabs. -/
  | tabbed (table : TabbedTable Content)

namespace Content

/-- A text run whose reserved characters are escaped. -/
def text (text : String) : Content :=
  .run ⟨text, true⟩

/-- A text run that is markup already. -/
def raw (text : String) : Content :=
  .run ⟨text, false⟩

/-- A node that writes nothing. -/
def empty : Content :=
  .sequence []

instance : Inhabited Content :=
  ⟨.empty⟩

mutual

/-- A node that writes nothing. -/
def isEmpty : Content → Bool
  | .run piece => piece.text.isEmpty
  | .sequence children => allEmpty children
  | .container _ _ body => body.isEmpty
  | .wrapper frame => frame.isEmpty
  | .anchored _ body => body.isEmpty
  | .table plain => (Grid.rowsOf plain.grid).isEmpty
  | .tabs ⟨_, named⟩ => allTabsEmpty named
  | .tabbed spread => (Grid.rowsOf spread.grid).isEmpty
termination_by structural content => content

/-- Every node of a list writes nothing. -/
def allEmpty : List Content → Bool
  | [] => true
  | child :: rest => child.isEmpty && allEmpty rest
termination_by structural children => children

/-- Every tab of a list writes nothing. -/
def allTabsEmpty : List (String × List Content) → Bool
  | [] => true
  | (_, children) :: rest => allEmpty children && allTabsEmpty rest
termination_by structural named => named

end

end Content

namespace Table

/-- The table with the given headers over the rows that it has. -/
def withHeaders {Cell : Type} (headers : List String) (table : Table Cell) : Table Cell :=
  { table with grid := some (Grid.withHeaders headers table.grid) }

/-- The table with one more row. -/
def addRow {Cell : Type} (cells : List Cell) (table : Table Cell) :
    Except ContentError (Table Cell) := do
  let grid ← Grid.addRow cells cells.length table.grid
  return { table with grid := some grid }

end Table

end RefDocs
