import RefDocs.Content.Basic

/-!
# Tabs

Tab groups collect content under names.  A tabbed block holds table rows that carry an item, and
each of its tabs selects rows by a predicate on the item; as content, the block keeps only which
tab selects which row.
-/

namespace RefDocs

namespace TabGroup

/-- The tabs with content appended under a name, which opens a tab when it is new. -/
def addTo {Cell : Type} (name : String) (content : Cell) :
    List (String × List Cell) → List (String × List Cell)
  | [] => [(name, [content])]
  | (other, contents) :: rest =>
    if other = name then (other, contents ++ [content]) :: rest
    else (other, contents) :: addTo name content rest

/-- The group with content appended to the tab of a name. -/
def addTab {Cell : Type} (name : String) (content : Cell) (group : TabGroup Cell) :
    TabGroup Cell :=
  { group with tabs := addTo name content group.tabs }

/-- The tabs with content appended to the tab created last, if there is one. -/
def appendToLast? {Cell : Type} (content : Cell) :
    List (String × List Cell) → Option (List (String × List Cell))
  | [] => none
  | [(name, contents)] => some [(name, contents ++ [content])]
  | tab :: rest => (appendToLast? content rest).map (tab :: ·)

end TabGroup

/-- A tab of a tabbed block. -/
structure TabRule (Item : Type) where
  /-- The label of the tab. -/
  label : String
  /-- The tab shows the rows whose item satisfies this. -/
  selects : Item → Bool

/-- Table rows tagged with items, to be spread over tabs. -/
structure TabbedBlock (Item : Type) where
  /-- The written form of each table. -/
  style : TableStyle
  /-- Label over all rows together. -/
  defaultLabel : String
  /-- Key shared by the blocks that switch together. -/
  key : Option String := none
  /-- A switcher is written in any case, led by a tab with every row. -/
  forced : Bool := false
  /-- The tabs in order of declaration. -/
  tabs : List (TabRule Item) := []
  /-- Headers and tagged rows, once the headers are set. -/
  grid : Option (Grid (Item × List Content)) := none

namespace TabbedBlock

/-- The block with the given headers over the rows that it has. -/
def withHeaders {Item : Type} (headers : List String) (block : TabbedBlock Item) :
    TabbedBlock Item :=
  { block with grid := some (Grid.withHeaders headers block.grid) }

/-- The block with one more tab. -/
def withTab {Item : Type} (label : String) (selects : Item → Bool) (block : TabbedBlock Item) :
    TabbedBlock Item :=
  { block with tabs := block.tabs ++ [⟨label, selects⟩] }

/-- The block with one more row, tagged with an item. -/
def addRow {Item : Type} (item : Item) (cells : List Content) (block : TabbedBlock Item) :
    Except ContentError (TabbedBlock Item) := do
  let grid ← Grid.addRow (item, cells) cells.length block.grid
  return { block with grid := some grid }

/-- The tables of the block, with each predicate replaced by its answers on the rows. -/
def spread {Item : Type} (block : TabbedBlock Item) : TabbedTable Content where
  style := block.style
  defaultLabel := block.defaultLabel
  key := block.key
  forced := block.forced
  tabs := block.tabs.map fun tab =>
    (tab.label, (Grid.rowsOf block.grid).map fun row => tab.selects row.1)
  grid := block.grid.map fun grid => ⟨grid.headers, grid.rows.map Prod.snd⟩

/-- The block as a content node. -/
def toContent {Item : Type} (block : TabbedBlock Item) : Content :=
  .tabbed block.spread

end TabbedBlock

end RefDocs
