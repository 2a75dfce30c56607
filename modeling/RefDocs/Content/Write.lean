import RefDocs.Text.Escape
import RefDocs.Content.Basic
import RefDocs.Content.Depth

/-!
# Writing content

Every node is written for a given line separator, from a cursor that stands at the start of a
line or not, and tells where the cursor stands afterwards.  Blocks open on a fresh line and end
with a line separator, so no separator is ever doubled between neighbours.  Fences are as long as
their depth asks for: what is written here is written by a run unless a container overflows.
-/

namespace RefDocs

/-- Written text, with the state of the cursor behind it. -/
structure Written where
  /-- The text. -/
  text : String
  /-- The cursor stands at the start of a line. -/
  atLineStart : Bool
  deriving DecidableEq, Repr

namespace Written

/-- The text, ended by a line separator unless the cursor is at a line start already. -/
def closed (newline : String) (written : Written) : String :=
  if written.atLineStart then written.text else written.text ++ newline

end Written

/-- What brings the cursor to the start of a line. -/
def freshLine (newline : String) (atLineStart : Bool) : String :=
  if atLineStart then "" else newline

/-- The written form of a text run. -/
def Run.write (newline : String) (run : Run) (atLineStart : Bool) : Written :=
  if run.text.isEmpty then ⟨"", atLineStart⟩
  else
    let text := if run.escaped then Text.escape run.text else run.text
    ⟨Text.replaceChar '\n' newline text, run.text.toList.getLast? == some '\n'⟩

namespace TableStyle

/-- The one-line text of a cell from its rendered content: line breaks at the end are dropped and
the others become `<br>`; a pipe in a pipe table is escaped. -/
def cellText (style : TableStyle) (rendered : String) : String :=
  let line := Text.replaceChar '\n' "<br>" (Text.trimEndOf '\n' rendered)
  match style with
  | .html => line
  | .markdown => Text.replaceChar '|' "\\|" line

/-- A table from its headers and the texts of its cells. -/
def writeTable (newline : String) (headers : List String) (rows : List (List String)) :
    TableStyle → String
  | .html =>
    "<table>" ++ newline ++ "  <thead>" ++ newline ++ "    <tr>"
      ++ String.join (headers.map fun header => "<th>" ++ Text.escape header ++ "</th>")
      ++ "</tr>" ++ newline ++ "  </thead>" ++ newline ++ "  <tbody>" ++ newline
      ++ String.join (rows.map fun row =>
        "  <tr>" ++ String.join (row.map fun cell => "<td>" ++ cell ++ "</td>")
          ++ "</tr>" ++ newline)
      ++ "  </tbody>" ++ newline ++ "</table>" ++ newline
  | .markdown =>
    "|" ++ String.join (headers.map fun header => Text.replaceChar '|' "\\|" header ++ "|")
      ++ newline ++ "|" ++ Text.replicate headers.length "---|" ++ newline
      ++ String.join (rows.map fun row =>
        "|" ++ String.join (row.map fun cell => cell ++ "|") ++ newline)

end TableStyle

/-- The line above a table that carries its label. -/
def tableLabel (newline label : String) : String :=
  "**" ++ Text.escape label ++ "**" ++ newline ++ newline

/-- The line that opens a tab switcher. -/
def openTabs (newline : String) (key : Option String) : String :=
  ":::tabs" ++ (match key with
    | some key => " key:" ++ key
    | none => "") ++ newline

/-- The line that opens a tab. -/
def openTab (newline label : String) : String :=
  "== " ++ label ++ newline

/-- The line that closes a tab switcher. -/
def closeTabs (newline : String) : String :=
  ":::" ++ newline

namespace TabbedTable

/-- The rows that a tab selects. -/
def select {Row : Type} (selected : List Bool) (rows : List Row) : List Row :=
  ((selected.zip rows).filter Prod.fst).map Prod.snd

/-- The tabs that select at least one row, with the rows that they select. -/
def matching {Row : Type} (tabs : List (String × List Bool)) (rows : List Row) :
    List (String × List Row) :=
  (tabs.map fun tab => (tab.1, select tab.2 rows)).filter fun tab => !tab.2.isEmpty

/-- A tabbed table from the texts of its cells: a switcher where more than one tab matches or
tabs are forced, and else a single table. -/
def writeTables (newline : String) (table : TabbedTable Content) (headers : List String)
    (rows : List (List String)) : String :=
  let tabs := matching table.tabs rows
  let one (tab : String × List (List String)) : String :=
    table.style.writeTable newline headers tab.2
  if table.forced || tabs.length > 1 then
    let shown := if table.forced then (table.defaultLabel, rows) :: tabs else tabs
    openTabs newline table.key
      ++ String.join (shown.map fun tab => openTab newline tab.1 ++ one tab)
      ++ closeTabs newline
  else
    let single := tabs.headD (table.defaultLabel, rows)
    tableLabel newline single.1 ++ one single

end TabbedTable

namespace Content

mutual

/-- The written form of a node. -/
def write (newline : String) : Content → Bool → Written
  | .run piece, atLineStart => piece.write newline atLineStart
  | .sequence children, atLineStart => writeAll newline children atLineStart
  | .container kind header body, atLineStart =>
    if body.isEmpty then ⟨"", atLineStart⟩
    else
      let inner := write newline body true
      let depth := Depth.around inner.text
      ⟨freshLine newline atLineStart ++ Depth.marker depth ++ newline
        ++ Depth.fence depth ++ " " ++ kind.word ++ writeHeader newline header
        ++ inner.closed newline ++ Depth.fence depth ++ newline, true⟩
  | .wrapper frame, atLineStart => write newline frame atLineStart
  | .anchored anchor body, atLineStart =>
    if body.isEmpty then ⟨"", atLineStart⟩
    else
      ⟨freshLine newline atLineStart ++ "<section id=\"" ++ Text.escape anchor ++ "\">"
        ++ newline ++ newline ++ (write newline body true).closed newline
        ++ newline ++ "</section>" ++ newline ++ newline, true⟩
  | .table ⟨style, caption, some ⟨headers, rows⟩⟩, atLineStart =>
    if rows.isEmpty then ⟨"", atLineStart⟩
    else
      let label := match caption with
        | some caption => tableLabel newline caption
        | none => ""
      ⟨freshLine newline atLineStart ++ label
        ++ style.writeTable newline headers (rowTexts style rows), true⟩
  | .table ⟨_, _, none⟩, atLineStart => ⟨"", atLineStart⟩
  | .tabs ⟨key, named⟩, atLineStart =>
    if allTabsEmpty named then ⟨"", atLineStart⟩
    else
      ⟨freshLine newline atLineStart ++ openTabs newline key ++ writeTabs newline named
        ++ closeTabs newline, true⟩
  | .tabbed ⟨style, defaultLabel, key, forced, selections, some ⟨headers, rows⟩⟩, atLineStart =>
    if rows.isEmpty then ⟨"", atLineStart⟩
    else
      ⟨freshLine newline atLineStart
        ++ TabbedTable.writeTables newline
          ⟨style, defaultLabel, key, forced, selections, none⟩ headers (rowTexts style rows),
        true⟩
  | .tabbed ⟨_, _, _, _, _, none⟩, atLineStart => ⟨"", atLineStart⟩
termination_by structural content => content

/-- The rest of the line of an opening fence: the header behind a blank, if there is one. -/
def writeHeader (newline : String) : Option Content → String
  | some header =>
    if header.isEmpty then newline else " " ++ (write newline header false).closed newline
  | none => newline
termination_by structural header => header

/-- The written form of the children of a sequence, each closed by a line separator. -/
def writeAll (newline : String) : List Content → Bool → Written
  | [], atLineStart => ⟨"", atLineStart⟩
  | child :: rest, atLineStart =>
    if child.isEmpty then writeAll newline rest atLineStart
    else
      let others := writeAll newline rest true
      ⟨(write newline child atLineStart).closed newline ++ others.text, others.atLineStart⟩
termination_by structural children => children

/-- The written form of the tabs that are not empty. -/
def writeTabs (newline : String) : List (String × List Content) → String
  | [] => ""
  | (name, children) :: rest =>
    if allEmpty children then writeTabs newline rest
    else
      openTab newline name ++ (writeAll newline children true).closed newline
        ++ writeTabs newline rest
termination_by structural named => named

/-- The texts of the cells of a row.  Cells are rendered with plain line breaks. -/
def cellTexts (style : TableStyle) : List Content → List String
  | [] => []
  | cell :: rest => style.cellText (write "\n" cell true).text :: cellTexts style rest
termination_by structural cells => cells

/-- The texts of the cells of each row. -/
def rowTexts (style : TableStyle) : List (List Content) → List (List String)
  | [] => []
  | row :: rest => cellTexts style row :: rowTexts style rest
termination_by structural rows => rows

end

/-- The text of a node written from the start of a line. -/
def render (newline : String) (content : Content) : String :=
  (content.write newline true).text

end Content

end RefDocs
