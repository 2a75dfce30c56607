import RefDocs.Content.Write

/-!
# Containers that are written

Which containers are written for a tree, and with which separator: those in the cells of tables are
written with line feeds, whatever the separator of the page.  A container whose depth or fence
overflows ends the writing, and nothing is kept of what was written before it.
-/

namespace RefDocs

/-- A container that is written, with the separator of its lines. -/
structure FencedBlock where
  /-- The separator of the lines in it. -/
  newline : String
  /-- The kind of the container. -/
  kind : ContainerKind
  /-- The header on the line of the opening fence. -/
  header : Option Content
  /-- What is between the fences. -/
  body : Content
  /-- A container with an empty body is not written. -/
  body_written : body.isEmpty = false

namespace FencedBlock

/-- What is written between the fences. -/
def bodyText (block : FencedBlock) : String :=
  (block.body.write block.newline true).text

/-- The fence of a container; none if its depth or its fence overflows. -/
def fence? (block : FencedBlock) : Option String := do
  let depth ← Depth.around? block.bodyText
  Depth.fence? depth

end FencedBlock

namespace TabbedTable

/-- The rows of the tables that are written, in order; a row that several tabs select is written
with each of them. -/
def shownRows {Row : Type} (table : TabbedTable Content) (rows : List Row) : List Row :=
  let tabs := matching table.tabs rows
  if table.forced || tabs.length > 1 then
    let shown := if table.forced then (table.defaultLabel, rows) :: tabs else tabs
    shown.flatMap Prod.snd
  else (tabs.headD (table.defaultLabel, rows)).2

end TabbedTable

namespace Content

mutual

/-- The containers that are written for a node, in order. -/
def containers (newline : String) : Content → List FencedBlock
  | .run _ => []
  | .sequence children => containersIn newline children
  | .container kind header body =>
    if body_empty : body.isEmpty = true then []
    else ⟨newline, kind, header, body, Bool.eq_false_iff.mpr body_empty⟩
      :: (containersInHeader newline header ++ body.containers newline)
  | .wrapper frame => frame.containers newline
  | .anchored _ body => body.containers newline
  | .table ⟨_, _, some ⟨_, rows⟩⟩ => (containersInRows rows).flatten
  | .table ⟨_, _, none⟩ => []
  | .tabs ⟨_, named⟩ => containersInTabs newline named
  | .tabbed ⟨style, label, key, forced, selections, some ⟨_, rows⟩⟩ =>
    (TabbedTable.shownRows ⟨style, label, key, forced, selections, none⟩
      (containersInRows rows)).flatten
  | .tabbed ⟨_, _, _, _, _, none⟩ => []
termination_by structural content => content

/-- The containers that are written for a header. -/
def containersInHeader (newline : String) : Option Content → List FencedBlock
  | some header => header.containers newline
  | none => []
termination_by structural header => header

/-- The containers that are written for the nodes of a list. -/
def containersIn (newline : String) : List Content → List FencedBlock
  | [] => []
  | child :: rest => child.containers newline ++ containersIn newline rest
termination_by structural children => children

/-- The containers that are written for the tabs of a list. -/
def containersInTabs (newline : String) : List (String × List Content) → List FencedBlock
  | [] => []
  | (_, children) :: rest => containersIn newline children ++ containersInTabs newline rest
termination_by structural named => named

/-- The containers in the cells of each row of a list. -/
def containersInRows : List (List Content) → List (List FencedBlock)
  | [] => []
  | row :: rest => containersIn "\n" row :: containersInRows rest
termination_by structural rows => rows

end

/-- All containers that are written for a node have fences.  The inner ones are looked at first, so
that no text is made of a container in which another one overflows. -/
def fits (newline : String) (content : Content) : Bool :=
  (content.containers newline).reverse.all fun block => block.fence?.isSome

/-- The written form of a node; none if one of its containers overflows. -/
def write? (newline : String) (content : Content) (atLineStart : Bool) : Option Written :=
  if content.fits newline then some (content.write newline atLineStart) else none

/-- The text of a node written from the start of a line; none if one of its containers overflows. -/
def render? (newline : String) (content : Content) : Option String :=
  if content.fits newline then some (content.render newline) else none

end Content

end RefDocs
