/-!
# TOML values and tables

The value of a TOML text, and the tables that its statements build up.  A table remembers how it
came about, since that decides which later statements may add to it: a key may be given once, a
header may stand once, and a dotted key may only go on in tables that dotted keys have made.
-/

namespace RefDocs
namespace Toml

/-- A TOML value.  No setting is a number or a moment, so these are not told apart further. -/
inductive Value where
  /-- A string. -/
  | text (content : String)
  /-- A truth value. -/
  | bool (flag : Bool)
  /-- An integer or a float. -/
  | number
  /-- A date, a time, or both. -/
  | moment
  /-- An array. -/
  | list (items : List Value)
  /-- A table, with keys in the order of their first statement. -/
  | table (entries : List (String × Value))

instance : Inhabited Value :=
  ⟨.number⟩

/-- A key with the keys of the tables that lead to it. -/
structure KeyPath where
  /-- The keys of the tables, the outermost first. -/
  tables : List String
  /-- The last key. -/
  key : String
  deriving DecidableEq, Repr

/-- All keys of a path. -/
def KeyPath.keys (path : KeyPath) : List String :=
  path.tables ++ [path.key]

/-- How a table came about. -/
inductive Origin where
  /-- On the way to a header that names a table inside it. -/
  | implied
  /-- On the way to a dotted key. -/
  | dotted
  /-- By a header of its own, or as the outermost table. -/
  | stated
  deriving DecidableEq, Repr

/-- What stands under a key while statements are read. -/
inductive Node where
  /-- A value that nothing can be added to. -/
  | value (value : Value)
  /-- A table. -/
  | table (origin : Origin) (entries : List (String × Node))
  /-- An array of tables: those that are complete, and the entries of the last one. -/
  | tables (complete : List Value) (last : List (String × Node))

/-- The entries of a table while statements are read. -/
abbrev Entries :=
  List (String × Node)

namespace Entries

/-- The node under a key. -/
def find? (key : String) : Entries → Option Node
  | [] => none
  | (other, node) :: rest => if other = key then some node else find? key rest

/-- The entries with another node under a key that is there. -/
def replace (key : String) (node : Node) : Entries → Entries
  | [] => []
  | (other, old) :: rest =>
    if other = key then (other, node) :: rest else (other, old) :: replace key node rest

mutual

/-- The value that a node comes to. -/
def closeNode : Node → Value
  | .value value => value
  | .table _ entries => .table (closeEntries entries)
  | .tables complete last => .list (complete ++ [.table (closeEntries last)])
termination_by structural node => node

/-- The values that entries come to. -/
def closeEntries : List (String × Node) → List (String × Value)
  | [] => []
  | (key, node) :: rest => (key, closeNode node) :: closeEntries rest
termination_by structural entries => entries

end

/-- The table that entries come to. -/
def close (entries : Entries) : Value :=
  .table (closeEntries entries)

/-- The entries after a change in the table that a path of keys leads to.  Tables that are missing
on the way are made, and of an array of tables the last one is gone into.  The way of a dotted key
does not lead into a table that has a header. -/
def changeAt (dotted : Bool) (change : Origin → Entries → Option Entries) :
    List String → Origin → Entries → Option Entries
  | [], origin, entries => change origin entries
  | key :: keys, _, entries =>
    match find? key entries with
    | none => do
      let origin := if dotted then Origin.dotted else .implied
      let inner ← changeAt dotted change keys origin []
      return entries ++ [(key, .table origin inner)]
    | some (.table origin inner) =>
      if dotted && origin == .stated then none
      else do
        let inner ← changeAt dotted change keys origin inner
        return replace key (.table origin inner) entries
    | some (.tables complete last) => do
      let last ← changeAt dotted change keys .stated last
      return replace key (.tables complete last) entries
    | some (.value _) => none

/-- The entries with one more value under a path of keys.  The key has to be new, and its table made
by dotted keys exactly if the path is dotted. -/
def assign (entries : Entries) (path : KeyPath) (value : Value) : Option Entries :=
  let add (origin : Origin) (entries : Entries) : Option Entries :=
    if (origin == .dotted) != path.tables.isEmpty && (find? path.key entries).isNone then
      some (entries ++ [(path.key, .value value)])
    else none
  changeAt true add path.tables .stated entries

/-- The entries with a table that has a header. -/
def openTable (entries : Entries) (path : KeyPath) : Option Entries :=
  let add (_ : Origin) (entries : Entries) : Option Entries :=
    match find? path.key entries with
    | none => some (entries ++ [(path.key, .table .stated [])])
    | some (.table .implied inner) => some (replace path.key (.table .stated inner) entries)
    | some _ => none
  changeAt false add path.tables .stated entries

/-- The entries with one more table in an array of tables. -/
def openElement (entries : Entries) (path : KeyPath) : Option Entries :=
  let add (_ : Origin) (entries : Entries) : Option Entries :=
    match find? path.key entries with
    | none => some (entries ++ [(path.key, .tables [] [])])
    | some (.tables complete last) =>
      some (replace path.key (.tables (complete ++ [close last]) []) entries)
    | some _ => none
  changeAt false add path.tables .stated entries

end Entries

/-- A statement of a TOML text. -/
inductive Statement where
  /-- A key and its value. -/
  | assign (path : KeyPath) (value : Value)
  /-- The header of a table. -/
  | table (path : KeyPath)
  /-- The header of an element of an array of tables. -/
  | element (path : KeyPath)

/-- The outermost table, and the keys of the table that the last header names. -/
structure Draft where
  /-- The entries of the outermost table. -/
  entries : Entries := []
  /-- The way to the table that keys are added to. -/
  current : List String := []

/-- A draft after one more statement. -/
def Draft.add (draft : Draft) : Statement → Option Draft
  | .assign path value => do
    let add (_ : Origin) (entries : Entries) := entries.assign path value
    let entries ← Entries.changeAt false add draft.current .stated draft.entries
    return { draft with entries }
  | .table path => do return ⟨← draft.entries.openTable path, path.keys⟩
  | .element path => do return ⟨← draft.entries.openElement path, path.keys⟩

/-- The table that the statements of a text state, if they agree. -/
def Value.ofStatements? (statements : List Statement) : Option Value := do
  let draft ← statements.foldlM Draft.add {}
  return draft.entries.close

/-- The table that keys and values between braces state, if they agree. -/
def Value.ofPairs? (pairs : List (KeyPath × Value)) : Option Value := do
  let add (entries : Entries) (pair : KeyPath × Value) := entries.assign pair.1 pair.2
  let entries ← pairs.foldlM add []
  return entries.close

end Toml
end RefDocs
