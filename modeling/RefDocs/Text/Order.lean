/-!
# Order by name

Declarations are listed by name in code point order.  The sort keeps the order of equal names, and
it is an insertion sort, so that it evaluates in proofs.
-/

namespace RefDocs

/-- A list with one more item, put in front of the first whose name is not smaller. -/
def insertByName {α : Type} (name : α → String) (item : α) : List α → List α
  | [] => [item]
  | other :: rest =>
    if name item ≤ name other then item :: other :: rest
    else other :: insertByName name item rest

/-- A list in order of the names of its items. -/
def sortByName {α : Type} (name : α → String) (items : List α) : List α :=
  items.foldr (insertByName name) []

/-- The first name in a list that occurs again further on. -/
def firstRepeated? : List String → Option String
  | [] => none
  | name :: rest => if rest.contains name then some name else firstRepeated? rest

end RefDocs
