import Mathlib.Data.List.Duplicate
import Mathlib.Data.List.Sort
import Mathlib.Data.String.Basic
import Mathlib.Order.Bounds.Defs
import RefDocs.Text.Order

/-!
# Lists of named items

Sorting by name keeps the items and puts them in order.  In a list in name order, the first item
that a search finds is the least that it could find; in a list with distinct names, looking a name
up finds the one item that has it.
-/

namespace RefDocs

/-- No item stands in front of one with a smaller name. -/
def InNameOrder {α : Type} (name : α → String) (items : List α) : Prop :=
  items.Pairwise fun left right => name left ≤ name right

variable {α : Type} {name : α → String}

theorem insertByName_eq_orderedInsert (item : α) (items : List α) :
    insertByName name item items =
      items.orderedInsert (fun left right => name left ≤ name right) item := by
  induction items with
  | nil => rfl
  | cons other rest ih => simp only [insertByName, List.orderedInsert_cons, ih]

theorem sortByName_eq_insertionSort (items : List α) :
    sortByName name items =
      items.insertionSort fun left right => name left ≤ name right := by
  have inserts_eq :
      insertByName name = List.orderedInsert fun left right => name left ≤ name right := by
    funext item items
    exact insertByName_eq_orderedInsert item items
  rw [sortByName, List.insertionSort, inserts_eq]

theorem sortByName_perm (items : List α) : (sortByName name items).Perm items := by
  rw [sortByName_eq_insertionSort]
  exact List.perm_insertionSort _ items

theorem sortByName_inNameOrder (items : List α) : InNameOrder name (sortByName name items) := by
  have total : Std.Total fun left right : α => name left ≤ name right :=
    ⟨fun left right => le_total (name left) (name right)⟩
  have trans : IsTrans α fun left right => name left ≤ name right :=
    ⟨fun _ _ _ => le_trans⟩
  rw [sortByName_eq_insertionSort]
  exact List.pairwise_insertionSort _ items

/-- A change to the items that keeps their names does not change how they are sorted. -/
theorem sortByName_map {β : Type} {name' : β → String} {change : α → β}
    (keeps_name : ∀ item, name' (change item) = name item) (items : List α) :
    sortByName name' (items.map change) = (sortByName name items).map change := by
  rw [sortByName_eq_insertionSort, sortByName_eq_insertionSort]
  refine (List.map_insertionSort _ _ change items fun left _ right _ => ?_).symm
  rw [keeps_name, keeps_name]

/-- Items of which no two share a name are sorted alike, however they were listed. -/
theorem sortByName_eq_of_perm {items items' : List α}
    (distinct : ∀ left ∈ items, ∀ right ∈ items, name left = name right → left = right)
    (perm : items.Perm items') : sortByName name items = sortByName name items' := by
  have sorted_perm : (sortByName name items).Perm (sortByName name items') :=
    (sortByName_perm items).trans (perm.trans (sortByName_perm items').symm)
  refine sorted_perm.eq_of_pairwise ?_ (sortByName_inNameOrder items)
    (sortByName_inNameOrder items')
  intro left right left_mem right_mem left_le right_le
  rw [(sortByName_perm items).mem_iff] at left_mem
  rw [(sortByName_perm items').mem_iff, ← perm.mem_iff] at right_mem
  exact distinct left left_mem right right_mem (le_antisymm left_le right_le)

/-- The names of sorted items do not depend on how the items were listed, even if names repeat. -/
theorem map_sortByName_eq_of_perm {items items' : List α} (perm : items.Perm items') :
    (sortByName name items).map name = (sortByName name items').map name := by
  have sorted_names (others : List α) :
      (sortByName name others).map name = sortByName id (others.map name) := by
    have keeps_name : ∀ other, id (name other) = name other := fun _ => rfl
    exact (sortByName_map keeps_name others).symm
  rw [sorted_names, sorted_names]
  exact sortByName_eq_of_perm (fun _ _ _ _ names_eq => names_eq) (perm.map name)

theorem InNameOrder.map {items : List α} (ordered : InNameOrder name items) :
    InNameOrder id (items.map name) :=
  List.pairwise_map.mpr ordered

theorem firstRepeated?_eq_none_iff {names : List String} :
    firstRepeated? names = none ↔ names.Nodup := by
  induction names with
  | nil => simp [firstRepeated?]
  | cons first rest ih =>
      rw [firstRepeated?, List.nodup_cons]
      by_cases first_again : first ∈ rest
      · simp [first_again]
      · simp [first_again, ih]

/-- The first repeated name of a list in order is the least. -/
theorem isLeast_of_firstRepeated? {names : List String} {found : String}
    (ordered : InNameOrder id names) (repeated : firstRepeated? names = some found) :
    IsLeast {other | List.Duplicate other names} found := by
  induction names with
  | nil => simp [firstRepeated?] at repeated
  | cons first rest ih =>
      obtain ⟨first_le, rest_ordered⟩ := List.pairwise_cons.mp ordered
      rw [firstRepeated?] at repeated
      by_cases first_again : first ∈ rest
      · obtain rfl : first = found := by simpa [first_again] using repeated
        refine ⟨List.Duplicate.cons_mem first_again, fun other other_repeated => ?_⟩
        rcases List.mem_cons.mp (List.Duplicate.mem other_repeated) with rfl | other_mem
        · exact le_refl _
        · exact first_le other other_mem
      · obtain ⟨found_repeated, found_le⟩ :=
          ih rest_ordered (by simpa [first_again] using repeated)
        refine ⟨found_repeated.duplicate_cons first, fun other other_repeated => ?_⟩
        rcases List.duplicate_cons_iff.mp other_repeated with ⟨rfl, other_mem⟩ | other_repeated
        · exact absurd other_mem first_again
        · exact found_le other_repeated

/-- What a search in a list in name order finds comes from the least item that gives a result. -/
theorem exists_least_of_findSome? {β : Type} {items : List α} {search : α → Option β} {result : β}
    (ordered : InNameOrder name items) (found : items.findSome? search = some result) :
    ∃ item ∈ items, search item = some result ∧
      ∀ other ∈ items, (search other).isSome → name item ≤ name other := by
  obtain ⟨before, item, after, rfl, item_found, before_none⟩ :=
    List.findSome?_eq_some_iff.mp found
  refine ⟨item, by simp, item_found, fun other other_mem other_found => ?_⟩
  obtain ⟨-, item_ordered, -⟩ := List.pairwise_append.mp ordered
  obtain ⟨item_le, -⟩ := List.pairwise_cons.mp item_ordered
  rcases List.mem_append.mp other_mem with other_before | other_after
  · simp [before_none other other_before] at other_found
  · rcases List.mem_cons.mp other_after with rfl | other_after
    · exact le_refl _
    · exact item_le other other_after

theorem exists_of_find?_name {items : List α} {wanted : String} {item : α}
    (found : items.find? (fun item => name item == wanted) = some item) :
    item ∈ items ∧ name item = wanted := by
  refine ⟨List.mem_of_find?_eq_some found, ?_⟩
  simpa using List.find?_some found

theorem find?_name_isSome_iff {items : List α} {wanted : String} :
    (items.find? fun item => name item == wanted).isSome ↔ ∃ item ∈ items, name item = wanted := by
  simp [List.find?_isSome]

/-- Under distinct names, looking a name up finds the item that has it. -/
theorem find?_name_eq_some_iff {items : List α} (distinct : (items.map name).Nodup)
    {wanted : String} {item : α} :
    items.find? (fun item => name item == wanted) = some item ↔
      item ∈ items ∧ name item = wanted := by
  constructor
  · exact exists_of_find?_name
  · rintro ⟨item_mem, name_eq⟩
    obtain ⟨found, found_eq⟩ :=
      Option.isSome_iff_exists.mp (find?_name_isSome_iff.mpr ⟨item, item_mem, name_eq⟩)
    obtain ⟨found_mem, found_name⟩ := exists_of_find?_name found_eq
    rw [found_eq, List.inj_on_of_nodup_map distinct found_mem item_mem
      (found_name.trans name_eq.symm)]

end RefDocs
