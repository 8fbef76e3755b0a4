import Faceted.KeySet
import Faceted.RangeValue

/-!
# Sorted indexes for range queries

An index lists the values of a set of items in ascending order, values at the same place in the order
of their items. A query for the range from `low` to `high` reads the part of the list that starts at
the first value not before `low` and ends before the first value at or after `high`; an inclusive
query also reads the values at `high`.

Main statements: an index keeps every value it was built from (`mem_entries_ofItems`), and what a
query reads lies in the range (`inRange_of_mem_between`).
-/

namespace Faceted

/-- A value of an item. -/
structure RangeEntry where
  item : String
  value : RangeValue

namespace RangeEntry

/-- Is `a` listed no later than `b`? By value first, by item second. -/
def le (a b : RangeEntry) : Bool :=
  a.value.before b.value || (a.value.same b.value && decide (a.item ≤ b.item))

end RangeEntry

/-- A list of entries in ascending order. -/
structure RangeIndex where
  entries : List RangeEntry

namespace RangeIndex

/-! ## 1. Building -/

/-- The entries of the items in the order of the items. -/
def entriesOf (items : KeySet) (values : String → List RangeValue) : List RangeEntry :=
  items.toList.flatMap fun item => (values item).map fun value => ⟨item, value⟩

/-- The index over the values of the items. -/
def ofItems (items : KeySet) (values : String → List RangeValue) : RangeIndex :=
  ⟨(entriesOf items values).mergeSort RangeEntry.le⟩

theorem mem_entriesOf {items : KeySet} {values : String → List RangeValue} {e : RangeEntry} :
    e ∈ entriesOf items values ↔ e.item ∈ items ∧ e.value ∈ values e.item := by
  simp only [entriesOf, List.mem_flatMap, List.mem_map, KeySet.mem_toList]
  constructor
  · rintro ⟨item, hitem, value, hvalue, rfl⟩
    exact ⟨hitem, hvalue⟩
  · rintro ⟨hitem, hvalue⟩
    exact ⟨e.item, hitem, e.value, hvalue, rfl⟩

/-- Sorting loses nothing. -/
theorem mem_entries_ofItems {items : KeySet} {values : String → List RangeValue} {e : RangeEntry} :
    e ∈ (ofItems items values).entries ↔ e.item ∈ items ∧ e.value ∈ values e.item := by
  simp only [ofItems, List.mem_mergeSort, mem_entriesOf]

/-! ## 2. Looking at the whole -/

def count (index : RangeIndex) : Nat := index.entries.length

def min? (index : RangeIndex) : Option RangeValue := index.entries.head?.map RangeEntry.value

def max? (index : RangeIndex) : Option RangeValue := index.entries.getLast?.map RangeEntry.value

/-! ## 3. Queries -/

/-- Is the value before the end of a range, or at its end if that is included? -/
def reaches (high : RangeValue) (inclusive : Bool) (value : RangeValue) : Bool :=
  value.before high || (inclusive && value.same high)

/-- The entries from the first one not before `low` up to the end of the range. -/
def between (index : RangeIndex) (low high : RangeValue) (inclusive : Bool) : List RangeEntry :=
  (index.entries.dropWhile fun e => e.value.before low).takeWhile fun e =>
    reaches high inclusive e.value

/-- The items of a range, in the order of their values. -/
def itemsBetween (index : RangeIndex) (low high : RangeValue) (inclusive : Bool) : List String :=
  (index.between low high inclusive).map RangeEntry.item

/-- Adds to a set the items of a range that pass a filter. -/
def subjectsBetween (index : RangeIndex) (low high : RangeValue) (inclusive : Bool)
    (into : KeySet) (filter : Option KeySet) : KeySet :=
  into.insertMany ((index.itemsBetween low high inclusive).filter (KeySet.passes filter))

/-- Nothing is taken out of the set, and the filter is for the items of the range alone. -/
theorem mem_subjectsBetween {index : RangeIndex} {low high : RangeValue} {inclusive : Bool}
    {into : KeySet} {filter : Option KeySet} {x : String} :
    x ∈ index.subjectsBetween low high inclusive into filter ↔
      x ∈ into ∨ x ∈ index.itemsBetween low high inclusive ∧ KeySet.passes filter x = true := by
  simp only [subjectsBetween, KeySet.mem_insertMany, List.mem_filter]

/-- The number of entries before a value. -/
def position (index : RangeIndex) (value : RangeValue) : Nat :=
  (index.entries.takeWhile fun e => e.value.before value).length

/-- The number of entries of a range, from the positions of its ends. -/
def countBetween (index : RangeIndex) (low high : RangeValue) (inclusive : Bool) : Nat :=
  let start := index.position low
  let stop := index.position high
  let atEnd :=
    if inclusive then ((index.entries.drop stop).takeWhile fun e => e.value.same high).length else 0
  stop + atEnd - start

/-- Every entry that a query reads satisfies the query's upper end. -/
theorem inRange_of_mem_between {index : RangeIndex} {low high : RangeValue} {inclusive : Bool}
    {e : RangeEntry} (h : e ∈ index.between low high inclusive) :
    reaches high inclusive e.value = true := by
  unfold between at h
  generalize index.entries.dropWhile _ = xs at h
  induction xs with
  | nil => simp at h
  | cons x xs ih =>
    by_cases hx : reaches high inclusive x.value = true
    · simp only [List.takeWhile_cons, hx, if_true, List.mem_cons] at h
      rcases h with rfl | h
      · exact hx
      · exact ih h
    · simp [hx] at h

end RangeIndex

end Faceted
