import Faceted.Json
import Faceted.Store.Basic

/-!
# Entries of facets and their order

An entry is one value a facet offers, with its label and the number of items it stands for. Entries
are ordered by a fixed order of labels if there is one, else by number where values are numbers, else
by label; an order by count puts the largest count first. Any of these may be reversed.
-/

namespace Faceted

/-! ## 1. Entries -/

/-- An entry without value stands for the items that have none. -/
structure Entry where
  value : Option String
  label : String
  count : Nat
  selected : Bool

/-- The label of a value: an item is shown by its own label. -/
def valueLabel (s : Store) (value : String) (type : ValueType) : String :=
  if type = .item then (s.object? value "label").getD value else value

/-! ## 2. Orders -/

inductive SortMode where
  | value
  | count
  deriving DecidableEq, Repr

inductive SortDirection where
  | forward
  | reverse
  deriving DecidableEq, Repr

/-- How entries are ordered. -/
structure EntryOrder where
  /-- Labels in the wanted order; none if the list is empty. -/
  fixed : List String
  mode : SortMode
  direction : SortDirection

namespace EntryOrder

def default : EntryOrder := ⟨[], .value, .forward⟩

/-- The place of a label in a fixed order; of several places the last counts. -/
def place? (fixed : List String) (label : String) : Option Nat :=
  let back := fixed.reverse.idxOf label
  if back < fixed.length then some (fixed.length - 1 - back) else none

/-- Texts in the order of code points. -/
def compareTexts (a b : String) : Ordering :=
  if a < b then .lt else if a = b then .eq else .gt

/-- Labels with a place come first, by place; the others follow by label. -/
def compareFixed (fixed : List String) (a b : Entry) : Ordering :=
  match place? fixed a.label, place? fixed b.label with
  | some x, some y => compare x y
  | some _, none => .lt
  | none, some _ => .gt
  | none, none => compareTexts a.label b.label

/-- Numbers in their order; what is no number is equal to everything. -/
def compareNumbers (a b : Entry) : Ordering :=
  let number (e : Entry) : Float := (e.value.map parseFloat).getD Decimal.nan
  let x := number a
  let y := number b
  if x < y then .lt else if y < x then .gt else .eq

def compareValues (order : EntryOrder) (type : ValueType) (a b : Entry) : Ordering :=
  if order.fixed.isEmpty then
    if type.isNumeric then compareNumbers a b else compareTexts a.label b.label
  else compareFixed order.fixed a b

/-- The comparison before a reversal. -/
def compareForward (order : EntryOrder) (type : ValueType) (a b : Entry) : Ordering :=
  match order.mode with
  | .count => (compare b.count a.count).then (compareValues order type a b)
  | .value => compareValues order type a b

def compare (order : EntryOrder) (type : ValueType) (a b : Entry) : Ordering :=
  match order.direction with
  | .forward => compareForward order type a b
  | .reverse => (compareForward order type a b).swap

/-- Puts an element into a list in descending order, behind the elements that come after it. -/
def insertDescending {α : Type} (comesBefore : α → α → Bool) (x : α) : List α → List α
  | [] => [x]
  | y :: ys => if comesBefore x y then y :: insertDescending comesBefore x ys else x :: y :: ys

/-- Sorts by insertion. What compares as equal keeps its order. -/
def insertionSort {α : Type} (comesBefore : α → α → Bool) (xs : List α) : List α :=
  (xs.foldl (fun sorted x => insertDescending comesBefore x sorted) []).reverse

/-- Sorts what carries entries. -/
def sortBy {α : Type} (order : EntryOrder) (type : ValueType) (entry : α → Entry) (xs : List α) :
    List α :=
  insertionSort (fun a b => order.compare type (entry a) (entry b) == .lt) xs

def sort (order : EntryOrder) (type : ValueType) (entries : List Entry) : List Entry :=
  order.sortBy type id entries

theorem mem_insertDescending {α : Type} {comesBefore : α → α → Bool} {x a : α} {ys : List α} :
    a ∈ insertDescending comesBefore x ys ↔ a = x ∨ a ∈ ys := by
  induction ys with
  | nil => simp [insertDescending]
  | cons y ys ih =>
    unfold insertDescending
    split
    · simp only [List.mem_cons, ih]
      constructor <;> rintro (h | h | h) <;> simp [h]
    · simp

end EntryOrder

end Faceted
