import Faceted.Facet.Buckets

/-!
# Numeric range facets

The numbers of an expression are shown in buckets of one width, from the first multiple of the width
not above the least number to the first one above the largest; the upper end of a bucket is excluded.
A path asks the range index of its last property, which belongs to the store; any other expression
asks an index over the root items.

So an operation of this facet may also build an index in the store, and returns the store.
-/

namespace Faceted

open Faceted.Expression

/-! ## 1. The facet -/

structure NumericRangeFacet where
  id : String
  label : String
  expression : Option Expression
  interval : Float
  chosen : RangeChoice
  index : LocalIndex
  buckets : List Bucket

namespace NumericRangeFacet

def new (id : String) (expression : Option Expression) (interval : Float) : NumericRangeFacet :=
  ⟨id, id, expression, interval, [], none, []⟩

/-- More buckets than this are not shown. -/
def maxBuckets : Float := 1000.0

/-- The place of a value: the number at its start. -/
def place (value : String) : Option RangeValue :=
  let x := parseFloat value
  if x.isNaN then none else some (.number x)

def hasRestrictions (f : NumericRangeFacet) : Bool := !f.chosen.isEmpty

def rangeOf (low high : Float) : RangeSelection := ⟨.number low, .number high⟩

/-! ## 2. Selecting -/

def choose (f : NumericRangeFacet) (chosen : RangeChoice) : Bool × NumericRangeFacet :=
  (chosen.differ f.chosen, { f with chosen })

/-- Clicks a bucket. -/
def toggle (f : NumericRangeFacet) (low high : Float) (only : Bool) : Bool × NumericRangeFacet :=
  f.choose (f.chosen.toggle (rangeOf low high) only)

/-- Selects or deselects one range. -/
def setRange (f : NumericRangeFacet) (low high : Float) (selected : Bool) :
    Bool × NumericRangeFacet :=
  (f.chosen.has (rangeOf low high) != selected,
    { f with chosen := f.chosen.set (rangeOf low high) selected })

/-! ## 3. Asking for ranges -/

/-- The items of a range that are in a set. An array hop at the start of a path repeats an item for
    every way that leads from it into the range. -/
def itemsIn (f : NumericRangeFacet) (scene : Scene) (e : Expression) (r : RangeSelection)
    (items : KeySet) : Outcome Values × NumericRangeFacet × Store :=
  match e.path? with
  | some p =>
    let (found, store) := rangeBackward scene.store p.hops r.low r.high false (some items)
    (found, f, store)
  | none =>
    let (index, kept) := f.index.get scene e place
    (index.map fun index =>
      .ofSet (index.subjectsBetween r.low r.high false ∅ (some items)) .item,
      { f with index := kept }, scene.store)

/-- The items of several ranges that are in a set, added to `found`. -/
def itemsInAny (f : NumericRangeFacet) (scene : Scene) (e : Expression) (items found : KeySet) :
    List RangeSelection → Outcome KeySet × NumericRangeFacet × Store
  | [] => (.ok found, f, scene.store)
  | r :: rest =>
    match f.itemsIn scene e r items with
    | (.error failure, f, store) => (.error failure, f, store)
    | (.ok more, f, store) =>
      f.itemsInAny { scene with store } e items (found.union more.toSet) rest

/-- The items with a number in a selected range. -/
def restrict (f : NumericRangeFacet) (scene : Scene) (items : KeySet) :
    Outcome KeySet × NumericRangeFacet × Store :=
  match f.expression with
  | none => (.ok items, f, scene.store)
  | some e =>
    if f.hasRestrictions then f.itemsInAny scene e items ∅ f.chosen
    else (.ok items, f, scene.store)

/-! ## 4. Offering -/

/-- The index that bounds the buckets; none if the path ends in no property with one. -/
def boundingIndex (f : NumericRangeFacet) (scene : Scene) (e : Expression) :
    Outcome (Option RangeIndex) × NumericRangeFacet × Store :=
  match e.path? with
  | some p =>
    match p.hops.getLast? with
    | none => (.ok none, f, scene.store)
    | some last =>
      let (index, store) := scene.store.rangeIndex? last.property
      (.ok index, f, store)
  | none =>
    let (index, kept) := f.index.get scene e place
    (index.map some, { f with index := kept }, scene.store)

/-- The least and the largest number of an index; none if either is no number. -/
def boundsOf (index : Option RangeIndex) : Option (Float × Float) := do
  let index ← index
  let low ← index.min?.bind RangeValue.number?
  let high ← index.max?.bind RangeValue.number?
  return (low, high)

/-- The first bucket's lower end and the number of buckets. The largest number must lie below the end
    of the last bucket. -/
def layout (interval low high : Float) : Float × Float :=
  let start := (low / interval).floor * interval
  let stop := (high / interval).ceil * interval
  let stop := if stop ≤ high then stop + interval else stop
  (start, ((stop - start) / interval).round)

/-- The buckets from the given ends on. -/
def bucketsFor (f : NumericRangeFacet) (scene : Scene) (e : Expression) (items : KeySet) :
    List RangeSelection → Outcome (List Bucket) × NumericRangeFacet × Store
  | [] => (.ok [], f, scene.store)
  | r :: rest =>
    match f.itemsIn scene e r items with
    | (.error failure, f, store) => (.error failure, f, store)
    | (.ok found, f, store) =>
      match f.bucketsFor { scene with store } e items rest with
      | (.error failure, f, store) => (.error failure, f, store)
      | (.ok more, f, store) =>
        (.ok (⟨r.low, r.high, r.low.toText ++ " - " ++ r.high.toText, found.size,
          f.chosen.isBucketSelected r.low r.high⟩ :: more), f, store)

/-- The ends of the buckets. -/
def bucketEnds (interval start : Float) (count : Nat) : List RangeSelection :=
  (List.range count).map fun (k : Nat) =>
    let low := start + Decimal.ofInt k * interval
    rangeOf low (low + interval)

/-- Counts the items in every bucket anew. If that fails there are no buckets. -/
def update (f : NumericRangeFacet) (scene : Scene) (items : KeySet) :
    Outcome Unit × NumericRangeFacet × Store :=
  let f := { f with buckets := [] }
  match f.expression with
  | none => (.ok (), f, scene.store)
  | some e =>
    match f.boundingIndex scene e with
    | (.error failure, f, store) => (.error failure, f, store)
    | (.ok index, f, store) =>
      match boundsOf index with
      | none => (.ok (), f, store)
      | some (low, high) =>
        let (start, span) := layout f.interval low high
        if Decimal.isFinite span && span ≤ maxBuckets then
          let ends := bucketEnds f.interval start span.toUInt64.toNat
          match f.bucketsFor { scene with store } e items ends with
          | (.error failure, f, store) => (.error failure, f, store)
          | (.ok buckets, f, store) => (.ok (), { f with buckets }, store)
        else
          (.error (.evaluation (.tooManyBuckets f.id span f.interval low high)), f, store)

/-! ## 5. States -/

def exportState (f : NumericRangeFacet) : FacetState := .ranges (RangeSelection.sorted f.chosen)

def emptyState : FacetState := .ranges []

def clear (f : NumericRangeFacet) : FacetState × NumericRangeFacet :=
  (f.exportState, { f with chosen := [] })

def apply (f : NumericRangeFacet) (state : FacetState) : Outcome NumericRangeFacet :=
  (RangeChoice.ofState f.id state).map fun chosen => { f with chosen }

def dropCaches (f : NumericRangeFacet) : NumericRangeFacet := { f with index := none }

end NumericRangeFacet

end Faceted
