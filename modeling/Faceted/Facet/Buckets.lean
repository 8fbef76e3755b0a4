import Faceted.Facet.State
import Faceted.Facet.ValueMaps

/-!
# Buckets of values

Range facets show the values of an expression in buckets and restrict to the union of the selected
buckets. This file holds what number and letter buckets share: the list of selected ranges with its
clicks, and the index over the values of the root items, built once and kept.
-/

namespace Faceted

/-- A bucket as it is shown. -/
structure Bucket where
  low : RangeValue
  high : RangeValue
  label : String
  count : Nat
  selected : Bool

/-! ## 1. Selected ranges -/

/-- Selected ranges, in the order in which they were selected. -/
abbrev RangeChoice := List RangeSelection

namespace RangeChoice

/-- Is there a range with the same ends? -/
def has (chosen : RangeChoice) (r : RangeSelection) : Bool := chosen.any (·.same r)

def drop (chosen : RangeChoice) (r : RangeSelection) : RangeChoice :=
  chosen.filter fun x => !x.same r

/-- Clicks a range: flips it, or makes it the only choice. Clicking the only choice empties the
    selection. -/
def toggle (chosen : RangeChoice) (r : RangeSelection) (only : Bool) : RangeChoice :=
  if chosen.has r then
    if only && 1 < chosen.length then [r] else chosen.drop r
  else if only then [r]
  else chosen ++ [r]

/-- Selects or deselects a range and leaves the others alone. -/
def set (chosen : RangeChoice) (r : RangeSelection) (selected : Bool) : RangeChoice :=
  if selected then (if chosen.has r then chosen else chosen ++ [r]) else chosen.drop r

/-- Do two choices differ, as lists? -/
def differ (a b : RangeChoice) : Bool := !(a == b)

/-- Do two choices differ, whatever their order? -/
def differSorted (a b : RangeChoice) : Bool :=
  differ (RangeSelection.sorted a) (RangeSelection.sorted b)

/-- The choice that a state carries. -/
def ofState (facet : String) (state : FacetState) : Outcome RangeChoice :=
  match state with
  | .ranges selected => .ok selected
  | other => .error (.data (.stateMismatch facet other.describe))

/-- Is the state another choice than this one? -/
def differsFrom (chosen : RangeChoice) (state : FacetState) : Bool :=
  match state with
  | .ranges selected => differSorted selected chosen
  | _ => true

/-- Is a bucket with these ends selected? -/
def isBucketSelected (chosen : RangeChoice) (low high : RangeValue) : Bool :=
  chosen.any fun r => r.low.same low && r.high.same high

end RangeChoice

/-! ## 2. The index over the root items -/

/-- The index over the values of the root items, once it has been needed. -/
abbrev LocalIndex := Option RangeIndex

namespace LocalIndex

/-- Evaluates the expression on every root item and indexes the values that `convert` can place. -/
def build (scene : Scene) (e : Expression) (convert : String → Option RangeValue) :
    Outcome RangeIndex := do
  let results ← scene.allItems.toList.mapM fun item => do
    let values ← e.evalOnItem item scene.store
    return (item, values.toList.filterMap convert)
  let values := KeyMap.ofList results
  return RangeIndex.ofItems scene.allItems fun item => (values.get? item).getD []

/-- The kept index, or a new one if none is kept. What was built is kept. -/
def get (kept : LocalIndex) (scene : Scene) (e : Expression)
    (convert : String → Option RangeValue) : Outcome RangeIndex × LocalIndex :=
  match kept with
  | some index => (.ok index, kept)
  | none =>
    match build scene e convert with
    | .ok index => (.ok index, some index)
    | .error failure => (.error failure, none)

end LocalIndex

end Faceted
