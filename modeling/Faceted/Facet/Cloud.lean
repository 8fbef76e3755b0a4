import Faceted.Facet.Listing

/-!
# Cloud facets

A cloud facet is a list facet that shows its values with weights. Values with fewer items than a
minimum are hidden unless they are selected. The weights go from 1 to 5, in proportion to the counts
of what is shown; if all counts are equal every weight is 3 (`weight_of_flat`). They are worked out in
machine words, and each is cut down to a byte.
-/

namespace Faceted

structure CloudEntry where
  entry : Entry
  weight : Nat

structure CloudFacet where
  list : ListFacet
  minimumCount : Nat
  cloud : List CloudEntry

namespace CloudFacet

/-- The weight of a count among counts from `low` to `high`, rounded to the nearest. What does not fit
    into a word loses its upper bits. -/
def weight (low high count : UInt64) : UInt8 :=
  let range := high - low
  (if range = 0 then 3 else 1 + (4 * (count - low) + range / 2) / range).toUInt8

theorem weight_of_flat (low count : UInt64) : weight low low count = 3 := by
  simp [weight]

/-- The entries that are shown. -/
def shown (minimumCount : Nat) (entries : List Entry) : List Entry :=
  entries.filter fun e => decide (minimumCount ≤ e.count) || e.selected

/-- The least and the largest count; zero if there is none. -/
def countRange (entries : List Entry) : Nat × Nat :=
  ((entries.map Entry.count).min?.getD 0, (entries.map Entry.count).max?.getD 0)

/-- The shown entries with their weights. -/
def cloudOf (minimumCount : Nat) (entries : List Entry) : List CloudEntry :=
  let entries := shown minimumCount entries
  let (low, high) := countRange entries
  entries.map fun e => ⟨e, (weight low.toUInt64 high.toUInt64 e.count.toUInt64).toNat⟩

/-- Counts the values of the items anew and weighs them. -/
def update (f : CloudFacet) (scene : Scene) (items : KeySet) : Outcome Unit × CloudFacet :=
  match f.list.update scene items with
  | (.ok (), list) => (.ok (), { f with list, cloud := cloudOf f.minimumCount list.entries })
  | (.error failure, list) => (.error failure, { f with list })

end CloudFacet

end Faceted
