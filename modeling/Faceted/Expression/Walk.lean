import Faceted.Expression.Tree
import Faceted.Expression.Values
import Faceted.Store.Ranges

/-!
# Walking along paths

Following a hop leads from values to the objects, or against the direction to the subjects, of their
statements under the hop's property. Walking a path forward follows its hops from left to right;
walking it backward follows the reversed hops from right to left, from values to what leads to them.
A filter on a backward walk applies to its last step only, where the items come out.

`walkForward_append` says that a path may be walked in parts.
-/

namespace Faceted.Expression

/-! ## 1. One hop -/

/-- The hop in the other direction. -/
def Hop.reversed (h : Hop) : Hop := { h with forward := !h.forward }

/-- The type of the values a hop leads to. -/
def Hop.targetType (h : Hop) (s : Store) : ValueType :=
  if h.forward then s.valueTypeOf h.property else .item

/-- What one value leads to. -/
def Hop.targets (h : Hop) (s : Store) (value : String) (filter : Option KeySet) : KeySet :=
  if h.forward then s.objects value h.property ∅ filter else s.subjects value h.property ∅ filter

/-- What a set of values leads to. -/
def Hop.targetsUnion (h : Hop) (s : Store) (values : KeySet) (filter : Option KeySet) : KeySet :=
  if h.forward then s.objectsUnion values h.property ∅ filter
  else s.subjectsUnion values h.property ∅ filter

/-- Follows a hop from all values. An array hop keeps the targets of every value apart. -/
def follow (s : Store) (h : Hop) (filter : Option KeySet) (values : Values) : Values :=
  if h.isArray then
    .ofList (values.toList.flatMap fun v => (h.targets s v filter).toList) (h.targetType s)
  else
    .ofSet (h.targetsUnion s values.toSet filter) (h.targetType s)

/-! ## 2. Paths -/

/-- Follows the hops from left to right. -/
def walkForward (s : Store) (hops : List Hop) (values : Values) : Values :=
  hops.foldl (fun values h => follow s h none values) values

theorem walkForward_append (s : Store) (front back : List Hop) (values : Values) :
    walkForward s (front ++ back) values = walkForward s back (walkForward s front values) := by
  simp [walkForward]

/-- Follows the reversed hops from right to left; the filter applies to the last step. -/
def walkBackward (s : Store) (filter : Option KeySet) : List Hop → Values → Values
  | [], values => values
  | h :: rest, values => follow s h.reversed filter (walkBackward s none rest values)

/-- The items from which the path leads to a value in the range. The last hop must be forward, so
    that the index over its property's values applies. -/
def rangeBackward (s : Store) (hops : List Hop) (low high : RangeValue) (inclusive : Bool)
    (filter : Option KeySet) : Outcome Values × Store :=
  match hops.getLast? with
  | none => (.error (.evaluation .lastHopBackward), s)
  | some last =>
    if last.forward then
      let front := hops.dropLast
      let atOnce := if front.isEmpty then filter else none
      let (found, s) := s.subjectsInRange last.property low high inclusive ∅ atOnce
      (.ok (walkBackward s filter front (.ofSet found .item)), s)
    else (.error (.evaluation .lastHopBackward), s)

end Faceted.Expression
