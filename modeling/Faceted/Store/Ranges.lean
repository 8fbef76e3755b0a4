import Faceted.Calendar
import Faceted.Store.Basic

/-!
# Range queries over a property

The values of a property can be queried by range, unless they are items. The index over the values of
all known items is built when first asked for and remembered in the property until its values change.

How a value is read depends on the type of the property: numbers by their leading numeral, dates as
milliseconds, everything else as a number if the whole text is one and as a text otherwise. Values
that cannot be read are left out.
-/

namespace Faceted.Store

/-- The places of a value in ranges over a property of the type: one or none. -/
def rangeValues (type : ValueType) (value : String) : List RangeValue :=
  match type with
  | .number | .currency =>
    let x := parseFloat value
    if x.isNaN then [] else [.number x]
  | .date =>
    match Calendar.parse? value with
    | some millis => [.number (Decimal.ofInt millis)]
    | none => []
  | _ => [.ofText value]

/-- The index over the values of the items under a property of the type. -/
def buildRangeIndex (s : Store) (property : String) (type : ValueType) : RangeIndex :=
  RangeIndex.ofItems s.items fun item =>
    (s.objects item property ∅ none).toList.flatMap (rangeValues type)

/-- The index over the property's values, built now if need be; none for an unknown property or one
    whose values are items. -/
def rangeIndex? (s : Store) (property : String) : Option RangeIndex × Store :=
  match s.properties.get? property with
  | none => (none, s)
  | some p =>
    if p.valueType = .item then (none, s)
    else
      match p.rangeIndex with
      | some index => (some index, s)
      | none =>
        let index := s.buildRangeIndex p.id p.valueType
        (some index,
          { s with properties := s.properties.insert property { p with rangeIndex := some index } })

/-- Adds to a set the items with a value in the range that pass a filter. -/
def subjectsInRange (s : Store) (property : String) (low high : RangeValue) (inclusive : Bool)
    (into : KeySet) (filter : Option KeySet) : KeySet × Store :=
  match s.rangeIndex? property with
  | (some index, s) => (index.subjectsBetween low high inclusive into filter, s)
  | (none, s) => (into, s)

end Faceted.Store
