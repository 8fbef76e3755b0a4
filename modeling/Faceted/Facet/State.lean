import Faceted.RangeValue
import Faceted.Text.Shown

/-!
# States of facets

The selection of a facet as a value of its own: it is exported, kept as a bookmark and imported
again. A state has one of four shapes; `FacetState.ofJson?` takes the first shape that fits an object
(`ofJson?_toJson` is the reason why a bookmark survives being written).
-/

namespace Faceted

open Faceted.Text

/-! ## 1. Shapes -/

/-- A selected range; its upper end is excluded. -/
structure RangeSelection where
  low : RangeValue
  high : RangeValue

/-- A selected node of a hierarchy. `others` selects the items at the node itself; no value stands for
    the items without value. -/
structure NodeSelection where
  value : Option String
  others : Bool
  deriving DecidableEq

inductive FacetState where
  | list (selection : List String) (missing : Bool)
  | ranges (selected : List RangeSelection)
  | nodes (selected : List NodeSelection)
  | text (query : Option String)

/-! ## 2. Sameness -/

namespace RangeSelection

/-- Have both ends the same place? -/
def same (a b : RangeSelection) : Bool := a.low.same b.low && a.high.same b.high

instance : BEq RangeSelection := ⟨same⟩

/-- Is `a` listed no later than `b`? By lower end first. -/
def le (a b : RangeSelection) : Bool :=
  a.low.before b.low || (a.low.same b.low && !b.high.before a.high)

/-- The selections in ascending order. -/
def sorted (ranges : List RangeSelection) : List RangeSelection := ranges.mergeSort le

end RangeSelection

namespace NodeSelection

/-- The key of the order among selections: none comes before every value, and a node before its
    others. -/
def le (a b : NodeSelection) : Bool :=
  match a.value, b.value with
  | none, some _ => true
  | some _, none => false
  | none, none => !a.others || b.others
  | some x, some y => decide (x < y) || (x == y && (!a.others || b.others))

/-- The selections in ascending order. -/
def sorted (nodes : List NodeSelection) : List NodeSelection := nodes.mergeSort le

end NodeSelection

namespace FacetState

/-- Have two states the same shape and the same selection, in the same order? -/
def same : FacetState → FacetState → Bool
  | .list xs m, .list ys n => xs == ys && m == n
  | .ranges xs, .ranges ys => xs == ys
  | .nodes xs, .nodes ys => xs == ys
  | .text x, .text y => x == y
  | _, _ => false

/-- The name of the shape. -/
def shape : FacetState → String
  | .list _ _ => "List"
  | .ranges _ => "Range"
  | .nodes _ => "Hierarchical"
  | .text _ => "TextSearch"

/-! ## 3. JSON -/

def rangeJson (r : RangeSelection) : Json :=
  .object [("from", r.low.toJson), ("to", r.high.toJson)]

def textJson : Option String → Json := Json.ofOption .string

def nodeJson (n : NodeSelection) : Json :=
  .object [("value", textJson n.value), ("selectOthers", .bool n.others)]

def toJson : FacetState → Json
  | .list selection missing =>
    .object [("selection", .array (selection.map .string)), ("selectMissing", .bool missing)]
  | .ranges selected => .object [("ranges", .array (selected.map rangeJson))]
  | .nodes selected => .object [("selections", .array (selected.map nodeJson))]
  | .text query => .object [("text", textJson query)]

/-- A text, or none for null or nothing at all. -/
def text? : Option Json → Option (Option String) := Json.optional? Json.string?

/-- A range from an object or from the list of its ends. -/
def range? : Json → Option RangeSelection
  | .array [low, high] => do return ⟨← RangeValue.ofJson? low, ← RangeValue.ofJson? high⟩
  | .object fields => do
    return ⟨← (fields.lookup "from").bind RangeValue.ofJson?,
      ← (fields.lookup "to").bind RangeValue.ofJson?⟩
  | _ => none

/-- A node from an object or from the list of its parts. -/
def node? : Json → Option NodeSelection
  | .array [value, others] => do return ⟨← text? (some value), ← others.bool?⟩
  | .object fields => do
    return ⟨← text? (fields.lookup "value"), ← (fields.lookup "selectOthers").bind Json.bool?⟩
  | _ => none

def listState? (fields : List (String × Json)) : Option FacetState := do
  let selection ← (fields.lookup "selection").bind Json.strings?
  let missing ←
    match fields.lookup "selectMissing" with
    | none => some false
    | some v => v.bool?
  return .list selection missing

def rangesState? (fields : List (String × Json)) : Option FacetState := do
  return .ranges (← (← (fields.lookup "ranges").bind Json.elements?).mapM range?)

def nodesState? (fields : List (String × Json)) : Option FacetState := do
  return .nodes (← (← (fields.lookup "selections").bind Json.elements?).mapM node?)

def textState? (fields : List (String × Json)) : Option FacetState := do
  return .text (← text? (fields.lookup "text"))

/-- The state of the first shape that fits the object. -/
def ofJson? : Json → Option FacetState
  | .object fields =>
    (listState? fields).or ((rangesState? fields).or ((nodesState? fields).or (textState? fields)))
  | _ => none

/-! ## 4. States in messages -/

def describeValue : RangeValue → String
  | .number x => shownOf "Number" (Decimal.Layout.exact.render x)
  | .text s => shownOf "Text" (quoted s)

def describeRange (r : RangeSelection) : String :=
  shownRecord "RangeSelection" [("from", describeValue r.low), ("to", describeValue r.high)]

def describeNode (n : NodeSelection) : String :=
  shownRecord "HierarchicalSelection"
    [("value", shownOption quoted n.value), ("select_others", booleanText n.others)]

/-- The state as a message shows it. -/
def describe (state : FacetState) : String :=
  shownRecord state.shape <|
    match state with
    | .list selection missing =>
      [("selection", shownList (selection.map quoted)), ("select_missing", booleanText missing)]
    | .ranges selected => [("ranges", shownList (selected.map describeRange))]
    | .nodes selected => [("selections", shownList (selected.map describeNode))]
    | .text query => [("text", shownOption quoted query)]

end FacetState

end Faceted
