import Faceted.Facet.Basic
import Faceted.Settings
import Faceted.Text.Blank
import Faceted.Text.Split

/-!
# Configurations of facets

What a facet is set up with, as a record of JSON. Every field may be missing; a field that the class
of the facet has no use for is ignored. A malformed expression is no failure: the facet is built
without one and restricts nothing.
-/

namespace Faceted

open Faceted.Text

/-! ## 1. The record -/

structure FacetConfig where
  id : Option String
  facetClass : Option String
  expression : Option String
  facetLabel : Option String
  sortMode : Option SortMode
  sortDirection : Option SortDirection
  /-- Labels in their order, with semicolons between them. -/
  fixedOrder : Option String
  showMissing : Option Bool
  missingLabel : Option String
  minimumCount : Option Nat
  interval : Option Float
  uniformGrouping : Option String
  othersLabel : Option String
  requiresEnter : Option Bool
  selection : Option (List String)
  selectMissing : Option Bool

def SortMode.name : SortMode → String
  | .value => "value"
  | .count => "count"

def SortMode.ofName? (s : String) : Option SortMode :=
  [value, count].find? fun m => m.name == s

def SortDirection.name : SortDirection → String
  | .forward => "forward"
  | .reverse => "reverse"

def SortDirection.ofName? (s : String) : Option SortDirection :=
  [forward, reverse].find? fun d => d.name == s

namespace FacetConfig

/-- The configuration that says nothing. -/
def empty : FacetConfig where
  id := none
  facetClass := none
  expression := none
  facetLabel := none
  sortMode := none
  sortDirection := none
  fixedOrder := none
  showMissing := none
  missingLabel := none
  minimumCount := none
  interval := none
  uniformGrouping := none
  othersLabel := none
  requiresEnter := none
  selection := none
  selectMissing := none

instance : Inhabited FacetConfig := ⟨empty⟩

/-- The names of the fields in their order. -/
def fieldNames : List String :=
  ["id", "facetClass", "expression", "facetLabel", "sortMode", "sortDirection", "fixedOrder",
    "showMissing", "missingLabel", "minimumCount", "interval", "uniformGrouping", "othersLabel",
    "requiresEnter", "selection", "selectMissing"]

def ofJson? (v : Json) : Option FacetConfig := do
  let field ← v.record? fieldNames
  let text (name : String) : Option (Option String) := Json.optional? Json.string? (field name)
  let flag (name : String) : Option (Option Bool) := Json.optional? Json.bool? (field name)
  return {
    id := ← text "id"
    facetClass := ← text "facetClass"
    expression := ← text "expression"
    facetLabel := ← text "facetLabel"
    sortMode := ← Json.optional? (fun v => v.choice?.bind SortMode.ofName?) (field "sortMode")
    sortDirection :=
      ← Json.optional? (fun v => v.choice?.bind SortDirection.ofName?) (field "sortDirection")
    fixedOrder := ← text "fixedOrder"
    showMissing := ← flag "showMissing"
    missingLabel := ← text "missingLabel"
    minimumCount := ← Json.optional? Json.count? (field "minimumCount")
    interval := ← Json.optional? Json.float? (field "interval")
    uniformGrouping := ← text "uniformGrouping"
    othersLabel := ← text "othersLabel"
    requiresEnter := ← flag "requiresEnter"
    selection := ← Json.optional? Json.strings? (field "selection")
    selectMissing := ← flag "selectMissing" }

def ofJson (v : Json) : Outcome FacetConfig :=
  match ofJson? v with
  | some c => .ok c
  | none => .error .json

/-- The configuration as an object with all fields, in their order. -/
def toJson (c : FacetConfig) : Json :=
  let text : Option String → Json := Json.ofOption .string
  let flag : Option Bool → Json := Json.ofOption .bool
  .object [
    ("id", text c.id),
    ("facetClass", text c.facetClass),
    ("expression", text c.expression),
    ("facetLabel", text c.facetLabel),
    ("sortMode", text (c.sortMode.map SortMode.name)),
    ("sortDirection", text (c.sortDirection.map SortDirection.name)),
    ("fixedOrder", text c.fixedOrder),
    ("showMissing", flag c.showMissing),
    ("missingLabel", text c.missingLabel),
    ("minimumCount", Json.ofOption (fun n => .int (Int.ofNat n)) c.minimumCount),
    ("interval", Json.ofOption .float c.interval),
    ("uniformGrouping", text c.uniformGrouping),
    ("othersLabel", text c.othersLabel),
    ("requiresEnter", flag c.requiresEnter),
    ("selection", Json.ofOption (fun ss => .array (ss.map .string)) c.selection),
    ("selectMissing", flag c.selectMissing)]

/-! ## 2. Its parts -/

/-- The class that is named; a list if none is. -/
def class? (c : FacetConfig) : Outcome FacetClass :=
  match c.facetClass with
  | some name => FacetClass.ofName name
  | none => .ok .list

/-- The labels of the fixed order, without those that are blank. -/
def fixedLabels (c : FacetConfig) : Option (List String) :=
  c.fixedOrder.map fun order =>
    ((splitOn ';' order.toList).map fun part => String.ofList (trim part)).filter fun label =>
      !label.isEmpty

def order (c : FacetConfig) : EntryOrder :=
  ⟨c.fixedLabels.getD [], c.sortMode.getD .value, c.sortDirection.getD .forward⟩

/-- The expression of a text; a malformed text has none. -/
def parsed? (source : Option String) : Option Expression :=
  source.bind fun s => (Expression.parse s).toOption

def parsedExpression? (c : FacetConfig) : Option Expression := parsed? c.expression

/-- The width of number buckets: a positive number, or what the settings say. -/
def numericInterval (c : FacetConfig) (settings : Settings) : Float :=
  (c.interval.filter fun x => Decimal.isFinite x && 0.0 < x).getD settings.numericInterval

/-- The letters of a bucket: a number from one on without its fraction, or what the settings say. -/
def alphaInterval (c : FacetConfig) (settings : Settings) : Nat :=
  ((c.interval.filter fun x => Decimal.isFinite x && 1.0 ≤ x).map fun x => x.toUInt64.toNat).getD
    settings.alphaInterval

/-- Where a text search looks. -/
def searched (c : FacetConfig) : Searched :=
  match c.expression with
  | none => .allProperties
  | some source =>
    match Expression.parseSeveral source with
    | .ok [] => .allProperties
    | .ok es => .expressions es
    | .error _ => .nothing

/-! ## 3. Building -/

def buildList (c : FacetConfig) (id : String) : ListFacet :=
  { ListFacet.new id c.parsedExpression? with
    label := c.facetLabel.getD id
    order := c.order
    showMissing := c.showMissing.getD true
    missingLabel := c.missingLabel.getD ListFacet.defaultMissingLabel }

def buildCloud (c : FacetConfig) (id : String) : CloudFacet := ⟨c.buildList id, c.minimumCount.getD 1, []⟩

def buildNumericRange (c : FacetConfig) (settings : Settings) (id : String) : NumericRangeFacet :=
  { NumericRangeFacet.new id c.parsedExpression? (c.numericInterval settings) with
    label := c.facetLabel.getD id }

def buildAlphaRange (c : FacetConfig) (settings : Settings) (id : String) : AlphaRangeFacet :=
  { AlphaRangeFacet.new id c.parsedExpression? (c.alphaInterval settings) with
    label := c.facetLabel.getD id }

def buildHierarchical (c : FacetConfig) (id : String) : HierarchicalFacet :=
  { HierarchicalFacet.new id c.parsedExpression? (parsed? c.uniformGrouping) with
    label := c.facetLabel.getD id
    order := c.order
    showMissing := c.showMissing.getD true
    missingLabel := c.missingLabel.getD ListFacet.defaultMissingLabel
    othersLabel := c.othersLabel.getD HierarchicalFacet.defaultOthersLabel }

def buildTextSearch (c : FacetConfig) (settings : Settings) (id : String) : TextSearchFacet :=
  { TextSearchFacet.new id c.searched settings.textSearchDelay with
    label := c.facetLabel.getD id
    requiresEnter := c.requiresEnter.getD false }

/-- The first selection of a list; no other facet takes one. -/
def selectFirst (c : FacetConfig) (f : ListFacet) : ListFacet :=
  match c.selection with
  | some values => (f.select (KeySet.ofList values) (c.selectMissing.getD false)).2
  | none => f

/-- The id; a facet without one is named by its place. -/
def idAt (c : FacetConfig) (place : Nat) : String := c.id.getD ("facet" ++ toString place)

/-- The facet that is described. -/
def build (c : FacetConfig) (settings : Settings) (place : Nat) : Outcome Facet := do
  let id := c.idAt place
  match ← c.class? with
  | .list => return .list (c.selectFirst (c.buildList id))
  | .cloud =>
    let f := c.buildCloud id
    return .cloud { f with list := c.selectFirst f.list }
  | .numericRange => return .numericRange (c.buildNumericRange settings id)
  | .alphaRange => return .alphaRange (c.buildAlphaRange settings id)
  | .hierarchical => return .hierarchical (c.buildHierarchical id)
  | .textSearch => return .textSearch (c.buildTextSearch settings id)

end FacetConfig

end Faceted
