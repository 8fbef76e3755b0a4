import Faceted.Facet.Entry
import Faceted.Facet.Hierarchy
import Faceted.Facet.Listing
import Faceted.Facet.State

/-!
# Hierarchical facets

A hierarchical facet shows values as a tree and restricts to the items of the selected subtrees. A
node with children that also has items of its own gets a last child for these, its *others*.

Selections exclude each other along the branches: selecting a node drops its ancestors, its
descendants and its others; selecting the others of a node drops its ancestors and the node.
-/

namespace Faceted

/-! ## 1. The facet -/

/-- A node as it is shown. -/
inductive HierarchyEntry where
  | node (entry : Entry) (others : Bool) (children : List HierarchyEntry)

namespace HierarchyEntry

def entry : HierarchyEntry → Entry
  | .node e _ _ => e

end HierarchyEntry

structure HierarchicalFacet where
  id : String
  label : String
  expression : Option Expression
  grouping : Option Expression
  order : EntryOrder
  showMissing : Bool
  missingLabel : String
  othersLabel : String
  selections : List NodeSelection
  /-- The tree over the root items, once it has been needed. -/
  tree : Option Hierarchy
  entries : List HierarchyEntry

namespace HierarchicalFacet

def defaultOthersLabel : String := "(others)"

def new (id : String) (expression grouping : Option Expression) : HierarchicalFacet where
  id := id
  label := id
  expression := expression
  grouping := grouping
  order := .default
  showMissing := true
  missingLabel := ListFacet.defaultMissingLabel
  othersLabel := defaultOthersLabel
  selections := []
  tree := none
  entries := []

def hasRestrictions (f : HierarchicalFacet) : Bool := !f.selections.isEmpty

/-- The kept tree, or a new one if none is kept; none without an expression. -/
def getTree (f : HierarchicalFacet) (scene : Scene) :
    Outcome (Option Hierarchy) × HierarchicalFacet :=
  match f.expression, f.tree with
  | none, _ => (.ok none, f)
  | some _, some tree => (.ok (some tree), f)
  | some e, none =>
    match Hierarchy.build scene e f.grouping with
    | .ok tree => (.ok (some tree), { f with tree := some tree })
    | .error failure => (.error failure, f)

/-! ## 2. Selecting -/

/-- Does the selection have a value with the property? -/
def valueIs (p : String → Bool) (n : NodeSelection) : Bool := (n.value.map p).getD false

/-- Adds a selection and drops those that it excludes. -/
def addSelection (t : Hierarchy) (selections : List NodeSelection) (n : NodeSelection) :
    List NodeSelection :=
  let left :=
    match n.value with
    | none => selections
    | some v =>
      let above := t.ancestors v
      let left := selections.filter fun x => !(valueIs above.contains x && !x.others)
      if n.others then left.filter fun x => !(valueIs (· == v) x && !x.others)
      else
        let below := t.descendants v
        (left.filter fun x => !valueIs below.contains x).filter fun x =>
          !(valueIs (· == v) x && x.others)
  if n ∈ left then left else left ++ [n]

def choose (f : HierarchicalFacet) (selections : List NodeSelection) : Bool × HierarchicalFacet :=
  (decide (selections ≠ f.selections), { f with selections })

/-- Clicks a node. -/
def toggle (f : HierarchicalFacet) (scene : Scene) (n : NodeSelection) (only : Bool) :
    Outcome Bool × HierarchicalFacet :=
  let isSelected := decide (n ∈ f.selections)
  let changeTo (f : HierarchicalFacet) (selections : List NodeSelection) :=
    let (changed, f) := f.choose selections
    ((.ok changed : Outcome Bool), f)
  if only then changeTo f (if isSelected && f.selections.length == 1 then [] else [n])
  else if isSelected then changeTo f (f.selections.filter (· ≠ n))
  else
    match f.getTree scene with
    | (.error failure, f) => (.error failure, f)
    | (.ok (some tree), f) => changeTo f (addSelection tree f.selections n)
    | (.ok none, f) => changeTo f (f.selections ++ [n])

/-! ## 3. Restricting -/

/-- The root items that a selection stands for. -/
def itemsOf (t : Hierarchy) (n : NodeSelection) : KeySet :=
  match n.value with
  | none => t.missing
  | some v =>
    if n.others then t.holders v
    else
      (((t.descendants v).insert v).toList.foldl (fun set w => set.union (t.holders w)) ∅)

def restrict (f : HierarchicalFacet) (scene : Scene) (items : KeySet) :
    Outcome KeySet × HierarchicalFacet :=
  if !f.hasRestrictions then (.ok items, f)
  else
    match f.getTree scene with
    | (.error failure, f) => (.error failure, f)
    | (.ok none, f) => (.ok items, f)
    | (.ok (some tree), f) =>
      (.ok (f.selections.foldl (fun set n => set.union ((itemsOf tree n).inter items)) ∅), f)

/-! ## 4. Offering -/

/-- Shows those of the values that have not been shown. What is shown is remembered at once, so that
    no value is shown twice. -/
def showEach {α : Type} (showOne : String → KeySet → Option α × KeySet) :
    List String → (shown : KeySet) → List α × KeySet
  | [], shown => ([], shown)
  | v :: rest, shown =>
    if shown.contains v then showEach showOne rest shown
    else
      let (one, shown) := showOne v (shown.insert v)
      let (more, shown) := showEach showOne rest shown
      (one.toList ++ more, shown)

def isSelected (f : HierarchicalFacet) (value : Option String) (others : Bool) : Bool :=
  decide (⟨value, others⟩ ∈ f.selections)

/-- The entry for the items at a node itself. -/
def othersEntry (f : HierarchicalFacet) (value : String) (own : KeySet) : HierarchyEntry :=
  .node ⟨some value, f.othersLabel, own.size, f.isSelected (some value) true⟩ true []

/-- Shows a value with everything below it that has not been shown. The result is the node, if it is
    worth showing, with the items below it, and what has been shown by now. -/
def node (f : HierarchicalFacet) (t : Hierarchy) (s : Store) (items : KeySet) :
    (depth : Nat) → String → (shown : KeySet) → Option (HierarchyEntry × KeySet) × KeySet
  | 0, _, shown => (none, shown)
  | depth + 1, value, shown =>
    let selected := f.isSelected (some value) false
    let own := (t.holders value).inter items
    let entry (count : Nat) : Entry := ⟨some value, valueLabel s value t.type, count, selected⟩
    match t.children.get? value with
    | none =>
      if !own.isEmpty || selected then (some (.node (entry own.size) false [], own), shown)
      else (none, shown)
    | some children =>
      let (below, shown) := showEach (f.node t s items depth) children.toList shown
      let sorted := f.order.sortBy t.type HierarchyEntry.entry (below.map Prod.fst)
      let held := below.foldl (fun set b => set.union b.2) ∅
      let (entries, held) :=
        if own.isEmpty then (sorted, held) else (sorted ++ [f.othersEntry value own], held.union own)
      if selected || !held.isEmpty || !entries.isEmpty then
        (some (.node (entry held.size) false entries, held), shown)
      else (none, shown)

/-- The entry for the items without value. -/
def missingEntry (f : HierarchicalFacet) (count : Nat) (selected : Bool) : HierarchyEntry :=
  .node ⟨none, f.missingLabel, count, selected⟩ false []

/-- Deeper than this no chain of values that have not been shown can go. -/
def maxDepth (t : Hierarchy) : Nat := t.children.pairCount + 1

/-- All nodes, from the roots down. -/
def shownTree (f : HierarchicalFacet) (t : Hierarchy) (s : Store) (items : KeySet) :
    List HierarchyEntry :=
  let (roots, _) := showEach (f.node t s items (maxDepth t)) t.roots.toList ∅
  let sorted := f.order.sortBy t.type HierarchyEntry.entry (roots.map Prod.fst)
  let missingSelected := f.selections.any fun n => n.value.isNone
  if f.showMissing || missingSelected then
    let count := (t.missing.inter items).size
    if 0 < count || missingSelected then f.missingEntry count missingSelected :: sorted else sorted
  else sorted

/-- Counts the items of the tree's nodes anew. If that fails the entries stay as they were. -/
def update (f : HierarchicalFacet) (scene : Scene) (items : KeySet) :
    Outcome Unit × HierarchicalFacet :=
  match f.getTree scene with
  | (.error failure, f) => (.error failure, f)
  | (.ok none, f) => (.ok (), { f with entries := [] })
  | (.ok (some tree), f) => (.ok (), { f with entries := f.shownTree tree scene.store items })

/-! ## 5. States -/

def exportState (f : HierarchicalFacet) : FacetState := .nodes (NodeSelection.sorted f.selections)

def emptyState : FacetState := .nodes []

def clear (f : HierarchicalFacet) : FacetState × HierarchicalFacet :=
  (f.exportState, { f with selections := [] })

def apply (f : HierarchicalFacet) (state : FacetState) : Outcome HierarchicalFacet :=
  match state with
  | .nodes selected => .ok { f with selections := selected }
  | other => .error (.data (.stateMismatch f.id other.describe))

def dropCaches (f : HierarchicalFacet) : HierarchicalFacet := { f with tree := none }

end HierarchicalFacet

end Faceted
