import Faceted.Facet.ValueMaps

/-!
# Hierarchies of values

A grouping expression maps a value to its parents. Starting from the values of the root items, the
parents of every known value are looked up level by level, until no new value is found. The relation
may have any shape: several parents, cycles, values that are their own parent.

* `Hierarchy.build` makes the tree of an expression and a grouping;
* `closure` is what a relation leads to from a value in one step or more, the value itself left out.
-/

namespace Faceted

open Faceted.Expression

/-! ## 1. Reaching -/

/-- A relation between values, as the set that each value leads to. -/
abbrev Relation := KeyMap KeySet

namespace Relation

/-- What a value leads to in one step. -/
def next (r : Relation) (v : String) : KeySet := (r.get? v).getD ∅

/-- Adds a pair. -/
def add (r : Relation) (v w : String) : Relation := r.insert v ((r.next v).insert w)

/-- Adding a pair adds nothing else. -/
theorem mem_next_add (r : Relation) (v w x y : String) :
    y ∈ (r.add v w).next x ↔ (x = v ∧ y = w) ∨ y ∈ r.next x := by
  unfold add next
  rw [KeyMap.get?_insert]
  by_cases h : x = v
  · subst h
    simp
  · simp [h]

/-- How many pairs there are. -/
def pairCount (r : Relation) : Nat := r.toList.foldl (fun n e => n + e.2.size) 0

/-- Goes through the waiting values and adds what they lead to, except `start`. Every round takes one
    value from the waiting ones, and a value waits at most once. -/
def closureWithin (r : Relation) (start : String) :
    (rounds : Nat) → (waiting : List String) → (found : KeySet) → KeySet
  | 0, _, found => found
  | _, [], found => found
  | rounds + 1, v :: waiting, found =>
    let new := (r.next v).filter fun w => w != start && !found.contains w
    closureWithin r start rounds (new.toList ++ waiting) (found.union new)

/-- What `start` leads to in one step or more, without `start` itself. -/
def closure (r : Relation) (start : String) : KeySet :=
  closureWithin r start (r.pairCount + 1) [start] ∅

end Relation

/-! ## 2. Trees -/

/-- The values of the root items and all values above them. -/
structure Hierarchy where
  /-- The root items that have a value. -/
  itemsOf : KeyMap KeySet
  /-- The root items without value. -/
  missing : KeySet
  children : Relation
  parents : Relation
  /-- The values without parents. -/
  roots : KeySet
  type : ValueType

namespace Hierarchy

/-- The root items that hold the value itself. -/
def holders (t : Hierarchy) (value : String) : KeySet := (t.itemsOf.get? value).getD ∅

def ancestors (t : Hierarchy) (value : String) : KeySet := t.parents.closure value

def descendants (t : Hierarchy) (value : String) : KeySet := t.children.closure value

/-- The values of the maps, before any parent is known. -/
def ofMaps (maps : ValueMaps) (type : ValueType) : Hierarchy where
  itemsOf := maps.itemsOf
  missing := maps.missing
  children := ∅
  parents := ∅
  roots := ∅
  type := type

/-- A tree that grows: the known values, and those of them whose parents are not looked up. -/
structure Growth where
  tree : Hierarchy
  known : KeySet
  frontier : List String

/-- Enters the parents of a value; parents not known before are part of the next frontier. -/
def Growth.enter (g : Growth) (value : String) (parents : List String) : Growth :=
  if parents.isEmpty then { g with tree := { g.tree with roots := g.tree.roots.insert value } }
  else
    parents.foldl (fun g parent =>
      { tree := { g.tree with
          parents := g.tree.parents.add value parent
          children := g.tree.children.add parent value }
        known := g.known.insert parent
        frontier := if g.known.contains parent then g.frontier else g.frontier ++ [parent] }) g

/-- Looks up the parents of all values of the frontier. -/
def Growth.level (s : Store) (grouping : Expression) (g : Growth) : Outcome Growth := do
  let parents ← g.frontier.mapM fun value => return (value, ← grouping.evalOnItem value s)
  return parents.foldl (fun g p => g.enter p.1 p.2.toList) { g with frontier := [] }

/-- Looks up level after level until the frontier is empty. If it is not empty when the rounds are used
    up, that is an outcome of its own. -/
def Growth.levels (s : Store) (grouping : Expression) : (rounds : Nat) → Growth → Outcome Growth
  | 0, g => if g.frontier.isEmpty then .ok g else .error (.evaluation .endlessGrouping)
  | rounds + 1, g =>
    if g.frontier.isEmpty then .ok g
    else
      match g.level s grouping with
      | .error failure => .error failure
      | .ok g => Growth.levels s grouping rounds g

/-- How many levels are looked up. A path leads only to subjects and objects of the store, and every
    level but the last brings a new one, so that a path is done before. The allowance is for groupings
    that compute new values, of which some never come to an end. -/
def maxLevels (s : Store) (known : KeySet) : Nat :=
  known.size + s.forward.size + s.backward.size + 100000

/-- The tree of an expression over the root items, with parents from a grouping. Without a grouping
    every value is a root. -/
def build (scene : Scene) (e : Expression) (grouping : Option Expression) : Outcome Hierarchy := do
  let maps ← ValueMaps.build scene e
  let known := maps.itemsOf.keySet
  let type := if known.isEmpty then .item else maps.type
  let tree := ofMaps maps type
  match grouping with
  | none => return { tree with roots := known }
  | some g =>
    let start : Growth := ⟨tree, known, known.toList⟩
    return (← start.levels scene.store g (maxLevels scene.store known)).tree

end Hierarchy

end Faceted
