import Faceted.KeyMap

/-!
# One-to-one maps

A finite map between texts that can be looked up from either side. No text comes twice on its side:
putting in a pair drops the pairs that hold one of its texts already. That is what the package `bimap`
(version 0.6) documents of its map and of putting a pair into it; the order of its pairs is left open
there, and nothing here depends on it.

Main statements: `pairs_empty` and `pairs_insert` say which pairs there are, and `byRight_eq_some_iff`
that a look from the right finds the same pairs.
-/

namespace Faceted

/-- A map with its converse. -/
structure TwoWayMap where
  byLeft : KeyMap String
  byRight : KeyMap String
  converse : ∀ left right, byLeft.get? left = some right ↔ byRight.get? right = some left

namespace TwoWayMap

/-- The map has the pair. -/
def Pairs (m : TwoWayMap) (left right : String) : Prop := m.byLeft.get? left = some right

theorem byRight_eq_some_iff {m : TwoWayMap} {left right : String} :
    m.byRight.get? right = some left ↔ m.Pairs left right := (m.converse left right).symm

/-- A text on the right is in one pair. -/
theorem left_unique {m : TwoWayMap} {left left' right : String} (h : m.Pairs left right)
    (h' : m.Pairs left' right) : left = left' := by
  rw [← byRight_eq_some_iff] at h h'
  exact Option.some.inj (h.symm.trans h')

/-- The map without pairs. -/
def empty : TwoWayMap where
  byLeft := ∅
  byRight := ∅
  converse _ _ := iff_of_false (fun h => by cases h) fun h => by cases h

instance : EmptyCollection TwoWayMap := ⟨empty⟩

theorem pairs_empty {left right : String} : ¬ (∅ : TwoWayMap).Pairs left right := fun h => by cases h

/-- Erasing a pair from both sides leaves a map with its converse. -/
theorem converse_erase {m : TwoWayMap} {left right : String} (h : m.Pairs left right) (a b : String) :
    (m.byLeft.erase left).get? a = some b ↔ (m.byRight.erase right).get? b = some a := by
  have hright := (m.converse left right).mp h
  have hpairs := m.converse a b
  unfold Pairs at h
  simp only [KeyMap.get?_erase]
  grind

/-- Drops the pair with the left text, if there is one. -/
def dropLeft (m : TwoWayMap) (left : String) : TwoWayMap :=
  match h : m.byLeft.get? left with
  | none => m
  | some right => ⟨m.byLeft.erase left, m.byRight.erase right, converse_erase h⟩

/-- Drops the pair with the right text, if there is one. -/
def dropRight (m : TwoWayMap) (right : String) : TwoWayMap :=
  match h : m.byRight.get? right with
  | none => m
  | some left => ⟨m.byLeft.erase left, m.byRight.erase right, converse_erase (byRight_eq_some_iff.mp h)⟩

theorem pairs_dropLeft {m : TwoWayMap} {left a b : String} :
    (m.dropLeft left).Pairs a b ↔ a ≠ left ∧ m.Pairs a b := by
  unfold dropLeft Pairs
  split
  · next h => grind
  · next right h =>
    rw [KeyMap.get?_erase]
    grind

theorem pairs_dropRight {m : TwoWayMap} {right a b : String} :
    (m.dropRight right).Pairs a b ↔ b ≠ right ∧ m.Pairs a b := by
  unfold dropRight Pairs
  split
  · next h =>
    have hpairs := m.converse a b
    grind
  · next left h =>
    have hpairs := m.converse a b
    have hleft := m.converse left right
    rw [KeyMap.get?_erase]
    grind

/-- Puts in a pair; pairs that hold one of its texts are dropped. -/
def insert (m : TwoWayMap) (left right : String) : TwoWayMap :=
  let rest := (m.dropLeft left).dropRight right
  { byLeft := rest.byLeft.insert left right
    byRight := rest.byRight.insert right left
    converse := fun a b => by
      have hrest := rest.converse a b
      have hleft : ¬ rest.Pairs left b := fun h => (pairs_dropLeft.mp (pairs_dropRight.mp h).2).1 rfl
      have hright : ¬ rest.Pairs a right := fun h => (pairs_dropRight.mp h).1 rfl
      unfold Pairs at hleft hright
      simp only [KeyMap.get?_insert]
      grind }

theorem pairs_insert {m : TwoWayMap} {left right a b : String} :
    (m.insert left right).Pairs a b ↔
      a = left ∧ b = right ∨ a ≠ left ∧ b ≠ right ∧ m.Pairs a b := by
  have hrest : ((m.dropLeft left).dropRight right).Pairs a b ↔ b ≠ right ∧ a ≠ left ∧ m.Pairs a b := by
    rw [pairs_dropRight, pairs_dropLeft]
  unfold Pairs insert at *
  rw [KeyMap.get?_insert]
  grind

end TwoWayMap

end Faceted
