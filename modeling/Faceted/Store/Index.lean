import Faceted.KeyMap

/-!
# Two-level indexes

An index lists texts under pairs of texts: the objects of a subject and a property, or the subjects
of an object and a property. Each list is free of repetitions and in the order of arrival. Empty lists
and empty levels are removed, so what an index mentions it also lists.

Main statements: `listed_put` and `listed_remove`, which say what an operation does to the list of
every pair.
-/

namespace Faceted

/-- Lists under pairs of keys. -/
abbrev Index := KeyMap (KeyMap (List String))

namespace Index

/-! ## 1. Reading -/

/-- What is listed under `x` and `y`. -/
def listed (index : Index) (x y : String) : List String :=
  match index.get? x with
  | none => []
  | some inner => (inner.get? y).getD []

/-- The second keys under `x`, in ascending order. -/
def secondKeys (index : Index) (x : String) : List String :=
  match index.get? x with
  | none => []
  | some inner => inner.keys

@[simp] theorem listed_empty (x y : String) : listed (∅ : Index) x y = [] := rfl

theorem listed_eq_getD {index : Index} {x y : String} {inner : KeyMap (List String)}
    (h : index.get? x = some inner) : index.listed x y = (inner.get? y).getD [] := by
  simp [listed, h]

/-! ## 2. Writing -/

/-- Lists `z` last under `x` and `y`, unless it is listed there. -/
def put (index : Index) (x y z : String) : Index :=
  let zs := index.listed x y
  if z ∈ zs then index
  else
    let inner := (index.get? x).getD ∅
    index.insert x (inner.insert y (zs ++ [z]))

/-- Removes `z` from under `x` and `y`, and levels that this leaves empty. -/
def remove (index : Index) (x y z : String) : Index :=
  match index.get? x with
  | none => index
  | some inner =>
    let zs := (inner.get? y).getD []
    if z ∈ zs then
      let left := zs.erase z
      let inner := inner.set y (if left.isEmpty then none else some left)
      index.set x (if inner.isEmpty then none else some inner)
    else index

/-- Listing one text changes the list of one pair. -/
theorem listed_put (index : Index) (x y z a b : String) :
    (index.put x y z).listed a b =
      if a = x ∧ b = y ∧ ¬ z ∈ index.listed x y then index.listed x y ++ [z]
      else index.listed a b := by
  unfold put
  by_cases hz : z ∈ index.listed x y
  · simp [hz]
  · simp only [hz, if_false, not_false_eq_true, and_true]
    unfold listed
    rw [KeyMap.get?_insert]
    by_cases ha : a = x
    · subst ha
      simp only [if_true, KeyMap.get?_insert, true_and]
      by_cases hb : b = y
      · simp [hb]
      · simp only [hb, if_false]
        cases index.get? a <;> rfl
    · simp [ha]

theorem get?_of_isEmpty {α : Type} {m : KeyMap α} (h : m.isEmpty = true) (k : String) :
    m.get? k = none := by
  obtain ⟨entries, hasc⟩ := m
  cases entries with
  | nil => rfl
  | cons e es => simp [KeyMap.isEmpty] at h

/-- Removing one text changes the list of one pair. -/
theorem listed_remove (index : Index) (x y z a b : String) :
    (index.remove x y z).listed a b =
      if a = x ∧ b = y then (index.listed x y).erase z else index.listed a b := by
  unfold remove
  cases hx : index.get? x with
  | none =>
    by_cases h : a = x ∧ b = y
    · obtain ⟨rfl, rfl⟩ := h
      simp [listed, hx]
    · simp [h]
  | some inner =>
    have hxy : index.listed x y = (inner.get? y).getD [] := listed_eq_getD hx
    rw [hxy]
    by_cases hz : z ∈ (inner.get? y).getD []
    · simp only [hz, if_true]
      generalize hnew : inner.set y
        (if (((inner.get? y).getD []).erase z).isEmpty then none
          else some (((inner.get? y).getD []).erase z)) = new
      have hget : ∀ k, (new.get? k).getD [] =
          if k = y then ((inner.get? y).getD []).erase z else (inner.get? k).getD [] := by
        intro k
        rw [← hnew, KeyMap.get?_set]
        by_cases hk : k = y
        · simp only [hk, if_true]
          cases hl : ((inner.get? y).getD []).erase z <;> simp
        · simp [hk]
      by_cases ha : a = x
      · subst ha
        have hlist : listed (index.set a (if new.isEmpty then none else some new)) a b =
            (new.get? b).getD [] := by
          unfold listed
          rw [KeyMap.get?_set]
          by_cases he : new.isEmpty = true
          · simp [he, get?_of_isEmpty he]
          · simp [he]
        rw [hlist, hget, listed_eq_getD hx]
        simp
      · have hlist : listed (index.set x (if new.isEmpty then none else some new)) a b =
            listed index a b := by
          unfold listed
          rw [KeyMap.get?_set]
          simp [ha]
        rw [hlist]
        simp [ha]
    · simp only [hz, if_false]
      by_cases h : a = x ∧ b = y
      · obtain ⟨rfl, rfl⟩ := h
        simp [hxy, List.erase_of_not_mem hz]
      · simp [h]

/-! ## 3. Sets of listed texts -/

/-- Adds to a set what is listed under `x` and `y` and passes a filter. -/
def collect (index : Index) (x y : String) (into : KeySet) (filter : Option KeySet) : KeySet :=
  into.insertMany ((index.listed x y).filter (KeySet.passes filter))

@[simp] theorem mem_collect {index : Index} {x y z : String} {into : KeySet}
    {filter : Option KeySet} : z ∈ index.collect x y into filter ↔
      z ∈ into ∨ (z ∈ index.listed x y ∧ KeySet.passes filter z = true) := by
  simp [collect]

/-- Adds to a set what is listed under a member of `xs` and `y` and passes a filter. -/
def collectUnion (index : Index) (xs : KeySet) (y : String) (into : KeySet)
    (filter : Option KeySet) : KeySet :=
  xs.toList.foldl (fun set x => index.collect x y set filter) into

/-- How many texts listed under `x` and `y` pass a filter. -/
def countListed (index : Index) (x y : String) (filter : Option KeySet) : Nat :=
  ((index.listed x y).filter (KeySet.passes filter)).length

/-- Visits the texts that pass a filter, one after the other. -/
def visit (filter : Option KeySet) (visited : KeySet) (zs : List String) : KeySet :=
  zs.foldl (fun visited z => if KeySet.passes filter z then visited.insert z else visited) visited

/-- How many distinct texts are listed under a member of `xs` and `y` and pass a filter. -/
def countUnion (index : Index) (xs : KeySet) (y : String) (filter : Option KeySet) : Nat :=
  (xs.toList.foldl (fun visited x => visit filter visited (index.listed x y)) ∅).size

end Index

end Faceted
