import Faceted.Facet.Hierarchy
import Faceted.Proofs.KeySet.Sizes
import Mathlib.Logic.Relation

/-!
# What a relation leads to

Ancestors and descendants are found by one walk over a relation: a value waits until what it leads to
is entered. Walks of this kind end because each value is found once.

* `Relation.unreached`: how many pairs lead to something that is not found yet. Entering something new
  makes it less, so it bounds every walk that finds each value once;
* `Exploring`: what holds of the values that wait and those that are found;
* **`Relation.mem_closure_iff`**: the closure of a value is what is reached from it, without itself;
* **`mem_closure_converse`**: over converse relations, one value is in the closure of another exactly
  if that one is in its closure, whatever cycles there are.
-/

namespace Faceted

namespace Relation

variable {r r' : Relation} {start v w : String}

/-! ## 1. Reaching -/

/-- The value leads to the other in some number of steps, possibly none. -/
abbrev Reaches (r : Relation) : String → String → Prop :=
  Relation.ReflTransGen fun v w => w ∈ r.next v

theorem reaches_converse (h : ∀ v w, w ∈ r.next v ↔ v ∈ r'.next w) :
    r.Reaches v w ↔ r'.Reaches w v := by
  have hflip : (fun v w => w ∈ r.next v) = fun v w => v ∈ r'.next w := by
    funext v w
    exact propext (h v w)
  unfold Reaches
  rw [hflip]
  exact Relation.reflTransGen_swap

/-! ## 2. What is not found yet -/

/-- What the pairs lead to, one after the other. -/
def targets (r : Relation) : List String := r.toList.flatMap fun e => e.2.toList

theorem mem_targets (h : w ∈ r.next v) : w ∈ r.targets := by
  unfold next at h
  cases hget : r.get? v with
  | none =>
    rw [hget] at h
    cases h
  | some values =>
    rw [hget] at h
    exact List.mem_flatMap.mpr ⟨(v, values), KeyMap.mem_toList_of_get? hget, h⟩

theorem length_targets (r : Relation) : r.targets.length = r.pairCount := by
  unfold targets pairCount
  rw [List.length_flatMap, List.sum_eq_foldl, List.foldl_map]
  rfl

/-- How many of the pairs lead to something that is not found. -/
def unreached (r : Relation) (found : KeySet) : Nat :=
  (r.targets.filter fun w => !found.contains w).length

theorem unreached_le (r : Relation) (found : KeySet) : r.unreached found ≤ r.pairCount := by
  rw [← length_targets]
  exact List.length_filter_le _ _

/-- Finding more leaves less, by as much as is new. -/
theorem unreached_add_le {found found' : KeySet} {new : List String} (hnew : new.Nodup)
    (hgrows : ∀ w ∈ found, w ∈ found')
    (hfound : ∀ w ∈ new, w ∈ r.targets ∧ w ∉ found ∧ w ∈ found') :
    r.unreached found' + new.length ≤ r.unreached found := by
  have hrest : (r.targets.filter fun w => !found.contains w).filter (fun w => !found'.contains w) =
      r.targets.filter fun w => !found'.contains w := by
    rw [List.filter_filter]
    refine List.filter_congr fun w _ => ?_
    by_cases hw : w ∈ found
    · simp [hw, hgrows w hw, KeySet.contains_iff.mpr]
    · simp [KeySet.contains_eq_false_iff.mpr hw]
  have hreached : new.length ≤
      ((r.targets.filter fun w => !found.contains w).filter found'.contains).length := by
    refine (hnew.subperm fun w hw => ?_).length_le
    obtain ⟨htarget, hnot, hin⟩ := hfound w hw
    simp [htarget, KeySet.contains_eq_false_iff.mpr hnot, hin]
  have hsplit := List.length_eq_length_filter_add
    (l := r.targets.filter fun w => !found.contains w) found'.contains
  unfold unreached
  rw [hrest] at hsplit
  omega

theorem unreached_mono {found found' : KeySet} (hgrows : ∀ w ∈ found, w ∈ found') :
    r.unreached found' ≤ r.unreached found :=
  unreached_add_le List.nodup_nil hgrows (by simp)

theorem unreached_insert_lt {found : KeySet} (hw : w ∈ r.next v) (hnot : w ∉ found) :
    r.unreached (found.insert w) < r.unreached found := by
  have hle : r.unreached (found.insert w) + [w].length ≤ r.unreached found := by
    refine unreached_add_le (List.pairwise_singleton _ w)
      (fun x hx => KeySet.mem_insert.mpr (.inr hx)) fun x hx => ?_
    obtain rfl := List.mem_singleton.mp hx
    exact ⟨mem_targets hw, hnot, KeySet.mem_insert.mpr (.inl rfl)⟩
  rw [List.length_singleton] at hle
  omega

/-- Entering all that one value leads to and was not found, except the start of the walk. -/
theorem unreached_union_add_le {found new : KeySet}
    (hnew : ∀ w, w ∈ new ↔ w ∈ r.next v ∧ w ≠ start ∧ w ∉ found) :
    r.unreached (found.union new) + new.toList.length ≤ r.unreached found := by
  refine unreached_add_le new.nodup_toList (fun w hw => KeySet.mem_union.mpr (.inl hw))
    fun w hw => ?_
  obtain ⟨hnext, -, hnot⟩ := (hnew w).mp hw
  exact ⟨mem_targets hnext, hnot, KeySet.mem_union.mpr (.inr hw)⟩

/-! ## 3. The walk -/

theorem mem_filter_new (r : Relation) (start v : String) (found : KeySet) (w : String) :
    w ∈ (r.next v).filter (fun w => w != start && !found.contains w) ↔
      w ∈ r.next v ∧ w ≠ start ∧ w ∉ found := by
  simp [KeySet.contains]

/-- The walk from `start`: what is found is reached, and what it leads to is found unless it waits. -/
structure Exploring (r : Relation) (start : String) (waiting : List String) (found : KeySet) :
    Prop where
  waits : ∀ v ∈ waiting, v = start ∨ v ∈ found
  sound : ∀ w ∈ found, w ≠ start ∧ r.Reaches start w
  closed : ∀ v, v = start ∨ v ∈ found → v ∈ waiting ∨ ∀ w ∈ r.next v, w = start ∨ w ∈ found

namespace Exploring

theorem begin (r : Relation) (start : String) : r.Exploring start [start] ∅ where
  waits v hv := .inl (List.mem_singleton.mp hv)
  sound w hw := absurd hw KeySet.not_mem_empty
  closed v hv := by
    rcases hv with rfl | hv
    · exact .inl List.mem_cons_self
    · exact absurd hv KeySet.not_mem_empty

/-- One value has waited, and what it leads to is entered. -/
theorem step {waiting : List String} {found new : KeySet}
    (h : r.Exploring start (v :: waiting) found)
    (hnew : ∀ w, w ∈ new ↔ w ∈ r.next v ∧ w ≠ start ∧ w ∉ found) :
    r.Exploring start (new.toList ++ waiting) (found.union new) where
  waits w hw := by
    rw [KeySet.mem_union]
    rcases List.mem_append.mp hw with hw | hw
    · exact .inr (.inr hw)
    · exact (h.waits w (List.mem_cons_of_mem v hw)).imp id .inl
  sound w hw := by
    rcases KeySet.mem_union.mp hw with hw | hw
    · exact h.sound w hw
    · obtain ⟨hnext, hne, -⟩ := (hnew w).mp hw
      refine ⟨hne, .tail ?_ hnext⟩
      rcases h.waits v List.mem_cons_self with rfl | hv
      · exact .refl
      · exact (h.sound v hv).2
  closed u hu := by
    simp only [KeySet.mem_union, List.mem_append] at hu ⊢
    -- what was found before, and what is new: the one that waited leads to found values by now
    rcases or_assoc.mpr hu with hold | hu
    · rcases h.closed u hold with hwaits | hclosed
      · rcases List.mem_cons.mp hwaits with rfl | hwaits
        · refine .inr fun w hw => ?_
          by_cases hstart : w = start
          · exact .inl hstart
          · by_cases hfound : w ∈ found
            · exact .inr (.inl hfound)
            · exact .inr (.inr ((hnew w).mpr ⟨hw, hstart, hfound⟩))
        · exact .inl (.inr hwaits)
      · exact .inr fun w hw => (hclosed w hw).imp id .inl
    · exact .inl (.inl hu)

theorem closureWithin {rounds : Nat} {waiting : List String} {found : KeySet}
    (h : r.Exploring start waiting found) (hrounds : waiting.length + r.unreached found ≤ rounds) :
    r.Exploring start [] (closureWithin r start rounds waiting found) := by
  induction rounds generalizing waiting found with
  | zero =>
    obtain rfl : waiting = [] := List.eq_nil_of_length_eq_zero (by omega)
    exact h
  | succ rounds ih =>
    cases waiting with
    | nil => exact h
    | cons v waiting =>
      have hnew := mem_filter_new r start v found
      refine ih (h.step hnew) ?_
      have hless := unreached_union_add_le hnew
      rw [List.length_append]
      rw [List.length_cons] at hrounds
      omega

/-- When nothing waits any more, exactly what is reached is found. -/
theorem mem_iff {found : KeySet} (hdone : r.Exploring start [] found) :
    w ∈ found ↔ w ≠ start ∧ r.Reaches start w := by
  have hfound {w : String} (hreaches : r.Reaches start w) : w = start ∨ w ∈ found := by
    induction hreaches with
    | refl => exact .inl rfl
    | tail _ hnext ih =>
      rcases hdone.closed _ ih with hwaits | hclosed
      · cases hwaits
      · exact hclosed _ hnext
  exact ⟨hdone.sound w, fun ⟨hne, hreaches⟩ => (hfound hreaches).resolve_left hne⟩

end Exploring

/-- **The closure of a value is what is reached from it**, without itself. -/
theorem mem_closure_iff : w ∈ r.closure start ↔ w ≠ start ∧ r.Reaches start w := by
  refine ((Exploring.begin r start).closureWithin ?_).mem_iff
  have hle := r.unreached_le ∅
  rw [List.length_singleton]
  omega

/-- Over converse relations closures are converse as well. -/
theorem mem_closure_converse (h : ∀ v w, w ∈ r.next v ↔ v ∈ r'.next w) :
    w ∈ r.closure v ↔ v ∈ r'.closure w := by
  rw [mem_closure_iff, mem_closure_iff, reaches_converse h, ne_comm]

end Relation

end Faceted
