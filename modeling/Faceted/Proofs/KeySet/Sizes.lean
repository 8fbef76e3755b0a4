import Faceted.KeySet
import Mathlib.Data.List.Dedup
import Mathlib.Data.List.Perm.Subperm

/-!
# Sizes of sets

A set of keys lists each of its members once, so its size is told by any list of its members without
repetitions.

* `KeySet.perm_toList`, `KeySet.size_eq_length`: such a list is the list of the set up to its order;
* `KeySet.size_ofList`, `KeySet.size_insert_of_not_mem`, `KeySet.size_union_le`: sizes of sets that are
  put together;
* `KeySet.size_eq_iff`: a subset is of the same size only if it is the whole, so
  `KeySet.eq_iff_size_eq`.
-/

namespace Faceted.KeySet

variable {s s' : KeySet} {k : String}

/-! ## 1. Lists of the members -/

/-- There is one list of the members without repetitions, up to its order. -/
theorem perm_toList {ks : List String} (hks : ks.Nodup) (h : ∀ k, k ∈ s ↔ k ∈ ks) :
    s.toList.Perm ks :=
  (List.perm_ext_iff_of_nodup s.nodup_toList hks).mpr h

theorem size_eq_length {ks : List String} (hks : ks.Nodup) (h : ∀ k, k ∈ s ↔ k ∈ ks) :
    s.size = ks.length := (perm_toList hks h).length_eq

theorem size_ofList (ks : List String) : (ofList ks).size = ks.dedup.length :=
  size_eq_length ks.nodup_dedup fun k => by rw [mem_ofList, List.mem_dedup]

theorem size_insert_of_not_mem (h : k ∉ s) : (s.insert k).size = s.size + 1 :=
  size_eq_length (List.nodup_cons.mpr ⟨h, s.nodup_toList⟩) fun a => by
    rw [mem_insert, List.mem_cons]
    exact Iff.rfl

/-! ## 2. Subsets -/

theorem size_le (h : ∀ k ∈ s, k ∈ s') : s.size ≤ s'.size := (s.nodup_toList.subperm h).length_le

/-- A subset is of the same size exactly if it is the whole. -/
theorem size_eq_iff (h : ∀ k ∈ s, k ∈ s') : s.size = s'.size ↔ ∀ k ∈ s', k ∈ s := by
  constructor
  · intro hsize k hk
    have hperm := (s.nodup_toList.subperm h).perm_of_length_le (Nat.le_of_eq hsize.symm)
    exact hperm.mem_iff.mpr hk
  · intro hback
    exact Nat.le_antisymm (size_le h) (size_le hback)

theorem eq_iff_size_eq (h : ∀ k ∈ s, k ∈ s') : s = s' ↔ s.size = s'.size := by
  rw [size_eq_iff h]
  constructor
  · rintro rfl
    exact fun _ => id
  · exact fun hback => ext fun k => ⟨h k, hback k⟩

theorem size_lt (h : ∀ k ∈ s, k ∈ s') (hk : k ∈ s') (hnot : k ∉ s) : s.size < s'.size := by
  have hle := size_le h
  have hne : s.size ≠ s'.size := fun heq => hnot ((size_eq_iff h).mp heq k hk)
  omega

theorem size_union_le (s s' : KeySet) : (s.union s').size ≤ s.size + s'.size := by
  have hsub : (s.union s').toList.Subperm (s.toList ++ s'.toList) :=
    (s.union s').nodup_toList.subperm fun k hk => List.mem_append.mpr (mem_union.mp hk)
  have hle := hsub.length_le
  rw [List.length_append] at hle
  exact hle

end Faceted.KeySet
