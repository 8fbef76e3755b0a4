import Faceted.Facet.State
import Mathlib.Data.List.Forall2

/-!
# States that are the same

States are compared by shape and selection, and the values in them by their place in the order of range
values. The order in which ranges and nodes were selected is lost when they are exported, since they are
sorted then.

* `RangeSelection.sorted_sorted`, `NodeSelection.sorted_sorted`: sorting once is enough, because both
  orders are total and transitive;
* **`FacetState.same_refl`**, **`same_symm`**, **`same_trans`**: sameness of states is an equivalence.
-/

namespace Faceted

/-! ## 1. Lists element by element -/

section Lists

variable {α β : Type} {r : α → β → Prop} {xs : List α} {ys : List β}

theorem forall₂_trans {γ : Type} {r' : β → γ → Prop} {r'' : α → γ → Prop}
    {zs : List γ} (h : List.Forall₂ r xs ys) (h' : List.Forall₂ r' ys zs)
    (htrans : ∀ {x y z}, r x y → r' y z → r'' x z) : List.Forall₂ r'' xs zs := by
  induction h generalizing zs with
  | nil => exact List.forall₂_nil_left_iff.mpr (List.forall₂_nil_left_iff.mp h')
  | cons hxy _ ih =>
    obtain ⟨z, zs', hyz, hrest, rfl⟩ := List.forall₂_cons_left_iff.mp h'
    exact .cons (htrans hxy hyz) (ih hrest)

theorem forall₂_getElem? (h : List.Forall₂ r xs ys) {n : Nat} {x : α} (hx : xs[n]? = some x) :
    ∃ y, ys[n]? = some y ∧ r x y := by
  obtain ⟨hn, rfl⟩ := List.getElem?_eq_some_iff.mp hx
  have hn' : n < ys.length := h.length_eq ▸ hn
  exact ⟨ys[n], List.getElem?_eq_getElem hn', h.get hn hn'⟩

theorem forall₂_getElem?_right (h : List.Forall₂ r xs ys) {n : Nat} {y : β} (hy : ys[n]? = some y) :
    ∃ x, xs[n]? = some x ∧ r x y := forall₂_getElem? h.flip hy

theorem forall₂_mem (h : List.Forall₂ r xs ys) {x : α} (hx : x ∈ xs) : ∃ y ∈ ys, r x y := by
  obtain ⟨n, hn⟩ := List.mem_iff_getElem?.mp hx
  obtain ⟨y, hy, hxy⟩ := forall₂_getElem? h hn
  exact ⟨y, List.mem_of_getElem? hy, hxy⟩

/-- Relations between elements may be looked at where the elements are. -/
theorem forall₂_imp_of_mem {r' : α → β → Prop} (h : List.Forall₂ r xs ys)
    (himp : ∀ x ∈ xs, ∀ y ∈ ys, r x y → r' x y) : List.Forall₂ r' xs ys := by
  refine List.forall₂_iff_get.mpr ⟨h.length_eq, fun n hn hn' => ?_⟩
  exact himp _ (List.getElem_mem hn) _ (List.getElem_mem hn') (h.get hn hn')

/-- Lists have the same images exactly if their elements have, one by one. -/
theorem map_eq_iff_forall₂ {γ : Type} {f : α → γ} {g : β → γ} :
    xs.map f = ys.map g ↔ List.Forall₂ (fun x y => f x = g y) xs ys := by
  rw [← List.forall₂_eq_eq_eq, List.forall₂_map_left_iff, List.forall₂_map_right_iff]

theorem map_eq_of_forall₂ {γ : Type} {f : α → γ} {g : β → γ} (h : List.Forall₂ r xs ys)
    (hr : ∀ x y, r x y → f x = g y) : xs.map f = ys.map g := map_eq_iff_forall₂.mpr (h.imp hr)

/-- One element is replaced. -/
theorem forall₂_set {r : α → α → Prop} (hrefl : ∀ x, r x x) {n : Nat} {x y : α}
    (hx : xs[n]? = some x) (hxy : r x y) : List.Forall₂ r xs (xs.set n y) := by
  obtain ⟨hn, rfl⟩ := List.getElem?_eq_some_iff.mp hx
  refine List.forall₂_iff_get.mpr ⟨List.length_set.symm, fun m hm hm' => ?_⟩
  rw [List.get_eq_getElem, List.get_eq_getElem, List.getElem_set]
  split
  · next heq =>
    subst heq
    exact hxy
  · exact hrefl _

theorem isEmpty_congr {xs ys : List α} (h : xs.length = ys.length) : xs.isEmpty = ys.isEmpty := by
  cases xs <;> cases ys <;> simp_all

end Lists

/-! ## 2. Values -/

namespace RangeValue

variable {a a' b b' c : RangeValue}

theorem same_symm (h : a.same b = true) : b.same a = true := by
  cases a <;> cases b <;> simp_all [same]

theorem same_trans (h : a.same b = true) (h' : b.same c = true) : a.same c = true := by
  cases a <;> cases b <;> cases c <;> simp_all [same]

/-- Values with the same place stand in the same order to others. -/
theorem before_congr (ha : a.same a' = true) (hb : b.same b' = true) :
    a.before b = a'.before b' := by
  cases a <;> cases a' <;> cases b <;> cases b' <;> simp_all [same, before]

theorem same_congr (ha : a.same a' = true) (hb : b.same b' = true) : a.same b = a'.same b' := by
  cases a <;> cases a' <;> cases b <;> cases b' <;> simp_all [same]

end RangeValue

/-! ## 3. Ranges -/

namespace RangeSelection

open RangeValue

variable {a b c : RangeSelection}

theorem same_refl (a : RangeSelection) : a.same a = true := by
  unfold same
  rw [RangeValue.same_refl, RangeValue.same_refl]
  rfl

theorem same_symm (h : a.same b = true) : b.same a = true := by
  simp only [same, Bool.and_eq_true] at *
  exact ⟨RangeValue.same_symm h.1, RangeValue.same_symm h.2⟩

theorem same_trans (h : a.same b = true) (h' : b.same c = true) : a.same c = true := by
  simp only [same, Bool.and_eq_true] at *
  exact ⟨RangeValue.same_trans h.1 h'.1, RangeValue.same_trans h.2 h'.2⟩

theorem le_iff : a.le b = true ↔
    a.low.before b.low = true ∨ a.low.same b.low = true ∧ b.high.before a.high = false := by
  simp only [le, Bool.or_eq_true, Bool.and_eq_true, Bool.not_eq_true']

theorem le_trans (a b c : RangeSelection) (hab : a.le b = true) (hbc : b.le c = true) :
    a.le c = true := by
  rw [le_iff] at *
  rcases hab with hab | ⟨hab, hab'⟩
  · rcases hbc with hbc | ⟨hbc, -⟩
    · exact .inl (before_trans hab hbc)
    · exact .inl ((before_congr (RangeValue.same_refl _) hbc).symm.trans hab)
  · rcases hbc with hbc | ⟨hbc, hbc'⟩
    · exact .inl ((before_congr hab (RangeValue.same_refl _)).trans hbc)
    · refine .inr ⟨RangeValue.same_trans hab hbc, Bool.eq_false_iff.mpr fun hca => ?_⟩
      -- the upper end in the middle is neither before the one nor after the other
      rcases not_before_iff.mp hab' with hsame | hbefore
      · rw [before_congr (RangeValue.same_refl _) hsame, hca] at hbc'
        cases hbc'
      · rw [before_trans hca hbefore] at hbc'
        cases hbc'

theorem le_total (a b : RangeSelection) : (a.le b || b.le a) = true := by
  rw [Bool.or_eq_true, le_iff, le_iff]
  rcases before_trichotomy a.low b.low with h | h | h
  · exact .inl (.inl h)
  · rcases hhigh : b.high.before a.high with _ | _
    · exact .inl (.inr ⟨h, rfl⟩)
    · refine .inr (.inr ⟨RangeValue.same_symm h, Bool.eq_false_iff.mpr fun hback => ?_⟩)
      have hself := before_trans hback hhigh
      rw [before_irrefl] at hself
      cases hself
  · exact .inr (.inl h)

theorem sorted_sorted (ranges : List RangeSelection) : sorted (sorted ranges) = sorted ranges :=
  List.mergeSort_of_pairwise (List.pairwise_mergeSort le_trans le_total ranges)

theorem mem_sorted {r : RangeSelection} {ranges : List RangeSelection} :
    r ∈ sorted ranges ↔ r ∈ ranges := List.mem_mergeSort

end RangeSelection

/-! ## 4. Nodes -/

namespace NodeSelection

theorem le_trans (a b c : NodeSelection) (hab : a.le b = true) (hbc : b.le c = true) :
    a.le c = true := by
  obtain ⟨x, m⟩ := a
  obtain ⟨y, n⟩ := b
  obtain ⟨z, o⟩ := c
  cases x <;> cases y <;> cases z <;> simp only [le, Bool.or_eq_true, Bool.and_eq_true,
    Bool.not_eq_true', decide_eq_true_eq, beq_iff_eq, reduceCtorEq] at *
  · grind
  · next x y z =>
    rcases hab with hab | ⟨rfl, hab⟩ <;> rcases hbc with hbc | ⟨rfl, hbc⟩
    · exact .inl (String.lt_trans hab hbc)
    · exact .inl hab
    · exact .inl hbc
    · exact .inr ⟨rfl, by grind⟩

theorem le_total (a b : NodeSelection) : (a.le b || b.le a) = true := by
  obtain ⟨x, m⟩ := a
  obtain ⟨y, n⟩ := b
  cases x <;> cases y <;> simp only [le, Bool.or_eq_true, Bool.and_eq_true,
    Bool.not_eq_true', decide_eq_true_eq, beq_iff_eq, or_true, true_or]
  · cases m <;> simp
  · next x y =>
    rcases String.le_total x y with h | h <;> by_cases heq : x = y
    · subst heq
      cases m <;> simp
    · exact .inl (.inl (String.not_le.mp fun h' => heq (String.le_antisymm h h')))
    · subst heq
      cases m <;> simp
    · exact .inr (.inl (String.not_le.mp fun h' => heq (String.le_antisymm h' h)))

theorem sorted_sorted (nodes : List NodeSelection) : sorted (sorted nodes) = sorted nodes :=
  List.mergeSort_of_pairwise (List.pairwise_mergeSort le_trans le_total nodes)

theorem mem_sorted {n : NodeSelection} {nodes : List NodeSelection} :
    n ∈ sorted nodes ↔ n ∈ nodes := List.mem_mergeSort

end NodeSelection

/-! ## 5. States -/

namespace FacetState

/-- Lists of ranges are equal if they are the same range by range. -/
theorem beq_ranges_iff {xs ys : List RangeSelection} :
    (xs == ys) = true ↔ List.Forall₂ (fun x y => x.same y = true) xs ys := by
  induction xs generalizing ys with
  | nil => cases ys <;> simp
  | cons x xs ih =>
    cases ys with
    | nil => simp
    | cons y ys =>
      rw [List.cons_beq_cons, Bool.and_eq_true, ih, List.forall₂_cons]
      rfl

theorem same_refl (s : FacetState) : s.same s = true := by
  cases s with
  | ranges xs => exact beq_ranges_iff.mpr (List.forall₂_same.mpr fun x _ => x.same_refl)
  | _ => simp [same]

theorem same_symm {s t : FacetState} (h : s.same t = true) : t.same s = true := by
  cases s <;> cases t <;> simp only [same, Bool.false_eq_true] at *
  · simp_all
  · rw [beq_ranges_iff] at *
    exact (h.imp fun x y hxy => RangeSelection.same_symm hxy).flip
  · simp_all
  · simp_all

theorem same_trans {s t u : FacetState} (h : s.same t = true) (h' : t.same u = true) :
    s.same u = true := by
  cases s <;> cases t <;> cases u <;> simp only [same, Bool.false_eq_true] at *
  · simp_all
  · rw [beq_ranges_iff] at *
    exact forall₂_trans h h' RangeSelection.same_trans
  · simp_all
  · simp_all

end FacetState

end Faceted
