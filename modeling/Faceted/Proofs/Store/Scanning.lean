import Faceted.RangeIndex
import Faceted.Proofs.Facet.Sameness
import Mathlib.Data.List.TakeWhile

/-!
# What a range of an index holds

An index is sorted, so the values before a place stand together at its start. The two ends of a range
are found by that: the entries of a range are read from its start on as far as they belong to it, and
they are counted from the positions of both ends, without being read.

* `RangeEntry.le_trans`, `RangeEntry.le_total`: entries are in a total order, and `pairwise_ofItems`: the
  index is sorted by it;
* `isPartedAt_iff`: there is one place at which an index can be parted at a value, so it does not matter
  how it is searched for;
* `between_eq_filter`: what is read is what lies in the range, and `countBetween_eq`: as much is counted;
* **`visited_of_values`**: queries are told by the values of the items alone.
-/

namespace Faceted

/-! ## 1. The order of entries -/

/-- Does the value lie in the range? Its lower end belongs to it, and its upper end if it is included. -/
def RangeValue.isWithin (v low high : RangeValue) (inclusive : Bool) : Bool :=
  !v.before low && (v.before high || (inclusive && v.same high))

namespace RangeEntry

variable {a b c : RangeEntry}

theorem le_iff : a.le b = true ↔
    a.value.before b.value = true ∨ a.value.same b.value = true ∧ a.item ≤ b.item := by
  simp only [le, Bool.or_eq_true, Bool.and_eq_true, decide_eq_true_eq]

theorem le_trans (a b c : RangeEntry) (hab : a.le b = true) (hbc : b.le c = true) :
    a.le c = true := by
  rw [le_iff] at *
  rcases hab with hab | ⟨hab, hitem⟩
  · rcases hbc with hbc | ⟨hbc, -⟩
    · exact .inl (RangeValue.before_trans hab hbc)
    · exact .inl ((RangeValue.before_congr (RangeValue.same_refl _) hbc).symm.trans hab)
  · rcases hbc with hbc | ⟨hbc, hitem'⟩
    · exact .inl ((RangeValue.before_congr hab (RangeValue.same_refl _)).trans hbc)
    · exact .inr ⟨RangeValue.same_trans hab hbc, String.le_trans hitem hitem'⟩

theorem le_total (a b : RangeEntry) : (a.le b || b.le a) = true := by
  rw [Bool.or_eq_true, le_iff, le_iff]
  rcases RangeValue.before_trichotomy a.value b.value with h | h | h
  · exact .inl (.inl h)
  · exact (String.le_total a.item b.item).imp (fun hle => .inr ⟨h, hle⟩)
      fun hle => .inr ⟨RangeValue.same_symm h, hle⟩
  · exact .inr (.inl h)

/-- What is listed no later than a value before a place is before it too. -/
theorem before_of_le (h : a.le b = true) {v : RangeValue} (hb : b.value.before v = true) :
    a.value.before v = true := by
  rcases le_iff.mp h with hab | ⟨hab, -⟩
  · exact RangeValue.before_trans hab hb
  · exact (RangeValue.before_congr hab (RangeValue.same_refl v)).trans hb

theorem reaches_of_le (h : a.le b = true) {high : RangeValue} {inclusive : Bool}
    (hb : RangeIndex.reaches high inclusive b.value = true) :
    RangeIndex.reaches high inclusive a.value = true := by
  simp only [RangeIndex.reaches, Bool.or_eq_true, Bool.and_eq_true] at *
  rcases hb with hb | ⟨hinclusive, hb⟩
  · exact .inl (before_of_le h hb)
  · rcases le_iff.mp h with hab | ⟨hab, -⟩
    · exact .inl ((RangeValue.before_congr (RangeValue.same_refl _) hb).symm.trans hab)
    · exact .inr ⟨hinclusive, RangeValue.same_trans hab hb⟩

end RangeEntry

/-! ## 2. Sorted lists -/

section Lists

variable {α : Type} {p q : α → Bool} {xs : List α}

/-- Where a test is passed up to a place and no further, the start that passes is all that passes. -/
theorem takeWhile_eq_filter (h : xs.Pairwise fun a b => p b = true → p a = true) :
    xs.takeWhile p = xs.filter p := by
  induction xs with
  | nil => rfl
  | cons x xs ih =>
    obtain ⟨hx, hxs⟩ := List.pairwise_cons.mp h
    by_cases hp : p x = true
    · rw [List.takeWhile_cons_of_pos hp, List.filter_cons_of_pos hp, ih hxs]
    · rw [List.takeWhile_cons_of_neg hp, List.filter_cons_of_neg hp, eq_comm,
        List.filter_eq_nil_iff]
      exact fun y hy hpy => hp (hx y hy hpy)

theorem dropWhile_eq_filter (h : xs.Pairwise fun a b => p b = true → p a = true) :
    xs.dropWhile p = xs.filter fun x => !p x := by
  induction xs with
  | nil => rfl
  | cons x xs ih =>
    obtain ⟨hx, hxs⟩ := List.pairwise_cons.mp h
    by_cases hp : p x = true
    · rw [List.dropWhile_cons_of_pos hp, List.filter_cons_of_neg (by simp [hp]), ih hxs]
    · rw [List.dropWhile_cons_of_neg hp, eq_comm, List.filter_eq_self]
      intro y hy
      rcases List.mem_cons.mp hy with rfl | hy
      · simpa using hp
      · simpa using fun hpy => hp (hx y hy hpy)

/-- What is read up to a place is counted by the test alone. -/
theorem length_takeWhile_eq_countP (h : xs.Pairwise fun a b => p b = true → p a = true) :
    (xs.takeWhile p).length = xs.countP p := by
  rw [takeWhile_eq_filter h, List.countP_eq_length_filter]

theorem drop_length_takeWhile (p : α → Bool) (xs : List α) :
    xs.drop (xs.takeWhile p).length = xs.dropWhile p := by
  have hdrop := @List.drop_left _ (xs.takeWhile p) (xs.dropWhile p)
  rwa [List.takeWhile_append_dropWhile] at hdrop

/-- Behind a start of the list as many fewer pass, as far as there are any. -/
theorem countP_drop (h : xs.Pairwise fun a b => p b = true → p a = true) (n : Nat) :
    (xs.drop n).countP p = xs.countP p - n := by
  induction n generalizing xs with
  | zero => rfl
  | succ n ih =>
    cases xs with
    | nil => simp
    | cons x xs =>
      obtain ⟨hx, hxs⟩ := List.pairwise_cons.mp h
      rw [List.drop_succ_cons, ih hxs]
      by_cases hp : p x = true
      · rw [List.countP_cons_of_pos hp]
        omega
      · have hnone : xs.countP p = 0 := List.countP_eq_zero.mpr fun y hy hpy => hp (hx y hy hpy)
        rw [List.countP_cons_of_neg hp, hnone]
        omega

end Lists

/-! ## 3. Sorted indexes -/

namespace RangeIndex

variable {index : RangeIndex} {low high : RangeValue} {inclusive : Bool}

/-- The entries are in ascending order. -/
def IsSorted (index : RangeIndex) : Prop := index.entries.Pairwise fun a b => a.le b = true

theorem isSorted_ofItems (items : KeySet) (values : String → List RangeValue) :
    (ofItems items values).IsSorted :=
  List.pairwise_mergeSort RangeEntry.le_trans RangeEntry.le_total _

namespace IsSorted

/-- The entries before a value are a start of the index. -/
theorem before (h : index.IsSorted) (v : RangeValue) : index.entries.Pairwise fun a b =>
    b.value.before v = true → a.value.before v = true :=
  h.imp fun hle => RangeEntry.before_of_le hle

/-- The entries that a range reaches are a start of the index. -/
theorem reaches (h : index.IsSorted) (high : RangeValue) (inclusive : Bool) :
    index.entries.Pairwise fun a b => RangeIndex.reaches high inclusive b.value = true →
      RangeIndex.reaches high inclusive a.value = true :=
  h.imp fun hle => RangeEntry.reaches_of_le hle

end IsSorted

/-- The entries before the value are those before the place. -/
def IsPartedAt (index : RangeIndex) (v : RangeValue) (n : Nat) : Prop :=
  n ≤ index.count ∧ ∀ i e, index.entries[i]? = some e → (e.value.before v = true ↔ i < n)

/-- **A sorted index is parted at one place**, which is the position that queries start from. However it
    is searched for, there is no other to be found. -/
theorem isPartedAt_iff (h : index.IsSorted) {v : RangeValue} {n : Nat} :
    index.IsPartedAt v n ↔ n = index.position v := by
  have hposition : index.IsPartedAt v (index.position v) := by
    refine ⟨(List.takeWhile_prefix _).length_le, fun i e he => ?_⟩
    have hparts := List.takeWhile_append_dropWhile (p := fun e => e.value.before v)
      (l := index.entries)
    rw [← hparts, List.getElem?_append] at he
    split at he
    · next hlt =>
      have hbefore := List.mem_takeWhile_imp (List.mem_of_getElem? he)
      exact iff_of_true hbefore hlt
    · next hnot =>
      rw [dropWhile_eq_filter (h.before v)] at he
      have hbefore := (List.mem_filter.mp (List.mem_of_getElem? he)).2
      exact iff_of_false (by simpa using hbefore) hnot
  refine ⟨fun ⟨hle, hparted⟩ => ?_, fun heq => heq ▸ hposition⟩
  obtain ⟨hle', hparted'⟩ := hposition
  -- between two such places there would be an entry that is before the value and is not
  have hsame (i : Nat) (hi : i < index.count) : i < n ↔ i < index.position v :=
    (hparted i _ (List.getElem?_eq_getElem hi)).symm.trans
      (hparted' i _ (List.getElem?_eq_getElem hi))
  rcases Nat.lt_trichotomy n (index.position v) with hlt | heq | hlt
  · exact absurd ((hsame n (by omega)).mpr hlt) (Nat.lt_irrefl n)
  · exact heq
  · exact absurd ((hsame _ (by omega)).mp hlt) (Nat.lt_irrefl _)

/-! ## 4. Queries -/

theorem isWithin_iff {v : RangeValue} : v.isWithin low high inclusive = true ↔
    v.before low = false ∧ reaches high inclusive v = true := by
  simp only [RangeValue.isWithin, reaches, Bool.and_eq_true, Bool.not_eq_true']

/-- **What is read is what lies in the range.** -/
theorem between_eq_filter (h : index.IsSorted) (low high : RangeValue) (inclusive : Bool) :
    index.between low high inclusive =
      index.entries.filter fun e => e.value.isWithin low high inclusive := by
  have hreaches := (h.reaches high inclusive).filter fun e => !e.value.before low
  rw [between, dropWhile_eq_filter (h.before low), takeWhile_eq_filter hreaches, List.filter_filter]
  refine List.filter_congr fun e _ => ?_
  rw [Bool.eq_iff_iff, isWithin_iff]
  simp only [Bool.and_eq_true, Bool.not_eq_true', and_comm]

theorem position_eq_countP (h : index.IsSorted) (v : RangeValue) :
    index.position v = index.entries.countP fun e => e.value.before v :=
  length_takeWhile_eq_countP (h.before v)

/-- The entries before a value, and those at it, are the entries that are reached. -/
theorem position_add_same (h : index.IsSorted) (high : RangeValue) :
    index.position high + ((index.entries.drop (index.position high)).takeWhile fun e =>
      e.value.same high).length = index.entries.countP fun e => reaches high true e.value := by
  have hdrop : index.entries.drop (index.position high) =
      index.entries.filter fun e => !e.value.before high :=
    (drop_length_takeWhile _ _).trans (dropWhile_eq_filter (h.before high))
  -- of what is not before the value, no more is reached than what is at it
  have hsame : (index.entries.filter fun e => !e.value.before high).Pairwise fun a b =>
      b.value.same high = true → a.value.same high = true := by
    refine (List.Pairwise.filter _ h).imp_of_mem fun {a b} ha _ hle hb => ?_
    have hreach : reaches high true a.value = true :=
      RangeEntry.reaches_of_le hle (by simp [reaches, hb])
    have hnot := (List.mem_filter.mp ha).2
    simp_all [reaches]
  rw [hdrop, length_takeWhile_eq_countP hsame, position_eq_countP h,
    List.countP_eq_countP_filter_add index.entries (fun e => reaches high true e.value)
      fun e => e.value.before high]
  simp only [List.countP_filter]
  congr 1
  · refine List.countP_congr fun e _ => ?_
    simp only [reaches, Bool.and_eq_true, Bool.or_eq_true]
    exact ⟨fun hbefore => ⟨.inl hbefore, hbefore⟩, And.right⟩
  · refine List.countP_congr fun e _ => ?_
    by_cases hbefore : e.value.before high = true <;> simp [reaches, hbefore]

/-- **As much is counted as is read.** -/
theorem countBetween_eq (h : index.IsSorted) (low high : RangeValue) (inclusive : Bool) :
    index.countBetween low high inclusive = (index.between low high inclusive).length := by
  have hstart : (index.entries.dropWhile fun e => e.value.before low) =
      index.entries.drop (index.position low) := (drop_length_takeWhile _ _).symm
  have hread : (index.between low high inclusive).length =
      (index.entries.countP fun e => reaches high inclusive e.value) - index.position low := by
    rw [between, hstart, length_takeWhile_eq_countP ((h.reaches high inclusive).drop),
      countP_drop (h.reaches high inclusive)]
  have hstop : index.position high + (if inclusive then
      ((index.entries.drop (index.position high)).takeWhile fun e => e.value.same high).length
      else 0) = index.entries.countP fun e => reaches high inclusive e.value := by
    cases inclusive with
    | true => exact position_add_same h high
    | false =>
      rw [if_neg Bool.false_ne_true, position_eq_countP h, Nat.add_zero]
      exact List.countP_congr fun e _ => by simp [reaches]
  rw [hread, ← hstop]
  rfl

/-- A query finds the items that have a value in the range and pass the filter. -/
theorem mem_subjectsBetween_ofItems {items into : KeySet} {values : String → List RangeValue}
    {filter : Option KeySet} {x : String} :
    x ∈ (ofItems items values).subjectsBetween low high inclusive into filter ↔
      x ∈ into ∨ KeySet.passes filter x = true ∧ x ∈ items ∧
        ∃ v ∈ values x, v.isWithin low high inclusive = true := by
  rw [mem_subjectsBetween, and_comm, itemsBetween, between_eq_filter (isSorted_ofItems items values)]
  simp only [List.mem_map, List.mem_filter, mem_entries_ofItems]
  constructor
  · rintro (hx | ⟨hpasses, e, ⟨⟨hitem, hvalue⟩, hwithin⟩, rfl⟩)
    · exact .inl hx
    · exact .inr ⟨hpasses, hitem, e.value, hvalue, hwithin⟩
  · rintro (hx | ⟨hpasses, hitem, v, hvalue, hwithin⟩)
    · exact .inl hx
    · exact .inr ⟨hpasses, ⟨x, v⟩, ⟨⟨hitem, hvalue⟩, hwithin⟩, rfl⟩

/-- **Queries of an index are told by the values of the items**: what is visited are the values in the
    range, each as often as an item has it, by value and then by item; what is found are the items
    visited, of those that pass the filter, beside what the set has held; and as many are counted as are
    visited. The ends may be in either order. -/
theorem visited_of_values (items : KeySet) (values : String → List RangeValue)
    (low high : RangeValue) (inclusive : Bool) : ∃ visited : List RangeEntry,
      visited.Perm ((entriesOf items values).filter fun e =>
        e.value.isWithin low high inclusive) ∧
      visited.Pairwise (fun a b => a.le b = true) ∧
      (ofItems items values).itemsBetween low high inclusive = visited.map RangeEntry.item ∧
      (∀ into filter x, x ∈ (ofItems items values).subjectsBetween low high inclusive into filter ↔
        x ∈ into ∨ x ∈ visited.map RangeEntry.item ∧ KeySet.passes filter x = true) ∧
      (ofItems items values).countBetween low high inclusive = visited.length ∧
      ∀ v n, (ofItems items values).IsPartedAt v n ↔ n = (ofItems items values).position v := by
  have h := isSorted_ofItems items values
  refine ⟨(ofItems items values).between low high inclusive, ?_, ?_, rfl,
    fun into filter x => mem_subjectsBetween, countBetween_eq h low high inclusive,
    fun v n => isPartedAt_iff h⟩
  · rw [between_eq_filter h]
    exact (List.mergeSort_perm _ _).filter _
  · rw [between_eq_filter h]
    exact List.Pairwise.filter _ h

end RangeIndex

end Faceted
