import Faceted.Proofs.Hierarchy.Walking
import Mathlib.Data.Prod.Lex
import Mathlib.Data.String.Basic
import Mathlib.Order.WithBot

/-!
# The order of entries

Entries are sorted by a comparison. Sorting needs it to be an order: who compares a with b and b with a
has to learn the same, and what is not behind b, which is not behind c, must not be behind c. The first
always holds. The second holds of the fixed places, the labels and the counts, which are linearly
ordered, but not of numbers: what is no number compares as equal to every number, and so a greater
number may stand before it and a lesser one behind it.

* `lt_iff_level`: doubles are ordered as their levels, of which that is not a number has none;
* `EntryOrder.compareForward_iff`: which entry precedes which;
* `EntryOrder.Breaks` tells the triples of entries on which the comparison is no order;
  **`EntryOrder.mayFollow_trans_iff`**: on all others it is one;
* **`EntryOrder.compare_orders_iff`**: entries without such a triple are sorted so that none stands behind
  an entry that compares as greater, while the three of such a triple stay as they are.
-/

namespace Faceted

/-! ## 1. Numbers -/

/-- The level of a double: its side of zero, where the infinities are on sides of their own, and on this
    side its exponent and its mantissa. The lower a negative double the greater these are. -/
def level? (x : Float) : Option (ℤ ×ₗ ℤ ×ₗ ℤ) :=
  match x.toModel.unpack with
  | .notANumber => none
  | .infinity .negative => some (toLex (-2, toLex (0, 0)))
  | .finite .negative m e _ => some (toLex (-1, toLex (-e, -m)))
  | .zero _ => some (toLex (0, toLex (0, 0)))
  | .finite .positive m e _ => some (toLex (1, toLex (e, m)))
  | .infinity .positive => some (toLex (2, toLex (0, 0)))

/-- **Doubles are ordered as their levels.** -/
theorem lt_iff_level {x y : Float} :
    x < y ↔ ∃ p q, level? x = some p ∧ level? y = some q ∧ p < q := by
  have hcompare : x < y ↔ x.toModel.unpack.compare y.toModel.unpack = some .lt := by
    show decide (x.toModel < y.toModel) = true ↔ _
    rw [decide_eq_true_iff]
    show (x.toModel.unpack.compare y.toModel.unpack == some .lt) = true ↔ _
    rw [beq_iff_eq]
  rw [hcompare]
  unfold level?
  generalize x.toModel.unpack = u
  generalize y.toModel.unpack = v
  rcases u with (_ | _) | _ | (_ | _) | ⟨_ | _, m, e, hm⟩ <;>
    rcases v with (_ | _) | _ | (_ | _) | ⟨_ | _, n, d, hn⟩ <;>
    dsimp only [Float.Model.UnpackedFloat.compare] <;>
    simp [Prod.Lex.toLex_lt_toLex, Ordering.then_eq_lt, Ordering.then_eq_gt, compare_lt_iff_lt,
      compare_gt_iff_gt]
  rfl

/-- The level of the number that the value of an entry is read as. -/
def Entry.level? (e : Entry) : Option (ℤ ×ₗ ℤ ×ₗ ℤ) :=
  Faceted.level? ((e.value.map parseFloat).getD Decimal.nan)

/-- Both entries are read as numbers, the first as the lesser one. -/
def Entry.Below (a b : Entry) : Prop := ∃ p q, a.level? = some p ∧ b.level? = some q ∧ p < q

theorem Entry.Below.asymm {a b : Entry} (h : a.Below b) : ¬ b.Below a := by
  obtain ⟨p, q, hp, hq, hpq⟩ := h
  rintro ⟨q', p', hq', hp', hqp⟩
  cases hp.symm.trans hp'
  cases hq.symm.trans hq'
  exact hpq.asymm hqp

namespace EntryOrder

variable {order : EntryOrder} {type : ValueType} {a b c : Entry}

/-! ## 2. What precedes what -/

/-- An outcome of a comparison is told by what makes it less and what makes it greater. -/
theorem ite_lt_gt {P Q : Prop} [Decidable P] [Decidable Q] (h : P → ¬ Q) :
    ((if P then .lt else if Q then .gt else .eq : Ordering) = .lt ↔ P) ∧
      ((if P then .lt else if Q then .gt else .eq : Ordering) = .gt ↔ Q) := by
  by_cases hP : P
  · simp [hP, h hP]
  · by_cases hQ : Q <;> simp [hP, hQ]

theorem compareNumbers_iff :
    (compareNumbers a b = .lt ↔ a.Below b) ∧ (compareNumbers a b = .gt ↔ b.Below a) := by
  unfold Entry.Below Entry.level?
  rw [← lt_iff_level, ← lt_iff_level]
  refine ite_lt_gt fun hlt hgt => ?_
  exact Entry.Below.asymm (lt_iff_level.mp hlt) (lt_iff_level.mp hgt)

/-- Where an entry stands by its label: at its fixed place, or behind all of these by label. -/
def key (order : EntryOrder) (e : Entry) : WithTop ℕ ×ₗ String :=
  match place? order.fixed e.label with
  | some n => toLex (WithTop.some n, "")
  | none => toLex (⊤, e.label)

theorem compareTexts_iff {x y : String} :
    (compareTexts x y = .lt ↔ x < y) ∧ (compareTexts x y = .gt ↔ y < x) := by
  unfold compareTexts
  rcases lt_trichotomy x y with h | rfl | h
  · simp [h, h.asymm]
  · simp
  · simp [h, h.asymm, h.ne']

theorem compareFixed_iff : (compareFixed order.fixed a b = .lt ↔ order.key a < order.key b) ∧
    (compareFixed order.fixed a b = .gt ↔ order.key b < order.key a) := by
  unfold compareFixed key
  cases place? order.fixed a.label <;> cases place? order.fixed b.label <;>
    simp [Prod.Lex.toLex_lt_toLex, compareTexts_iff, compare_lt_iff_lt, compare_gt_iff_gt]

/-- Are entries compared by number? -/
def byNumber (order : EntryOrder) (type : ValueType) : Bool :=
  order.fixed.isEmpty && type.isNumeric

theorem compareValues_eq (order : EntryOrder) (type : ValueType) (a b : Entry) :
    compareValues order type a b =
      if order.byNumber type then compareNumbers a b else compareFixed order.fixed a b := by
  unfold compareValues byNumber
  cases hfixed : order.fixed with
  | nil => cases type.isNumeric <;> rfl
  | cons label rest => rfl

/-- The first entry comes before the second by its value. -/
def Ahead (order : EntryOrder) (type : ValueType) (a b : Entry) : Prop :=
  if order.byNumber type then a.Below b else order.key a < order.key b

theorem compareValues_iff : (compareValues order type a b = .lt ↔ order.Ahead type a b) ∧
    (compareValues order type a b = .gt ↔ order.Ahead type b a) := by
  rw [compareValues_eq]
  unfold Ahead
  cases order.byNumber type with
  | true => exact compareNumbers_iff
  | false => exact compareFixed_iff

/-- In an order by count the entries of more items come first. -/
def tier (order : EntryOrder) (e : Entry) : ℤ :=
  match order.mode with
  | .count => -e.count
  | .value => 0

/-- The first entry comes before the second, before a reversal. -/
def Precedes (order : EntryOrder) (type : ValueType) (a b : Entry) : Prop :=
  order.tier a < order.tier b ∨ order.tier a = order.tier b ∧ order.Ahead type a b

theorem compareForward_iff : (compareForward order type a b = .lt ↔ order.Precedes type a b) ∧
    (compareForward order type a b = .gt ↔ order.Precedes type b a) := by
  obtain ⟨hlt, hgt⟩ := @compareValues_iff order type a b
  unfold compareForward Precedes tier
  cases order.mode with
  | value => simp [hlt, hgt]
  | count =>
    have hless (m n : ℕ) : -(m : ℤ) < -n ↔ n < m := by omega
    have hsame (m n : ℕ) : -(m : ℤ) = -n ↔ m = n := by omega
    simp only [Ordering.then_eq_lt, Ordering.then_eq_gt, compare_lt_iff_lt, compare_gt_iff_gt,
      compare_eq_iff_eq, hlt, hgt, hless, hsame]
    exact ⟨by rw [eq_comm (a := b.count)], trivial⟩

/-- **The comparison is antisymmetric.** -/
theorem compare_swap (order : EntryOrder) (type : ValueType) (a b : Entry) :
    order.compare type b a = (order.compare type a b).swap := by
  have hforward : compareForward order type b a = (compareForward order type a b).swap := by
    obtain ⟨hlt, hgt⟩ := @compareForward_iff order type a b
    obtain ⟨hlt', hgt'⟩ := @compareForward_iff order type b a
    rw [← hgt] at hlt'
    rw [← hlt] at hgt'
    generalize compareForward order type a b = ab at hlt' hgt' ⊢
    generalize compareForward order type b a = ba at hlt' hgt' ⊢
    cases ab <;> cases ba <;> simp_all
  unfold compare
  cases order.direction with
  | forward => exact hforward
  | reverse => rw [hforward]

/-! ## 3. Triples -/

/-- The second entry may stand behind the first. -/
def MayFollow (order : EntryOrder) (type : ValueType) (a b : Entry) : Prop :=
  order.compare type a b ≠ .gt

instance : Decidable (order.MayFollow type a b) := inferInstanceAs (Decidable (_ ≠ _))

theorem mayFollow_iff : order.MayFollow type a b ↔
    match order.direction with
    | .forward => ¬ order.Precedes type b a
    | .reverse => ¬ order.Precedes type a b := by
  unfold MayFollow compare
  cases order.direction with
  | forward => rw [ne_eq, compareForward_iff.2]
  | reverse => rw [ne_eq, Ordering.swap_eq_gt, compareForward_iff.1]

/-- The three entries have nothing but numbers to be ordered by, and what is no number stands between two
    numbers in the wrong order. -/
structure Breaks (order : EntryOrder) (type : ValueType) (a b c : Entry) : Prop where
  byNumber : order.byNumber type = true
  tiers : order.tier a = order.tier b ∧ order.tier b = order.tier c
  between : b.level? = none
  wrong : match order.direction with
    | .forward => c.Below a
    | .reverse => a.Below c

theorem Entry.Below.not_of_none {a b : Entry} (hb : b.level? = none) : ¬ a.Below b ∧ ¬ b.Below a := by
  constructor
  · rintro ⟨-, q, -, hq, -⟩
    cases hb.symm.trans hq
  · rintro ⟨q, -, hq, -, -⟩
    cases hb.symm.trans hq

/-- By their values entries are ordered on every triple without such a gap. -/
theorem not_ahead_trans_iff :
    (¬ order.Ahead type b a → ¬ order.Ahead type c b → ¬ order.Ahead type c a) ↔
      ¬ (order.byNumber type = true ∧ b.level? = none ∧ c.Below a) := by
  unfold Ahead
  cases order.byNumber type with
  | false =>
    refine iff_of_true (fun hab hbc => ?_) (by simp)
    simp only [Bool.false_eq_true, if_false, not_lt] at hab hbc ⊢
    exact hab.trans hbc
  | true =>
    simp only [if_true, true_and]
    constructor
    · rintro htrans ⟨hb, hca⟩
      exact htrans (Entry.Below.not_of_none hb).2 (Entry.Below.not_of_none hb).1 hca
    · intro hgap hab hbc hca
      refine hgap ⟨Option.eq_none_iff_forall_ne_some.mpr fun r hr => ?_, hca⟩
      obtain ⟨q, p, hq, hp, hqp⟩ := hca
      have hpr : p ≤ r := not_lt.mp fun h => hab ⟨r, p, hr, hp, h⟩
      have hrq : r ≤ q := not_lt.mp fun h => hbc ⟨q, r, hq, hr, h⟩
      exact hqp.not_ge (hpr.trans hrq)

theorem not_precedes_trans_iff :
    (¬ order.Precedes type b a → ¬ order.Precedes type c b → ¬ order.Precedes type c a) ↔
      ¬ (order.byNumber type = true ∧ (order.tier a = order.tier b ∧ order.tier b = order.tier c) ∧
        b.level? = none ∧ c.Below a) := by
  have hahead := @not_ahead_trans_iff order type a b c
  unfold Precedes
  constructor
  · rintro htrans ⟨hnumber, ⟨hab, hbc⟩, hb, hca⟩
    refine hahead.mp (fun hnot hnot' => ?_) ⟨hnumber, hb, hca⟩
    simpa [hab, hbc, hnot, hnot'] using htrans
  · intro hgap hab hbc hca
    have htiers : order.tier a = order.tier b ∧ order.tier b = order.tier c := by omega
    obtain ⟨hab', hbc'⟩ := htiers
    refine hahead.mpr (fun ⟨hnumber, hb, hca⟩ => hgap ⟨hnumber, ⟨hab', hbc'⟩, hb, hca⟩) ?_ ?_ ?_
    · simpa [hab'] using hab
    · simpa [hbc'] using hbc
    · simpa [hab', hbc'] using hca

/-- **On a triple the comparison is transitive exactly if it does not break there.** -/
theorem mayFollow_trans_iff (order : EntryOrder) (type : ValueType) (a b c : Entry) :
    (order.MayFollow type a b → order.MayFollow type b c → order.MayFollow type a c) ↔
      ¬ order.Breaks type a b c := by
  have hbreaks : order.Breaks type a b c ↔ order.byNumber type = true ∧
      (order.tier a = order.tier b ∧ order.tier b = order.tier c) ∧ b.level? = none ∧
      match order.direction with
      | .forward => c.Below a
      | .reverse => a.Below c :=
    ⟨fun h => ⟨h.1, h.2, h.3, h.4⟩, fun h => ⟨h.1, h.2.1, h.2.2.1, h.2.2.2⟩⟩
  rw [hbreaks]
  simp only [mayFollow_iff]
  cases order.direction with
  | forward => exact not_precedes_trans_iff
  | reverse =>
    dsimp only
    have htiers : (order.tier c = order.tier b ∧ order.tier b = order.tier a) ↔
        (order.tier a = order.tier b ∧ order.tier b = order.tier c) := by omega
    rw [forall_comm, not_precedes_trans_iff, htiers]

/-- What is no number compares as equal where only numbers could tell. -/
theorem compare_eq_of_gap (hnumber : order.byNumber type = true) (htiers : order.tier a = order.tier b)
    (hgap : b.level? = none) : order.compare type a b = .eq := by
  obtain ⟨hlt, hgt⟩ := @compareForward_iff order type a b
  have hahead : ¬ order.Ahead type a b ∧ ¬ order.Ahead type b a := by
    unfold Ahead
    rw [if_pos hnumber, if_pos hnumber]
    exact Entry.Below.not_of_none hgap
  simp only [Precedes, htiers, lt_irrefl, false_or, true_and, hahead.1, hahead.2, iff_false] at hlt hgt
  have hforward : compareForward order type a b = .eq := by
    cases h : compareForward order type a b with
    | eq => rfl
    | lt => exact absurd h hlt
    | gt => exact absurd h hgt
  unfold compare
  rw [hforward]
  cases order.direction <;> rfl

/-! ## 4. Sorting -/

section Sorting

variable {α : Type} {comesBefore : α → α → Bool} {follows : α → α → Prop}

/-- An element finds its place in descending order, where following is transitive. -/
theorem pairwise_insertDescending {x : α} {ys : List α}
    (hbefore : ∀ a b, comesBefore a b = true → follows a b)
    (hnot : ∀ a b, comesBefore a b = false → follows b a)
    (htrans : ∀ a ∈ x :: ys, ∀ b ∈ x :: ys, ∀ c ∈ x :: ys, follows a b → follows b c → follows a c)
    (hys : ys.Pairwise fun a b => follows b a) :
    (insertDescending comesBefore x ys).Pairwise fun a b => follows b a := by
  induction ys with
  | nil => exact List.pairwise_singleton _ _
  | cons y ys ih =>
    obtain ⟨hy, hys⟩ := List.pairwise_cons.mp hys
    unfold insertDescending
    cases hxy : comesBefore x y with
    | true =>
      rw [if_pos rfl]
      refine List.pairwise_cons.mpr ⟨fun z hz => ?_, ih (fun a ha b hb c hc => ?_) hys⟩
      · rcases mem_insertDescending.mp hz with rfl | hz
        · exact hbefore _ _ hxy
        · exact hy z hz
      · exact htrans a (by grind) b (by grind) c (by grind)
    | false =>
      rw [if_neg Bool.false_ne_true]
      have hyx := hnot x y hxy
      refine List.pairwise_cons.mpr ⟨fun z hz => ?_, List.pairwise_cons.mpr ⟨hy, hys⟩⟩
      rcases List.mem_cons.mp hz with rfl | hz
      · exact hyx
      · exact htrans z (by grind) y (by grind) x (by grind) (hy z hz) hyx

theorem pairwise_insertionSort {xs : List α}
    (hbefore : ∀ a b, comesBefore a b = true → follows a b)
    (hnot : ∀ a b, comesBefore a b = false → follows b a)
    (htrans : ∀ a ∈ xs, ∀ b ∈ xs, ∀ c ∈ xs, follows a b → follows b c → follows a c) :
    (insertionSort comesBefore xs).Pairwise follows := by
  unfold insertionSort
  rw [List.pairwise_reverse]
  suffices hfold : ∀ sorted : List α,
      (∀ a ∈ xs ++ sorted, ∀ b ∈ xs ++ sorted, ∀ c ∈ xs ++ sorted,
        follows a b → follows b c → follows a c) →
      (sorted.Pairwise fun a b => follows b a) →
      (xs.foldl (fun sorted x => insertDescending comesBefore x sorted) sorted).Pairwise
        fun a b => follows b a by
    exact hfold [] (by simpa using htrans) List.Pairwise.nil
  clear htrans
  induction xs with
  | nil => exact fun _ _ hsorted => hsorted
  | cons x xs ih =>
    intro sorted htrans hsorted
    refine ih _ (fun a ha b hb c hc => ?_) (pairwise_insertDescending hbefore hnot ?_ hsorted)
    · have hmem {z : α} (hz : z ∈ xs ++ insertDescending comesBefore x sorted) :
          z ∈ x :: xs ++ sorted := by
        rw [List.mem_append, mem_insertDescending] at hz
        grind
      exact htrans a (hmem ha) b (hmem hb) c (hmem hc)
    · exact fun a ha b hb c hc => htrans a (by grind) b (by grind) c (by grind)

end Sorting

theorem mayFollow_of_lt (h : (order.compare type a b == .lt) = true) : order.MayFollow type a b := by
  rw [MayFollow, beq_iff_eq.mp h]
  decide

theorem mayFollow_of_not_lt (h : (order.compare type a b == .lt) = false) :
    order.MayFollow type b a := by
  rw [MayFollow, compare_swap, ne_eq, Ordering.swap_eq_gt]
  exact fun hlt => by simp [hlt] at h

/-- **Entries are ordered**: the comparison of two entries is the reverse of the comparison of the second
    with the first, and it is transitive on three exactly unless what is no number stands between two
    numbers in the wrong order with nothing else to tell the three apart. What carries entries without
    such a triple is rearranged so that no entry stands before one that should precede it. The three
    entries of such a triple stay as they are, the first before the third. -/
theorem compare_orders_iff (order : EntryOrder) (type : ValueType) :
    (∀ a b, order.compare type b a = (order.compare type a b).swap) ∧
    (∀ a b c, (order.MayFollow type a b → order.MayFollow type b c → order.MayFollow type a c) ↔
      ¬ order.Breaks type a b c) ∧
    (∀ {α : Type} (entry : α → Entry) (xs : List α),
      (∀ x ∈ xs, ∀ y ∈ xs, ∀ z ∈ xs, ¬ order.Breaks type (entry x) (entry y) (entry z)) →
      (order.sortBy type entry xs).Perm xs ∧
        (order.sortBy type entry xs).Pairwise fun x y => order.MayFollow type (entry x) (entry y)) ∧
    ∀ a b c, order.Breaks type a b c →
      order.sort type [a, b, c] = [a, b, c] ∧ ¬ order.MayFollow type a c := by
  refine ⟨order.compare_swap type, order.mayFollow_trans_iff type, fun entry xs hxs => ?_,
    fun a b c hbreaks => ?_⟩
  · refine ⟨order.perm_sortBy type entry xs, pairwise_insertionSort
      (fun _ _ => mayFollow_of_lt) (fun _ _ => mayFollow_of_not_lt) fun x hx y hy z hz => ?_⟩
    exact (order.mayFollow_trans_iff type _ _ _).mpr (hxs x hx y hy z hz)
  · have hab := compare_eq_of_gap hbreaks.byNumber hbreaks.tiers.1 hbreaks.between
    have hcb := compare_eq_of_gap hbreaks.byNumber hbreaks.tiers.2.symm hbreaks.between
    have hba : order.compare type b a = .eq := by rw [compare_swap, hab]; rfl
    refine ⟨?_, fun hac => ?_⟩
    · simp [sort, sortBy, insertionSort, insertDescending, hba, hcb]
    · exact (order.mayFollow_trans_iff type a b c).mp (fun _ _ => hac) hbreaks

/-- The entry of a value that one item has. -/
def single (value : String) : Entry := ⟨some value, value, 1, false⟩

/-- **Two stays before one where a letter stands between them**: the letter compares as equal to both. -/
theorem sort_two_x_one :
    default.compare .number (single "2") (single "x") = .eq ∧
      default.compare .number (single "x") (single "1") = .eq ∧
      default.compare .number (single "2") (single "1") = .gt ∧
      default.sort .number [single "2", single "x", single "1"] =
        [single "2", single "x", single "1"] :=
  ⟨by decide, by decide, by decide, rfl⟩

end EntryOrder

end Faceted
