import Faceted.Facet.Cloud

/-!
# The scale of weights

A cloud shows how many items each of its values has by a weight from 1 to 5, which is a share of the
way from the least to the largest count, rounded. The numbers are worked out in machine words, where a
difference may fall below zero, a product or a sum may be too large, a divisor may be zero, and the
weight itself is cut down to a byte.

* `share` is the weight worked out in numbers of any size;
* `Graded` is what a scale should be: within its bounds, rising with the counts, and reaching both
  ends as soon as two counts differ;
* `cloudWatched` is the computation step by step, which tells what went wrong;
* `Close`: four and a half times the distance of the counts fits into a word; **`cloudWatched_iff`**:
  this is when nothing goes wrong;
* **`cloudOf_on_scale`**: the weights of close counts are a scale after every update.
-/

namespace Faceted

namespace CloudFacet

variable {low high count count' : Nat}

/-! ## 1. Shares -/

/-- The weight of a count in numbers of any size. -/
def share (low high count : Nat) : Nat :=
  if high - low = 0 then 3 else 1 + (4 * (count - low) + (high - low) / 2) / (high - low)

theorem one_le_share (low high count : Nat) : 1 ≤ share low high count := by
  unfold share
  split
  · omega
  · exact Nat.le_add_right 1 _

/-- A count among the others is at most four steps and a half above the least, rounded down. -/
theorem share_le (hhigh : count ≤ high) : share low high count ≤ 5 := by
  unfold share
  split
  next => omega
  next hrange =>
    have hsteps : (4 * (count - low) + (high - low) / 2) / (high - low) < 5 := by
      rw [Nat.div_lt_iff_lt_mul (by omega)]
      omega
    exact Nat.add_le_add_left (Nat.le_of_lt_succ hsteps) 1

theorem share_mono (hle : count ≤ count') : share low high count ≤ share low high count' := by
  unfold share
  split
  · exact Nat.le_refl 3
  · exact Nat.add_le_add_left (Nat.div_le_div_right (by omega)) 1

theorem share_low (hdiffer : low < high) : share low high low = 1 := by
  unfold share
  rw [if_neg (by omega), Nat.sub_self, Nat.mul_zero, Nat.zero_add, Nat.div_eq_of_lt (by omega)]

theorem share_high (hdiffer : low < high) : share low high high = 5 := by
  unfold share
  rw [if_neg (by omega), Nat.mul_comm 4, Nat.mul_add_div (by omega), Nat.div_eq_of_lt (by omega)]

/-! ## 2. The counts that are shown -/

theorem countRange_bounds {entries : List Entry} {e : Entry} (he : e ∈ entries) :
    (countRange entries).1 ≤ e.count ∧ e.count ≤ (countRange entries).2 :=
  ⟨List.min?_getD_le_of_mem (List.mem_map_of_mem he), List.le_max?_getD_of_mem (List.mem_map_of_mem he)⟩

/-- Both are the counts of some entries. -/
theorem countRange_attained {entries : List Entry} (hne : entries ≠ []) :
    (∃ e ∈ entries, e.count = (countRange entries).1) ∧
      ∃ e ∈ entries, e.count = (countRange entries).2 := by
  have hcounts : entries.map Entry.count ≠ [] := fun h => hne (List.map_eq_nil_iff.mp h)
  constructor
  · obtain ⟨n, hn⟩ := Option.ne_none_iff_exists'.mp (mt List.min?_eq_none_iff.mp hcounts)
    rw [countRange, hn]
    exact List.mem_map.mp (List.min?_mem hn)
  · obtain ⟨n, hn⟩ := Option.ne_none_iff_exists'.mp (mt List.max?_eq_none_iff.mp hcounts)
    rw [countRange, hn]
    exact List.mem_map.mp (List.max?_mem hn)

/-- The entries with their weights: a bounded scale that rises with the counts. Its ends are reached as
    soon as two counts differ. -/
structure Graded (entries : List Entry) (cloud : List CloudEntry) : Prop where
  entries : cloud.map CloudEntry.entry = entries
  bounded : ∀ c ∈ cloud, 1 ≤ c.weight ∧ c.weight ≤ 5
  rising : ∀ c ∈ cloud, ∀ d ∈ cloud, c.entry.count ≤ d.entry.count → c.weight ≤ d.weight
  even : ∀ c ∈ cloud, ∀ d ∈ cloud, c.entry.count = d.entry.count → c.weight = d.weight
  least : ∀ c ∈ cloud, ∀ d ∈ cloud, c.entry.count < d.entry.count →
    ∀ e ∈ cloud, (∀ x ∈ cloud, e.entry.count ≤ x.entry.count) → e.weight = 1
  largest : ∀ c ∈ cloud, ∀ d ∈ cloud, c.entry.count < d.entry.count →
    ∀ e ∈ cloud, (∀ x ∈ cloud, x.entry.count ≤ e.entry.count) → e.weight = 5

/-- Where two counts differ, so do the least and the largest. -/
theorem countRange_lt {entries : List Entry} {c d : Entry} (hc : c ∈ entries) (hd : d ∈ entries)
    (hlt : c.count < d.count) : (countRange entries).1 < (countRange entries).2 :=
  calc (countRange entries).1 ≤ c.count := (countRange_bounds hc).1
    _ < d.count := hlt
    _ ≤ (countRange entries).2 := (countRange_bounds hd).2

/-! ## 3. Word by word -/

/-- What can go wrong when a weight is worked out in words. -/
inductive Slip where
  | difference
  | product
  | sum
  | quotient
  | byte
  deriving DecidableEq, Repr

def minus (x y : UInt64) : Except Slip UInt64 := if y ≤ x then .ok (x - y) else .error .difference

def times (x y : UInt64) : Except Slip UInt64 :=
  if x.toNat * y.toNat < UInt64.size then .ok (x * y) else .error .product

def plus (x y : UInt64) : Except Slip UInt64 :=
  if x.toNat + y.toNat < UInt64.size then .ok (x + y) else .error .sum

def dividedBy (x y : UInt64) : Except Slip UInt64 := if y = 0 then .error .quotient else .ok (x / y)

def toByte (x : UInt64) : Except Slip UInt8 :=
  if x.toNat < UInt8.size then .ok x.toUInt8 else .error .byte

/-- A weight, as long as every step of the computation has the result that it has in numbers of any
    size. -/
def weightWatched (low range count : UInt64) : Except Slip UInt8 :=
  if range = 0 then toByte 3
  else do
    let above ← minus count low
    let scaled ← times 4 above
    let half ← dividedBy range 2
    let rounding ← plus scaled half
    let steps ← dividedBy rounding range
    let weight ← plus 1 steps
    toByte weight

/-- The shown entries with their weights, watched in the same way. -/
def cloudWatched (minimumCount : Nat) (entries : List Entry) : Except Slip (List CloudEntry) := do
  let entries := shown minimumCount entries
  let (low, high) := countRange entries
  let range ← minus high.toUInt64 low.toUInt64
  entries.mapM fun e => do
    let weight ← weightWatched low.toUInt64 range e.count.toUInt64
    return ⟨e, weight.toNat⟩

section Word

variable {low high count x y : UInt64}

theorem minus_of_le (h : y ≤ x) : minus x y = .ok (x - y) := if_pos h

theorem times_of_lt (h : x.toNat * y.toNat < UInt64.size) : times x y = .ok (x * y) := if_pos h

theorem plus_of_lt (h : x.toNat + y.toNat < UInt64.size) : plus x y = .ok (x + y) := if_pos h

theorem dividedBy_of_ne (h : y ≠ 0) : dividedBy x y = .ok (x / y) := if_neg h

theorem toByte_of_lt (h : x.toNat < UInt8.size) : toByte x = .ok x.toUInt8 := if_pos h

/-- A range of zero is one of equal counts. -/
theorem range_eq_zero_iff (hle : low ≤ high) : high - low = 0 ↔ high.toNat - low.toNat = 0 := by
  rw [← UInt64.toNat_inj, UInt64.toNat_sub_of_le high low hle]
  rfl

theorem weight_of_ne (hrange : high - low ≠ 0) :
    weight low high count =
      (1 + (4 * (count - low) + (high - low) / 2) / (high - low)).toUInt8 := by
  unfold weight
  dsimp only
  rw [if_neg hrange]

/-- The difference of a count never goes wrong, and neither does halving. -/
theorem weightWatched_of_ne (hlow : low ≤ count) (hrange : high - low ≠ 0) :
    weightWatched low (high - low) count = (do
      let scaled ← times 4 (count - low)
      let rounding ← plus scaled ((high - low) / 2)
      let steps ← dividedBy rounding (high - low)
      let weight ← plus 1 steps
      toByte weight) := by
  have hhalf : dividedBy (high - low) 2 = .ok ((high - low) / 2) := dividedBy_of_ne (by decide)
  unfold weightWatched
  rw [if_neg hrange, minus_of_le hlow, hhalf]
  rfl

/-- The numbers that a weight is worked out from, if the counts lie close together: no step carries. -/
structure Uncarried (low high count : UInt64) : Prop where
  range : (high - low).toNat = high.toNat - low.toNat
  above : (count - low).toNat = count.toNat - low.toNat
  scaled : (4 * (count - low)).toNat = 4 * (count.toNat - low.toNat)
  half : ((high - low) / 2).toNat = (high.toNat - low.toNat) / 2
  rounding : (4 * (count - low) + (high - low) / 2).toNat =
    4 * (count.toNat - low.toNat) + (high.toNat - low.toNat) / 2

theorem uncarried_of_fits (hlow : low ≤ count) (hhigh : count ≤ high)
    (hfits : 4 * (count.toNat - low.toNat) + (high.toNat - low.toNat) / 2 < UInt64.size) :
    Uncarried low high count := by
  have hrange := UInt64.toNat_sub_of_le high low (UInt64.le_trans hlow hhigh)
  have habove := UInt64.toNat_sub_of_le count low hlow
  have hscaled : (4 * (count - low)).toNat = 4 * (count.toNat - low.toNat) := by
    rw [UInt64.toNat_mul, habove]
    exact Nat.mod_eq_of_lt (Nat.lt_of_le_of_lt (Nat.le_add_right _ _) hfits)
  have hhalf : ((high - low) / 2).toNat = (high.toNat - low.toNat) / 2 := by
    rw [UInt64.toNat_div, hrange]
    rfl
  refine ⟨hrange, habove, hscaled, hhalf, ?_⟩
  rw [UInt64.toNat_add, hscaled, hhalf]
  exact Nat.mod_eq_of_lt hfits

/-- **A weight in words is the share**, and nothing goes wrong on the way, if four times the distance of
    the count from the least and half of the range fit into a word together. -/
theorem weight_of_fits (hlow : low ≤ count) (hhigh : count ≤ high)
    (hfits : 4 * (count.toNat - low.toNat) + (high.toNat - low.toNat) / 2 < UInt64.size) :
    weightWatched low (high - low) count = .ok (weight low high count) ∧
      (weight low high count).toNat = share low.toNat high.toNat count.toNat := by
  have hle := UInt64.le_trans hlow hhigh
  by_cases hrange : high - low = 0
  · have hthree : weight low high count = 3 := by
      unfold weight
      dsimp only
      rw [if_pos hrange]
      rfl
    rw [weightWatched, if_pos hrange, hthree, share, if_pos ((range_eq_zero_iff hle).mp hrange)]
    exact ⟨rfl, rfl⟩
  · have hnone := uncarried_of_fits hlow hhigh hfits
    have hshare : share low.toNat high.toNat count.toNat ≤ 5 :=
      share_le (UInt64.le_iff_toNat_le.mp hhigh)
    rw [share, if_neg (mt (range_eq_zero_iff hle).mpr hrange)] at hshare ⊢
    rw [weightWatched_of_ne hlow hrange, weight_of_ne hrange]
    generalize hsteps : (4 * (count - low) + (high - low) / 2) / (high - low) = steps
    have htold : steps.toNat = (4 * (count.toNat - low.toNat) + (high.toNat - low.toNat) / 2) /
        (high.toNat - low.toNat) := by
      rw [← hsteps, UInt64.toNat_div, hnone.rounding, hnone.range]
    rw [← htold] at hshare ⊢
    have hweight : (1 + steps).toNat = 1 + steps.toNat := by
      rw [UInt64.toNat_add]
      exact Nat.mod_eq_of_lt (Nat.lt_of_le_of_lt hshare (by decide))
    have hbyte : (1 + steps).toNat < UInt8.size := by
      rw [hweight]
      exact Nat.lt_of_le_of_lt hshare (by decide)
    refine ⟨?_, ?_⟩
    · rw [times_of_lt (by rw [hnone.above]; exact Nat.lt_of_le_of_lt (Nat.le_add_right _ _) hfits)]
      show (plus _ _ >>= _) = _
      rw [plus_of_lt (by rw [hnone.scaled, hnone.half]; exact hfits)]
      show (dividedBy _ _ >>= _) = _
      rw [dividedBy_of_ne hrange, hsteps]
      show (plus _ _ >>= _) = _
      rw [plus_of_lt (Nat.lt_of_le_of_lt hshare (by decide))]
      exact toByte_of_lt hbyte
    · rw [UInt64.toNat_toUInt8, hweight]
      exact Nat.mod_eq_of_lt (Nat.lt_of_le_of_lt hshare (by decide))

/-- Otherwise the product is too large, or the sum. -/
theorem weightWatched_fails (hlow : low ≤ count) (hhigh : count ≤ high)
    (hcarries : UInt64.size ≤ 4 * (count.toNat - low.toNat) + (high.toNat - low.toNat) / 2) :
    weightWatched low (high - low) count = .error .product ∨
      weightWatched low (high - low) count = .error .sum := by
  have hle := UInt64.le_trans hlow hhigh
  have habove := UInt64.toNat_sub_of_le count low hlow
  have hrange := UInt64.toNat_sub_of_le high low hle
  have hdiffer : high - low ≠ 0 := fun hzero => by
    have hnone := (range_eq_zero_iff hle).mp hzero
    have hhigh := UInt64.le_iff_toNat_le.mp hhigh
    have hsize : 0 < UInt64.size := by decide
    omega
  rw [weightWatched_of_ne hlow hdiffer]
  by_cases hscaled : (4 : UInt64).toNat * (count - low).toNat < UInt64.size
  · refine .inr ?_
    rw [times_of_lt hscaled]
    show (plus _ _ >>= _) = _
    have hsum : ¬ (4 * (count - low)).toNat + ((high - low) / 2).toNat < UInt64.size := by
      rw [UInt64.toNat_mul, Nat.mod_eq_of_lt hscaled, UInt64.toNat_div, habove, hrange]
      exact Nat.not_lt.mpr hcarries
    rw [plus, if_neg hsum]
    rfl
  · refine .inl ?_
    rw [times, if_neg hscaled]
    rfl

end Word

/-! ## 4. Clouds of close counts -/

variable {minimumCount : Nat} {entries : List Entry}

/-- The weights in numbers of any size. -/
def sharesOf (entries : List Entry) : List CloudEntry :=
  entries.map fun e => ⟨e, share (countRange entries).1 (countRange entries).2 e.count⟩

/-- **Shares are a scale**, whatever is shown and however large the counts are. -/
theorem graded_sharesOf (entries : List Entry) : Graded entries (sharesOf entries) where
  entries := by
    rw [sharesOf, List.map_map]
    exact List.map_id _
  bounded := List.forall_mem_map.mpr fun c hc =>
    ⟨one_le_share _ _ _, share_le (countRange_bounds hc).2⟩
  rising := by
    simp only [sharesOf, List.forall_mem_map]
    exact fun c _ d _ hle => share_mono hle
  even := by
    simp only [sharesOf, List.forall_mem_map]
    exact fun c _ d _ heq => congrArg _ heq
  least := by
    simp only [sharesOf, List.forall_mem_map]
    intro c hc d hd hlt e he hleast
    obtain ⟨x, hx, hlow⟩ := (countRange_attained (List.ne_nil_of_mem hc)).1
    rw [Nat.le_antisymm (hlow ▸ hleast x hx) (countRange_bounds he).1]
    exact share_low (countRange_lt hc hd hlt)
  largest := by
    simp only [sharesOf, List.forall_mem_map]
    intro c hc d hd hlt e he hlargest
    obtain ⟨x, hx, hhigh⟩ := (countRange_attained (List.ne_nil_of_mem hc)).2
    rw [Nat.le_antisymm (countRange_bounds he).2 (hhigh ▸ hlargest x hx)]
    exact share_high (countRange_lt hc hd hlt)

/-- The counts are words, as counts of items are. -/
def Words (entries : List Entry) : Prop := ∀ e ∈ entries, e.count < UInt64.size

/-- Four and a half times the distance of the largest count from the least, rounded down, fits into a
    word. -/
def Close (entries : List Entry) : Prop :=
  4 * ((countRange entries).2 - (countRange entries).1) +
    ((countRange entries).2 - (countRange entries).1) / 2 < UInt64.size

instance (entries : List Entry) : Decidable (Words entries) :=
  inferInstanceAs (Decidable (∀ e ∈ entries, e.count < UInt64.size))

instance (entries : List Entry) : Decidable (Close entries) :=
  inferInstanceAs (Decidable (_ < UInt64.size))

/-- The least and the largest count are words as well, and lie around the others. -/
theorem Words.around (h : Words entries) {e : Entry} (he : e ∈ entries) :
    (e.count.toUInt64.toNat = e.count ∧
      (countRange entries).1.toUInt64.toNat = (countRange entries).1 ∧
      (countRange entries).2.toUInt64.toNat = (countRange entries).2) ∧
      (countRange entries).1.toUInt64 ≤ e.count.toUInt64 ∧
      e.count.toUInt64 ≤ (countRange entries).2.toUInt64 := by
  obtain ⟨hlow, hhigh⟩ := countRange_bounds he
  obtain ⟨x, hx, hlargest⟩ := (countRange_attained (List.ne_nil_of_mem he)).2
  have hcount : e.count.toUInt64.toNat = e.count := UInt64.toNat_ofNat_of_lt (h e he)
  have hleast : (countRange entries).1.toUInt64.toNat = (countRange entries).1 :=
    UInt64.toNat_ofNat_of_lt (Nat.lt_of_le_of_lt hlow (h e he))
  have hmost : (countRange entries).2.toUInt64.toNat = (countRange entries).2 :=
    UInt64.toNat_ofNat_of_lt (hlargest ▸ h x hx)
  refine ⟨⟨hcount, hleast, hmost⟩, ?_, ?_⟩
  · rw [UInt64.le_iff_toNat_le, hleast, hcount]
    exact hlow
  · rw [UInt64.le_iff_toNat_le, hcount, hmost]
    exact hhigh

theorem Close.fits (h : Close entries) {e : Entry} (he : e ∈ entries) :
    4 * (e.count - (countRange entries).1) +
      ((countRange entries).2 - (countRange entries).1) / 2 < UInt64.size := by
  have hhigh := (countRange_bounds he).2
  unfold Close at h
  omega

/-- The weights of close counts are their shares. -/
theorem cloudOf_of_close (hwords : Words (shown minimumCount entries))
    (hclose : Close (shown minimumCount entries)) :
    cloudOf minimumCount entries = sharesOf (shown minimumCount entries) := by
  refine List.map_congr_left fun e he => ?_
  obtain ⟨⟨hcount, hleast, hmost⟩, hlow, hhigh⟩ := hwords.around he
  have hfits := hclose.fits he
  rw [← hcount, ← hleast, ← hmost] at hfits
  have hweight := (weight_of_fits hlow hhigh hfits).2
  rw [hcount, hleast, hmost] at hweight
  exact congrArg (CloudEntry.mk e) hweight

/-- Calls one after the other, each of which succeeds with a known result. -/
theorem mapM_eq_ok_map_iff {α β ε : Type} {act : α → Except ε β} {result : α → β} {xs : List α} :
    xs.mapM act = .ok (xs.map result) ↔ ∀ x ∈ xs, act x = .ok (result x) := by
  induction xs with
  | nil => exact iff_of_true rfl nofun
  | cons x xs ih =>
    rw [List.mapM_cons, List.map_cons, List.forall_mem_cons, ← ih]
    cases act x with
    | error failure => exact iff_of_false nofun nofun
    | ok y =>
      cases xs.mapM act with
      | error failure => exact iff_of_false nofun nofun
      | ok ys =>
        refine ⟨fun h => ?_, fun ⟨hy, hys⟩ => ?_⟩
        · obtain ⟨hy, hys⟩ := List.cons.inj (Except.ok.inj h)
          exact ⟨congrArg _ hy, congrArg _ hys⟩
        · rw [Except.ok.inj hy, Except.ok.inj hys]
          rfl

/-- **Nothing goes wrong exactly if the counts lie close together**: no difference falls below zero, no
    product or sum is too large, nothing is divided by zero, and no weight loses anything when it is cut
    down to a byte. -/
theorem cloudWatched_iff (hwords : Words (shown minimumCount entries)) :
    cloudWatched minimumCount entries = .ok (cloudOf minimumCount entries) ↔
      Close (shown minimumCount entries) := by
  unfold cloudWatched cloudOf
  generalize shown minimumCount entries = shown at hwords ⊢
  dsimp only
  cases shown with
  | nil => exact iff_of_true rfl (by decide)
  | cons first rest =>
    generalize hshown : first :: rest = shown at hwords ⊢
    have hfirst : first ∈ shown := hshown ▸ List.mem_cons_self
    have hends : (countRange shown).1.toUInt64 ≤ (countRange shown).2.toUInt64 :=
      UInt64.le_trans (hwords.around hfirst).2.1 (hwords.around hfirst).2.2
    rw [minus_of_le hends]
    refine mapM_eq_ok_map_iff.trans ⟨fun hall => ?_, fun hclose e he => ?_⟩
    · -- at the largest count the whole distance is scaled
      obtain ⟨x, hx, hlargest⟩ := (countRange_attained (List.ne_nil_of_mem hfirst)).2
      obtain ⟨⟨hcount, hleast, hmost⟩, hlow, hhigh⟩ := hwords.around hx
      have hx := hall x hx
      refine Decidable.byContradiction fun hfar => ?_
      have hcarries : UInt64.size ≤ 4 * (x.count.toUInt64.toNat - (countRange shown).1.toUInt64.toNat) +
          ((countRange shown).2.toUInt64.toNat - (countRange shown).1.toUInt64.toNat) / 2 := by
        rw [hcount, hleast, hmost, hlargest]
        exact Nat.le_of_not_lt hfar
      rcases weightWatched_fails hlow hhigh hcarries with hslip | hslip <;>
      · rw [hslip] at hx
        cases hx
    · obtain ⟨⟨hcount, hleast, hmost⟩, hlow, hhigh⟩ := hwords.around he
      have hfits := hclose.fits he
      rw [← hcount, ← hleast, ← hmost] at hfits
      rw [(weight_of_fits hlow hhigh hfits).1]
      rfl

/-! ## 5. After every update -/

/-- **Weights are a bounded monotone scale**, as long as four and a half times the distance of the counts
    fits into a word. They are between 1 and 5 and rise with the counts, equal counts have equal weights,
    and where counts differ the least has 1 and the largest 5; no difference falls below zero, nothing is
    divided by zero, and nothing is lost when they are cut down to a byte. With a greater distance the
    computation goes wrong. All this holds of what every update leaves that succeeds. -/
theorem cloudOf_on_scale :
    (∀ (minimumCount : Nat) (entries : List Entry), Words (shown minimumCount entries) →
      (cloudWatched minimumCount entries = .ok (cloudOf minimumCount entries) ↔
        Close (shown minimumCount entries)) ∧
      (Close (shown minimumCount entries) →
        Graded (shown minimumCount entries) (cloudOf minimumCount entries))) ∧
    ∀ (f g : CloudFacet) (scene : Scene) (items : KeySet), f.update scene items = (.ok (), g) →
      g.cloud = cloudOf f.minimumCount g.list.entries ∧
        (Words (shown f.minimumCount g.list.entries) → Close (shown f.minimumCount g.list.entries) →
          Graded (shown f.minimumCount g.list.entries) g.cloud) := by
  have hgraded (minimumCount : Nat) (entries : List Entry) (hwords : Words (shown minimumCount entries))
      (hclose : Close (shown minimumCount entries)) :
      Graded (shown minimumCount entries) (cloudOf minimumCount entries) := by
    rw [cloudOf_of_close hwords hclose]
    exact graded_sharesOf _
  refine ⟨fun minimumCount entries hwords =>
    ⟨cloudWatched_iff hwords, hgraded minimumCount entries hwords⟩, fun f g scene items hupdate => ?_⟩
  unfold update at hupdate
  split at hupdate
  next list _ =>
    obtain rfl := (Prod.mk.injEq ..).mp hupdate |>.2
    exact ⟨rfl, hgraded f.minimumCount list.entries⟩
  next => cases (Prod.mk.injEq ..).mp hupdate |>.1

/-- Four values, the last of them too rare to be shown. -/
def fourValues : List Entry :=
  [⟨some "a", "a", 9, false⟩, ⟨some "b", "b", 3, false⟩, ⟨none, "missing", 1, true⟩,
    ⟨some "c", "c", 0, false⟩]

/-- Of four values three are shown; their weights are worked out without a slip, and the least and the
    largest count have the weights at the ends. -/
theorem fourValues_on_scale :
    (Words (shown 2 fourValues) ∧ Close (shown 2 fourValues)) ∧
      cloudWatched 2 fourValues = .ok (cloudOf 2 fourValues) ∧
      (cloudOf 2 fourValues).map CloudEntry.weight = [5, 2, 1] ∧
      Graded (shown 2 fourValues) (cloudOf 2 fourValues) := by
  have hwords : Words (shown 2 fourValues) := by decide +kernel
  have hclose : Close (shown 2 fourValues) := by decide +kernel
  obtain ⟨hwatched, hgraded⟩ := cloudOf_on_scale.1 2 fourValues hwords
  exact ⟨⟨hwords, hclose⟩, hwatched.mpr hclose, by decide +kernel, hgraded hclose⟩

/-- A selected value that no item has, and one that as many items have as a quarter of a word can
    count. -/
def farApart : List Entry :=
  [⟨some "a", "a", 0, true⟩, ⟨some "b", "b", 0x3fffffffffffffff, false⟩]

/-- **Four times each count fits into a word, and yet the largest count has the least weight**: half of
    the distance does not fit on top. -/
theorem farApart_off_scale :
    (∀ e ∈ shown 1 farApart, 4 * e.count < UInt64.size) ∧
      cloudWatched 1 farApart = .error .sum ∧
      (cloudOf 1 farApart).map (fun c => (c.entry.count, c.weight)) =
        [(0, 1), (0x3fffffffffffffff, 1)] ∧
      ¬ Graded (shown 1 farApart) (cloudOf 1 farApart) := by
  have hcloud : cloudOf 1 farApart =
      [⟨⟨some "a", "a", 0, true⟩, 1⟩, ⟨⟨some "b", "b", 0x3fffffffffffffff, false⟩, 1⟩] := rfl
  refine ⟨by decide +kernel, rfl, by rw [hcloud]; rfl, fun hgraded => ?_⟩
  have hends := hgraded.largest
  rw [hcloud] at hends
  have hlast {c d : CloudEntry} : d ∈ [c, d] := List.mem_cons_of_mem _ List.mem_cons_self
  have hfive := hends _ List.mem_cons_self _ hlast (by decide +kernel) _ hlast (by decide +kernel)
  exact absurd hfive (by decide)

end CloudFacet

end Faceted
