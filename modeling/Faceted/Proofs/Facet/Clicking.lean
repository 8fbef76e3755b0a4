import Faceted.Proofs.Facet.Fresh
import Faceted.Proofs.Facet.Lettering
import Faceted.Proofs.Facet.RangeCounting
import Faceted.Proofs.Text.Lowering

/-!
# Clicks on sets

What is selected in a list or a cloud is a set of values and a flag of its own for the items without
one; number and letter facets keep their ranges in a list, in the order of the clicks. For the one who
clicks both are a set of entries: a click flips one of them, or makes it the only one.

* `RangeChoice.sorted_beq_iff`: without repetitions a list of ranges, once sorted, tells its set;
* `Mark` and `Facet.marked`: the entries, and which of them are selected;
* `Facet.target`: the entry that a change clicks; `Facet.target_of_shown`: a click on an entry that is
  shown means that entry, letters included, since they are in upper case already;
* `Facet.exportState_same_iff`: the exported state tells the set, and nothing else about the selection;
* **`clicks_follow_sets`**: after any clicks, the next one flips its entry or makes it the only one,
  says so and changes the state, and a second one restores the state.
-/

namespace Faceted

/-! ## 1. Lists of ranges as sets -/

namespace RangeSelection

variable {a a' b b' : RangeSelection}

theorem same_congr (ha : a.same a' = true) (hb : b.same b' = true) : a.same b = a'.same b' := by
  simp only [same, Bool.and_eq_true] at ha hb ⊢
  rw [RangeValue.same_congr ha.1 hb.1, RangeValue.same_congr ha.2 hb.2]

theorem le_congr (ha : a.same a' = true) (hb : b.same b' = true) : a.le b = a'.le b' := by
  simp only [same, Bool.and_eq_true] at ha hb
  unfold le
  rw [RangeValue.before_congr ha.1 hb.1, RangeValue.same_congr ha.1 hb.1,
    RangeValue.before_congr hb.2 ha.2]

theorem le_antisymm (hab : a.le b = true) (hba : b.le a = true) : a.same b = true := by
  have hlow {x y : RangeValue} (h : x.same y = true) : y.before x = false :=
    RangeValue.not_before_iff.mpr (.inl (RangeValue.same_symm h))
  have hback {x y : RangeValue} (h : x.before y = true) : y.before x = false ∧ y.same x = false := by
    have hnot : y.before x = false := RangeValue.not_before_iff.mpr (.inr h)
    refine ⟨hnot, Bool.eq_false_iff.mpr fun hsame => ?_⟩
    rw [hlow hsame] at h
    cases h
  rw [le_iff] at hab hba
  rcases hab with hab | ⟨hsame, hhigh⟩
  · obtain ⟨hnot, hne⟩ := hback hab
    rcases hba with hba | ⟨hba, -⟩
    · exact absurd hba (Bool.eq_false_iff.mp hnot)
    · exact absurd hba (Bool.eq_false_iff.mp hne)
  · rcases hba with hba | ⟨-, hhigh'⟩
    · exact absurd hba (Bool.eq_false_iff.mp (hlow hsame))
    · rcases RangeValue.not_before_iff.mp hhigh with hends | hends
      · rw [same, hsame, RangeValue.same_symm hends]
        rfl
      · exact absurd hends (Bool.eq_false_iff.mp hhigh')

end RangeSelection

namespace RangeChoice

variable {chosen xs ys : RangeChoice} {r s : RangeSelection}

/-- No range is chosen twice. -/
def Distinct (chosen : RangeChoice) : Prop := chosen.Pairwise fun a b => a.same b = false

theorem has_iff : chosen.has r = true ↔ ∃ x ∈ chosen, x.same r = true := List.any_eq_true

/-- Only the place of a range counts. -/
theorem has_congr (h : r.same s = true) : chosen.has r = chosen.has s :=
  congrArg chosen.any (funext fun x => RangeSelection.same_congr x.same_refl h)

theorem has_cons (x : RangeSelection) :
    RangeChoice.has (x :: chosen) r = (x.same r || chosen.has r) := rfl

theorem has_append : RangeChoice.has (chosen ++ [s]) r = (chosen.has r || r.same s) := by
  rw [has, List.any_append, List.any_cons, List.any_nil, Bool.or_false, RangeSelection.same_comm s]
  rfl

theorem has_drop : (chosen.drop s).has r = (chosen.has r && !r.same s) := by
  -- a range like `r` is dropped if `r` would be
  have hsame {x : RangeSelection} (h : x.same r = true) : x.same s = r.same s :=
    RangeSelection.same_congr h s.same_refl
  rw [Bool.eq_iff_iff, Bool.and_eq_true, has_iff, has_iff]
  constructor
  · rintro ⟨x, hx, hxr⟩
    obtain ⟨hx, hxs⟩ := List.mem_filter.mp hx
    rw [hsame hxr] at hxs
    exact ⟨⟨x, hx, hxr⟩, hxs⟩
  · rintro ⟨⟨x, hx, hxr⟩, hrs⟩
    rw [← hsame hxr] at hrs
    exact ⟨x, List.mem_filter.mpr ⟨hx, hrs⟩, hxr⟩

theorem Distinct.tail {x : RangeSelection} (h : Distinct (x :: chosen)) :
    chosen.has x = false ∧ chosen.Distinct := by
  obtain ⟨hx, hrest⟩ := List.pairwise_cons.mp h
  refine ⟨Bool.eq_false_iff.mpr fun hhas => ?_, hrest⟩
  obtain ⟨y, hy, hsame⟩ := has_iff.mp hhas
  rw [RangeSelection.same_comm, hx y hy] at hsame
  cases hsame

theorem Distinct.drop (h : chosen.Distinct) (r : RangeSelection) : (chosen.drop r).Distinct :=
  List.Pairwise.filter _ h

theorem Distinct.append (h : chosen.Distinct) (hr : chosen.has r = false) :
    Distinct (chosen ++ [r]) := by
  refine List.pairwise_append.mpr ⟨h, List.pairwise_singleton _ r, fun x hx y hy => ?_⟩
  obtain rfl := List.mem_singleton.mp hy
  exact Bool.eq_false_iff.mpr (List.any_eq_false.mp hr x hx)

theorem distinct_singleton (r : RangeSelection) : Distinct [r] := List.pairwise_singleton _ r

theorem distinct_of_eq_nil (h : chosen = []) : chosen.Distinct := h ▸ List.Pairwise.nil

/-! ### Sorted lists -/

theorem has_sorted : RangeChoice.has (RangeSelection.sorted chosen) r = chosen.has r :=
  (List.mergeSort_perm chosen _).any_eq

/-- Two lists in ascending order and without repetitions are the same, range by range, if they have the
    same ranges. -/
theorem forall₂_of_ascending (hxs : xs.Pairwise fun a b => a.le b = true)
    (hys : ys.Pairwise fun a b => a.le b = true) (hxs' : xs.Distinct) (hys' : ys.Distinct)
    (h : ∀ r, xs.has r = ys.has r) : List.Forall₂ (fun x y => x.same y = true) xs ys := by
  induction xs generalizing ys with
  | nil =>
    cases ys with
    | nil => exact .nil
    | cons y ys =>
      have hy := h y
      rw [has_cons, y.same_refl] at hy
      cases hy
  | cons x xs ih =>
    cases ys with
    | nil =>
      have hx := h x
      rw [has_cons, x.same_refl] at hx
      cases hx
    | cons y ys =>
      obtain ⟨hx, hxs⟩ := List.pairwise_cons.mp hxs
      obtain ⟨hy, hys⟩ := List.pairwise_cons.mp hys
      obtain ⟨hxnew, hxs'⟩ := hxs'.tail
      obtain ⟨hynew, hys'⟩ := hys'.tail
      have hfirst {x y : RangeSelection} {xs : RangeChoice} (hx : ∀ x' ∈ xs, x.le x' = true)
          (hhas : RangeChoice.has (x :: xs) y = true) : x.le y = true := by
        obtain ⟨z, hz, hsame⟩ := has_iff.mp hhas
        rw [← RangeSelection.le_congr x.same_refl hsame]
        rcases List.mem_cons.mp hz with rfl | hz
        · simpa using z.le_total z
        · exact hx z hz
      -- the first of either list comes no later than that of the other
      have hxy : x.same y = true := by
        refine RangeSelection.le_antisymm (hfirst hx ?_) (hfirst hy ?_)
        · rw [h y, has_cons, y.same_refl, Bool.true_or]
        · rw [← h x, has_cons, x.same_refl, Bool.true_or]
      refine .cons hxy (ih hxs hys hxs' hys' fun r => ?_)
      have hr := h r
      rw [has_cons, has_cons, RangeSelection.same_congr hxy r.same_refl] at hr
      cases hyr : y.same r with
      | false => simpa [hyr] using hr
      | true =>
        rw [← has_congr hyr, ← has_congr hyr, hynew, ← has_congr hxy]
        exact hxnew

theorem has_of_forall₂ (h : List.Forall₂ (fun x y => x.same y = true) xs ys) (r : RangeSelection) :
    xs.has r = ys.has r := by
  induction h with
  | nil => rfl
  | cons hxy _ ih => rw [has_cons, has_cons, ih, RangeSelection.same_congr hxy r.same_refl]

/-- **A choice, once sorted, tells its set.** -/
theorem sorted_beq_iff (hxs : xs.Distinct) (hys : ys.Distinct) :
    (RangeSelection.sorted xs == RangeSelection.sorted ys) = true ↔ ∀ r, xs.has r = ys.has r := by
  have hsorted (zs : RangeChoice) : (RangeSelection.sorted zs).Pairwise fun a b => a.le b = true :=
    List.pairwise_mergeSort RangeSelection.le_trans RangeSelection.le_total zs
  have hdistinct {zs : RangeChoice} (h : zs.Distinct) : Distinct (RangeSelection.sorted zs) :=
    h.perm (List.mergeSort_perm zs _).symm fun hab => (RangeSelection.same_comm _ _).trans hab
  rw [FacetState.beq_ranges_iff]
  constructor
  · intro h r
    have hboth := has_of_forall₂ h r
    rwa [has_sorted, has_sorted] at hboth
  · intro h
    refine forall₂_of_ascending (hsorted xs) (hsorted ys) (hdistinct hxs) (hdistinct hys) fun r => ?_
    rw [has_sorted, has_sorted, h]

end RangeChoice

/-! ## 2. Entries and clicks on them -/

/-- An entry: a value, the items without one, or a range. -/
inductive Mark where
  | value (value : Option String)
  | range (r : RangeSelection)

namespace Mark

/-- Are they the same entry? -/
def same : Mark → Mark → Bool
  | .value v, .value w => v == w
  | .range r, .range s => r.same s
  | _, _ => false

theorem same_refl (e : Mark) : e.same e = true := by
  cases e with
  | value v => exact beq_self_eq_true v
  | range r => exact r.same_refl

theorem same_congr {e e' : Mark} (h : e'.same e = true) (m : Mark) : m.same e' = m.same e := by
  cases e <;> cases e' <;> cases m <;> simp only [same, Bool.false_eq_true] at h ⊢
  · rw [beq_iff_eq.mp h]
  · exact RangeSelection.same_congr (RangeSelection.same_refl _) h

end Mark

/-- What a click on an entry makes of a set: the entry is flipped, or it becomes the only one; if it was
    that already, nothing is left. -/
structure Clicked (before after : Mark → Bool) (e : Mark) (only : Bool) : Prop where
  flips : only = false → ∀ m, after m = (before m ^^ m.same e)
  empties : only = true → (∀ m, before m = m.same e) → ∀ m, after m = false
  narrows : only = true → (¬ ∀ m, before m = m.same e) → ∀ m, after m = m.same e

namespace Clicked

variable {before after after' : Mark → Bool} {e e' : Mark} {only : Bool}

/-- A click changes the set. -/
theorem changes (h : Clicked before after e only) : ¬ ∀ m, after m = before m := by
  intro hsame
  cases only with
  | false =>
    have hflip := h.flips rfl e
    rw [hsame e, e.same_refl] at hflip
    simp at hflip
  | true =>
    by_cases honly : ∀ m, before m = m.same e
    · have hempty := h.empties rfl honly e
      rw [hsame e, honly e, e.same_refl] at hempty
      cases hempty
    · exact honly fun m => (hsame m).symm.trans (h.narrows rfl honly m)

/-- Two clicks that flip the same entry leave the set as it was. -/
theorem again (h : Clicked before after e false) (h' : Clicked after after' e' false)
    (hsame : e'.same e = true) (m : Mark) : after' m = before m := by
  rw [h'.flips rfl m, h.flips rfl m, Mark.same_congr hsame, Bool.xor_assoc, Bool.xor_self,
    Bool.xor_false]

end Clicked

/-! ### Ranges -/

namespace RangeChoice

variable {chosen : RangeChoice} {r s : RangeSelection}

/-- The set of the chosen ranges. -/
def marked (chosen : RangeChoice) : Mark → Bool
  | .range r => chosen.has r
  | .value _ => false

theorem has_toggle : (chosen.toggle s false).has r = (chosen.has r ^^ r.same s) := by
  -- the place of a range decides whether it is chosen
  have hplace (h : r.same s = true) : chosen.has r = chosen.has s := has_congr h
  unfold toggle
  cases hs : chosen.has s with
  | true =>
    rw [if_pos rfl, Bool.false_and, if_neg Bool.false_ne_true, has_drop]
    cases hrs : r.same s with
    | true => rw [hplace hrs, hs]; rfl
    | false => simp
  | false =>
    rw [if_neg Bool.false_ne_true, if_neg Bool.false_ne_true, has_append]
    cases hrs : r.same s with
    | true => rw [hplace hrs, hs]; rfl
    | false => simp

/-- A range is the only choice if the list has nothing else and is not longer than that. -/
theorem marked_only_iff (hdistinct : chosen.Distinct) :
    (∀ m, chosen.marked m = m.same (.range r)) ↔ chosen.has r = true ∧ chosen.length ≤ 1 := by
  constructor
  · intro h
    have hall {x : RangeSelection} (hx : x ∈ chosen) : x.same r = true :=
      (h (.range x)).symm.trans (has_iff.mpr ⟨x, hx, x.same_refl⟩)
    refine ⟨(h (.range r)).trans r.same_refl, ?_⟩
    match chosen, hdistinct with
    | [], _ => exact Nat.zero_le 1
    | [x], _ => exact Nat.le_refl 1
    | x :: y :: rest, hdistinct =>
      have hxy : x.same y = true := RangeSelection.same_trans (hall List.mem_cons_self)
        (RangeSelection.same_symm (hall (List.mem_cons_of_mem x List.mem_cons_self)))
      rw [(List.pairwise_cons.mp hdistinct).1 y List.mem_cons_self] at hxy
      cases hxy
  · rintro ⟨hr, hlength⟩ m
    match chosen, hlength with
    | [], _ => cases hr
    | [x], _ =>
      have hxr : x.same r = true := by rwa [has_cons, has, List.any_nil, Bool.or_false] at hr
      cases m with
      | value v => rfl
      | range s =>
        show (x.same s || false) = s.same r
        rw [Bool.or_false, RangeSelection.same_comm,
          RangeSelection.same_congr s.same_refl hxr]

/-- **A click on a range** does to the list what a click does to the set. -/
theorem clicked_toggle (hdistinct : chosen.Distinct) (r : RangeSelection) (only : Bool) :
    Clicked chosen.marked (chosen.toggle r only).marked (.range r) only where
  flips := by
    rintro rfl (v | s)
    · rfl
    · exact has_toggle
  empties := by
    rintro rfl honly (v | s)
    · rfl
    · obtain ⟨hr, hlength⟩ := (marked_only_iff hdistinct).mp honly
      have hshort : ¬ (true && decide (1 < chosen.length)) = true := by simpa using hlength
      show (chosen.toggle r true).has s = false
      rw [toggle, if_pos hr, if_neg hshort, has_drop, show chosen.has s = s.same r from honly (.range s),
        Bool.and_not_self]
  narrows := by
    rintro rfl hmore m
    have hlone : chosen.toggle r true = [r] := by
      unfold toggle
      split
      next hr =>
        have hlong : (true && decide (1 < chosen.length)) = true := by
          by_contra hshort
          exact hmore ((marked_only_iff hdistinct).mpr ⟨hr, by simpa using hshort⟩)
        rw [if_pos hlong]
      next => rfl
    rw [hlone]
    cases m with
    | value v => rfl
    | range s =>
      show (r.same s || false) = s.same r
      rw [Bool.or_false, RangeSelection.same_comm]

theorem Distinct.toggle (h : chosen.Distinct) (r : RangeSelection) (only : Bool) :
    (chosen.toggle r only).Distinct := by
  unfold RangeChoice.toggle
  split
  · split
    · exact distinct_singleton r
    · exact h.drop r
  next hr =>
    split
    · exact distinct_singleton r
    · exact h.append (Bool.eq_false_iff.mpr hr)

theorem Distinct.set (h : chosen.Distinct) (r : RangeSelection) (selected : Bool) :
    (chosen.set r selected).Distinct := by
  unfold RangeChoice.set
  split
  · split
    · exact h
    next hr => exact h.append (Bool.eq_false_iff.mpr hr)
  · exact h.drop r

theorem sorted_same_iff {xs ys : RangeChoice} (hxs : xs.Distinct) (hys : ys.Distinct) :
    (FacetState.ranges (RangeSelection.sorted xs)).same (.ranges (RangeSelection.sorted ys)) = true ↔
      ∀ m, xs.marked m = ys.marked m := by
  refine (sorted_beq_iff hxs hys).trans ⟨fun h m => ?_, fun h r => h (.range r)⟩
  cases m with
  | value v => rfl
  | range r => exact h r

end RangeChoice

/-! ### Values -/

namespace KeySet

variable {s : KeySet} {v : String}

/-- To take out a member is to flip it. -/
theorem contains_erase_of_mem (hv : v ∈ s) (w : String) :
    (s.erase v).contains w = (s.contains w ^^ some w == some v) := by
  by_cases hw : w = v
  · simp [contains, hw, hv]
  · simp [contains, hw, beq_eq_false_iff_ne.mpr hw]

/-- To put in what is no member is to flip it. -/
theorem contains_insert_of_not_mem (hv : v ∉ s) (w : String) :
    (s.insert v).contains w = (s.contains w ^^ some w == some v) := by
  by_cases hw : w = v
  · simp [contains, hw, hv]
  · simp [contains, hw, beq_eq_false_iff_ne.mpr hw]

end KeySet

namespace ListFacet

variable {f g : ListFacet}

/-- The set of the selected values, and of the items without one. -/
def marked (f : ListFacet) : Mark → Bool
  | .value none => f.selectMissing
  | .value (some v) => f.selection.contains v
  | .range _ => false

theorem toggle_flips (f : ListFacet) (v : Option String) :
    (f.toggle v false).1 = true ∧
      ∀ w, (f.toggle v false).2.marked (.value w) = (f.marked (.value w) ^^ w == v) := by
  cases v with
  | none =>
    refine ⟨?_, fun w => ?_⟩
    · simp [toggle, toggleMissing, select]
    · cases w <;> simp [toggle, toggleMissing, select, marked]
  | some v =>
    show (f.toggleValue v false).1 = true ∧
      ∀ w, (f.toggleValue v false).2.marked (.value w) = (f.marked (.value w) ^^ w == some v)
    unfold toggleValue
    rw [if_neg Bool.false_ne_true]
    cases hv : f.selection.contains v with
    | true =>
      rw [if_pos rfl]
      have hmem : v ∈ f.selection := KeySet.contains_iff.mp hv
      refine ⟨?_, fun w => ?_⟩
      · have hne : f.selection.erase v ≠ f.selection := fun heq =>
          (KeySet.mem_erase.mp (heq ▸ hmem)).2 rfl
        simp [select, hne]
      · cases w with
        | none => simp [select, marked]
        | some w => exact KeySet.contains_erase_of_mem hmem w
    | false =>
      rw [if_neg Bool.false_ne_true]
      have hmem : v ∉ f.selection := KeySet.contains_eq_false_iff.mp hv
      refine ⟨?_, fun w => ?_⟩
      · have hne : f.selection.insert v ≠ f.selection := fun heq =>
          hmem (heq ▸ KeySet.mem_insert.mpr (.inl rfl))
        simp [select, hne]
      · cases w with
        | none => simp [select, marked]
        | some w => exact KeySet.contains_insert_of_not_mem hmem w

/-- The list has nothing but the entry selected. -/
theorem hasOnly_iff {v : Option String} : f.hasOnly v = true ↔
    f.selection = KeySet.ofList v.toList ∧ f.selectMissing = v.isNone := by
  cases v with
  | none =>
    rw [hasOnly, Bool.and_eq_true]
    refine and_congr_left fun _ => ⟨fun h => ?_, fun h => by rw [h]; rfl⟩
    refine KeySet.ext fun w => iff_of_false (fun hw => ?_) KeySet.not_mem_empty
    rw [KeySet.mem_def, List.isEmpty_iff.mp h] at hw
    cases hw
  | some v =>
    simp only [hasOnly, Bool.and_eq_true, decide_eq_true_eq, Bool.not_eq_true', Option.isNone_some]
    refine and_congr_left fun _ => ?_
    have hone : (KeySet.ofList [v]).size = 1 := rfl
    constructor
    · rintro ⟨hv, hsize⟩
      have hsub : ∀ w ∈ KeySet.ofList [v], w ∈ f.selection := fun w hw => by
        rw [List.mem_singleton.mp (KeySet.mem_ofList.mp hw)]
        exact KeySet.contains_iff.mp hv
      have hle := KeySet.size_le hsub
      exact ((KeySet.eq_iff_size_eq hsub).mpr (by omega)).symm
    · intro heq
      rw [heq]
      exact ⟨KeySet.contains_iff.mpr (KeySet.mem_ofList.mpr List.mem_cons_self), Nat.le_of_eq hone⟩

/-- To have nothing but an entry selected is to be the set of that entry. -/
theorem marked_only_iff {v : Option String} :
    (∀ m, f.marked m = m.same (.value v)) ↔ f.hasOnly v = true := by
  have hvalues : (∀ w, f.marked (.value (some w)) = (some w == v)) ↔
      f.selection = KeySet.ofList v.toList := by
    have hmem (w : String) : w ∈ KeySet.ofList v.toList ↔ (some w == v) = true := by
      rw [KeySet.mem_ofList, Option.mem_toList, beq_iff_eq, eq_comm]
    constructor
    · intro h
      refine KeySet.ext fun w => ?_
      rw [hmem, ← h w]
      exact KeySet.contains_iff.symm
    · intro h w
      rw [Bool.eq_iff_iff, ← hmem, ← h]
      exact KeySet.contains_iff
  have hmissing : f.marked (.value none) = (none == v) ↔ f.selectMissing = v.isNone := by
    cases v <;> rfl
  rw [hasOnly_iff, ← hvalues, ← hmissing]
  constructor
  · exact fun h => ⟨fun w => h (.value (some w)), h (.value none)⟩
  · rintro ⟨hsome, hnone⟩ ((_ | w) | r)
    · exact hnone
    · exact hsome w
    · rfl

/-- A click on the only selected entry clears the selection. -/
theorem toggle_of_hasOnly {v : Option String} (h : f.hasOnly v = true) :
    f.toggle v true = (true, f.clear.2) := by
  have hwhole := h
  obtain ⟨hselection, hmissing⟩ := hasOnly_iff.mp h
  cases v with
  | none =>
    have hempty : f.selection.isEmpty = true := by rw [hselection]; rfl
    show f.toggleMissing true = _
    simp [toggleMissing, select, hempty, hmissing, clear]
  | some v =>
    have hne : (∅ : KeySet) ≠ f.selection := fun heq => by
      rw [hselection] at heq
      exact KeySet.not_mem_empty (heq ▸ KeySet.mem_ofList.mpr List.mem_cons_self)
    rw [hasOnly] at hwhole
    show f.toggleValue v true = _
    simp [toggleValue, hwhole, select, hne, clear]

/-- **A click on a value** does to the selection and the flag what a click does to the set, and it says
    that something changed. -/
theorem clicked_toggle (f : ListFacet) (v : Option String) (only : Bool) :
    (f.toggle v only).1 = true ∧ Clicked f.marked (f.toggle v only).2.marked (.value v) only := by
  cases only with
  | false =>
    obtain ⟨htold, hflips⟩ := f.toggle_flips v
    refine ⟨htold, fun _ m => ?_, nofun, nofun⟩
    cases m with
    | value w => exact hflips w
    | range r => rfl
  | true =>
    cases h : f.hasOnly v with
    | true =>
      rw [toggle_of_hasOnly h]
      refine ⟨rfl, nofun, fun _ _ m => ?_, fun _ hmore => absurd (marked_only_iff.mpr h) hmore⟩
      rcases m with (_ | w) | r
      · rfl
      · exact KeySet.contains_eq_false_iff.mpr KeySet.not_mem_empty
      · rfl
    | false =>
      rw [toggle_only h]
      refine ⟨rfl, nofun, fun _ honly => ?_, fun _ _ => ?_⟩
      · rw [marked_only_iff.mp honly] at h
        cases h
      · exact marked_only_iff.mpr (hasOnly_iff.mpr ⟨rfl, rfl⟩)

theorem clear_toggle (f : ListFacet) (v : Option String) (only : Bool) :
    (f.toggle v only).2.clear.2 = f.clear.2 := by
  obtain ⟨values, missing, htoggle⟩ := f.toggle_eq_select v only
  rw [htoggle]
  rfl

theorem exportState_same_iff :
    f.exportState.same g.exportState = true ↔ ∀ m, f.marked m = g.marked m := by
  simp only [exportState, FacetState.same, Bool.and_eq_true, beq_iff_eq]
  constructor
  · rintro ⟨hvalues, hmissing⟩ ((_ | v) | r)
    · exact hmissing
    · have hselection : f.selection = g.selection := KeySet.ext fun w => by
        rw [← KeySet.mem_toList, hvalues, KeySet.mem_toList]
      exact congrArg (KeySet.contains · v) hselection
    · rfl
  · intro h
    refine ⟨congrArg KeySet.toList (KeySet.ext fun v => ?_), h (.value none)⟩
    rw [← KeySet.contains_iff, ← KeySet.contains_iff]
    exact Bool.eq_iff_iff.mp (h (.value (some v)))

end ListFacet

/-! ## 3. Facets -/

namespace Facet

variable {scene : Scene} {f g : Facet} {change : Change} {e : Mark} {only : Bool}

/-- The entries that are selected. -/
def marked : Facet → Mark → Bool
  | .list f => f.marked
  | .cloud f => f.list.marked
  | .numericRange f => f.chosen.marked
  | .alphaRange f => f.chosen.marked
  | _ => fun _ => false

/-- The entry that a change clicks, and whether as the only choice. -/
def target (f : Facet) (change : Change) : Option (Mark × Bool) :=
  match f, change with
  | .list _, .toggleValue v only => some (.value v, only)
  | .cloud _, .toggleValue v only => some (.value v, only)
  | .numericRange _, .toggleNumbers low high only =>
    some (.range (NumericRangeFacet.rangeOf low high), only)
  | .alphaRange _, .toggleLetters low high only =>
    some (.range ⟨.text (Text.upperCased low), .text (Text.upperCased high)⟩, only)
  | _, _ => none

/-- What is selected is a set: nothing is selected twice. -/
def HoldsSet : Facet → Prop
  | .list _ => True
  | .cloud _ => True
  | .numericRange f => f.chosen.Distinct
  | .alphaRange f => f.chosen.Distinct
  | _ => False

/-- **The exported state tells the set**, and nothing else about the selection. -/
theorem exportState_same_iff (hf : f.HoldsSet) (hg : g.HoldsSet) (hrest : f.clear.2 = g.clear.2) :
    f.exportState.same g.exportState = true ↔ ∀ m, f.marked m = g.marked m := by
  cases f <;> cases g <;> first | cases hrest | skip
  case list.list => exact ListFacet.exportState_same_iff
  case cloud.cloud => exact ListFacet.exportState_same_iff
  case numericRange.numericRange => exact RangeChoice.sorted_same_iff hf hg
  case alphaRange.alphaRange => exact RangeChoice.sorted_same_iff hf hg
  all_goals exact hf.elim

/-- **One click**: it does to the facet what a click does to the set, says that something changed, and
    leaves the rest of the facet alone. -/
theorem clicked_perform (scene : Scene) (hg : g.HoldsSet)
    (htarget : g.target change = some (e, only)) :
    (g.perform scene change).1 = .ok true ∧ (g.perform scene change).2.clear.2 = g.clear.2 ∧
      (g.perform scene change).2.HoldsSet ∧
      Clicked g.marked (g.perform scene change).2.marked e only := by
  unfold target at htarget
  split at htarget
  case h_1 f v _ =>
    cases htarget
    obtain ⟨htold, hclicked⟩ := f.clicked_toggle v only
    exact ⟨congrArg Except.ok htold, congrArg Facet.list (f.clear_toggle v only), trivial, hclicked⟩
  case h_2 f v _ =>
    cases htarget
    obtain ⟨htold, hclicked⟩ := f.list.clicked_toggle v only
    exact ⟨congrArg Except.ok htold,
      congrArg (fun list => Facet.cloud { f with list }) (f.list.clear_toggle v only), trivial, hclicked⟩
  case h_3 f low high _ =>
    cases htarget
    exact ⟨congrArg Except.ok (f.chosen.differ_toggle _ only), rfl,
      RangeChoice.Distinct.toggle hg _ only, RangeChoice.clicked_toggle hg _ only⟩
  case h_4 f low high _ =>
    cases htarget
    exact ⟨congrArg Except.ok (f.chosen.differ_toggle _ only), rfl,
      RangeChoice.Distinct.toggle hg _ only, RangeChoice.clicked_toggle hg _ only⟩
  case h_5 => cases htarget

end Facet

/-! ## 4. Entries that are shown -/

/-- The change that clicks an entry by its own value or ends. -/
def Mark.click : Mark → Bool → Option Change
  | .value v, only => some (.toggleValue v only)
  | .range ⟨.number low, .number high⟩, only => some (.toggleNumbers low high only)
  | .range ⟨.text low, .text high⟩, only => some (.toggleLetters low high only)
  | _, _ => none

/-- An index over the items is built only if all of them have values. -/
theorem LocalIndex.evaluates_of_build {scene : Scene} {e : Expression}
    {convert : String → Option RangeValue} {index : RangeIndex}
    (h : build scene e convert = .ok index) :
    ∀ x ∈ scene.allItems, ∃ found, e.evalOnItem x scene.store = .ok found := by
  intro x hx
  unfold build at h
  cases hresults : (scene.allItems.toList.mapM fun item => do
      let values ← e.evalOnItem item scene.store
      return (item, values.toList.filterMap convert) : Outcome _) with
  | error failure =>
    rw [hresults] at h
    cases h
  | ok results =>
    obtain ⟨placed, hplaced⟩ := ok_of_mapM hresults (KeySet.mem_toList.mpr hx)
    cases hfound : e.evalOnItem x scene.store with
    | error failure =>
      rw [hfound] at hplaced
      cases hplaced
    | ok found => exact ⟨found, rfl⟩

namespace AlphaRangeFacet

variable {f : AlphaRangeFacet} {scene : Scene} {e : Expression} {index : RangeIndex}

/-- A part of a list has nothing that the list has not. -/
theorem mem_of_mem_chunks {α : Type} {n rounds : Nat} {xs part : List α} {x : α}
    (hpart : part ∈ chunks n rounds xs) (hx : x ∈ part) : x ∈ xs := by
  induction rounds generalizing xs with
  | zero => cases hpart
  | succ rounds ih =>
    unfold chunks at hpart
    split at hpart
    · cases hpart
    · rcases List.mem_cons.mp hpart with rfl | hpart
      · exact List.mem_of_mem_take hx
      · exact List.mem_of_mem_drop (ih hpart)

/-- The letters of an index over the items stay as they are in upper case. -/
theorem upperCased_of_mem_lettersOf (hbuild : LocalIndex.build scene e place = .ok index) {c : Char}
    (hc : c ∈ lettersOf index) : Text.upperCased (String.ofList [c]) = String.ofList [c] := by
  have hvalues := LocalIndex.evaluates_of_build hbuild
  obtain ⟨values, hbuild', hplaced⟩ := LocalIndex.build_ofItems place hvalues
  obtain rfl := Except.ok.inj (hbuild.symm.trans hbuild')
  obtain ⟨x, -, found, -, v, -, hhead⟩ := (mem_lettersOf_ofItems hvalues hplaced).mp hc
  exact Text.upperCased_letter (List.mem_of_head? hhead)

/-- The ends of buckets over an index of the items stay as they are in upper case. -/
theorem upperCased_ends (hbuild : LocalIndex.build scene e place = .ok index) {items : KeySet}
    {b : Bucket} (hb : b ∈ f.bucketsOf index items) : ∃ low high, b.low = .text low ∧
      b.high = .text high ∧ Text.upperCased low = low ∧ Text.upperCased high = high := by
  obtain ⟨part, hpart, hbucket⟩ := List.mem_filterMap.mp hb
  have hletter {c : Char} (hc : c ∈ part) :=
    upperCased_of_mem_lettersOf hbuild (mem_of_mem_chunks hpart hc)
  split at hbucket
  next first last hfirst hlast =>
    obtain rfl := Option.some.inj hbucket
    exact ⟨_, _, rfl, rfl, hletter (List.mem_of_head? hfirst), hletter (List.mem_of_getLast? hlast)⟩
  next => cases hbucket

/-- So do those of the buckets that are shown, if the index that is kept is true. -/
theorem upperCased_of_update {items : KeySet} (hcurrent : ∀ e index, f.expression = some e →
      f.index = some index → LocalIndex.build scene e place = .ok index)
    (hupdate : (f.update scene items).1 = .ok ()) {b : Bucket}
    (hb : b ∈ (f.update scene items).2.buckets) : ∃ low high, b.low = .text low ∧
      b.high = .text high ∧ Text.upperCased low = low ∧ Text.upperCased high = high := by
  cases he : f.expression with
  | none =>
    unfold update at hb
    rw [show ({ f with buckets := [] } : AlphaRangeFacet).expression = none from he] at hb
    cases hb
  | some e =>
    cases hbuild : LocalIndex.build scene e place with
    | ok index =>
      rw [update_eq he (fun kept hkept => hcurrent e kept he hkept) hbuild] at hb
      exact upperCased_ends hbuild hb
    | error failure =>
      -- nothing can be kept then, so counting has failed
      have hindex : f.index = none := Option.eq_none_iff_forall_ne_some.mpr fun kept hkept => by
        have hbuilt := hcurrent e kept he hkept
        rw [hbuild] at hbuilt
        cases hbuilt
      simp [update, he, hindex, LocalIndex.get, hbuild] at hupdate

end AlphaRangeFacet

/-! ## 5. Runs of clicks -/

/-- A change that clicks an entry, or selects or deselects one. -/
def Change.IsClick : Change → Prop
  | .toggleValue _ _ => True
  | .select _ _ => True
  | .toggleNumbers _ _ _ => True
  | .setNumbers _ _ _ => True
  | .toggleLetters _ _ _ => True
  | _ => False

namespace Facet

variable {scene : Scene} {f g : Facet} {change : Change} {e : Mark} {only : Bool}

/-- Nothing is selected in a facet of ranges; lists and clouds may have any selection. -/
def StartsBare : Facet → Prop
  | .list _ => True
  | .cloud _ => True
  | .numericRange f => f.chosen = []
  | .alphaRange f => f.chosen = []
  | _ => False

theorem StartsBare.holdsSet (h : f.StartsBare) : f.HoldsSet := by
  cases f with
  | numericRange f => exact RangeChoice.distinct_of_eq_nil h
  | alphaRange f => exact RangeChoice.distinct_of_eq_nil h
  | _ => exact h

/-- Any click, also one that is meant for a facet of another kind, leaves a set. -/
theorem HoldsSet.perform (hg : g.HoldsSet) (hclick : change.IsClick) :
    (g.perform scene change).2.HoldsSet := by
  cases g <;> cases change <;> first | exact hclick.elim | exact hg | skip
  case numericRange.toggleNumbers f low high only => exact RangeChoice.Distinct.toggle hg _ only
  case numericRange.setNumbers f low high selected => exact RangeChoice.Distinct.set hg _ selected
  case alphaRange.toggleLetters f low high only => exact RangeChoice.Distinct.toggle hg _ only

/-- What becomes of the facet by clicks, each over the items of its moment. -/
def clickAll (f : Facet) (clicks : List (Scene × Change)) : Facet :=
  clicks.foldl (fun f click => (f.perform click.1 click.2).2) f

theorem HoldsSet.clickAll (hf : f.HoldsSet) {clicks : List (Scene × Change)}
    (hclicks : ∀ click ∈ clicks, click.2.IsClick) : (f.clickAll clicks).HoldsSet := by
  induction clicks generalizing f with
  | nil => exact hf
  | cons click clicks ih =>
    exact ih (hf.perform (hclicks click List.mem_cons_self))
      fun later hlater => hclicks later (List.mem_cons_of_mem click hlater)

/-- The entries that the facet shows. -/
def shownMarks : Facet → List Mark
  | .list f => f.entries.map fun entry => .value entry.value
  | .cloud f => f.cloud.map fun shown => .value shown.entry.value
  | .numericRange f => f.buckets.map fun b => .range ⟨b.low, b.high⟩
  | .alphaRange f => f.buckets.map fun b => .range ⟨b.low, b.high⟩
  | _ => []

/-- **A click on an entry that is shown means that entry**, if what the facet keeps about the items is
    true: buckets of numbers have numbers at their ends, and buckets of letters have letters that stay as
    they are in upper case. -/
theorem target_of_shown {items : KeySet} (hkeeps : f.KeepsTrue scene)
    (hupdate : (f.update scene items).1 = .ok ()) (he : e ∈ (f.update scene items).2.1.shownMarks)
    (only : Bool) :
    ∃ change, e.click only = some change ∧
      (f.update scene items).2.1.target change = some (e, only) := by
  cases f with
  | list f =>
    obtain ⟨entry, -, rfl⟩ := List.mem_map.mp he
    exact ⟨_, rfl, rfl⟩
  | cloud f =>
    obtain ⟨shown, -, rfl⟩ := List.mem_map.mp he
    exact ⟨_, rfl, rfl⟩
  | numericRange f =>
    have hupdate : f.update scene items =
        (.ok (), (f.update scene items).2.1, (f.update scene items).2.2) := Prod.ext hupdate rfl
    obtain ⟨b, hb, rfl⟩ := List.mem_map.mp he
    obtain ⟨-, low, high, -, hlow, hhigh, -⟩ := NumericRangeFacet.held_of_update hupdate b hb
    rw [hlow, hhigh]
    exact ⟨_, rfl, rfl⟩
  | alphaRange f =>
    have hcurrent (e : Expression) (index : RangeIndex) (hexpression : f.expression = some e)
        (hindex : f.index = some index) :
        LocalIndex.build scene e AlphaRangeFacet.place = .ok index := by
      have hmemo := hkeeps (.index index) (congrArg (Option.map Memo.index) hindex)
      simp only [memoFor, hexpression, Option.map_some, Option.some.injEq] at hmemo
      cases hbuild : LocalIndex.build scene e AlphaRangeFacet.place with
      | error failure =>
        rw [hbuild] at hmemo
        cases hmemo
      | ok built =>
        rw [hbuild] at hmemo
        rw [Memo.index.inj (Except.ok.inj hmemo)]
    obtain ⟨b, hb, rfl⟩ := List.mem_map.mp he
    obtain ⟨low, high, hlow, hhigh, hupper, hupper'⟩ :=
      AlphaRangeFacet.upperCased_of_update hcurrent hupdate hb
    refine ⟨.toggleLetters low high only, by rw [hlow, hhigh]; rfl, ?_⟩
    show some (Mark.range ⟨.text (Text.upperCased low), .text (Text.upperCased high)⟩, only) = _
    rw [hupper, hupper', hlow, hhigh]
  | _ => cases he

/-- **Clicks follow one model of sets**, in lists and clouds with any selection, and in facets of numbers
    or letters that clicks have brought from no selection to any other. The next click flips its entry
    or makes it the only one, if it was that already nothing is left, and the rest of the facet is as it
    was. It says that something changed, and the exported state is another one. A second click that
    flips the same entry restores the state. Every entry that is shown can be clicked, by the change
    with its own value or ends. -/
theorem clicks_follow_sets :
    (∀ (f g : Facet) (clicks : List (Scene × Change)), f.StartsBare →
      (∀ click ∈ clicks, click.2.IsClick) → f.clickAll clicks = g →
      ∀ (scene : Scene) (change : Change) (e : Mark) (only : Bool) (answer : Outcome Bool) (h : Facet),
        g.target change = some (e, only) → g.perform scene change = (answer, h) →
        answer = .ok true ∧ h.clear.2 = g.clear.2 ∧ Clicked g.marked h.marked e only ∧
        h.exportState.same g.exportState = false ∧
        (only = false → ∀ (scene' : Scene) (change' : Change) (e' : Mark),
          h.target change' = some (e', false) → e'.same e = true →
          (h.perform scene' change').2.exportState.same g.exportState = true)) ∧
    ∀ (f : Facet) (scene : Scene) (items : KeySet), f.KeepsTrue scene →
      (f.update scene items).1 = .ok () → ∀ e ∈ (f.update scene items).2.1.shownMarks, ∀ only,
        ∃ change, e.click only = some change ∧
          (f.update scene items).2.1.target change = some (e, only) := by
  refine ⟨?_, fun f scene items hkeeps hupdate e he only => target_of_shown hkeeps hupdate he only⟩
  rintro f g clicks hbare hclicks rfl scene change e only answer h htarget hperform
  have hg := hbare.holdsSet.clickAll hclicks
  have hclick := clicked_perform scene hg htarget
  rw [hperform] at hclick
  obtain ⟨htold, hrest, hh, hclicked⟩ := hclick
  refine ⟨htold, hrest, hclicked, Bool.eq_false_iff.mpr fun hsame => ?_, ?_⟩
  · exact hclicked.changes ((exportState_same_iff hh hg hrest).mp hsame)
  · rintro rfl scene' change' e' htarget' hsame
    obtain ⟨-, hrest', hk, hagain⟩ := clicked_perform scene' hh htarget'
    exact (exportState_same_iff hk hg (hrest'.trans hrest)).mpr fun m =>
      hclicked.again hagain hsame m

/-- Letters without anything selected. -/
def noLetters : Facet := .alphaRange (AlphaRangeFacet.new "letters" none 3)

/-- Clicks on the buckets from A to C and from D to F. -/
def twoBuckets : List (Scene × Change) :=
  [(AlphaRangeFacet.lastNamed, .toggleLetters "A" "C" false),
    (AlphaRangeFacet.lastNamed, .toggleLetters "D" "F" false)]

/-- The facet of letters over the item that is named by the last character of all, after counting. -/
def lettersShown : Outcome Unit × Facet × Store :=
  (Facet.alphaRange AlphaRangeFacet.newLetters).update AlphaRangeFacet.lastNamed
    AlphaRangeFacet.lastNamed.allItems

/-- With two buckets of letters selected, a click on the first one with small letters takes it away, and
    one with capitals brings it back. The bucket of the only item that there is can be clicked. -/
theorem clicks_on_letters :
    (noLetters.StartsBare ∧ (∀ click ∈ twoBuckets, click.2.IsClick) ∧
      (noLetters.clickAll twoBuckets).target (.toggleLetters "a" "c" false) =
        some (.range ⟨.text (Text.upperCased "a"), .text (Text.upperCased "c")⟩, false)) ∧
    (∃ h, (noLetters.clickAll twoBuckets).perform AlphaRangeFacet.lastNamed
        (.toggleLetters "a" "c" false) = (.ok true, h) ∧
      h.exportState.same (noLetters.clickAll twoBuckets).exportState = false ∧
      (h.perform AlphaRangeFacet.lastNamed (.toggleLetters "A" "C" false)).2.exportState.same
        (noLetters.clickAll twoBuckets).exportState = true) ∧
    (Facet.alphaRange AlphaRangeFacet.newLetters).KeepsTrue AlphaRangeFacet.lastNamed ∧
      lettersShown.1 = .ok () ∧ ∃ e ∈ lettersShown.2.1.shownMarks, ∃ change,
        e.click true = some change ∧ lettersShown.2.1.target change = some (e, true) := by
  have hbare : noLetters.StartsBare := rfl
  have hclicks : ∀ click ∈ twoBuckets, click.2.IsClick := by
    intro click hclick
    rcases List.mem_cons.mp hclick with rfl | hclick
    · trivial
    · obtain rfl := List.mem_singleton.mp hclick
      trivial
  have hkeeps : (Facet.alphaRange AlphaRangeFacet.newLetters).KeepsTrue AlphaRangeFacet.lastNamed :=
    keepsTrue_of_memo_eq_none rfl
  have hupdate : lettersShown.1 = .ok () := rfl
  have hshown : 0 < lettersShown.2.1.shownMarks.length := by decide +kernel
  obtain ⟨htold, -, -, hchanged, hagain⟩ := clicks_follow_sets.1 noLetters _ twoBuckets hbare hclicks rfl
    AlphaRangeFacet.lastNamed (.toggleLetters "a" "c" false) _ false _ _ rfl rfl
  refine ⟨⟨hbare, hclicks, rfl⟩, ⟨_, Prod.ext htold rfl, hchanged, ?_⟩, hkeeps, hupdate, _,
    List.getElem_mem hshown, ?_⟩
  · exact hagain rfl AlphaRangeFacet.lastNamed (.toggleLetters "A" "C" false) _ rfl (by decide +kernel)
  · exact clicks_follow_sets.2 (.alphaRange AlphaRangeFacet.newLetters) AlphaRangeFacet.lastNamed
      AlphaRangeFacet.lastNamed.allItems hkeeps hupdate _ (List.getElem_mem hshown) true

end Facet

end Faceted
