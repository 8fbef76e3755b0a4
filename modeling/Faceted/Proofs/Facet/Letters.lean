import Faceted.Facet.AlphaRange
import Faceted.Proofs.Store.Scanning
import Mathlib.Data.Char
import Mathlib.Data.List.Pairwise

/-!
# Letters in order

An index of texts is in the order of the texts, so it is in the order of their first letters. The
distinct letters stand in it one after the other, and cutting them into parts makes buckets that do not
overlap.

* `isWithin_letters_iff`: a value lies between two letters iff its first letter does;
* `lt_endChar_iff`: what the end of a bucket's range means for a letter. It is the character after the
  last letter, if there is one;
* `pairwise_lettersOf`: the letters of a sorted index ascend;
* **`countP_spans_bucketsOf`**: each of them is in one bucket.
-/

namespace Faceted.AlphaRangeFacet

/-! ## 1. Texts and letters -/

/-- A text comes before a letter iff its first letter does. -/
theorem lt_letter_iff (s : String) (d : Char) :
    s < String.ofList [d] ↔ ∀ c, s.toList.head? = some c → c < d := by
  rw [String.lt_iff, String.toList_ofList]
  cases s.toList with
  | nil => simp
  | cons c cs => simp [List.cons_lt_cons_iff]

/-- A value lies between two letters, the second excluded, iff it is a text whose first letter does. -/
theorem isWithin_letters_iff (v : RangeValue) (first d : Char) :
    v.isWithin (letterValue first) (letterValue d) false = true ↔
      ∃ c, letter? v = some c ∧ first ≤ c ∧ c < d := by
  cases v with
  | number x => simp [RangeValue.isWithin, letterValue, RangeValue.before, letter?]
  | text s =>
    simp only [RangeValue.isWithin, letterValue, RangeValue.before, letter?, Bool.false_and,
      Bool.or_false, Bool.and_eq_true, Bool.not_eq_true', decide_eq_true_eq,
      decide_eq_false_iff_not, lt_letter_iff]
    cases s.toList.head? <;> simp

/-! ## 2. The end of a bucket -/

/-- The last character before the surrogates. -/
def beforeSurrogates : Char := Char.ofNat 0xD7FF

theorem le_lastChar (c : Char) : c ≤ lastChar := by
  have hvalid : c.toNat.isValidChar := c.valid
  have hlast : lastChar.toNat = 0x10FFFF := rfl
  show c.toNat ≤ lastChar.toNat
  unfold Nat.isValidChar at hvalid
  omega

/-- The character at which the range of a bucket ends. -/
def endChar (last : Char) : Char := (nextChar? last).getD lastChar

theorem endAfter_letterValue (last : Char) : endAfter (letterValue last) = letterValue (endChar last) := by
  simp [endAfter, endChar, letterValue, letter?]

/-- There are two characters without a next one. -/
theorem isValidChar_succ_iff (c : Char) :
    (c.toNat + 1).isValidChar ↔ ¬ (c = beforeSurrogates ∨ c = lastChar) := by
  have hvalid : c.toNat.isValidChar := c.valid
  have hedge : c = beforeSurrogates ↔ c.toNat = 0xD7FF := by
    rw [← Char.toNat_inj]
    rfl
  have hlast : c = lastChar ↔ c.toNat = 0x10FFFF := by
    rw [← Char.toNat_inj]
    rfl
  rw [hedge, hlast]
  unfold Nat.isValidChar at *
  omega

/-- **Which letters come before the end**: those up to the last letter of the bucket, if a character
    follows it; and if none does, all but the last character of all. -/
theorem lt_endChar_iff (c last : Char) :
    c < endChar last ↔
      if last = beforeSurrogates ∨ last = lastChar then c < lastChar else c ≤ last := by
  unfold endChar nextChar?
  by_cases hnext : (last.toNat + 1).isValidChar
  · rw [dif_pos hnext, if_neg ((isValidChar_succ_iff last).mp hnext), Option.getD_some]
    show c.toNat < last.toNat + 1 ↔ c.toNat ≤ last.toNat
    omega
  · rw [dif_neg hnext, if_pos (not_not.mp (mt (isValidChar_succ_iff last).mpr hnext)),
      Option.getD_none]

/-! ## 3. The letters of an index -/

section Repetitions

variable {α : Type}

theorem eraseRepsBy_loop (r : α → α → Bool) (a : α) (xs acc : List α) :
    List.eraseRepsBy.loop r a xs acc = acc.reverse ++ List.eraseRepsBy.loop r a xs [] := by
  induction xs generalizing a acc with
  | nil => simp [List.eraseRepsBy.loop]
  | cons b xs ih =>
    unfold List.eraseRepsBy.loop
    split
    · exact ih a acc
    · rw [ih b (a :: acc), ih b [a]]
      simp

/-- Of two equal neighbours the first stays. -/
theorem eraseReps_cons_cons [DecidableEq α] (a b : α) (xs : List α) :
    (a :: b :: xs).eraseReps =
      if a = b then (a :: xs).eraseReps else a :: (b :: xs).eraseReps := by
  show List.eraseRepsBy.loop (· == ·) a (b :: xs) [] = _
  unfold List.eraseRepsBy.loop
  by_cases h : a = b
  · rw [if_pos h, beq_iff_eq.mpr h]
    rfl
  · rw [if_neg h, beq_eq_false_iff_ne.mpr h]
    exact eraseRepsBy_loop _ b xs [a]

theorem mem_eraseReps [DecidableEq α] {xs : List α} {c : α} : c ∈ xs.eraseReps ↔ c ∈ xs := by
  match xs with
  | [] => exact Iff.rfl
  | [a] => exact Iff.rfl
  | a :: b :: xs =>
    rw [eraseReps_cons_cons]
    split
    · next h => rw [mem_eraseReps, h, List.mem_cons, List.mem_cons, List.mem_cons, or_self_left]
    · rw [List.mem_cons, mem_eraseReps, ← List.mem_cons]

/-- Without repetitions, what does not descend ascends. -/
theorem pairwise_eraseReps {xs : List Char} (h : xs.Pairwise (· ≤ ·)) :
    xs.eraseReps.Pairwise (· < ·) := by
  match xs with
  | [] => exact List.Pairwise.nil
  | [a] => exact List.pairwise_singleton _ a
  | a :: b :: xs =>
    obtain ⟨ha, hrest⟩ := List.pairwise_cons.mp h
    rw [eraseReps_cons_cons]
    split
    · next hab =>
      refine pairwise_eraseReps (List.pairwise_cons.mpr ⟨fun c hc => ?_, ?_⟩)
      · exact ha c (List.mem_cons_of_mem b hc)
      · exact (List.pairwise_cons.mp hrest).2
    · next hab =>
      refine List.pairwise_cons.mpr ⟨fun c hc => ?_, pairwise_eraseReps hrest⟩
      -- What comes later is no less than `b`, which is more than `a`.
      have hlt : a < b := lt_of_le_of_ne (ha b List.mem_cons_self) hab
      rcases List.mem_cons.mp (mem_eraseReps.mp hc) with rfl | hc
      · exact hlt
      · exact lt_of_lt_of_le hlt ((List.pairwise_cons.mp hrest).1 c hc)

end Repetitions

/-- Only texts have letters. -/
theorem letter?_eq_some_iff {v : RangeValue} {c : Char} :
    letter? v = some c ↔ ∃ s cs, v = .text s ∧ s.toList = c :: cs := by
  cases v with
  | number x => simp [letter?]
  | text t => simp [letter?, List.head?_eq_some_iff]

/-- Entries in order have first letters in order. -/
theorem letter_le {a b : RangeEntry} (h : a.le b = true) {c d : Char}
    (hc : letter? a.value = some c) (hd : letter? b.value = some d) : c ≤ d := by
  obtain ⟨s, cs, ha, hs⟩ := letter?_eq_some_iff.mp hc
  obtain ⟨t, ds, hb, ht⟩ := letter?_eq_some_iff.mp hd
  rw [RangeEntry.le_iff, ha, hb] at h
  rcases h with hbefore | ⟨hsame, -⟩
  · have hlt : s < t := of_decide_eq_true hbefore
    rw [String.lt_iff, hs, ht, List.cons_lt_cons_iff] at hlt
    exact hlt.elim le_of_lt fun heq => le_of_eq heq.1
  · obtain rfl : s = t := beq_iff_eq.mp hsame
    exact le_of_eq (List.cons.inj (hs.symm.trans ht)).1

theorem mem_lettersOf {index : RangeIndex} {c : Char} :
    c ∈ lettersOf index ↔ ∃ e ∈ index.entries, letter? e.value = some c := by
  rw [lettersOf, mem_eraseReps, List.mem_filterMap]

/-- **The letters of a sorted index ascend.** -/
theorem pairwise_lettersOf {index : RangeIndex} (h : index.IsSorted) :
    (lettersOf index).Pairwise (· < ·) :=
  pairwise_eraseReps (List.pairwise_filterMap.mpr
    (h.imp fun hle _ hc _ hd => letter_le hle hc hd))

/-! ## 4. Parts -/

section Parts

variable {α : Type}

theorem flatten_chunks {n rounds : Nat} (xs : List α) (hn : 1 ≤ n) (h : xs.length ≤ rounds) :
    (chunks n rounds xs).flatten = xs := by
  induction rounds generalizing xs with
  | zero => exact (List.length_eq_zero_iff.mp (Nat.le_zero.mp h)).symm
  | succ rounds ih =>
    unfold chunks
    cases xs with
    | nil => rfl
    | cons x xs =>
      have hlength : ((x :: xs).drop n).length ≤ rounds := by
        rw [List.length_drop]
        omega
      rw [if_neg (by simp), List.flatten_cons, ih _ hlength, List.take_append_drop]

theorem ne_nil_of_mem_chunks {n rounds : Nat} {xs part : List α} (hn : 1 ≤ n)
    (h : part ∈ chunks n rounds xs) : part ≠ [] := by
  induction rounds generalizing xs with
  | zero => cases h
  | succ rounds ih =>
    unfold chunks at h
    cases xs with
    | nil => cases h
    | cons x xs =>
      rw [if_neg (by simp)] at h
      rcases List.mem_cons.mp h with rfl | h
      · simp only [ne_eq, List.take_eq_nil_iff, reduceCtorEq, or_false]
        omega
      · exact ih h

end Parts

/-- Does the part go from its first to its last letter past this one? -/
def partSpans (c : Char) (part : List Char) : Bool :=
  match part.head?, part.getLast? with
  | some first, some last => decide (first ≤ c ∧ c ≤ last)
  | _, _ => false

theorem partSpans_iff {c : Char} {part : List Char} :
    partSpans c part = true ↔ ∃ first last,
      part.head? = some first ∧ part.getLast? = some last ∧ first ≤ c ∧ c ≤ last := by
  unfold partSpans
  cases part.head? with
  | none => simp
  | some first => cases part.getLast? <;> simp

/-- A letter of an ascending part lies between its ends. -/
theorem partSpans_of_mem {c : Char} {part : List Char} (h : part.Pairwise (· < ·)) (hc : c ∈ part) :
    partSpans c part = true := by
  have hne := List.ne_nil_of_mem hc
  have hhead := List.head?_eq_some_head hne
  have hlast := List.getLast?_eq_some_getLast hne
  refine partSpans_iff.mpr ⟨_, _, hhead, hlast, ?_, ?_⟩
  · obtain ⟨rest, hpart⟩ := List.head?_eq_some_iff.mp hhead
    rw [hpart] at h hc
    rcases List.mem_cons.mp hc with heq | hc
    · exact le_of_eq heq.symm
    · exact le_of_lt ((List.pairwise_cons.mp h).1 c hc)
  · obtain ⟨front, hpart⟩ := List.getLast?_eq_some_iff.mp hlast
    rw [hpart] at h hc
    rcases List.mem_append.mp hc with hc | hc
    · exact le_of_lt ((List.pairwise_append.mp h).2.2 c hc _ (List.mem_singleton_self _))
    · exact le_of_eq (List.mem_singleton.mp hc)

/-- **Cut into parts, an ascending list has each letter between the ends of one part.** -/
theorem countP_partSpans {parts : List (List Char)} (h : parts.flatten.Pairwise (· < ·)) {c : Char}
    (hc : c ∈ parts.flatten) : parts.countP (partSpans c) = 1 := by
  induction parts with
  | nil => cases hc
  | cons part parts ih =>
    rw [List.flatten_cons] at h hc
    obtain ⟨hpart, hparts, hacross⟩ := List.pairwise_append.mp h
    rcases List.mem_append.mp hc with hc | hc
    · have hnone : parts.countP (partSpans c) = 0 := by
        refine List.countP_eq_zero.mpr fun other hother hspans => ?_
        obtain ⟨first, -, hfirst, -, hle, -⟩ := partSpans_iff.mp hspans
        have hmem : first ∈ parts.flatten :=
          List.mem_flatten.mpr ⟨other, hother, List.mem_of_mem_head? hfirst⟩
        exact absurd (hacross c hc first hmem) (not_lt_of_ge hle)
      rw [List.countP_cons_of_pos (partSpans_of_mem hpart hc), hnone]
    · have hnot : ¬ partSpans c part = true := by
        intro hspans
        obtain ⟨-, last, -, hlast, -, hle⟩ := partSpans_iff.mp hspans
        exact absurd (hacross last (List.mem_of_mem_getLast? hlast) c hc) (not_lt_of_ge hle)
      rw [List.countP_cons_of_neg hnot, ih hparts hc]

/-! ## 5. Buckets -/

/-- Does the letter lie between the two letters of the bucket, both included? -/
def spans (b : Bucket) (c : Char) : Bool :=
  match letter? b.low, letter? b.high with
  | some first, some last => decide (first ≤ c ∧ c ≤ last)
  | _, _ => false

theorem letter?_letterValue (c : Char) : letter? (letterValue c) = some c := by
  simp [letter?, letterValue]

theorem spans_iff {b : Bucket} {first last c : Char} (hlow : b.low = letterValue first)
    (hhigh : b.high = letterValue last) : spans b c = true ↔ first ≤ c ∧ c ≤ last := by
  simp only [spans, hlow, hhigh, letter?_letterValue, decide_eq_true_eq]

variable {f : AlphaRangeFacet} {index : RangeIndex} {items : KeySet}

/-- **Each letter of the index lies in one bucket.** -/
theorem countP_spans_bucketsOf (hindex : index.IsSorted) (hinterval : 1 ≤ f.interval) {c : Char}
    (hc : c ∈ lettersOf index) : (f.bucketsOf index items).countP (fun b => spans b c) = 1 := by
  have hflatten := flatten_chunks (lettersOf index) hinterval (le_refl _)
  unfold bucketsOf
  dsimp only
  rw [List.countP_filterMap, ← countP_partSpans (hflatten.symm ▸ pairwise_lettersOf hindex)
    (hflatten.symm ▸ hc)]
  refine List.countP_congr fun part _ => ?_
  unfold partSpans
  cases part.head? with
  | none => simp
  | some first =>
    cases part.getLast? with
    | none => simp
    | some last => simp [spans_iff (b := f.bucketOf index items first last) rfl rfl]

/-- Every bucket goes from a letter to one that is no less. -/
theorem exists_of_mem_bucketsOf (hindex : index.IsSorted) (hinterval : 1 ≤ f.interval) {b : Bucket}
    (hb : b ∈ f.bucketsOf index items) :
    ∃ first last, b = f.bucketOf index items first last ∧ first ≤ last := by
  obtain ⟨part, hpart, hbucket⟩ := List.mem_filterMap.mp hb
  have hflatten := flatten_chunks (lettersOf index) hinterval (le_refl _)
  have hascending : part.Pairwise (· < ·) :=
    (hflatten.symm ▸ pairwise_lettersOf hindex).sublist (List.sublist_flatten_of_mem hpart)
  have hne := ne_nil_of_mem_chunks hinterval hpart
  obtain ⟨first, last, hfirst, hlast, hle, hle'⟩ :=
    partSpans_iff.mp (partSpans_of_mem hascending (List.head_mem hne))
  rw [hfirst, hlast] at hbucket
  exact ⟨first, last, (Option.some.inj hbucket).symm, le_trans hle hle'⟩

end Faceted.AlphaRangeFacet
