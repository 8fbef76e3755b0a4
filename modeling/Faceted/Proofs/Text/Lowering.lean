import Faceted.Text.Case
import Mathlib.Data.List.Chain
import Mathlib.Data.List.Infix

/-!
# Lower case in context, and upper case

Lower-casing a part of a text is not a part of lower-casing the text: whether a capital sigma becomes a
final one depends on the letters around it, and these may stand outside the part.

* `lowerWithin`: a text in lower case where it stands; `toLowerAfter_append` puts the parts together;
* `lowerWithin_eq_iff`: two places give the same iff every capital sigma ends a word in both or in
  neither, so **`lowerWithin_eq_toLower_iff`**: a place gives what the text gives alone iff the text
  `StandsAlike` there;
* `SigmasDecided`: the text has letters enough around its capital sigmas. It is a condition on the text
  alone, and **`standsAlike_of_decided`**: then the text stands alike everywhere;
* **`exists_not_occurs`**: else one more letter in front or behind hides it;
* **`upperChar_of_mem`**: upper case depends on no context, and what is in upper case stays as it is.
-/

namespace Faceted.Text

/-! ## 1. Letters around a place -/

/-- Is the character passed over when a cased one is looked for? -/
def isPassedOver (c : Char) : Bool := inRanges caseIgnorableRanges c

/-- Does a capital sigma end a word here? `before` has the latest character first. -/
def endsWord (before after : List Char) : Bool := meetsCased before && !meetsCased after

theorem meetsCased_cons (c : Char) (cs : List Char) :
    meetsCased (c :: cs) = if isPassedOver c then meetsCased cs else inRanges casedRanges c := by
  unfold meetsCased isPassedOver
  by_cases hc : inRanges caseIgnorableRanges c = true
  · rw [List.dropWhile_cons_of_pos hc, if_pos hc]
  · rw [List.dropWhile_cons_of_neg hc, if_neg hc]

theorem meetsCased_append_of_all {xs : List Char} (h : xs.all isPassedOver = true)
    (ys : List Char) : meetsCased (xs ++ ys) = meetsCased ys := by
  induction xs with
  | nil => rfl
  | cons x xs ih =>
    obtain ⟨hx, hxs⟩ := Bool.and_eq_true_iff.mp h
    rw [List.cons_append, meetsCased_cons, if_pos hx, ih hxs]

theorem meetsCased_of_all {xs : List Char} (h : xs.all isPassedOver = true) :
    meetsCased xs = false := by
  have hnil := meetsCased_append_of_all h []
  rw [List.append_nil] at hnil
  exact hnil

/-- Behind the first character that counts, nothing does. -/
theorem meetsCased_append_of_not_all {xs : List Char} (h : xs.all isPassedOver = false)
    (ys : List Char) : meetsCased (xs ++ ys) = meetsCased xs := by
  induction xs with
  | nil => cases h
  | cons x xs ih =>
    rw [List.cons_append, meetsCased_cons, meetsCased_cons]
    by_cases hx : isPassedOver x = true
    · rw [List.all_cons, hx, Bool.true_and] at h
      rw [ih h]
    · rw [if_neg hx, if_neg hx]

/-! ## 2. A text where it stands -/

/-- What a character becomes between others. -/
def lowerBetween (before : List Char) (c : Char) (after : List Char) : List Char :=
  if c = capitalSigma then if endsWord before after then ['ς'] else ['σ'] else lowerChar c

/-- The text in lower case where it stands. -/
def lowerWithin (before after : List Char) : List Char → List Char
  | [] => []
  | c :: cs => lowerBetween before c (cs ++ after) ++ lowerWithin (c :: before) after cs

theorem toLowerAfter_append (before xs ys : List Char) :
    toLowerAfter before (xs ++ ys) =
      lowerWithin before ys xs ++ toLowerAfter (xs.reverse ++ before) ys := by
  induction xs generalizing before with
  | nil => rfl
  | cons x xs ih =>
    show lowerBetween before x (xs ++ ys) ++ toLowerAfter (x :: before) (xs ++ ys) = _
    rw [ih, lowerWithin, List.append_assoc, List.reverse_cons, List.append_assoc]
    rfl

theorem toLower_eq_lowerWithin (cs : List Char) : toLower cs = lowerWithin [] [] cs := by
  have happend := toLowerAfter_append [] cs []
  rw [List.append_nil] at happend
  exact happend.trans (List.append_nil _)

/-- A text occurs, as it is where it stands, in the lower case of the whole. -/
theorem lowerWithin_occurs (before cs after : List Char) :
    lowerWithin before.reverse after cs <:+: toLower (before ++ cs ++ after) := by
  refine ⟨lowerWithin [] (cs ++ after) before,
    toLowerAfter (cs.reverse ++ before.reverse) after, ?_⟩
  unfold toLower
  rw [List.append_assoc before, toLowerAfter_append, toLowerAfter_append, List.append_nil,
    List.append_assoc]

/-! ## 3. Comparing places -/

/-- Whatever stands around a character, its image is as long. -/
theorem length_lowerBetween (before after before' after' : List Char) (c : Char) :
    (lowerBetween before c after).length = (lowerBetween before' c after').length := by
  unfold lowerBetween
  split
  · split <;> split <;> rfl
  · rfl

theorem length_lowerWithin (before after before' after' cs : List Char) :
    (lowerWithin before after cs).length = (lowerWithin before' after' cs).length := by
  induction cs generalizing before before' with
  | nil => rfl
  | cons c cs ih =>
    rw [lowerWithin, lowerWithin, List.length_append, List.length_append, ih,
      length_lowerBetween before (cs ++ after) before' (cs ++ after')]

/-- A character is the same in two places iff it is no capital sigma or one that ends a word in both or
    in neither. -/
theorem lowerBetween_eq_iff {before after before' after' : List Char} {c : Char} :
    lowerBetween before c after = lowerBetween before' c after' ↔
      (c = capitalSigma → endsWord before after = endsWord before' after') := by
  unfold lowerBetween
  by_cases hc : c = capitalSigma
  · cases h : endsWord before after <;> cases h' : endsWord before' after' <;> simp [hc]
  · simp [hc]

/-- The capital sigmas of the text end words in both places or in neither. -/
def AgreeOnSigmas (before after before' after' cs : List Char) : Prop :=
  ∀ xs ys, cs = xs ++ capitalSigma :: ys →
    endsWord (xs.reverse ++ before) (ys ++ after) = endsWord (xs.reverse ++ before') (ys ++ after')

theorem agreeOnSigmas_cons {before after before' after' : List Char} {c : Char} {cs : List Char} :
    AgreeOnSigmas before after before' after' (c :: cs) ↔
      (c = capitalSigma → endsWord before (cs ++ after) = endsWord before' (cs ++ after')) ∧
        AgreeOnSigmas (c :: before) after (c :: before') after' cs := by
  constructor
  · refine fun h => ⟨fun hc => h [] cs (hc ▸ rfl), fun xs ys hcs => ?_⟩
    have hplace := h (c :: xs) ys (congrArg (c :: ·) hcs)
    simpa only [List.reverse_cons, List.append_assoc, List.singleton_append] using hplace
  · rintro ⟨hfirst, hrest⟩ xs ys hcs
    cases xs with
    | nil =>
      obtain ⟨rfl, rfl⟩ := List.cons.inj hcs
      exact hfirst rfl
    | cons x xs =>
      obtain ⟨rfl, htail⟩ := List.cons.inj hcs
      simpa only [List.reverse_cons, List.append_assoc, List.singleton_append] using
        hrest xs ys htail

/-- **Two places give the same** iff the capital sigmas agree there. -/
theorem lowerWithin_eq_iff {before after before' after' cs : List Char} :
    lowerWithin before after cs = lowerWithin before' after' cs ↔
      AgreeOnSigmas before after before' after' cs := by
  induction cs generalizing before before' with
  | nil => exact ⟨fun _ xs ys h => by simp at h, fun _ => rfl⟩
  | cons c cs ih =>
    rw [agreeOnSigmas_cons, ← ih, ← lowerBetween_eq_iff, lowerWithin, lowerWithin]
    constructor
    · exact fun h => List.append_inj h (length_lowerBetween _ _ _ _ _)
    · rintro ⟨hfirst, hrest⟩
      rw [hfirst, hrest]

/-- Between these texts, the capital sigmas end words where they do in the text alone. -/
def StandsAlike (before cs after : List Char) : Prop := AgreeOnSigmas before.reverse after [] [] cs

/-- **A text is in lower case as it is alone** iff it stands alike. -/
theorem lowerWithin_eq_toLower_iff {before cs after : List Char} :
    lowerWithin before.reverse after cs = toLower cs ↔ StandsAlike before cs after := by
  rw [toLower_eq_lowerWithin]
  exact lowerWithin_eq_iff

/-- What stands alike is found in lower case. -/
theorem StandsAlike.occurs {before cs after : List Char} (h : StandsAlike before cs after) :
    toLower cs <:+: toLower (before ++ cs ++ after) := by
  rw [← lowerWithin_eq_toLower_iff.mpr h]
  exact lowerWithin_occurs before cs after

/-! ## 4. Texts that stand alike everywhere -/

/-- Around each capital sigma the text has what decides whether it ends a word: if nothing before it
    counts, a cased letter behind; and if nothing behind it counts, no cased letter before. -/
def SigmasDecided (cs : List Char) : Prop :=
  ∀ xs ys, cs = xs ++ capitalSigma :: ys →
    (xs.all isPassedOver = true → meetsCased ys = true) ∧
      (ys.all isPassedOver = true → meetsCased xs.reverse = false)

/-- A text without capital sigma leaves nothing to decide. -/
theorem sigmasDecided_of_not_mem {cs : List Char} (h : capitalSigma ∉ cs) : SigmasDecided cs := by
  rintro xs ys rfl
  exact absurd (List.mem_append_right xs List.mem_cons_self) h

/-- One capital sigma, and whether it is decided by what the text has around it. -/
theorem endsWord_eq_of_decided {xs ys : List Char}
    (hbefore : xs.all isPassedOver = true → meetsCased ys = true)
    (hafter : ys.all isPassedOver = true → meetsCased xs = false) (before after : List Char) :
    endsWord (xs ++ before) (ys ++ after) = endsWord xs ys := by
  unfold endsWord
  cases hxs : xs.all isPassedOver with
  | true =>
    -- A cased letter follows, so the sigma ends no word whatever stands before it.
    have hys : ys.all isPassedOver = false := by
      cases hall : ys.all isPassedOver with
      | false => rfl
      | true => exact absurd (hbefore hxs) (by rw [meetsCased_of_all hall]; decide)
    rw [meetsCased_append_of_not_all hys, hbefore hxs, Bool.not_true, Bool.and_false,
      Bool.and_false]
  | false =>
    rw [meetsCased_append_of_not_all hxs]
    cases hys : ys.all isPassedOver with
    | true => rw [hafter hys, Bool.false_and, Bool.false_and]
    | false => rw [meetsCased_append_of_not_all hys]

/-- **A text whose capital sigmas are decided stands alike everywhere.** -/
theorem standsAlike_of_decided {cs : List Char} (h : SigmasDecided cs) (before after : List Char) :
    StandsAlike before cs after := by
  intro xs ys hcs
  obtain ⟨hbefore, hafter⟩ := h xs ys hcs
  rw [List.append_nil, List.append_nil]
  exact endsWord_eq_of_decided (by rwa [List.all_reverse]) hafter before.reverse after

/-! ## 5. Texts that can be hidden -/

/-- A list in one that is one longer is all but its first element, or starts with it. -/
theorem eq_or_head?_of_infix_cons {α : Type} {w m : List α} {a : α} (h : w <:+: a :: m)
    (hlength : w.length = m.length) : w = m ∨ w.head? = some a := by
  rcases List.infix_cons_iff.mp h with hfront | hoccurs
  · cases w with
    | nil => exact .inl (List.length_eq_zero_iff.mp hlength.symm).symm
    | cons b w => exact .inr (congrArg some (List.cons_prefix_cons.mp hfront).1)
  · exact .inl (hoccurs.eq_of_length hlength)

/-- The same at the other end. -/
theorem eq_or_getLast?_of_infix_concat {α : Type} {w m : List α} {a : α} (h : w <:+: m ++ [a])
    (hlength : w.length = m.length) : w = m ∨ w.getLast? = some a := by
  have hreverse : w.reverse <:+: a :: m.reverse := by
    have hoccurs := List.reverse_infix.mpr h
    rwa [List.reverse_append] at hoccurs
  rcases eq_or_head?_of_infix_cons hreverse (by simpa using hlength) with heq | hhead
  · exact .inl (List.reverse_injective heq)
  · exact .inr (List.head?_reverse ▸ hhead)

/-- The character stays as it is in lower case, and is a letter that words are made of. -/
structure IsPlain (a : Char) : Prop where
  lowered : ∀ before after, lowerBetween before a after = [a]
  cased : ∀ cs, meetsCased (a :: cs) = true

theorem isPlain_of {a : Char} (ha : a ≠ capitalSigma) (hlower : lowerChar a = [a])
    (hcounts : isPassedOver a = false) (hcased : inRanges casedRanges a = true) : IsPlain a where
  lowered before after := by rw [lowerBetween, if_neg ha, hlower]
  cased cs := by rw [meetsCased_cons, hcounts, if_neg Bool.false_ne_true, hcased]

/-- There is more than one such letter. -/
theorem exists_plain (avoided : Option Char) : ∃ a, IsPlain a ∧ avoided ≠ some a := by
  by_cases h : avoided = some 'a'
  · refine ⟨'b', isPlain_of ?_ ?_ ?_ ?_, by rw [h]; decide⟩ <;> decide +kernel
  · refine ⟨'a', isPlain_of ?_ ?_ ?_ ?_, h⟩ <;> decide +kernel

namespace IsPlain

variable {a : Char} {cs xs ys : List Char}

/-- Found behind another letter than its first, a text stands there as it does alone. -/
theorem standsAlike_cons (ha : IsPlain a) (hne : (toLower cs).head? ≠ some a)
    (h : toLower cs <:+: toLower (a :: cs)) : StandsAlike [a] cs [] := by
  have hlowered : toLower (a :: cs) = a :: lowerWithin [a] [] cs := by
    rw [toLower_eq_lowerWithin, lowerWithin, ha.lowered]
    rfl
  have hlength : (toLower cs).length = (lowerWithin [a] [] cs).length := by
    rw [toLower_eq_lowerWithin]
    exact length_lowerWithin _ _ _ _ _
  rw [hlowered] at h
  refine lowerWithin_eq_toLower_iff.mp ?_
  exact ((eq_or_head?_of_infix_cons h hlength).resolve_right hne).symm

/-- The same in front of another letter than its last. -/
theorem standsAlike_concat (ha : IsPlain a) (hne : (toLower cs).getLast? ≠ some a)
    (h : toLower cs <:+: toLower (cs ++ [a])) : StandsAlike [] cs [a] := by
  have hlowered : toLower (cs ++ [a]) = lowerWithin [] [a] cs ++ [a] := by
    refine (toLowerAfter_append [] cs [a]).trans (congrArg _ ?_)
    show lowerBetween _ a [] ++ [] = [a]
    rw [ha.lowered, List.append_nil]
  have hlength : (toLower cs).length = (lowerWithin [] [a] cs).length := by
    rw [toLower_eq_lowerWithin]
    exact length_lowerWithin _ _ _ _ _
  rw [hlowered] at h
  refine lowerWithin_eq_toLower_iff.mp ?_
  exact ((eq_or_getLast?_of_infix_concat h hlength).resolve_right hne).symm

/-- A letter in front gives a sigma a word to end that has nothing before it that counts. -/
theorem not_standsAlike_cons (ha : IsPlain a) (hxs : xs.all isPassedOver = true)
    (hys : meetsCased ys = false) : ¬ StandsAlike [a] (xs ++ capitalSigma :: ys) [] := by
  intro h
  have hplace := h xs ys rfl
  have hrev : xs.reverse.all isPassedOver = true := by rwa [List.all_reverse]
  have hbefore : meetsCased (xs.reverse ++ [a].reverse) = true := by
    rw [meetsCased_append_of_all hrev]
    exact ha.cased []
  unfold endsWord at hplace
  rw [hbefore, List.append_nil, List.append_nil, meetsCased_of_all hrev, hys] at hplace
  exact absurd hplace (by decide)

/-- A letter behind goes on with a word that a sigma ends, if there is nothing between that counts. -/
theorem not_standsAlike_concat (ha : IsPlain a) (hys : ys.all isPassedOver = true)
    (hxs : meetsCased xs.reverse = true) : ¬ StandsAlike [] (xs ++ capitalSigma :: ys) [a] := by
  intro h
  have hplace := h xs ys rfl
  have hafter : meetsCased (ys ++ [a]) = true := by
    rw [meetsCased_append_of_all hys]
    exact ha.cased []
  unfold endsWord at hplace
  rw [hafter, List.reverse_nil, List.append_nil, List.append_nil, meetsCased_of_all hys, hxs] at hplace
  exact absurd hplace (by decide)

end IsPlain

/-- **A text with an undecided capital sigma can be hidden**: there is a text in which it occurs, but not
    with both in lower case. -/
theorem exists_not_occurs {cs : List Char} (h : ¬ SigmasDecided cs) :
    ∃ text, cs <:+: text ∧ ¬ toLower cs <:+: toLower text := by
  obtain ⟨xs, ys, rfl, hplace⟩ : ∃ xs ys, cs = xs ++ capitalSigma :: ys ∧
      ¬ ((xs.all isPassedOver = true → meetsCased ys = true) ∧
        (ys.all isPassedOver = true → meetsCased xs.reverse = false)) := by
    simpa only [SigmasDecided, not_forall, exists_prop] using h
  rcases not_and_or.mp hplace with hbefore | hafter
  · obtain ⟨hxs, hys⟩ := Classical.not_imp.mp hbefore
    obtain ⟨a, ha, hne⟩ := exists_plain (toLower (xs ++ capitalSigma :: ys)).head?
    refine ⟨a :: (xs ++ capitalSigma :: ys), List.infix_cons List.infix_rfl, fun hfound => ?_⟩
    exact ha.not_standsAlike_cons hxs (Bool.eq_false_iff.mpr hys)
      (ha.standsAlike_cons hne hfound)
  · obtain ⟨hys, hxs⟩ := Classical.not_imp.mp hafter
    obtain ⟨a, ha, hne⟩ := exists_plain (toLower (xs ++ capitalSigma :: ys)).getLast?
    refine ⟨xs ++ capitalSigma :: ys ++ [a], (List.prefix_append _ _).isInfix, fun hfound => ?_⟩
    exact ha.not_standsAlike_concat hys (by simpa using hxs)
      (ha.standsAlike_concat hne hfound)

/-! ## 6. Upper case -/

/-- The run changes the code point. -/
def CaseRun.Has (r : CaseRun) (n : Nat) : Prop := r.first ≤ n ∧ n ≤ r.last ∧ (n - r.first) % r.step = 0

/-- The run begins no later than the other. -/
def CaseRun.Precedes (r q : CaseRun) : Prop := r.first ≤ q.first

instance : DecidableRel CaseRun.Precedes := fun r q => inferInstanceAs (Decidable (r.first ≤ q.first))

instance : Trans CaseRun.Precedes CaseRun.Precedes CaseRun.Precedes := ⟨Nat.le_trans⟩

theorem runImage_eq_some {n : Nat} {runs : List CaseRun} {d : Char} (h : runImage n runs = some d) :
    ∃ r ∈ runs, r.Has n ∧ d = Char.ofNat ((n : Int) + r.shift).toNat := by
  induction runs with
  | nil => cases h
  | cons r runs ih =>
    rw [runImage] at h
    split at h
    next hr => exact ⟨r, List.mem_cons_self, hr, (Option.some.inj h).symm⟩
    next =>
      obtain ⟨q, hq, hrest⟩ := ih h
      exact ⟨q, List.mem_cons_of_mem r hq, hrest⟩

theorem runImage_eq_none {n : Nat} {runs : List CaseRun} (h : ∀ r ∈ runs, ¬ r.Has n) :
    runImage n runs = none := by
  cases himage : runImage n runs with
  | none => rfl
  | some d =>
    obtain ⟨r, hr, hhas, -⟩ := runImage_eq_some himage
    exact absurd hhas (h r hr)

/-- The characters that become several in upper case, as runs. -/
def expansionRuns : List CaseRun := upperExpansions.map fun e => ⟨e.1, e.1, 1, 0⟩

/-- The code point is no letter that becomes another one in upper case. -/
structure StaysUpper (n : Nat) : Prop where
  ascii : n < 0x61 ∨ 0x7A < n
  runs : ∀ r ∈ upperRuns, ¬ r.Has n
  expansions : ∀ r ∈ expansionRuns, ¬ r.Has n

theorem StaysUpper.upperChar_eq {c : Char} (h : StaysUpper c.toNat) : upperChar c = [c] := by
  unfold upperChar
  split
  · have hcase : ¬ ('a'.val ≤ c.val ∧ c.val ≤ 'z'.val) := by
      rintro ⟨hlow, hhigh⟩
      have hlow : 0x61 ≤ c.toNat := hlow
      have hhigh : c.toNat ≤ 0x7A := hhigh
      have hascii := h.ascii
      omega
    exact congrArg (fun d => [d]) (show c.toUpper = c from dif_neg hcase)
  · have hlookup : upperExpansions.lookup c.toNat = none := by
      refine List.lookup_eq_none_iff.mpr fun e he => bne_iff_ne.mpr fun heq => ?_
      exact h.expansions ⟨e.1, e.1, 1, 0⟩ (List.mem_map.mpr ⟨e, he, rfl⟩)
        ⟨Nat.le_of_eq heq.symm, Nat.le_of_eq heq, Nat.mod_one _⟩
    rw [caseImage, hlookup, runImage_eq_none h.runs]
    rfl

/-- Are the code points `lo`, `lo + step`, … up to `hi` outside of runs in ascending order? -/
def isOutside (lo hi step : Nat) : List CaseRun → Bool
  | [] => true
  | r :: runs =>
    Nat.blt hi r.first ||
      (Nat.blt r.last lo || r.step == 2 && (step == 2 || lo == hi) && (lo + r.first) % 2 == 1) &&
        isOutside lo hi step runs

theorem not_has_of_isOutside {lo hi step n : Nat} {runs : List CaseRun}
    (hsorted : runs.Pairwise CaseRun.Precedes) (h : isOutside lo hi step runs = true)
    (hlo : lo ≤ n) (hhi : n ≤ hi) (hstep : (n - lo) % step = 0) : ∀ r ∈ runs, ¬ r.Has n := by
  induction runs with
  | nil => exact fun r hr => absurd hr List.not_mem_nil
  | cons r runs ih =>
    rw [List.pairwise_cons] at hsorted
    simp only [isOutside, Bool.or_eq_true, Bool.and_eq_true, Nat.blt_eq, beq_iff_eq] at h
    rintro q hq ⟨hfirst, hlast, hmod⟩
    rcases h with hbefore | ⟨hr, hrest⟩
    · -- this run and the later ones begin after `hi`
      rcases List.mem_cons.mp hq with rfl | hq
      · omega
      · have hle : r.first ≤ q.first := hsorted.1 q hq
        omega
    · rcases List.mem_cons.mp hq with rfl | hq
      · rcases hr with hafter | ⟨⟨htwo, hodd⟩, hparity⟩
        · omega
        · rw [htwo] at hmod
          rcases hodd with rfl | rfl <;> omega
      · exact ih hsorted.2 hrest q hq ⟨hfirst, hlast, hmod⟩

theorem sorted_upperRuns : upperRuns.Pairwise CaseRun.Precedes :=
  List.isChain_iff_pairwise.mp (by decide +kernel)

theorem sorted_expansionRuns : expansionRuns.Pairwise CaseRun.Precedes :=
  List.isChain_iff_pairwise.mp (by decide +kernel)

/-- Do the code points `lo`, `lo + step`, … up to `hi` stay in upper case? -/
def staysUpper (lo hi step : Nat) : Bool :=
  (Nat.blt hi 0x61 || Nat.blt 0x7A lo) && isOutside lo hi step upperRuns &&
    isOutside lo hi step expansionRuns

theorem StaysUpper.of_check {lo hi step n : Nat} (h : staysUpper lo hi step = true)
    (hlo : lo ≤ n) (hhi : n ≤ hi) (hstep : (n - lo) % step = 0) : StaysUpper n := by
  simp only [staysUpper, Bool.and_eq_true, Bool.or_eq_true, Nat.blt_eq] at h
  obtain ⟨⟨hascii, hruns⟩, hexpansions⟩ := h
  exact {
    ascii := by omega
    runs := not_has_of_isOutside sorted_upperRuns hruns hlo hhi hstep
    expansions := not_has_of_isOutside sorted_expansionRuns hexpansions hlo hhi hstep }

/-- Does the image of the run stay in upper case? -/
def hasUpperImage (r : CaseRun) : Bool :=
  match r.shift with
  | .ofNat k => staysUpper (r.first + k) (r.last + k) r.step
  | .negSucc k => k < r.first && staysUpper (r.first - (k + 1)) (r.last - (k + 1)) r.step

theorem hasUpperImage_upperRuns : upperRuns.all hasUpperImage = true := by decide +kernel

theorem staysUpper_upperExpansions :
    (upperExpansions.all fun e => e.2.all fun n => staysUpper n n 1) = true := by decide +kernel

theorem StaysUpper.of_run {r : CaseRun} {n : Nat} (h : hasUpperImage r = true) (hn : r.Has n) :
    StaysUpper ((n : Int) + r.shift).toNat := by
  obtain ⟨hfirst, hlast, hstep⟩ := hn
  unfold hasUpperImage at h
  split at h
  next k hshift =>
    rw [hshift, show ((n : Int) + Int.ofNat k).toNat = n + k from rfl]
    refine of_check h (by omega) (by omega) ?_
    rwa [show n + k - (r.first + k) = n - r.first by omega]
  next k hshift =>
    simp only [Bool.and_eq_true, decide_eq_true_eq] at h
    rw [hshift, show ((n : Int) + Int.negSucc k).toNat = n - (k + 1) by omega]
    refine of_check h.2 (by omega) (by omega) ?_
    rwa [show n - (k + 1) - (r.first - (k + 1)) = n - r.first by omega]

/-- A code point that is none stands for the first character, which stays as well. -/
theorem StaysUpper.ofNat {n : Nat} (h : StaysUpper n) : StaysUpper (Char.ofNat n).toNat := by
  by_cases hvalid : n.isValidChar
  · have hnat : (Char.ofNat n).toNat = n := congrArg Char.toNat (dif_pos hvalid)
    rwa [hnat]
  · have hnat : (Char.ofNat n).toNat = 0 := congrArg Char.toNat (dif_neg hvalid)
    have hnull : staysUpper 0 0 1 = true := by decide +kernel
    exact of_check hnull (by omega) (by omega) (by rw [hnat])

/-- **Upper case is final**: what a character becomes in upper case is not changed once more. -/
theorem upperChar_of_mem {c d : Char} (hd : d ∈ upperChar c) : upperChar d = [d] := by
  have hascii : ∀ n < 0x80, upperChar (Char.ofNat n).toUpper = [(Char.ofNat n).toUpper] := by
    decide +kernel
  unfold upperChar at hd
  split at hd
  next hlt =>
    obtain rfl := List.mem_singleton.mp hd
    have hfixed := hascii c.toNat hlt
    rwa [Char.ofNat_toNat] at hfixed
  next hge =>
    unfold caseImage at hd
    split at hd
    next image himage =>
      obtain ⟨n, hn, rfl⟩ := List.mem_map.mp hd
      obtain ⟨before, after, hsplit, -⟩ := List.lookup_eq_some_iff.mp himage
      have hentry : (c.toNat, image) ∈ upperExpansions := hsplit ▸ List.mem_append_cons_self
      have hcheck := List.all_eq_true.mp
        (List.all_eq_true.mp staysUpper_upperExpansions _ hentry) n hn
      have hstays := StaysUpper.of_check hcheck (Nat.le_refl n) (Nat.le_refl n) (Nat.mod_one _)
      exact hstays.ofNat.upperChar_eq
    next hlookup =>
      obtain rfl := List.mem_singleton.mp hd
      cases himage : runImage c.toNat upperRuns with
      | none =>
        show upperChar c = [c]
        rw [upperChar, if_neg hge, caseImage, hlookup, himage]
        rfl
      | some d =>
        obtain ⟨r, hr, hhas, rfl⟩ := runImage_eq_some himage
        have hstays := StaysUpper.of_run (List.all_eq_true.mp hasUpperImage_upperRuns r hr) hhas
        exact hstays.ofNat.upperChar_eq

/-- A letter of a text in upper case stays as it is. -/
theorem upperCased_letter {s : String} {c : Char} (hc : c ∈ (upperCased s).toList) :
    upperCased (String.ofList [c]) = String.ofList [c] := by
  rw [upperCased, String.toList_ofList] at hc
  obtain ⟨b, -, hb⟩ := List.mem_flatMap.mp hc
  rw [upperCased, String.toList_ofList, toUpper, List.flatMap_singleton, upperChar_of_mem hb]

end Faceted.Text
