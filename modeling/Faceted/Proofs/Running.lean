import Faceted.Action

/-!
# What actions obey

Facts about an action hold for every state it may be run in, so they are put together the way the
action is. A relation between states says what becomes of them; it may ask more of an action that
succeeds than of one that fails.

* `Frame`: relations that compose along an action;
* `Obeys`: every run of the action is in the relation, with one rule per way of building actions;
* `bind_ok`: a run that succeeds has succeeded step by step, `each_ok` is the induction along a list;
* `mapM_succeeds`: what can be done for each element can be done for the list.
-/

namespace Faceted.Action

variable {σ α β : Type}

/-! ## 1. Rules -/

/-- A relation between the states before and after an action that can be followed from step to step.
    Its first argument says whether the action succeeds. -/
structure Frame (R : Bool → σ → σ → Prop) : Prop where
  refl : ∀ ok s, R ok s s
  trans : ∀ {ok s t u}, R true s t → R ok t u → R ok s u

/-- Every run of the action is in the relation. -/
def Obeys (R : Bool → σ → σ → Prop) (act : Action σ α) : Prop := ∀ s, R (act s).1.isOk s (act s).2

section Rules

variable {R : Bool → σ → σ → Prop}

theorem Obeys.ok {act : Action σ α} (h : Obeys R act) {s t : σ} {x : α} (hrun : act s = (.ok x, t)) :
    R true s t := by
  have hs := h s
  rw [hrun] at hs
  exact hs

theorem Frame.pure (hR : Frame R) (x : α) : Obeys R (pure x : Action σ α) := hR.refl true

theorem Frame.state (hR : Frame R) : Obeys R (state : Action σ σ) := hR.refl true

theorem Frame.fail (hR : Frame R) (failure : Failure) : Obeys R (fail failure : Action σ α) :=
  hR.refl false

theorem Frame.ofOutcome (hR : Frame R) (outcome : Outcome α) :
    Obeys R (ofOutcome outcome : Action σ α) := hR.refl outcome.isOk

theorem Frame.bind (hR : Frame R) {act : Action σ α} {next : α → Action σ β} (hact : Obeys R act)
    (hnext : ∀ x, Obeys R (next x)) : Obeys R (act >>= next) := by
  intro s
  have hs := hact s
  rw [bind_apply]
  generalize act s = result at hs ⊢
  obtain ⟨outcome, t⟩ := result
  cases outcome with
  | ok x => exact hR.trans hs (hnext x t)
  | error failure => exact hs

theorem Frame.each (hR : Frame R) {act : α → Action σ Unit} (h : ∀ x, Obeys R (act x)) :
    ∀ xs : List α, Obeys R (each act xs)
  | [] => hR.pure ()
  | x :: xs => hR.bind (h x) fun _ => hR.each h xs

theorem Frame.collect_of_mem (hR : Frame R) {act : α → Action σ β} :
    ∀ {xs : List α}, (∀ x ∈ xs, Obeys R (act x)) → Obeys R (collect act xs)
  | [], _ => hR.pure []
  | x :: _, h => hR.bind (h x List.mem_cons_self) fun _ =>
    hR.bind (hR.collect_of_mem fun y hy => h y (List.mem_cons_of_mem x hy)) fun _ => hR.pure _

theorem Frame.collect (hR : Frame R) {act : α → Action σ β} (h : ∀ x, Obeys R (act x))
    (xs : List α) : Obeys R (collect act xs) := hR.collect_of_mem fun x _ => h x

theorem Frame.anyOf (hR : Frame R) {act : α → Action σ Bool} (h : ∀ x, Obeys R (act x))
    (xs : List α) : Obeys R (anyOf act xs) :=
  hR.bind (hR.collect h xs) fun _ => hR.pure _

/-- What each act of a list brings about, once it succeeds, is there in the end, if nothing that the
    acts do undoes it. The acts may rely on an invariant. -/
theorem Frame.collect_establishes (hR : Frame R) {I : σ → Prop} {P : α → σ → Prop}
    {act : α → Action σ β} (hI : ∀ {s t}, R true s t → I s → I t)
    (hP : ∀ {x s t}, R true s t → I s → P x s → P x t) {xs : List α}
    (hact : ∀ x ∈ xs, Obeys R (act x))
    (hdone : ∀ x ∈ xs, ∀ {s y t}, I s → act x s = (.ok y, t) → P x t) {s t : σ} {ys : List β}
    (h : Action.collect act xs s = (.ok ys, t)) (hs : I s) : ∀ x ∈ xs, P x t := by
  induction xs generalizing s ys with
  | nil => exact fun x hx => by cases hx
  | cons first rest ih =>
    obtain ⟨hfirstR, hrestR⟩ := List.forall_mem_cons.mp hact
    obtain ⟨hfirstP, hrestP⟩ := List.forall_mem_cons.mp hdone
    rw [Action.collect, bind_apply] at h
    cases hfirst : act first s with
    | mk outcome u =>
      rw [hfirst] at h
      cases outcome with
      | error failure => cases h
      | ok y =>
        have hu := hI (hfirstR.ok hfirst) hs
        dsimp only at h
        rw [bind_apply] at h
        cases hrest : Action.collect act rest u with
        | mk outcome v =>
          rw [hrest] at h
          cases outcome with
          | error failure => cases h
          | ok more =>
            cases h
            have hrun := (hR.collect_of_mem hrestR).ok hrest
            refine List.forall_mem_cons.mpr ⟨?_, ih hrestR hrestP hrest hu⟩
            exact hP hrun hu (hfirstP hs hfirst)

/-- A list that succeeds has come to each of its acts, in a state that the ones before it have left. -/
theorem Frame.each_reaches (hR : Frame R) {act : α → Action σ Unit} (hact : ∀ x, Obeys R (act x))
    {xs : List α} {s t : σ} (h : Action.each act xs s = (.ok (), t)) {x : α} (hx : x ∈ xs) :
    ∃ u v, R true s u ∧ act x u = (.ok (), v) := by
  induction xs generalizing s with
  | nil => cases hx
  | cons first rest ih =>
    rw [Action.each, bind_apply] at h
    cases hfirst : act first s with
    | mk outcome u =>
      rw [hfirst] at h
      cases outcome with
      | error failure => cases h
      | ok done =>
        rcases List.mem_cons.mp hx with rfl | hx
        · exact ⟨s, u, hR.refl true s, hfirst⟩
        · obtain ⟨w, v, hw, hrun⟩ := ih h hx
          exact ⟨w, v, hR.trans ((hact first).ok hfirst) hw, hrun⟩

end Rules

/-! ## 2. Runs that succeed -/

theorem exists_of_isOk {act : Action σ α} {s : σ} (h : (act s).1.isOk = true) :
    ∃ x, act s = (.ok x, (act s).2) := by
  cases hact : act s with
  | mk outcome t =>
    rw [hact] at h
    cases outcome with
    | ok x => exact ⟨x, rfl⟩
    | error failure => cases h

theorem exists_of_not_isOk {act : Action σ α} {s : σ} (h : (act s).1.isOk = false) :
    ∃ failure, act s = (.error failure, (act s).2) := by
  cases hact : act s with
  | mk outcome t =>
    rw [hact] at h
    cases outcome with
    | ok x => cases h
    | error failure => exact ⟨failure, rfl⟩

theorem eq_of_isOk {act : Action σ Unit} {s : σ} (h : (act s).1.isOk = true) :
    act s = (.ok (), (act s).2) := by
  obtain ⟨_, hok⟩ := exists_of_isOk h
  exact hok

theorem bind_ok {act : Action σ α} {next : α → Action σ β} {s t : σ} {y : β}
    (h : (act >>= next) s = (.ok y, t)) : ∃ x u, act s = (.ok x, u) ∧ next x u = (.ok y, t) := by
  rw [bind_apply] at h
  cases hact : act s with
  | mk outcome u =>
    rw [hact] at h
    cases outcome with
    | ok x => exact ⟨x, u, rfl, h⟩
    | error failure => cases h

/-- An answer that is made into another one. -/
theorem bind_pure_apply (act : Action σ α) (f : α → β) (s : σ) :
    (act >>= fun x => pure (f x)) s = ((act s).1.map f, (act s).2) := by
  rw [bind_apply]
  cases hact : act s with
  | mk outcome t => cases outcome <;> rfl

/-- What an action answers plays no part in what it leaves. -/
theorem snd_bind_pure (act : Action σ α) (x : β) (s : σ) :
    ((act >>= fun _ => pure x) s).2 = (act s).2 := congrArg Prod.snd (bind_pure_apply act (fun _ => x) s)

/-- A run that fails has failed in the first step or after it. -/
theorem bind_error {act : Action σ α} {next : α → Action σ β} {s t : σ} {failure : Failure}
    (h : (act >>= next) s = (.error failure, t)) :
    act s = (.error failure, t) ∨ ∃ x u, act s = (.ok x, u) ∧ next x u = (.error failure, t) := by
  rw [bind_apply] at h
  cases hact : act s with
  | mk outcome u =>
    rw [hact] at h
    cases outcome with
    | ok x => exact .inr ⟨x, u, rfl, h⟩
    | error failure' =>
      cases h
      exact .inl rfl

theorem collect_of_anyOf_ok {act : α → Action σ Bool} {xs : List α} {s t : σ} {answer : Bool}
    (h : anyOf act xs s = (.ok answer, t)) : ∃ answers, collect act xs s = (.ok answers, t) := by
  obtain ⟨answers, u, hcollect, hpure⟩ := bind_ok h
  cases hpure
  exact ⟨answers, hcollect⟩

theorem collect_of_anyOf_error {act : α → Action σ Bool} {xs : List α} {s t : σ} {failure : Failure}
    (h : anyOf act xs s = (.error failure, t)) : collect act xs s = (.error failure, t) := by
  rcases bind_error h with hcollect | ⟨answers, u, -, hpure⟩
  · exact hcollect
  · cases hpure

/-- An action that is done only sometimes, before a result. -/
theorem when_ok {p : Prop} [Decidable p] {act : Action σ Unit} {x y : α} {s t : σ}
    (h : (if p then act >>= fun _ => pure x else pure x : Action σ α) s = (.ok y, t)) :
    y = x ∧ (p ∧ act s = (.ok (), t) ∨ ¬ p ∧ t = s) := by
  split at h
  · next hp =>
    obtain ⟨_, u, hact, hx⟩ := bind_ok h
    cases hx
    exact ⟨rfl, .inl ⟨hp, hact⟩⟩
  · next hp =>
    cases h
    exact ⟨rfl, .inr ⟨hp, rfl⟩⟩

/-- Acting on the elements of a list takes an invariant, which may speak of the elements that are
    left, from the whole list to the empty one. -/
theorem each_ok {act : α → Action σ Unit} {I : List α → σ → Prop}
    (hstep : ∀ {x rest s t}, I (x :: rest) s → act x s = (.ok (), t) → I rest t) {xs : List α}
    {s t : σ} (h : each act xs s = (.ok (), t)) (hs : I xs s) : I [] t := by
  induction xs generalizing s with
  | nil =>
    cases h
    exact hs
  | cons x rest ih =>
    obtain ⟨_, u, hx, hrest⟩ := bind_ok h
    exact ih hrest (hstep hs hx)

/-- Acting on the numbers below a bound, in their order, takes an invariant from the first one to the
    bound. -/
theorem each_range_ok {act : Nat → Action σ Unit} {I : Nat → σ → Prop} {bound : Nat}
    (hstep : ∀ {n s t}, n < bound → I n s → act n s = (.ok (), t) → I (n + 1) t) {s t : σ}
    (h : each act (List.range bound) s = (.ok (), t)) (hs : I 0 s) : I bound t := by
  obtain ⟨n, hleft, hle, ht⟩ := each_ok
    (I := fun left s => ∃ n, left = List.range' n (bound - n) ∧ n ≤ bound ∧ I n s)
    (fun {x rest s t} ⟨n, hleft, hle, hs⟩ hx => by
      obtain ⟨rfl, hlt, hrest⟩ := List.range'_eq_cons_iff.mp hleft.symm
      exact ⟨n + 1, by rw [hrest]; congr 1, by omega, hstep (by omega) hs hx⟩)
    h ⟨0, List.range_eq_range', Nat.zero_le _, hs⟩
  have hn : n = bound := by
    have hlength := congrArg List.length hleft
    rw [List.length_range', List.length_nil] at hlength
    omega
  exact hn ▸ ht

/-- Acting on the elements of a list fails at one of them, after success at those before it. -/
theorem each_error {act : α → Action σ Unit} {xs : List α} {s t : σ} {failure : Failure}
    (h : each act xs s = (.error failure, t)) :
    ∃ front x back u, xs = front ++ x :: back ∧ each act front s = (.ok (), u) ∧
      act x u = (.error failure, t) := by
  induction xs generalizing s with
  | nil => cases h
  | cons first rest ih =>
    rcases bind_error h with hfirst | ⟨_, u, hfirst, hrest⟩
    · exact ⟨[], first, rest, s, rfl, rfl, hfirst⟩
    · obtain ⟨front, x, back, v, rfl, hfront, hx⟩ := ih hrest
      exact ⟨first :: front, x, back, v, rfl, (bind_of_ok hfirst).trans hfront, hx⟩

/-- Acting on the numbers below a bound, in their order, fails at one of them, after success at those
    before it. -/
theorem each_range_error {act : Nat → Action σ Unit} {bound : Nat} {s t : σ} {failure : Failure}
    (h : each act (List.range bound) s = (.error failure, t)) :
    ∃ n < bound, ∃ u, each act (List.range n) s = (.ok (), u) ∧ act n u = (.error failure, t) := by
  obtain ⟨front, n, back, u, hrange, hfront, hn⟩ := each_error h
  rw [List.range_eq_range'] at hrange
  obtain ⟨k, hle, rfl, hback⟩ := List.range'_eq_append_iff.mp hrange
  obtain ⟨rfl, hlt, -⟩ := List.range'_eq_cons_iff.mp hback.symm
  rw [← List.range_eq_range'] at hfront
  exact ⟨k, by omega, u, hfront, by simpa using hn⟩

/-- Collecting results is acting, as far as success and what is left are concerned. -/
theorem each_of_collect (act : α → Action σ β) (xs : List α) (s : σ) :
    each (fun x => act x >>= fun _ => pure ()) xs s =
      ((collect act xs s).1.map fun _ => (), (collect act xs s).2) := by
  induction xs generalizing s with
  | nil => rfl
  | cons x rest ih =>
    rw [each, collect, bind_apply, bind_apply, bind_apply]
    cases act x s with
    | mk outcome t =>
      cases outcome with
      | error failure => rfl
      | ok y =>
        refine (ih t).trans ?_
        dsimp only
        rw [bind_pure_apply]
        cases (collect act rest t).1 <;> rfl

/-- A list that fails has failed at one of its acts, in a state that the ones before it have left. -/
theorem Frame.collect_error {R : Bool → σ → σ → Prop} (hR : Frame R) {act : α → Action σ β}
    (hact : ∀ x, Obeys R (act x)) {xs : List α} {s t : σ} {failure : Failure}
    (h : Action.collect act xs s = (.error failure, t)) :
    ∃ x ∈ xs, ∃ u, R true s u ∧ act x u = (.error failure, t) := by
  have heach := each_of_collect act xs s
  rw [h] at heach
  obtain ⟨front, x, back, u, rfl, hfront, hx⟩ := each_error heach
  have hsteps : ∀ y, Obeys R (act y >>= fun _ => Pure.pure ()) := fun y =>
    hR.bind (hact y) fun _ => hR.pure ()
  refine ⟨x, List.mem_append_right front List.mem_cons_self, u, (hR.each hsteps front).ok hfront, ?_⟩
  rcases bind_error hx with hx | ⟨_, _, -, hpure⟩
  · exact hx
  · cases hpure

/-- Acting on the elements of a list succeeds if every act does that finds an invariant and leaves it. -/
theorem each_succeeds {act : α → Action σ Unit} {I : σ → Prop}
    (hstep : ∀ x {s}, I s → ∃ t, act x s = (.ok (), t) ∧ I t) (xs : List α) {s : σ} (hs : I s) :
    ∃ t, each act xs s = (.ok (), t) ∧ I t := by
  induction xs generalizing s with
  | nil => exact ⟨s, rfl, hs⟩
  | cons x rest ih =>
    obtain ⟨u, hx, hu⟩ := hstep x hs
    obtain ⟨t, hrest, ht⟩ := ih hu
    exact ⟨t, (bind_of_ok hx).trans hrest, ht⟩

/-- Acting on the numbers below a bound, in their order, succeeds if every act does that finds what the
    one before has left. -/
theorem each_range_succeeds {act : Nat → Action σ Unit} {I : Nat → σ → Prop} {bound : Nat}
    (hstep : ∀ {n s}, n < bound → I n s → ∃ t, act n s = (.ok (), t) ∧ I (n + 1) t) {s : σ}
    (hs : I 0 s) : ∃ t, each act (List.range bound) s = (.ok (), t) ∧ I bound t := by
  suffices hfrom : ∀ left start s, start + left = bound → I start s →
      ∃ t, each act (List.range' start left) s = (.ok (), t) ∧ I bound t by
    rw [List.range_eq_range']
    exact hfrom bound 0 s (Nat.zero_add bound) hs
  intro left
  induction left with
  | zero =>
    rintro start s rfl hs
    exact ⟨s, rfl, hs⟩
  | succ left ih =>
    intro start s hbound hs
    obtain ⟨u, hfirst, hu⟩ := hstep (by omega) hs
    obtain ⟨t, hrest, ht⟩ := ih (start + 1) u (by omega) hu
    rw [List.range'_succ]
    exact ⟨t, (bind_of_ok hfirst).trans hrest, ht⟩

/-- Results for numbers in a row can be had if every act succeeds that finds what the one before has
    left. -/
theorem collect_range'_succeeds {act : Nat → Action σ β} {I : Nat → σ → Prop}
    (hstep : ∀ n {s}, I n s → ∃ y t, act n s = (.ok y, t) ∧ I (n + 1) t) (start length : Nat) {s : σ}
    (hs : I start s) :
    ∃ ys t, collect act (List.range' start length) s = (.ok ys, t) ∧ I (start + length) t := by
  induction length generalizing start s with
  | zero => exact ⟨[], s, rfl, hs⟩
  | succ length ih =>
    obtain ⟨y, u, hfirst, hu⟩ := hstep start hs
    obtain ⟨ys, t, hrest, ht⟩ := ih (start + 1) hu
    refine ⟨y :: ys, t, ?_, ?_⟩
    · rw [List.range'_succ, collect, bind_of_ok hfirst, bind_of_ok hrest]
      rfl
    · rwa [Nat.add_assoc, Nat.add_comm 1] at ht

end Faceted.Action

/-! ## 3. Lists of outcomes -/

namespace Faceted

variable {α β : Type}

theorem ok_bind (x : α) (next : α → Outcome β) : (Except.ok x >>= next) = next x := rfl

section Lists

variable {act : α → Outcome β} {xs : List α}

/-- What can be done for all elements of a list can be done for each of them. -/
theorem ok_of_mapM {ys : List β} (h : xs.mapM act = .ok ys) {x : α} (hx : x ∈ xs) :
    ∃ y, act x = .ok y := by
  induction xs generalizing ys with
  | nil => cases hx
  | cons first rest ih =>
    rw [List.mapM_cons] at h
    cases hfirst : act first with
    | error failure =>
      rw [hfirst] at h
      cases h
    | ok y =>
      rw [hfirst, ok_bind] at h
      cases hrest : rest.mapM act with
      | error failure =>
        rw [hrest] at h
        cases h
      | ok more =>
        rcases List.mem_cons.mp hx with rfl | hx
        · exact ⟨y, hfirst⟩
        · exact ih hrest hx

/-- Done for all elements of a list and put beside them, each is beside what is done for it. -/
theorem ok_of_mapM_pairs {pairs : List (α × β)}
    (h : (xs.mapM fun x => return (x, ← act x) : Outcome (List (α × β))) = .ok pairs) :
    pairs.map Prod.fst = xs ∧ ∀ p ∈ pairs, act p.1 = .ok p.2 := by
  induction xs generalizing pairs with
  | nil =>
    cases h
    exact ⟨rfl, by simp⟩
  | cons first rest ih =>
    rw [List.mapM_cons] at h
    cases hfirst : act first with
    | error failure =>
      rw [hfirst] at h
      cases h
    | ok y =>
      rw [hfirst, ok_bind] at h
      cases hrest : (rest.mapM fun x => return (x, ← act x) : Outcome (List (α × β))) with
      | error failure =>
        rw [hrest] at h
        cases h
      | ok more =>
        rw [hrest] at h
        cases h
        obtain ⟨hfst, hdone⟩ := ih hrest
        refine ⟨congrArg (first :: ·) hfst, fun p hp => ?_⟩
        rcases List.mem_cons.mp hp with rfl | hp
        · exact hfirst
        · exact hdone p hp

/-- Acts that come to the same for each element come to the same for the list. -/
theorem mapM_congr_of_mem {act' : α → Outcome β} (h : ∀ x ∈ xs, act x = act' x) :
    xs.mapM act = xs.mapM act' := by
  induction xs with
  | nil => rfl
  | cons x rest ih =>
    rw [List.mapM_cons, List.mapM_cons, h x List.mem_cons_self,
      ih fun x hx => h x (List.mem_cons_of_mem _ hx)]

/-- What can be done for each element can be done for the list. -/
theorem mapM_succeeds (h : ∀ x ∈ xs, ∃ y, act x = .ok y) : ∃ ys, xs.mapM act = .ok ys := by
  induction xs with
  | nil => exact ⟨[], rfl⟩
  | cons x rest ih =>
    obtain ⟨y, hy⟩ := h x List.mem_cons_self
    obtain ⟨ys, hys⟩ := ih fun x hx => h x (List.mem_cons_of_mem _ hx)
    refine ⟨y :: ys, ?_⟩
    rw [List.mapM_cons, hy, ok_bind, hys]
    rfl

/-- The same with each element beside what is done for it. -/
theorem mapM_pairs_succeeds (h : ∀ x ∈ xs, ∃ y, act x = .ok y) :
    ∃ ys, (xs.mapM fun x => return (x, ← act x) : Outcome (List (α × β))) = .ok ys := by
  refine mapM_succeeds fun x hx => ?_
  obtain ⟨y, hy⟩ := h x hx
  exact ⟨(x, y), by rw [hy]; rfl⟩

end Lists

end Faceted
