import Faceted.Proofs.Browser.Bookmarks

/-!
# Policies that make no difference

The settings say what becomes of failures. As long as there are none, that makes no difference: a
browser that only logs its failures does what it would do if it returned them.

* `blind_settle`, `blind_buildCollection` and the like: what stands behind the operations does not look
  at the settings;
* `Indifferent`: an action that succeeds in a browser that returns its failures does the same in any;
* `BrowserStep.succeeds`: a step does what it is to do, whatever becomes of failures;
  **`perform_of_succeeds`**: then it answers and leaves what it would where failures are returned.
-/

namespace Faceted

open Faceted.Action

namespace Browser

/-! ## 1. Actions that do not look at the settings -/

section Building

variable {α β : Type}

theorem blind_fail (failure : Failure) : Blind (fail failure : Action Browser α) := fun _ _ => rfl

theorem blind_collect {act : α → Action Browser β} (hact : ∀ x, Blind (act x)) :
    ∀ xs, Blind (collect act xs)
  | [] => blind_pure []
  | x :: rest => (hact x).bind fun _ => (blind_collect hact rest).bind fun _ => blind_pure _

theorem blind_attempt {act : Action Browser α} (hact : Blind act) : Blind (attempt act) := by
  intro b settings
  rw [attempt_apply, attempt_apply, hact]

theorem blind_when {p : Prop} [Decidable p] {act : Action Browser Unit} (hact : Blind act) (x : α) :
    Blind (if p then act >>= fun _ => pure x else pure x) := by
  split
  · exact hact.bind fun _ => blind_pure x
  · exact blind_pure x

end Building

theorem blind_find (id : String) : Blind (find id) :=
  blind_state (fun _ _ => rfl) fun _ => blind_ofOutcome _

theorem blind_reroot (place : Nat) : Blind (reroot place) := by
  refine blind_state (fun _ _ => rfl) fun b => (blind_ofOutcome _).bind fun root => ?_
  cases root <;> exact blind_onCollection place () _

theorem blind_settleWithin (rounds : Nat) : ∀ place, Blind (settleWithin rounds place) := by
  induction rounds with
  | zero => exact fun _ => blind_pure ()
  | succ rounds ih =>
    intro place
    refine blind_state (fun _ _ => rfl) fun b => ?_
    split
    · exact blind_pure ()
    · split
      · refine (blind_find _).bind fun base => (blind_onCollection base false _).bind fun _ => ?_
        exact (ih base).bind fun _ => blind_propagate place
      · exact blind_propagate place

theorem blind_settle (place : Nat) : Blind (settle place) :=
  blind_state (fun _ _ => rfl) fun _ => blind_settleWithin _ place

theorem blind_applyToFacet (collection facet : String)
    (act : Facet → Scene → Outcome Bool × Facet) : Blind (applyToFacet collection facet act) :=
  (blind_find collection).bind fun place => (blind_onCollection place false _).bind fun changed =>
    blind_when (blind_settle place) changed

theorem blind_restoreAt (s : BrowserState) (place : Nat) : Blind (restoreAt s place) := by
  refine (blind_attempt (blind_onCollection place false _)).bind fun outcome => ?_
  cases outcome with
  | error failure => exact (blind_settle place).bind fun _ => blind_fail failure
  | ok changed =>
    cases changed with
    | false => exact blind_pure false
    | true => exact (blind_settle place).bind fun _ => blind_pure true

theorem blind_restore (s : BrowserState) : Blind (restore s) :=
  blind_state (fun _ _ => rfl) fun _ =>
    (blind_collect (blind_restoreAt s) _).bind fun _ => blind_pure _

theorem blind_detachFacet (collection facet : String) : Blind (detachFacet collection facet) := by
  refine (blind_find collection).bind fun place => ?_
  refine (blind_onCollection place none _).bind fun removed => ?_
  cases removed with
  | none => exact blind_pure false
  | some f => exact blind_when (blind_settle place) true

theorem blind_sourceOf (id : String) (config : CollectionConfig) : Blind (sourceOf id config) := by
  unfold sourceOf
  split
  · refine (blind_ofOutcome _).bind fun e => (blind_find _).bind fun place => ?_
    exact blind_when (blind_onCollection place () _) _
  · exact blind_fail _
  · split <;> exact blind_pure _

theorem blind_buildCollection (config : CollectionConfig) : Blind (buildCollection config) := by
  refine blind_state (fun _ _ => rfl) fun b => ?_
  dsimp only
  split
  · exact blind_fail _
  · refine (blind_sourceOf _ config).bind fun source => ?_
    refine Blind.bind (fun b settings => rfl) fun _ => ?_
    exact (blind_reroot _).bind fun _ => blind_pure _

/-! ## 2. Failures that do not happen -/

/-- The browser with another policy for failures. -/
def withPolicy (b : Browser) (policy : ErrorPolicy) : Browser :=
  b.withSettings { b.settings with errors := policy }

theorem withPolicy_withPolicy (b : Browser) (policy other : ErrorPolicy) :
    (b.withPolicy policy).withPolicy other = b.withPolicy other := rfl

theorem withPolicy_self {b : Browser} {policy : ErrorPolicy} (h : b.settings.errors = policy) :
    b.withPolicy policy = b := by
  subst h
  rfl

/-- Where it succeeds in a browser that does not just log failures, the action does the same whatever the
    browser does with them. -/
def Indifferent {α : Type} (act : Action Browser α) : Prop :=
  ∀ b t x, b.settings.errors ≠ .log → act b = (.ok x, t) →
    t.settings = b.settings ∧ ∀ policy, act (b.withPolicy policy) = (.ok x, t.withPolicy policy)

section Indifference

variable {α β : Type}

theorem Blind.settings {act : Action Browser α} (hact : Blind act) (b : Browser) :
    (act b).2.settings = b.settings := by
  have hsame : act b = ((act b).1, (act b).2.withSettings b.settings) := hact b b.settings
  exact congrArg (fun answer => answer.2.settings) hsame

theorem Blind.steady {act : Action Browser α} (hact : Blind act) : Steady act := fun b =>
  ⟨hact.settings b, fun _ _ => trivial⟩

theorem Blind.indifferent {act : Action Browser α} (hact : Blind act) : Indifferent act := by
  intro b t x _ h
  have hsettings := hact.settings b
  rw [h] at hsettings
  refine ⟨hsettings, fun policy => ?_⟩
  unfold withPolicy
  rw [hact, h, hsettings]

theorem indifferent_pure (x : α) : Indifferent (pure x : Action Browser α) := (blind_pure x).indifferent

theorem Indifferent.bind {act : Action Browser α} {next : α → Action Browser β}
    (hact : Indifferent act) (hnext : ∀ x, Indifferent (next x)) : Indifferent (act >>= next) := by
  intro b t y hstrict h
  obtain ⟨x, u, hx, hy⟩ := bind_ok h
  obtain ⟨hu, hdone⟩ := hact b u x hstrict hx
  obtain ⟨ht, hrest⟩ := hnext x u t y (by rw [hu]; exact hstrict) hy
  exact ⟨ht.trans hu, fun policy => (bind_of_ok (hdone policy)).trans (hrest policy)⟩

/-- What is done after a look at the state must not depend on what becomes of failures. -/
theorem indifferent_state {next : Browser → Action Browser α}
    (hsame : ∀ b policy, next (b.withPolicy policy) = next b) (hnext : ∀ b, Indifferent (next b)) :
    Indifferent (state >>= next) := by
  intro b t x hstrict h
  obtain ⟨ht, hdone⟩ := hnext b b t x hstrict h
  refine ⟨ht, fun policy => ?_⟩
  show next (b.withPolicy policy) (b.withPolicy policy) = _
  rw [hsame]
  exact hdone policy

theorem indifferent_anyOf {act : α → Action Browser Bool} (hact : ∀ x, Indifferent (act x))
    (xs : List α) : Indifferent (anyOf act xs) := by
  refine Indifferent.bind ?_ fun answers => indifferent_pure _
  induction xs with
  | nil => exact indifferent_pure []
  | cons x rest ih => exact (hact x).bind fun _ => ih.bind fun _ => indifferent_pure _

/-- Where there is no failure, nothing else stands for it. -/
theorem Indifferent.guarded {act : Action Browser α} (hact : Indifferent act) (hsteady : Steady act)
    (otherwise : α) : Indifferent (guarded otherwise act) := by
  intro b t x hstrict h
  obtain ⟨ht, hdone⟩ := hact b t x hstrict (guarded_ok hsteady hstrict h)
  refine ⟨ht, fun policy => ?_⟩
  unfold Browser.guarded
  rw [hdone]
  rfl

theorem Blind.guarded {act : Action Browser α} (hact : Blind act) (otherwise : α) :
    Indifferent (guarded otherwise act) := hact.indifferent.guarded hact.steady otherwise

end Indifference

theorem indifferent_tick (now : Nat) : Indifferent (tick now) := by
  refine indifferent_state (fun _ _ => rfl) fun b => indifferent_anyOf (fun place => ?_) _
  refine indifferent_state (fun _ _ => rfl) fun b => ?_
  split
  · exact indifferent_pure false
  · exact indifferent_anyOf (fun f => (blind_applyToFacet _ f _).guarded false) _

theorem indifferent_clearAll : Indifferent clearAll :=
  indifferent_state (fun _ _ => rfl) fun _ =>
    ((blind_restore ∅).guarded false).bind fun _ => indifferent_pure _

/-- A new facet is built as other settings say, but not as what becomes of failures. -/
theorem indifferent_attachFacet (collection : String) (config : FacetConfig) :
    Indifferent (attachFacet collection config) := by
  refine (blind_find collection).indifferent.bind fun place => ?_
  refine indifferent_state (fun _ _ => rfl) fun b => ?_
  refine (blind_ofOutcome _).indifferent.bind fun f => Blind.indifferent ?_
  exact (blind_onCollection place () _).bind fun _ => blind_when (blind_settle place) f.id

end Browser

/-! ## 3. Steps -/

namespace BrowserStep

open Browser

/-- A step that is not about the data. -/
theorem indifferent_perform {step : BrowserStep} (hdata : step.isAboutData = false) :
    Indifferent step.perform := by
  have hdone {α : Type} {act : Action Browser α} (hact : Indifferent act) :
      Indifferent (act >>= fun _ => pure ()) := hact.bind fun _ => indifferent_pure ()
  cases step with
  | withFacet collection facet act => exact hdone ((blind_applyToFacet collection facet act).guarded _)
  | operation op =>
    cases op with
    | load payload base => cases hdata
    | update ops => cases hdata
    | createCollection config => exact hdone ((blind_buildCollection config).guarded _)
    | addFacet collection config =>
      exact hdone ((indifferent_attachFacet collection config).guarded
        (steady_attachFacet collection config) _)
    | removeFacet collection facet => exact hdone ((blind_detachFacet collection facet).guarded _)
    | changeFacet collection facet change =>
      exact hdone ((blind_applyToFacet collection facet _).guarded _)
    | input collection facet text now enter =>
      exact hdone ((blind_applyToFacet collection facet _).guarded _)
    | tick now => exact hdone (indifferent_tick now)
    | importState s => exact hdone ((blind_restore s).guarded _)
    | clearAll => exact hdone indifferent_clearAll

/-- Does the step succeed? Where failures are only logged every step has an answer, so it is asked
    whether there would be one if they were returned. -/
def succeeds (step : BrowserStep) (b : Browser) : Bool :=
  (step.perform (b.withPolicy .throw)).1.isOk

/-- Do all steps succeed, one after the other and each at its moment? -/
def allSucceed : List (Int × BrowserStep) → Browser → Bool
  | [], _ => true
  | (moment, step) :: rest, b =>
    step.succeeds (b.atMoment moment) && allSucceed rest (step.after (b.atMoment moment))

/-- **A step that succeeds** does so under every policy, and it leaves the browser that it would leave
    if failures were returned. -/
theorem perform_of_succeeds {step : BrowserStep} {b : Browser} (hdata : step.isAboutData = false)
    (h : step.succeeds b = true) : step.perform b = (.ok (), step.after b) ∧
      step.perform (b.withPolicy .throw) = (.ok (), (step.after b).withPolicy .throw) := by
  have hrun := eq_of_isOk h
  generalize (step.perform (b.withPolicy .throw)).2 = t at hrun
  obtain ⟨hsettings, hdone⟩ := indifferent_perform hdata _ t () (fun heq => by cases heq) hrun
  have hperform : step.perform b = (.ok (), t.withPolicy b.settings.errors) :=
    hdone b.settings.errors
  unfold after
  rw [hperform]
  have hthrow : t.settings.errors = .throw := congrArg Settings.errors hsettings
  exact ⟨rfl, by rw [withPolicy_withPolicy, withPolicy_self hthrow, hrun]⟩

/-- Where failures are not only logged, a step succeeds if it has an answer. -/
theorem succeeds_iff {step : BrowserStep} {b : Browser} (hdata : step.isAboutData = false)
    (hstrict : b.settings.errors ≠ .log) : step.succeeds b = (step.perform b).1.isOk := by
  refine Bool.eq_iff_iff.mpr ⟨fun h => ?_, fun h => ?_⟩
  · rw [(perform_of_succeeds hdata h).1]
    rfl
  · obtain ⟨-, hdone⟩ := indifferent_perform hdata _ _ () hstrict (eq_of_isOk h)
    unfold succeeds
    rw [hdone]
    rfl

end BrowserStep

end Faceted
