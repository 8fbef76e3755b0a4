import Faceted.Proofs.Collection.Batches

/-!
# How often a change is told

A collection tells that its items have changed at the end of a refresh that succeeds, and never else. A
batch holds the refreshes back that changes of facets ask for; but the end of a batch within it is the end
of the waiting for both, and clearing all facets and applying states to them are batches too. So how often
those who listen hear of a batch is a matter of the refreshes that take place in it.

* `Procedure`: what may be done within a batch, each call depending on what came of those before;
* `Procedure.refreshes`: the refreshes that take place in a run of it, in order, with their causes;
* `View.told_changeFacetBy`, `View.told_batch` are the steps, **`Procedure.told_run`** the run;
* `Procedure.ending_of_head?`: while a batch is under way, the first refresh comes from the end of another;
* **`told_of_batch`**: a batch in which no refresh fails tells once for each of them, at last when everything
  is up to date; it tells once in all exactly if no further batch is made within it.
-/

namespace Faceted

open Faceted.Action

/-- An action that is run to its end hands on what came of it. -/
theorem Action.attempt_bind_apply {σ α β : Type} (act : Action σ α)
    (next : Outcome α → Action σ β) (s : σ) :
    (attempt act >>= next) s = next (act s).1 (act s).2 := rfl

/-! ## 1. Procedures -/

/-- What may be done within a batch. A call may depend on what the calls before it have answered, failures
    included, and on the collection as it is then. -/
inductive Procedure : Type → Type 1 where
  | finish {α : Type} (outcome : Outcome α) : Procedure α
  | look {α : Type} (next : View → Procedure α) : Procedure α
  | change {α : Type} (id : String) (act : Facet → Scene → Outcome Bool × Facet)
      (next : Outcome Bool → Procedure α) : Procedure α
  | clearAll {α : Type} (next : Outcome (List FacetState) → Procedure α) : Procedure α
  | applyAll {α : Type} (states : List FacetState) (next : Outcome Unit → Procedure α) : Procedure α
  | batch {α β : Type} (inside : Procedure β) (next : Outcome β → Procedure α) : Procedure α

/-- What a refresh comes from. -/
inductive Cause where
  /-- A change of a facet that is reported while no batch is under way. -/
  | change
  /-- The end of a batch; clearing all facets and applying states are batches. -/
  | ending
  deriving DecidableEq, Repr

/-- A refresh: what it comes from, and what is refreshed. -/
structure Refresh where
  cause : Cause
  start : View

namespace Refresh

def succeeds (r : Refresh) : Bool := (View.refresh r.start).1.isOk

/-- What is told by refreshes: those that fail tell nothing. -/
def told (rs : List Refresh) : List CollectionEvent :=
  (rs.filter succeeds).map fun _ => .itemsChanged

@[simp] theorem told_nil : told [] = [] := rfl

@[simp] theorem told_append (rs ts : List Refresh) : told (rs ++ ts) = told rs ++ told ts := by
  simp [told]

theorem told_cons (r : Refresh) (rs : List Refresh) : told (r :: rs) = told [r] ++ told rs :=
  told_append [r] rs

/-- Refreshes that all succeed tell once each. -/
theorem told_of_succeeds {rs : List Refresh} (h : ∀ r ∈ rs, r.succeeds = true) :
    told rs = List.replicate rs.length .itemsChanged := by
  unfold told
  rw [List.filter_eq_self.mpr h, List.map_const']

end Refresh

namespace View

/-- The view that is refreshed when a batch of the action ends. -/
def ended {α : Type} (act : Action View α) (v : View) : View :=
  (act (v.withUpdating true)).2.withUpdating false

/-- The view with states handed to the facets, up to the first that does not fit. -/
def applied (states : List FacetState) (v : View) : View :=
  v.withFacets (applyEach v.collection.facets states).2

/-- The view as a change of a facet leaves it, if there is the facet and the change is reported. -/
def reported (id : String) (act : Facet → Scene → Outcome Bool × Facet) (v : View) : Option View := do
  let place ← v.collection.place? id
  let f ← v.collection.facets[place]?
  match (act f v.scene).1 with
  | .ok true => some (v.actedAt place act f)
  | _ => none

/-- The refresh that a change of a facet asks for, if it takes place at once. -/
def followUps (id : String) (act : Facet → Scene → Outcome Bool × Facet) (v : View) : List Refresh :=
  if v.collection.updating then [] else (v.reported id act).toList.map fun w => ⟨.change, w⟩

end View

namespace Procedure

variable {α : Type}

/-- Runs the procedure; what fails in it stops nothing by itself. -/
def run {α : Type} : Procedure α → Action View α
  | finish outcome => ofOutcome outcome
  | look next => do
    let v ← state
    (next v).run
  | change id act next => do
    let answer ← attempt (View.changeFacetBy id act)
    (next answer).run
  | clearAll next => do
    let answer ← attempt View.clearAll
    (next answer).run
  | applyAll states next => do
    let answer ← attempt (View.applyAll states)
    (next answer).run
  | batch inside next => do
    let answer ← attempt (View.batch inside.run)
    (next answer).run

/-- The refreshes that take place in a run, in order. -/
def refreshes {α : Type} : Procedure α → View → List Refresh
  | finish _, _ => []
  | look next, v => (next v).refreshes v
  | change id act next, v =>
    v.followUps id act ++
      (next (View.changeFacetBy id act v).1).refreshes (View.changeFacetBy id act v).2
  | clearAll next, v =>
    ⟨.ending, v.cleared.withUpdating false⟩ ::
      (next (View.clearAll v).1).refreshes (View.clearAll v).2
  | applyAll states next, v =>
    ⟨.ending, (v.applied states).withUpdating false⟩ ::
      (next (View.applyAll states v).1).refreshes (View.applyAll states v).2
  | batch inside next, v =>
    inside.refreshes (v.withUpdating true) ++ ⟨.ending, v.ended inside.run⟩ ::
      (next (View.batch inside.run v).1).refreshes (View.batch inside.run v).2

/-- The refreshes that take place when the procedure is run as a batch. -/
def refreshesAsBatch (p : Procedure α) (v : View) : List Refresh :=
  p.refreshes (v.withUpdating true) ++ [⟨.ending, v.ended p.run⟩]

end Procedure

namespace View

variable {v w : View}

/-! ## 2. What a step tells -/

/-- Nothing is told. -/
def Silent {α : Type} (act : Action View α) : Prop :=
  Obeys (fun _ (v w : View) => w.collection.told = v.collection.told) act

theorem frame_silent : Frame fun _ (v w : View) => w.collection.told = v.collection.told :=
  ⟨fun _ _ => rfl, fun h h' => h'.trans h⟩

theorem silent_atPlace {α : Type} (place : Nat) (otherwise : α)
    (act : Facet → Scene → Outcome α × Facet × Store) : Silent (atPlace place otherwise act) := by
  intro v
  unfold atPlace
  split <;> rfl

theorem silent_updateAt (place : Nat) (items : KeySet) : Silent (updateAt place items) :=
  silent_atPlace place () _

theorem silent_narrow : ∀ (places : List Nat) (items : KeySet), Silent (narrow places items)
  | [], _ => frame_silent.pure _
  | place :: rest, _ =>
    frame_silent.bind (silent_atPlace place _ _) fun _ => silent_narrow rest _

theorem silent_narrowRoot : Silent narrowRoot :=
  frame_silent.bind frame_silent.state fun v =>
    frame_silent.bind (silent_narrow v.places v.collection.items) fun _ _ => rfl

theorem silent_inputAt (several : Bool) (place : Nat) : Silent (inputAt several place) := by
  refine frame_silent.bind frame_silent.state fun v => ?_
  split
  · exact frame_silent.pure _
  · split
    · exact frame_silent.pure _
    · exact silent_narrow _ _

theorem silent_updateFacets : Silent updateFacets :=
  frame_silent.bind frame_silent.state fun v =>
    frame_silent.bind (frame_silent.collect (silent_inputAt _) v.places) fun _ =>
      frame_silent.each (fun (place, items) => silent_updateAt place items) _

/-- **A refresh tells at its very end**, when it can no longer fail. -/
theorem refresh_ok_iff : refresh v = (.ok (), w) ↔
    ∃ t u, narrowRoot v = (.ok (), t) ∧ updateFacets t = (.ok (), u) ∧
      w = (tell .itemsChanged u).2 := by
  constructor
  · intro h
    obtain ⟨_, t, hnarrow, hrest⟩ := bind_ok h
    obtain ⟨_, u, hupdate, htell⟩ := bind_ok hrest
    cases htell
    exact ⟨t, u, hnarrow, hupdate, rfl⟩
  · intro h
    obtain ⟨t, u, hnarrow, hupdate, rfl⟩ := h
    exact (bind_of_ok hnarrow).trans (bind_of_ok hupdate)

/-- A refresh tells of a change if it succeeds. -/
theorem told_refresh (cause : Cause) (v : View) :
    (refresh v).2.collection.told = v.collection.told ++ Refresh.told [⟨cause, v⟩] := by
  cases hrefresh : refresh v with
  | mk outcome w =>
    have hsucceeds : (⟨cause, v⟩ : Refresh).succeeds = outcome.isOk := by
      unfold Refresh.succeeds
      rw [hrefresh]
    cases outcome with
    | ok done =>
      obtain ⟨t, u, hnarrow, hupdate, rfl⟩ := refresh_ok_iff.mp hrefresh
      have htold : u.collection.told = v.collection.told :=
        (silent_updateFacets.ok hupdate).trans (silent_narrowRoot.ok hnarrow)
      show u.collection.told ++ [.itemsChanged] = _
      rw [htold, Refresh.told, List.filter_singleton, hsucceeds]
      rfl
    | error failure =>
      have htold : w.collection.told = v.collection.told := by
        rcases bind_error hrefresh with hnarrow | ⟨_, t, hnarrow, hrest⟩
        · have hw := silent_narrowRoot v
          rwa [hnarrow] at hw
        rcases bind_error hrest with hupdate | ⟨_, _, -, htell⟩
        · have ht := silent_updateFacets t
          rw [hupdate] at ht
          exact ht.trans (silent_narrowRoot.ok hnarrow)
        · cases htell
      rw [htold, Refresh.told, List.filter_singleton, hsucceeds]
      exact (List.append_nil _).symm

theorem facetChanged_apply (v : View) :
    facetChanged v = if v.collection.updating then (.ok (), v) else refresh v := by
  cases hupdating : v.collection.updating with
  | true => exact facetChanged_of_held hupdating
  | false => exact facetChanged_of_updating hupdating

/-- What a change of a facet leaves: first the facet is changed, and if that is reported the rest follows. -/
theorem changeFacetBy_snd (id : String) (act : Facet → Scene → Outcome Bool × Facet) (v : View) :
    ∃ w : View, w.collection.told = v.collection.told ∧
      w.collection.updating = v.collection.updating ∧
      (v.reported id act = some w ∧ (changeFacetBy id act v).2 = (facetChanged w).2 ∨
        v.reported id act = none ∧ (changeFacetBy id act v).2 = w) := by
  unfold reported
  rw [changeFacetBy_apply]
  cases v.collection.place? id with
  | none => exact ⟨v, rfl, rfl, .inr ⟨rfl, rfl⟩⟩
  | some place =>
    simp only [Option.bind_eq_bind, Option.bind_some]
    cases v.collection.facets[place]? with
    | none => exact ⟨v, rfl, rfl, .inr ⟨rfl, rfl⟩⟩
    | some f =>
      refine ⟨v.actedAt place act f, rfl, rfl, ?_⟩
      simp only [Option.bind_some]
      cases (act f v.scene).1 with
      | error failure => exact .inr ⟨rfl, rfl⟩
      | ok changed =>
        cases changed with
        | false => exact .inr ⟨rfl, rfl⟩
        | true =>
          refine .inl ⟨rfl, ?_⟩
          dsimp only
          generalize facetChanged (v.actedAt place act f) = result
          obtain ⟨outcome, w⟩ := result
          cases outcome <;> rfl

variable (id : String) (act : Facet → Scene → Outcome Bool × Facet)

/-- A change of a facet does not end a batch. -/
theorem updating_changeFacetBy (v : View) :
    (changeFacetBy id act v).2.collection.updating = v.collection.updating := by
  obtain ⟨w, -, hupdating, ⟨-, heq⟩ | ⟨-, heq⟩⟩ := changeFacetBy_snd id act v
  · rw [heq, ← hupdating, facetChanged_apply]
    split
    · rfl
    · exact w.updating_refresh
  · rw [heq, hupdating]

theorem followUps_of_updating (hv : v.collection.updating = true) : v.followUps id act = [] :=
  if_pos hv

/-- **A change of a facet** tells what its refresh tells, if there is one. -/
theorem told_changeFacetBy (v : View) :
    (changeFacetBy id act v).2.collection.told =
      v.collection.told ++ Refresh.told (v.followUps id act) := by
  obtain ⟨w, htold, hupdating, ⟨hreported, heq⟩ | ⟨hreported, heq⟩⟩ := changeFacetBy_snd id act v
  · rw [heq, facetChanged_apply, followUps, hupdating, hreported]
    cases v.collection.updating with
    | true => simp [htold]
    | false => exact (told_refresh .change w).trans (htold ▸ rfl)
  · rw [heq, followUps, hreported]
    simp [htold]

/-- **A batch** tells what its action tells, and then what the refresh at its end does. -/
theorem told_batch {β : Type} (act : Action View β) (v : View) :
    (batch act v).2.collection.told =
      (act (v.withUpdating true)).2.collection.told ++ Refresh.told [⟨.ending, v.ended act⟩] := by
  rw [batch_apply]
  exact told_refresh .ending (v.ended act)

theorem told_clearAll (v : View) : (clearAll v).2.collection.told =
    v.collection.told ++ Refresh.told [⟨.ending, v.cleared.withUpdating false⟩] :=
  told_batch _ v

theorem told_applyAll (states : List FacetState) (v : View) :
    (applyAll states v).2.collection.told =
      v.collection.told ++ Refresh.told [⟨.ending, (v.applied states).withUpdating false⟩] :=
  told_batch _ v

end View

namespace Procedure

variable {α : Type}

/-! ## 3. What a run tells -/

/-- **A run tells once for each of its refreshes that succeeds**, and nothing else. -/
theorem told_run (p : Procedure α) (v : View) :
    (p.run v).2.collection.told = v.collection.told ++ Refresh.told (p.refreshes v) := by
  induction p generalizing v with
  | finish outcome => exact (List.append_nil _).symm
  | look next ih => exact ih v v
  | change id act next ih =>
    rw [run, attempt_bind_apply, ih, View.told_changeFacetBy, refreshes, Refresh.told_append,
      List.append_assoc]
  | clearAll next ih =>
    rw [run, attempt_bind_apply, ih, View.told_clearAll, refreshes, Refresh.told_cons _ (refreshes _ _),
      List.append_assoc]
  | applyAll states next ih =>
    rw [run, attempt_bind_apply, ih, View.told_applyAll, refreshes, Refresh.told_cons _ (refreshes _ _),
      List.append_assoc]
  | batch inside next ihInside ih =>
    rw [run, attempt_bind_apply, ih, View.told_batch, ihInside, refreshes, Refresh.told_append,
      Refresh.told_cons _ (refreshes _ _), List.append_assoc, List.append_assoc]
    rfl

/-- Run as a batch a procedure tells as often. -/
theorem told_asBatch (p : Procedure α) (v : View) :
    (View.batch p.run v).2.collection.told =
      v.collection.told ++ Refresh.told (p.refreshesAsBatch v) := by
  rw [View.told_batch, told_run, refreshesAsBatch, Refresh.told_append, List.append_assoc]
  rfl

/-- **While a batch is under way the first refresh comes from the end of another one**: changes are only
    told at once after that. -/
theorem ending_of_head? {p : Procedure α} {v : View} (hv : v.collection.updating = true) {r : Refresh}
    (hr : (p.refreshes v).head? = some r) : r.cause = .ending := by
  induction p generalizing v with
  | finish outcome => cases hr
  | look next ih => exact ih v hv hr
  | change id act next ih =>
    rw [refreshes, View.followUps_of_updating id act hv, List.nil_append] at hr
    exact ih _ ((View.updating_changeFacetBy id act v).trans hv) hr
  | clearAll next ih =>
    cases hr
    rfl
  | applyAll states next ih =>
    cases hr
    rfl
  | batch inside next ihInside ih =>
    rw [refreshes] at hr
    have hwaiting : (v.withUpdating true).collection.updating = true := rfl
    cases hinside : inside.refreshes (v.withUpdating true) with
    | nil =>
      rw [hinside] at hr
      cases hr
      rfl
    | cons first rest =>
      rw [hinside] at hr
      cases hr
      exact ihInside hwaiting (congrArg List.head? hinside)

/-- While a batch is under way nothing is refreshed, unless another batch ends. -/
theorem refreshes_eq_nil_iff {p : Procedure α} {v : View} (hv : v.collection.updating = true) :
    p.refreshes v = [] ↔ ∀ r ∈ p.refreshes v, r.cause = .change := by
  constructor
  · intro h r hr
    rw [h] at hr
    cases hr
  · intro h
    cases hp : p.refreshes v with
    | nil => rfl
    | cons first rest =>
      have hending := ending_of_head? hv (congrArg List.head? hp)
      have hchange := h first (hp ▸ List.mem_cons_self)
      rw [hending] at hchange
      cases hchange

/-- **How often a batch tells.** Take a batch in which no refresh fails. It tells once for each refresh that
    takes place in it, and for the last time when nothing is left to be done: everything is up to date then.
    It tells once in all exactly if no refresh comes from the end of a batch within it, that is, if no
    further batch is made, no facets are cleared and no states applied all at once. -/
theorem told_of_batch {p : Procedure α} {v : View}
    (hsucceed : ∀ r ∈ p.refreshesAsBatch v, r.succeeds = true) :
    ∃ u, (View.batch p.run v).2 = (View.tell .itemsChanged u).2 ∧ u.UpToDate ∧
      u.collection.told = v.collection.told ++
        List.replicate (p.refreshes (v.withUpdating true)).length .itemsChanged ∧
      ((View.batch p.run v).2.collection.told = v.collection.told ++ [.itemsChanged] ↔
        ∀ r ∈ p.refreshes (v.withUpdating true), r.cause = .change) := by
  have hlast : View.refresh (v.ended p.run) = (.ok (), (View.batch p.run v).2) := by
    have hsucceeds := hsucceed _ (List.mem_append_right _ (List.mem_singleton_self _))
    rw [View.batch_apply]
    exact eq_of_isOk hsucceeds
  have hcurrent := View.refresh_upToDate hlast rfl
  obtain ⟨t, u, -, -, hu⟩ := View.refresh_ok_iff.mp hlast
  have htold := p.told_asBatch v
  rw [Refresh.told_of_succeeds hsucceed, refreshesAsBatch, List.length_append, List.length_singleton,
    List.replicate_succ', ← List.append_assoc] at htold
  refine ⟨u, hu, ?_, ?_, ?_⟩
  · rw [hu] at hcurrent
    exact ⟨hcurrent.narrowed, hcurrent.shown, hcurrent.updating⟩
  · rw [hu] at htold
    exact List.append_cancel_right htold
  · rw [← refreshes_eq_nil_iff rfl, htold, List.append_cancel_right_eq, List.append_right_eq_self,
      List.replicate_eq_nil_iff, List.length_eq_zero_iff]

/-- A value is clicked in both lists. -/
def clickingTwice : Procedure Unit :=
  .change "second" (clicking "red") fun _ => .change "first" (clicking "grey") fun answer =>
    .finish (answer.map fun _ => ())

/-- In between everything is cleared. -/
def clearingBetween : Procedure Unit :=
  .change "second" (clicking "red") fun _ => .clearAll fun _ =>
    .change "first" (clicking "grey") fun answer => .finish (answer.map fun _ => ())

/-- Clicks in two lists are told once. -/
theorem told_clickingTwice :
    ∃ v, v = CollectionOperation.afterAll redFirst ⟨plants, Collection.new "plants" .allItems⟩ ∧
      (∀ r ∈ clickingTwice.refreshesAsBatch v, r.succeeds = true) ∧
      (View.batch clickingTwice.run v).2.collection.told = v.collection.told ++ [.itemsChanged] := by
  have hsucceed : ∀ r ∈ clickingTwice.refreshesAsBatch (CollectionOperation.afterAll redFirst
      ⟨plants, Collection.new "plants" .allItems⟩), r.succeeds = true := by decide +kernel
  obtain ⟨u, -, -, -, honce⟩ := told_of_batch hsucceed
  exact ⟨_, rfl, hsucceed, honce.mpr (by decide +kernel)⟩

/-- **Clearing within a batch is told at once, and so is what comes after it**: of two clicks and a clearing
    between them those who listen hear three times, although nothing fails. -/
theorem told_clearingBetween :
    ∃ v u, v = CollectionOperation.afterAll redFirst ⟨plants, Collection.new "plants" .allItems⟩ ∧
      v.collection.updating = false ∧
      (∀ r ∈ clearingBetween.refreshesAsBatch v, r.succeeds = true) ∧
      View.batch clearingBetween.run v = (.ok (), u) ∧
      u.collection.told = v.collection.told ++ [.itemsChanged, .itemsChanged, .itemsChanged] :=
  ⟨_, _, rfl, rfl, by decide +kernel, eq_of_isOk (by decide +kernel), by decide +kernel⟩

end Procedure

end Faceted
