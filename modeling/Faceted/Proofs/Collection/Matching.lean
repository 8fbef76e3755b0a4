import Mathlib.Data.List.Nodup
import Faceted.Proofs.Collection.Timeless
import Faceted.Proofs.Facet.Truthful

/-!
# Restricted items match the facets

A collection works out its restricted items anew on some of its calls and leaves them alone on the
others: when a facet that does not restrict comes or goes, when a change reports that there was none,
while a batch is under way. A call may also fail half way, with the root, the facets or a selection
already changed.

* `View.Matches` is the invariant: whenever the facets can be applied to the root items, the
  restricted items are what they let through. It says nothing where a facet fails, since the items
  stay as they were there;
* `matches_refresh`: a refresh brings it about, whatever stood before and whether or not it fails;
* `Call.atRest_after` is the step of a call, `AtRest.atMoment` that of the clock;
* **`restricted_of_calls`** is the run: after any calls, each at a moment of its own and whichever of them
  failed, the restricted items match, provided that no expression asks for the time.
  `restricted_of_pastMoment` shows what becomes of a restriction to the moment when it was set.
-/

namespace Faceted

/-- What is put in the place of an element has the same key. -/
theorem map_set_of_eq {α β : Type} {key : α → β} {xs : List α} {k : Nat} {x y : α}
    (hx : xs[k]? = some x) (h : key y = key x) : (xs.set k y).map key = xs.map key := by
  obtain ⟨hlt, rfl⟩ := List.getElem?_eq_some_iff.mp hx
  have hlt' : k < (xs.map key).length := by rw [List.length_map]; exact hlt
  have hkey : key xs[k] = (xs.map key)[k] := (List.getElem_map key).symm
  rw [List.map_set, h, hkey, List.set_getElem_self hlt']

/-- The facet of a collection is found by its id. -/
theorem Collection.facet?_of_mem {c : Collection} (h : (c.facets.map Facet.id).Nodup) {fs : List Facet}
    (hfs : fs <:+ c.facets) {f : Facet} (hf : f ∈ fs) :
    (fs.find? fun g => g.id == f.id) = some f := by
  cases hfound : fs.find? fun g => g.id == f.id with
  | none => exact absurd (List.find?_eq_none.mp hfound f hf) (by simp)
  | some g =>
    have hg : g ∈ c.facets := hfs.subset (List.mem_of_find?_eq_some hfound)
    have hid : g.id = f.id := by simpa using List.find?_some hfound
    rw [List.inj_on_of_nodup_map h hg (hfs.subset hf) hid]

namespace View

open Faceted.Action

/-! ## 1. The invariant -/

/-- Whenever the facets let items of the root through, these are the restricted items. -/
def Matches (v : View) : Prop :=
  ∀ items, v.scene.throughEach v.collection.facets v.collection.items = .ok items →
    v.collection.restricted = items

theorem Same.matches {v w : View} (h : v.Same w) (hv : v.Matches) : w.Matches := by
  intro items hitems
  rw [← h.restricted]
  refine hv items ?_
  rw [h.throughEach, h.items, hitems]

/-- **A refresh makes the restricted items match**, or the facets cannot be applied. -/
theorem matches_refresh (v : View) : (refresh v).2.Matches := by
  cases hroot : v.scene.throughEach v.collection.facets v.collection.items with
  | ok restricted =>
    refine (refresh_of_ok hroot).matches fun items hitems => ?_
    exact Except.ok.inj (hroot.symm.trans hitems)
  | error failure =>
    refine (refresh_of_error hroot).2.matches fun items hitems => ?_
    rw [hroot] at hitems
    cases hitems

theorem updating_refresh (v : View) :
    (refresh v).2.collection.updating = v.collection.updating := by
  cases hroot : v.scene.throughEach v.collection.facets v.collection.items with
  | ok restricted => exact (refresh_of_ok hroot).updating.symm
  | error failure => exact (refresh_of_error hroot).2.updating.symm

/-- Between calls the restricted items match and no batch is under way. -/
structure AtRest (v : View) : Prop where
  isMatching : v.Matches
  updating : v.collection.updating = false

theorem Same.atRest {v w : View} (h : v.Same w) (hv : v.AtRest) : w.AtRest :=
  ⟨h.matches hv.isMatching, h.updating.symm.trans hv.updating⟩

theorem atRest_refresh {v : View} (h : v.collection.updating = false) : (refresh v).2.AtRest :=
  ⟨v.matches_refresh, v.updating_refresh.trans h⟩

/-- **The clock** leaves a collection at rest whose facets do not ask for the time. -/
theorem AtRest.atMoment {v : View} (hv : v.AtRest) (hasks : v.asksTime = false) (moment : Int) :
    (v.atMoment moment).AtRest := by
  refine ⟨fun items hitems => hv.isMatching items ?_, hv.updating⟩
  exact (Scene.throughEach_atMoment (fun f hf => asksTime_eq_false hasks hf) v.scene moment
    v.collection.items).trans hitems

/-! ## 2. Root items -/

theorem atRest_rootChanged {v : View} (h : v.collection.updating = false) :
    (rootChanged v).2.AtRest :=
  atRest_refresh (by exact h)

theorem atRest_reroot {v : View} (h : v.AtRest) : (reroot v).2.AtRest :=
  atRest_rootChanged (by exact h.updating)

theorem atRest_setRoot {v : View} (h : v.AtRest) (items : KeySet) : (setRoot items v).2.AtRest :=
  atRest_rootChanged (by exact h.updating)

/-! ## 3. Facets -/

/-- A facet that does not restrict may stand behind the others. -/
theorem matches_pushFacet {v : View} (h : v.Matches) {f : Facet} (hf : f.hasRestrictions = false) :
    Matches { v with collection := v.collection.pushFacet f } := by
  intro items hitems
  refine h items ?_
  have hleft := Scene.throughEach_append_of_not_hasRestrictions v.scene
    v.collection.facets [] hf v.collection.items
  rw [List.append_nil] at hleft
  exact hleft.symm.trans hitems

/-- A facet that does not restrict may go. -/
theorem throughEach_dropFacet {c : Collection} {id : String} {f : Facet}
    (hf : c.facet? id = some f) (hr : f.hasRestrictions = false) (scene : Scene) (items : KeySet) :
    scene.throughEach (c.dropFacet id).facets items = scene.throughEach c.facets items := by
  obtain ⟨hid, front, back, hfacets, hfront⟩ := List.find?_eq_some_iff_append.mp hf
  have hdrop : (c.dropFacet id).facets = front ++ back := by
    show c.facets.eraseP _ = _
    rw [hfacets, List.eraseP_append_right _ fun g hg => by simpa using hfront g hg,
      List.eraseP_cons_of_pos (p := fun g : Facet => g.id == id) hid]
  rw [hfacets, Scene.throughEach_append_of_not_hasRestrictions _ _ _ hr, hdrop]

theorem matches_dropFacet {v : View} (h : v.Matches) {id : String} {f : Facet}
    (hf : v.collection.facet? id = some f) (hr : f.hasRestrictions = false) :
    Matches { v with collection := v.collection.dropFacet id } := fun items hitems =>
  h items ((throughEach_dropFacet hf hr v.scene v.collection.items).symm.trans hitems)

theorem updated_apply (f : Facet) (v : View) :
    updated f v =
      match f.update v.scene v.collection.restricted with
      | (.ok (), f, store) => (.ok f, { v with store })
      | (.error failure, _, store) => (.error failure, { v with store }) := rfl

/-- Another store that answers alike changes nothing. -/
theorem same_of_store {v : View} {store : Store} (h : v.store.Alike store) :
    v.Same { v with store } := by
  have hscene : v.scene.Alike ({ v with store } : View).scene := ⟨h, rfl⟩
  exact ⟨h, rfl, rfl, rfl, rfl, rfl, by simp only [Facet.settled_alike hscene]⟩

theorem atRest_addFacet {v : View} (h : v.AtRest) (f : Facet) : (addFacet f v).2.AtRest := by
  unfold addFacet
  rw [bind_apply, state_apply]
  dsimp only
  split
  · exact h
  · split
    · exact atRest_refresh h.updating
    · next hr =>
      have hr : f.hasRestrictions = false := Bool.eq_false_iff.mpr hr
      have hsettled := f.settled_update v.scene v.collection.restricted
      have hstore := f.update_store_alike v.scene v.collection.restricted
      rw [bind_apply, updated_apply]
      generalize f.update v.scene v.collection.restricted = answer at hsettled hstore ⊢
      obtain ⟨outcome, g, store⟩ := answer
      have hrest : AtRest { v with store } := (same_of_store hstore).atRest h
      cases outcome with
      | error failure => exact hrest
      | ok done =>
        have hg : g.hasRestrictions = false := (Facet.hasRestrictions_congr hsettled).trans hr
        exact ⟨matches_pushFacet hrest.isMatching hg, hrest.updating⟩

/-- The view without the facet. -/
def withoutFacet (v : View) (id : String) : View :=
  { v with collection := v.collection.dropFacet id }

theorem removeFacet_apply (id : String) (v : View) :
    removeFacet id v =
      match v.collection.facet? id with
      | none => (.ok none, v)
      | some f =>
        if f.hasRestrictions then
          match refresh (v.withoutFacet id) with
          | (.ok _, w) => (.ok (some f), w)
          | (.error failure, w) => (.error failure, w)
        else (.ok (some f), v.withoutFacet id) := by
  unfold removeFacet
  rw [bind_apply, state_apply]
  dsimp only
  cases v.collection.facet? id with
  | none => rfl
  | some f =>
    cases hr : f.hasRestrictions with
    | false =>
      simp only [hr, Bool.false_eq_true, if_false]
      rfl
    | true =>
      simp only [hr, if_true]
      show (refresh >>= fun _ => pure (some f)) (v.withoutFacet id) = _
      rw [bind_apply]
      generalize refresh (v.withoutFacet id) = result
      obtain ⟨outcome, w⟩ := result
      cases outcome <;> rfl

theorem atRest_removeFacet {v : View} (h : v.AtRest) (id : String) :
    (removeFacet id v).2.AtRest := by
  rw [removeFacet_apply]
  split
  · exact h
  · next f hf =>
    split
    · have hrefresh : (refresh (v.withoutFacet id)).2.AtRest := atRest_refresh h.updating
      split <;> next heq => rw [heq] at hrefresh; exact hrefresh
    · next hr =>
      exact ⟨matches_dropFacet h.isMatching hf (Bool.eq_false_iff.mpr hr), h.updating⟩

/-- What is done to a facet tells the truth: without reporting a change it leaves the facet with what
    it stands for. -/
def Truthful (act : Facet → Scene → Outcome Bool × Facet) : Prop :=
  ∀ f scene, (act f scene).1 ≠ .ok true → (act f scene).2.settled scene = f.settled scene

/-- The view with the facet at a place as an act leaves it. -/
def actedAt (v : View) (place : Nat) (act : Facet → Scene → Outcome Bool × Facet) (f : Facet) :
    View :=
  v.putFacet place (act f v.scene).2 v.store

theorem changeFacetBy_apply (id : String) (act : Facet → Scene → Outcome Bool × Facet) (v : View) :
    changeFacetBy id act v =
      match v.collection.place? id with
      | none => (.error (.data (.noFacet v.collection.id id)), v)
      | some place =>
        match v.collection.facets[place]? with
        | none => (.ok false, v)
        | some f =>
          match (act f v.scene).1 with
          | .error failure => (.error failure, v.actedAt place act f)
          | .ok false => (.ok false, v.actedAt place act f)
          | .ok true =>
            match facetChanged (v.actedAt place act f) with
            | (.ok _, w) => (.ok true, w)
            | (.error failure, w) => (.error failure, w) := by
  unfold changeFacetBy
  rw [bind_apply, state_apply]
  dsimp only
  cases v.collection.place? id with
  | none => rfl
  | some place =>
    simp only
    rw [bind_apply]
    unfold atPlace
    cases v.collection.facets[place]? with
    | none => rfl
    | some f =>
      simp only
      cases (act f v.scene).1 with
      | error failure => rfl
      | ok changed =>
        cases changed with
        | false => rfl
        | true =>
          show (facetChanged >>= fun _ => pure true) (v.actedAt place act f) = _
          rw [bind_apply]
          generalize facetChanged (v.actedAt place act f) = result
          obtain ⟨outcome, w⟩ := result
          cases outcome <;> rfl

theorem getElem?_of_place? {v : View} {id : String} {place : Nat}
    (h : v.collection.place? id = some place) : ∃ f, v.collection.facets[place]? = some f ∧ f.id = id := by
  obtain ⟨hlt, hid, -⟩ := List.findIdx?_eq_some_iff_getElem.mp h
  exact ⟨_, List.getElem?_eq_getElem hlt, eq_of_beq hid⟩

/-- What doing something to a facet comes to, if it succeeds. -/
theorem changeFacetBy_cases {v w : View} {id : String} {act : Facet → Scene → Outcome Bool × Facet}
    {changed : Bool} (h : changeFacetBy id act v = (.ok changed, w)) :
    ∃ place f, v.collection.place? id = some place ∧ v.collection.facets[place]? = some f ∧
      (act f v.scene).1 = .ok changed ∧ (changed = false ∧ w = v.actedAt place act f ∨
        changed = true ∧ facetChanged (v.actedAt place act f) = (.ok (), w)) := by
  rw [changeFacetBy_apply] at h
  cases hplace : v.collection.place? id with
  | none =>
    rw [hplace] at h
    cases h
  | some place =>
    obtain ⟨f, hf, -⟩ := getElem?_of_place? hplace
    rw [hplace] at h
    dsimp only at h
    rw [hf] at h
    dsimp only at h
    refine ⟨place, f, rfl, hf, ?_⟩
    split at h
    · cases h
    · next heq =>
      cases h
      exact ⟨heq, .inl ⟨rfl, rfl⟩⟩
    · next heq =>
      split at h
      · next hchanged =>
        cases h
        exact ⟨heq, .inr ⟨rfl, hchanged⟩⟩
      · cases h

/-- Where there is no facet to remove, nothing happens. -/
theorem removeFacet_none {v w : View} {id : String} (h : removeFacet id v = (.ok none, w)) :
    w = v := by
  rw [removeFacet_apply] at h
  cases hf : v.collection.facet? id with
  | none =>
    rw [hf] at h
    cases h
    rfl
  | some f =>
    rw [hf] at h
    dsimp only at h
    split at h
    · split at h <;> cases h
    · cases h

/-- What removing a facet comes to, if it succeeds. -/
theorem removeFacet_cases {v w : View} {id : String} {f : Facet}
    (h : removeFacet id v = (.ok (some f), w)) :
    v.collection.facet? id = some f ∧
      (f.hasRestrictions = true ∧ refresh (v.withoutFacet id) = (.ok (), w) ∨
        f.hasRestrictions = false ∧ w = v.withoutFacet id) := by
  rw [removeFacet_apply] at h
  split at h
  · cases h
  · next hf =>
    split at h
    · next hr =>
      split at h
      · next heq =>
        cases h
        exact ⟨hf, .inl ⟨hr, heq⟩⟩
      · cases h
    · next hr =>
      cases h
      exact ⟨hf, .inr ⟨Bool.eq_false_iff.mpr hr, rfl⟩⟩

theorem facetChanged_of_updating {v : View} (h : v.collection.updating = false) :
    facetChanged v = refresh v := by
  unfold facetChanged
  rw [bind_apply, state_apply]
  simp only [h, Bool.false_eq_true, if_false]

theorem atRest_changeFacetBy {v : View} (h : v.AtRest) (id : String)
    {act : Facet → Scene → Outcome Bool × Facet} (hact : Truthful act) :
    (changeFacetBy id act v).2.AtRest := by
  rw [changeFacetBy_apply]
  split
  · exact h
  · next place hplace =>
    split
    · exact h
    · next f hf =>
      have hsame : (act f v.scene).1 ≠ .ok true → (v.actedAt place act f).AtRest := fun hne =>
        (same_putFacet hf (hact f v.scene hne) (Store.Alike.refl _)).atRest h
      split
      · next failure heq =>
        refine hsame fun htrue => ?_
        rw [heq] at htrue
        cases htrue
      · next heq =>
        refine hsame fun htrue => ?_
        rw [heq] at htrue
        cases htrue
      · rw [facetChanged_of_updating (v := v.actedAt place act f) h.updating]
        have hrefresh : (refresh (v.actedAt place act f)).2.AtRest := atRest_refresh h.updating
        split <;> next heq => rw [heq] at hrefresh; exact hrefresh

theorem truthful_perform (change : Change) : Truthful fun f scene => f.perform scene change :=
  fun f scene h => f.settled_perform scene change h

/-! ## 4. Batches -/

/-- The view with the updates of facets held back, or not. -/
def withUpdating (v : View) (updating : Bool) : View :=
  { v with collection := { v.collection with updating } }

/-- The outcome of an action and then that of the refresh after it. -/
def bothOf {α : Type} (outcome : Outcome α) (refreshed : Outcome Unit) : Outcome α :=
  match outcome, refreshed with
  | .error failure, _ => .error failure
  | .ok _, .error failure => .error failure
  | .ok x, .ok _ => .ok x

/-- A batch refreshes after its action, whatever became of it. -/
theorem batch_apply {α : Type} (act : Action View α) (v : View) :
    batch act v =
      (bothOf (act (v.withUpdating true)).1
          (refresh ((act (v.withUpdating true)).2.withUpdating false)).1,
        (refresh ((act (v.withUpdating true)).2.withUpdating false)).2) := by
  show (attempt act >>= fun outcome => modify (fun c => { c with updating := false }) >>= fun _ =>
    attempt refresh >>= fun refreshed => ofOutcome outcome >>= fun x => ofOutcome refreshed >>=
      fun _ => pure x) (v.withUpdating true) = _
  rw [bind_apply, attempt_apply]
  show (attempt refresh >>= fun refreshed => ofOutcome (act (v.withUpdating true)).1 >>= fun x =>
    ofOutcome refreshed >>= fun _ => pure x) ((act (v.withUpdating true)).2.withUpdating false) = _
  rw [bind_apply, attempt_apply]
  dsimp only
  rw [bind_apply, ofOutcome_apply]
  cases (act (v.withUpdating true)).1 with
  | error failure => rfl
  | ok x =>
    dsimp only
    rw [bind_apply, ofOutcome_apply]
    cases (refresh ((act (v.withUpdating true)).2.withUpdating false)).1 <;> rfl

/-- A batch that succeeds has done so in its action and in the refresh. -/
theorem batch_ok {α : Type} {act : Action View α} {v w : View} {x : α}
    (h : batch act v = (.ok x, w)) :
    ∃ u, act (v.withUpdating true) = (.ok x, u) ∧ refresh (u.withUpdating false) = (.ok (), w) := by
  rw [batch_apply] at h
  cases hact : act (v.withUpdating true) with
  | mk outcome u =>
    rw [hact] at h
    cases hrefresh : refresh (u.withUpdating false) with
    | mk refreshed w' =>
      dsimp only at h
      rw [hrefresh] at h
      cases outcome with
      | error failure => cases h
      | ok y =>
        cases refreshed with
        | error failure => cases h
        | ok done =>
          cases h
          exact ⟨u, rfl, hrefresh⟩

theorem atRest_batch {α : Type} (act : Action View α) (v : View) : (batch act v).2.AtRest := by
  rw [batch_apply]
  exact atRest_refresh rfl

end View

/-! ## 5. Calls -/

/-- A call on a collection. -/
inductive Call where
  /-- The items of the store have changed. -/
  | reroot
  /-- The items that it is based on have changed. -/
  | setRoot (items : KeySet)
  | addFacet (facet : Facet)
  | removeFacet (id : String)
  | changeFacet (id : String) (change : Change)
  /-- Anything, with the updates of facets held back. -/
  | batch (act : Action View Unit)
  | clearAll
  | applyAll (states : List FacetState)

namespace Call

open View

/-- What a call leaves behind, whether it succeeds or fails. -/
def after (call : Call) (v : View) : View :=
  match call with
  | reroot => (View.reroot v).2
  | setRoot items => (View.setRoot items v).2
  | addFacet facet => (View.addFacet facet v).2
  | removeFacet id => (View.removeFacet id v).2
  | changeFacet id change => (View.changeFacet id change v).2
  | batch act => (View.batch act v).2
  | clearAll => (View.clearAll v).2
  | applyAll states => (View.applyAll states v).2

/-- **One call** keeps a collection at rest. -/
theorem atRest_after (call : Call) {v : View} (h : v.AtRest) : (call.after v).AtRest := by
  cases call with
  | reroot => exact atRest_reroot h
  | setRoot items => exact atRest_setRoot h items
  | addFacet facet => exact atRest_addFacet h facet
  | removeFacet id => exact atRest_removeFacet h id
  | changeFacet id change => exact atRest_changeFacetBy h id (truthful_perform change)
  | batch act => exact atRest_batch act v
  | clearAll => exact atRest_batch _ v
  | applyAll states => exact atRest_batch _ v

end Call

/-- A collection over a store after some calls. -/
def viewAfter (s : Store) (id : String) (source : ItemSource) (calls : List Call) : View :=
  calls.foldl (fun v call => call.after v) ⟨s, Collection.new id source⟩

theorem atRest_new (s : Store) (id : String) (source : ItemSource) :
    View.AtRest ⟨s, Collection.new id source⟩ :=
  ⟨fun _ hitems => Except.ok.inj hitems, rfl⟩

/-- **Restricted items always match whatever the facets hold**, as long as these do not ask for the time.
    After any calls on a collection, each at a moment of its own and each of which may have succeeded or
    failed, and at any moment from then on: if the facets, as they are, can be applied to the root items
    one after the other, then what they let through are the restricted items. -/
theorem restricted_of_calls {s : Store} {id : String} {source : ItemSource}
    {calls : List (Int × Call)}
    (hasks : NeverAsks View.asksTime View.atMoment Call.after calls ⟨s, Collection.new id source⟩)
    {moment : Int} {v : View}
    (hv : v = (runAt View.atMoment Call.after calls ⟨s, Collection.new id source⟩).atMoment moment)
    {items : KeySet}
    (h : v.scene.throughEach v.collection.facets v.collection.items = .ok items) :
    v.collection.restricted = items := by
  have hrun := runAt_keeps (fun _ moment hasks hw => View.AtRest.atMoment hw hasks moment)
    (fun call _ _ => call.2.atRest_after) hasks (atRest_new s id source)
  have hrest := hrun.atMoment hasks.finish moment
  rw [← hv] at hrest
  exact hrest.isMatching items h

/-- Two plants with their colours. -/
def plants : Store :=
  (Store.empty.addStatement "ash" "colour" "grey").addStatement "rose" "colour" "red"

/-- Red is selected by one facet, and a second later a state is handed over that does not fit. -/
def redPlants : List (Int × Call) :=
  [(0, .setRoot (KeySet.ofList ["ash", "rose"])),
    (0, .addFacet (.list (.new "byColour" (some ⟨".colour", .path ⟨none, [⟨"colour", true, false⟩]⟩⟩)))),
    (0, .changeFacet "byColour" (.select (KeySet.ofList ["red"]) false)),
    (1000, .changeFacet "byColour" (.apply (.text none)))]

theorem restricted_redPlants :
    NeverAsks View.asksTime View.atMoment Call.after redPlants ⟨plants, .new "plants" .allItems⟩ ∧
      ∃ v, v = (runAt View.atMoment Call.after redPlants ⟨plants, .new "plants" .allItems⟩).atMoment 2000 ∧
        v.scene.throughEach v.collection.facets v.collection.items = .ok (KeySet.ofList ["rose"]) ∧
        v.collection.restricted = KeySet.ofList ["rose"] := by
  have hasks : NeverAsks View.asksTime View.atMoment Call.after redPlants
      ⟨plants, .new "plants" .allItems⟩ := neverAsks_of_inits (by decide +kernel)
  exact ⟨hasks, _, rfl, rfl, restricted_of_calls hasks rfl rfl⟩

/-- A facet that lets through what has the present moment among the allowed values. -/
def atThisMoment : Facet := .derived (.new "moment" ⟨"now()", .call "now" []⟩)

/-- At the beginning of time the facet is restricted to that moment. A second later something is removed
    that is not there. -/
def pastMoment : List (Int × Call) :=
  [(0, .setRoot (KeySet.ofList ["ash"])), (0, .addFacet atThisMoment),
    (0, .changeFacet "moment" (.restrictTo (some (KeySet.ofList ["1970-01-01T00:00:00Z"])))),
    (1000, .removeFacet "colour")]

/-- **What asks for the time is left behind by the clock**: the facet lets nothing through any more, and
    the item is still among the restricted ones. -/
theorem restricted_of_pastMoment :
    ∃ v, v = runAt View.atMoment Call.after pastMoment ⟨plants, .new "plants" .allItems⟩ ∧
      v.scene.throughEach v.collection.facets v.collection.items = .ok ∅ ∧
      v.collection.restricted = KeySet.ofList ["ash"] :=
  ⟨_, rfl, rfl, rfl⟩

end Faceted
