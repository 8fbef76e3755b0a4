import Mathlib.Logic.Relation
import Faceted.Proofs.Collection.Displays
import Faceted.Proofs.Facet.Copies

/-!
# What facets keep at every moment

An operation on a collection goes by steps: the root items are taken and all that was kept is dropped, a
facet is used, one is put behind the others or taken away, or something is noted that facets do not
see. What facets keep is true after every step, so within operations as well, and whether they succeed
or fail. Between operations the clock moves on, which makes no difference to what does not ask for the
time.

* `View.Step`, `View.Steps`: the steps, and their sequences;
* **`View.keepsTrue_step`**: one step keeps what is true;
* `View.goesBySteps_refresh` and its like, **`Turn.steps_after`**: every operation goes by steps;
* `AllKeepTrue.atMoment`: so does the clock, unless an expression asks for the time;
* **`copies_at_every_moment`**: at every moment of a run what a facet keeps is what it would work out
  then, and the facet answers like a copy that keeps nothing. `copies_of_pastMoment` is a facet that asks
  for the time.
-/

namespace Faceted

namespace View

open Faceted.Action

/-! ## 1. Steps -/

/-- What becomes of a collection from one moment to the next. -/
inductive Step : View → View → Prop where
  /-- Root items are taken, maybe from another store, and all that was kept is dropped. -/
  | root (v : View) (store : Store) (items : KeySet) :
      Step v ⟨store, { v.collection with
        items, facets := v.collection.facets.map Facet.dropCaches }⟩
  /-- A facet is used; what that leaves of the store is taken over or not. -/
  | use {v : View} {place : Nat} {f g : Facet} {store kept : Store}
      (hf : v.collection.facets[place]? = some f) (h : f.Use v.scene g store)
      (hkept : kept = store ∨ kept = v.store) : Step v (v.putFacet place g kept)
  /-- A facet that has kept nothing so far is put behind the others. -/
  | add (v : View) {f : Facet} (h : f.dropCaches = f) : Step v (v.withFacet f)
  /-- Such a facet is used before it is put there. -/
  | addUsed {v : View} {f g : Facet} {store : Store} (h : f.dropCaches = f)
      (hg : f.Use v.scene g store) : Step v (({ v with store } : View).withFacet g)
  /-- A facet that does not come to be added leaves the store behind. -/
  | notAdded {v : View} {f g : Facet} {store : Store} (hg : f.Use v.scene g store) :
      Step v { v with store }
  | remove (v : View) (id : String) : Step v (v.withoutFacet id)
  /-- What facets do not see is noted. -/
  | note {v w : View} (hscene : w.scene = v.scene) (hfacets : w.collection.facets = v.collection.facets) :
      Step v w

/-- What becomes of a collection in the course of time. -/
def Steps : View → View → Prop := Relation.ReflTransGen Step

/-- What all facets keep is true. -/
def AllKeepTrue (v : View) : Prop := ∀ f ∈ v.collection.facets, f.KeepsTrue v.scene

/-- **One step** keeps what is true. -/
theorem keepsTrue_step {v w : View} (h : Step v w) (hv : v.AllKeepTrue) : w.AllKeepTrue := by
  cases h with
  | root store items =>
    intro g hg
    obtain ⟨f, -, rfl⟩ := List.mem_map.mp hg
    exact Facet.keepsTrue_of_memo_eq_none f.memo_dropCaches
  | @use place f g store kept hf h hkept =>
    have hstore : v.store.Alike kept := by
      rcases hkept with rfl | rfl
      · exact h.store_alike
      · exact Store.Alike.refl _
    have hscene : v.scene.Alike (v.putFacet place g kept).scene := ⟨hstore, rfl⟩
    intro g' hg'
    refine Facet.keepsTrue_alike hscene ?_
    rcases List.mem_or_eq_of_mem_set hg' with hg' | rfl
    · exact hv g' hg'
    · exact Facet.keepsTrue_use h (hv f (List.mem_of_getElem? hf))
  | @add f h =>
    intro g hg
    rcases List.mem_append.mp hg with hg | hg
    · exact hv g hg
    · rw [List.mem_singleton.mp hg, ← h]
      exact Facet.keepsTrue_of_memo_eq_none f.memo_dropCaches
  | @addUsed f g store h hg =>
    have hscene : v.scene.Alike (({ v with store } : View).withFacet g).scene := ⟨hg.store_alike, rfl⟩
    intro g' hg'
    refine Facet.keepsTrue_alike hscene ?_
    rcases List.mem_append.mp hg' with hg' | hg'
    · exact hv g' hg'
    · rw [List.mem_singleton.mp hg']
      refine Facet.keepsTrue_use hg (Facet.keepsTrue_of_memo_eq_none ?_)
      rw [← h, f.memo_dropCaches]
  | notAdded hg =>
    intro f hf
    exact Facet.keepsTrue_alike ⟨hg.store_alike, rfl⟩ (hv f hf)
  | remove id => exact fun f hf => hv f (List.mem_of_mem_eraseP hf)
  | note hscene hfacets =>
    intro f hf
    rw [hscene]
    exact hv f (hfacets ▸ hf)

theorem keepsTrue_steps {v w : View} (h : Steps v w) (hv : v.AllKeepTrue) : w.AllKeepTrue := by
  induction h with
  | refl => exact hv
  | tail _ hstep ih => exact keepsTrue_step hstep ih

/-- **The clock** keeps what is true, where no expression asks for the time. -/
theorem AllKeepTrue.atMoment {v : View} (hv : v.AllKeepTrue) (hasks : v.asksTime = false)
    (moment : Int) : (v.atMoment moment).AllKeepTrue := fun f hf =>
  Facet.keepsTrue_alikeFor (v.scene.alikeFor_atMoment (asksTime_eq_false hasks hf) moment) (hv f hf)

/-! ## 2. Operations go by steps -/

/-- Whether the action succeeds or fails, it goes by steps. -/
def GoesBySteps {α : Type} (act : Action View α) : Prop := Obeys (fun _ => Steps) act

theorem frame_steps : Frame fun _ => Steps :=
  ⟨fun _ _ => Relation.ReflTransGen.refl, Relation.ReflTransGen.trans⟩

theorem steps_note {v w : View} (hscene : w.scene = v.scene)
    (hfacets : w.collection.facets = v.collection.facets) : Steps v w :=
  .single (.note hscene hfacets)

theorem goesBySteps_atPlace {α : Type} {place : Nat} {otherwise : α}
    {act : Facet → Scene → Outcome α × Facet × Store}
    (h : ∀ f scene, f.Use scene (act f scene).2.1 (act f scene).2.2 ∨
      (act f scene).2 = (f, scene.store)) : GoesBySteps (atPlace place otherwise act) := by
  intro v
  unfold atPlace
  split
  · exact .refl
  · next f hf =>
    rcases h f v.scene with huse | hsame
    · exact .single (.use hf huse (.inl rfl))
    · refine steps_note ?_ ?_
      · show (⟨(act f v.scene).2.2, v.collection.items⟩ : Scene) = v.scene
        rw [hsame]
        rfl
      · show v.collection.facets.set place (act f v.scene).2.1 = v.collection.facets
        obtain ⟨hlt, rfl⟩ := List.getElem?_eq_some_iff.mp hf
        rw [hsame, List.set_getElem_self]

theorem goesBySteps_restrictAt (place : Nat) (items : KeySet) :
    GoesBySteps (restrictAt place items) := by
  refine goesBySteps_atPlace fun f scene => ?_
  split
  · exact .inl (.restrict items)
  · exact .inr rfl

theorem goesBySteps_updateAt (place : Nat) (items : KeySet) : GoesBySteps (updateAt place items) :=
  goesBySteps_atPlace fun _ _ => .inl (.update items)

theorem goesBySteps_narrow : ∀ (places : List Nat) (items : KeySet), GoesBySteps (narrow places items)
  | [], items => frame_steps.pure items
  | place :: rest, items =>
    frame_steps.bind (goesBySteps_restrictAt place items) (goesBySteps_narrow rest)

theorem goesBySteps_inputAt (several : Bool) (place : Nat) : GoesBySteps (inputAt several place) := by
  refine frame_steps.bind frame_steps.state fun v => ?_
  split
  · exact frame_steps.pure _
  · split
    · exact frame_steps.pure _
    · exact goesBySteps_narrow _ _

theorem goesBySteps_updateFacets : GoesBySteps updateFacets :=
  frame_steps.bind frame_steps.state fun v =>
    frame_steps.bind (frame_steps.collect (goesBySteps_inputAt _) v.places) fun _ =>
      frame_steps.each (fun (place, items) => goesBySteps_updateAt place items) _

/-- Changes of a collection that facets do not see. -/
theorem goesBySteps_modify {f : Collection → Collection} (hitems : ∀ c, (f c).items = c.items)
    (hfacets : ∀ c, (f c).facets = c.facets) : GoesBySteps (modify f) := fun v =>
  steps_note (congrArg (Scene.mk v.store) (hitems v.collection)) (hfacets v.collection)

theorem goesBySteps_refresh : GoesBySteps refresh :=
  frame_steps.bind
    (frame_steps.bind frame_steps.state fun _ =>
      frame_steps.bind (goesBySteps_narrow _ _) fun _ => goesBySteps_modify (fun _ => rfl) fun _ => rfl)
    fun _ => frame_steps.bind goesBySteps_updateFacets fun _ =>
      goesBySteps_modify (fun _ => rfl) fun _ => rfl

/-- Roots are taken in one step, over whatever store. -/
theorem steps_rootChanged (v : View) (store : Store) (items : KeySet) :
    Steps v (rootChanged ⟨store, { v.collection with items }⟩).2 := by
  let dropped : View := ⟨store, { v.collection with
    items, facets := v.collection.facets.map Facet.dropCaches }⟩
  have htold : Steps dropped (tell .rootItemsChanged dropped).2 := steps_note rfl rfl
  exact .head (.root v store items)
    (htold.trans (goesBySteps_refresh (tell .rootItemsChanged dropped).2))

theorem goesBySteps_addFacet {f : Facet} (h : f.dropCaches = f) : GoesBySteps (addFacet f) := by
  intro v
  unfold addFacet
  rw [bind_apply, state_apply]
  dsimp only
  split
  · exact .refl
  · split
    · exact .head (.add v h) (goesBySteps_refresh (v.withFacet f))
    · rw [bind_apply, updated_apply]
      have huse : f.Use v.scene (f.update v.scene v.collection.restricted).2.1
          (f.update v.scene v.collection.restricted).2.2 := .update v.collection.restricted
      generalize f.update v.scene v.collection.restricted = answer at huse ⊢
      obtain ⟨outcome, g, store⟩ := answer
      cases outcome with
      | error failure => exact .single (.notAdded huse)
      | ok done => exact .single (.addUsed h huse)

theorem goesBySteps_removeFacet (id : String) : GoesBySteps (removeFacet id) := by
  refine frame_steps.bind frame_steps.state fun v => ?_
  split
  · exact frame_steps.pure _
  · refine frame_steps.bind (fun w => .single (.remove w id)) fun _ => ?_
    split
    · exact frame_steps.bind goesBySteps_refresh fun _ => frame_steps.pure _
    · exact frame_steps.pure _

/-- A facet before and after any number of uses. -/
def UsedTo (scene : Scene) : Facet → Facet → Prop :=
  Relation.ReflTransGen fun f g => ∃ store, f.Use scene g store

/-- The act uses the facet any number of times. -/
def MadeOfUses (act : Facet → Scene → Outcome Bool × Facet) : Prop :=
  ∀ f scene, UsedTo scene f (act f scene).2

/-- The view with other facets. -/
def withFacets (v : View) (facets : List Facet) : View :=
  { v with collection := { v.collection with facets } }

theorem steps_putFacet {v : View} {place : Nat} {f g : Facet}
    (hf : v.collection.facets[place]? = some f)
    (h : UsedTo v.scene f g) : Steps v (v.putFacet place g v.store) := by
  obtain ⟨hlt, rfl⟩ := List.getElem?_eq_some_iff.mp hf
  induction h with
  | refl => exact steps_note rfl (List.set_getElem_self hlt)
  | @tail g g' _ huse ih =>
    obtain ⟨store, huse⟩ := huse
    have hg : (v.putFacet place g v.store).collection.facets[place]? = some g :=
      List.getElem?_set_self hlt
    have hstep := Step.use hg huse (.inr rfl)
    have hput : (v.putFacet place g v.store).putFacet place g' v.store =
        v.putFacet place g' v.store := by
      simp only [putFacet, List.set_set]
    rw [show (v.putFacet place g v.store).store = v.store from rfl, hput] at hstep
    exact ih.tail hstep

theorem goesBySteps_facetChanged : GoesBySteps facetChanged := by
  refine frame_steps.bind frame_steps.state fun v => ?_
  split
  · exact frame_steps.pure _
  · exact goesBySteps_refresh

theorem goesBySteps_changeFacetBy {id : String} {act : Facet → Scene → Outcome Bool × Facet}
    (hact : MadeOfUses act) : GoesBySteps (changeFacetBy id act) := by
  intro v
  rw [changeFacetBy_apply]
  split
  · exact .refl
  · next place _ =>
    split
    · exact .refl
    · next f hf =>
      have hacted : Steps v (v.actedAt place act f) := steps_putFacet hf (hact f v.scene)
      split
      · exact hacted
      · exact hacted
      · have hchanged := goesBySteps_facetChanged (v.actedAt place act f)
        split <;> next heq => rw [heq] at hchanged; exact hacted.trans hchanged

theorem goesBySteps_batch {α : Type} {act : Action View α} (hact : GoesBySteps act) :
    GoesBySteps (batch act) := by
  intro v
  rw [batch_apply]
  have hstart : Steps v (v.withUpdating true) := steps_note rfl rfl
  have hend : Steps (act (v.withUpdating true)).2 ((act (v.withUpdating true)).2.withUpdating false) :=
    steps_note rfl rfl
  exact ((hstart.trans (hact _)).trans hend).trans (goesBySteps_refresh _)

/-- All facets are used, one after the other. -/
theorem steps_withFacets {v : View} {fs gs : List Facet}
    (h : List.Forall₂ (UsedTo v.scene) fs gs) (front : List Facet) :
    Steps (v.withFacets (front ++ fs)) (v.withFacets (front ++ gs)) := by
  induction h generalizing front with
  | nil => exact .refl
  | @cons f g fs gs hfirst _ ih =>
    have hplace : (v.withFacets (front ++ f :: fs)).collection.facets[front.length]? = some f := by
      simp [withFacets]
    have hput := steps_putFacet hplace hfirst
    have hset : (v.withFacets (front ++ f :: fs)).putFacet front.length g v.store =
        v.withFacets (front ++ g :: fs) := by
      simp [putFacet, withFacets]
    have hrest := ih (front ++ [g])
    simp only [List.append_assoc, List.cons_append, List.nil_append] at hrest
    exact (hset ▸ hput).trans hrest

theorem goesBySteps_clearAll : GoesBySteps clearAll := by
  refine goesBySteps_batch fun v => steps_withFacets ?_ []
  rw [List.forall₂_map_right_iff]
  exact List.forall₂_same.mpr fun f _ => .single ⟨_, .perform .clear⟩

theorem usedTo_applyEach (scene : Scene) (fs : List Facet) (states : List FacetState) :
    List.Forall₂ (UsedTo scene) fs (applyEach fs states).2 := by
  induction fs generalizing states with
  | nil => exact .nil
  | cons f fs ih =>
    have hsame (fs : List Facet) : List.Forall₂ (UsedTo scene) fs fs :=
      List.forall₂_same.mpr fun _ _ => .refl
    cases states with
    | nil => exact hsame _
    | cons state states =>
      unfold applyEach
      split
      · exact hsame _
      · next g hg =>
        refine .cons (.single ⟨scene.store, ?_⟩) (ih states)
        have hperform : (f.perform scene (.apply state)).2 = g := by
          simp only [Facet.perform, hg]
          rfl
        exact hperform ▸ .perform (.apply state)

theorem goesBySteps_applyAll (states : List FacetState) : GoesBySteps (applyAll states) :=
  goesBySteps_batch fun v => steps_withFacets (usedTo_applyEach v.scene _ states) []

end View

/-! ## 3. Runs -/

namespace CollectionOperation

open View

/-- Facets are added as they were built, with nothing kept; and what is done in batches and to facets
    goes by steps as well. -/
def GoesBySteps : CollectionOperation → Prop
  | call (.addFacet f) => f.dropCaches = f
  | call (.batch act) => View.GoesBySteps act
  | withFacet _ act => MadeOfUses act
  | _ => True

/-- The operations that work out everything anew. -/
def takesRoot : CollectionOperation → Bool
  | call .reroot => true
  | call (.setRoot _) => true
  | _ => false

/-- **Every operation goes by steps.** -/
theorem steps_after {operation : CollectionOperation} (h : operation.GoesBySteps) (v : View) :
    Steps v (operation.after v) := by
  cases operation with
  | call c =>
    cases c with
    | reroot => exact steps_rootChanged v v.store v.rootItems
    | setRoot items => exact steps_rootChanged v v.store items
    | addFacet f => exact goesBySteps_addFacet h v
    | removeFacet id => exact goesBySteps_removeFacet id v
    | changeFacet id change =>
      exact goesBySteps_changeFacetBy (fun f scene => .single ⟨_, .perform change⟩) v
    | batch act => exact goesBySteps_batch h v
    | clearAll => exact goesBySteps_clearAll v
    | applyAll states => exact goesBySteps_applyAll states v
  | withFacet id act => exact goesBySteps_changeFacetBy h v
  | facetChanged => exact goesBySteps_facetChanged v
  | updateFacets => exact goesBySteps_updateFacets v

end CollectionOperation

/-- One turn of a run: an operation, maybe over another store than before. -/
structure Turn where
  store : Option Store
  operation : CollectionOperation

namespace Turn

/-- The store changes only immediately before the root is worked out anew. -/
structure Allowed (t : Turn) : Prop where
  goesBySteps : t.operation.GoesBySteps
  takesRoot : t.store.isSome = true → t.operation.takesRoot = true

def after (t : Turn) (v : View) : View :=
  t.operation.after { v with store := t.store.getD v.store }

/-- The view after the turns. -/
def afterAll (turns : List Turn) (v : View) : View := turns.foldl (fun v t => t.after v) v

theorem steps_after {t : Turn} (h : t.Allowed) (v : View) : View.Steps v (t.after v) := by
  obtain ⟨store, operation⟩ := t
  cases store with
  | none => exact CollectionOperation.steps_after h.goesBySteps v
  | some store =>
    have hroot : operation.takesRoot = true := h.takesRoot rfl
    cases operation with
    | call c =>
      cases c with
      | reroot => exact View.steps_rootChanged v store (View.rootItems { v with store })
      | setRoot items => exact View.steps_rootChanged v store items
      | _ => cases hroot
    | _ => cases hroot

theorem steps_afterAll {turns : List Turn} (h : ∀ t ∈ turns, t.Allowed) (v : View) :
    View.Steps v (afterAll turns v) := by
  induction turns generalizing v with
  | nil => exact .refl
  | cons t rest ih =>
    obtain ⟨hfirst, hrest⟩ := List.forall_mem_cons.mp h
    exact (steps_after hfirst v).trans (ih hrest _)

end Turn

/-- **At every moment what a facet keeps is what it would work out then, or nothing**, and the facet
    answers like a copy that keeps nothing. This holds after any turns, each at a moment of its own and
    whatever became of them, and after any steps from there, provided that no expression asks for the
    time; and every turn goes by steps, so it holds in the midst of operations. -/
theorem copies_at_every_moment {s : Store} {name : String} {source : ItemSource}
    {turns : List (Int × Turn)} (hturns : ∀ t ∈ turns, t.2.Allowed)
    (hasks : NeverAsks View.asksTime View.atMoment Turn.after turns ⟨s, Collection.new name source⟩)
    {moment : Int} {v w : View}
    (hv : v = (runAt View.atMoment Turn.after turns ⟨s, Collection.new name source⟩).atMoment moment)
    (hw : v.Steps w) :
    (∀ f ∈ w.collection.facets,
      (f.memo = none ∨ ∃ m, f.memo = some m ∧ f.memoFor w.scene = some (.ok m)) ∧
      (∀ items, Facet.SameAnswer (f.dropCaches.restrict w.scene items) (f.restrict w.scene items)) ∧
      (∀ items, Facet.SameAnswer (f.dropCaches.update w.scene items) (f.update w.scene items)) ∧
      ∀ change, (f.dropCaches.perform w.scene change).1 = (f.perform w.scene change).1 ∧
        (f.dropCaches.perform w.scene change).2.dropCaches =
          (f.perform w.scene change).2.dropCaches) ∧
    ∀ t : Turn, t.Allowed → w.Steps (t.after w) := by
  have hnew : View.AllKeepTrue ⟨s, Collection.new name source⟩ := fun f hf => by
    simp [Collection.new] at hf
  have hrun := runAt_keeps (fun _ moment hasks hu => View.AllKeepTrue.atMoment hu hasks moment)
    (fun t ht u hu => View.keepsTrue_steps (Turn.steps_after (hturns t ht) u) hu) hasks hnew
  have hkept := hrun.atMoment hasks.finish moment
  rw [← hv] at hkept
  have hw := View.keepsTrue_steps hw hkept
  refine ⟨fun f hf => ?_, fun t ht => Turn.steps_after ht w⟩
  have htrue := hw f hf
  refine ⟨?_, Facet.sameAnswer_restrict htrue, Facet.sameAnswer_update htrue,
    Facet.sameAnswer_perform htrue⟩
  cases hm : f.memo with
  | none => exact .inl rfl
  | some m => exact .inr ⟨m, rfl, htrue m hm⟩

/-- Colours are listed, then the ash is painted red. -/
def repainted : List (Int × Turn) :=
  [(0, ⟨none, .call (.setRoot (KeySet.ofList ["ash", "rose"]))⟩),
    (0, ⟨none, .call (.addFacet (colours "first"))⟩),
    (1000, ⟨some ((Store.empty.addStatement "ash" "colour" "red").addStatement "rose" "colour" "red"),
      .call (.setRoot (KeySet.ofList ["ash", "rose"]))⟩)]

/-- The list has worked out anew which plants have which colours, has kept it, and would find the same a
    second later. -/
theorem copies_repainted :
    (∀ t ∈ repainted, t.2.Allowed) ∧
    NeverAsks View.asksTime View.atMoment Turn.after repainted ⟨plants, .new "plants" .allItems⟩ ∧
    ∃ v f, v = (runAt View.atMoment Turn.after repainted
        ⟨plants, .new "plants" .allItems⟩).atMoment 2000 ∧ v.Steps v ∧
      v.collection.facets[0]? = some f ∧ f.memo.isSome = true ∧
      ∃ m, f.memo = some m ∧ f.memoFor v.scene = some (.ok m) := by
  have hallowed : ∀ t ∈ repainted, t.2.Allowed := by
    intro t ht
    simp only [repainted, List.mem_cons, List.not_mem_nil, or_false] at ht
    rcases ht with rfl | rfl | rfl
    · exact ⟨trivial, fun h => by cases h⟩
    · exact ⟨rfl, fun h => by cases h⟩
    · exact ⟨trivial, fun _ => rfl⟩
  have hasks : NeverAsks View.asksTime View.atMoment Turn.after repainted
      ⟨plants, .new "plants" .allItems⟩ := neverAsks_of_inits (by decide +kernel)
  have hf : ((runAt View.atMoment Turn.after repainted
      ⟨plants, .new "plants" .allItems⟩).atMoment 2000).collection.facets[0]? = some _ := rfl
  obtain ⟨hfacets, -⟩ := copies_at_every_moment hallowed hasks rfl .refl
  obtain ⟨hkept, -⟩ := hfacets _ (List.mem_of_getElem? hf)
  refine ⟨hallowed, hasks, _, _, rfl, .refl, hf, rfl, ?_⟩
  rcases hkept with hnone | hsome
  · cases hnone
  · exact hsome

/-- At the beginning of time a list of the present moments is set up, and the one moment there is then is
    selected. -/
def firstMoment : List (Int × Turn) :=
  [(0, ⟨none, .call (.setRoot (KeySet.ofList ["ash"]))⟩),
    (0, ⟨none, .call (.addFacet (.list (.new "moment" (some ⟨"now()", .call "now" []⟩))))⟩),
    (0, ⟨none, .call (.changeFacet "moment"
      (.select (KeySet.ofList ["1970-01-01T00:00:00Z"]) false))⟩)]

/-- **What asks for the time is kept for longer than it holds**: a second later the list still lets the
    ash through, and a copy that keeps nothing does not. -/
theorem copies_of_pastMoment :
    (∀ t ∈ firstMoment, t.2.Allowed) ∧
    ∃ v f, v = (runAt View.atMoment Turn.after firstMoment
        ⟨plants, .new "plants" .allItems⟩).atMoment 1000 ∧
      v.collection.facets[0]? = some f ∧
      (f.restrict v.scene v.collection.items).1 = .ok (KeySet.ofList ["ash"]) ∧
      (f.dropCaches.restrict v.scene v.collection.items).1 = .ok ∅ := by
  refine ⟨fun t ht => ?_, _, _, rfl, rfl, rfl, rfl⟩
  simp only [firstMoment, List.mem_cons, List.not_mem_nil, or_false] at ht
  rcases ht with rfl | rfl | rfl
  · exact ⟨trivial, fun h => by cases h⟩
  · exact ⟨rfl, fun h => by cases h⟩
  · exact ⟨trivial, fun h => by cases h⟩

end Faceted
