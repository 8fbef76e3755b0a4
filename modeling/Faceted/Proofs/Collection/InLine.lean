import Faceted.Browser.Bookmark
import Faceted.Proofs.Collection.Matching
import Faceted.Proofs.Facet.Fresh

/-!
# Collections in line with their store

A collection is in line with its store if its facets keep what holds and its restricted items are what
they let through of the root. Every call that succeeds leaves a collection in line; most need that it
was in line before, those that give it a root do not.

* `View.InLine` is the invariant, `InLine.throughEach_fresh` its meaning: copies of the facets that
  keep nothing let the restricted items through;
* `View.Reworked`: what a refresh may change, the restricted items and what is kept and shown;
  `View.Kin`: what changes to selections leave alone;
* one lemma for each call says what becomes of root, facets and restricted items
  (`setRoot_ok`, `reroot_ok`, `addFacet_ok`, `removeFacet_ok`, `changeFacetBy_ok`, `restoreFacets_ok`).
-/

namespace Faceted

/-! ## 1. Roles of facets -/

namespace Facet

/-- What neither clicks nor counting change: the id, and for a facet that narrows the base of another
    collection the expression. -/
def role : Facet → String × Option Expression
  | .derived f => (f.id, some f.expression)
  | f => (f.id, none)

@[simp] theorem role_settled (f : Facet) (scene : Scene) : (f.settled scene).role = f.role := by
  cases f <;> rfl

@[simp] theorem role_dropCaches (f : Facet) : f.dropCaches.role = f.role := by
  cases f <;> rfl

@[simp] theorem role_clear (f : Facet) : f.clear.2.role = f.role := by
  cases f <;> rfl

theorem role_apply {f g : Facet} {state : FacetState} (h : f.apply state = .ok g) :
    g.role = f.role := by
  cases f <;> cases state <;> cases h <;> rfl

theorem role_orStay {f : Facet} {answer : Outcome (Bool × Facet)}
    (h : ∀ changed g, answer = .ok (changed, g) → g.role = f.role) :
    (f.orStay answer).2.role = f.role := by
  cases answer with
  | error failure => rfl
  | ok result => exact h result.1 result.2 rfl

theorem role_importState {f g : Facet} {state : FacetState} {changed : Bool}
    (h : f.importState state = .ok (changed, g)) : g.role = f.role := by
  unfold importState at h
  split at h
  · cases h
    rfl
  · split at h
    · cases h
      exact role_clear f
    · cases ha : f.apply state with
      | error failure =>
        rw [ha] at h
        cases h
      | ok g' =>
        rw [ha] at h
        cases h
        exact role_apply ha

theorem role_onList {f : Facet} {act : ListFacet → Bool × ListFacet}
    (hact : ∀ l, (act l).2.id = l.id) : (f.onList act).2.role = f.role := by
  cases f with
  | list l => exact congrArg (·, none) (hact l)
  | cloud c => exact congrArg (·, none) (hact c.list)
  | _ => rfl

theorem role_onTextSearch {f : Facet} {act : TextSearchFacet → Bool × TextSearchFacet}
    (hact : ∀ t, (act t).2.id = t.id) : (f.onTextSearch act).2.role = f.role := by
  cases f with
  | textSearch t => exact congrArg (·, none) (hact t)
  | _ => rfl

theorem role_onNumbers {f : Facet} {act : NumericRangeFacet → Bool × NumericRangeFacet}
    (hact : ∀ n, (act n).2.id = n.id) : (f.onNumbers act).2.role = f.role := by
  cases f with
  | numericRange n => exact congrArg (·, none) (hact n)
  | _ => rfl

theorem id_setText (f : TextSearchFacet) (text : String) : (f.setText text).2.id = f.id := by
  simp only [TextSearchFacet.setText]

theorem id_input (f : TextSearchFacet) (text : String) (now : Nat) (enter : Bool) :
    (f.input text now enter).2.id = f.id := by
  unfold TextSearchFacet.input
  split
  · exact id_setText _ text
  · split <;> rfl

theorem id_poll (f : TextSearchFacet) (now : Nat) : (f.poll now).2.id = f.id := by
  unfold TextSearchFacet.poll
  split
  · exact id_setText _ _
  · rfl

theorem id_toggle (f : HierarchicalFacet) (scene : Scene) (n : NodeSelection) (only : Bool) :
    (f.toggle scene n only).2.id = f.id := by
  have htree : (f.getTree scene).2.id = f.id :=
    (congrArg HierarchicalFacet.id (f.settled_getTree scene (f.getTree scene).2.entries) :)
  unfold HierarchicalFacet.toggle
  dsimp only
  split
  · rfl
  · split
    · rfl
    · split <;> next heq => rw [heq] at htree; exact htree

theorem role_perform (f : Facet) (scene : Scene) (change : Change) :
    (f.perform scene change).2.role = f.role := by
  cases change with
  | importState state => exact role_orStay fun _ _ h => role_importState h
  | apply state =>
    refine role_orStay fun changed g h => ?_
    cases ha : f.apply state with
    | error failure =>
      rw [ha] at h
      cases h
    | ok g' =>
      rw [ha] at h
      cases h
      exact role_apply ha
  | clear => exact role_clear f
  | toggleValue value only =>
    refine role_onList fun l => ?_
    obtain ⟨values, missing, heq⟩ := l.toggle_eq_select value only
    rw [heq]
    rfl
  | select values missing => exact role_onList fun _ => rfl
  | toggleNumbers low high only => exact role_onNumbers fun _ => rfl
  | setNumbers low high selected => exact role_onNumbers fun _ => rfl
  | toggleLetters low high only => cases f <;> rfl
  | toggleNode node only =>
    cases f with
    | hierarchical f => exact congrArg (·, none) (id_toggle f scene node only)
    | _ => rfl
  | restrictTo allowed => cases f <;> rfl
  | setText text => exact role_onTextSearch fun t => id_setText t text
  | input text now enter => exact role_onTextSearch fun t => id_input t text now enter
  | poll now => exact role_onTextSearch fun t => id_poll t now
  | requireEnter on => exact role_onTextSearch fun _ => rfl

/-- A facet that a user sets up narrows the base of no other collection. -/
theorem role_build {config : FacetConfig} {settings : Settings} {place : Nat} {f : Facet}
    (h : config.build settings place = .ok f) : f.role.2 = none := by
  unfold FacetConfig.build at h
  cases hclass : config.class? with
  | error failure =>
    rw [hclass] at h
    cases h
  | ok c =>
    rw [hclass] at h
    cases c <;> (rw [← Except.ok.inj h]; rfl)

end Facet

theorem role_fst (f : Facet) : f.role.1 = f.id := by
  cases f <;> rfl

theorem ids_eq_of_roles {fs gs : List Facet} (h : fs.map Facet.role = gs.map Facet.role) :
    fs.map Facet.id = gs.map Facet.id := by
  have hids := congrArg (List.map Prod.fst) h
  simpa only [List.map_map, Function.comp_def, role_fst] using hids

/-! ## 2. Acts on facets -/

/-- What may be done to a facet: it tells the truth, keeps the facet fresh and leaves its role
    alone. -/
structure Sound (act : Facet → Scene → Outcome Bool × Facet) : Prop where
  truthful : View.Truthful act
  fresh : ∀ f scene, f.Fresh scene → (act f scene).2.Fresh scene
  role : ∀ f scene, (act f scene).2.role = f.role

theorem sound_perform (change : Change) : Sound fun f scene => f.perform scene change where
  truthful := View.truthful_perform change
  fresh _ _ hf := Facet.fresh_perform hf change
  role f scene := f.role_perform scene change

theorem sound_typeInto (text : String) (now : Nat) (enter : Bool) :
    Sound (Browser.typeInto text now enter) where
  truthful f scene h := by
    cases f with
    | textSearch t => exact Facet.settled_perform _ scene (.input text now enter) h
    | _ => rfl
  fresh f scene hf := by
    cases f with
    | textSearch t => exact Facet.fresh_perform hf (.input text now enter)
    | _ => exact hf
  role f scene := by
    cases f with
    | textSearch t => exact Facet.role_perform _ scene (.input text now enter)
    | _ => rfl

/-- Taking over the state that a facet is given. -/
theorem sound_importState (target : Facet → FacetState) :
    Sound fun f _ => f.orStay (f.importState (target f)) where
  truthful f scene h := f.settled_perform scene (.importState (target f)) h
  fresh f _ hf := Facet.fresh_perform hf (.importState (target f))
  role f scene := f.role_perform scene (.importState (target f))

namespace View

open Faceted.Action

/-! ## 3. The invariant -/

/-- All facets are fresh. -/
def AllFresh (v : View) : Prop := ∀ f ∈ v.collection.facets, f.Fresh v.scene

structure InLine (v : View) : Prop where
  fresh : v.AllFresh
  narrowed : v.scene.throughEach v.collection.facets v.collection.items =
    .ok v.collection.restricted
  updating : v.collection.updating = false

/-- **The clock** leaves a collection in line whose facets do not ask for the time. -/
theorem InLine.atMoment {v : View} (hv : v.InLine) (hasks : v.asksTime = false) (moment : Int) :
    (v.atMoment moment).InLine where
  fresh f hf :=
    Facet.fresh_alikeFor (v.scene.alikeFor_atMoment (asksTime_eq_false hasks hf) moment) (hv.fresh f hf)
  narrowed :=
    (Scene.throughEach_atMoment (fun _ hf => asksTime_eq_false hasks hf) v.scene moment
      v.collection.items).symm.trans hv.narrowed
  updating := hv.updating

theorem Same.allFresh {v w : View} (h : v.Same w) (hv : v.AllFresh) : w.AllFresh := by
  intro g hg
  have hmem : g.settled w.scene ∈ v.collection.facets.map (Facet.settled · v.scene) := by
    rw [h.facets]
    exact List.mem_map_of_mem hg
  obtain ⟨f, hf, heq⟩ := List.mem_map.mp hmem
  refine Facet.fresh_of_settled (f := f) ?_ (Facet.fresh_alike h.scene (hv f hf))
  rw [← heq, Facet.settled_alike h.scene]

theorem Same.inLine {v w : View} (h : v.Same w) (hv : v.InLine) : w.InLine where
  fresh := h.allFresh hv.fresh
  narrowed := by rw [← h.throughEach, ← h.items, hv.narrowed, h.restricted]
  updating := h.updating.symm.trans hv.updating

/-- Copies of the facets that keep nothing let the restricted items through. -/
theorem InLine.throughEach_fresh {v : View} (h : v.InLine) :
    v.scene.throughEach (v.collection.facets.map Facet.dropCaches) v.collection.items =
      .ok v.collection.restricted := by
  rw [← h.narrowed]
  refine Scene.throughEach_congr (Scene.Alike.refl _) ?_ _
  rw [List.map_map]
  exact List.map_congr_left fun f hf => (h.fresh f hf).symm

/-- A view after a refresh: apart from what is kept, shown and told only the restricted items may be
    others. -/
def Reworked (v w : View) : Prop := (v.withRestricted w.collection.restricted).Same w

namespace Reworked

variable {v w : View}

theorem of_same (h : v.Same w) : v.Reworked w :=
  ⟨h.store, h.id, h.source, h.items, rfl, h.updating, h.facets⟩

theorem roles (h : v.Reworked w) :
    v.collection.facets.map Facet.role = w.collection.facets.map Facet.role := by
  have hroles := congrArg (List.map Facet.role) h.facets
  simp only [List.map_map, Function.comp_def, Facet.role_settled] at hroles
  exact hroles

theorem allFresh (h : v.Reworked w) (hv : v.AllFresh) : w.AllFresh :=
  Same.allFresh h (v := v.withRestricted w.collection.restricted) hv

end Reworked

theorem Same.roles {v w : View} (h : v.Same w) :
    v.collection.facets.map Facet.role = w.collection.facets.map Facet.role :=
  (Reworked.of_same h).roles

/-- **A refresh that succeeds brings a collection in line**, if its facets are fresh. -/
theorem refresh_ok {v w : View} (h : refresh v = (.ok (), w)) :
    v.Reworked w ∧ (v.AllFresh → v.collection.updating = false → w.InLine) := by
  cases hroot : v.scene.throughEach v.collection.facets v.collection.items with
  | error failure =>
    have hfails := (refresh_of_error hroot).1
    rw [h] at hfails
    cases hfails
  | ok restricted =>
    have hsame := refresh_of_ok hroot
    rw [h] at hsame
    refine ⟨?_, fun hfresh hupdating => hsame.inLine ⟨hfresh, hroot, hupdating⟩⟩
    have heq : w.collection.restricted = restricted := hsame.restricted.symm
    unfold Reworked
    rw [heq]
    exact hsame

/-! ## 4. What calls leave alone -/

/-- The views differ at most in selections, in the restricted items and in what `Same` forgets. -/
structure Kin (v w : View) : Prop where
  store : v.store.Alike w.store
  id : v.collection.id = w.collection.id
  source : v.collection.source = w.collection.source
  items : v.collection.items = w.collection.items
  updating : v.collection.updating = false → w.collection.updating = false
  roles : v.collection.facets.map Facet.role = w.collection.facets.map Facet.role

theorem Kin.trans {u v w : View} (h : u.Kin v) (h' : v.Kin w) : u.Kin w where
  store := h.store.trans h'.store
  id := h.id.trans h'.id
  source := h.source.trans h'.source
  items := h.items.trans h'.items
  updating := h'.updating ∘ h.updating
  roles := h.roles.trans h'.roles

theorem Reworked.kin {v w : View} (h : v.Reworked w) : v.Kin w :=
  ⟨h.store, h.id, h.source, h.items, h.updating.symm.trans, h.roles⟩

theorem Same.kin {v w : View} (h : v.Same w) : v.Kin w := (Reworked.of_same h).kin

theorem kin_actedAt {v : View} {place : Nat} {f : Facet}
    {act : Facet → Scene → Outcome Bool × Facet} (hact : Sound act)
    (hf : v.collection.facets[place]? = some f) : v.Kin (v.actedAt place act f) where
  store := Store.Alike.refl _
  id := rfl
  source := rfl
  items := rfl
  updating := fun hupdating => hupdating
  roles := (map_set_of_eq hf (hact.role f v.scene)).symm

theorem allFresh_actedAt {v : View} (hv : v.AllFresh) {place : Nat} {f : Facet}
    {act : Facet → Scene → Outcome Bool × Facet} (hact : Sound act)
    (hf : v.collection.facets[place]? = some f) : (v.actedAt place act f).AllFresh := by
  intro g hg
  rcases List.mem_or_eq_of_mem_set hg with hg | rfl
  · exact hv g hg
  · exact hact.fresh f v.scene (hv f (List.mem_of_getElem? hf))

/-! ## 5. Root items -/

/-- The view with other root items. -/
def withItems (v : View) (items : KeySet) : View :=
  { v with collection := { v.collection with items } }

/-- Whatever fails, other root items change only what a refresh may change and what is kept. -/
theorem kin_rootChanged (v : View) : v.Kin (rootChanged v).2 := by
  have hkin := (same_refresh { v with collection := { v.collection with
      facets := v.collection.facets.map Facet.dropCaches
      told := v.collection.told ++ [.rootItemsChanged] } }).kin
  refine ⟨hkin.store, hkin.id, hkin.source, hkin.items, hkin.updating, ?_⟩
  refine Eq.trans ?_ hkin.roles
  simp only [withRestricted, List.map_map, Function.comp_def, Facet.role_dropCaches]

theorem kin_setRoot (items : KeySet) (v : View) : (v.withItems items).Kin (setRoot items v).2 :=
  kin_rootChanged (v.withItems items)

theorem kin_reroot (v : View) : (v.withItems v.rootItems).Kin (reroot v).2 :=
  kin_rootChanged (v.withItems v.rootItems)

theorem rootChanged_ok {v w : View} (h : rootChanged v = (.ok (), w)) :
    v.Kin w ∧ (v.collection.updating = false → w.InLine) := by
  have hfresh : AllFresh { v with collection := { v.collection with
      facets := v.collection.facets.map Facet.dropCaches
      told := v.collection.told ++ [.rootItemsChanged] } } := by
    intro g hg
    obtain ⟨f, -, rfl⟩ := List.mem_map.mp hg
    exact f.fresh_dropCaches _
  have hkin := v.kin_rootChanged
  rw [h] at hkin
  exact ⟨hkin, (refresh_ok h).2 hfresh⟩

theorem setRoot_ok {v w : View} {items : KeySet} (h : setRoot items v = (.ok (), w)) :
    (v.withItems items).Kin w ∧ (v.collection.updating = false → w.InLine) :=
  rootChanged_ok (v := v.withItems items) h

theorem reroot_ok {v w : View} (h : reroot v = (.ok (), w)) :
    (v.withItems v.rootItems).Kin w ∧ (v.collection.updating = false → w.InLine) :=
  rootChanged_ok (v := v.withItems v.rootItems) h

/-! ## 6. Facets -/

/-- The view with one more facet. -/
def withFacet (v : View) (f : Facet) : View := { v with collection := v.collection.pushFacet f }

theorem addFacet_apply (f : Facet) (v : View) :
    addFacet f v =
      if v.collection.hasFacet f.id then (.error (.data (.facetExists v.collection.id f.id)), v)
      else if f.hasRestrictions then refresh (v.withFacet f)
      else
        match f.update v.scene v.collection.restricted with
        | (.ok (), g, store) => (.ok (), ({ v with store } : View).withFacet g)
        | (.error failure, _, store) => (.error failure, { v with store }) := by
  unfold addFacet
  rw [bind_apply, state_apply]
  dsimp only
  split
  · rfl
  · split
    · rfl
    · rw [bind_apply, updated_apply]
      generalize f.update v.scene v.collection.restricted = answer
      obtain ⟨outcome, g, store⟩ := answer
      cases outcome <;> rfl

theorem allFresh_withFacet {v : View} (hv : v.AllFresh) {f : Facet} (hf : f.Fresh v.scene) :
    (v.withFacet f).AllFresh := by
  intro g hg
  rcases List.mem_append.mp hg with hg | hg
  · exact hv g hg
  · rw [List.mem_singleton.mp hg]
    exact hf

theorem allFresh_withoutFacet {v : View} (hv : v.AllFresh) (id : String) :
    (v.withoutFacet id).AllFresh := fun g hg => hv g (List.mem_of_mem_eraseP hg)

theorem same_withFacet {v : View} {f g : Facet} {store : Store} (hstore : v.store.Alike store)
    (hg : g.settled v.scene = f.settled v.scene) :
    (v.withFacet f).Same (({ v with store } : View).withFacet g) := by
  have hscene : v.scene.Alike ({ v with store } : View).scene := ⟨hstore, rfl⟩
  refine ⟨hstore, rfl, rfl, rfl, rfl, rfl, ?_⟩
  show (v.collection.facets ++ [f]).map (Facet.settled · v.scene) =
    (v.collection.facets ++ [g]).map (Facet.settled · ({ v with store } : View).scene)
  simp only [← Facet.settled_alike hscene, List.map_append, List.map_cons, List.map_nil, hg]

/-- What adding a facet comes to, if it succeeds. -/
theorem addFacet_cases {v w : View} {f : Facet} (h : addFacet f v = (.ok (), w)) :
    v.collection.hasFacet f.id = false ∧
      (f.hasRestrictions = true ∧ refresh (v.withFacet f) = (.ok (), w) ∨
        f.hasRestrictions = false ∧ ∃ g store,
          f.update v.scene v.collection.restricted = (.ok (), g, store) ∧
            w = ({ v with store } : View).withFacet g) := by
  rw [addFacet_apply] at h
  split at h
  · cases h
  · next hid =>
    refine ⟨Bool.eq_false_iff.mpr hid, ?_⟩
    split at h
    · next hr => exact .inl ⟨hr, h⟩
    · next hr =>
      refine .inr ⟨Bool.eq_false_iff.mpr hr, ?_⟩
      split at h
      · next g store hupdate =>
        cases h
        exact ⟨g, store, hupdate, rfl⟩
      · cases h

/-- A facet that has been added stands behind the others; only one that restricts changes the
    restricted items. -/
theorem addFacet_ok {v w : View} {f : Facet} (h : addFacet f v = (.ok (), w)) :
    v.collection.hasFacet f.id = false ∧ (v.withFacet f).Kin w ∧
      (v.InLine → f.Fresh v.scene → w.InLine) ∧
      (f.hasRestrictions = false → w.collection.restricted = v.collection.restricted) := by
  obtain ⟨hid, ⟨hr, hrefresh⟩ | ⟨hr, g, store, hupdate, rfl⟩⟩ := addFacet_cases h
  · obtain ⟨hreworked, hline⟩ := refresh_ok hrefresh
    refine ⟨hid, hreworked.kin, fun hv hf => ?_, fun hr' => ?_⟩
    · exact hline (allFresh_withFacet hv.fresh hf) hv.updating
    · rw [hr] at hr'
      cases hr'
  · have hsettled := f.settled_update v.scene v.collection.restricted
    have hstore := f.update_store_alike v.scene v.collection.restricted
    rw [hupdate] at hsettled hstore
    have hsame := same_withFacet hstore hsettled
    refine ⟨hid, hsame.kin, fun hv hf => hsame.inLine ?_, fun _ => rfl⟩
    refine ⟨allFresh_withFacet hv.fresh hf, ?_, hv.updating⟩
    have hpush := Scene.throughEach_append_of_not_hasRestrictions v.scene
      v.collection.facets [] hr v.collection.items
    rw [List.append_nil, hv.narrowed] at hpush
    exact hpush

/-- A facet that has been removed is gone; only one that restricted changes the restricted items. -/
theorem removeFacet_ok {v w : View} {id : String} {f : Facet}
    (h : removeFacet id v = (.ok (some f), w)) :
    (v.withoutFacet id).Kin w ∧ (v.InLine → w.InLine) ∧
      (f.hasRestrictions = false → w.collection.restricted = v.collection.restricted) := by
  obtain ⟨hf, ⟨hr, hrefresh⟩ | ⟨hr, rfl⟩⟩ := removeFacet_cases h
  · obtain ⟨hreworked, hline⟩ := refresh_ok hrefresh
    refine ⟨hreworked.kin, fun hv => ?_, fun hr' => ?_⟩
    · exact hline (allFresh_withoutFacet hv.fresh id) hv.updating
    · rw [hr] at hr'
      cases hr'
  · refine ⟨(Same.refl (v.withoutFacet id)).kin, fun hv => ?_, fun _ => rfl⟩
    refine ⟨allFresh_withoutFacet hv.fresh id, ?_, hv.updating⟩
    exact (throughEach_dropFacet hf hr v.scene v.collection.items).trans hv.narrowed

theorem facetChanged_of_held {v : View} (h : v.collection.updating = true) :
    facetChanged v = (.ok (), v) := by
  unfold facetChanged
  rw [bind_apply, state_apply]
  simp only [h, if_true]
  rfl

/-- Something done to a facet that reports no change leaves everything as it stood. -/
theorem same_of_unreported {v : View} {place : Nat} {f : Facet}
    {act : Facet → Scene → Outcome Bool × Facet} (hact : Truthful act)
    (hf : v.collection.facets[place]? = some f) (h : (act f v.scene).1 = .ok false) :
    v.Same (v.actedAt place act f) := by
  refine same_putFacet hf (hact f v.scene ?_) (Store.Alike.refl _)
  rw [h]
  exact fun htrue => Bool.false_ne_true (Except.ok.inj htrue)

theorem same_of_changeFacetBy {v w : View} {id : String}
    {act : Facet → Scene → Outcome Bool × Facet} (h : changeFacetBy id act v = (.ok false, w))
    (hact : Truthful act) : v.Same w := by
  obtain ⟨place, f, -, hf, hanswer, ⟨-, rfl⟩ | ⟨hfalse, -⟩⟩ := changeFacetBy_cases h
  · exact same_of_unreported hact hf hanswer
  · cases hfalse

/-- Something done to a facet; if it reports no change, the restricted items are the same. -/
theorem changeFacetBy_ok {v w : View} {id : String} {act : Facet → Scene → Outcome Bool × Facet}
    {changed : Bool} (h : changeFacetBy id act v = (.ok changed, w)) (hact : Sound act) :
    v.Kin w ∧ (v.InLine → w.InLine) ∧
      (changed = false → w.collection.restricted = v.collection.restricted) := by
  obtain ⟨place, f, -, hf, hanswer, ⟨rfl, rfl⟩ | ⟨rfl, hchanged⟩⟩ := changeFacetBy_cases h
  · have hsame := same_of_unreported hact.truthful hf hanswer
    exact ⟨hsame.kin, hsame.inLine, fun _ => rfl⟩
  · have hkin := kin_actedAt hact hf
    cases hupdating : v.collection.updating with
    | true =>
      rw [facetChanged_of_held (v := v.actedAt place act f) hupdating] at hchanged
      cases hchanged
      refine ⟨hkin, fun hv => ?_, fun hfalse => by cases hfalse⟩
      rw [hv.updating] at hupdating
      cases hupdating
    | false =>
      rw [facetChanged_of_updating (v := v.actedAt place act f) hupdating] at hchanged
      obtain ⟨hreworked, hline⟩ := refresh_ok hchanged
      refine ⟨hkin.trans hreworked.kin, fun hv => ?_, fun hfalse => by cases hfalse⟩
      exact hline (allFresh_actedAt hv.fresh hact hf) hupdating

/-! ## 7. Batches -/

/-- Something done to a facet while a batch is under way. -/
theorem changeFacetBy_held {v w : View} {id : String} {act : Facet → Scene → Outcome Bool × Facet}
    {changed : Bool} (h : changeFacetBy id act v = (.ok changed, w)) (hact : Sound act)
    (hupdating : v.collection.updating = true) :
    v.Kin w ∧ (v.AllFresh → w.AllFresh) ∧ w.collection.updating = true ∧
      (changed = false → v.Same w) := by
  obtain ⟨place, f, -, hf, hanswer, hafter⟩ := changeFacetBy_cases h
  have hkin := kin_actedAt hact hf
  have hfresh (hv : v.AllFresh) := allFresh_actedAt hv hact hf
  rcases hafter with ⟨rfl, rfl⟩ | ⟨rfl, hchanged⟩
  · exact ⟨hkin, hfresh, hupdating, fun _ => same_of_unreported hact.truthful hf hanswer⟩
  · rw [facetChanged_of_held (v := v.actedAt place act f) hupdating] at hchanged
    cases hchanged
    exact ⟨hkin, hfresh, hupdating, fun hfalse => by cases hfalse⟩

/-- The same done to facet after facet. -/
theorem collect_changeFacetBy_held {act : Facet → Scene → Outcome Bool × Facet} (hact : Sound act)
    {ids : List String} {v w : View} {answers : List Bool}
    (h : collect (fun id => changeFacetBy id act) ids v = (.ok answers, w))
    (hupdating : v.collection.updating = true) :
    v.Kin w ∧ (v.AllFresh → w.AllFresh) ∧ (answers.any id = false → v.Same w) := by
  induction ids generalizing v answers with
  | nil =>
    cases h
    exact ⟨(Same.refl _).kin, fun hv => hv, fun _ => Same.refl _⟩
  | cons id ids ih =>
    unfold collect at h
    rw [bind_apply] at h
    cases hfirst : changeFacetBy id act v with
    | mk outcome u =>
      rw [hfirst] at h
      cases outcome with
      | error failure => cases h
      | ok changed =>
        obtain ⟨hkin, hfresh, hu, hsame⟩ := changeFacetBy_held hfirst hact hupdating
        dsimp only at h
        rw [bind_apply] at h
        cases hrest : collect (fun id => changeFacetBy id act) ids u with
        | mk outcome' w' =>
          rw [hrest] at h
          cases outcome' with
          | error failure => cases h
          | ok rest =>
            cases h
            obtain ⟨hkin', hfresh', hsame'⟩ := ih hrest hu
            refine ⟨hkin.trans hkin', hfresh' ∘ hfresh, fun hany => ?_⟩
            rw [List.any_cons, Bool.or_eq_false_iff] at hany
            exact (hsame hany.1).trans (hsame' hany.2)

/-- What a batch of sound acts comes to. -/
theorem batch_anyOf_cases {v w : View} {act : Facet → Scene → Outcome Bool × Facet} (hact : Sound act)
    {ids : List String} {changed : Bool}
    (h : batch (anyOf (fun id => changeFacetBy id act) ids) v = (.ok changed, w)) :
    v.Kin w ∧ (v.AllFresh → w.InLine) ∧ (changed = false →
      v.scene.Alike w.scene ∧ v.collection.facets.map (Facet.settled · v.scene) =
        w.collection.facets.map (Facet.settled · w.scene)) := by
  obtain ⟨u, hacts, hrefresh⟩ := batch_ok h
  obtain ⟨answers, u, hcollect, hanswer⟩ := bind_ok hacts
  cases hanswer
  obtain ⟨hkin, hfresh, hsame⟩ := collect_changeFacetBy_held hact hcollect rfl
  obtain ⟨hreworked, hline⟩ := refresh_ok hrefresh
  refine ⟨⟨hkin.store.trans hreworked.store, hkin.id.trans hreworked.id,
    hkin.source.trans hreworked.source, hkin.items.trans hreworked.items,
    fun _ => hreworked.updating.symm, hkin.roles.trans hreworked.roles⟩,
    fun hv => hline (hfresh hv) rfl, fun hfalse => ?_⟩
  have hu := hsame hfalse
  exact ⟨⟨hu.store.trans hreworked.store, hu.items.trans hreworked.items⟩,
    hu.facets.trans hreworked.facets⟩

/-- A batch of sound acts none of which reports a change leaves everything as it stood: the refresh has
    worked out what stood there before. -/
theorem same_of_batch {v w : View} {act : Facet → Scene → Outcome Bool × Facet} (hact : Sound act)
    {ids : List String} (h : batch (anyOf (fun id => changeFacetBy id act) ids) v = (.ok false, w))
    (hv : v.InLine) : v.Same w := by
  obtain ⟨hkin, hline, hsame⟩ := batch_anyOf_cases hact h
  obtain ⟨hscene, hfacets⟩ := hsame rfl
  have hw := hline hv.fresh
  have hthrough : v.scene.throughEach v.collection.facets v.collection.items =
      w.scene.throughEach w.collection.facets v.collection.items :=
    Scene.throughEach_congr hscene hfacets _
  rw [hv.narrowed, hkin.items, hw.narrowed] at hthrough
  exact ⟨hkin.store, hkin.id, hkin.source, hkin.items, Except.ok.inj hthrough,
    hv.updating.trans hw.updating.symm, hfacets⟩

/-- A batch of sound acts; if none of them reports a change, the restricted items are the same. -/
theorem batch_anyOf_ok {v w : View} {act : Facet → Scene → Outcome Bool × Facet} (hact : Sound act)
    {ids : List String} {changed : Bool}
    (h : batch (anyOf (fun id => changeFacetBy id act) ids) v = (.ok changed, w)) :
    v.Kin w ∧ (v.InLine → w.InLine ∧
      (changed = false → w.collection.restricted = v.collection.restricted)) := by
  obtain ⟨hkin, hline, -⟩ := batch_anyOf_cases hact h
  refine ⟨hkin, fun hv => ⟨hline hv.fresh, ?_⟩⟩
  rintro rfl
  exact (same_of_batch hact h hv).restricted.symm

theorem restoreFacets_ok {v w : View} {s : BrowserState} {changed : Bool}
    (h : Browser.restoreFacets s v = (.ok changed, w)) :
    v.Kin w ∧ (v.InLine → w.InLine ∧
      (changed = false → w.collection.restricted = v.collection.restricted)) :=
  batch_anyOf_ok (sound_importState fun f => s.target v.collection.id f) h

end View

end Faceted
