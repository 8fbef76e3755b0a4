import Faceted.Proofs.Browser.Bookmarks
import Faceted.Proofs.Browser.Creating
import Faceted.Proofs.Collection.Lasting

/-!
# What lasts in a browser

What lasts in each collection lasts in the browser, through everything that neither adds nor removes
facets and collections: passing on, refreshing all collections, and whatever is done to facets. So what
can become of the collections in one step is told in four cases, and none of them asks whether the
step succeeds, what the settings say about failures, or what the data are.

* `Browser.Lasts`: the same collections in the same order, with their facets in the relation;
* `lasts_settle`, `lasts_changeFacetBy`, `lasts_tick`, `lasts_importState`: actions of a browser;
* `Reshaped` says in four cases what a step may leave;
* **`reshaped_after`**: no step leaves anything else;
* `named_afterAll`: the ids of the collections are distinct at all times, and those of the facets of
  each collection.
-/

namespace Faceted

open Faceted.Action

namespace Browser

/-! ## 1. Passing on -/

/-- Whether it succeeds or fails, the action leaves the same collections in the same order, and each of
    their facets is related to the one before. -/
def Lasts {α : Type} (r : Facet → Facet → Prop) (act : Action Browser α) : Prop :=
  Obeys (fun _ b b' => List.Forall₂ (Collection.Retains r) b.collections b'.collections) act

section Lasting

variable {r : Facet → Facet → Prop} (hr : Facet.Lasting r)

include hr

theorem same_collection (c : Collection) : c.Retains r c :=
  ⟨rfl, rfl, View.same_facets hr c.facets⟩

theorem same_collections (cs : List Collection) : List.Forall₂ (Collection.Retains r) cs cs :=
  List.forall₂_same.mpr fun c _ => same_collection hr c

theorem trans_collections {cs ds es : List Collection}
    (h : List.Forall₂ (Collection.Retains r) cs ds) (h' : List.Forall₂ (Collection.Retains r) ds es) :
    List.Forall₂ (Collection.Retains r) cs es :=
  forall₂_trans h h' fun hcd hde =>
    ⟨hcd.id.trans hde.id, hcd.source.trans hde.source, forall₂_trans hcd.facets hde.facets hr.trans⟩

theorem frame_lasts : Frame fun _ (b b' : Browser) =>
    List.Forall₂ (Collection.Retains r) b.collections b'.collections where
  refl _ b := same_collections hr b.collections
  trans := trans_collections hr

theorem lasts_onCollection {α : Type} (place : Nat) (otherwise : α) {act : Action View α}
    (h : View.Lasts r act) : Lasts r (onCollection place otherwise act) := by
  intro b
  rw [onCollection_apply]
  split
  · exact same_collections hr b.collections
  · next c hc => exact forall₂_set (same_collection hr) hc (h ⟨b.store, c⟩)

theorem lasts_reroot (place : Nat) : Lasts r (reroot place) := by
  refine (frame_lasts hr).bind (frame_lasts hr).state fun b =>
    (frame_lasts hr).bind ((frame_lasts hr).ofOutcome _) fun root => ?_
  cases root with
  | some items => exact lasts_onCollection hr place () (View.lasts_setRoot hr items)
  | none => exact lasts_onCollection hr place () (View.lasts_reroot hr)

/-! ## 2. Selections -/

section Settling

-- On the way to the front of the list derived facets are handed what they let through.
variable (hrestrict : ∀ (f : Facet) scene allowed, r f (f.perform scene (.restrictTo allowed)).2)

include hrestrict

theorem lasts_settle (place : Nat) : Lasts r (settle place) :=
  follows_settle (frame_lasts hr)
    (fun place items => lasts_onCollection hr place () (View.lasts_setRoot hr items))
    (fun place id allowed => lasts_onCollection hr place false
      (View.lasts_changeFacetBy hr (fun f scene => hrestrict f scene allowed) id)) place

theorem lasts_changeFacetBy {act : Facet → Scene → Outcome Bool × Facet}
    (hact : ∀ f scene, r f (act f scene).2) (collection facet : String) :
    Lasts r (changeFacetBy collection facet act) := by
  have hguarded {α : Type} {act : Action Browser α} (h : Lasts r act) (otherwise : α) :
      Lasts r (guarded otherwise act) := h
  refine hguarded ((frame_lasts hr).bind (follows_find (frame_lasts hr) collection) fun place => ?_) false
  refine (frame_lasts hr).bind
    (lasts_onCollection hr place false (View.lasts_changeFacetBy hr hact facet)) fun changed => ?_
  dsimp only
  split
  · exact (frame_lasts hr).bind (lasts_settle hr hrestrict place) fun _ => (frame_lasts hr).pure _
  · exact (frame_lasts hr).pure _

theorem lasts_tick {now : Nat} (hpoll : ∀ (f : Facet) scene, r f (f.perform scene (.poll now)).2) :
    Lasts r (tick now) := by
  refine (frame_lasts hr).bind (frame_lasts hr).state fun b => (frame_lasts hr).anyOf (fun place => ?_) _
  refine (frame_lasts hr).bind (frame_lasts hr).state fun b => ?_
  split
  · exact (frame_lasts hr).pure false
  · exact (frame_lasts hr).anyOf (fun f => lasts_changeFacetBy hr hrestrict hpoll _ f) _

section Restoring

variable {s : BrowserState}
  (hstate : ∀ collection f, r f (f.orStay (f.importState (s.target collection f))).2)

include hstate

theorem lasts_restoreAt (place : Nat) : Lasts r (restoreAt s place) := by
  have hattempt : Lasts r (attempt (onCollection place false (restoreFacets s))) :=
    lasts_onCollection hr place false (View.lasts_restoreFacets hr hstate)
  refine (frame_lasts hr).bind hattempt fun outcome => ?_
  have hsettle := lasts_settle hr hrestrict place
  cases outcome with
  | error failure => exact (frame_lasts hr).bind hsettle fun _ => (frame_lasts hr).fail failure
  | ok changed =>
    cases changed with
    | false => exact (frame_lasts hr).pure false
    | true => exact (frame_lasts hr).bind hsettle fun _ => (frame_lasts hr).pure true

theorem lasts_restore : Lasts r (restore s) :=
  (frame_lasts hr).bind (frame_lasts hr).state fun _ =>
    (frame_lasts hr).anyOf (lasts_restoreAt hr hrestrict hstate) _

theorem lasts_importState : Lasts r (importState s) := lasts_restore hr hrestrict hstate

end Restoring

end Settling

/-! ## 3. Data -/

theorem lasts_refreshIfDirty : Lasts r refreshIfDirty := by
  refine (frame_lasts hr).bind (frame_lasts hr).state fun b => ?_
  refine (frame_lasts hr).bind (fun b => same_collections hr b.collections) fun _ => ?_
  split
  · exact (frame_lasts hr).bind (frame_lasts hr).state fun _ =>
      (frame_lasts hr).each (lasts_reroot hr) _
  · exact (frame_lasts hr).pure ()

theorem lasts_load (payload : Json) (base : Option String) : Lasts r (load payload base) := by
  refine (frame_lasts hr).bind (frame_lasts hr).state fun b => ?_
  refine (frame_lasts hr).bind (fun b => ?_) fun _ => lasts_refreshIfDirty hr
  show List.Forall₂ _ b.collections (loadStore payload _ b).2.collections
  unfold loadStore
  split <;> exact same_collections hr b.collections

theorem lasts_updateStore {α : Type} (act : Store → α × Store) : Lasts r (updateStore act) :=
  (frame_lasts hr).bind (frame_lasts hr).state fun _ =>
    (frame_lasts hr).bind (fun b => same_collections hr b.collections) fun _ =>
      (frame_lasts hr).bind (lasts_refreshIfDirty hr) fun _ => (frame_lasts hr).pure _

end Lasting

/-! ## 4. Steps -/

/-- What a step may leave of the collections. -/
inductive Reshaped (b b' : Browser) : Prop where
  /-- The facets have been used at most. -/
  | kept (h : List.Forall₂ (Collection.Retains Facet.Becomes) b.collections b'.collections)
  /-- A collection has got a facet that a user has set up. -/
  | attached {place n : Nat} {c : Collection} {config : FacetConfig} {settings : Settings} {f : Facet}
    (hc : b.collections[place]? = some c) (hf : config.build settings n = .ok f)
    (hnew : c.hasFacet f.id = false)
    (h : List.Forall₂ (Collection.Retains Facet.Becomes)
      (b.collections.set place (c.pushFacet f)) b'.collections)
  /-- A collection has lost a facet. -/
  | detached {place : Nat} {c : Collection} {id : String} (hc : b.collections[place]? = some c)
    (h : List.Forall₂ (Collection.Retains Facet.Becomes)
      (b.collections.set place (c.dropFacet id)) b'.collections)
  /-- There is one more collection. -/
  | created {id : String} {source : ItemSource} (hnew : b.collection? id = none)
    (hadmits : b.Admits id source)
    (h : List.Forall₂ (Collection.Retains Facet.Becomes)
      (b.halfMade id source).collections b'.collections)

open Facet (lasting_becomes)

/-- What follows the first part of an action keeps what that has left. -/
theorem lasts_bind {α β : Type} {act : Action Browser α} {next : α → Action Browser β}
    (h : ∀ x, Lasts Facet.Becomes (next x)) (b : Browser) :
    List.Forall₂ (Collection.Retains Facet.Becomes) (act b).2.collections
      ((act >>= next) b).2.collections := by
  rw [bind_apply]
  generalize act b = answer
  obtain ⟨outcome, u⟩ := answer
  cases outcome with
  | ok x => exact h x u
  | error failure => exact same_collections lasting_becomes _

theorem lasts_settle_becomes (place : Nat) : Lasts Facet.Becomes (settle place) :=
  lasts_settle lasting_becomes (fun f scene _ => f.becomes_perform scene _) place

/-- A collection takes its place, changed or not, and then the other one that has been made of it. -/
theorem retains_set {b b' : Browser} {place : Nat} {c d w : Collection}
    (hc : b.collections[place]? = some c) (hw : d.Retains Facet.Becomes w)
    (h : List.Forall₂ (Collection.Retains Facet.Becomes) (b.collections.set place w)
      b'.collections) :
    List.Forall₂ (Collection.Retains Facet.Becomes) (b.collections.set place d) b'.collections := by
  have hlt := (List.getElem?_eq_some_iff.mp hc).1
  have hd : (b.collections.set place d)[place]? = some d := List.getElem?_set_self hlt
  have hset := forall₂_set (same_collection lasting_becomes) hd hw
  rw [List.set_set] at hset
  exact trans_collections lasting_becomes hset h

theorem set_self {b : Browser} {place : Nat} {c : Collection}
    (hc : b.collections[place]? = some c) : b.collections.set place c = b.collections := by
  obtain ⟨hlt, rfl⟩ := List.getElem?_eq_some_iff.mp hc
  exact List.set_getElem_self hlt

/-- What can come of adding a facet. -/
inductive Attaching (b : Browser) (collection : String) (config : FacetConfig) :
    Outcome String × Browser → Prop where
  | unplaced {failure : Failure} (h : b.placeOf collection = .error failure) :
    Attaching b collection config (.error failure, b)
  | unbuilt {place : Nat} {c : Collection} {failure : Failure}
    (hplace : b.placeOf collection = .ok place) (hc : b.collections[place]? = some c)
    (h : config.build b.settings c.facets.length = .error failure) :
    Attaching b collection config (.error failure, b)
  /-- The id is taken. -/
  | refused {place : Nat} {c : Collection} {f : Facet} (hplace : b.placeOf collection = .ok place)
    (hc : b.collections[place]? = some c) (hf : config.build b.settings c.facets.length = .ok f)
    (hhas : c.hasFacet f.id = true) :
    Attaching b collection config (.error (.data (.facetExists c.id f.id)), b)
  /-- The facet cannot be shown. -/
  | unshown {place : Nat} {c : Collection} {f : Facet} {failure : Failure} {b' : Browser}
    (hplace : b.placeOf collection = .ok place) (hc : b.collections[place]? = some c)
    (hf : config.build b.settings c.facets.length = .ok f) (hnew : c.hasFacet f.id = false)
    (hfailure : failure.IsEvaluation)
    (h : List.Forall₂ (Collection.Retains Facet.Becomes) b.collections b'.collections) :
    Attaching b collection config (.error failure, b')
  /-- The facet is there, whatever fails after that. -/
  | attached {place : Nat} {c : Collection} {f : Facet} {answer : Outcome String × Browser}
    (hplace : b.placeOf collection = .ok place) (hc : b.collections[place]? = some c)
    (hf : config.build b.settings c.facets.length = .ok f) (hnew : c.hasFacet f.id = false)
    (h : List.Forall₂ (Collection.Retains Facet.Becomes)
      (b.collections.set place (c.pushFacet f)) answer.2.collections) :
    Attaching b collection config answer

/-- **Adding a facet.** -/
theorem attaching_attachFacet (collection : String) (config : FacetConfig) (b : Browser) :
    Attaching b collection config (attachFacet collection config b) := by
  unfold attachFacet
  rw [bind_apply, find_apply]
  cases hplace : b.placeOf collection with
  | error failure => exact .unplaced hplace
  | ok place =>
    obtain ⟨-, c, hc, -⟩ := placeOf_ok hplace
    have hcount : b.facetCount place = c.facets.length := by
      unfold facetCount
      rw [hc]
      rfl
    dsimp only
    rw [bind_apply, state_apply]
    dsimp only
    rw [bind_apply, ofOutcome_apply, hcount]
    cases hf : config.build b.settings c.facets.length with
    | error failure => exact .unbuilt hplace hc hf
    | ok f =>
      dsimp only
      have hframe := frame_lasts lasting_becomes
      suffices h : ∀ next : Unit → Action Browser String, (∀ x, Lasts Facet.Becomes (next x)) →
          Attaching b collection config ((onCollection place () (View.addFacet f) >>= next) b) by
        refine h _ fun _ => ?_
        split
        · exact hframe.bind (lasts_settle_becomes place) fun _ => hframe.pure _
        · exact hframe.pure _
      intro next hnext
      have hrest := @lasts_bind _ _ (onCollection place () (View.addFacet f)) next hnext b
      rw [onCollection_apply, hc] at hrest
      cases hhas : c.hasFacet f.id with
      | true =>
        rw [bind_apply, onCollection_apply, hc]
        dsimp only
        rw [View.addFacet_apply, if_pos (by exact hhas)]
        show Attaching b collection config (.error _, b.putView place ⟨b.store, c⟩)
        rw [putView_self hc]
        exact .refused hplace hc hf hhas
      | false =>
        rcases View.addFacet_new lasting_becomes (v := ⟨b.store, c⟩) hhas with
          ⟨failure, hfailure, hadd, hsame⟩ | hadded
        · have hkept := retains_set hc hsame hrest
          rw [set_self hc] at hkept
          have hanswer : ((onCollection place () (View.addFacet f) >>= next) b).1 = .error failure := by
            rw [bind_apply, onCollection_apply, hc]
            dsimp only
            rw [hadd]
          generalize (onCollection place () (View.addFacet f) >>= next) b = answer at hkept hanswer
          obtain ⟨outcome, b'⟩ := answer
          obtain rfl : outcome = .error failure := hanswer
          exact .unshown hplace hc hf hhas hfailure hkept
        · exact .attached hplace hc hf hhas (retains_set hc hadded hrest)

theorem reshaped_attachFacet (collection : String) (config : FacetConfig) (b : Browser) :
    b.Reshaped (attachFacet collection config b).2 := by
  have hattaching := attaching_attachFacet collection config b
  generalize attachFacet collection config b = answer at hattaching
  cases hattaching with
  | unplaced _ => exact .kept (same_collections lasting_becomes _)
  | unbuilt _ _ _ => exact .kept (same_collections lasting_becomes _)
  | refused _ _ _ _ => exact .kept (same_collections lasting_becomes _)
  | unshown _ _ _ _ _ h => exact .kept h
  | attached _ hc hf hnew h => exact .attached hc hf hnew h

theorem detachFacet_of_unplaced {collection facet : String} {failure : Failure} {b : Browser}
    (hplace : b.placeOf collection = .error failure) :
    detachFacet collection facet b = (.error failure, b) := by
  unfold detachFacet
  rw [bind_apply, find_apply, hplace]

/-- Whatever fails, the facet is gone. -/
theorem lasts_detachFacet {place : Nat} {c : Collection} {collection facet : String} {b : Browser}
    (hplace : b.placeOf collection = .ok place) (hc : b.collections[place]? = some c) :
    List.Forall₂ (Collection.Retains Facet.Becomes) (b.collections.set place (c.dropFacet facet))
      (detachFacet collection facet b).2.collections := by
  unfold detachFacet
  rw [bind_apply, find_apply, hplace]
  dsimp only
  have hframe := frame_lasts lasting_becomes
  suffices h : ∀ next : Option Facet → Action Browser Bool,
      (∀ x, Lasts Facet.Becomes (next x)) →
        List.Forall₂ (Collection.Retains Facet.Becomes)
          (b.collections.set place (c.dropFacet facet))
          ((onCollection place none (View.removeFacet facet) >>= next) b).2.collections by
    refine h _ fun removed => ?_
    cases removed with
    | none => exact hframe.pure _
    | some f =>
      dsimp only
      split
      · exact hframe.bind (lasts_settle_becomes place) fun _ => hframe.pure _
      · exact hframe.pure _
  intro next hnext
  have hrest := @lasts_bind _ _ (onCollection place none (View.removeFacet facet)) next hnext b
  rw [onCollection_apply, hc] at hrest
  exact retains_set hc (View.lasts_removeFacet lasting_becomes facet ⟨b.store, c⟩) hrest

theorem reshaped_detachFacet (collection facet : String) (b : Browser) :
    b.Reshaped (detachFacet collection facet b).2 := by
  cases hplace : b.placeOf collection with
  | error failure =>
    rw [detachFacet_of_unplaced hplace]
    exact .kept (same_collections lasting_becomes _)
  | ok place =>
    obtain ⟨-, c, hc, -⟩ := placeOf_ok hplace
    exact .detached hc (lasts_detachFacet hplace hc)

theorem reshaped_buildCollection (config : CollectionConfig) (b : Browser) :
    b.Reshaped (buildCollection config b).2 := by
  have hcreation := creation_buildCollection config b
  generalize buildCollection config b = answer at hcreation
  cases hcreation with
  | refused _ => exact .kept (same_collections lasting_becomes _)
  | halfMade hrefusal hadmits _ =>
    exact .created (new_of_refusal hrefusal) hadmits (same_collections lasting_becomes _)
  | made hrefusal hadmits hroot =>
    exact .created (new_of_refusal hrefusal) hadmits ((lasts_reroot lasting_becomes _).ok hroot)

end Browser

namespace BrowserStep

open Browser
open Facet (lasting_becomes)

/-- What is done to a facet is made of uses of it; it may report what it likes. -/
def GoesByUses : BrowserStep → Prop
  | operation _ => True
  | withFacet _ _ act => View.MadeOfUses act

theorem becomes_of_usedTo {scene : Scene} {f g : Facet} (h : View.UsedTo scene f g) : f.Becomes g :=
  Relation.ReflTransGen.mono (fun _ _ ⟨store, huse⟩ => ⟨scene, store, huse⟩) _ _ h

/-- Does the step set up a collection or a facet, or take a facet away? -/
def setsUp : BrowserStep → Bool
  | operation (.createCollection _) | operation (.addFacet _ _) | operation (.removeFacet _ _) => true
  | _ => false

/-- A step that sets up nothing and takes nothing away uses the facets at most, whatever fails. -/
theorem lasts_after {step : BrowserStep} (huses : step.GoesByUses) (hsetsUp : step.setsUp = false)
    (b : Browser) :
    List.Forall₂ (Collection.Retains Facet.Becomes) b.collections (step.after b).collections := by
  have hrestrict (f : Facet) (scene : Scene) (allowed : Option KeySet) :
      f.Becomes (f.perform scene (.restrictTo allowed)).2 := f.becomes_perform scene _
  have hstate (s : BrowserState) (collection : String) (f : Facet) :
      f.Becomes (f.orStay (f.importState (s.target collection f))).2 :=
    f.becomes_perform ⟨Store.empty, ∅⟩ (.importState (s.target collection f))
  have hdone {α : Type} {act : Action Browser α} (h : Browser.Lasts Facet.Becomes act) :
      List.Forall₂ (Collection.Retains Facet.Becomes) b.collections
        ((act >>= fun _ => pure ()) b).2.collections := by
    rw [snd_bind_pure]
    exact h b
  cases step with
  | withFacet collection facet act =>
    exact hdone (lasts_changeFacetBy lasting_becomes hrestrict
      (fun f scene => becomes_of_usedTo (huses f scene)) collection facet)
  | operation op =>
    cases op with
    | load payload base => exact lasts_load lasting_becomes payload base b
    | update ops => exact lasts_updateStore lasting_becomes _ b
    | createCollection config => cases hsetsUp
    | addFacet collection config => cases hsetsUp
    | removeFacet collection facet => cases hsetsUp
    | changeFacet collection facet change =>
      exact hdone (lasts_changeFacetBy lasting_becomes hrestrict
        (fun f scene => f.becomes_perform scene change) collection facet)
    | input collection facet text now enter =>
      refine hdone (lasts_changeFacetBy lasting_becomes hrestrict (fun f scene => ?_) collection facet)
      cases f with
      | textSearch f => exact Facet.becomes_perform _ scene _
      | _ => exact .refl
    | tick now =>
      exact hdone (lasts_tick lasting_becomes hrestrict fun f scene => f.becomes_perform scene _)
    | importState s => exact hdone (lasts_importState lasting_becomes hrestrict (hstate s))
    | clearAll =>
      have hframe := frame_lasts lasting_becomes
      exact hdone (hframe.bind hframe.state fun _ =>
        hframe.bind (lasts_importState lasting_becomes hrestrict (hstate ∅)) fun _ => hframe.pure _)

/-! The steps that set something up, without their answers. -/

theorem after_createCollection (config : CollectionConfig) (b : Browser) :
    (operation (.createCollection config)).after b = (buildCollection config b).2 :=
  snd_bind_pure (createCollection config) () b

theorem after_addFacet (collection : String) (config : FacetConfig) (b : Browser) :
    (operation (.addFacet collection config)).after b = (attachFacet collection config b).2 :=
  snd_bind_pure (Browser.addFacet collection config) () b

theorem after_removeFacet (collection facet : String) (b : Browser) :
    (operation (.removeFacet collection facet)).after b = (detachFacet collection facet b).2 :=
  snd_bind_pure (Browser.removeFacet collection facet) () b

/-- **What becomes of the collections in one step**, whatever fails. -/
theorem reshaped_after {step : BrowserStep} (huses : step.GoesByUses) (b : Browser) :
    b.Reshaped (step.after b) := by
  cases hsetsUp : step.setsUp with
  | false => exact .kept (lasts_after huses hsetsUp b)
  | true =>
    cases step with
    | withFacet collection facet act => cases hsetsUp
    | operation op =>
      cases op with
      | createCollection config =>
        rw [after_createCollection]
        exact reshaped_buildCollection config b
      | addFacet collection config =>
        rw [after_addFacet]
        exact reshaped_attachFacet collection config b
      | removeFacet collection facet =>
        rw [after_removeFacet]
        exact reshaped_detachFacet collection facet b
      | _ => cases hsetsUp

end BrowserStep

/-! ## 5. Facets -/

namespace Browser

/-- Every facet of every collection has the property. -/
def AllFacets (P : Facet → Prop) (cs : List Collection) : Prop := ∀ c ∈ cs, ∀ f ∈ c.facets, P f

section Facets

variable {P : Facet → Prop} (huse : ∀ {f g scene store}, f.Use scene g store → P f → P g)

include huse in
theorem allFacets_of_becomes {cs ds : List Collection} (hcs : AllFacets P cs)
    (h : List.Forall₂ (Collection.Retains Facet.Becomes) cs ds) : AllFacets P ds := by
  intro d hd g hg
  obtain ⟨c, hc, hcd⟩ := forall₂_mem h.flip hd
  obtain ⟨f, hf, hfg⟩ := forall₂_mem (Collection.Retains.facets hcd).flip hg
  exact Facet.Becomes.induct huse hfg (hcs c hc f hf)

theorem allFacets_set {cs : List Collection} (hcs : AllFacets P cs) (place : Nat) {d : Collection}
    (hd : ∀ f ∈ d.facets, P f) : AllFacets P (cs.set place d) := by
  intro c hc
  rcases List.mem_or_eq_of_mem_set hc with hc | rfl
  · exact hcs c hc
  · exact hd

variable (hbuild : ∀ {config : FacetConfig} {settings n f}, config.build settings n = .ok f → P f)
  (hderived : ∀ id e c, P (newDerived id e c))

include huse hbuild hderived in
/-- **What holds of every new facet and is kept by every use** holds of all facets after a step. -/
theorem Reshaped.allFacets {b b' : Browser} (h : b.Reshaped b') (hb : AllFacets P b.collections) :
    AllFacets P b'.collections := by
  have hdone {cs : List Collection} (hcs : AllFacets P cs)
      (h : List.Forall₂ (Collection.Retains Facet.Becomes) cs b'.collections) :
      AllFacets P b'.collections := allFacets_of_becomes huse hcs h
  have hpush {c : Collection} {f : Facet} (hc : ∀ g ∈ c.facets, P g) (hf : P f) :
      ∀ g ∈ (c.pushFacet f).facets, P g := by
    intro g hg
    rcases List.mem_append.mp hg with hg | hg
    · exact hc g hg
    · exact List.mem_singleton.mp hg ▸ hf
  cases h with
  | kept h => exact hdone hb h
  | attached hc hf _ h =>
    exact hdone (allFacets_set hb _ (hpush (hb _ (List.mem_of_getElem? hc)) (hbuild hf))) h
  | detached hc h =>
    refine hdone (allFacets_set hb _ fun g hg => ?_) h
    exact hb _ (List.mem_of_getElem? hc) g (List.mem_of_mem_eraseP hg)
  | @created id source _ _ h =>
    refine hdone (fun c hc => ?_) h
    rcases List.mem_append.mp hc with hc | hc
    · unfold withNewDerived at hc
      split at hc
      · obtain ⟨q, hq⟩ := List.mem_iff_getElem?.mp hc
        rw [List.getElem?_modify] at hq
        obtain ⟨d, hd, rfl⟩ := Option.map_eq_some_iff.mp hq
        have hmem := hb d (List.mem_of_getElem? hd)
        split
        · exact hpush hmem (hderived _ _ d)
        · exact hmem
      · exact hb c hc
    · rw [List.mem_singleton.mp hc]
      exact fun f hf => absurd hf List.not_mem_nil

end Facets

end Browser

/-- The same after any steps. -/
theorem BrowserStep.allFacets_afterAll {P : Facet → Prop}
    (huse : ∀ {f g scene store}, f.Use scene g store → P f → P g)
    (hbuild : ∀ {config : FacetConfig} {settings n f}, config.build settings n = .ok f → P f)
    (hderived : ∀ id e c, P (Browser.newDerived id e c)) {steps : List BrowserStep}
    (huses : ∀ step ∈ steps, step.GoesByUses) {b : Browser}
    (hb : Browser.AllFacets P b.collections) : Browser.AllFacets P (afterAll steps b).collections := by
  induction steps generalizing b with
  | nil => exact hb
  | cons step rest ih =>
    obtain ⟨hfirst, hrest⟩ := List.forall_mem_cons.mp huses
    exact ih hrest ((reshaped_after hfirst b).allFacets huse hbuild hderived hb)

/-! ## 6. Names -/

theorem Facet.Becomes.id {f g : Facet} (h : f.Becomes g) : f.id = g.id := by
  rw [← role_fst f, ← role_fst g, h.role]

namespace Browser

/-- The ids of the collections with those of their facets. -/
def names (cs : List Collection) : List (String × List String) :=
  cs.map fun c => (c.id, c.facets.map Facet.id)

/-- What is asked for by its id is found: no id is given twice. -/
structure Named (b : Browser) : Prop where
  collections : ((names b.collections).map Prod.fst).Nodup
  facets : ∀ n ∈ names b.collections, n.2.Nodup

theorem named_congr {b b' : Browser} (h : names b.collections = names b'.collections)
    (hb : b.Named) : b'.Named := ⟨h ▸ hb.collections, h ▸ hb.facets⟩

/-- The first element with a key is found where it stands, if no key is given twice. -/
theorem findIdx?_of_nodup {α : Type} {key : α → String} {xs : List α} (h : (xs.map key).Nodup)
    {k : Nat} {x : α} (hx : xs[k]? = some x) : xs.findIdx? (fun y => key y == key x) = some k := by
  obtain ⟨hlt, rfl⟩ := List.getElem?_eq_some_iff.mp hx
  refine List.findIdx?_eq_some_iff_getElem.mpr ⟨hlt, beq_self_eq_true _, fun j hj hsame => ?_⟩
  have hkeys : (xs.map key)[j]? = (xs.map key)[k]? := by
    rw [List.getElem?_map, List.getElem?_map, List.getElem?_eq_getElem (by omega), hx,
      Option.map_some, Option.map_some, eq_of_beq hsame]
  have hlength : j < (xs.map key).length := by
    rw [List.length_map]
    omega
  have hjk := (List.getElem?_inj hlength h).mp hkeys
  omega

theorem Named.collections_nodup {b : Browser} (hb : b.Named) :
    (b.collections.map Collection.id).Nodup := by
  have hnodup := hb.collections
  unfold names at hnodup
  rwa [List.map_map] at hnodup

section Finding

variable {b : Browser} {place : Nat} {c : Collection} (hb : b.Named)
  (hc : b.collections[place]? = some c)
include hb hc

theorem Named.placeOf : b.placeOf c.id = .ok place := by
  unfold Browser.placeOf
  rw [findIdx?_of_nodup hb.collections_nodup hc]

theorem Named.ids_nodup : (c.facets.map Facet.id).Nodup :=
  hb.facets _ (List.mem_map_of_mem (List.mem_of_getElem? hc))

theorem Named.place? {k : Nat} {f : Facet} (hf : c.facets[k]? = some f) : c.place? f.id = some k :=
  findIdx?_of_nodup (hb.ids_nodup hc) hf

end Finding

/-- Where facets keep their ids, the names stay as they are. -/
theorem names_of_retains {r : Facet → Facet → Prop} (hr : ∀ {f g}, r f g → f.id = g.id)
    {cs ds : List Collection} (h : List.Forall₂ (Collection.Retains r) cs ds) :
    names cs = names ds := by
  unfold names
  induction h with
  | nil => rfl
  | cons hfirst _ ih =>
    rw [List.map_cons, List.map_cons, ih, hfirst.id, map_eq_of_forall₂ hfirst.facets fun _ _ => hr]

theorem not_mem_ids {c : Collection} {id : String} (h : c.hasFacet id = false) :
    id ∉ c.facets.map Facet.id := by
  intro hmem
  obtain ⟨f, hf, rfl⟩ := List.mem_map.mp hmem
  have hany : c.hasFacet f.id = true := List.any_eq_true.mpr ⟨f, hf, beq_self_eq_true f.id⟩
  rw [h] at hany
  cases hany

theorem ids_dropFacet (c : Collection) (id : String) :
    (c.dropFacet id).facets.map Facet.id = (c.facets.map Facet.id).erase id := by
  rw [List.erase_eq_eraseP, List.eraseP_map]
  refine congrArg (List.map Facet.id) (congrFun (congrArg List.eraseP (funext fun f => ?_)) _)
  exact Bool.beq_comm

/-- A collection takes the place of one with the same id. -/
theorem named_set {b : Browser} {place : Nat} {c d : Collection} (hb : b.Named)
    (hc : b.collections[place]? = some c) (hid : d.id = c.id)
    (hfacets : (d.facets.map Facet.id).Nodup) :
    Named { b with collections := b.collections.set place d } where
  collections := by
    have hsame : (names (b.collections.set place d)).map Prod.fst =
        (names b.collections).map Prod.fst := by
      unfold names
      rw [List.map_map, List.map_map]
      exact map_set_of_eq hc hid
    show ((names (b.collections.set place d)).map Prod.fst).Nodup
    rw [hsame]
    exact hb.collections
  facets n hn := by
    obtain ⟨e, he, rfl⟩ := List.mem_map.mp hn
    rcases List.mem_or_eq_of_mem_set he with he | rfl
    · exact hb.facets _ (List.mem_map_of_mem he)
    · exact hfacets

theorem named_pushFacet {b : Browser} {place : Nat} {c : Collection} {f : Facet} (hb : b.Named)
    (hc : b.collections[place]? = some c) (hnew : c.hasFacet f.id = false) :
    Named { b with collections := b.collections.set place (c.pushFacet f) } := by
  refine named_set hb hc rfl ?_
  show ((c.facets ++ [f]).map Facet.id).Nodup
  rw [List.map_append, List.map_singleton, ← List.concat_eq_append]
  exact (hb.ids_nodup hc).concat (not_mem_ids hnew)

theorem named_halfMade {b : Browser} {id : String} {source : ItemSource} (hb : b.Named)
    (hnew : b.collection? id = none) (hadmits : b.Admits id source) : (b.halfMade id source).Named := by
  have hfirst : Named { b with collections := b.withNewDerived id source } := by
    rcases hadmits.withNewDerived_cases with ⟨-, hsame⟩ | ⟨e, place, c, -, hc, hhas, hset⟩
    · rw [hsame]
      exact hb
    · rw [hset]
      exact named_pushFacet hb hc hhas
  have hnew : id ∉ (names (b.withNewDerived id source)).map Prod.fst := by
    intro hmem
    obtain ⟨n, hn, hid⟩ := List.mem_map.mp hmem
    obtain ⟨c, hc, rfl⟩ := List.mem_map.mp hn
    obtain ⟨place, hplace⟩ := List.mem_iff_getElem?.mp hc
    obtain ⟨d, hd, hdc⟩ := getElem?_withNewDerived hplace
    exact idAt_ne_of_collection? hnew place ((idAt_of_getElem? hd).trans (by rw [hdc, ← hid]))
  constructor
  · show ((names (b.withNewDerived id source ++ [.new id source])).map Prod.fst).Nodup
    unfold names
    rw [List.map_append, List.map_append, List.map_singleton, List.map_singleton,
      ← List.concat_eq_append]
    exact hfirst.collections.concat hnew
  · intro n hn
    obtain ⟨c, hc, rfl⟩ := List.mem_map.mp hn
    rcases List.mem_append.mp hc with hc | hc
    · exact hfirst.facets _ (List.mem_map_of_mem hc)
    · rw [List.mem_singleton.mp hc]
      exact List.nodup_nil

/-- **No id is given twice**, whatever becomes of a step. -/
theorem named_of_reshaped {b b' : Browser} (hb : b.Named) (h : b.Reshaped b') : b'.Named := by
  have hdone {u : Browser} (hu : u.Named)
      (h : List.Forall₂ (Collection.Retains Facet.Becomes) u.collections b'.collections) : b'.Named :=
    named_congr (names_of_retains Facet.Becomes.id h) hu
  cases h with
  | kept h => exact hdone hb h
  | attached hc _ hnew h => exact hdone (named_pushFacet hb hc hnew) h
  | @detached place c id hc h =>
    have hids : ((c.dropFacet id).facets.map Facet.id).Nodup := by
      rw [ids_dropFacet]
      exact (hb.ids_nodup hc).erase id
    have hdropped : Named { b with collections := b.collections.set place (c.dropFacet id) } :=
      named_set hb hc rfl hids
    exact hdone hdropped h
  | created hnew hadmits h => exact hdone (named_halfMade hb hnew hadmits) h

theorem named_start (settings : Settings) (present : Int) : (start settings present).Named where
  collections := List.nodup_singleton _
  facets n hn := by
    rw [List.mem_singleton.mp hn]
    exact List.nodup_nil

end Browser

theorem BrowserStep.named_afterAll {steps : List BrowserStep}
    (huses : ∀ step ∈ steps, step.GoesByUses) {b : Browser} (hb : b.Named) :
    (afterAll steps b).Named := by
  induction steps generalizing b with
  | nil => exact hb
  | cons step rest ih =>
    obtain ⟨hfirst, hrest⟩ := List.forall_mem_cons.mp huses
    exact ih hrest (Browser.named_of_reshaped hb (reshaped_after hfirst b))

end Faceted
