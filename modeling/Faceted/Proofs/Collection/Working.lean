import Faceted.Proofs.Collection.Current
import Faceted.Proofs.Collection.Retaining

/-!
# Collections whose facets work

If the facets can be applied to the root items and shown, whatever is selected in them, a refresh does
not stop half way. So after every act on a facet the restricted items are what the facets let through,
also where the act itself fails, and within a batch.

* `Facet.Works` and `View.Works`: nothing that a facet is asked for fails;
* **`Works.refresh`**, `Works.setRoot`: a refresh succeeds;
* `Selecting`: what may be done to a facet in order to select;
* `View.Lands`: the same collection, in line again; **`lands_changeFacetBy`** and
  **`lands_restoreFacets`**: whatever is reported, the collection lands.
-/

namespace Faceted

/-! ## 1. Facets -/

namespace Facet

variable {scene scene' : Scene} {f g : Facet}

/-- Whatever is selected in it, the facet can be applied to items and shown over them. -/
def Works (f : Facet) (scene : Scene) : Prop :=
  ∀ g : Facet, g.plain = f.plain → g.dropCaches = g → ∀ items,
    (g.restrict scene items).1.isOk = true ∧ (g.update scene items).1.isOk = true

/-- Selections and scenes that look alike play no part. -/
theorem Works.congr (h : f.Works scene) (ht : scene.Twin scene') (hplain : f.plain = g.plain) :
    g.Works scene' := by
  intro g' hg' hdropped items
  obtain ⟨hrestrict, hupdate⟩ := h g' (hg'.trans hplain.symm) hdropped items
  have hsettled : g'.settled scene = g'.settled scene' := settled_alike ht.alike g'
  rw [restrict_congr (ht.alike.alikeFor _) hsettled] at hrestrict
  rw [update_twin ht hsettled items items] at hupdate
  exact ⟨hrestrict, hupdate⟩

/-- What is set up alike evaluates the same expressions. -/
theorem asksTime_of_plain (h : f.plain = g.plain) : f.asksTime = g.asksTime := by
  have hexpressions : f.expressions = g.expressions := by
    rw [← expressions_plain f, h, expressions_plain g]
  unfold asksTime
  rw [hexpressions]

/-- **The clock** does not stop a facet that does not ask for the time. -/
theorem Works.atMoment (h : f.Works scene) (hasks : f.asksTime = false) (moment : Int) :
    f.Works (scene.atMoment moment) := by
  intro g hplain hdropped items
  obtain ⟨hrestrict, hupdate⟩ := h g hplain hdropped items
  have hg : g.asksTime = false := (asksTime_of_plain hplain).trans hasks
  have hindexes : scene.store.SameIndexes (scene.atMoment moment).store :=
    scene.store.rangeIndex?_atMoment moment
  rw [restrict_atMoment hg scene moment items] at hrestrict
  rw [update_congr (scene.alikeFor_atMoment hg moment) hindexes
    (settled_atMoment hg scene moment) items items] at hupdate
  exact ⟨hrestrict, hupdate⟩

/-- A facet that keeps nothing wrong answers like its copy that keeps nothing. -/
theorem Works.of_fresh (h : f.Works scene) (hf : f.Fresh scene) (items : KeySet) :
    (f.restrict scene items).1.isOk = true ∧ (f.update scene items).1.isOk = true := by
  have hplain : f.dropCaches.plain = f.plain := by
    rw [plain, bare_dropCaches, plain]
  obtain ⟨hrestrict, hupdate⟩ := h f.dropCaches hplain f.dropCaches_dropCaches items
  have ht : scene.Twin scene := ⟨Scene.Alike.refl _, Store.SameIndexes.refl _⟩
  rw [← restrict_congr (ht.alike.alikeFor _) hf] at hrestrict
  rw [← update_twin ht hf items items] at hupdate
  exact ⟨hrestrict, hupdate⟩

end Facet

/-- Facets that can be applied let something through, one after the other. -/
theorem Scene.throughEach_succeeds {scene : Scene} {fs : List Facet}
    (h : ∀ f ∈ fs, ∀ items, (f.restrict scene items).1.isOk = true) (items : KeySet) :
    ∃ kept, scene.throughEach fs items = .ok kept := by
  induction fs generalizing items with
  | nil => exact ⟨items, rfl⟩
  | cons f rest ih =>
    have hrest := ih fun g hg => h g (List.mem_cons_of_mem f hg)
    unfold throughEach
    split
    · have hf := h f List.mem_cons_self items
      cases hkept : (f.restrict scene items).1 with
      | ok kept => exact hrest kept
      | error failure =>
        rw [hkept] at hf
        cases hf
    · exact hrest items

namespace View

open Faceted.Action

variable {v w : View}

/-! ## 2. Refreshing -/

/-- All facets work. -/
def Works (v : View) : Prop := ∀ f ∈ v.collection.facets, f.Works v.scene

/-- Selections, restricted items and what is kept and shown play no part. -/
theorem Works.congr {r : Facet → Facet → Prop} (hv : v.Works) (h : v.Retains r w)
    (hr : ∀ {f g}, r f g → f.plain = g.plain) (hitems : v.collection.items = w.collection.items) :
    w.Works := by
  intro g hg
  obtain ⟨f, hf, hgf⟩ := forall₂_mem h.collection.facets.flip hg
  exact (hv f hf).congr ⟨⟨h.store, hitems⟩, h.indexes⟩ (hr hgf)

/-- **A refresh succeeds** if the facets work and keep nothing wrong. -/
theorem Works.refresh (hv : v.Works) (hfresh : v.AllFresh) : ∃ w, refresh v = (.ok (), w) := by
  have hrestrict : ∀ f ∈ v.collection.facets, ∀ items,
      (f.restrict v.scene items).1.isOk = true := fun f hf items =>
    ((hv f hf).of_fresh (hfresh f hf) items).1
  obtain ⟨restricted, hnarrowed⟩ := Scene.throughEach_succeeds hrestrict v.collection.items
  refine refresh_succeeds hnarrowed (fun place => ?_) fun f hf => ?_
  · exact Scene.throughEach_succeeds (fun f hf => hrestrict f (List.mem_of_mem_eraseIdx hf)) _
  · obtain ⟨-, hupdate⟩ := (hv f hf).of_fresh (hfresh f hf) ∅
    cases hanswer : (f.update v.scene ∅).1 with
    | ok done => rfl
    | error failure =>
      rw [hanswer] at hupdate
      cases hupdate

/-- Taking a root succeeds if the facets work over it. -/
theorem Works.setRoot {items : KeySet} (hv : (v.withItems items).Works) :
    ∃ w, setRoot items v = (.ok (), w) := by
  let u : View := ⟨v.store, { v.collection with
    items, facets := v.collection.facets.map Facet.dropCaches
    told := v.collection.told ++ [.rootItemsChanged] }⟩
  have hfresh : u.AllFresh := by
    intro g hg
    obtain ⟨f, -, rfl⟩ := List.mem_map.mp hg
    exact f.fresh_dropCaches _
  have hu : u.Works := by
    intro g hg
    obtain ⟨f, hf, rfl⟩ := List.mem_map.mp hg
    have hplain : f.plain = f.dropCaches.plain := by
      rw [Facet.plain, Facet.plain, Facet.bare_dropCaches]
    exact (hv f hf).congr ⟨Scene.Alike.refl _, Store.SameIndexes.refl _⟩ hplain
  exact Works.refresh hu hfresh

/-! ## 3. Landing -/

/-- The collection is the same one with other selections at most, and in line. -/
structure Lands (v w : View) : Prop where
  kin : v.Kin w
  retains : v.Retains Facet.Reselected w
  inLine : w.InLine

theorem lands_of_same (h : v.Same w) (hretains : v.Retains Facet.Reselected w) (hv : v.InLine) :
    v.Lands w :=
  ⟨h.kin, hretains, h.inLine hv⟩

end View

/-- What may be done to a facet in order to select: it is sound and about the selection. -/
structure Selecting (act : Facet → Scene → Outcome Bool × Facet) : Prop extends Sound act where
  reselected : ∀ (f : Facet) scene, f.Reselected (act f scene).2

theorem selecting_perform (change : Change) : Selecting fun f scene => f.perform scene change where
  toSound := sound_perform change
  reselected f scene := f.reselected_perform scene change

theorem selecting_typeInto (text : String) (now : Nat) (enter : Bool) :
    Selecting (Browser.typeInto text now enter) where
  toSound := sound_typeInto text now enter
  reselected f scene := by
    cases f with
    | textSearch f => exact Facet.reselected_perform _ scene (.input text now enter)
    | _ => exact .refl _

theorem selecting_importState (target : Facet → FacetState) :
    Selecting fun f _ => f.orStay (f.importState (target f)) where
  toSound := sound_importState target
  reselected _ _ := .orStay fun _ _ h => .importState h

theorem Facet.role_plain (f : Facet) : f.plain.role = f.role := by
  cases f <;> rfl

theorem Facet.fresh_usedTo {scene : Scene} {f g : Facet} (h : View.UsedTo scene f g)
    (hf : f.Fresh scene) : g.Fresh scene := by
  induction h with
  | refl => exact hf
  | @tail g g' _ huse ih =>
    obtain ⟨store, huse⟩ := huse
    cases huse with
    | restrict items => exact fresh_of_settled (g.settled_restrict scene items) ih
    | update items => exact fresh_of_settled (g.settled_update scene items) ih
    | perform change => exact fresh_perform ih change
    | dropCaches => exact g.fresh_dropCaches scene

theorem Facet.reselected_usedTo {scene : Scene} {f g : Facet} (h : View.UsedTo scene f g) :
    f.Reselected g := by
  induction h with
  | refl => exact .refl f
  | tail _ huse ih =>
    obtain ⟨store, huse⟩ := huse
    exact ih.trans (reselected_use huse)

/-- An act that uses the facet any number of times and tells the truth about the selection. -/
theorem selecting_of_uses {act : Facet → Scene → Outcome Bool × Facet} (huses : View.MadeOfUses act)
    (htruthful : View.Truthful act) : Selecting act where
  truthful := htruthful
  fresh f scene := Facet.fresh_usedTo (huses f scene)
  role f scene := by
    rw [← f.role_plain, (Facet.reselected_usedTo (huses f scene)).plain, Facet.role_plain]
  reselected f scene := Facet.reselected_usedTo (huses f scene)

namespace View

open Faceted.Action

variable {v w : View} {act : Facet → Scene → Outcome Bool × Facet}

/-- **Whatever becomes of an act on a facet**, the collection lands; unless a change is reported, the
    restricted items are the same. -/
theorem lands_changeFacetBy (hact : Selecting act) (id : String) (hv : v.InLine)
    (hworks : v.Works) :
    v.Lands (changeFacetBy id act v).2 ∧ ((changeFacetBy id act v).1 ≠ .ok true →
      (changeFacetBy id act v).2.collection.restricted = v.collection.restricted) := by
  have hretains := retains_changeFacetBy Facet.alteration_reselected hact.reselected id v
  revert hretains
  rw [changeFacetBy_apply]
  split
  · exact fun hretains => ⟨lands_of_same (Same.refl v) hretains hv, fun _ => rfl⟩
  · next place _ =>
    split
    · exact fun hretains => ⟨lands_of_same (Same.refl v) hretains hv, fun _ => rfl⟩
    · next f hf =>
      have hsame (hne : (act f v.scene).1 ≠ .ok true) : v.Same (v.actedAt place act f) :=
        same_putFacet hf (hact.truthful f v.scene hne) (Store.Alike.refl _)
      split
      · next failure heq =>
        exact fun hretains =>
          ⟨lands_of_same (hsame (by rw [heq]; exact fun h => by cases h)) hretains hv, fun _ => rfl⟩
      · next heq =>
        exact fun hretains =>
          ⟨lands_of_same (hsame (by rw [heq]; exact fun h => by cases h)) hretains hv, fun _ => rfl⟩
      · -- the refresh after the change succeeds
        have hacted : v.Retains Facet.Reselected (v.actedAt place act f) :=
          retains_putFacet Facet.alteration_reselected hf (hact.reselected f v.scene)
        have hfresh := allFresh_actedAt hv.fresh hact.toSound hf
        obtain ⟨w, hw⟩ := (hworks.congr hacted (·.plain) rfl).refresh hfresh
        obtain ⟨hreworked, hline⟩ := refresh_ok hw
        rw [facetChanged_of_updating (v := v.actedAt place act f) hv.updating, hw]
        exact fun hretains => ⟨⟨(kin_actedAt hact.toSound hf).trans hreworked.kin, hretains,
          hline hfresh hv.updating⟩, fun hne => absurd rfl hne⟩

/-! ## 4. Batches -/

/-- A batch is under way, and as far as facets are concerned the collection is the same one with other
    selections. -/
structure Held (v w : View) : Prop where
  kin : v.Kin w
  fresh : v.AllFresh → w.AllFresh
  updating : w.collection.updating = true

theorem frame_held : Frame fun _ (v w : View) => v.collection.updating = true → v.Held w where
  refl _ v h := ⟨(Same.refl v).kin, fun hv => hv, h⟩
  trans h h' hupdating := by
    have huv := h hupdating
    have hvw := h' huv.updating
    exact ⟨huv.kin.trans hvw.kin, hvw.fresh ∘ huv.fresh, hvw.updating⟩

theorem changeFacetBy_of_held {id : String} {place : Nat} {f : Facet}
    (hupdating : v.collection.updating = true) (hplace : v.collection.place? id = some place)
    (hf : v.collection.facets[place]? = some f) :
    changeFacetBy id act v = ((act f v.scene).1, v.actedAt place act f) := by
  rw [changeFacetBy_apply, hplace]
  dsimp only
  rw [hf]
  dsimp only
  rw [facetChanged_of_held (v := v.actedAt place act f) hupdating]
  cases (act f v.scene).1 with
  | error failure => rfl
  | ok changed => cases changed <;> rfl

theorem held_changeFacetBy (hact : Sound act) (id : String) :
    Obeys (fun _ (v w : View) => v.collection.updating = true → v.Held w) (changeFacetBy id act) := by
  intro v hupdating
  cases hplace : v.collection.place? id with
  | none =>
    rw [changeFacetBy_apply, hplace]
    exact frame_held.refl true v hupdating
  | some place =>
    cases hf : v.collection.facets[place]? with
    | none =>
      rw [changeFacetBy_apply, hplace]
      dsimp only
      rw [hf]
      exact frame_held.refl true v hupdating
    | some f =>
      rw [changeFacetBy_of_held hupdating hplace hf]
      exact ⟨kin_actedAt hact hf, fun hv => allFresh_actedAt hv hact hf, hupdating⟩

/-- **Whatever becomes of a batch of acts**, the collection lands. -/
theorem lands_batch (hact : Selecting act) (ids : List String) (hv : v.InLine)
    (hworks : v.Works) : v.Lands (batch (anyOf (fun id => changeFacetBy id act) ids) v).2 := by
  have hreselected := Facet.alteration_reselected
  have hretains := retains_batch hreselected ((frame_retains hreselected).anyOf
    (fun id => retains_changeFacetBy hreselected hact.reselected id) ids) v
  have hacts := (frame_retains hreselected).anyOf
    (fun id => retains_changeFacetBy hreselected hact.reselected id) ids (v.withUpdating true)
  have hheld := frame_held.anyOf (fun id => held_changeFacetBy hact.toSound id) ids
    (v.withUpdating true) rfl
  revert hretains
  rw [batch_apply]
  generalize (anyOf (fun id => changeFacetBy id act) ids (v.withUpdating true)).2 = u
    at hacts hheld
  have hfresh : (u.withUpdating false).AllFresh := hheld.fresh hv.fresh
  have hu : (u.withUpdating false).Works := by
    have hwithUpdating : v.Retains Facet.Reselected (u.withUpdating false) :=
      ⟨hacts.store, hacts.indexes, hacts.collection.id, hacts.collection.source,
        hacts.collection.facets⟩
    exact hworks.congr hwithUpdating (·.plain) hheld.kin.items
  obtain ⟨w, hw⟩ := hu.refresh hfresh
  obtain ⟨hreworked, hline⟩ := refresh_ok hw
  rw [hw]
  refine fun hretains => ⟨?_, hretains, hline hfresh rfl⟩
  have hkin := hheld.kin
  exact ⟨hkin.store.trans hreworked.store, hkin.id.trans hreworked.id,
    hkin.source.trans hreworked.source, hkin.items.trans hreworked.items,
    fun _ => hreworked.updating.symm, hkin.roles.trans hreworked.roles⟩

theorem lands_restoreFacets (s : BrowserState) (hv : v.InLine) (hworks : v.Works) :
    v.Lands (Browser.restoreFacets s v).2 :=
  lands_batch (selecting_importState fun f => s.target v.collection.id f) _ hv hworks

end View

end Faceted
