import Faceted.Proofs.Collection.Moments
import Faceted.Proofs.Collection.Peers
import Faceted.Proofs.Facet.Reselected

/-!
# Facets that are moved

A facet that is removed is handed out with all that it keeps, and a facet that is added keeps what it
brings. In between nobody tells it that the store or the root items have changed. Whether it is as good
as new where it is added depends on nothing but that.

* `Facet.KeepsTrue.elsewhere_iff`: when what is true in one place is true in another;
* `View.refresh_of_twin`: a refresh comes to the same in views that differ in what facets keep at most;
  **`View.addFacet_of_settled`** is the same for facets that are added;
* `View.keepsTrue_addFacet` and its converse: all facets keep what is true afterwards exactly if the new
  one does when it comes;
* **`moved_facet`**: what a facet that is handed out is worth in any other view;
* **`moved_stale`**: a list of colours that has missed a change.
-/

namespace Faceted

open Faceted.Action

namespace Facet

variable {scene scene' : Scene} {f g : Facet}

/-! ## 1. What is kept elsewhere -/

/-- Whether there is anything to work out is a matter of how a facet is set up. -/
theorem memoFor_eq_none_iff (f : Facet) (scene scene' : Scene) :
    f.memoFor scene = none ↔ f.memoFor scene' = none := by
  cases f <;> simp [memoFor]

/-- What a facet keeps is true elsewhere exactly if it would work out the same there. -/
theorem KeepsTrue.elsewhere_iff (hf : f.KeepsTrue scene) :
    f.KeepsTrue scene' ↔ f.memo = none ∨ f.memoFor scene' = f.memoFor scene := by
  cases hm : f.memo with
  | none => exact ⟨fun _ => .inl rfl, fun _ => keepsTrue_of_memo_eq_none hm⟩
  | some m =>
    have hhere := hf m hm
    constructor
    · intro h
      exact .inr ((h m hm).trans hhere.symm)
    · intro h m' hm'
      obtain rfl := Option.some.inj (hm.symm.trans hm')
      rcases h with h | h
      · cases h
      · exact h.trans hhere

/-- For a facet that keeps what is true somewhere, to be fresh is to keep what is true. -/
theorem KeepsTrue.iff_fresh (hf : f.KeepsTrue scene) : f.KeepsTrue scene' ↔ f.Fresh scene' := by
  rw [keepsTrue_iff]
  refine and_iff_left fun hnone => ?_
  exact (keepsTrue_iff.mp hf).2 ((f.memoFor_eq_none_iff scene scene').mpr hnone)

theorem id_of_settled (h : f.settled scene = g.settled scene') : f.id = g.id := by
  rw [← role_fst, ← role_settled f scene, h, role_settled, role_fst]

end Facet

namespace View

variable {u v w : View} {f g : Facet}

/-! ## 2. Views that differ in what facets keep -/

theorem Same.symm (h : v.Same w) : w.Same v :=
  ⟨h.store.symm, h.id.symm, h.source.symm, h.items.symm, h.restricted.symm, h.updating.symm,
    h.facets.symm⟩

namespace Twin

theorem symm (h : v.Twin w) : w.Twin v := ⟨h.same.symm, fun property => (h.indexes property).symm⟩

theorem trans (h : u.Twin v) (h' : v.Twin w) : u.Twin w :=
  ⟨h.same.trans h'.same, h.indexes.trans h'.indexes⟩

theorem withRestricted (h : v.Twin w) (restricted : KeySet) :
    (v.withRestricted restricted).Twin (w.withRestricted restricted) :=
  ⟨h.same.withRestricted restricted, h.indexes⟩

/-- When both are up to date they show the same. -/
theorem shown (h : v.Twin w) (hv : v.UpToDate) (hw : w.UpToDate) :
    v.collection.facets.map Facet.shown = w.collection.facets.map Facet.shown := by
  have hfacets := map_eq_iff_forall₂.mp h.same.facets
  refine map_eq_iff_forall₂.mpr (List.forall₂_iff_get.mpr ⟨hfacets.length_eq, fun n hn hn' => ?_⟩)
  obtain ⟨input, hinput, hfacet⟩ := hv.shown n _ (List.getElem?_eq_getElem hn)
  obtain ⟨input', hinput', hfacet'⟩ := hw.shown n _ (List.getElem?_eq_getElem hn')
  obtain rfl : input = input' :=
    Except.ok.inj (hinput.symm.trans ((h.same.throughOthers n).trans hinput'))
  have hwould := Facet.wouldShow_congr h.scene (hfacets.get hn hn') input
  exact Except.ok.inj (hfacet.symm.trans (hwould.trans hfacet'))

theorem refreshedItems (h : v.Twin w) : v.refreshedItems = w.refreshedItems := by
  unfold View.refreshedItems
  rw [h.same.throughEach, h.same.items, h.same.restricted]

end Twin

theorem twin_refresh (v : View) : (v.withRestricted v.refreshedItems).Twin (refresh v).2 :=
  ⟨same_refresh v, v.peer_refresh.indexes⟩

/-- **A refresh comes to the same** in views that differ in what facets keep at most. -/
theorem refresh_of_twin (h : v.Twin w) (hv : v.collection.updating = false)
    (hu : refresh v = (.ok (), u)) :
    ∃ t, refresh w = (.ok (), t) ∧ u.Twin t ∧
      u.collection.facets.map Facet.shown = t.collection.facets.map Facet.shown := by
  have hupdated := refresh_upToDate hu hv
  -- after the refresh the first view has no facet that fails, so the second has none
  have hleft := v.twin_refresh
  rw [hu] at hleft
  have htwin : u.Twin (w.withRestricted v.refreshedItems) :=
    hleft.symm.trans (h.withRestricted _)
  have hnarrowed : w.scene.throughEach w.collection.facets w.collection.items =
      .ok u.collection.restricted :=
    (htwin.same.throughEach _).symm.trans (htwin.same.items ▸ hupdated.narrowed)
  have hothers (place : Nat) : ∃ input, w.throughOthers place = .ok input := by
    obtain ⟨input, hinput⟩ := hupdated.throughOthers_ok place
    exact ⟨input, (htwin.same.throughOthers place).symm.trans hinput⟩
  obtain ⟨t, ht⟩ := refresh_succeeds hnarrowed hothers (htwin.allReady hupdated.allReady)
  have hright := w.twin_refresh
  rw [ht, ← h.refreshedItems] at hright
  have hboth : u.Twin t := htwin.trans hright
  have hw : w.collection.updating = false := h.same.updating.symm.trans hv
  exact ⟨t, ht, hboth, hboth.shown hupdated (refresh_upToDate ht hw)⟩

/-- **Facets that stand for the same can be added alike**: with the one as with the other the restricted
    items are the same then, and so is what all facets show. -/
theorem addFacet_of_settled (h : f.settled w.scene = g.settled w.scene)
    (hw : w.collection.updating = false) (hu : addFacet f w = (.ok (), u)) :
    ∃ t, addFacet g w = (.ok (), t) ∧ u.collection.restricted = t.collection.restricted ∧
      u.collection.facets.map Facet.shown = t.collection.facets.map Facet.shown := by
  have hid := Facet.id_of_settled h
  have hrestricts := Facet.hasRestrictions_congr h
  obtain ⟨hnew, ⟨hr, hrefresh⟩ | ⟨hr, f', store, hupdate, rfl⟩⟩ := addFacet_cases hu
  · have htwin : (w.withFacet f).Twin (w.withFacet g) :=
      ⟨same_withFacet (Store.Alike.refl _) h.symm, Store.SameIndexes.refl _⟩
    obtain ⟨t, ht, hboth, hshown⟩ := refresh_of_twin htwin hw hrefresh
    refine ⟨t, ?_, hboth.same.restricted, hshown⟩
    rw [addFacet_apply, if_neg (Bool.eq_false_iff.mp (hid ▸ hnew)), if_pos (hrestricts ▸ hr)]
    exact ht
  · have hscene : w.scene.Twin w.scene := ⟨.refl _, .refl _⟩
    have hwould := Facet.wouldShow_congr hscene h w.collection.restricted
    unfold Facet.wouldShow at hwould
    rw [hupdate] at hwould
    cases hupdate' : g.update w.scene w.collection.restricted with
    | mk outcome left =>
      obtain ⟨g', store'⟩ := left
      rw [hupdate'] at hwould
      cases outcome with
      | error failure => cases hwould
      | ok done =>
        refine ⟨({ w with store := store' } : View).withFacet g', ?_, rfl, ?_⟩
        · rw [addFacet_apply, if_neg (Bool.eq_false_iff.mp (hid ▸ hnew)),
            if_neg (Bool.eq_false_iff.mp (hrestricts ▸ hr)), hupdate']
        · have hshown : f'.shown = g'.shown := Except.ok.inj hwould
          simp only [withFacet, Collection.pushFacet, List.map_append, List.map_cons, List.map_nil,
            hshown]

/-! ## 3. What is kept afterwards -/

theorem AllKeepTrue.withFacet (hv : v.AllKeepTrue) {store : Store} (hstore : v.store.Alike store)
    (hf : f.KeepsTrue v.scene) : (({ v with store } : View).withFacet f).AllKeepTrue := by
  have hscene : v.scene.Alike (({ v with store } : View).withFacet f).scene := ⟨hstore, rfl⟩
  intro g hg
  refine Facet.keepsTrue_alike hscene ?_
  rcases List.mem_append.mp hg with hg | hg
  · exact hv g hg
  · rw [List.mem_singleton.mp hg]
    exact hf

/-- A facet that keeps what is true leaves the others so. -/
theorem keepsTrue_addFacet (hw : w.AllKeepTrue) (hf : f.KeepsTrue w.scene)
    (hu : addFacet f w = (.ok (), u)) : u.AllKeepTrue := by
  obtain ⟨-, ⟨-, hrefresh⟩ | ⟨-, g, store, hupdate, rfl⟩⟩ := addFacet_cases hu
  · have hadded : (w.withFacet f).AllKeepTrue := hw.withFacet (Store.Alike.refl _) hf
    exact keepsTrue_steps (goesBySteps_refresh.ok hrefresh) hadded
  · have huse : f.Use w.scene g store := by
      have huse : f.Use w.scene (f.update w.scene w.collection.restricted).2.1
          (f.update w.scene w.collection.restricted).2.2 := .update w.collection.restricted
      rwa [hupdate] at huse
    exact hw.withFacet huse.store_alike (Facet.keepsTrue_use huse hf)

/-- A facet that has been added stands for what it has brought along. -/
theorem exists_of_addFacet (hu : addFacet f w = (.ok (), u)) :
    w.scene.Alike u.scene ∧ ∃ g ∈ u.collection.facets, g.settled u.scene = f.settled w.scene := by
  have hsame : ∃ v : View, v.scene = w.scene ∧ f ∈ v.collection.facets ∧ v.Same u := by
    obtain ⟨-, ⟨-, hrefresh⟩ | ⟨-, g, store, hupdate, rfl⟩⟩ := addFacet_cases hu
    · have hsame := (w.withFacet f).same_refresh
      rw [hrefresh] at hsame
      exact ⟨(w.withFacet f).withRestricted _, rfl,
        List.mem_append_right _ (List.mem_singleton_self f), hsame⟩
    · have hsettled := f.settled_update w.scene w.collection.restricted
      have hstore := f.update_store_alike w.scene w.collection.restricted
      rw [hupdate] at hsettled hstore
      exact ⟨w.withFacet f, rfl, List.mem_append_right _ (List.mem_singleton_self f),
        same_withFacet hstore hsettled⟩
  obtain ⟨v, hscene, hf, hsame⟩ := hsame
  have hmem : f.settled v.scene ∈ u.collection.facets.map (Facet.settled · u.scene) :=
    hsame.facets ▸ List.mem_map_of_mem hf
  obtain ⟨g, hg, heq⟩ := List.mem_map.mp hmem
  exact ⟨hscene ▸ hsame.scene, g, hg, hscene ▸ heq⟩

/-- Where all facets keep what is true, the one that was added last has been fresh. -/
theorem fresh_of_addFacet (hu : addFacet f w = (.ok (), u)) (hkept : u.AllKeepTrue) :
    f.Fresh w.scene := by
  obtain ⟨hscene, g, hg, hsettled⟩ := exists_of_addFacet hu
  have hfresh : g.Fresh u.scene := (Facet.keepsTrue_iff.mp (hkept g hg)).1
  refine Facet.fresh_of_settled ?_ (Facet.fresh_alike hscene.symm hfresh)
  rw [← hsettled, Facet.settled_alike hscene]

end View

/-! ## 4. The statement -/

open View in
/-- **A facet that is moved** is as good as new exactly if it keeps nothing, or would work out in the other
    place what it has worked out where it was. It has been removed from a collection after any turns, and
    the other view is any at all: a later one of the same collection, over whatever store and root items,
    or one of another collection.

    If it is as good as new, and is added where no batch is under way, the restricted items and what all
    facets show are those that a new facet brings about that is set up like it and has its selection. And
    whenever it can be added to facets that keep what is true, that holds of all of them afterwards exactly
    if it is as good as new; otherwise it goes on with what it has brought until the root is taken again. -/
theorem moved_facet {start v v' : View} {turns : List Turn} {id : String} {f : Facet}
    (hstart : start.AllKeepTrue) (hturns : ∀ t ∈ turns, t.Allowed) (hv : v = Turn.afterAll turns start)
    (hremoved : removeFacet id v = (.ok (some f), v')) (w : View) :
    (f.KeepsTrue w.scene ↔ f.memo = none ∨ f.memoFor w.scene = f.memoFor v.scene) ∧
    (f.KeepsTrue w.scene → w.collection.updating = false →
      ∀ g : Facet, g.bare = f.bare → g.dropCaches = g →
        ((addFacet f w).1 = .ok () ↔ (addFacet g w).1 = .ok ()) ∧
        ∀ u, addFacet f w = (.ok (), u) → ∃ t, addFacet g w = (.ok (), t) ∧
          u.collection.restricted = t.collection.restricted ∧
          u.collection.facets.map Facet.shown = t.collection.facets.map Facet.shown) ∧
    (w.AllKeepTrue → ∀ u, addFacet f w = (.ok (), u) → (u.AllKeepTrue ↔ f.KeepsTrue w.scene)) := by
  subst hv
  have hf : f.KeepsTrue (Turn.afterAll turns start).scene :=
    keepsTrue_steps (Turn.steps_afterAll hturns start) hstart f
      (List.mem_of_find?_eq_some (removeFacet_cases hremoved).1)
  refine ⟨hf.elsewhere_iff, fun hkept hw g hbare hnew => ?_,
    fun hw u hu => ⟨fun hall => ?_, fun hkept => ?_⟩⟩
  · have hg : g.Fresh w.scene := hnew ▸ g.fresh_dropCaches w.scene
    have hsettled : f.settled w.scene = g.settled w.scene :=
      Facet.settled_of_bare (.refl _) (hf.iff_fresh.mp hkept) hg hbare.symm
    refine ⟨⟨fun hok => ?_, fun hok => ?_⟩, fun u hu => addFacet_of_settled hsettled hw hu⟩
    · obtain ⟨t, ht, -⟩ := addFacet_of_settled hsettled hw (Prod.ext hok rfl)
      rw [ht]
    · obtain ⟨t, ht, -⟩ := addFacet_of_settled hsettled.symm hw (Prod.ext hok rfl)
      rw [ht]
  · exact hf.iff_fresh.mpr (fresh_of_addFacet hu hall)
  · exact keepsTrue_addFacet hw hkept hu

/-- Plants without a colour are selected; there are none. -/
def missingColours : List Turn :=
  [⟨none, .call (.setRoot (KeySet.ofList ["ash", "rose"]))⟩, ⟨none, .call (.addFacet (colours "first"))⟩,
    ⟨none, .call (.changeFacet "first" (.select ∅ true))⟩]

theorem allowed_missingColours : ∀ t ∈ missingColours, t.Allowed := by
  intro t ht
  simp only [missingColours, List.mem_cons, List.not_mem_nil, or_false] at ht
  rcases ht with rfl | rfl | rfl
  · exact ⟨trivial, fun h => by cases h⟩
  · exact ⟨rfl, fun h => by cases h⟩
  · exact ⟨trivial, fun h => by cases h⟩

open View in
/-- The list of colours is put back where it has been, and keeps what is true. -/
theorem moved_back :
    ∃ start v v' u f, start.AllKeepTrue ∧ (∀ t ∈ missingColours, t.Allowed) ∧
      v = Turn.afterAll missingColours start ∧ removeFacet "first" v = (.ok (some f), v') ∧
      f.memo.isSome = true ∧ f.KeepsTrue v'.scene ∧ addFacet f v' = (.ok (), u) ∧ u.AllKeepTrue := by
  have hstart : View.AllKeepTrue ⟨plants, Collection.new "plants" .allItems⟩ := fun f hf => by
    simp [Collection.new] at hf
  have hremoved : removeFacet "first" (Turn.afterAll missingColours
      ⟨plants, Collection.new "plants" .allItems⟩) = (.ok (some _), _) := rfl
  obtain ⟨hkept, -, hall⟩ := moved_facet hstart allowed_missingColours rfl hremoved
    (removeFacet "first" (Turn.afterAll missingColours ⟨plants, Collection.new "plants" .allItems⟩)).2
  have htrue := hkept.mpr (.inr rfl)
  refine ⟨_, _, _, _, _, hstart, allowed_missingColours, rfl, hremoved, rfl, htrue, rfl, ?_⟩
  -- there was no other facet
  exact (hall (fun f hf => absurd hf List.not_mem_nil) _ rfl).mpr htrue

/-- The ash has lost its colour. -/
def faded : Store := (plants.removeStatement "ash" "colour" "grey").2

open View in
/-- **The list of colours has missed a change**: it is put back after the ash has lost its colour and the
    collection has taken its root again. All of that succeeds, but the list neither lets the ash through
    nor counts it among the plants without a colour, as a new list would. -/
theorem moved_stale :
    ∃ v v' w u t f, v = Turn.afterAll missingColours ⟨plants, Collection.new "plants" .allItems⟩ ∧
      removeFacet "first" v = (.ok (some f), v') ∧
      w = Turn.after ⟨some faded, .call (.setRoot (KeySet.ofList ["ash", "rose"]))⟩ v' ∧
      addFacet f w = (.ok (), u) ∧
      addFacet ((colours "first").perform w.scene (.select ∅ true)).2 w = (.ok (), t) ∧
      u.collection.restricted = ∅ ∧ t.collection.restricted = KeySet.ofList ["ash"] ∧
      u.collection.facets.map Facet.shown = [.entries
        [⟨none, "(missing this field)", 0, true⟩, ⟨some "red", "red", 1, false⟩]] ∧
      t.collection.facets.map Facet.shown = [.entries
        [⟨none, "(missing this field)", 1, true⟩, ⟨some "red", "red", 1, false⟩]] :=
  ⟨_, _, _, _, _, _, rfl, rfl, rfl, rfl, rfl, rfl, rfl, rfl, rfl⟩

end Faceted
