import Mathlib.Data.Option.Basic
import Faceted.Proofs.Browser.Selecting

/-!
# A bookmark brings back what it was taken from

A state that a browser has exported is imported collection by collection, each import being passed on
before the next. Whatever was selected in between, every facet ends with the selection that was
exported, and then the items follow, from the first collection to those that are based on it.

* `BrowserState.Same`: states that are the same for all collections and facets;
* **`restore_exported`**: all facets take over their states, one collection after the other;
* **`same_items`**: browsers in tune with the same selections have the same items;
* `importState_exported` puts these together.
-/

namespace Faceted

open Faceted.Action

/-! ## 1. States by collection and facet -/

namespace KeyMap

variable {α : Type} {r : α → α → Prop} {es es' : List (String × α)}

/-- The maps have the same keys, with values in the relation. -/
def Alike (r : α → α → Prop) (m n : KeyMap α) : Prop := ∀ k, Option.Rel r (m.get? k) (n.get? k)

theorem foldl_insert_alike
    (h : List.Forall₂ (fun e e' : String × α => e.1 = e'.1 ∧ r e.2 e'.2) es es') {m n : KeyMap α}
    (hm : Alike r m n) :
    Alike r (es.foldl (fun m e => m.insert e.1 e.2) m)
      (es'.foldl (fun m e => m.insert e.1 e.2) n) := by
  induction h generalizing m n with
  | nil => exact hm
  | @cons e e' es es' he _ ih =>
    refine ih fun k => ?_
    rw [get?_insert, get?_insert, ← he.1]
    split
    · exact .some he.2
    · exact hm k

theorem alike_ofList
    (h : List.Forall₂ (fun e e' : String × α => e.1 = e'.1 ∧ r e.2 e'.2) es es') :
    Alike r (ofList es) (ofList es') := foldl_insert_alike h fun _ => .none

end KeyMap

/-- The states are the same for all collections and facets. -/
def BrowserState.Same (s t : BrowserState) : Prop :=
  KeyMap.Alike (KeyMap.Alike fun x y => x.same y = true) s t

/-! ## 2. Collections with the same selections -/

/-- The facets, one by one, were set up alike and have the same selection. -/
def Collection.SameSelections (c d : Collection) : Prop :=
  List.Forall₂ Facet.SameSelection c.facets d.facets

/-- The collections have the same id and the same items, before and after their facets. -/
structure Collection.SameItems (c d : Collection) : Prop where
  id : c.id = d.id
  items : c.items = d.items
  restricted : c.restricted = d.restricted

namespace Browser

variable {b b' : Browser}

/-- Where no collection narrows its base, a user acts on all facets. -/
theorem Neat.isForUser (hb : b.Neat) {c : Collection} (hc : c ∈ b.collections) {f : Facet}
    (hf : f ∈ c.facets) : f.isForUser = true := by
  cases f with
  | derived f =>
    obtain ⟨d, hd, hsource, -⟩ := (hb.orderly.attached c hc).belongs (f.id, some f.expression)
      (List.mem_map_of_mem (f := Facet.role) hf) f.expression rfl
    have hplain := hb.plain d hd
    unfold Collection.isRestricting at hplain
    rw [hsource] at hplain
    cases hplain
  | _ => rfl

/-- **Browsers in tune with the same selections have the same items**, the first collections and so those
    that are based on them. -/
theorem same_items (hb : b.Neat) (hb' : b'.Neat) (hretains : b.Retains Facet.Reselected b')
    (hsame : List.Forall₂ Collection.SameSelections b'.collections b.collections) {place : Nat}
    {c d : Collection} (hc : b.collections[place]? = some c) (hd : b'.collections[place]? = some d) :
    c.SameItems d := by
  induction place using Nat.strongRecOn generalizing c d with
  | ind place ih =>
    have hmemC := List.mem_of_getElem? hc
    have hmemD := List.mem_of_getElem? hd
    obtain ⟨d', hd', hcd⟩ := forall₂_getElem? hretains.collections hc
    cases hd'.symm.trans hd
    have hcd : c.Retains Facet.Reselected d := hcd
    have hrootC := hb.inTune.roots place c hc (hb.plain c hmemC)
    have hrootD := hb'.inTune.roots place d hd (hb'.plain d hmemD)
    have hitems : c.items = d.items := by
      rw [rootOf_congr hretains.store hcd.source.symm fun id hbase => ?_, hrootC] at hrootD
      · exact Except.ok.inj hrootD
      · -- the base stands before, and has the same restricted items
        obtain ⟨on, hlt, base, hon, rfl⟩ := hb.orderly.ordered.base hc hbase
        obtain ⟨base', hon', -⟩ := forall₂_getElem? hretains.collections hon
        have hbases := ih on hlt hon hon'
        rw [collection?_eq hb.orderly.ordered hon, hbases.id,
          collection?_eq hb'.orderly.ordered hon', Option.map_some, Option.map_some,
          hbases.restricted]
    refine ⟨hcd.id, hitems, ?_⟩
    have hlineC := hb.inTune.inLine c hmemC
    have hlineD := hb'.inTune.inLine d hmemD
    obtain ⟨c', hc', hdc⟩ := forall₂_getElem? hsame hd
    cases hc'.symm.trans hc
    have hnarrowed : Scene.throughEach ⟨b'.store, d.items⟩ d.facets c.items = .ok d.restricted := by
      rw [hitems]
      exact hlineD.narrowed
    exact (Scene.throughEach_of_sameSelection ⟨hretains.store.symm, hitems.symm⟩ hdc
      (fun f hf => hb'.isForUser hmemD hf) hlineD.fresh hlineC.fresh hnarrowed hlineC.narrowed).symm

/-! ## 3. Restoring -/

theorem exportState_get? (hb : b.Ordered) {place : Nat} {c : Collection}
    (hc : b.collections[place]? = some c) : b.exportState.get? c.id = some (facetStates c) := by
  have hdistinct : ((b.collections.map fun c => (c.id, facetStates c)).map Prod.fst).Nodup := by
    rw [List.map_map]
    refine List.nodup_iff_injective_getElem.mpr fun p q hpq => Fin.ext ?_
    simp only [List.getElem_map, Function.comp_apply] at hpq
    have hlen : (b.collections.map (Prod.fst ∘ fun c => (c.id, facetStates c))).length =
        b.collections.length := List.length_map _
    refine hb.distinct (idAt_of_getElem? (List.getElem?_eq_getElem (hlen ▸ p.isLt))) ?_
    rw [hpq]
    exact idAt_of_getElem? (List.getElem?_eq_getElem (hlen ▸ q.isLt))
  exact (KeyMap.get?_ofList hdistinct c.id).trans (lookupKey_of_mem hdistinct
    (List.mem_map_of_mem (f := fun c => (c.id, facetStates c)) (List.mem_of_getElem? hc)))

/-- The state that a facet is to take is the one that its like has exported. -/
theorem target_exportState (hb : b.Neat) {place : Nat} {c : Collection}
    (hc : b.collections[place]? = some c) {f g : Facet} (hg : g ∈ c.facets) (hid : f.id = g.id) :
    b.exportState.target c.id f = g.exportState := by
  have hmem := List.mem_of_getElem? hc
  have hall : c.facets.filter Facet.isForUser = c.facets :=
    List.filter_eq_self.mpr fun f hf => hb.isForUser hmem hf
  have hstate : (facetStates c).get? g.id = some g.exportState := by
    unfold facetStates
    rw [hall]
    have hdistinct : ((c.facets.map fun f => (f.id, f.exportState)).map Prod.fst).Nodup := by
      rw [List.map_map]
      exact (hb.orderly.attached c hmem).distinct
    exact (KeyMap.get?_ofList hdistinct g.id).trans
      (lookupKey_of_mem hdistinct (List.mem_map_of_mem (f := fun f => (f.id, f.exportState)) hg))
  unfold BrowserState.target
  rw [exportState_get? hb.orderly.ordered hc, Option.bind_some, hid, hstate, Option.getD_some]

/-- The collections of `s` at the places before `n` have the selections that they have in `b`. -/
def BackBefore (b : Browser) (n : Nat) (s : Browser) : Prop :=
  ∀ place < n, ∀ c d, b.collections[place]? = some c → s.collections[place]? = some d →
    d.SameSelections c

/-- Collections that have their selections back keep them while everything is brought in line. -/
theorem BackBefore.retains {n : Nat} {s t : Browser} (h : b.BackBefore n s)
    (hst : s.Retains Facet.SameBare t) : b.BackBefore n t := by
  intro place hlt c d hc hd
  obtain ⟨d', hd', hdd'⟩ := forall₂_getElem?_right hst.collections hd
  have hdd' : d'.Retains Facet.SameBare d := hdd'
  exact forall₂_trans hdd'.facets.flip (h place hlt c d' hc hd') Facet.SameSelection.of_sameBare

/-- One more collection gets its selections back. -/
theorem BackBefore.put {n : Nat} {s : Browser} {c : Collection} {w : View} (h : b.BackBefore n s)
    (hc : b.collections[n]? = some c) (hw : w.collection.SameSelections c) :
    b.BackBefore (n + 1) (s.putView n w) := by
  intro place hlt c' d hc' hd
  rw [putView, List.getElem?_set] at hd
  split at hd
  · next heq =>
    subst heq
    split at hd
    · cases hd
      cases hc.symm.trans hc'
      exact hw
    · cases hd
  · next hne => exact h place (by omega) c' d hc' hd

/-- The browser `s` half way through a bookmark that `b` has exported: the collections before `n` have
    their selections back. -/
structure HalfRestored (b : Browser) (n : Nat) (s : Browser) : Prop where
  reselects : b.Reselects s
  back : b.BackBefore n s

/-- **One collection takes over what was exported.** -/
theorem HalfRestored.step (hworks : b.Works) (hb : b.Neat) (n : Nat) {s : Browser}
    (h : HalfRestored b n s) :
    ∃ changed t, restoreAt b.exportState n s = (.ok changed, t) ∧ HalfRestored b (n + 1) t := by
  have hs := h.reselects
  have hfits : b.Fits s := hs.fits (.refl b)
  cases hc : s.collections[n]? with
  | none =>
    refine ⟨false, s, restoreAt_of_none _ hc, hs, fun place hlt c d hc' hd => ?_⟩
    rcases Nat.lt_succ_iff_lt_or_eq.mp hlt with hlt | rfl
    · exact h.back place hlt c d hc' hd
    · rw [hc] at hd
      cases hd
  | some c =>
    obtain ⟨d, hd, hdc⟩ := forall₂_getElem?_right hs.retains.collections hc
    have hdc : d.Retains Facet.Reselected c := hdc
    have hmem := List.mem_of_getElem? hc
    obtain ⟨changed, w, hrun, hw⟩ := View.restoreFacets_exported (v := ⟨s.store, c⟩)
      (s := b.exportState) (hs.neat.view hworks hfits hc) (hs.neat.inTune.inLine c hmem)
      (fun f hf => hs.neat.isForUser hmem hf) (hs.neat.orderly.attached c hmem).distinct
      (hdc.facets.flip.imp fun f g hgf => Eq.symm hgf.plain) (hb.trimmed d (List.mem_of_getElem? hd))
      (fun f g hg hid => hdc.id ▸ target_exportState hb hd hg hid)
    obtain ⟨t, ht, hreselects, hretains⟩ := hs.neat.restoreAt hworks hfits hc hrun
    exact ⟨changed, t, ht, hs.trans hreselects, (h.back.put hd hw).retains hretains⟩

/-- **A bookmark is restored**, whatever was selected since it was taken. -/
theorem restore_exported (hworks : b.Works) (hb : b.Neat) (hb' : b.Reselects b') :
    ∃ changed t, importState b.exportState b' = (.ok changed, t) ∧ b.Reselects t ∧
      List.Forall₂ Collection.SameSelections t.collections b.collections := by
  obtain ⟨answers, t, hcollect, ht⟩ := collect_range'_succeeds (I := HalfRestored b)
    (HalfRestored.step hworks hb) 0 b'.collections.length
    (s := b') ⟨hb', fun place hlt => absurd hlt (Nat.not_lt_zero place)⟩
  have hrestore : restore b.exportState b' = (.ok (answers.any id), t) := by
    show (collect (restoreAt b.exportState) (List.range b'.collections.length) >>= fun answers =>
      pure (answers.any id)) b' = _
    rw [List.range_eq_range', bind_of_ok hcollect]
    rfl
  refine ⟨answers.any id, t, ?_, ht.reselects, ?_⟩
  · show ((restore b.exportState b').2.settings.errors.settle false (restore b.exportState b').1,
      (restore b.exportState b').2) = _
    rw [hrestore]
    cases t.settings.errors <;> rfl
  · have hlength := hb'.retains.collections.length_eq
    have hlength' := ht.reselects.retains.collections.length_eq
    refine List.forall₂_iff_get.mpr ⟨hlength'.symm, fun n hn hn' => ?_⟩
    exact ht.back n (by omega) _ _ (List.getElem?_eq_getElem hn') (List.getElem?_eq_getElem hn)

/-- The state of facets with the same selections is the same. -/
theorem facetStates_same {c d : Collection} (h : c.SameSelections d)
    (hc : ∀ f ∈ c.facets, f.isForUser = true) (hd : ∀ f ∈ d.facets, f.isForUser = true) :
    KeyMap.Alike (fun x y => FacetState.same x y = true) (facetStates c) (facetStates d) := by
  unfold facetStates
  rw [List.filter_eq_self.mpr hc, List.filter_eq_self.mpr hd]
  refine KeyMap.alike_ofList ?_
  rw [List.forall₂_map_left_iff, List.forall₂_map_right_iff]
  exact h.imp fun f g hfg => ⟨Facet.SetUpAlike.id hfg.plain, hfg.state⟩

/-- **A bookmark brings back what it was taken from.** -/
theorem importState_exported (hworks : b.Works) (hb : b.Neat) (hb' : b.Reselects b') :
    ∃ changed t, importState b.exportState b' = (.ok changed, t) ∧
      t.exportState.Same b.exportState ∧
        List.Forall₂ Collection.SameItems b.collections t.collections := by
  obtain ⟨changed, t, hrun, ht, hsame⟩ := restore_exported hworks hb hb'
  refine ⟨changed, t, hrun, ?_, ?_⟩
  · refine KeyMap.alike_ofList ?_
    rw [List.forall₂_map_left_iff, List.forall₂_map_right_iff]
    refine List.forall₂_iff_get.mpr ⟨hsame.length_eq, fun n hn hn' => ?_⟩
    have hretains := ht.retains.collections.get hn' hn
    have hselections := hsame.get hn hn'
    exact ⟨hretains.id.symm, facetStates_same hselections
      (fun f hf => ht.neat.isForUser (List.getElem_mem hn) hf)
      (fun f hf => hb.isForUser (List.getElem_mem hn') hf)⟩
  · refine List.forall₂_iff_get.mpr ⟨ht.retains.collections.length_eq, fun n hn hn' => ?_⟩
    exact same_items hb ht.neat ht.retains hsame (List.getElem?_eq_getElem hn)
      (List.getElem?_eq_getElem hn')

end Browser

end Faceted
