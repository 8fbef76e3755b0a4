import Faceted.Proofs.Browser.Orderly
import Faceted.Proofs.Collection.Restoring

/-!
# Passing on does not stop half way

Where every evaluation succeeds, a change to one collection reaches all that depend on it. What the
evaluations are given on the way depends on the selections, so the condition speaks of all items that a
collection may come to have.

* `Browser.MayHave`: these items; `Browser.Works`: every evaluation over them succeeds;
* `Browser.Fits`: a browser is part of another one, apart from selections;
* `Browser.Workable` is what holds of a browser within an operation;
* **`Workable.propagate`**: passing on succeeds, and afterwards the roots hold that held before or depend
  on the collection.
-/

namespace Faceted

open Faceted.Action

/-! ## 1. Selections -/

/-- The same facets with any selections, and nothing kept. -/
structure Selections (facets chosen : List Facet) : Prop where
  alike : List.Forall₂ Facet.SetUpAlike facets chosen
  dropped : ∀ f ∈ chosen, f.dropCaches = f

theorem Selections.asksTime {s : Store} {c : Collection} {chosen : List Facet}
    (h : Selections c.facets chosen) (hasks : View.asksTime ⟨s, c⟩ = false) {f : Facet}
    (hf : f ∈ chosen) : f.asksTime = false := by
  obtain ⟨g, hg, hfg⟩ := forall₂_mem h.alike.flip hf
  exact (Facet.asksTime_of_plain hfg).symm.trans (View.asksTime_eq_false hasks hg)

namespace Facet

theorem dropCaches_plain (f : Facet) : f.plain.dropCaches = f.plain := by
  cases f <;> rfl

theorem plain_plain (f : Facet) : f.plain.plain = f.plain := by
  cases f <;> rfl

theorem plain_dropCaches (f : Facet) : f.dropCaches.plain = f.plain := by
  rw [plain, bare_dropCaches, plain]

theorem hasRestrictions_plain (f : Facet) : f.plain.hasRestrictions = false := by
  cases f <;> rfl

end Facet

instance : IsTrans Facet Facet.SetUpAlike := ⟨fun _ _ _ => Eq.trans⟩

instance : Std.Refl Facet.SetUpAlike := ⟨fun _ => rfl⟩

/-- A selection in some of the facets is one in all of them, with nothing selected in the others. -/
theorem exists_selections {some all : List Facet} (h : List.SublistForall₂ Facet.SetUpAlike some all) :
    ∃ chosen, Selections all chosen ∧ ∀ (scene : Scene) items,
      scene.throughEach chosen items = scene.throughEach (some.map Facet.dropCaches) items := by
  induction h with
  | @nil all =>
    refine ⟨all.map Facet.plain, ⟨?_, fun f hf => ?_⟩, fun scene items => ?_⟩
    · rw [List.forall₂_map_right_iff]
      exact List.forall₂_same.mpr fun f _ => f.plain_plain.symm
    · obtain ⟨g, -, rfl⟩ := List.mem_map.mp hf
      exact g.dropCaches_plain
    · refine Scene.throughEach_of_none scene (fun f hf => ?_) items
      obtain ⟨g, -, rfl⟩ := List.mem_map.mp hf
      exact g.hasRestrictions_plain
  | @cons f g some all hfg _ ih =>
    obtain ⟨chosen, hchosen, hthrough⟩ := ih
    refine ⟨f.dropCaches :: chosen, ⟨.cons ?_ hchosen.alike, fun g' hg' => ?_⟩, fun scene items => ?_⟩
    · exact Eq.trans hfg.symm f.plain_dropCaches.symm
    · rcases List.mem_cons.mp hg' with rfl | hg'
      · exact f.dropCaches_dropCaches
      · exact hchosen.dropped g' hg'
    · rw [List.map_cons, Scene.throughEach, Scene.throughEach]
      simp only [hthrough]
  | @cons_right f some all _ ih =>
    obtain ⟨chosen, hchosen, hthrough⟩ := ih
    refine ⟨f.plain :: chosen, ⟨.cons f.plain_plain.symm hchosen.alike, fun g hg => ?_⟩,
      fun scene items => ?_⟩
    · rcases List.mem_cons.mp hg with rfl | hg
      · exact f.dropCaches_plain
      · exact hchosen.dropped g hg
    · rw [Scene.throughEach, f.hasRestrictions_plain, if_neg Bool.false_ne_true]
      exact hthrough scene items

/-- The collection is the other one with some of its facets, and with other selections. -/
structure Collection.PartOf (c d : Collection) : Prop where
  id : c.id = d.id
  source : c.source = d.source
  facets : List.SublistForall₂ Facet.SetUpAlike c.facets d.facets

namespace Collection.PartOf

variable {c d e : Collection}

theorem refl (c : Collection) : c.PartOf c := ⟨rfl, rfl, Std.Refl.refl _⟩

theorem of_sublist (hid : c.id = d.id) (hsource : c.source = d.source)
    (h : c.facets.Sublist d.facets) : c.PartOf d :=
  ⟨hid, hsource, List.sublistForall₂_iff.mpr ⟨_, List.forall₂_same.mpr fun _ _ => rfl, h⟩⟩

theorem trans (h : c.PartOf d) (h' : d.PartOf e) : c.PartOf e :=
  ⟨h.id.trans h'.id, h.source.trans h'.source, IsTrans.trans _ _ _ h.facets h'.facets⟩

theorem of_retains {r : Facet → Facet → Prop} (hr : ∀ {f g}, r f g → f.SetUpAlike g)
    (h : c.Retains r d) : c.PartOf d ∧ d.PartOf c := by
  refine ⟨⟨h.id, h.source, ?_⟩, h.id.symm, h.source.symm, ?_⟩
  · exact List.sublistForall₂_iff.mpr ⟨d.facets, h.facets.imp fun _ _ => hr, List.Sublist.refl _⟩
  · exact List.sublistForall₂_iff.mpr
      ⟨c.facets, h.facets.flip.imp fun _ _ hfg => Eq.symm (hr hfg), List.Sublist.refl _⟩

end Collection.PartOf

namespace Browser

/-! ## 2. Evaluations -/

/-- Items that the collection at a place may come to have, whatever is selected anywhere. -/
inductive MayHave (b : Browser) : Nat → KeySet → Prop where
  | own {place : Nat} {c : Collection} {items : KeySet} (hc : b.collections[place]? = some c)
      (hbase : c.base? = none) (hitems : b.rootOf c = .ok items) : MayHave b place items
  | based {place on : Nat} {c base : Collection} {e : Expression} {restricting : Bool}
      {items kept : KeySet} {chosen : List Facet} {values : Values}
      (hc : b.collections[place]? = some c) (hsource : c.source = .based e base.id restricting)
      (hbase : b.collections[on]? = some base) (hitems : MayHave b on items)
      (hchosen : Selections base.facets chosen)
      (hkept : Scene.throughEach ⟨b.store, items⟩ chosen items = .ok kept)
      (hvalues : e.eval (Roots.ofItems kept) Roots.defaultName b.store = .ok values) :
      MayHave b place values.toSet

/-- Every evaluation succeeds: the facets can be applied and shown whatever is selected anywhere, and
    what they let through leads to the items of the collections that are based on theirs. -/
structure Works (b : Browser) : Prop where
  facets : ∀ {place : Nat} {c items}, b.collections[place]? = some c → b.MayHave place items →
    ∀ f ∈ c.facets, f.Works ⟨b.store, items⟩
  sources : ∀ {on : Nat} {base items chosen kept}, b.collections[on]? = some base → b.MayHave on items →
    Selections base.facets chosen → Scene.throughEach ⟨b.store, items⟩ chosen items = .ok kept →
    ∀ c ∈ b.collections, ∀ e restricting, c.source = .based e base.id restricting →
      ∃ values, e.eval (Roots.ofItems kept) Roots.defaultName b.store = .ok values

/-- What a collection may come to have does not depend on the clock, unless an expression asks for the
    time. -/
theorem MayHave.atMoment {b : Browser} (hasks : b.asksTime = false) (moment : Int) {place : Nat}
    {items : KeySet} (h : b.MayHave place items) : (b.atMoment moment).MayHave place items := by
  induction h with
  | own hc hbase hitems =>
    refine .own hc hbase ?_
    rw [rootOf_atMoment (source_asksTime hasks (List.mem_of_getElem? hc)), hitems]
  | @based place on c base e restricting items kept chosen values hc hsource hbase _ hchosen hkept
      hvalues ih =>
    have he : e.asksTime = false := by
      have hasked := source_asksTime hasks (List.mem_of_getElem? hc)
      rw [hsource] at hasked
      exact hasked
    refine .based hc hsource hbase ih hchosen ?_
      ((Expression.eval_atMoment he _ _ b.store moment).symm.trans hvalues)
    refine (Scene.throughEach_atMoment (fun f hf => ?_) ⟨b.store, items⟩ moment items).symm.trans hkept
    exact hchosen.asksTime (facets_asksTime hasks (List.mem_of_getElem? hbase)) hf

/-- The clock may be put back. -/
theorem MayHave.of_atMoment {b : Browser} (hasks : b.asksTime = false) {moment : Int} {place : Nat}
    {items : KeySet} (h : (b.atMoment moment).MayHave place items) : b.MayHave place items :=
  MayHave.atMoment (b := b.atMoment moment) hasks b.store.present h

/-- **The clock** does not stop a browser in which no expression asks for the time. -/
theorem Works.atMoment {b : Browser} (hb : b.Works) (hasks : b.asksTime = false) (moment : Int) :
    (b.atMoment moment).Works where
  facets hc hitems f hf :=
    (hb.facets hc (hitems.of_atMoment hasks) f hf).atMoment
      (View.asksTime_eq_false (facets_asksTime hasks (List.mem_of_getElem? hc)) hf) moment
  sources {on base items chosen kept} hbase hitems hchosen hkept c hc e restricting hsource := by
    have hchosenAsks : ∀ f ∈ chosen, f.asksTime = false := fun f hf =>
      hchosen.asksTime (facets_asksTime hasks (List.mem_of_getElem? hbase)) hf
    have he : e.asksTime = false := by
      have hasked := source_asksTime hasks hc
      rw [hsource] at hasked
      exact hasked
    obtain ⟨values, hvalues⟩ := hb.sources hbase (hitems.of_atMoment hasks) hchosen
      ((Scene.throughEach_atMoment hchosenAsks ⟨b.store, items⟩ moment items).trans hkept)
      c hc e restricting hsource
    exact ⟨values, (Expression.eval_atMoment he _ _ b.store moment).symm.trans hvalues⟩

/-! ## 3. Parts of browsers -/

/-- The collections are the same ones in the same order, and their facets have been altered at most. -/
structure Retains (r : Facet → Facet → Prop) (b b' : Browser) : Prop where
  store : b.store.Alike b'.store
  indexes : b.store.SameIndexes b'.store
  collections : List.Forall₂ (Collection.Retains r) b.collections b'.collections

theorem frame_retains {r : Facet → Facet → Prop} (hr : Facet.Alteration r) :
    Frame fun _ => Browser.Retains r where
  refl _ _ := ⟨Store.Alike.refl _, Store.SameIndexes.refl _,
    List.forall₂_same.mpr fun c _ => .refl hr c⟩
  trans h h' := ⟨h.store.trans h'.store, h.indexes.trans h'.indexes,
    forall₂_trans h.collections h'.collections (Collection.Retains.trans hr)⟩

/-- What has been retained is so at every moment. -/
theorem Retains.atMoment {r : Facet → Facet → Prop} {b b' : Browser} (h : b.Retains r b')
    (moment : Int) : (b.atMoment moment).Retains r (b'.atMoment moment) where
  store := h.store.atMoment moment
  indexes property :=
    ((b.store.rangeIndex?_atMoment moment property).symm.trans (h.indexes property)).trans
      (b'.store.rangeIndex?_atMoment moment property)
  collections := h.collections

theorem retains_putView {r : Facet → Facet → Prop} (hr : Facet.Alteration r) {b : Browser}
    {place : Nat} {c : Collection} {w : View} (hc : b.collections[place]? = some c)
    (h : View.Retains r ⟨b.store, c⟩ w) : b.Retains r (b.putView place w) :=
  ⟨h.store, h.indexes, forall₂_set (.refl hr) hc h.collection⟩

/-- The browser `b` is a part of `R`: its collections and facets are there too, apart from what is
    selected, kept and shown. -/
structure Fits (R b : Browser) : Prop where
  store : R.store.Alike b.store
  indexes : R.store.SameIndexes b.store
  collections : ∀ {place : Nat} {c}, b.collections[place]? = some c →
    ∃ d, R.collections[place]? = some d ∧ c.PartOf d

variable {R b b' : Browser}

namespace Fits

theorem refl (b : Browser) : b.Fits b where
  store := Store.Alike.refl _
  indexes := Store.SameIndexes.refl _
  collections {_ c} hc := ⟨c, hc, .refl c⟩

theorem trans (h : R.Fits b) (h' : b.Fits b') : R.Fits b' where
  store := h.store.trans h'.store
  indexes := h.indexes.trans h'.indexes
  collections hc := by
    obtain ⟨d, hd, hcd⟩ := h'.collections hc
    obtain ⟨e, he, hde⟩ := h.collections hd
    exact ⟨e, he, hcd.trans hde⟩

/-- Browsers that differ at most in selections are parts of each other. -/
theorem of_retains {r : Facet → Facet → Prop} (hr : ∀ {f g}, r f g → f.SetUpAlike g)
    (h : b.Retains r b') : b.Fits b' ∧ b'.Fits b := by
  refine ⟨⟨h.store, h.indexes, fun {_ c'} hc' => ?_⟩,
    h.store.symm, fun property => (h.indexes property).symm, fun {_ c} hc => ?_⟩
  · obtain ⟨c, hc, hcc'⟩ := forall₂_getElem?_right h.collections hc'
    exact ⟨c, hc, (Collection.PartOf.of_retains hr hcc').2⟩
  · obtain ⟨c', hc', hcc'⟩ := forall₂_getElem? h.collections hc
    exact ⟨c', hc', (Collection.PartOf.of_retains hr hcc').1⟩

/-- Altering the part does not matter as long as its facets stay set up as they were. -/
theorem retains {r : Facet → Facet → Prop} (hr : ∀ {f g}, r f g → f.SetUpAlike g)
    (h : R.Fits b) (hb : b.Retains r b') : R.Fits b' := h.trans (of_retains hr hb).1

end Fits

/-- Facets of the part work over items that their collection may come to have. -/
theorem Works.view (hR : R.Works) (h : R.Fits b) {place : Nat} {c : Collection}
    (hc : b.collections[place]? = some c) {items : KeySet} (hitems : R.MayHave place items) :
    (View.withItems ⟨b.store, c⟩ items).Works := by
  obtain ⟨d, hd, hcd⟩ := h.collections hc
  obtain ⟨some, halike, hsome⟩ := List.sublistForall₂_iff.mp hcd.facets
  intro f hf
  obtain ⟨g, hg, hfg⟩ := forall₂_mem halike hf
  exact (hR.facets hd hitems g (hsome.subset hg)).congr ⟨⟨h.store, rfl⟩, h.indexes⟩ hfg.symm

/-- What is based on a collection in line gets its root, and it is one that it may come to have. -/
theorem Works.based (hR : R.Works) (h : R.Fits b) {on place : Nat} {base c : Collection}
    (hbase : b.collections[on]? = some base) (hitems : R.MayHave on base.items)
    (hline : View.InLine ⟨b.store, base⟩) (hc : b.collections[place]? = some c) {e : Expression}
    {restricting : Bool} (hsource : c.source = .based e base.id restricting) :
    ∃ values, e.eval (Roots.ofItems base.restricted) Roots.defaultName b.store = .ok values ∧
      R.MayHave place values.toSet := by
  obtain ⟨d, hd, hpart⟩ := h.collections hbase
  obtain ⟨d', hd', hpart'⟩ := h.collections hc
  obtain ⟨chosen, hchosen, hthrough⟩ := exists_selections hpart.facets
  have hscene : Scene.Alike ⟨R.store, base.items⟩ ⟨b.store, base.items⟩ := ⟨h.store, rfl⟩
  have hkept : Scene.throughEach ⟨R.store, base.items⟩ chosen base.items = .ok base.restricted := by
    rw [hthrough, ← hline.throughEach_fresh]
    refine Scene.throughEach_congr hscene (List.map_congr_left fun f _ => ?_) _
    exact Facet.settled_alike hscene f
  have hsourceR : d'.source = .based e d.id restricting := by
    rw [← hpart'.source, hsource, hpart.id]
  obtain ⟨values, hvalues⟩ := hR.sources hd hitems hchosen hkept d' (List.mem_of_getElem? hd') e
    restricting hsourceR
  refine ⟨values, (Expression.eval_alike h.store e _ _).symm.trans hvalues, ?_⟩
  exact .based hd' hsourceR hd hitems hchosen hkept hvalues

/-! ## 4. Within an operation -/

/-- The browser `b` within an operation, where `R` tells what may be evaluated: the collections are in
    line, none narrows its base, and each has items that it may come to have. -/
structure Workable (R b : Browser) : Prop where
  fits : R.Fits b
  orderly : b.Orderly
  inLine : b.AllInLine
  plain : ∀ c ∈ b.collections, c.isRestricting = false
  possible : ∀ {place : Nat} {c}, b.collections[place]? = some c → R.MayHave place c.items

theorem source_of_base? {c : Collection} (hplain : c.isRestricting = false) {id : String}
    (hbase : c.base? = some id) : ∃ e, c.source = .based e id false := by
  unfold Collection.base? at hbase
  unfold Collection.isRestricting at hplain
  cases hs : c.source with
  | based e id restricting =>
    rw [hs] at hbase hplain
    cases hbase
    cases hplain
    exact ⟨e, rfl⟩
  | _ =>
    rw [hs] at hbase
    cases hbase

/-- The root of a collection that is based on another one, and does not narrow it, can be worked
    out. -/
theorem Works.basedRoot (hR : R.Works) (h : R.Fits b) (hb : b.Ordered) {on place : Nat}
    {base c : Collection} (hbase : b.collections[on]? = some base)
    (hitems : R.MayHave on base.items) (hline : View.InLine ⟨b.store, base⟩)
    (hc : b.collections[place]? = some c) {e : Expression}
    (hsource : c.source = .based e base.id false) :
    ∃ items, b.basedRoot place = .ok (some items) ∧ R.MayHave place items := by
  obtain ⟨values, hvalues, hmay⟩ := hR.based h hbase hitems hline hc hsource
  refine ⟨values.toSet, ?_, hmay⟩
  rw [basedRoot_of_plain hc hsource (collection?_eq hb hbase), hvalues]
  rfl

/-- A collection takes items that it may come to have. -/
theorem Workable.setRoot (hR : R.Works) (h : Workable R b) {place : Nat} {c : Collection}
    (hc : b.collections[place]? = some c) {items : KeySet} (hitems : R.MayHave place items) :
    ∃ b', onCollection place () (View.setRoot items) b = (.ok (), b') ∧ Workable R b' ∧
      b.Retains Facet.SameBare b' := by
  obtain ⟨w, hw⟩ := (hR.view h.fits hc hitems).setRoot
  obtain ⟨hkin, -⟩ := View.setRoot_ok hw
  have hadvance := advance_putView hc (View.advance_setRoot hw)
  have hretains := retains_putView Facet.alteration_sameBare hc
    ((View.retains_setRoot Facet.alteration_sameBare items).ok hw)
  refine ⟨b.putView place w, ?_, ?_, hretains⟩
  · rw [onCollection_apply, hc]
    dsimp only
    rw [hw]
  · refine ⟨h.fits.retains Facet.SameBare.setUpAlike hretains, hadvance.orderly h.orderly,
      hadvance.inLine h.inLine, fun d hd => ?_, fun {q d} hd => ?_⟩
    · rcases List.mem_or_eq_of_mem_set hd with hd | rfl
      · exact h.plain d hd
      · have hsource : w.collection.source = c.source := hkin.source.symm
        rw [Collection.isRestricting, hsource]
        exact h.plain c (List.mem_of_getElem? hc)
    · rw [putView, List.getElem?_set] at hd
      split at hd
      · next heq =>
        subst heq
        rw [if_pos (List.getElem?_eq_some_iff.mp hc).1] at hd
        cases hd
        exact hkin.items ▸ hitems
      · exact h.possible hd

/-- What passing on leaves of a browser: it is workable, and only what is kept and shown and the items
    may be others. -/
structure PassedOn (R b b' : Browser) : Prop where
  workable : Workable R b'
  retains : b.Retains Facet.SameBare b'

theorem PassedOn.trans {b'' : Browser} (h : PassedOn R b b') (h' : PassedOn R b' b'') :
    PassedOn R b b'' :=
  ⟨h'.workable, @(frame_retains Facet.alteration_sameBare).trans true _ _ _ h.retains h'.retains⟩

theorem Workable.refl (h : Workable R b) : PassedOn R b b :=
  ⟨h, (frame_retains Facet.alteration_sameBare).refl true b⟩

theorem Workable.passInto (hR : R.Works) {onward : Nat → Action Browser Unit}
    (honward : ∀ {b} place, Workable R b → ∃ b', onward place b = (.ok (), b') ∧ PassedOn R b b')
    (h : Workable R b) (id : String) (place : Nat) :
    ∃ b', passInto id onward place b = (.ok (), b') ∧ PassedOn R b b' := by
  unfold Browser.passInto
  rw [bind_apply, state_apply]
  dsimp only
  cases hc : b.collections[place]? with
  | none => exact ⟨b, rfl, h.refl⟩
  | some c =>
    dsimp only
    split
    · next hbeq =>
      have hbase : c.base? = some id := eq_of_beq hbeq
      obtain ⟨on, -, base, hon, rfl⟩ := h.orderly.ordered.base hc hbase
      obtain ⟨e, hsource⟩ := source_of_base? (h.plain c (List.mem_of_getElem? hc)) hbase
      obtain ⟨items, hroot, hmay⟩ := hR.basedRoot h.fits h.orderly.ordered hon (h.possible hon)
        (h.inLine base (List.mem_of_getElem? hon)) hc hsource
      rw [hroot, bind_apply, ofOutcome_apply]
      dsimp only
      split
      · exact ⟨b, rfl, h.refl⟩
      · obtain ⟨u, hset, hu, hretains⟩ := h.setRoot hR hc hmay
        obtain ⟨b', honward, hb'⟩ := honward place hu
        exact ⟨b', (bind_of_ok hset).trans honward, .trans ⟨hu, hretains⟩ hb'⟩
    · exact ⟨b, rfl, h.refl⟩

theorem Workable.propagateWithin (hR : R.Works) (rounds place : Nat) (h : Workable R b) :
    ∃ b', propagateWithin rounds place b = (.ok (), b') ∧ PassedOn R b b' := by
  induction rounds generalizing place b with
  | zero => exact ⟨b, rfl, h.refl⟩
  | succ rounds ih =>
    cases hc : b.collections[place]? with
    | none => exact ⟨b, propagateWithin_of_none hc _, h.refl⟩
    | some c =>
      rw [propagateWithin_succ hc]
      refine each_succeeds (I := PassedOn R b) (fun x s hs => ?_) _ h.refl
      obtain ⟨t, hpass, ht⟩ := hs.workable.passInto hR (fun place hu => ih place hu) c.id x
      exact ⟨t, hpass, hs.trans ht⟩

/-! ## 5. Settings -/

/-- The browser with other settings. -/
def withSettings (b : Browser) (settings : Settings) : Browser := { b with settings }

/-- The action neither looks at the settings nor changes them. -/
def Blind {α : Type} (act : Action Browser α) : Prop :=
  ∀ b settings, act (b.withSettings settings) = ((act b).1, (act b).2.withSettings settings)

section Blindness

variable {α β : Type}

theorem blind_pure (x : α) : Blind (pure x) := fun _ _ => rfl

theorem blind_ofOutcome (outcome : Outcome α) : Blind (ofOutcome outcome) := fun _ _ => rfl

theorem Blind.bind {act : Action Browser α} {next : α → Action Browser β} (hact : Blind act)
    (hnext : ∀ x, Blind (next x)) : Blind (act >>= next) := by
  intro b settings
  rw [bind_apply, bind_apply, hact]
  cases hrun : act b with
  | mk outcome u =>
    cases outcome with
    | ok x => exact hnext x u settings
    | error failure => rfl

/-- What is done after a look at the state must not depend on the settings. -/
theorem blind_state {next : Browser → Action Browser α}
    (hsame : ∀ b settings, next (b.withSettings settings) = next b) (hnext : ∀ b, Blind (next b)) :
    Blind (state >>= next) := by
  intro b settings
  show next (b.withSettings settings) (b.withSettings settings) = _
  rw [hsame]
  exact hnext b b settings

theorem blind_each {act : α → Action Browser Unit} (hact : ∀ x, Blind (act x)) :
    ∀ xs : List α, Blind (each act xs)
  | [] => blind_pure ()
  | x :: xs => (hact x).bind fun _ => blind_each hact xs

theorem blind_onCollection (place : Nat) (otherwise : α) (act : Action View α) :
    Blind (onCollection place otherwise act) := by
  intro b settings
  have hsame : (b.withSettings settings).collections = b.collections := rfl
  rw [onCollection_apply, onCollection_apply, hsame]
  cases b.collections[place]? <;> rfl

theorem blind_passInto {onward : Nat → Action Browser Unit} (honward : ∀ place, Blind (onward place))
    (base : String) (place : Nat) : Blind (Browser.passInto base onward place) := by
  refine blind_state (fun _ _ => rfl) fun b => ?_
  split
  · exact blind_pure ()
  · split
    · refine (blind_ofOutcome _).bind fun root => ?_
      cases root with
      | none => exact blind_pure ()
      | some items =>
        dsimp only
        split
        · exact blind_pure ()
        · exact (blind_onCollection place () _).bind fun _ => honward place
    · exact blind_pure ()

theorem blind_propagateWithin (rounds : Nat) : ∀ place, Blind (Browser.propagateWithin rounds place) := by
  induction rounds with
  | zero => exact fun _ => blind_pure ()
  | succ rounds ih =>
    intro place
    refine blind_state (fun _ _ => rfl) fun b => ?_
    split
    · exact blind_pure ()
    · exact blind_each (blind_passInto ih _) _

theorem blind_propagate (place : Nat) : Blind (Browser.propagate place) :=
  blind_state (fun _ _ => rfl) fun _ => blind_propagateWithin _ place

end Blindness

/-! ## 6. Passing on -/

/-- **Passing on succeeds**, and then every root holds, if only dependents were out of date. -/
theorem Workable.propagate (hR : R.Works) (h : Workable R b) (place : Nat)
    (hroots : ∀ q, ¬ b.DependsOn q place → b.RootHolds q) :
    ∃ b', propagate place b = (.ok (), b') ∧ PassedOn R b b' ∧ ∀ q, b'.RootHolds q := by
  obtain ⟨b', hrun, hb'⟩ := h.propagateWithin hR b.collections.length place
  refine ⟨b', hrun, hb', fun q => ?_⟩
  -- failures play no part here, so they may as well be thrown
  let strict : Settings := { b.settings with errors := .throw }
  have hpropagate : Browser.propagate place b = (.ok (), b') := hrun
  have hstrict : Browser.propagate place (b.withSettings strict) =
      (.ok (), b'.withSettings strict) := by
    rw [blind_propagate, hpropagate]
  have hordered : (b.withSettings strict).Ordered := ⟨h.orderly.ordered.1, h.orderly.ordered.2⟩
  exact propagate_roots (fun _ => False) hstrict (fun heq => by cases heq) hordered
    (fun q _ => hroots q) q fun hfalse => hfalse

/-- Where no collection narrows its base, bringing everything in line is passing on. -/
theorem settle_eq_propagate (hplain : ∀ c ∈ b.collections, c.isRestricting = false) (place : Nat) :
    settle place b = propagate place b := by
  show settleWithin b.collections.length place b = propagateWithin b.collections.length place b
  cases hc : b.collections[place]? with
  | none => rw [settleWithin_of_none hc, propagateWithin_of_none hc]
  | some c =>
    have hlt := (List.getElem?_eq_some_iff.mp hc).1
    obtain ⟨rounds, hrounds⟩ : ∃ rounds, b.collections.length = rounds + 1 :=
      ⟨b.collections.length - 1, by omega⟩
    rw [hrounds, settleWithin_plain hc (hplain c (List.mem_of_getElem? hc)), ← hrounds]
    rfl

end Browser

end Faceted
