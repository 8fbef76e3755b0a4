import Faceted.Proofs.Browser.Changes
import Faceted.Proofs.Browser.PassingOn

/-!
# Selecting in browsers that work

Where every evaluation succeeds and no collection narrows its base, operations on selections leave a
browser in tune, those that fail included: they may fail because a facet does not exist or a state does
not fit, but what has been changed by then is passed on.

* `Browser.Neat` is what holds between operations;
* `KeepsNeat R`: an action keeps it, where `R` tells what may be evaluated, and changes nothing but
  selections;
* **`keepsNeat_applyToFacet`** and **`Neat.restoreAt`**: one facet, and one collection of a bookmark;
  typing, `keepsNeat_tick` and `keepsNeat_importState` are made from these.
-/

namespace Faceted

open Faceted.Action

namespace Browser

variable {R b b' : Browser}

/-! ## 1. Between operations -/

/-- The browser is in tune, no collection narrows its base, and queries are trimmed. -/
structure Neat (b : Browser) : Prop where
  orderly : b.Orderly
  inTune : b.InTune
  plain : ∀ c ∈ b.collections, c.isRestricting = false
  trimmed : ∀ c ∈ b.collections, ∀ f ∈ c.facets, f.Trimmed

/-- **The clock** leaves a browser neat, unless an expression asks for the time. -/
theorem Neat.atMoment (hb : b.Neat) (hasks : b.asksTime = false) (moment : Int) :
    (b.atMoment moment).Neat where
  orderly := hb.orderly.atMoment moment
  inTune := hb.inTune.atMoment hasks moment
  plain := hb.plain
  trimmed := hb.trimmed

/-- The items of every collection are among those that it may come to have: those of its base are, which
    stands before it. -/
theorem Neat.possible (hR : R.Works) (hfits : R.Fits b) (hb : b.Neat) {place : Nat} {c : Collection}
    (hc : b.collections[place]? = some c) : R.MayHave place c.items := by
  induction place using Nat.strongRecOn generalizing c with
  | ind place ih =>
    obtain ⟨d, hd, -, hsource, -⟩ := hfits.collections hc
    have hplain := hb.plain c (List.mem_of_getElem? hc)
    have hroot := hb.inTune.roots place c hc hplain
    cases hbase : c.base? with
    | none =>
      have hbaseR : d.base? = none := by
        unfold Collection.base? at hbase ⊢
        rw [← hsource, hbase]
      refine .own hd hbaseR ?_
      rw [← hroot]
      exact (rootOf_congr hfits.store hsource fun id hid => by rw [hbaseR] at hid; cases hid).symm
    | some id =>
      obtain ⟨on, hlt, base, hon, rfl⟩ := hb.orderly.ordered.base hc hbase
      obtain ⟨e, hs⟩ := source_of_base? hplain hbase
      obtain ⟨items, hbased, hmay⟩ := hR.basedRoot hfits hb.orderly.ordered hon (ih on hlt hon)
        (hb.inTune.inLine base (List.mem_of_getElem? hon)) hc hs
      have heq := (rootOf_of_basedRoot hc hplain hbased).symm.trans hroot
      exact Except.ok.inj heq ▸ hmay

/-- A collection of a neat browser works. -/
theorem Neat.view (hR : R.Works) (hfits : R.Fits b) (hb : b.Neat) {place : Nat} {c : Collection}
    (hc : b.collections[place]? = some c) : View.Works ⟨b.store, c⟩ :=
  hR.view hfits hc (hb.possible hR hfits hc)

/-- Where facets have been altered at most, their queries stay trimmed. -/
theorem Retains.trimmed (h : b.Retains Facet.SameBare b')
    (hb : ∀ c ∈ b.collections, ∀ f ∈ c.facets, f.Trimmed) :
    ∀ c ∈ b'.collections, ∀ f ∈ c.facets, f.Trimmed := by
  intro d hd f hf
  obtain ⟨c, hc, hretains⟩ := forall₂_mem h.collections.flip hd
  have hretains : c.Retains Facet.SameBare d := hretains
  obtain ⟨g, hg, hbare⟩ := forall₂_mem hretains.facets.flip hf
  exact (Facet.Reselected.of_bare hbare).trimmed (hb c hc g hg)

/-! ## 2. One collection -/

/-- A view that may take the place of a collection: it is the same one in line, with facets that are
    trimmed. -/
structure Replaces (R b : Browser) (place : Nat) (c : Collection) (w : View) : Prop where
  store : b.store.Alike w.store
  id : w.collection.id = c.id
  source : w.collection.source = c.source
  items : w.collection.items = c.items
  inLine : w.InLine
  trimmed : ∀ f ∈ w.collection.facets, f.Trimmed
  orderly : (b.putView place w).Orderly
  fits : R.Fits (b.putView place w)

section Replacing

variable {place : Nat} {c : Collection} {w : View}

theorem Neat.putPlain (hb : b.Neat) (hc : b.collections[place]? = some c)
    (hsource : w.collection.source = c.source) :
    ∀ d ∈ (b.putView place w).collections, d.isRestricting = false := by
  intro d hd
  rcases List.mem_or_eq_of_mem_set hd with hd | rfl
  · exact hb.plain d hd
  · rw [Collection.isRestricting, hsource]
    exact hb.plain c (List.mem_of_getElem? hc)

theorem Neat.putTrimmed (hb : b.Neat) (hw : ∀ f ∈ w.collection.facets, f.Trimmed) :
    ∀ d ∈ (b.putView place w).collections, ∀ f ∈ d.facets, f.Trimmed := by
  intro d hd
  rcases List.mem_or_eq_of_mem_set hd with hd | rfl
  · exact hb.trimmed d hd
  · exact hw

/-- With the restricted items that it had, the collection takes its place and nothing is to be passed
    on. -/
theorem Neat.put (hb : b.Neat) (hc : b.collections[place]? = some c) (hw : Replaces R b place c w)
    (hrestricted : w.collection.restricted = c.restricted) : (b.putView place w).Neat where
  orderly := hw.orderly
  inTune :=
    { inLine := allInLine_putView hw.store hb.inTune.inLine hw.inLine
      roots := fun q => rootHolds_putView hc hw.store hw.id hw.source hw.items
        (fun _ => hrestricted) (hb.inTune.roots q) }
  plain := hb.putPlain hc hw.source
  trimmed := hb.putTrimmed hw.trimmed

/-- **Bringing everything in line** after a collection has changed. -/
theorem Neat.settle (hR : R.Works) (hfits : R.Fits b) (hb : b.Neat)
    (hc : b.collections[place]? = some c) (hw : Replaces R b place c w) :
    ∃ b', settle place (b.putView place w) = (.ok (), b') ∧ b'.Neat ∧
      (b.putView place w).Retains Facet.SameBare b' := by
  have hplain := hb.putPlain (w := w) hc hw.source
  have hpossible {q : Nat} {d : Collection} (hd : (b.putView place w).collections[q]? = some d) :
      R.MayHave q d.items := by
    rw [putView, List.getElem?_set] at hd
    split at hd
    · next heq =>
      subst heq
      rw [if_pos (List.getElem?_eq_some_iff.mp hc).1] at hd
      cases hd
      exact hw.items ▸ hb.possible hR hfits hc
    · exact hb.possible hR hfits hd
  have hworkable : Workable R (b.putView place w) := ⟨hw.fits, hw.orderly,
    allInLine_putView hw.store hb.inTune.inLine hw.inLine, hplain, hpossible⟩
  have hdepends {q : Nat} : (b.putView place w).DependsOn q place ↔ b.DependsOn q place := by
    unfold DependsOn
    rw [idAt_putView hc hw.id, baseAt_putView hc hw.source]
  obtain ⟨b', hrun, hpassed, hroots⟩ := hworkable.propagate hR place fun q hq =>
    rootHolds_putView hc hw.store hw.id hw.source hw.items
      (fun hon => absurd (hdepends.mpr hon) hq) (hb.inTune.roots q)
  refine ⟨b', (settle_eq_propagate hplain place).trans hrun, ?_, hpassed.retains⟩
  exact ⟨hpassed.workable.orderly, ⟨hpassed.workable.inLine, hroots⟩, hpassed.workable.plain,
    hpassed.retains.trimmed (hb.putTrimmed hw.trimmed)⟩

/-- Where a collection has landed, it takes its place. -/
theorem Neat.replaces (hfits : R.Fits b) (hb : b.Neat) (hc : b.collections[place]? = some c)
    (h : View.Lands ⟨b.store, c⟩ w) : Replaces R b place c w where
  store := h.kin.store
  id := h.kin.id.symm
  source := h.kin.source.symm
  items := h.kin.items.symm
  inLine := h.inLine
  trimmed f hf := by
    obtain ⟨f', hf', hreselected⟩ := forall₂_mem h.retains.collection.facets.flip hf
    have hreselected : f'.Reselected f := hreselected
    exact hreselected.trimmed (hb.trimmed c (List.mem_of_getElem? hc) f' hf')
  orderly := (advance_putView hc (h.kin.advance fun _ => h.inLine)).orderly hb.orderly
  fits := hfits.retains (·.plain) (retains_putView Facet.alteration_reselected hc h.retains)

end Replacing

/-! ## 3. Actions -/

/-- The browser stays neat, and only selections are others than before. -/
structure Reselects (b b' : Browser) : Prop where
  neat : b'.Neat
  retains : b.Retains Facet.Reselected b'

theorem Reselects.trans {b'' : Browser} (h : b.Reselects b') (h' : b'.Reselects b'') :
    b.Reselects b'' :=
  ⟨h'.neat, @(frame_retains Facet.alteration_reselected).trans true _ _ _ h.retains h'.retains⟩

/-- Selections have nothing to do with what asks for the time. -/
theorem Reselects.asksTime (h : b.Reselects b') : b'.asksTime = b.asksTime := by
  have hcollections : List.Forall₂ (fun c d : Collection => c.asksTime = d.asksTime) b.collections
      b'.collections := h.retains.collections.imp fun c d hcd => by
    have hfacets : c.facets.map Facet.asksTime = d.facets.map Facet.asksTime :=
      map_eq_of_forall₂ hcd.facets fun f g hfg => Facet.asksTime_of_plain hfg.plain
    have hany := congrArg (List.any · id) hfacets
    simp only [List.any_map, Function.id_comp] at hany
    unfold Collection.asksTime
    rw [hcd.source]
    exact congrArg (· || d.source.asksTime) hany
  have hany := congrArg (List.any · id) (map_eq_of_forall₂ hcollections fun _ _ heq => heq)
  simp only [List.any_map, Function.id_comp] at hany
  exact hany.symm

/-- **The clock** leaves what only selections tell apart. -/
theorem Reselects.atMoment (h : b.Reselects b') (hasks : b.asksTime = false) (moment : Int) :
    (b.atMoment moment).Reselects (b'.atMoment moment) :=
  ⟨h.neat.atMoment (h.asksTime.trans hasks) moment, h.retains.atMoment moment⟩

/-- What is part of another browser stays so if nothing but selections changes. -/
theorem Reselects.fits (h : b.Reselects b') (hfits : R.Fits b) : R.Fits b' :=
  hfits.retains (·.plain) h.retains

/-- Whether it succeeds or fails, the action keeps a neat browser neat in which nothing else is evaluated
    than in `R`. -/
def KeepsNeat {α : Type} (R : Browser) (act : Action Browser α) : Prop :=
  Obeys (fun _ b b' => R.Fits b → b.Neat → b.Reselects b') act

theorem frame_keepsNeat (R : Browser) :
    Frame fun _ (b b' : Browser) => R.Fits b → b.Neat → b.Reselects b' where
  refl _ b _ hb := ⟨hb, (frame_retains Facet.alteration_reselected).refl true b⟩
  trans h h' hfits hb := by
    have hfirst := h hfits hb
    exact hfirst.trans (h' (hfirst.fits hfits) hfirst.neat)

theorem keepsNeat_guarded {α : Type} {act : Action Browser α} (h : KeepsNeat R act) (otherwise : α) :
    KeepsNeat R (guarded otherwise act) := h

theorem reselects_put {place : Nat} {c : Collection} {w : View} (hfits : R.Fits b) (hb : b.Neat)
    (hc : b.collections[place]? = some c) (h : View.Lands ⟨b.store, c⟩ w)
    (hrestricted : w.collection.restricted = c.restricted) : b.Reselects (b.putView place w) :=
  ⟨hb.put hc (hb.replaces hfits hc h) hrestricted,
    retains_putView Facet.alteration_reselected hc h.retains⟩

theorem reselects_settle {place : Nat} {c : Collection} {w : View} (hR : R.Works) (hfits : R.Fits b)
    (hb : b.Neat) (hc : b.collections[place]? = some c) (h : View.Lands ⟨b.store, c⟩ w) :
    ∃ b', settle place (b.putView place w) = (.ok (), b') ∧ b.Reselects b' ∧
      (b.putView place w).Retains Facet.SameBare b' := by
  obtain ⟨b', hrun, hneat, hretains⟩ := hb.settle hR hfits hc (hb.replaces hfits hc h)
  have hreselected := Facet.alteration_reselected
  refine ⟨b', hrun, ⟨hneat, @(frame_retains hreselected).trans true _ _ _
    (retains_putView hreselected hc h.retains) ?_⟩, hretains⟩
  exact ⟨hretains.store, hretains.indexes, hretains.collections.imp fun c d hcd =>
    ⟨hcd.id, hcd.source, hreselected.of_forall₂_bare hcd.facets⟩⟩

/-- **Something done to a facet** leaves the browser in tune. -/
theorem keepsNeat_applyToFacet (hR : R.Works) {act : Facet → Scene → Outcome Bool × Facet}
    (hact : Selecting act) (collection facet : String) :
    KeepsNeat R (applyToFacet collection facet act) := by
  intro b hfits hb
  have hsame := (frame_keepsNeat R).refl true b hfits hb
  unfold applyToFacet
  rw [bind_apply]
  cases hfind : find collection b with
  | mk outcome u =>
    cases outcome with
    | error failure =>
      cases (congrArg Prod.snd hfind : b = u)
      exact hsame
    | ok place =>
      obtain ⟨rfl, c, hc, -⟩ := find_ok hfind
      dsimp only
      rw [bind_apply, onCollection_apply, hc]
      dsimp only
      obtain ⟨hlands, hrestricted⟩ := View.lands_changeFacetBy hact facet
        (hb.inTune.inLine c (List.mem_of_getElem? hc)) (hb.view hR hfits hc)
      generalize View.changeFacetBy facet act ⟨u.store, c⟩ = result at hlands hrestricted
      obtain ⟨answer, w⟩ := result
      dsimp only at hlands hrestricted ⊢
      cases answer with
      | error failure =>
        exact reselects_put hfits hb hc hlands (hrestricted fun h => by cases h)
      | ok changed =>
        cases changed with
        | false => exact reselects_put hfits hb hc hlands (hrestricted fun h => by cases h)
        | true =>
          obtain ⟨b', hsettle, hb', -⟩ := reselects_settle hR hfits hb hc hlands
          dsimp only
          rw [if_pos rfl, bind_of_ok hsettle]
          exact hb'

theorem keepsNeat_changeFacetBy (hR : R.Works) {act : Facet → Scene → Outcome Bool × Facet}
    (hact : Selecting act) (collection facet : String) :
    KeepsNeat R (changeFacetBy collection facet act) :=
  keepsNeat_guarded (keepsNeat_applyToFacet hR hact collection facet) false

theorem keepsNeat_tick (hR : R.Works) (now : Nat) : KeepsNeat R (tick now) := by
  have hframe := frame_keepsNeat R
  refine hframe.bind hframe.state fun b => hframe.anyOf (fun place => ?_) _
  refine hframe.bind hframe.state fun b => ?_
  split
  · exact hframe.pure false
  · exact hframe.anyOf (fun f => keepsNeat_changeFacetBy hR (selecting_perform _) _ f) _

/-- **One collection of a bookmark**: what its import reports is reported, and what it leaves is passed
    on, also if a state does not fit. -/
theorem Neat.restoreAt (hR : R.Works) (hfits : R.Fits b) (hb : b.Neat) {s : BrowserState} {place : Nat}
    {c : Collection} (hc : b.collections[place]? = some c) {answer : Outcome Bool} {w : View}
    (hrun : restoreFacets s ⟨b.store, c⟩ = (answer, w)) :
    ∃ b', Browser.restoreAt s place b = (answer, b') ∧ b.Reselects b' ∧
      (b.putView place w).Retains Facet.SameBare b' := by
  have hline := hb.inTune.inLine c (List.mem_of_getElem? hc)
  have hlands := View.lands_restoreFacets s hline (hb.view hR hfits hc)
  rw [hrun] at hlands
  obtain ⟨b', hsettle, hb', hretains⟩ := reselects_settle hR hfits hb hc hlands
  unfold Browser.restoreAt
  rw [bind_apply, attempt_apply, onCollection_apply, hc]
  dsimp only
  rw [hrun]
  cases answer with
  | error failure =>
    refine ⟨b', ?_, hb', hretains⟩
    dsimp only
    rw [bind_of_ok hsettle]
    rfl
  | ok changed =>
    cases changed with
    | false =>
      obtain ⟨-, hrestored⟩ := View.restoreFacets_ok hrun
      exact ⟨b.putView place w, rfl, reselects_put hfits hb hc hlands ((hrestored hline).2 rfl),
        (frame_retains Facet.alteration_sameBare).refl true _⟩
    | true => exact ⟨b', bind_of_ok hsettle, hb', hretains⟩

theorem restoreAt_of_none (s : BrowserState) {place : Nat} (hc : b.collections[place]? = none) :
    restoreAt s place b = (.ok false, b) := by
  unfold restoreAt
  rw [bind_apply, attempt_apply, onCollection_apply, hc]
  rfl

theorem keepsNeat_restoreAt (hR : R.Works) (s : BrowserState) (place : Nat) :
    KeepsNeat R (restoreAt s place) := by
  intro b hfits hb
  cases hc : b.collections[place]? with
  | none =>
    rw [restoreAt_of_none s hc]
    exact (frame_keepsNeat R).refl true b hfits hb
  | some c =>
    obtain ⟨b', hrun, hb', -⟩ := hb.restoreAt hR hfits hc (s := s) rfl
    rw [hrun]
    exact hb'

theorem keepsNeat_importState (hR : R.Works) (s : BrowserState) : KeepsNeat R (importState s) := by
  have hframe := frame_keepsNeat R
  refine keepsNeat_guarded (hframe.bind hframe.state fun b => ?_) false
  exact hframe.anyOf (fun place => keepsNeat_restoreAt hR s place) _

theorem keepsNeat_clearAll (hR : R.Works) : KeepsNeat R clearAll := by
  have hframe := frame_keepsNeat R
  refine hframe.bind hframe.state fun b => ?_
  exact hframe.bind (keepsNeat_importState hR ∅) fun _ => hframe.pure _

end Browser

end Faceted
