import Faceted.Proofs.Browser.Policies
import Faceted.Proofs.Browser.Standing

/-!
# Browsers abreast of their store

Where every evaluation succeeds and no collection narrows its base, a browser is neat after any run,
whatever else has failed in it, as long as it is abreast of its store: what the store answers has only
been changed by steps that refresh the collections.

* **`Works.refreshAll`**: a refresh of all collections succeeds, whatever the browser was like before;
* `Abreast`: since the last step that refreshes, no step has changed what the store answers;
  `Abreast.step`: only loads that declare properties and bring no items can;
* **`neat_of_abreast`** is the statement about runs.
-/

namespace Faceted

open Faceted.Action

namespace Browser

variable {R b b' : Browser}

/-! ## 1. Refreshing all collections -/

/-- **One collection** takes its root anew, if those before it are in line and have items that they may
    come to have. -/
theorem Works.reroot (hR : R.Works) (hfits : R.Fits b) (hb : b.Ordered)
    (hplain : ∀ c ∈ b.collections, c.isRestricting = false) {place : Nat} {c : Collection}
    (hc : b.collections[place]? = some c)
    (hbefore : ∀ q < place, ∀ d, b.collections[q]? = some d →
      View.InLine ⟨b.store, d⟩ ∧ R.MayHave q d.items) :
    ∃ items w, R.MayHave place items ∧ View.setRoot items ⟨b.store, c⟩ = (.ok (), w) ∧
      Browser.reroot place b = (.ok (), b.putView place w) := by
  obtain ⟨items, hmay, hreroot⟩ : ∃ items, R.MayHave place items ∧
      Browser.reroot place b = onCollection place () (View.setRoot items) b := by
    rw [reroot_apply]
    cases hbase : c.base? with
    | none =>
      obtain ⟨d, hd, hpart⟩ := hfits.collections hc
      have hbaseR : d.base? = none := by
        unfold Collection.base? at hbase ⊢
        rw [← hpart.source, hbase]
      have hroot : b.rootOf c = .ok (View.rootItems ⟨b.store, c⟩) := by
        unfold rootOf View.rootItems
        unfold Collection.base? at hbase
        cases hsource : c.source with
        | based e id restricting =>
          rw [hsource] at hbase
          cases hbase
        | _ => rfl
      refine ⟨View.rootItems ⟨b.store, c⟩, .own hd hbaseR ?_, ?_⟩
      · rw [← hroot]
        exact (rootOf_congr hfits.store hpart.source fun id hid => by rw [hbaseR] at hid; cases hid).symm
      · rw [basedRoot_of_unbased hc hbase]
        dsimp only
        rw [onCollection_apply, onCollection_apply, hc]
        rfl
    | some id =>
      obtain ⟨on, hlt, base, hon, rfl⟩ := hb.base hc hbase
      obtain ⟨e, hsource⟩ := source_of_base? (hplain c (List.mem_of_getElem? hc)) hbase
      obtain ⟨hline, hpossible⟩ := hbefore on hlt base hon
      obtain ⟨items, hroot, hmay⟩ := hR.basedRoot hfits hb hon hpossible hline hc hsource
      exact ⟨items, hmay, by rw [hroot]⟩
  obtain ⟨w, hw⟩ := (hR.view hfits hc hmay).setRoot
  refine ⟨items, w, hmay, hw, ?_⟩
  rw [hreroot, onCollection_apply, hc]
  dsimp only
  rw [hw]

/-- The browser half way through a refresh that succeeds. -/
structure HalfRerooted (R b : Browser) (place : Nat) (s : Browser) : Prop
    extends HalfRefreshed b place s where
  retains : b.Retains Facet.SameBare s
  possible : ∀ q < place, ∀ c, s.collections[q]? = some c → R.MayHave q c.items

theorem plain_of_retains (h : b.Retains Facet.SameBare b')
    (hb : ∀ c ∈ b.collections, c.isRestricting = false) :
    ∀ c ∈ b'.collections, c.isRestricting = false := by
  intro d hd
  obtain ⟨c, hc, hcd⟩ := forall₂_mem h.collections.flip hd
  have hcd : c.Retains Facet.SameBare d := hcd
  rw [Collection.isRestricting, ← hcd.source]
  exact hb c hc

theorem HalfRerooted.step (hR : R.Works) (hfits : R.Fits b) (hb : b.Orderly)
    (hplain : ∀ c ∈ b.collections, c.isRestricting = false) {place : Nat} {s : Browser}
    (hplace : place < b.collections.length) (hs : HalfRerooted R b place s) :
    ∃ t, Browser.reroot place s = (.ok (), t) ∧ HalfRerooted R b (place + 1) t := by
  have hlt : place < s.collections.length := hs.advance.length ▸ hplace
  have hc : s.collections[place]? = some s.collections[place] := List.getElem?_eq_getElem hlt
  generalize s.collections[place] = c at hc
  obtain ⟨items, w, hmay, hw, hrun⟩ :=
    hR.reroot (hfits.retains Facet.SameBare.setUpAlike hs.retains) (hs.advance.ordered hb.ordered)
      (plain_of_retains hs.retains hplain) hc
      fun q hq d hd => ⟨hs.inLine q hq d hd, hs.possible q hq d hd⟩
  refine ⟨s.putView place w, hrun, hs.toHalfRefreshed.step hb hplace hrun, ?_, fun q hq d hd => ?_⟩
  · exact @(frame_retains Facet.alteration_sameBare).trans true _ _ _ hs.retains
      ((retains_reroot Facet.alteration_sameBare place).ok hrun)
  · by_cases hqplace : q = place
    · subst hqplace
      rw [putView, List.getElem?_set_self hlt] at hd
      cases hd
      obtain ⟨hkin, -⟩ := View.setRoot_ok hw
      exact hkin.items ▸ hmay
    · rw [putView, List.getElem?_set_ne (Ne.symm hqplace)] at hd
      exact hs.possible q (by omega) d hd

theorem blind_refreshAll : Blind Browser.refreshAll :=
  blind_state (fun _ _ => rfl) fun _ => blind_each blind_reroot _

theorem retains_refreshAll : Obeys (fun _ => Browser.Retains Facet.SameBare) Browser.refreshAll := by
  have hframe := frame_retains Facet.alteration_sameBare
  exact hframe.bind hframe.state fun _ => hframe.each (retains_reroot Facet.alteration_sameBare) _

/-- **A refresh of all collections succeeds**, whatever was kept before, and makes the browser neat. -/
theorem Works.refreshAll (hR : R.Works) (hfits : R.Fits b) (hb : b.Orderly)
    (hplain : ∀ c ∈ b.collections, c.isRestricting = false)
    (htrimmed : ∀ c ∈ b.collections, ∀ f ∈ c.facets, f.Trimmed) :
    ∃ b', Browser.refreshAll b = (.ok (), b') ∧ b'.Neat := by
  -- failures play no part here, so they may as well be thrown
  let strict : Settings := { b.settings with errors := .throw }
  have hstrict : (b.withSettings strict).settings.errors ≠ .log := fun h => by cases h
  have hbegun : HalfRerooted R (b.withSettings strict) 0 (b.withSettings strict) :=
    ⟨⟨hstrict, Advance.refl _, fun q hq => absurd hq (Nat.not_lt_zero q),
        fun q hq => absurd hq (Nat.not_lt_zero q)⟩,
      (frame_retains Facet.alteration_sameBare).refl true _, fun q hq => absurd hq (Nat.not_lt_zero q)⟩
  have hfitsStrict : R.Fits (b.withSettings strict) := ⟨hfits.store, hfits.indexes, hfits.collections⟩
  have hordered : (b.withSettings strict).Orderly := hb.same_collections rfl
  obtain ⟨t, hrun, ht⟩ := each_range_succeeds
    (fun hn hs => HalfRerooted.step hR hfitsStrict hordered hplain hn hs) hbegun
  have hrefresh : Browser.refreshAll (b.withSettings strict) = (.ok (), t) := hrun
  have hin := refreshAll_ok hrefresh hstrict hordered
  rw [blind_refreshAll] at hrefresh
  obtain ⟨hok, rfl⟩ := Prod.mk.inj hrefresh
  have hretains : b.Retains Facet.SameBare (Browser.refreshAll b).2 := retains_refreshAll b
  exact ⟨_, Prod.ext hok rfl, (ht.advance.orderly hordered).same_collections rfl,
    ⟨hin.inLine, hin.roots⟩, plain_of_retains hretains hplain, hretains.trimmed htrimmed⟩

/-- **After data have been changed**: the refresh if it is due, and if it is not the store answers as
    before. -/
theorem neat_refreshIfDirty {store : Store} {dirty : Bool} (hb : b.Orderly)
    (hplain : ∀ c ∈ b.collections, c.isRestricting = false)
    (htrimmed : ∀ c ∈ b.collections, ∀ f ∈ c.facets, f.Trimmed)
    (hclean : dirty = false → b.InTune ∧ b.store.Alike store)
    (hworks : (refreshIfDirty { b with store, dirty }).2.Works) :
    (refreshIfDirty { b with store, dirty }).2.Neat := by
  cases dirty with
  | false =>
    obtain ⟨hin, hstore⟩ := hclean rfl
    exact ⟨orderly_withStore hb store, inTune_withStore (b := b) hstore hin, hplain, htrimmed⟩
  | true =>
    have hdirty : (refreshIfDirty { b with store, dirty := true }).2 =
        (Browser.refreshAll (b.withStore store)).2 := rfl
    rw [hdirty] at hworks ⊢
    have hfits := (Fits.of_retains Facet.SameBare.setUpAlike (retains_refreshAll (b.withStore store))).2
    obtain ⟨b', hrun, hb'⟩ := hworks.refreshAll hfits (orderly_withStore hb store) hplain htrimmed
    rw [hrun]
    exact hb'

/-- **An operation about the data** leaves a browser neat if it refreshes the collections, or if they
    were up to date and the store answers as before. -/
theorem neat_perform_data {op : BrowserOperation} (hop : op.isAboutData = true) (hb : b.Orderly)
    (hplain : ∀ c ∈ b.collections, c.isRestricting = false)
    (htrimmed : ∀ c ∈ b.collections, ∀ f ∈ c.facets, f.Trimmed)
    (hclean : op.refreshes = false → b.Neat ∧ b.store.Alike (op.perform b).2.store)
    (hworks : (op.perform b).2.Works) : (op.perform b).2.Neat := by
  obtain ⟨hnot, hsame⟩ | ⟨store, dirty, hdirty, -, hafter⟩ := op.perform_data hop b
  · rw [hsame]
    exact (hclean hnot).1
  · rw [hafter] at hworks hclean ⊢
    refine neat_refreshIfDirty hb hplain htrimmed (fun hfalse => ?_) hworks
    obtain ⟨hneat, hstore⟩ := hclean (Bool.eq_false_iff.mpr fun hrefreshes => by
      cases (hdirty hrefreshes).symm.trans hfalse)
    subst hfalse
    exact ⟨hneat.inTune, hstore⟩

end Browser

/-! ## 2. Runs -/

namespace BrowserStep

open Browser

/-- Does the step refresh the collections? -/
def refreshes : BrowserStep → Bool
  | operation op => op.refreshes
  | withFacet _ _ _ => false

theorem afterAll_concat (steps : List BrowserStep) (step : BrowserStep) (b : Browser) :
    afterAll (steps ++ [step]) b = step.after (afterAll steps b) := List.foldl_concat _ _ _ _

/-- Since the start of the run, or since the last step of it that refreshes, no step has changed what
    the store answers. -/
inductive Abreast (first : Browser) : List BrowserStep → Prop where
  | start : Abreast first []
  | refreshed (steps : List BrowserStep) {step : BrowserStep} (h : step.refreshes = true) :
    Abreast first (steps ++ [step])
  | kept {steps : List BrowserStep} {step : BrowserStep} (h : Abreast first steps)
    (hstore : (afterAll steps first).store.Alike (afterAll (steps ++ [step]) first).store) :
    Abreast first (steps ++ [step])

/-- A payload that neither declares properties nor brings items changes nothing that the store answers,
    whether it can be loaded or not. -/
theorem alike_load {payload : Json} {base : Option String} (hdeclares : onlyDeclares payload = false)
    (hitems : hasItems payload = false) (b : Browser) : b.store.Alike (load payload base b).2.store := by
  have hnone : (payload.get? "items").bind Json.elements? = none :=
    Option.not_isSome_iff_eq_none.mp (Bool.eq_false_iff.mp hitems)
  have hproperties : (payload.get? "properties").bind Json.fields? = none := by
    unfold onlyDeclares at hdeclares
    rw [hitems] at hdeclares
    exact Option.not_isSome_iff_eq_none.mp (by simpa using hdeclares)
  unfold load
  rw [bind_apply, state_apply]
  dsimp only
  rw [bind_apply]
  have hloaded : b.store.Alike
      (guarded () (loadStore payload (base.getD b.settings.baseUri)) b).2.store := by
    show b.store.Alike (loadStore payload (base.getD b.settings.baseUri) b).2.store
    unfold loadStore
    split
    · exact Store.Alike.refl _
    · next hload => exact Store.alike_load hproperties hnone hload
  generalize guarded () (loadStore payload (base.getD b.settings.baseUri)) b = answer at hloaded
  obtain ⟨outcome, u⟩ := answer
  cases outcome with
  | error failure => exact hloaded
  | ok done => exact hloaded.trans (closes_refreshIfDirty u).store

/-- A step other than a load that only declares properties keeps a run abreast, whatever becomes of
    it. -/
theorem Abreast.step {first : Browser} {steps : List BrowserStep} {step : BrowserStep}
    (h : Abreast first steps) (hstep : ∀ payload base, step = .operation (.load payload base) →
      onlyDeclares payload = false) : Abreast first (steps ++ [step]) := by
  cases hrefreshes : step.refreshes with
  | true => exact .refreshed steps hrefreshes
  | false =>
    refine h.kept ?_
    rw [afterAll_concat]
    cases hdata : step.isAboutData with
    | false => exact (closes_perform hdata (afterAll steps first)).store
    | true =>
      cases step with
      | withFacet collection facet act => cases hdata
      | operation op =>
        cases op with
        | load payload base => exact alike_load (hstep payload base rfl) hrefreshes _
        | update ops => cases hrefreshes
        | _ => cases hdata

/-- All queries are trimmed at all times. -/
theorem trimmed_afterAll {steps : List BrowserStep} (huses : ∀ step ∈ steps, step.GoesByUses)
    {b : Browser} (hb : AllFacets Facet.Trimmed b.collections) :
    AllFacets Facet.Trimmed (afterAll steps b).collections :=
  allFacets_afterAll (fun huse hf => (Facet.reselected_use huse).trimmed hf) trimmed_build
    (fun _ _ _ => trivial) huses hb

theorem goesByUses_of_isFair {step : BrowserStep} (h : step.IsFair) : step.GoesByUses := by
  cases step with
  | operation op => trivial
  | withFacet collection facet act => exact h.1

/-- **Neat after any run that is abreast of the store**, whatever has failed in it but evaluations. -/
theorem neat_of_abreast {settings : Settings} {present : Int} {steps : List BrowserStep}
    (habreast : Abreast (start settings present) steps) (hfair : ∀ step ∈ steps, step.IsFair)
    (hsturdy : ∀ front, front <+: steps → (afterAll front (start settings present)).Sturdy) :
    (afterAll steps (start settings present)).Neat := by
  have huntouched := untouched_start settings present
  induction habreast with
  | start => exact huntouched.neat
  | @refreshed steps step hstep =>
    have hafter := (hsturdy _ (List.prefix_refl _)).works
    rw [afterAll_concat] at hafter ⊢
    have huses : ∀ step ∈ steps, step.GoesByUses := fun step hmem =>
      goesByUses_of_isFair (hfair step (List.mem_append_left _ hmem))
    cases step with
    | withFacet collection facet act => cases hstep
    | operation op =>
      have hop : op.isAboutData = true := by
        cases op with
        | load payload base => rfl
        | update ops => rfl
        | _ => cases hstep
      -- the steps before may have left the collections behind the store, but in order
      exact neat_perform_data hop (orderly_afterAll huses huntouched.orderly)
        (hsturdy _ (List.prefix_append _ _)).plain (trimmed_afterAll huses huntouched.neat.trimmed)
        (fun hnot => by cases hnot.symm.trans hstep) hafter
  | @kept steps step _ hstore ih =>
    have hneat := ih (fun step hmem => hfair step (List.mem_append_left _ hmem))
      fun front hfront => hsturdy front (hfront.trans (List.prefix_append _ _))
    have hafter := hsturdy _ (List.prefix_refl _)
    rw [afterAll_concat] at hstore hafter ⊢
    cases hdata : step.isAboutData with
    | false =>
      exact neat_after (hfair step (List.mem_append_right _ (List.mem_singleton_self _))) hdata hneat
        (hsturdy steps (List.prefix_append _ _)).works hafter
    | true =>
      cases step with
      | withFacet collection facet act => cases hdata
      | operation op =>
        exact neat_perform_data hdata hneat.orderly hneat.plain hneat.trimmed
          (fun _ => ⟨hneat, hstore⟩) hafter.works

end BrowserStep

end Faceted
