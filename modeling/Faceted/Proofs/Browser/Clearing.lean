import Faceted.Proofs.Browser.Waiting

/-!
# Clearing everything

A text search may hold back input when everything is cleared. Clearing drops it only together with a
query: a text search without one has nothing to be cleared, and so it keeps what it holds back, which
the next tick makes a query.

* `View.restoreFacets_empty`, `restore_empty`: no query is left;
* `quiet_iff`: all is quiet afterwards exactly if no text search without a query was holding back
  input;
* **`clearing_final_iff`**: then, and only then, no later tick changes the outlook;
* **`emma_after_clearing`**: a keystroke that comes back.
-/

namespace Faceted

open Faceted.Action
open Faceted.Facet (lasting_calmed)

/-! ## 1. One collection -/

namespace View

open Browser (findIdx?_of_nodup)

variable {v w : View} {id : String}

theorem calmed_clearing (id : String) :
    Lasts Facet.Calmed (changeFacetBy id fun f _ => f.orStay (f.importState f.emptyState)) :=
  lasts_changeFacetBy lasting_calmed (fun f _ => f.calmed_importState.1) id

/-- A facet that has taken over the empty state has no query. -/
theorem query_of_clearing {changed : Bool} (hids : (v.collection.facets.map Facet.id).Nodup)
    (h : changeFacetBy id (fun f _ => f.orStay (f.importState f.emptyState)) v = (.ok changed, w)) :
    ∀ g ∈ w.collection.facets, g.id = id → g.query? = none := by
  cases hplace : v.collection.place? id with
  | none =>
    rw [changeFacetBy_apply, hplace] at h
    cases h
  | some place =>
    obtain ⟨f, hf, -⟩ := getElem?_of_place? hplace
    have hrest := lasts_actedAt lasting_calmed (fun f _ => f.orStay (f.importState f.emptyState))
      hplace hf
    rw [h] at hrest
    intro g hg hid
    obtain ⟨k, hk⟩ := List.mem_iff_getElem?.mp hg
    obtain ⟨e, he, hge⟩ := forall₂_getElem?_right hrest.facets hk
    refine hge.query_eq_none ?_
    by_cases hkplace : place = k
    · subst hkplace
      have hset : (v.collection.facets.set place (f.orStay (f.importState f.emptyState)).2)[place]? =
          some (f.orStay (f.importState f.emptyState)).2 :=
        List.getElem?_set_self (List.getElem?_eq_some_iff.mp hf).1
      rw [Option.some.inj (he.symm.trans hset)]
      exact f.calmed_importState.2
    · have hv : v.collection.facets[k]? = some e := (List.getElem?_set_ne hkplace).symm.trans he
      have hfound : v.collection.place? id = some k := by
        rw [← hid, ← hge.id]
        exact findIdx?_of_nodup hids hv
      exact absurd (Option.some.inj (hplace.symm.trans hfound)) hkplace

/-- Where there was no query, none comes with an empty state. -/
theorem query_of_calmed {id : String} (hvw : v.collection.Retains Facet.Calmed w.collection)
    (hv : ∀ g ∈ v.collection.facets, g.id = id → g.query? = none) :
    ∀ g ∈ w.collection.facets, g.id = id → g.query? = none := by
  intro g hg hid
  obtain ⟨k, hk⟩ := List.mem_iff_getElem?.mp hg
  obtain ⟨e, he, hge⟩ := forall₂_getElem?_right hvw.facets hk
  exact hge.query_eq_none (hv e (List.mem_of_getElem? he) (hge.id.trans hid))

/-- **No query is left** in a collection that has taken over the empty state. -/
theorem restoreFacets_empty {changed : Bool} (hids : (v.collection.facets.map Facet.id).Nodup)
    (h : Browser.restoreFacets ∅ v = (.ok changed, w)) :
    ∀ g ∈ w.collection.facets, g.query? = none := by
  have hcalmed : v.collection.Retains Facet.Calmed w.collection :=
    (lasts_restoreFacets (s := ∅) lasting_calmed (fun _ f => f.calmed_importState.1)).ok h
  have hbatch : batch (anyOf (fun id => changeFacetBy id fun f _ =>
      f.orStay (f.importState f.emptyState))
      ((v.collection.facets.filter Facet.isForUser).map Facet.id)) v = (.ok changed, w) := h
  obtain ⟨u, hany, hrefresh⟩ := batch_ok hbatch
  have hframe := frame_lasts lasting_calmed
  obtain ⟨answers, hcollect⟩ := collect_of_anyOf_ok hany
  have hdone := hframe.collect_establishes
    (P := fun id t => ∀ g ∈ t.collection.facets, g.id = id → g.query? = none)
    (fun hst hs => by rwa [← map_eq_of_forall₂ hst.facets fun _ _ => Facet.Calmed.id])
    (fun hst _ => query_of_calmed hst) (fun id _ => calmed_clearing id)
    (fun id _ {s y t} hs hrun => query_of_clearing hs hrun) hcollect hids
  have hlast := (lasts_refresh lasting_calmed).ok hrefresh
  intro g hg
  obtain ⟨k, hk⟩ := List.mem_iff_getElem?.mp hg
  obtain ⟨e, he, hge⟩ := forall₂_getElem?_right hlast.facets hk
  obtain ⟨f, hf, hfg⟩ := forall₂_getElem?_right hcalmed.facets hk
  by_cases huser : f.isForUser = true
  · refine hge.query_eq_none (hdone f.id ?_ e (List.mem_of_getElem? he) (hge.id.trans hfg.id.symm))
    exact List.mem_map_of_mem (List.mem_filter.mpr ⟨List.mem_of_getElem? hf, huser⟩)
  · refine hfg.query_eq_none ?_
    cases f with
    | derived f => rfl
    | _ => exact absurd rfl huser

end View

namespace Browser

variable {b b' s t : Browser}

/-! ## 2. All collections -/

/-- What empty states make of all facets. -/
def Calmed (s t : Browser) : Prop :=
  List.Forall₂ (Collection.Retains Facet.Calmed) s.collections t.collections

theorem Calmed.named (hst : s.Calmed t) (hs : s.Named) : t.Named :=
  named_congr (names_of_retains Facet.Calmed.id hst) hs

theorem frame_calmed : Frame fun _ => Calmed := frame_lasts lasting_calmed

theorem calmed_settle (place : Nat) : Obeys (fun _ => Calmed) (settle place) :=
  lasts_settle lasting_calmed
    (fun f scene allowed => .inl (Facet.sameText_restrictTo f scene allowed)) place

theorem calmed_restoreAt (place : Nat) : Obeys (fun _ => Calmed) (restoreAt ∅ place) :=
  lasts_restoreAt (s := ∅) lasting_calmed
    (fun f scene allowed => .inl (Facet.sameText_restrictTo f scene allowed))
    (fun _ f => f.calmed_importState.1) place

theorem calmed_importState : Obeys (fun _ => Calmed) (importState ∅) :=
  lasts_importState (s := ∅) lasting_calmed
    (fun f scene allowed => .inl (Facet.sameText_restrictTo f scene allowed))
    fun _ f => f.calmed_importState.1

/-- There is no query in the collection at the place. -/
def NoQueryAt (b : Browser) (place : Nat) : Prop :=
  ∀ k g, b.facetAt? place k = some g → g.query? = none

theorem Calmed.noQueryAt {place : Nat} (hst : s.Calmed t) (hs : s.NoQueryAt place) :
    t.NoQueryAt place := by
  intro k g hg
  obtain ⟨e, he, hge⟩ := facetAt?_of_retains_flip hst hg
  exact hge.query_eq_none (hs k e he)

/-- A collection that has taken over the empty state has no query, also after that is passed on. -/
theorem noQueryAt_of_restoreAt {place : Nat} {changed : Bool} (hs : s.Named)
    (h : restoreAt ∅ place s = (.ok changed, t)) : t.NoQueryAt place := by
  rcases restoreAt_ok h with ⟨hnone, rfl⟩ | ⟨c, w, hc, hw, htook⟩
  · intro k g hg
    obtain ⟨c, hc, -⟩ := Option.bind_eq_some_iff.mp hg
    rw [hnone] at hc
    cases hc
  · have hput : (s.putView place w).NoQueryAt place := by
      intro k g hg
      have hplace : (s.putView place w).collections[place]? = some w.collection :=
        List.getElem?_set_self (List.getElem?_eq_some_iff.mp hc).1
      rw [facetAt?_eq hplace] at hg
      exact View.restoreFacets_empty (hs.ids_nodup hc) hw g (List.mem_of_getElem? hg)
    rcases htook with ⟨-, hsettle⟩ | ⟨-, rfl⟩
    · exact Calmed.noQueryAt ((calmed_settle place).ok hsettle) hput
    · exact hput

/-- **No query is left** after everything has been cleared. -/
theorem restore_empty {changed : Bool} (hb : b.Named) (h : restore ∅ b = (.ok changed, b'))
    {place k : Nat} {g : Facet} (hg : b'.facetAt? place k = some g) : g.query? = none := by
  obtain ⟨_, _, hstate, hany⟩ := bind_ok h
  cases hstate
  obtain ⟨answers, hcollect⟩ := collect_of_anyOf_ok hany
  have hdone := frame_calmed.collect_establishes (P := fun place t => t.NoQueryAt place)
    (fun hst hs => hst.named hs) (fun hst _ => hst.noQueryAt)
    (fun place _ => calmed_restoreAt place)
    (fun _ _ {_ _ _} hs hrun => noQueryAt_of_restoreAt hs hrun) hcollect hb
  have hcalmed : b.Calmed b' := (frame_calmed.collect calmed_restoreAt b.places).ok hcollect
  obtain ⟨d, hd, -⟩ := Option.bind_eq_some_iff.mp hg
  obtain ⟨c, hc, -⟩ := forall₂_getElem?_right hcalmed hd
  exact hdone place (List.mem_range.mpr (List.getElem?_eq_some_iff.mp hc).1) k g hg

/-- No text search without a query holds back input. -/
def NothingNew (b : Browser) : Prop := ∀ f ∈ b.everyFacet, isPending f = true → f.query? ≠ none

instance (b : Browser) : Decidable b.NothingNew :=
  inferInstanceAs (Decidable (∀ f ∈ b.everyFacet, isPending f = true → f.query? ≠ none))

/-- What is held back after everything has been cleared was held back without a query. -/
theorem not_pending_iff (hcalmed : b.Calmed b')
    (hempty : ∀ {place k g}, b'.facetAt? place k = some g → g.query? = none) :
    (∀ f ∈ b'.everyFacet, isPending f = false) ↔ b.NothingNew := by
  constructor
  · intro hnone f hf hpending hquery
    obtain ⟨place, k, hf⟩ := mem_everyFacet.mp hf
    obtain ⟨g, hg, hfg⟩ := facetAt?_of_retains hcalmed hf
    rcases hfg with hsame | ⟨-, hne, -⟩
    · have hg' := hnone g (mem_everyFacet.mpr ⟨place, k, hg⟩)
      rw [Facet.isPending_iff, hsame.pending, ← Facet.isPending_iff, hg'] at hpending
      cases hpending
    · exact hne hquery
  · intro hnew g hg
    obtain ⟨place, k, hg⟩ := mem_everyFacet.mp hg
    obtain ⟨f, hf, hfg⟩ := facetAt?_of_retains_flip hcalmed hg
    rw [← Bool.not_eq_true, Facet.isPending_iff, Classical.not_not]
    rcases hfg with hsame | ⟨-, -, -, hpending⟩
    · by_contra hne
      rw [← hsame.pending, ← Ne, ← Facet.isPending_iff] at hne
      exact hnew f (mem_everyFacet.mpr ⟨place, k, hf⟩) hne (hsame.query.trans (hempty hg))
    · exact hpending

/-- **All is quiet after everything has been cleared** exactly if no text search without a query was
    holding back input. -/
theorem quiet_iff (hcalmed : b.Calmed b') (htyped : AllFacets Facet.Typed b.collections)
    (hempty : ∀ {place k g}, b'.facetAt? place k = some g → g.query? = none) :
    b'.Quiet ↔ b.NothingNew := by
  constructor
  · intro hquiet f hf hpending hquery
    obtain ⟨c, hc, hcf⟩ := List.mem_flatMap.mp hf
    obtain ⟨place, k, hf⟩ := mem_everyFacet.mp hf
    obtain ⟨g, hg, hfg⟩ := facetAt?_of_retains hcalmed hf
    rcases hfg with hsame | ⟨-, hne, -⟩
    · obtain ⟨⟨text, due⟩, hheld⟩ := Option.ne_none_iff_exists'.mp (Facet.isPending_iff.mp hpending)
      have hexpects : f.Expects := ⟨text, due, hheld, by rw [hquery]; exact htyped c hc f hcf _ _ hheld⟩
      exact hquiet g (mem_everyFacet.mpr ⟨place, k, hg⟩) (hsame.expects.mp hexpects)
    · exact hne hquery
  · intro hnew g hg hexpects
    have hpending := (not_pending_iff hcalmed hempty).mpr hnew g hg
    rw [hexpects.isPending] at hpending
    cases hpending

/-! ## 3. The statement -/

theorem importState_of_clearing
    (h : (∃ changed, importState ∅ b = (.ok changed, b')) ∨ ∃ state, clearAll b = (.ok state, b')) :
    ∃ changed, importState ∅ b = (.ok changed, b') := by
  rcases h with h | ⟨state, hclear⟩
  · exact h
  · obtain ⟨_, _, hstate, hrest⟩ := bind_ok hclear
    cases hstate
    obtain ⟨changed, u, himport, hpure⟩ := bind_ok hrest
    cases hpure
    exact ⟨changed, himport⟩

theorem typed_afterAll {settings : Settings} {present : Int} {steps : List BrowserStep}
    (huses : ∀ step ∈ steps, step.GoesByUses) :
    AllFacets Facet.Typed (BrowserStep.afterAll steps (start settings present)).collections := by
  refine BrowserStep.allFacets_afterAll Facet.typed_use
    (fun hf => Facet.typed_of_none (Facet.pending?_build hf)) (fun _ _ _ => nofun) huses ?_
  intro c hc f hf
  rw [List.mem_singleton.mp hc] at hf
  cases hf

/-- **Clearing is final**, whatever has been done to the browser before, if no text search without a
    query was holding back input, and only then: otherwise there is a tick, as late as one likes, that
    makes a query of what it was. The first part holds whatever the settings say about failures. -/
theorem clearing_final_iff {settings : Settings} {present : Int} {steps : List BrowserStep}
    (huses : ∀ step ∈ steps, step.GoesByUses)
    (hb : b = BrowserStep.afterAll steps (start settings present))
    (hclear : (∃ changed, importState ∅ b = (.ok changed, b')) ∨
      ∃ state, clearAll b = (.ok state, b')) (moment : Nat) :
    ((∀ moments : List Nat, (∀ now ∈ moments, moment ≤ now) →
        (ticked moments b').outlook = b'.outlook) ↔ b'.Quiet) ∧
      (b.settings.errors ≠ .log →
        (b'.Quiet ↔ b.NothingNew) ∧
          ((∀ f ∈ b'.everyFacet, isPending f = false) ↔ b.NothingNew)) := by
  obtain ⟨changed, himport⟩ := importState_of_clearing hclear
  have hnamed : b.Named := by
    rw [hb]
    exact BrowserStep.named_afterAll huses (named_start settings present)
  have hcalmed : b.Calmed b' := calmed_importState.ok himport
  constructor
  · constructor
    · intro hfinal
      by_contra hwaiting
      obtain ⟨now, hnow, hne⟩ := exists_stirring (hcalmed.named hnamed) hwaiting moment
      exact hne (hfinal [now] (List.forall_mem_singleton.mpr hnow))
    · exact fun hquiet moments _ => outlook_ticked moments hquiet
  · intro hstrict
    have hsteady : Steady (restore ∅) :=
      frame_steady.bind frame_steady.state fun _ => frame_steady.anyOf (steady_restoreAt ∅) _
    have hrestore : restore ∅ b = (.ok changed, b') := guarded_ok hsteady hstrict himport
    have hempty {place k : Nat} {g : Facet} (hg : b'.facetAt? place k = some g) : g.query? = none :=
      restore_empty hnamed hrestore hg
    have htyped : AllFacets Facet.Typed b.collections := by
      rw [hb]
      exact typed_afterAll huses
    exact ⟨quiet_iff hcalmed htyped hempty, not_pending_iff hcalmed hempty⟩

/-- A text search over everything. -/
def searchBox : FacetConfig :=
  { FacetConfig.empty with
    id := some "search"
    facetClass := some "TextSearch" }

/-- Two books. -/
def twoTitles : Json :=
  .object [("items", .array [
    .object [("id", .string "moby")],
    .object [("id", .string "emma"), ("title", .string "emma")]])]

/-- The books with a text search, in which `emma` has been typed at the beginning. -/
def typing : List BrowserStep :=
  [.operation (.load twoTitles none), .operation (.addFacet defaultId searchBox),
    .operation (.input defaultId "search" "emma" 0 false)]

/-- The same with a query that has been entered before. -/
def retyping : List BrowserStep :=
  [.operation (.load twoTitles none), .operation (.addFacet defaultId searchBox),
    .operation (.input defaultId "search" "mo" 0 true),
    .operation (.input defaultId "search" "emma" 1 false)]

/-- What had been typed goes together with the query that it was to replace. -/
theorem clearing_retyping :
    (((BrowserStep.afterAll retyping library).everyFacet.map fun f => (f.query?, f.pending?)) =
        [(some "mo", some ("emma", 501))]) ∧
      ∃ state b', clearAll (BrowserStep.afterAll retyping library) = (.ok state, b') ∧
        ∀ moments, (ticked moments b').outlook = b'.outlook := by
  obtain ⟨state, hclear⟩ : ∃ state, clearAll (BrowserStep.afterAll retyping library) =
      (.ok state, _) := exists_of_isOk (by decide +kernel)
  have huses : ∀ step ∈ retyping, step.GoesByUses := by
    intro step hstep
    simp only [retyping, List.mem_cons, List.not_mem_nil, or_false] at hstep
    rcases hstep with rfl | rfl | rfl | rfl <;> trivial
  obtain ⟨hfinal, hquiet⟩ := clearing_final_iff huses rfl (.inr ⟨state, hclear⟩) 0
  refine ⟨by decide +kernel, state, _, hclear, fun moments => ?_⟩
  exact hfinal.mpr ((hquiet (by decide +kernel)).1.mpr (by decide +kernel)) moments
    fun _ _ => Nat.zero_le _

/-- **What has been typed comes back** after everything has been cleared. -/
theorem emma_after_clearing :
    (clearAll (BrowserStep.afterAll typing library)).1.isOk = true ∧
      ((clearAll (BrowserStep.afterAll typing library)).2.collections.map fun c =>
        (c.restricted.toList, c.facets.map Facet.query?)) = [(["emma", "moby"], [none])] ∧
      ((tick 1000 (clearAll (BrowserStep.afterAll typing library)).2).2.collections.map fun c =>
        (c.restricted.toList, c.facets.map Facet.query?)) = [(["emma"], [some "emma"])] := by
  decide +kernel

end Browser

end Faceted
