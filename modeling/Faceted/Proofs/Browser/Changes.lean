import Faceted.Proofs.Browser.Orderly

/-!
# Facets and collections come and go

One lemma for each operation that leaves the data alone. If it succeeds, the collections stay in order
and a browser that is in tune stays in tune; while an operation is half way through, for instance
between a new facet and the passing on of what it leaves, neither needs to hold.

* **`obeys_changeFacetBy`**, **`obeys_tick`**: a change to a facet is passed on if it reports one;
* **`obeys_importState`**, **`obeys_clearAll`**: one collection after the other;
* **`obeys_addFacet`**, **`obeys_removeFacet`**: what a facet leaves is passed on if it restricts;
* **`obeys_createCollection`**: a new collection comes last, and if it restricts its base it has a
  facet there first.
-/

namespace Faceted

open Faceted.Action

namespace Browser

variable {b b' : Browser}

/-! ## 1. Changing facets -/

theorem advances_applyToFacet (collection facet : String)
    {act : Facet → Scene → Outcome Bool × Facet} (hact : Sound act) :
    Obeys (Strictly Advance) (applyToFacet collection facet act) := by
  refine frame_advance.bind (follows_find frame_advance collection) fun place => ?_
  refine frame_advance.bind (obeys_changeFacetOn place false facet hact) fun changed => ?_
  dsimp only
  split
  · exact frame_advance.bind (obeys_settle place) fun _ => frame_advance.pure _
  · exact frame_advance.pure _

/-- What doing something to a facet comes to, if it succeeds. -/
theorem applyToFacet_ok {collection facet : String} {act : Facet → Scene → Outcome Bool × Facet}
    {changed : Bool} (h : applyToFacet collection facet act b = (.ok changed, b')) :
    ∃ place c w, b.collections[place]? = some c ∧ c.id = collection ∧
      View.changeFacetBy facet act ⟨b.store, c⟩ = (.ok changed, w) ∧ b.Took place w changed b' := by
  obtain ⟨place, _, hfind, hfound⟩ := bind_ok h
  obtain ⟨rfl, c, hc, hid⟩ := find_ok hfind
  obtain ⟨changed', u, hchange, hchanged⟩ := bind_ok hfound
  obtain ⟨rfl, hafter⟩ := when_ok hchanged
  obtain ⟨w, hw, rfl⟩ := onCollection_ok_of_some hc hchange
  exact ⟨place, c, w, hc, hid, hw, hafter.imp_right fun ⟨hfalse, hsame⟩ =>
    ⟨Bool.eq_false_iff.mpr hfalse, hsame⟩⟩

theorem obeys_applyToFacet (collection facet : String)
    {act : Facet → Scene → Outcome Bool × Facet} (hact : Sound act) :
    Obeys (Strictly Grows) (applyToFacet collection facet act) := by
  refine strictly_of_ok (advances_applyToFacet collection facet hact) fun hstrict h => ?_
  obtain ⟨place, c, w, hc, -, hw, htook⟩ := applyToFacet_ok h
  obtain ⟨hkin, hline, hrestricted⟩ := View.changeFacetBy_ok hw hact
  have hadvance := advance_putView hc (View.advance_changeFacetBy hw hact)
  exact grows_putView htook hc hkin.store hkin.id.symm hkin.source.symm hkin.items.symm hstrict
    hadvance.orderly hline fun hfalse _ => hrestricted hfalse

theorem obeys_changeFacetBy (collection facet : String)
    {act : Facet → Scene → Outcome Bool × Facet} (hact : Sound act) :
    Obeys (Strictly Grows) (changeFacetBy collection facet act) :=
  obeys_guarded (obeys_applyToFacet collection facet hact) false

theorem obeys_tick (now : Nat) : Obeys (Strictly Grows) (tick now) := by
  refine frame_grows.bind frame_grows.state fun b => frame_grows.anyOf (fun place => ?_) _
  refine frame_grows.bind frame_grows.state fun b => ?_
  split
  · exact frame_grows.pure false
  · exact frame_grows.anyOf (fun f => obeys_changeFacetBy _ f (sound_perform _)) _

/-! ## 2. Bookmarks -/

/-- What importing the states of one collection comes to, if it succeeds. -/
theorem restoreAt_ok {s : BrowserState} {place : Nat} {changed : Bool}
    (h : restoreAt s place b = (.ok changed, b')) :
    b.collections[place]? = none ∧ b' = b ∨ ∃ c w, b.collections[place]? = some c ∧
      restoreFacets s ⟨b.store, c⟩ = (.ok changed, w) ∧ b.Took place w changed b' := by
  obtain ⟨outcome, u, hattempt, hrest⟩ := bind_ok h
  obtain ⟨houtcome, hu⟩ := Prod.mk.inj hattempt
  have hrun : onCollection place false (restoreFacets s) b = (outcome, u) :=
    Prod.ext (Except.ok.inj houtcome) hu
  cases outcome with
  | error failure =>
    obtain ⟨_, _, -, hfail⟩ := bind_ok hrest
    cases hfail
  | ok answer =>
    rcases onCollection_ok hrun with ⟨hnone, rfl, rfl⟩ | ⟨c, w, hc, hw, rfl⟩
    · cases hrest
      exact .inl ⟨hnone, rfl⟩
    · refine .inr ⟨c, w, hc, ?_⟩
      cases answer with
      | false =>
        cases hrest
        exact ⟨hw, .inr ⟨rfl, rfl⟩⟩
      | true =>
        obtain ⟨_, _, hsettle, hpure⟩ := bind_ok hrest
        cases hpure
        exact ⟨hw, .inl ⟨rfl, hsettle⟩⟩

theorem steady_restoreAt (s : BrowserState) (place : Nat) : Steady (restoreAt s place) := by
  have hattempt : Steady (attempt (onCollection place false (restoreFacets s))) := fun b =>
    ⟨(steady_onCollection place false (restoreFacets s) b).1, fun _ _ => trivial⟩
  have hsettle : Steady (settle place) := steady_of_obeys (obeys_settle place)
  refine frame_steady.bind hattempt fun outcome => ?_
  cases outcome with
  | error failure => exact frame_steady.bind hsettle fun _ => frame_steady.fail failure
  | ok answer =>
    cases answer with
    | false => exact frame_steady.pure false
    | true => exact frame_steady.bind hsettle fun _ => frame_steady.pure true

theorem obeys_restoreAt (s : BrowserState) (place : Nat) :
    Obeys (Strictly Grows) (restoreAt s place) := by
  refine strictly_of_ok (steady_restoreAt s place) fun hstrict h => ?_
  rcases restoreAt_ok h with ⟨-, rfl⟩ | ⟨c, w, hc, hw, htook⟩
  · exact Grows.refl _
  · obtain ⟨hkin, hline⟩ := View.restoreFacets_ok hw
    have hadvance := advance_putView hc (View.advance_restoreFacets hw)
    exact grows_putView htook hc hkin.store hkin.id.symm hkin.source.symm hkin.items.symm hstrict
      hadvance.orderly (fun hv => (hline hv).1) fun hfalse hv => (hline hv).2 hfalse

theorem obeys_importState (s : BrowserState) : Obeys (Strictly Grows) (importState s) :=
  obeys_guarded (frame_grows.bind frame_grows.state fun _ =>
    frame_grows.anyOf (obeys_restoreAt s) _) false

theorem obeys_clearAll : Obeys (Strictly Grows) clearAll :=
  frame_grows.bind frame_grows.state fun _ =>
    frame_grows.bind (obeys_importState ∅) fun _ => frame_grows.pure _

/-! ## 3. Adding and removing facets -/

theorem steady_attachFacet (collection : String) (config : FacetConfig) :
    Steady (attachFacet collection config) := by
  refine frame_steady.bind (follows_find frame_steady collection) fun place => ?_
  refine frame_steady.bind frame_steady.state fun b => ?_
  refine frame_steady.bind (frame_steady.ofOutcome _) fun f => ?_
  refine frame_steady.bind (steady_onCollection place () _) fun _ => ?_
  dsimp only
  split
  · exact frame_steady.bind (steady_of_obeys (obeys_settle place)) fun _ => frame_steady.pure _
  · exact frame_steady.pure _

/-- A collection gets one more facet; if the facet narrows it, it belongs to another collection. -/
theorem distinct_withFacet {v w : View} {f : Facet} (hnew : v.collection.hasFacet f.id = false)
    (hkin : (v.withFacet f).Kin w) (hv : (v.collection.facets.map Facet.id).Nodup) :
    (w.collection.facets.map Facet.id).Nodup := by
  rw [← ids_eq_of_roles hkin.roles]
  show ((v.collection.facets ++ [f]).map Facet.id).Nodup
  rw [List.map_append, List.nodup_append]
  refine ⟨hv, List.pairwise_singleton _ _, fun id hid id' hid' => ?_⟩
  rintro rfl
  obtain ⟨g, hg, rfl⟩ := List.mem_map.mp hid
  have hgf : g.id = f.id := by simpa using hid'
  have hany : v.collection.hasFacet f.id = true :=
    List.any_eq_true.mpr ⟨g, hg, beq_iff_eq.mpr hgf⟩
  rw [hnew] at hany
  cases hany

section Attaching

variable {place : Nat} {c : Collection} {w : View} (hb : b.Orderly)
  (hc : b.collections[place]? = some c)
include hb hc

/-- A collection with one more facet, which a user has set up. -/
theorem orderly_withFacet {f : Facet} (huser : f.role.2 = none) (hnew : c.hasFacet f.id = false)
    (hkin : (View.withFacet ⟨b.store, c⟩ f).Kin w) : (b.putView place w).Orderly := by
  have hmem := List.mem_of_getElem? hc
  refine orderly_putView hb hc hkin.id.symm hkin.source.symm (hkin.updating (hb.calm c hmem))
    (distinct_withFacet hnew hkin (hb.attached c hmem).distinct) fun r hr hne => ?_
  rw [← hkin.roles] at hr
  rcases List.mem_map.mp hr with ⟨g, hg, rfl⟩
  rcases List.mem_append.mp hg with hg | hg
  · exact List.mem_map_of_mem hg
  · rw [List.mem_singleton.mp hg] at hne
    exact absurd huser hne

/-- A collection with one facet less. -/
theorem orderly_withoutFacet {id : String} (hkin : (View.withoutFacet ⟨b.store, c⟩ id).Kin w) :
    (b.putView place w).Orderly := by
  have hmem := List.mem_of_getElem? hc
  have hsub : (w.collection.facets.map Facet.role).Sublist (c.facets.map Facet.role) := by
    rw [← hkin.roles]
    exact List.eraseP_sublist.map Facet.role
  have hids := (hsub.map Prod.fst).nodup (by
    simpa only [List.map_map, Function.comp_def, role_fst] using (hb.attached c hmem).distinct)
  refine orderly_putView hb hc hkin.id.symm hkin.source.symm (hkin.updating (hb.calm c hmem)) ?_
    fun r hr _ => hsub.subset hr
  simpa only [List.map_map, Function.comp_def, role_fst] using hids

end Attaching

/-- What adding a facet comes to, if it succeeds. -/
theorem attachFacet_ok {collection id : String} {config : FacetConfig}
    (h : attachFacet collection config b = (.ok id, b')) :
    ∃ place c f w, b.collections[place]? = some c ∧ c.id = collection ∧
      config.build b.settings (b.facetCount place) = .ok f ∧
      View.addFacet f ⟨b.store, c⟩ = (.ok (), w) ∧ b.Took place w f.hasRestrictions b' := by
  obtain ⟨place, _, hfind, hfound⟩ := bind_ok h
  obtain ⟨rfl, c, hc, hid⟩ := find_ok hfind
  obtain ⟨_, _, hstate, hread⟩ := bind_ok hfound
  cases hstate
  obtain ⟨f, _, hof, hbuilt⟩ := bind_ok hread
  obtain ⟨hbuild, rfl⟩ := Prod.mk.inj hof
  obtain ⟨_, u, hadd, hadded⟩ := bind_ok hbuilt
  obtain ⟨-, hafter⟩ := when_ok hadded
  obtain ⟨w, hw, rfl⟩ := onCollection_ok_of_some hc hadd
  exact ⟨place, c, f, w, hc, hid, hbuild, hw, hafter.imp_right fun ⟨hfalse, hsame⟩ =>
    ⟨Bool.eq_false_iff.mpr hfalse, hsame⟩⟩

theorem obeys_attachFacet (collection : String) (config : FacetConfig) :
    Obeys (Strictly Grows) (attachFacet collection config) := by
  refine strictly_of_ok (steady_attachFacet collection config) fun {b b' x} hstrict h => ?_
  obtain ⟨place, c, f, w, hc, -, hbuild, hw, htook⟩ := attachFacet_ok h
  obtain ⟨hnew, hkin, hline, hrestricted⟩ := View.addFacet_ok hw
  exact grows_putView htook hc hkin.store hkin.id.symm hkin.source.symm hkin.items.symm hstrict
    (fun hb => orderly_withFacet hb hc (Facet.role_build hbuild) hnew hkin)
    (fun hv => hline hv (Facet.fresh_build hbuild)) fun hfalse _ => hrestricted hfalse

theorem obeys_addFacet (collection : String) (config : FacetConfig) :
    Obeys (Strictly Grows) (addFacet collection config) :=
  obeys_guarded (obeys_attachFacet collection config) ""

theorem steady_detachFacet (collection facet : String) : Steady (detachFacet collection facet) := by
  refine frame_steady.bind (follows_find frame_steady collection) fun place => ?_
  refine frame_steady.bind (steady_onCollection place none _) fun removed => ?_
  cases removed with
  | none => exact frame_steady.pure false
  | some f =>
    dsimp only
    split
    · exact frame_steady.bind (steady_of_obeys (obeys_settle place)) fun _ => frame_steady.pure _
    · exact frame_steady.pure _

/-- What removing a facet comes to, if it succeeds. -/
theorem detachFacet_ok {collection facet : String} {answer : Bool}
    (h : detachFacet collection facet b = (.ok answer, b')) :
    b' = b ∨ ∃ place c f w, b.collections[place]? = some c ∧ c.id = collection ∧
      View.removeFacet facet ⟨b.store, c⟩ = (.ok (some f), w) ∧
        b.Took place w f.hasRestrictions b' := by
  obtain ⟨place, _, hfind, hfound⟩ := bind_ok h
  obtain ⟨rfl, c, hc, hid⟩ := find_ok hfind
  obtain ⟨removed, u, hremove, hremoved⟩ := bind_ok hfound
  obtain ⟨w, hw, rfl⟩ := onCollection_ok_of_some hc hremove
  cases removed with
  | none =>
    cases hremoved
    rw [View.removeFacet_none hw]
    refine .inl ?_
    obtain ⟨hlt, rfl⟩ := List.getElem?_eq_some_iff.mp hc
    unfold putView
    rw [List.set_getElem_self]
  | some f =>
    obtain ⟨-, hafter⟩ := when_ok hremoved
    exact .inr ⟨place, c, f, w, hc, hid, hw, hafter.imp_right fun ⟨hfalse, hsame⟩ =>
      ⟨Bool.eq_false_iff.mpr hfalse, hsame⟩⟩

theorem obeys_detachFacet (collection facet : String) :
    Obeys (Strictly Grows) (detachFacet collection facet) := by
  refine strictly_of_ok (steady_detachFacet collection facet) fun {b b' x} hstrict h => ?_
  rcases detachFacet_ok h with rfl | ⟨place, c, f, w, hc, -, hw, htook⟩
  · exact Grows.refl _
  · obtain ⟨hkin, hline, hrestricted⟩ := View.removeFacet_ok hw
    exact grows_putView htook hc hkin.store hkin.id.symm hkin.source.symm hkin.items.symm hstrict
      (fun hb => orderly_withoutFacet hb hc hkin) hline fun hfalse _ => hrestricted hfalse

theorem obeys_removeFacet (collection facet : String) :
    Obeys (Strictly Grows) (removeFacet collection facet) :=
  obeys_guarded (obeys_detachFacet collection facet) false

/-! ## 4. Creating collections -/

/-- The browser with one more collection. -/
def withCollection (b : Browser) (c : Collection) : Browser :=
  { b with collections := b.collections ++ [c] }

theorem idAt_ne_of_collection? {id : String} (h : b.collection? id = none) (place : Nat) :
    b.idAt place ≠ some id := by
  intro hid
  obtain ⟨c, hc, rfl⟩ := Option.map_eq_some_iff.mp hid
  exact List.find?_eq_none.mp h c (List.mem_of_getElem? hc) (beq_self_eq_true c.id)

theorem getElem?_withCollection {c d : Collection} {q : Nat}
    (h : (b.withCollection c).collections[q]? = some d) :
    b.collections[q]? = some d ∨ q = b.collections.length ∧ d = c := by
  rw [withCollection, List.getElem?_append] at h
  split at h
  · exact .inl h
  · next hlt =>
    obtain ⟨hq, hd⟩ := List.getElem?_eq_some_iff.mp h
    rw [List.length_singleton] at hq
    refine .inr ⟨by omega, ?_⟩
    rw [← hd, List.getElem_singleton]

theorem idAt_withCollection {c : Collection} {q : Nat} {id : String} (h : b.idAt q = some id) :
    (b.withCollection c).idAt q = some id := by
  obtain ⟨d, hd, rfl⟩ := Option.map_eq_some_iff.mp h
  refine idAt_of_getElem? ?_
  rw [withCollection, List.getElem?_append_left (List.getElem?_eq_some_iff.mp hd).1, hd]

theorem ordered_withCollection {c : Collection} (hb : b.Ordered) (hnew : ∀ q, b.idAt q ≠ some c.id)
    (hbase : ∀ base, c.base? = some base → ∃ p, b.idAt p = some base) :
    (b.withCollection c).Ordered where
  distinct {p q id} hp hq := by
    obtain ⟨d, hd, rfl⟩ := Option.map_eq_some_iff.mp hp
    obtain ⟨d', hd', hid⟩ := Option.map_eq_some_iff.mp hq
    rcases getElem?_withCollection hd with hold | ⟨rfl, rfl⟩ <;>
      rcases getElem?_withCollection hd' with hold' | ⟨rfl, rfl⟩
    · exact hb.distinct (idAt_of_getElem? hold) (hid ▸ idAt_of_getElem? hold')
    · exact absurd (hid ▸ idAt_of_getElem? hold) (hnew p)
    · exact absurd (hid ▸ idAt_of_getElem? hold') (hnew q)
    · rfl
  before {place base} h := by
    obtain ⟨d, hd, hdbase⟩ := Option.bind_eq_some_iff.mp h
    rcases getElem?_withCollection hd with hold | ⟨rfl, rfl⟩
    · obtain ⟨p, hlt, hp⟩ := hb.before ((baseAt_of_getElem? hold).trans hdbase)
      exact ⟨p, hlt, idAt_withCollection hp⟩
    · obtain ⟨p, hp⟩ := hbase base hdbase
      refine ⟨p, Decidable.byContradiction fun hge => ?_, idAt_withCollection hp⟩
      rw [idAt_eq_none (by omega)] at hp
      cases hp

/-- Nothing depends on the last collection. -/
theorem not_dependsOn_last {c : Collection} (hb : (b.withCollection c).Ordered) {q : Nat} :
    ¬ (b.withCollection c).DependsOn q b.collections.length := by
  intro hon
  have hlt := hon.lt hb
  obtain ⟨id, hbase, -⟩ := hon
  obtain ⟨d, hd, -⟩ := Option.bind_eq_some_iff.mp hbase
  have hlen := (List.getElem?_eq_some_iff.mp hd).1
  rw [withCollection, List.length_append, List.length_singleton] at hlen
  omega

/-- A collection that comes last is not what another one is based on. -/
theorem collection?_withCollection {c d : Collection} (hb : b.Ordered) {q : Nat}
    (hd : b.collections[q]? = some d) (id : String) (hbase : d.base? = some id) :
    (b.withCollection c).collection? id = b.collection? id := by
  obtain ⟨on, -, base, hat, rfl⟩ := hb.base hd hbase
  show (b.collections ++ [c]).find? _ = b.collections.find? _
  rw [List.find?_append]
  exact Option.or_of_isSome (congrArg Option.isSome (collection?_eq hb hat))

/-- The roots of the other collections stay as they were. -/
theorem rootHolds_withCollection {c : Collection} (hb : b.Ordered) {q : Nat}
    (hq : q ≠ b.collections.length) (h : b.RootHolds q) : (b.withCollection c).RootHolds q := by
  intro d hd hplain
  rcases getElem?_withCollection hd with hold | ⟨rfl, -⟩
  · rw [← h d hold hplain]
    exact rootOf_congr (Store.Alike.refl _) rfl fun id hbase =>
      congrArg _ (collection?_withCollection hb hold id hbase)
  · exact absurd rfl hq

/-- What finding out where the items of a new collection come from does: nothing, unless the
    collection is to restrict its base, which then gets a facet for it. -/
theorem sourceOf_ok {id : String} {config : CollectionConfig} {source : ItemSource}
    (h : sourceOf id config b = (.ok source, b')) :
    (b' = b ∧ ∀ base, (Collection.new id source).base? = some base →
        ∃ p, b.idAt p = some base) ∨
      ∃ e place c w, b.collections[place]? = some c ∧
        View.addFacet (.derived (DerivedFacet.new (derivedId id) e)) ⟨b.store, c⟩ = (.ok (), w) ∧
        b' = b.putView place w ∧ source = .based e c.id true := by
  unfold sourceOf at h
  cases hbase : config.baseCollectionId with
  | none =>
    rw [hbase] at h
    dsimp only at h
    cases htypes : config.itemTypes with
    | none =>
      rw [htypes] at h
      cases h
      exact .inl ⟨rfl, fun base hbase => by cases hbase⟩
    | some types =>
      rw [htypes] at h
      cases h
      exact .inl ⟨rfl, fun base hbase => by cases hbase⟩
  | some baseId =>
    cases htext : config.expression with
    | none =>
      rw [hbase, htext] at h
      cases h
    | some text =>
      rw [hbase, htext] at h
      obtain ⟨e, _, hof, hparsed⟩ := bind_ok h
      obtain ⟨-, rfl⟩ := Prod.mk.inj hof
      obtain ⟨place, _, hfind, hfound⟩ := bind_ok hparsed
      obtain ⟨rfl, c, hc, rfl⟩ := find_ok hfind
      obtain ⟨rfl, hafter⟩ := when_ok hfound
      rcases hafter with ⟨hrestrict, hadd⟩ | ⟨-, rfl⟩
      · obtain ⟨w, hw, rfl⟩ := onCollection_ok_of_some hc hadd
        exact .inr ⟨e, place, c, w, hc, hw, rfl, by rw [hrestrict]⟩
      · refine .inl ⟨rfl, fun base hbase => ⟨place, ?_⟩⟩
        cases hbase
        exact idAt_of_getElem? hc

theorem buildCollection_ok {config : CollectionConfig} {id : String}
    (h : buildCollection config b = (.ok id, b')) :
    b.collection? id = none ∧ ∃ source u, sourceOf id config b = (.ok source, u) ∧
      reroot b.collections.length (u.withCollection (.new id source)) = (.ok (), b') := by
  obtain ⟨_, _, hstate, hread⟩ := bind_ok h
  cases hstate
  dsimp only at hread
  split at hread
  · cases hread
  · next hsome =>
    obtain ⟨source, u, hsource, hsourced⟩ := bind_ok hread
    obtain ⟨_, _, hchange, hchanged⟩ := bind_ok hsourced
    cases hchange
    obtain ⟨_, _, hreroot, hpure⟩ := bind_ok hchanged
    cases hpure
    exact ⟨Option.not_isSome_iff_eq_none.mp hsome, source, u, hsource, hreroot⟩

theorem steady_buildCollection (config : CollectionConfig) : Steady (buildCollection config) := by
  refine frame_steady.bind frame_steady.state fun b => ?_
  dsimp only
  split
  · exact frame_steady.fail _
  · refine frame_steady.bind ?_ fun source => ?_
    · unfold sourceOf
      split
      · refine frame_steady.bind (frame_steady.ofOutcome _) fun e => ?_
        refine frame_steady.bind (follows_find frame_steady _) fun place => ?_
        dsimp only
        split
        · exact frame_steady.bind (steady_onCollection place () _) fun _ => frame_steady.pure _
        · exact frame_steady.pure _
      · exact frame_steady.fail _
      · split <;> exact frame_steady.pure _
    · refine frame_steady.bind (fun b => ⟨rfl, fun _ _ => trivial⟩) fun _ => ?_
      exact frame_steady.bind (steady_of_obeys (obeys_reroot _)) fun _ => frame_steady.pure _

/-- The browser once it is ready for a new collection: its base, if it is to be restricted, has the
    facet for it. -/
structure Prepared (b u : Browser) (d : Collection) : Prop where
  settings : u.settings = b.settings
  store : b.store.Alike u.store
  length : u.collections.length = b.collections.length
  idAt : ∀ q, u.idAt q = b.idAt q
  base : ∀ base, d.base? = some base → ∃ p, u.idAt p = some base
  ordered : b.Ordered → u.Ordered
  calm : b.Calm → u.Calm
  attached : b.Orderly → ∀ c ∈ u.collections, (u.withCollection d).Attached c
  inLine : b.AllInLine → u.AllInLine
  roots : b.InTune → ∀ q, u.RootHolds q

theorem attached_withCollection {c d : Collection} (h : b.Attached c) :
    (b.withCollection d).Attached c :=
  h.congr rfl rfl fun d' hd' => ⟨d', List.mem_append_left _ hd', rfl, rfl⟩

/-- The base of the new collection has got the facet for it. -/
theorem prepared_withDerived {id : String} {e : Expression} {place : Nat} {c : Collection} {w : View}
    (hc : b.collections[place]? = some c)
    (hw : View.addFacet (.derived (DerivedFacet.new (derivedId id) e)) ⟨b.store, c⟩ = (.ok (), w)) :
    Prepared b (b.putView place w) (.new id (.based e c.id true)) := by
  obtain ⟨hnew, hkin, hline, hrestricted⟩ := View.addFacet_ok hw
  have hmem : c ∈ b.collections := List.mem_of_getElem? hc
  have hid : w.collection.id = c.id := hkin.id.symm
  have hsource : w.collection.source = c.source := hkin.source.symm
  refine ⟨rfl, hkin.store, List.length_set, idAt_putView hc hid, fun base hbase => ?_,
    fun hb => ordered_putView hb hc hid hsource,
    fun hb => calm_putView hb (hkin.updating (hb c hmem)), fun hb d hd => ?_, fun hb => ?_,
    fun hb q => ?_⟩
  · cases hbase
    exact ⟨place, (idAt_putView hc hid place).trans (idAt_of_getElem? hc)⟩
  · have hsame : ∀ d ∈ b.collections, ∃ d' ∈ ((b.putView place w).withCollection
        (.new id (.based e c.id true))).collections, d'.id = d.id ∧ d'.source = d.source :=
      fun d hd => by
        obtain ⟨d', hd', hboth⟩ := mem_putView hc hid hsource hd
        exact ⟨d', List.mem_append_left _ hd', hboth⟩
    rcases List.mem_or_eq_of_mem_set hd with hd | rfl
    · exact (hb.attached d hd).congr rfl rfl hsame
    · refine ⟨distinct_withFacet hnew hkin (hb.attached c hmem).distinct, fun r hr e' he => ?_⟩
      rw [← hkin.roles] at hr
      obtain ⟨g, hg, rfl⟩ := List.mem_map.mp hr
      rcases List.mem_append.mp hg with hg | hg
      · obtain ⟨d, hd, hsource', hrid⟩ :=
          (hb.attached c hmem).belongs g.role (List.mem_map_of_mem hg) e' he
        obtain ⟨d', hd', hid', hsource''⟩ := hsame d hd
        exact ⟨d', hd', by rw [hsource'', hsource', hid], by rw [hrid, hid']⟩
      · rw [List.mem_singleton.mp hg] at he ⊢
        cases he
        exact ⟨.new id (.based e c.id true), List.mem_append_right _ (List.mem_singleton.mpr rfl),
          by rw [hid]; rfl, rfl⟩
  · exact allInLine_putView hkin.store hb (hline (hb c hmem) (Facet.fresh_derived _))
  · exact rootHolds_putView hc hkin.store hid hsource hkin.items.symm
      (fun _ => hrestricted rfl) (hb.roots q)

/-- Nothing has to be done if the new collection is not to restrict its base. -/
theorem prepared_refl {d : Collection} (hbase : ∀ base, d.base? = some base → ∃ p, b.idAt p = some base) :
    Prepared b b d :=
  ⟨rfl, Store.Alike.refl _, rfl, fun _ => rfl, hbase, fun h => h, fun h => h,
    fun h c hc => attached_withCollection (h.attached c hc), fun h => h, fun h => h.roots⟩

theorem prepared_of_sourceOf {u : Browser} {id : String} {config : CollectionConfig}
    {source : ItemSource} (h : sourceOf id config b = (.ok source, u)) :
    Prepared b u (.new id source) := by
  rcases sourceOf_ok h with ⟨rfl, hbase⟩ | ⟨e, place, c, w, hc, hw, rfl, rfl⟩
  · exact prepared_refl hbase
  · exact prepared_withDerived hc hw

theorem inLine_new (s : Store) (id : String) (source : ItemSource) :
    View.InLine ⟨s, .new id source⟩ where
  fresh f hf := by cases hf
  narrowed := rfl
  updating := rfl

section NewCollection

variable {u : Browser} {id : String} {source : ItemSource}
  (hu : Prepared b u (.new id source))
include hu

theorem Prepared.orderly (hnone : b.collection? id = none) (hb : b.Orderly) :
    (u.withCollection (.new id source)).Orderly where
  ordered := ordered_withCollection (hu.ordered hb.ordered)
    (fun q => by rw [hu.idAt]; exact idAt_ne_of_collection? hnone q) hu.base
  calm c hc := by
    rcases List.mem_append.mp hc with hc | hc
    · exact hu.calm hb.calm c hc
    · rw [List.mem_singleton.mp hc]
      rfl
  attached c hc := by
    rcases List.mem_append.mp hc with hc | hc
    · exact hu.attached hb c hc
    · rw [List.mem_singleton.mp hc]
      exact ⟨List.nodup_nil, fun r hr => by cases hr⟩

theorem Prepared.allInLine (hb : b.AllInLine) : (u.withCollection (.new id source)).AllInLine := by
  intro c hc
  rcases List.mem_append.mp hc with hc | hc
  · exact hu.inLine hb c hc
  · rw [List.mem_singleton.mp hc]
    exact inLine_new _ id source

theorem Prepared.getElem?_last :
    (u.withCollection (.new id source)).collections[b.collections.length]? =
      some (.new id source) := by
  rw [← hu.length]
  exact List.getElem?_concat_length

/-- Once the new collection has its root, every root holds: it stands last, so nothing depends on
    it. -/
theorem Prepared.roots_of_reroot (hnone : b.collection? id = none) (hb : b.Orderly) (hin : b.InTune)
    (h : reroot b.collections.length (u.withCollection (.new id source)) = (.ok (), b')) (q : Nat) :
    b'.RootHolds q := by
  have hordered := (hu.orderly hnone hb).ordered
  obtain ⟨w, -, -, hself, hothers⟩ := reroot_ok hu.getElem?_last hordered h
  by_cases hq : q = b.collections.length
  · exact hq ▸ hself
  · refine hothers hq ?_ (rootHolds_withCollection (hu.ordered hb.ordered)
      (by rw [hu.length]; exact hq) (hu.roots hin q))
    rw [← hu.length]
    exact not_dependsOn_last hordered

end NewCollection

theorem obeys_buildCollection (config : CollectionConfig) :
    Obeys (Strictly Grows) (buildCollection config) := by
  refine strictly_of_ok (steady_buildCollection config) fun {b b' id} hstrict h => ?_
  obtain ⟨hnone, source, u, hsource, hreroot⟩ := buildCollection_ok h
  have hu := prepared_of_sourceOf hsource
  have hadvance : (u.withCollection (.new id source)).Advance b' :=
    ((obeys_reroot _).ok hreroot).2 rfl (by rw [← hu.settings] at hstrict; exact hstrict)
  exact ⟨hu.store.trans hadvance.store, fun hb => hadvance.orderly (hu.orderly hnone hb),
    fun hb hin => ⟨hadvance.inLine (hu.allInLine hin.inLine),
      hu.roots_of_reroot hnone hb hin hreroot⟩⟩

theorem obeys_createCollection (config : CollectionConfig) :
    Obeys (Strictly Grows) (createCollection config) :=
  obeys_guarded (obeys_buildCollection config) ""

end Browser

end Faceted
