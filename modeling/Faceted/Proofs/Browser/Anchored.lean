import Faceted.Proofs.Browser.Lasting
import Faceted.Proofs.Collection.Failing

/-!
# Collections and their facets

A restricting collection takes its root items from its facet on its base. The two come in pairs: the
facet is there before its collection, no use of it takes it away, and no facet of a user can take its
place. But it has an id, and whoever asks for the removal of that id gets it removed.

* `Anchored`: restricting collections have their bases, and there their facets, but for those that have
  gone;
* `Guards`: an action keeps that, and where it says that a facet is lost the facet has gone;
* **`basedRoot_fails`**: only there is a facet missed;
* **`guards_perform`**: every step of a browser, **`anchored_afterAll`**: every run.
-/

namespace Faceted

open Faceted.Action
open Faceted.Facet (lasting_becomes)

/-- Where the failure says that a collection has lost its facet, the facet has gone. -/
def Failure.Explained (gone : String → String → Prop) (failure : Failure) : Prop :=
  ∀ collection base, failure = .lostFacet collection base → gone collection base

instance {α : Type} (outcome : Outcome α) (collection base : String) :
    Decidable (outcome = .error (.lostFacet collection base)) :=
  match outcome with
  | .ok _ => isFalse nofun
  | .error (.lostFacet collection' base') =>
    decidable_of_iff (collection' = collection ∧ base' = base) (by simp)
  | .error (.settings _) | .error (.data _) | .error (.parse _) | .error (.evaluation _)
  | .error (.unknownTag _ _) | .error (.file _) | .error .json => isFalse nofun

theorem Failure.Ordinary.explained {gone : String → String → Prop} {failure : Failure}
    (h : failure.Ordinary) : failure.Explained gone :=
  fun collection base hlost => absurd hlost (h collection base)

namespace Browser

variable {gone gone' : String → String → Prop} {b b' : Browser}

/-! ## 1. Anchors -/

/-- The collection of the id has the facet through which the collection `c` narrows it by the
    expression. -/
def HasFacetOf (b : Browser) (c : Collection) (e : Expression) (base : String) : Prop :=
  ∃ d ∈ b.collections, d.id = base ∧ (derivedId c.id, some e) ∈ d.facets.map Facet.role

/-- The collection narrows its base. -/
def Narrows (b : Browser) (collection base : String) : Prop :=
  ∃ c ∈ b.collections, c.id = collection ∧ ∃ e, c.source = .based e base true

theorem narrows_iff {collection base : String} : b.Narrows collection base ↔
    ∃ c ∈ b.collections, c.id = collection ∧ (narrowing? c base).isSome := by
  simp only [Narrows, Option.isSome_iff_exists, narrowing?_eq_some]

instance (collection base : String) : Decidable (b.Narrows collection base) :=
  decidable_of_iff' _ narrows_iff

/-- Every restricting collection has its base, and there its facet unless that has gone. -/
structure Anchored (gone : String → String → Prop) (b : Browser) : Prop where
  named : b.Named
  kept : ∀ c ∈ b.collections, ∀ e base, c.source = .based e base true →
    b.HasFacetOf c e base ∨ gone c.id base

theorem Anchored.mono (hb : b.Anchored gone) (h : ∀ {collection base}, gone collection base →
    gone' collection base) : b.Anchored gone' where
  named := hb.named
  kept c hc e base hsource := (hb.kept c hc e base hsource).imp_right h

/-- The facets may have been used. -/
theorem Anchored.retains (hb : b.Anchored gone)
    (h : List.Forall₂ (Collection.Retains Facet.Becomes) b.collections b'.collections) :
    b'.Anchored gone where
  named := named_congr (names_of_retains Facet.Becomes.id h) hb.named
  kept c' hc' e base hsource := by
    obtain ⟨c, hc, hcc'⟩ := forall₂_mem h.flip hc'
    have hid : c.id = c'.id := Collection.Retains.id hcc'
    have hsource' : c.source = c'.source := Collection.Retains.source hcc'
    rcases hb.kept c hc e base (hsource'.trans hsource) with ⟨d, hd, hdbase, hrole⟩ | hgone
    · obtain ⟨d', hd', hdd'⟩ := forall₂_mem h hd
      refine .inl ⟨d', hd', hdd'.id.symm.trans hdbase, ?_⟩
      rw [← hid, ← map_eq_of_forall₂ hdd'.facets fun _ _ h => (Facet.Becomes.role h).symm]
      exact hrole
    · exact .inr (hid ▸ hgone)

/-- A collection takes the place of one with the same id and source, and has all its facets but for
    those that have gone. -/
theorem anchored_set {place : Nat} {c d : Collection} (hb : b.Anchored gone)
    (hc : b.collections[place]? = some c) (hid : d.id = c.id) (hsource : d.source = c.source)
    (hids : (d.facets.map Facet.id).Nodup)
    (hroles : ∀ c' ∈ b.collections, ∀ e, c'.source = .based e c.id true →
      (derivedId c'.id, some e) ∈ c.facets.map Facet.role →
        (derivedId c'.id, some e) ∈ d.facets.map Facet.role ∨ gone c'.id c.id) :
    Anchored gone { b with collections := b.collections.set place d } where
  named := named_set hb.named hc hid hids
  kept c' hc' e base hsource' := by
    have hlt := (List.getElem?_eq_some_iff.mp hc).1
    obtain ⟨c'', hc'', hid'', hsource''⟩ :
        ∃ c'' ∈ b.collections, c''.id = c'.id ∧ c''.source = c'.source := by
      rcases List.mem_or_eq_of_mem_set hc' with hmem | rfl
      · exact ⟨c', hmem, rfl, rfl⟩
      · exact ⟨c, List.mem_of_getElem? hc, hid.symm, hsource.symm⟩
    have hbased := hsource''.trans hsource'
    rcases hb.kept c'' hc'' e base hbased with ⟨d', hd', rfl, hrole⟩ | hgone
    · rw [← hid'']
      obtain ⟨q, hq⟩ := List.mem_iff_getElem?.mp hd'
      by_cases hqplace : place = q
      · subst hqplace
        obtain rfl := Option.some.inj (hc.symm.trans hq)
        rcases hroles c'' hc'' e hbased hrole with hrole | hgone
        · exact .inl ⟨d, List.mem_set hlt d, hid, by rw [← hid'']; exact hrole⟩
        · exact .inr hgone
      · refine .inl ⟨d', List.mem_of_getElem? (i := q) ?_, rfl, by rw [← hid'']; exact hrole⟩
        rw [List.getElem?_set_ne hqplace]
        exact hq
    · exact .inr (hid'' ▸ hgone)

theorem anchored_pushFacet {place : Nat} {c : Collection} {f : Facet} (hb : b.Anchored gone)
    (hc : b.collections[place]? = some c) (hnew : c.hasFacet f.id = false) :
    Anchored gone { b with collections := b.collections.set place (c.pushFacet f) } := by
  refine anchored_set hb hc rfl rfl ?_ fun c' _ e _ hrole => .inl ?_
  · exact (named_pushFacet hb.named hc hnew).ids_nodup
      (List.getElem?_set_self (List.getElem?_eq_some_iff.mp hc).1)
  · show _ ∈ (c.facets ++ [f]).map Facet.role
    rw [List.map_append]
    exact List.mem_append_left _ hrole

/-- The facet of a collection is found by its id. -/
theorem facet?_of_role {d : Collection} {id : String} {e : Expression}
    (hids : (d.facets.map Facet.id).Nodup) (hrole : (id, some e) ∈ d.facets.map Facet.role) :
    ∃ f, d.facet? id = some (.derived f) ∧ f.expression = e := by
  obtain ⟨f, hf, hfrole⟩ := List.mem_map.mp hrole
  have hfound : d.facet? f.id = some f := Collection.facet?_of_mem hids (List.suffix_refl _) hf
  cases f with
  | derived f =>
    cases hfrole
    exact ⟨f, hfound, rfl⟩
  | _ => cases hfrole

theorem collection?_of_mem (hb : b.Named) {d : Collection} (hd : d ∈ b.collections) :
    b.collection? d.id = some d := by
  obtain ⟨place, hplace⟩ := List.mem_iff_getElem?.mp hd
  have hfound := hb.placeOf hplace
  obtain ⟨-, d', hd', -⟩ := placeOf_ok hfound
  obtain rfl := Option.some.inj (hplace.symm.trans hd')
  cases hfind : b.collection? d.id with
  | none => exact absurd (idAt_of_getElem? hplace) (idAt_ne_of_collection? hfind place)
  | some d' =>
    have hid : d'.id = d.id := by simpa using List.find?_some hfind
    have hmem : d' ∈ b.collections := List.mem_of_find?_eq_some hfind
    rw [List.inj_on_of_nodup_map hb.collections_nodup hmem hd hid]

/-- **The root of a collection** fails for the want of a facet only if that has gone. -/
theorem basedRoot_fails (hb : b.Anchored gone) (place : Nat) :
    FailsIn (Failure.Explained gone) (b.basedRoot place) := by
  unfold basedRoot
  split
  · exact failsIn_ok _
  · next c hc =>
    split
    · next e baseId restricting hsource =>
      split
      · exact failsIn_error (Failure.Ordinary.explained fun _ _ => nofun)
      · next base hbase =>
        split
        · next hrestricting =>
          subst hrestricting
          split
          · next f _ =>
            exact ((f.valuesOf_fails b.store f.candidates).mono fun h => h.ordinary.explained).map _
          · next hlost =>
            refine failsIn_error ?_
            rintro _ _ ⟨⟩
            have hid : base.id = baseId := by simpa using List.find?_some hbase
            rcases hb.kept c (List.mem_of_getElem? hc) e baseId hsource with ⟨d, hd, rfl, hrole⟩ | hgone
            · have hfound := (collection?_of_mem hb.named hd).symm.trans hbase
              obtain rfl := Option.some.inj hfound
              obtain ⟨q, hq⟩ := List.mem_iff_getElem?.mp hd
              obtain ⟨f, hf, -⟩ := facet?_of_role (hb.named.ids_nodup hq) hrole
              exact absurd hf (hlost f)
            · exact hid ▸ hgone
        · exact ((e.eval_fails _ _ _).mono fun h => h.ordinary.explained).map _
    · exact failsIn_ok _

/-! ## 2. Passing on -/

/-- The action leaves anchors alone, and where it says that a facet is lost the facet has gone. -/
def Guards {α : Type} (gone : String → String → Prop) (act : Action Browser α) : Prop :=
  Safe (Failure.Explained gone) (Anchored gone) act

theorem guards_onCollection {α : Type} (place : Nat) (otherwise : α) {act : Action View α}
    (hact : View.Ordinary act) (hlasts : View.Lasts Facet.Becomes act) :
    Guards gone (onCollection place otherwise act) := by
  intro b hb
  refine ⟨?_, hb.retains (lasts_onCollection lasting_becomes place otherwise hlasts b)⟩
  rw [onCollection_apply]
  split
  · exact failsIn_ok _
  · exact (hact _ trivial).1.mono Failure.Ordinary.explained

theorem guards_setRoot (place : Nat) (items : KeySet) :
    Guards gone (onCollection place () (View.setRoot items)) :=
  guards_onCollection place () (View.ordinary_setRoot items) (View.lasts_setRoot lasting_becomes items)

theorem guards_reroot (place : Nat) : Guards gone (reroot place) := by
  refine safe_state_bind fun b hb => (safe_ofOutcome (basedRoot_fails hb place)).bind fun root => ?_
  cases root with
  | some items => exact guards_setRoot place items
  | none =>
    exact guards_onCollection place () View.ordinary_reroot (View.lasts_reroot lasting_becomes)

theorem guards_passInto {onward : Nat → Action Browser Unit} (honward : ∀ place, Guards gone (onward place))
    (base : String) (place : Nat) : Guards gone (passInto base onward place) := by
  refine safe_state_bind fun b hb => ?_
  split
  · exact safe_pure ()
  · split
    · refine (safe_ofOutcome (basedRoot_fails hb place)).bind fun root => ?_
      cases root with
      | none => exact safe_pure ()
      | some items =>
        dsimp only
        split
        · exact safe_pure ()
        · exact (guards_setRoot place items).bind fun _ => honward place
    · exact safe_pure ()

theorem guards_propagateWithin (rounds : Nat) : ∀ place, Guards gone (propagateWithin rounds place) := by
  induction rounds with
  | zero => exact fun _ => safe_pure ()
  | succ rounds ih =>
    intro place
    refine safe_state.bind fun b => ?_
    split
    · exact safe_pure ()
    · exact safe_each (guards_passInto ih _) _

theorem guards_propagate (place : Nat) : Guards gone (propagate place) :=
  safe_state.bind fun _ => guards_propagateWithin _ place

theorem guards_find (id : String) : Guards gone (find id) := by
  refine safe_state.bind fun b => safe_ofOutcome ?_
  unfold placeOf
  split
  · exact failsIn_ok _
  · exact failsIn_error (Failure.Ordinary.explained fun _ _ => nofun)

theorem guards_settleWithin (rounds : Nat) : ∀ place, Guards gone (settleWithin rounds place) := by
  induction rounds with
  | zero => exact fun _ => safe_pure ()
  | succ rounds ih =>
    intro place
    refine safe_state.bind fun b => ?_
    split
    · exact safe_pure ()
    · split
      · refine (guards_find _).bind fun base => ?_
        refine (guards_onCollection base false
          (View.ordinary_changeFacetBy (fun f scene => f.perform_fails scene _) _)
          (View.lasts_changeFacetBy lasting_becomes (fun f scene => f.becomes_perform scene _) _)).bind
            fun _ => ?_
        exact (ih base).bind fun _ => guards_propagate place
      · exact guards_propagate place

theorem guards_settle (place : Nat) : Guards gone (settle place) :=
  safe_state.bind fun _ => guards_settleWithin _ place

theorem guarded_fails {α : Type} {p : Failure → Prop} {act : Action Browser α} (otherwise : α)
    (h : FailsIn p (act b).1) : FailsIn p (guarded otherwise act b).1 := by
  show FailsIn p ((act b).2.settings.errors.settle otherwise (act b).1)
  cases houtcome : (act b).1 with
  | ok x => exact failsIn_ok x
  | error failure =>
    have hfailure := h failure houtcome
    generalize (act b).2.settings.errors = policy
    cases policy with
    | log => exact failsIn_ok _
    | throw => exact failsIn_error hfailure
    | logAndThrow => exact failsIn_error hfailure

theorem guards_guarded {α : Type} {act : Action Browser α} (h : Guards gone act) (otherwise : α) :
    Guards gone (guarded otherwise act) :=
  fun b hb => ⟨guarded_fails otherwise (h b hb).1, (h b hb).2⟩

/-! ## 3. Selections and data -/

theorem guards_changeFacetBy {act : Facet → Scene → Outcome Bool × Facet}
    (hact : ∀ f scene, FailsIn Failure.Ordinary (act f scene).1)
    (huses : ∀ (f : Facet) scene, f.Becomes (act f scene).2) (collection facet : String) :
    Guards gone (changeFacetBy collection facet act) := by
  refine guards_guarded ((guards_find collection).bind fun place => ?_) false
  refine (guards_onCollection place false (View.ordinary_changeFacetBy hact facet)
    (View.lasts_changeFacetBy lasting_becomes huses facet)).bind fun changed => ?_
  cases changed with
  | false => exact safe_pure false
  | true => exact (guards_settle place).bind fun _ => safe_pure true

theorem guards_changeFacet (collection facet : String) (change : Change) :
    Guards gone (changeFacet collection facet change) :=
  guards_changeFacetBy (fun f scene => f.perform_fails scene change)
    (fun f scene => f.becomes_perform scene change) collection facet

theorem guards_input (collection facet text : String) (now : Nat) (enter : Bool) :
    Guards gone (input collection facet text now enter) := by
  refine guards_changeFacetBy (fun f scene => ?_) (fun f scene => ?_) collection facet
  · cases f with
    | textSearch f => exact Facet.perform_fails _ scene _
    | _ => exact failsIn_error fun _ _ => nofun
  · cases f with
    | textSearch f => exact Facet.becomes_perform _ scene _
    | _ => exact .refl

theorem guards_tick (now : Nat) : Guards gone (tick now) := by
  refine safe_state.bind fun b => safe_anyOf (fun place => ?_) _
  refine safe_state.bind fun b => ?_
  split
  · exact safe_pure false
  · exact safe_anyOf (fun f => guards_changeFacet _ f _) _

theorem guards_importState (s : BrowserState) : Guards gone (importState s) := by
  have hrestore (place : Nat) : Guards gone (onCollection place false (restoreFacets s)) :=
    guards_onCollection place false (View.ordinary_restoreFacets s)
      (View.lasts_restoreFacets lasting_becomes
        fun collection f => f.becomes_perform ⟨Store.empty, ∅⟩ (.importState (s.target collection f)))
  refine guards_guarded (safe_state.bind fun b => safe_anyOf (fun place => ?_) _) false
  refine Safe.attempt_bind (hrestore place) (fun changed => ?_) fun failure hfailure => ?_
  · cases changed with
    | false => exact safe_pure false
    | true => exact (guards_settle place).bind fun _ => safe_pure true
  · exact (guards_settle place).bind fun _ => safe_fail hfailure

theorem guards_clearAll : Guards gone clearAll :=
  safe_state.bind fun _ => (guards_importState ∅).bind fun _ => safe_pure _

theorem guards_refreshIfDirty : Guards gone refreshIfDirty := by
  have hclean : Guards gone (change fun b => { b with dirty := false }) :=
    fun b hb => ⟨failsIn_ok _, hb.retains (same_collections lasting_becomes b.collections)⟩
  refine safe_state.bind fun b => hclean.bind fun _ => ?_
  split
  · exact guards_guarded (safe_state.bind fun _ => safe_each guards_reroot _) ()
  · exact safe_pure ()

theorem guards_load (payload : Json) (base : Option String) : Guards gone (load payload base) := by
  have hload (base : String) : Guards gone (loadStore payload base) := by
    intro b hb
    unfold loadStore
    split
    · next failure hfailure =>
      refine ⟨failsIn_error (Failure.Ordinary.explained ?_), hb⟩
      unfold Store.load at hfailure
      split at hfailure
      · cases hfailure
      · cases hfailure
        exact fun _ _ => nofun
    · exact ⟨failsIn_ok _, hb.retains (same_collections lasting_becomes b.collections)⟩
  exact safe_state.bind fun b => (guards_guarded (hload _) ()).bind fun _ => guards_refreshIfDirty

theorem guards_updateStore {α : Type} (act : Store → α × Store) : Guards gone (updateStore act) := by
  have hchange (store : Store) : Guards gone (change fun b => { b with store, dirty := true }) :=
    fun b hb => ⟨failsIn_ok _, hb.retains (same_collections lasting_becomes b.collections)⟩
  exact safe_state.bind fun b => (hchange _).bind fun _ => guards_refreshIfDirty.bind fun _ => safe_pure _

/-! ## 4. Facets and collections come and go -/

theorem guards_addFacet (collection : String) (config : FacetConfig) :
    Guards gone (addFacet collection config) := by
  have hadd (place : Nat) (f : Facet) : Guards gone (onCollection place () (View.addFacet f)) := by
    intro b hb
    rw [onCollection_apply]
    split
    · exact ⟨failsIn_ok _, hb⟩
    · next c hc =>
      refine ⟨(View.ordinary_addFacet f _ trivial).1.mono Failure.Ordinary.explained, ?_⟩
      rcases View.lasts_addFacet lasting_becomes f ⟨b.store, c⟩ with hsame | ⟨hnew, hadded⟩
      · exact hb.retains (forall₂_set (same_collection lasting_becomes) hc hsame)
      · refine (anchored_pushFacet hb hc hnew).retains ?_
        exact retains_set hc hadded (same_collections lasting_becomes _)
  refine guards_guarded ((guards_find collection).bind fun place => safe_state.bind fun b => ?_) ""
  refine (safe_ofOutcome ((config.build_fails _ _).mono Failure.Ordinary.explained)).bind fun f => ?_
  refine (hadd place f).bind fun _ => ?_
  dsimp only
  split
  · exact (guards_settle place).bind fun _ => safe_pure _
  · exact safe_pure _

theorem mem_roles_dropFacet {c : Collection} {id : String} {r : String × Option Expression}
    (hr : r ∈ c.facets.map Facet.role) (hid : r.1 ≠ id) :
    r ∈ (c.dropFacet id).facets.map Facet.role := by
  obtain ⟨f, hf, rfl⟩ := List.mem_map.mp hr
  refine List.mem_map_of_mem ((List.mem_eraseP_of_neg ?_).mpr hf)
  rw [role_fst] at hid
  simpa using hid

/-- What goes with a facet is what its removal has been asked for. -/
theorem guards_dropFacet {collection facet : String} (hb : b.Anchored gone)
    (hgone : ∀ c ∈ b.collections, ∀ e, c.source = .based e collection true → derivedId c.id = facet →
      gone c.id collection) {place : Nat} (hplace : b.placeOf collection = .ok place) :
    FailsIn (Failure.Explained gone) (onCollection place none (View.removeFacet facet) b).1 ∧
      (onCollection place none (View.removeFacet facet) b).2.Anchored gone := by
  obtain ⟨-, c, hc, rfl⟩ := placeOf_ok hplace
  rw [onCollection_apply, hc]
  refine ⟨(View.ordinary_removeFacet facet _ trivial).1.mono Failure.Ordinary.explained, ?_⟩
  have hremoved := View.lasts_removeFacet lasting_becomes facet ⟨b.store, c⟩
  have hids : ((c.dropFacet facet).facets.map Facet.id).Nodup :=
    (List.eraseP_sublist.map Facet.id).nodup (hb.named.ids_nodup hc)
  have hdropped : Anchored gone
      { b with collections := b.collections.set place (c.dropFacet facet) } := by
    refine anchored_set hb hc rfl rfl hids fun c' hc' e hsource hrole => ?_
    by_cases hfacet : derivedId c'.id = facet
    · exact .inr (hgone c' hc' e hsource hfacet)
    · exact .inl (mem_roles_dropFacet hrole hfacet)
  exact hdropped.retains (retains_set hc hremoved (same_collections lasting_becomes _))

/-- **A removal** is all that takes facets away. -/
theorem guards_removeFacet {collection facet : String} (hb : b.Anchored gone)
    (hgone : ∀ c ∈ b.collections, ∀ e, c.source = .based e collection true → derivedId c.id = facet →
      gone c.id collection) :
    FailsIn (Failure.Explained gone) (removeFacet collection facet b).1 ∧
      (removeFacet collection facet b).2.Anchored gone := by
  suffices h : FailsIn (Failure.Explained gone) (detachFacet collection facet b).1 ∧
      (detachFacet collection facet b).2.Anchored gone from ⟨guarded_fails false h.1, h.2⟩
  have hfind := guards_find collection b hb
  unfold detachFacet
  rw [find_apply] at hfind
  rw [bind_apply, find_apply]
  cases hplace : b.placeOf collection with
  | error failure =>
    rw [hplace] at hfind
    exact ⟨failsIn_error (hfind.1 failure rfl), hfind.2⟩
  | ok place =>
    dsimp only
    refine safe_bind_at (guards_dropFacet hb hgone hplace) fun removed => ?_
    cases removed with
    | none => exact safe_pure false
    | some f =>
      dsimp only
      split
      · exact (guards_settle place).bind fun _ => safe_pure true
      · exact safe_pure true

/-- A new collection may have no root items yet; if it is to narrow its base it has its facet there. -/
theorem anchored_halfMade {id : String} {source : ItemSource} (hb : b.Anchored gone)
    (hnew : b.collection? id = none) (hadmits : b.Admits id source) :
    (b.halfMade id source).Anchored gone := by
  have hfirst : Anchored gone { b with collections := b.withNewDerived id source } ∧
      ∀ e base, source = .based e base true →
        HasFacetOf { b with collections := b.withNewDerived id source } (.new id source) e base := by
    rcases hadmits.withNewDerived_cases with ⟨hother, hsame⟩ | ⟨e, place, c, rfl, hc, hhas, hset⟩
    · rw [hsame]
      exact ⟨hb, fun e base hsource => absurd hsource (hother e base)⟩
    · rw [hset]
      refine ⟨anchored_pushFacet hb hc hhas, ?_⟩
      rintro e' base ⟨⟩
      have hlt := (List.getElem?_eq_some_iff.mp hc).1
      refine ⟨c.pushFacet (newDerived id e c), List.mem_set hlt _, rfl, ?_⟩
      exact List.mem_map_of_mem (List.mem_append_right _ (List.mem_singleton_self _))
  refine ⟨named_halfMade hb.named hnew hadmits, fun c hc e base hsource => ?_⟩
  have hmore {c : Collection} (h : HasFacetOf { b with collections := b.withNewDerived id source } c e
      base) : (b.halfMade id source).HasFacetOf c e base := by
    obtain ⟨d, hd, hrest⟩ := h
    exact ⟨d, List.mem_append_left _ hd, hrest⟩
  rcases List.mem_append.mp hc with hc | hc
  · exact (hfirst.1.kept c hc e base hsource).imp_left hmore
  · rw [List.mem_singleton.mp hc] at hsource ⊢
    exact .inl (hmore (hfirst.2 e base hsource))

theorem ordinary_of_refusal {config : CollectionConfig} {failure : Failure}
    (h : b.refusal config = some failure) : failure.Ordinary := by
  unfold refusal sourceRefusal at h
  split at h
  · cases h
    exact fun _ _ => nofun
  · split at h
    · next text _ _ =>
      split at h
      · next failure' hparse =>
        cases h
        unfold Expression.parse at hparse
        split at hparse
        · cases hparse
        · cases hparse
          exact fun _ _ => nofun
      · next failure' hplace =>
        cases h
        unfold placeOf at hplace
        split at hplace
        · cases hplace
        · cases hplace
          exact fun _ _ => nofun
      · split at h
        · cases h
        · split at h
          · cases h
            exact fun _ _ => nofun
          · cases h
    · cases h
      exact fun _ _ => nofun
    · cases h

theorem guards_createCollection (config : CollectionConfig) : Guards gone (createCollection config) := by
  refine guards_guarded (fun b hb => ?_) ""
  have hcreation := creation_buildCollection config b
  generalize buildCollection config b = answer at hcreation
  cases hcreation with
  | refused hrefusal =>
    exact ⟨failsIn_error (ordinary_of_refusal hrefusal).explained, hb⟩
  | halfMade hrefusal hadmits hroot =>
    have hhalf := anchored_halfMade hb (new_of_refusal hrefusal) hadmits
    exact ⟨failsIn_error (basedRoot_fails hhalf _ _ hroot), hhalf⟩
  | made hrefusal hadmits hroot =>
    have hhalf := anchored_halfMade hb (new_of_refusal hrefusal) hadmits
    exact ⟨failsIn_ok _, hhalf.retains ((lasts_reroot lasting_becomes _).ok hroot)⟩

end Browser

/-! ## 5. Steps -/

namespace BrowserStep

open Browser

/-- What is done to a facet is made of uses of it, and does not say that a collection has lost its
    facet. -/
def IsCandid : BrowserStep → Prop
  | operation _ => True
  | withFacet _ _ act => View.MadeOfUses act ∧ ∀ f scene, FailsIn Failure.Ordinary (act f scene).1

theorem IsCandid.goesByUses {step : BrowserStep} (h : step.IsCandid) : step.GoesByUses := by
  cases step with
  | operation op => trivial
  | withFacet collection facet act => exact h.1

section Steps

variable {gone : String → String → Prop} {b : Browser}

/-- **Every step** but a removal leaves all anchors alone. -/
theorem guards_perform {step : BrowserStep} (hstep : step.IsCandid) (hb : b.Anchored gone)
    (hgone : ∀ collection facet, step = .operation (.removeFacet collection facet) →
      ∀ c ∈ b.collections, ∀ e, c.source = .based e collection true → derivedId c.id = facet →
        gone c.id collection) :
    FailsIn (Failure.Explained gone) (step.perform b).1 ∧ (step.after b).Anchored gone := by
  have hdone {α : Type} {act : Action Browser α} (h : Guards gone act) :
      Guards gone (act >>= fun _ => pure ()) := h.bind fun _ => safe_pure ()
  cases step with
  | withFacet collection facet act =>
    exact hdone (guards_changeFacetBy hstep.2
      (fun f scene => becomes_of_usedTo (hstep.1 f scene)) collection facet) b hb
  | operation op =>
    cases op with
    | load payload base => exact guards_load payload base b hb
    | update ops => exact guards_updateStore _ b hb
    | createCollection config => exact hdone (guards_createCollection config) b hb
    | addFacet collection config => exact hdone (guards_addFacet collection config) b hb
    | removeFacet collection facet =>
      exact safe_bind_at (guards_removeFacet hb (hgone collection facet rfl)) fun _ => safe_pure ()
    | changeFacet collection facet change => exact hdone (guards_changeFacet _ _ change) b hb
    | input collection facet text now enter => exact hdone (guards_input _ _ text now enter) b hb
    | tick now => exact hdone (guards_tick now) b hb
    | importState s => exact hdone (guards_importState s) b hb
    | clearAll => exact hdone guards_clearAll b hb

end Steps

/-- Among the steps is the removal of the facet through which the collection narrows its base, at a
    moment when the collection was there. -/
def Detaches (first : Browser) (steps : List BrowserStep) (collection base : String) : Prop :=
  ∃ front, front ++ [.operation (.removeFacet base (derivedId collection))] <+: steps ∧
    (afterAll front first).Narrows collection base

theorem Detaches.append {first : Browser} {steps : List BrowserStep} {collection base : String}
    (h : Detaches first steps collection base) (more : List BrowserStep) :
    Detaches first (steps ++ more) collection base := by
  obtain ⟨front, hfront, hmoment⟩ := h
  exact ⟨front, hfront.trans (List.prefix_append steps more), hmoment⟩

/-- The step after others, where they have left what is anchored. -/
theorem guards_last {first : Browser} {steps : List BrowserStep} {step : BrowserStep}
    (hstep : step.IsCandid) (hb : (afterAll steps first).Anchored (Detaches first steps)) :
    FailsIn (Failure.Explained (Detaches first (steps ++ [step])))
        (step.perform (afterAll steps first)).1 ∧
      (step.after (afterAll steps first)).Anchored (Detaches first (steps ++ [step])) := by
  refine guards_perform hstep (hb.mono fun h => h.append [step]) ?_
  rintro collection facet rfl c hc e hsource rfl
  exact ⟨steps, List.prefix_rfl, c, hc, rfl, e, hsource⟩

/-- **Every run** leaves the facets where they are that it does not remove. -/
theorem anchored_afterAll {first : Browser} (hfirst : first.Anchored (Detaches first []))
    {steps : List BrowserStep} (hsteps : ∀ step ∈ steps, step.IsCandid) :
    (afterAll steps first).Anchored (Detaches first steps) := by
  induction steps using List.reverseRecOn with
  | nil => exact hfirst
  | append_singleton rest step ih =>
    have hrest := ih fun step hstep => hsteps step (List.mem_append_left _ hstep)
    have hstep := hsteps step (List.mem_append_right rest (List.mem_singleton_self _))
    unfold afterAll
    rw [List.foldl_append]
    exact (guards_last hstep hrest).2

end BrowserStep

end Faceted
