import Faceted.Proofs.Browser.Changes
import Faceted.Proofs.Store.Run

/-!
# Runs of a browser

Everything that can be done to a browser, as data (`BrowserOperation`), and what runs of it keep.
Loading refreshes the collections only if the payload has items. A payload that declares properties
and brings no items changes what the store answers behind the back of the collections, so they are in
tune only with what the store answered before.

* `refreshAll_ok`: a refresh of all collections, in their order, brings the browser in tune;
* `obeys_perform` and `perform_data_ok`: one operation;
* `InStep`: since the last refresh no operation has changed what the store answers;
* **`inTune_of_run`**: then the browser is in tune.
-/

namespace Faceted

open Faceted.Action

/-- Stores that answer alike list the same statements. -/
theorem Store.Recorded.alike {s t : Store} (h : s.Recorded) (hst : s.Alike t) : t.Recorded := by
  obtain ⟨l, hl⟩ := h
  exact ⟨l, hl.congr hst.content.forward.symm hst.content.backward.symm⟩

namespace Browser

variable {b b' : Browser}

/-! ## 1. Refreshing all collections -/

/-- The browser half way through a refresh: the collections before the place are done. -/
structure HalfRefreshed (b : Browser) (place : Nat) (s : Browser) : Prop where
  strict : s.settings.errors ≠ .log
  advance : b.Advance s
  roots : ∀ q < place, s.RootHolds q
  inLine : ∀ q < place, ∀ c, s.collections[q]? = some c → View.InLine ⟨s.store, c⟩

theorem HalfRefreshed.step {place : Nat} {s t : Browser} (hb : b.Orderly)
    (hs : HalfRefreshed b place s) (hplace : place < b.collections.length)
    (h : reroot place s = (.ok (), t)) : HalfRefreshed b (place + 1) t := by
  have hordered : s.Ordered := hs.advance.ordered hb.ordered
  have hc : s.collections[place]? = some (s.collections.get ⟨place, hs.advance.length ▸ hplace⟩) :=
    List.getElem?_eq_getElem _
  obtain ⟨w, rfl, hline, hself, hothers⟩ := reroot_ok hc hordered h
  have hobeys := (obeys_reroot place).ok h
  have hst := hobeys.2 rfl hs.strict
  refine ⟨by rw [hobeys.1]; exact hs.strict, hs.advance.trans hst, fun q hq => ?_,
    fun q hq c hqc => ?_⟩
  · by_cases hqplace : q = place
    · exact hqplace ▸ hself
    · refine hothers hqplace (fun hon => ?_) (hs.roots q (by omega))
      have hlt := hon.lt hordered
      omega
  · by_cases hqplace : q = place
    · subst hqplace
      rw [putView, List.getElem?_set_self (hs.advance.length ▸ hplace)] at hqc
      cases hqc
      exact hline (hs.advance.calm hb.calm _ (List.mem_of_getElem? hc))
    · rw [putView, List.getElem?_set_ne (Ne.symm hqplace)] at hqc
      exact inLine_of_alike hst.store (hs.inLine q (by omega) c hqc)

/-- **A refresh of all collections brings the browser in tune**, whatever the store is. A collection
    comes after its base, so its root is worked out from items that are up to date. -/
theorem refreshAll_ok (h : refreshAll b = (.ok (), b')) (hstrict : b.settings.errors ≠ .log)
    (hb : b.Orderly) : b'.InTune := by
  have hdone : HalfRefreshed b b.collections.length b' := by
    have heach : each reroot b.places b = (.ok (), b') := h
    exact each_range_ok (fun hlt hs hx => hs.step hb hlt hx) heach
      ⟨hstrict, Advance.refl b, fun q hq => absurd hq (Nat.not_lt_zero q),
        fun q hq => absurd hq (Nat.not_lt_zero q)⟩
  constructor
  · intro c hc
    obtain ⟨q, hq⟩ := List.mem_iff_getElem?.mp hc
    have hlt := (List.getElem?_eq_some_iff.mp hq).1
    exact hdone.inLine q (hdone.advance.length ▸ hlt) c hq
  · intro q
    by_cases hq : q < b.collections.length
    · exact hdone.roots q hq
    · intro c hc
      have hlt := (List.getElem?_eq_some_iff.mp hc).1
      rw [← hdone.advance.length] at hlt
      exact absurd hlt hq

/-! ## 2. Data -/

/-- The browser with other data, of which the collections know nothing. -/
def withStore (b : Browser) (store : Store) : Browser := { b with store, dirty := false }

theorem orderly_withStore (h : b.Orderly) (store : Store) : (b.withStore store).Orderly :=
  h.same_collections rfl

/-- Data that answer alike change nothing. -/
theorem inTune_withStore {store : Store} (hstore : b.store.Alike store) (h : b.InTune) :
    (b.withStore store).InTune where
  inLine c hc := inLine_of_alike hstore (h.inLine c hc)
  roots place c hc hplain := by
    rw [← h.roots place c hc hplain]
    exact rootOf_congr hstore rfl fun _ _ => rfl

theorem obeys_refreshAll : Obeys (Strictly Advance) refreshAll :=
  frame_advance.bind frame_advance.state fun _ => frame_advance.each obeys_reroot _

theorem steady_refreshAll : Steady refreshAll := steady_of_obeys obeys_refreshAll

theorem steady_refreshIfDirty : Steady refreshIfDirty := by
  refine frame_steady.bind frame_steady.state fun b => ?_
  refine frame_steady.bind (fun _ => ⟨rfl, fun _ _ => trivial⟩) fun _ => ?_
  split
  · exact obeys_guarded steady_refreshAll ()
  · exact frame_steady.pure ()

theorem refreshIfDirty_ok (h : refreshIfDirty b = (.ok (), b'))
    (hstrict : b.settings.errors ≠ .log) :
    refreshAll (b.withStore b.store) = (.ok (), b') ∨
      b.dirty = false ∧ b' = b.withStore b.store := by
  obtain ⟨_, _, hstate, hread⟩ := bind_ok h
  cases hstate
  obtain ⟨_, _, hchange, hchanged⟩ := bind_ok hread
  cases hchange
  split at hchanged
  · exact .inl (guarded_ok steady_refreshAll hstrict hchanged)
  · next hdirty =>
    cases hchanged
    exact .inr ⟨Bool.eq_false_iff.mpr hdirty, rfl⟩

theorem steady_loadStore (payload : Json) (base : String) : Steady (loadStore payload base) := by
  intro b
  unfold loadStore
  split <;> exact ⟨rfl, fun _ _ => trivial⟩

theorem steady_load (payload : Json) (base : Option String) : Steady (load payload base) :=
  frame_steady.bind frame_steady.state fun _ =>
    frame_steady.bind (obeys_guarded (steady_loadStore payload _) ()) fun _ => steady_refreshIfDirty

/-- Does the payload have items to load? -/
def hasItems (payload : Json) : Bool := ((payload.get? "items").bind Json.elements?).isSome

/-- A payload that brings items can be loaded. -/
theorem exists_load {payload : Json} (hitems : hasItems payload = true) (s : Store) (base : String) :
    ∃ store events, s.load payload base = .ok (store, events) := by
  cases payload with
  | object fields => exact ⟨_, _, rfl⟩
  | _ => cases hitems

theorem isStaleAfter_append_left {events more : List StoreEvent}
    (h : isStaleAfter more = true) : isStaleAfter (events ++ more) = true := by
  unfold isStaleAfter at h ⊢
  simp only [List.contains_append, Bool.or_eq_true] at h ⊢
  rcases h with h | h
  · exact .inl (.inr h)
  · exact .inr (.inr h)

/-- Items that are loaded leave the collections out of date. -/
theorem isStaleAfter_load {s t : Store} {payload : Json} {base : String} {events : List StoreEvent}
    (hitems : hasItems payload = true) (h : s.load payload base = .ok (t, events)) :
    isStaleAfter events = true := by
  unfold Store.load at h
  split at h
  · obtain ⟨items, hgiven⟩ := Option.isSome_iff_exists.mp hitems
    have hevents : _ = events := congrArg Prod.snd (Except.ok.inj h)
    rw [hgiven] at hevents
    rw [← hevents]
    exact isStaleAfter_append_left rfl
  · cases h

theorem load_ok {payload : Json} {base : Option String} (h : load payload base b = (.ok (), b'))
    (hstrict : b.settings.errors ≠ .log) :
    ∃ store events, b.store.load payload (base.getD b.settings.baseUri) = .ok (store, events) ∧
      (refreshAll (b.withStore store) = (.ok (), b') ∨
        hasItems payload = false ∧ b' = b.withStore store) := by
  obtain ⟨_, _, hstate, hread⟩ := bind_ok h
  cases hstate
  obtain ⟨_, u, hguarded, hrefresh⟩ := bind_ok hread
  have hload := guarded_ok (steady_loadStore payload _) hstrict hguarded
  unfold loadStore at hload
  cases hloaded : b.store.load payload (base.getD b.settings.baseUri) with
  | error failure =>
    rw [hloaded] at hload
    cases hload
  | ok result =>
    obtain ⟨store, events⟩ := result
    rw [hloaded] at hload
    cases hload
    refine ⟨store, events, rfl, ?_⟩
    rcases refreshIfDirty_ok hrefresh hstrict with hall | ⟨hclean, rfl⟩
    · exact .inl hall
    · refine .inr ⟨Bool.eq_false_iff.mpr fun hitems => ?_, rfl⟩
      have hstale := isStaleAfter_load hitems hloaded
      rw [hstale, Bool.or_true] at hclean
      cases hclean

theorem steady_updateStore {α : Type} (act : Store → α × Store) : Steady (updateStore act) :=
  frame_steady.bind frame_steady.state fun _ =>
    frame_steady.bind (fun _ => ⟨rfl, fun _ _ => trivial⟩) fun _ =>
      frame_steady.bind steady_refreshIfDirty fun _ => frame_steady.pure _

theorem updateStore_ok {α : Type} {act : Store → α × Store} {x : α}
    (h : updateStore act b = (.ok x, b')) (hstrict : b.settings.errors ≠ .log) :
    refreshAll (b.withStore (act b.store).2) = (.ok (), b') := by
  obtain ⟨_, _, hstate, hread⟩ := bind_ok h
  cases hstate
  obtain ⟨_, _, hchange, hchanged⟩ := bind_ok hread
  cases hchange
  obtain ⟨_, _, hrefresh, hpure⟩ := bind_ok hchanged
  cases hpure
  rcases refreshIfDirty_ok hrefresh hstrict with hall | ⟨hclean, -⟩
  · exact hall
  · cases hclean

end Browser

/-! ## 3. Operations -/

/-- What can be done to a browser. An update does any operations to the store. -/
inductive BrowserOperation where
  | load (payload : Json) (base : Option String)
  | update (ops : List StoreOperation)
  | createCollection (config : CollectionConfig)
  | addFacet (collection : String) (config : FacetConfig)
  | removeFacet (collection facet : String)
  | changeFacet (collection facet : String) (change : Change)
  | input (collection facet text : String) (now : Nat) (enter : Bool)
  | tick (now : Nat)
  | importState (state : BrowserState)
  | clearAll

namespace BrowserOperation

/-- The store after operations on it. -/
def updated (ops : List StoreOperation) (s : Store) : Store :=
  ops.foldl (fun s op => (op.perform s).2) s

/-- Does the operation and leaves out what it answers. -/
def perform : BrowserOperation → Action Browser Unit
  | load payload base => Browser.load payload base
  | update ops => Browser.updateStore fun s => ((), updated ops s)
  | createCollection config => Browser.createCollection config >>= fun _ => pure ()
  | addFacet collection config => Browser.addFacet collection config >>= fun _ => pure ()
  | removeFacet collection facet => Browser.removeFacet collection facet >>= fun _ => pure ()
  | changeFacet collection facet change =>
    Browser.changeFacet collection facet change >>= fun _ => pure ()
  | input collection facet text now enter =>
    Browser.input collection facet text now enter >>= fun _ => pure ()
  | tick now => Browser.tick now >>= fun _ => pure ()
  | importState state => Browser.importState state >>= fun _ => pure ()
  | clearAll => Browser.clearAll >>= fun _ => pure ()

/-- Is the operation about the data? -/
def isAboutData : BrowserOperation → Bool
  | load _ _ | update _ => true
  | _ => false

/-- Does the operation refresh all collections? -/
def refreshes : BrowserOperation → Bool
  | load payload _ => Browser.hasItems payload
  | update _ => true
  | _ => false

open Browser

theorem obeys_perform {op : BrowserOperation} (h : op.isAboutData = false) :
    Obeys (Strictly Grows) op.perform := by
  have hdone {α : Type} {act : Action Browser α} (hact : Obeys (Strictly Grows) act) :
      Obeys (Strictly Grows) (act >>= fun _ => pure ()) :=
    frame_grows.bind hact fun _ => frame_grows.pure ()
  cases op with
  | load payload base => cases h
  | update ops => cases h
  | createCollection config => exact hdone (obeys_createCollection config)
  | addFacet collection config => exact hdone (obeys_addFacet collection config)
  | removeFacet collection facet => exact hdone (obeys_removeFacet collection facet)
  | changeFacet collection facet change =>
    exact hdone (obeys_changeFacetBy collection facet (sound_perform change))
  | input collection facet text now enter =>
    exact hdone (obeys_changeFacetBy collection facet (sound_typeInto text now enter))
  | tick now => exact hdone (obeys_tick now)
  | importState state => exact hdone (obeys_importState state)
  | clearAll => exact hdone obeys_clearAll

theorem steady_perform (op : BrowserOperation) : Steady op.perform := by
  cases hop : op.isAboutData with
  | false => exact steady_of_obeys (obeys_perform hop)
  | true =>
    cases op with
    | load payload base => exact steady_load payload base
    | update ops => exact steady_updateStore _
    | _ => cases hop

theorem recorded_updated (ops : List StoreOperation) {s : Store} (h : s.Recorded) :
    (updated ops s).Recorded := by
  induction ops generalizing s with
  | nil => exact h
  | cons op ops ih => exact ih (h.perform op)

/-- **An operation about the data** changes the store, and refreshes the collections unless it is a
    load without items. -/
theorem perform_data_ok {op : BrowserOperation} (hop : op.isAboutData = true) {b b' : Browser}
    (h : op.perform b = (.ok (), b')) (hstrict : b.settings.errors ≠ .log) :
    ∃ store, (b.store.Recorded → store.Recorded) ∧
      (refreshAll (b.withStore store) = (.ok (), b') ∨
        op.refreshes = false ∧ b' = b.withStore store) := by
  cases op with
  | load payload base =>
    obtain ⟨store, events, hload, hafter⟩ := load_ok h hstrict
    exact ⟨store, fun hb => hb.load hload, hafter⟩
  | update ops =>
    have hupdate : updateStore (fun s => ((), updated ops s)) b = (.ok (), b') := h
    exact ⟨updated ops b.store, recorded_updated ops, .inl (updateStore_ok hupdate hstrict)⟩
  | _ => cases hop

/-- No operation loses the ledger. -/
theorem recorded_of_perform {op : BrowserOperation} {b b' : Browser}
    (h : op.perform b = (.ok (), b')) (hstrict : b.settings.errors ≠ .log)
    (hb : b.store.Recorded) : b'.store.Recorded := by
  cases hop : op.isAboutData with
  | false => exact hb.alike (((obeys_perform hop).ok h).2 rfl hstrict).store
  | true =>
    obtain ⟨store, hstore, hall | ⟨-, rfl⟩⟩ := perform_data_ok hop h hstrict
    · exact (hstore hb).alike ((obeys_refreshAll.ok hall).2 rfl hstrict).store
    · exact hstore hb

section Steps

variable {op : BrowserOperation} {b b' : Browser} (h : op.perform b = (.ok (), b'))
  (hstrict : b.settings.errors ≠ .log) (hb : b.Orderly)
include h hstrict hb

theorem orderly_of_perform : b'.Orderly := by
  cases hop : op.isAboutData with
  | false => exact (((obeys_perform hop).ok h).2 rfl hstrict).orderly hb
  | true =>
    obtain ⟨store, -, hall | ⟨-, rfl⟩⟩ := perform_data_ok hop h hstrict
    · exact ((obeys_refreshAll.ok hall).2 rfl hstrict).orderly (orderly_withStore hb store)
    · exact orderly_withStore hb store

/-- An operation that refreshes brings the browser in tune. -/
theorem inTune_of_refreshes (hop : op.refreshes = true) : b'.InTune := by
  have hdata : op.isAboutData = true := by
    cases op with
    | load _ _ => rfl
    | update _ => rfl
    | _ => cases hop
  obtain ⟨store, -, hall | ⟨hnot, -⟩⟩ := perform_data_ok hdata h hstrict
  · exact refreshAll_ok hall hstrict (orderly_withStore hb store)
  · rw [hop] at hnot
    cases hnot

/-- An operation after which the store answers as before leaves a browser in tune. -/
theorem inTune_of_alike (hstore : b.store.Alike b'.store) (hin : b.InTune) : b'.InTune := by
  cases hop : op.isAboutData with
  | false => exact (((obeys_perform hop).ok h).2 rfl hstrict).inTune hb hin
  | true =>
    obtain ⟨store, -, hall | ⟨-, rfl⟩⟩ := perform_data_ok hop h hstrict
    · exact refreshAll_ok hall hstrict (orderly_withStore hb store)
    · exact inTune_withStore hstore hin

end Steps

end BrowserOperation

/-! ## 4. Runs -/

namespace Browser

/-- A new browser at a moment that counts as the present. -/
def start (settings : Settings) (present : Int) : Browser :=
  { new settings with store := { Store.empty with present } }

def run (ops : List BrowserOperation) : Action Browser Unit := each BrowserOperation.perform ops

theorem run_concat_ok {ops : List BrowserOperation} {op : BrowserOperation} {b b' : Browser}
    (h : run (ops ++ [op]) b = (.ok (), b')) :
    ∃ u, run ops b = (.ok (), u) ∧ op.perform u = (.ok (), b') := by
  induction ops generalizing b with
  | nil =>
    obtain ⟨_, u, hop, hpure⟩ := bind_ok h
    cases hpure
    exact ⟨b, rfl, hop⟩
  | cons first rest ih =>
    obtain ⟨_, u, hfirst, hrest⟩ := bind_ok h
    obtain ⟨v, hv, hop⟩ := ih hrest
    exact ⟨v, (bind_of_ok hfirst).trans hv, hop⟩

theorem strict_of_run {ops : List BrowserOperation} {b b' : Browser}
    (h : run ops b = (.ok (), b')) (hstrict : b.settings.errors ≠ .log) :
    b'.settings.errors ≠ .log := by
  rw [((frame_steady.each BrowserOperation.steady_perform ops).ok h).1]
  exact hstrict

theorem orderly_of_run {ops : List BrowserOperation} {b b' : Browser}
    (h : run ops b = (.ok (), b')) (hstrict : b.settings.errors ≠ .log) (hb : b.Orderly) :
    b'.Orderly :=
  (each_ok (I := fun _ s => s.settings.errors ≠ .log ∧ s.Orderly)
    (fun {op _ _ _} ⟨hstrict, hs⟩ hop =>
      ⟨by rw [(op.steady_perform.ok hop).1]; exact hstrict, op.orderly_of_perform hop hstrict hs⟩)
    h ⟨hstrict, hb⟩).2

theorem recorded_of_run {ops : List BrowserOperation} {b b' : Browser}
    (h : run ops b = (.ok (), b')) (hstrict : b.settings.errors ≠ .log) (hb : b.store.Recorded) :
    b'.store.Recorded :=
  (each_ok (I := fun _ s => s.settings.errors ≠ .log ∧ s.store.Recorded)
    (fun {op _ _ _} ⟨hstrict, hs⟩ hop =>
      ⟨by rw [(op.steady_perform.ok hop).1]; exact hstrict, op.recorded_of_perform hop hstrict hs⟩)
    h ⟨hstrict, hb⟩).2

/-- Since the start of the run, or since the last operation of it that refreshes, no operation has
    changed what the store answers. -/
inductive InStep (b : Browser) : List BrowserOperation → Prop where
  | start : InStep b []
  | refreshed (ops : List BrowserOperation) {op : BrowserOperation} (h : op.refreshes = true) :
    InStep b (ops ++ [op])
  | kept {ops : List BrowserOperation} {op : BrowserOperation} (h : InStep b ops)
    (hstore : (run ops b).2.store.Alike (run (ops ++ [op]) b).2.store) : InStep b (ops ++ [op])

/-- **The browser is in tune as long as it is in step with the store.** -/
theorem inTune_of_run {ops : List BrowserOperation} {b b' : Browser}
    (h : run ops b = (.ok (), b')) (hstrict : b.settings.errors ≠ .log) (hb : b.Orderly)
    (hin : b.InTune) (hstep : InStep b ops) : b'.InTune := by
  induction hstep generalizing b' with
  | start =>
    cases h
    exact hin
  | refreshed ops hop =>
    obtain ⟨u, hu, hperform⟩ := run_concat_ok h
    exact BrowserOperation.inTune_of_refreshes hperform (strict_of_run hu hstrict)
      (orderly_of_run hu hstrict hb) hop
  | kept _ hstore ih =>
    obtain ⟨u, hu, hperform⟩ := run_concat_ok h
    rw [h, hu] at hstore
    exact BrowserOperation.inTune_of_alike hperform (strict_of_run hu hstrict)
      (orderly_of_run hu hstrict hb) hstore (ih hu)

/-- Nothing has happened to the browser but data: its only collection has all items and no facets. -/
structure Untouched (b : Browser) : Prop where
  only : ∃ told, b.collections =
    [{ Collection.new defaultId .allItems with items := b.store.items, restricted := b.store.items, told }]

theorem untouched_start (settings : Settings) (present : Int) : (start settings present).Untouched :=
  ⟨[], rfl⟩

theorem Untouched.mem {b : Browser} (hb : b.Untouched) {c : Collection} (hc : c ∈ b.collections) :
    c.source = .allItems ∧ c.items = b.store.items ∧ c.restricted = b.store.items ∧
      c.facets = [] ∧ c.updating = false := by
  obtain ⟨told, honly⟩ := hb.only
  rw [honly] at hc
  rw [List.mem_singleton.mp hc]
  exact ⟨rfl, rfl, rfl, rfl, rfl⟩

theorem Untouched.orderly {b : Browser} (hb : b.Untouched) : b.Orderly where
  ordered :=
    { distinct := fun {p q _} hp hq => by
        obtain ⟨told, honly⟩ := hb.only
        unfold idAt at hp hq
        rw [honly] at hp hq
        cases p with
        | zero =>
          cases q with
          | zero => rfl
          | succ q => cases hq
        | succ p => cases hp
      before := fun {place _} h => by
        obtain ⟨c, hc, hbase⟩ := Option.bind_eq_some_iff.mp h
        unfold Collection.base? at hbase
        rw [(hb.mem (List.mem_of_getElem? hc)).1] at hbase
        cases hbase }
  calm c hc := (hb.mem hc).2.2.2.2
  attached c hc := by
    obtain ⟨-, -, -, hfacets, -⟩ := hb.mem hc
    refine ⟨?_, fun r hr => ?_⟩
    · rw [hfacets]
      exact List.nodup_nil
    · rw [hfacets] at hr
      cases hr

theorem Untouched.inTune {b : Browser} (hb : b.Untouched) : b.InTune where
  inLine c hc := by
    obtain ⟨-, hitems, hrestricted, hfacets, hupdating⟩ := hb.mem hc
    refine ⟨fun f hf => ?_, ?_, hupdating⟩
    · rw [show (View.mk b.store c).collection.facets = [] from hfacets] at hf
      cases hf
    · show Scene.throughEach _ c.facets c.items = .ok c.restricted
      rw [hfacets, hitems, hrestricted]
      rfl
  roots place c hc _ := by
    obtain ⟨hsource, hitems, -⟩ := hb.mem (List.mem_of_getElem? hc)
    unfold rootOf
    rw [hsource, hitems]

theorem orderly_start (settings : Settings) (present : Int) : (start settings present).Orderly :=
  (untouched_start settings present).orderly

theorem recorded_start (settings : Settings) (present : Int) :
    (start settings present).store.Recorded := ⟨[], Store.Refines.empty.congr rfl rfl⟩

theorem inTune_start (settings : Settings) (present : Int) : (start settings present).InTune :=
  (untouched_start settings present).inTune

/-! ## 5. Nothing but data -/

theorem refreshAll_of_single {b : Browser} {items restricted : KeySet} {told : List CollectionEvent}
    (h : b.collections =
      [{ Collection.new defaultId .allItems with items, restricted, told }]) :
    refreshAll b = (.ok (), { b with
      collections := [{ Collection.new defaultId .allItems with
        items := b.store.items
        restricted := b.store.items
        told := told ++ [.rootItemsChanged] ++ [.itemsChanged] }] }) := by
  obtain ⟨store, collections, settings, dirty⟩ := b
  subst h
  rfl

/-- The refresh after data have changed, if the items of the store are others only where it is due. -/
theorem untouched_refreshIfDirty {b : Browser} {store : Store} (hb : b.Untouched) (dirty : Bool)
    (h : dirty = false → store.items = b.store.items) :
    (refreshIfDirty { b with store, dirty }).2.Untouched := by
  obtain ⟨told, honly⟩ := hb.only
  unfold refreshIfDirty
  rw [bind_apply, state_apply]
  dsimp only
  rw [bind_apply, change_apply]
  dsimp only
  cases dirty with
  | false =>
    refine ⟨told, ?_⟩
    rw [honly, ← h rfl]
    rfl
  | true =>
    have hrefresh := refreshAll_of_single (b := { b with store, dirty := false }) honly
    show (refreshAll { b with store, dirty := false }).2.Untouched
    rw [hrefresh]
    exact ⟨told ++ [.rootItemsChanged] ++ [.itemsChanged], rfl⟩

end Browser

/-- A payload without items brings none. -/
theorem Store.items_load {s t : Store} {payload : Json} {base : String} {events : List StoreEvent}
    (hitems : Browser.hasItems payload = false) (h : s.load payload base = .ok (t, events)) :
    t.items = s.items := by
  have hnone : (payload.get? "items").bind Json.elements? = none :=
    Option.not_isSome_iff_eq_none.mp (Bool.eq_false_iff.mp hitems)
  have hfold {act : Store → String × Json → Store} (hact : ∀ s entry, (act s entry).items = s.items)
      (entries : List (String × Json)) (s : Store) : (entries.foldl act s).items = s.items :=
    List.foldlRecOn (motive := fun t : Store => t.items = s.items) entries act rfl
      fun t ht entry _ => (hact t entry).trans ht
  have htype (s : Store) (entry : String × Json) : (loadType base s entry).items = s.items := by
    unfold loadType
    split <;> rfl
  have hproperty (s : Store) (entry : String × Json) :
      (loadProperty base s entry).items = s.items := by
    unfold loadProperty
    split <;> rfl
  unfold Store.load at h
  split at h
  · have ht : _ = t := congrArg Prod.fst (Except.ok.inj h)
    rw [hnone] at ht
    rw [← ht]
    unfold loadPart
    cases (Json.object _).get? "properties" |>.bind Json.fields? <;>
      cases (Json.object _).get? "types" |>.bind Json.fields?
    · rfl
    · exact hfold htype _ _
    · exact hfold hproperty _ _
    · exact (hfold hproperty _ _).trans (hfold htype _ _)
  · cases h

open Browser in
/-- **What an operation about the data leaves**, whatever fails: it has been refused, or another store
    has been put in place and the collections have been refreshed if that was due. -/
theorem BrowserOperation.perform_data {op : BrowserOperation} (hop : op.isAboutData = true)
    (b : Browser) :
    op.refreshes = false ∧ (op.perform b).2 = b ∨ ∃ store dirty,
      (op.refreshes = true → dirty = true) ∧ (dirty = false → store.items = b.store.items) ∧
        (op.perform b).2 = (refreshIfDirty { b with store, dirty }).2 := by
  cases op with
  | load payload base =>
    have hperform : (perform (.load payload base) b).2 = (Browser.load payload base b).2 := rfl
    rw [hperform]
    unfold Browser.load
    rw [bind_apply, state_apply]
    dsimp only
    rw [bind_apply]
    unfold guarded loadStore
    cases hload : b.store.load payload (base.getD b.settings.baseUri) with
    | error failure =>
      have hnone : hasItems payload = false := Bool.eq_false_iff.mpr fun hitems => by
        obtain ⟨store, events, hok⟩ := exists_load hitems b.store (base.getD b.settings.baseUri)
        cases hok.symm.trans hload
      dsimp only
      cases b.settings.errors.settle () (.error failure) with
      | error failure => exact .inl ⟨hnone, rfl⟩
      | ok done =>
        refine .inr ⟨b.store, b.dirty, fun hitems => ?_, fun _ => rfl, rfl⟩
        cases hnone.symm.trans hitems
    | ok result =>
      obtain ⟨store, events⟩ := result
      have hdone : b.settings.errors.settle () (.ok ()) = .ok () := by
        cases b.settings.errors <;> rfl
      have hstale (hitems : hasItems payload = true) : (b.dirty || isStaleAfter events) = true := by
        rw [isStaleAfter_load hitems hload, Bool.or_true]
      dsimp only
      rw [hdone]
      refine .inr ⟨store, _, hstale, fun hclean => Store.items_load ?_ hload, rfl⟩
      refine Bool.eq_false_iff.mpr fun hitems => ?_
      cases hclean.symm.trans (hstale hitems)
  | update ops =>
    refine .inr ⟨updated ops b.store, true, fun _ => rfl, nofun, ?_⟩
    show (updateStore (fun s => ((), updated ops s)) b).2 = _
    unfold updateStore
    rw [bind_apply, state_apply]
    dsimp only
    rw [bind_apply, change_apply]
    dsimp only
    exact snd_bind_pure refreshIfDirty () _
  | _ => cases hop

/-- Operations about the data leave the browser untouched apart from them, whatever fails. -/
theorem Browser.untouched_perform {b : Browser} {op : BrowserOperation} (hop : op.isAboutData = true)
    (hb : b.Untouched) : (op.perform b).2.Untouched := by
  obtain ⟨-, hsame⟩ | ⟨store, dirty, -, hitems, hafter⟩ := op.perform_data hop b
  · rw [hsame]
    exact hb
  · rw [hafter]
    exact untouched_refreshIfDirty hb dirty hitems

end Faceted
