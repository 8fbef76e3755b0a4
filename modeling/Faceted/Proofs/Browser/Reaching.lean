import Faceted.Proofs.Browser.Building
import Faceted.Proofs.Browser.Consistent

/-!
# Loads that do not reach every collection

A load gives the collections their root items anew in their order. If that fails for one of them, the
collections after it are left alone, and since the browser no longer counts as out of date nothing
makes up for it. The one at which it fails has taken its own items already if they come from the
store.

* `Collection.IsFed` says that a collection has the root items that the store has for it, `Browser.Fed`
  that all have them;
* `HalfFed` is the invariant of the loop, `HalfFed.step` its step; neither asks for success;
* `StopsAt`: the place at which a refresh of all collections fails;
* **`load_fed_iff`**: after a load that brings items all collections are fed, unless it stops before
  some collection that is not fed already;
* **`books_after_borrower`**: one facet that fails keeps new books from another collection.
-/

namespace Faceted

open Faceted.Action

/-- The root items are those that the store has for the collection; one that is based on another
    collection is not fed by the store. -/
def Collection.IsFed (store : Store) (c : Collection) : Prop :=
  match c.source with
  | .allItems => c.items = store.items
  | .ofTypes types => c.items = store.subjectsUnion types "type" ∅ none
  | .based _ _ _ => True

namespace Collection

variable {s t : Store} {c d : Collection}

theorem isFed_congr (hstore : s.Alike t) (hsource : c.source = d.source) (hitems : c.items = d.items) :
    c.IsFed s ↔ d.IsFed t := by
  unfold IsFed
  rw [hsource, hitems]
  cases d.source with
  | allItems =>
    dsimp only
    rw [hstore.content.items]
  | ofTypes types =>
    dsimp only
    rw [hstore.content.subjectsUnion]
  | based e base restricting => rfl

theorem isFed_of_base? (h : c.base? ≠ none) (s : Store) : c.IsFed s := by
  unfold IsFed
  unfold base? at h
  cases hsource : c.source with
  | based e base restricting => trivial
  | allItems => exact absurd (by rw [hsource]) h
  | ofTypes types => exact absurd (by rw [hsource]) h

/-- Taking the items of the store feeds a collection. -/
theorem isFed_rootItems (v : View) : (v.withItems v.rootItems).collection.IsFed v.store := by
  unfold IsFed View.withItems View.rootItems
  cases v.collection.source <;> trivial

end Collection

namespace Browser

variable {b b' : Browser}

/-- All collections have the root items that the store has for them. -/
def Fed (b : Browser) : Prop := ∀ c ∈ b.collections, c.IsFed b.store

/-! ## 1. One collection -/

/-- Whether or not it succeeds, giving a collection its root items anew changes no other collection,
    and feeds this one. -/
structure FedAt (place : Nat) (b b' : Browser) : Prop where
  store : b.store.Alike b'.store
  settings : b'.settings = b.settings
  dirty : b'.dirty = b.dirty
  others : ∀ q, q ≠ place → b'.collections[q]? = b.collections[q]?
  isFed : ∀ c, b'.collections[place]? = some c → c.IsFed b'.store

theorem fedAt_putView {place : Nat} {c : Collection} {v w : View}
    (hc : b.collections[place]? = some c) (hstore : b.store.Alike w.store)
    (hkin : v.Kin w) (hfed : v.collection.IsFed b.store) : FedAt place b (b.putView place w) where
  store := hstore
  settings := rfl
  dirty := rfl
  others q hq := List.getElem?_set_ne (Ne.symm hq)
  isFed d hd := by
    rw [putView, List.getElem?_set_self (List.getElem?_eq_some_iff.mp hc).1] at hd
    cases hd
    exact (Collection.isFed_congr hstore hkin.source hkin.items).mp hfed

/-- **One collection**: it fails to get its root items only after it has taken those of the store. -/
theorem fedAt_reroot {place : Nat} (hplace : place < b.collections.length) :
    FedAt place b (reroot place b).2 := by
  have hc : b.collections[place]? = some b.collections[place] := List.getElem?_eq_getElem hplace
  generalize b.collections[place] = c at hc
  have hbased (hroot : b.basedRoot place ≠ .ok none) : c.IsFed b.store :=
    Collection.isFed_of_base? (fun hnone => hroot (basedRoot_of_unbased hc hnone)) b.store
  rw [reroot_apply]
  cases hroot : b.basedRoot place with
  | error failure =>
    refine ⟨Store.Alike.refl _, rfl, rfl, fun _ _ => rfl, fun d hd => ?_⟩
    cases hc.symm.trans hd
    exact hbased (by rw [hroot]; exact nofun)
  | ok root =>
    cases root with
    | some items =>
      have hkin := View.kin_setRoot items ⟨b.store, c⟩
      dsimp only
      rw [onCollection_apply, hc]
      refine fedAt_putView hc hkin.store hkin ?_
      refine Collection.isFed_of_base? (fun hnone => ?_) b.store
      rw [basedRoot_of_unbased hc hnone] at hroot
      cases hroot
    | none =>
      have hkin := View.kin_reroot ⟨b.store, c⟩
      dsimp only
      rw [onCollection_apply, hc]
      exact fedAt_putView hc hkin.store hkin (Collection.isFed_rootItems ⟨b.store, c⟩)

/-! ## 2. All collections in their order -/

/-- The browser after the collections before a place have been given their root items anew. -/
structure HalfFed (b : Browser) (place : Nat) (s : Browser) : Prop where
  store : b.store.Alike s.store
  settings : s.settings = b.settings
  dirty : s.dirty = b.dirty
  isFed : ∀ q < place, ∀ c, s.collections[q]? = some c → c.IsFed s.store
  rest : ∀ q, place ≤ q → s.collections[q]? = b.collections[q]?

theorem halfFed_refl (b : Browser) : HalfFed b 0 b :=
  ⟨Store.Alike.refl _, rfl, rfl, fun q hq => absurd hq (Nat.not_lt_zero q), fun _ _ => rfl⟩

theorem HalfFed.step {place : Nat} {s : Browser} (hs : HalfFed b place s)
    (hplace : place < b.collections.length) : HalfFed b (place + 1) (reroot place s).2 := by
  have hlt : place < s.collections.length := by
    have hc := (hs.rest place (Nat.le_refl place)).trans (List.getElem?_eq_getElem hplace)
    exact (List.getElem?_eq_some_iff.mp hc).1
  have hfed := fedAt_reroot hlt
  refine ⟨hs.store.trans hfed.store, hfed.settings.trans hs.settings, hfed.dirty.trans hs.dirty,
    fun q hq c hc => ?_, fun q hq => ?_⟩
  · by_cases hqplace : q = place
    · subst hqplace
      exact hfed.isFed c hc
    · rw [hfed.others q hqplace] at hc
      exact (Collection.isFed_congr hfed.store rfl rfl).mp (hs.isFed q (by omega) c hc)
  · rw [hfed.others q (by omega), hs.rest q (by omega)]

theorem HalfFed.drop {place : Nat} {s : Browser} (hs : HalfFed b place s) :
    s.collections.drop place = b.collections.drop place := by
  refine List.ext_getElem? fun q => ?_
  rw [List.getElem?_drop, List.getElem?_drop, hs.rest _ (Nat.le_add_right place q)]

theorem HalfFed.take {place : Nat} {s : Browser} (hs : HalfFed b place s) :
    ∀ c ∈ s.collections.take place, c.IsFed s.store := by
  intro c hc
  obtain ⟨q, hq⟩ := List.mem_iff_getElem?.mp hc
  rw [List.getElem?_take] at hq
  split at hq
  · next hlt => exact hs.isFed q hlt c hq
  · cases hq

/-- All collections are fed exactly if those are that have been left alone. -/
theorem HalfFed.fed_iff {place : Nat} {s : Browser} (hs : HalfFed b place s) :
    s.Fed ↔ ∀ c ∈ b.collections.drop place, c.IsFed b.store := by
  have halike (c : Collection) : c.IsFed b.store ↔ c.IsFed s.store :=
    Collection.isFed_congr hs.store rfl rfl
  rw [← hs.drop]
  constructor
  · exact fun hfed c hc => (halike c).mpr (hfed c (List.mem_of_mem_drop hc))
  · intro hrest c hc
    rw [← List.take_append_drop place s.collections] at hc
    rcases List.mem_append.mp hc with hc | hc
    · exact hs.take c hc
    · exact (halike c).mp (hrest c hc)

/-- The first collection that cannot be given its root items stands at the place. -/
def StopsAt (b : Browser) (stop : Nat) (failure : Failure) (b' : Browser) : Prop :=
  stop < b.collections.length ∧
    ∃ s, each reroot (List.range stop) b = (.ok (), s) ∧ reroot stop s = (.error failure, b')

theorem halfFed_of_each {place : Nat} {s : Browser} (hplace : place ≤ b.collections.length)
    (h : each reroot (List.range place) b = (.ok (), s)) : HalfFed b place s := by
  refine each_range_ok (I := HalfFed b) (fun {n s t} hn hs hrun => ?_) h (halfFed_refl b)
  have hstep := hs.step (by omega)
  rwa [hrun] at hstep

theorem StopsAt.halfFed {stop : Nat} {failure : Failure} (h : b.StopsAt stop failure b') :
    HalfFed b (stop + 1) b' := by
  obtain ⟨hstop, s, hfront, hlast⟩ := h
  have hstep := (halfFed_of_each (Nat.le_of_lt hstop) hfront).step hstop
  rwa [hlast] at hstep

/-- A refresh of all collections that fails stops at one of them. -/
theorem stopsAt_of_refreshAll {failure : Failure} (h : refreshAll b = (.error failure, b')) :
    ∃ stop, b.StopsAt stop failure b' := by
  obtain ⟨stop, hstop, s, hfront, hlast⟩ := each_range_error h
  exact ⟨stop, hstop, s, hfront, hlast⟩

/-! ## 3. Loads -/

/-- What it comes to is a refresh of all collections over the new store. -/
theorem load_of_hasItems {payload : Json} {base : Option String} (hitems : hasItems payload = true)
    {store : Store} {events : List StoreEvent}
    (hload : b.store.load payload (base.getD b.settings.baseUri) = .ok (store, events)) :
    load payload base b = guarded () refreshAll (b.withStore store) := by
  have hstale := isStaleAfter_load hitems hload
  have hguarded : guarded () (loadStore payload (base.getD b.settings.baseUri)) b =
      (.ok (), { b with store, dirty := b.dirty || isStaleAfter events }) := by
    unfold guarded loadStore
    rw [hload]
    rfl
  unfold load
  rw [bind_apply, state_apply]
  dsimp only
  rw [bind_of_ok hguarded, hstale, Bool.or_true]
  rfl

/-- **After a load that brings items** every collection is fed, or the refresh has stopped: at a
    collection that has its items, like all before it, while the ones after it are as they were. So all
    are fed exactly if those happened to be. The browser counts as up to date in either case, and
    whether the failure is seen is up to the settings. -/
theorem load_fed_iff {payload : Json} {base : Option String} (hitems : hasItems payload = true)
    {outcome : Outcome Unit} (h : load payload base b = (outcome, b')) :
    ∃ store events, b.store.load payload (base.getD b.settings.baseUri) = .ok (store, events) ∧
      store.Alike b'.store ∧ b'.dirty = false ∧
      (outcome = .ok () ∧ refreshAll (b.withStore store) = (.ok (), b') ∧ b'.Fed ∨
        ∃ stop failure, (b.withStore store).StopsAt stop failure b' ∧
          outcome = b.settings.errors.settle () (.error failure) ∧
          (∀ c ∈ b'.collections.take (stop + 1), c.IsFed b'.store) ∧
          b'.collections.drop (stop + 1) = b.collections.drop (stop + 1) ∧
          (b'.Fed ↔ ∀ c ∈ b.collections.drop (stop + 1), c.IsFed store)) := by
  obtain ⟨store, events, hload⟩ :=
    exists_load hitems b.store (base.getD b.settings.baseUri)
  rw [load_of_hasItems hitems hload] at h
  refine ⟨store, events, hload, ?_⟩
  cases hrefresh : refreshAll (b.withStore store) with
  | mk refreshed t =>
    have hguarded : guarded () refreshAll (b.withStore store) =
        (t.settings.errors.settle () refreshed, t) := by
      unfold guarded
      rw [hrefresh]
    obtain ⟨rfl, rfl⟩ := Prod.mk.inj (hguarded.symm.trans h)
    cases refreshed with
    | ok done =>
      have hall := halfFed_of_each (Nat.le_refl _) hrefresh
      refine ⟨hall.store, hall.dirty, .inl ⟨ErrorPolicy.settle_ok _ _ _, rfl, ?_⟩⟩
      refine hall.fed_iff.mpr fun c hc => ?_
      rw [List.drop_length] at hc
      cases hc
    | error failure =>
      obtain ⟨stop, hstop⟩ := stopsAt_of_refreshAll hrefresh
      have hhalf := hstop.halfFed
      refine ⟨hhalf.store, hhalf.dirty, .inr ⟨stop, failure, hstop, ?_, hhalf.take, hhalf.drop,
        hhalf.fed_iff⟩⟩
      rw [hhalf.settings]
      rfl

/-! ## 4. A book that is lent -/

/-- A book that is in. -/
def emmaIn : Json :=
  .object [("items", .array [.object [("id", .string "emma"), ("type", .string "Book")]])]

/-- A book that is lent. -/
def odesLent : Json :=
  .object [("items", .array [
    .object [("id", .string "odes"), ("type", .string "Book"), ("lent", .string "ann")]])]

/-- Who has the books. There is no such function, but nobody asks as long as none is lent. -/
def borrower : FacetConfig :=
  { FacetConfig.empty with
    id := some "borrower"
    expression := some "if(.lent, borrower(.lent), 'in')" }

/-- The items that are books. -/
def allBooks : CollectionConfig where
  id := some "books"
  itemTypes := some ["Book"]
  expression := none
  baseCollectionId := none
  restrictBaseCollection := false

def opening : List BrowserOperation :=
  [.load emmaIn none, .addFacet defaultId borrower, .createCollection allBooks]

/-- The library with a book that is in. -/
def opened : Browser := (run opening library).2

/-- The load of the book that is lent stops at a collection that has it. -/
theorem fed_opened :
    hasItems odesLent = true ∧ (load odesLent none opened).1.isOk = false ∧
      ∃ stop, (∀ c ∈ (load odesLent none opened).2.collections.take (stop + 1),
          c.IsFed (load odesLent none opened).2.store) ∧
        (load odesLent none opened).2.collections.drop (stop + 1) =
          opened.collections.drop (stop + 1) := by
  have hfails : (load odesLent none opened).1.isOk = false := by decide +kernel
  obtain ⟨failure, hload⟩ := exists_of_not_isOk hfails
  obtain ⟨_, _, -, -, -, ⟨hok, -⟩ | ⟨stop, -, -, -, hfront, hback, -⟩⟩ := load_fed_iff rfl hload
  · cases hok
  · exact ⟨rfl, hfails, stop, hfront, hback⟩

/-- **The new book does not reach the books**, because a facet of the collection before them cannot be
    counted. -/
theorem books_after_borrower :
    (run opening library).1.isOk = true ∧ hasItems odesLent = true ∧
      ((load odesLent none opened).2.collections.map fun c => (c.id, c.items.toList)) =
        [("default", ["emma", "odes"]), ("books", ["emma"])] ∧
      ((load odesLent none opened).2.store.subjectsUnion (KeySet.ofList ["Book"]) "type" ∅ none).toList =
        ["emma", "odes"] := by
  decide +kernel

end Browser

end Faceted
