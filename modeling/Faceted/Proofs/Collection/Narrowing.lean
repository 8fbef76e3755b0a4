import Faceted.Collection
import Faceted.Proofs.Facet.Settled
import Faceted.Proofs.Running

/-!
# Narrowing the root

What a collection works out when it is refreshed, apart from how it gets there. The items that facets
let through one after the other are a function of the scene and of what the facets stand for
(`Scene.throughEach`); the run that works them out also fills what facets and store keep.

* `View.Same`: two views differ at most in what is kept, shown and told;
* `Keeps`: an action goes from a view to one that is the same, whether it succeeds or fails; narrowing
  and counting do (`keeps_narrow`, `keeps_updateFacets`);
* `narrow_fst`: the run yields what `throughEach` says;
* **`refresh_of_ok`** and **`refresh_of_error`**: what a refresh does to a view;
* `same_refresh`: what it leaves in either case, with `refreshedItems` as restricted items.
-/

namespace Faceted

/-! ## 1. What facets let through -/

namespace Scene

/-- The items that the facets let through one after the other; those that do not restrict are left
    out. -/
def throughEach (scene : Scene) : List Facet → KeySet → Outcome KeySet
  | [], items => .ok items
  | f :: rest, items =>
    if f.hasRestrictions then
      match (f.restrict scene items).1 with
      | .ok items => scene.throughEach rest items
      | .error failure => .error failure
    else scene.throughEach rest items

variable {scene scene' : Scene}

/-- Facets that stand for the same let the same items through, where nothing that they ask tells the
    scenes apart. -/
theorem throughEach_alikeFor {fs gs : List Facet}
    (hs : ∀ f ∈ fs, scene.AlikeFor f.expressions scene')
    (h : fs.map (Facet.settled · scene) = gs.map (Facet.settled · scene')) (items : KeySet) :
    scene.throughEach fs items = scene'.throughEach gs items := by
  induction fs generalizing gs items with
  | nil =>
    rw [List.map_nil] at h
    rw [List.map_eq_nil_iff.mp h.symm]
    rfl
  | cons f fs ih =>
    cases gs with
    | nil => cases h
    | cons g gs =>
      rw [List.map_cons, List.map_cons, List.cons.injEq] at h
      obtain ⟨hf, hrest⟩ := h
      obtain ⟨hsf, hsrest⟩ := List.forall_mem_cons.mp hs
      unfold throughEach
      rw [Facet.hasRestrictions_congr hf, Facet.restrict_congr hsf hf]
      simp only [ih hsrest hrest]

theorem throughEach_congr (hs : scene.Alike scene') {fs gs : List Facet}
    (h : fs.map (Facet.settled · scene) = gs.map (Facet.settled · scene')) (items : KeySet) :
    scene.throughEach fs items = scene'.throughEach gs items :=
  throughEach_alikeFor (fun f _ => hs.alikeFor f.expressions) h items

theorem throughEach_append (fs gs : List Facet) (items : KeySet) :
    scene.throughEach (fs ++ gs) items =
      match scene.throughEach fs items with
      | .ok items => scene.throughEach gs items
      | .error failure => .error failure := by
  induction fs generalizing items with
  | nil => rfl
  | cons f fs ih =>
    simp only [List.cons_append, throughEach, ih]
    split
    · cases (f.restrict scene items).1 <;> rfl
    · rfl

/-- Facets that do not restrict may be left out or put in. -/
theorem throughEach_append_of_not_hasRestrictions (scene : Scene) (front back : List Facet)
    {f : Facet} (h : f.hasRestrictions = false) (items : KeySet) :
    scene.throughEach (front ++ f :: back) items = scene.throughEach (front ++ back) items := by
  induction front generalizing items with
  | nil => simp [throughEach, h]
  | cons g front ih =>
    simp only [List.cons_append, throughEach, ih]

end Scene

namespace View

open Faceted.Action

/-! ## 2. Views that are the same -/

/-- The views differ at most in what facets and store keep, in what is shown and in what has been
    told. -/
structure Same (v w : View) : Prop where
  store : v.store.Alike w.store
  id : v.collection.id = w.collection.id
  source : v.collection.source = w.collection.source
  items : v.collection.items = w.collection.items
  restricted : v.collection.restricted = w.collection.restricted
  updating : v.collection.updating = w.collection.updating
  facets : v.collection.facets.map (Facet.settled · v.scene) =
    w.collection.facets.map (Facet.settled · w.scene)

namespace Same

variable {u v w : View}

theorem scene (h : v.Same w) : v.scene.Alike w.scene := ⟨h.store, h.items⟩

theorem refl (v : View) : v.Same v := ⟨Store.Alike.refl _, rfl, rfl, rfl, rfl, rfl, rfl⟩

theorem trans (h : u.Same v) (h' : v.Same w) : u.Same w where
  store := h.store.trans h'.store
  id := h.id.trans h'.id
  source := h.source.trans h'.source
  items := h.items.trans h'.items
  restricted := h.restricted.trans h'.restricted
  updating := h.updating.trans h'.updating
  facets := h.facets.trans h'.facets

/-- The facets at a place stand for the same. -/
theorem facet_at (h : v.Same w) (place : Nat) :
    v.collection.facets[place]?.map (Facet.settled · v.scene) =
      w.collection.facets[place]?.map (Facet.settled · w.scene) := by
  rw [← List.getElem?_map, ← List.getElem?_map, h.facets]

/-- The same items are let through. -/
theorem throughEach (h : v.Same w) (items : KeySet) :
    v.scene.throughEach v.collection.facets items = w.scene.throughEach w.collection.facets items :=
  Scene.throughEach_congr h.scene h.facets items

end Same

/-- A facet that stands for what was at the place may be put there. -/
theorem same_putFacet {v : View} {place : Nat} {f g : Facet} {store : Store}
    (hf : v.collection.facets[place]? = some f) (hg : g.settled v.scene = f.settled v.scene)
    (hstore : v.store.Alike store) : v.Same (v.putFacet place g store) where
  store := hstore
  id := rfl
  source := rfl
  items := rfl
  restricted := rfl
  updating := rfl
  facets := by
    have hscene : (v.putFacet place g store).scene.Alike v.scene := ⟨hstore.symm, rfl⟩
    have hplace : (v.collection.facets.map (Facet.settled · v.scene))[place]? =
        some (g.settled v.scene) := by
      rw [List.getElem?_map, hf, Option.map_some, hg]
    show _ = (v.collection.facets.set place g).map (Facet.settled · (v.putFacet place g store).scene)
    simp only [Facet.settled_alike hscene, List.map_set]
    refine List.ext_getElem? fun n => ?_
    rw [List.getElem?_set]
    split
    · next h =>
      subst h
      rw [hplace]
      split
      · rfl
      · next hlt =>
        rw [List.getElem?_eq_none (by omega)] at hplace
        cases hplace
    · rfl

/-! ## 3. Actions that keep a view -/

/-- The action leaves the view the same, whether it succeeds or fails. -/
def Keeps {α : Type} (act : Action View α) : Prop := Obeys (fun _ => Same) act

theorem frame_same : Frame fun _ => Same := ⟨fun _ => Same.refl, Same.trans⟩

section Keeping

variable {α : Type}

theorem keeps_atPlace {place : Nat} {otherwise : α}
    {act : Facet → Scene → Outcome α × Facet × Store}
    (hfacet : ∀ f scene, (act f scene).2.1.settled scene = f.settled scene)
    (hstore : ∀ (f : Facet) (scene : Scene), scene.store.Alike (act f scene).2.2) :
    Keeps (atPlace place otherwise act) := by
  intro v
  unfold atPlace
  split
  · exact Same.refl v
  · next f hf => exact same_putFacet hf (hfacet f v.scene) (hstore f v.scene)

theorem keeps_restrictAt (place : Nat) (items : KeySet) : Keeps (restrictAt place items) := by
  refine keeps_atPlace (fun f scene => ?_) (fun f scene => ?_)
  · split
    · exact f.settled_restrict scene items
    · rfl
  · split
    · exact f.restrict_store_alike scene items
    · exact Store.Alike.refl _

theorem keeps_updateAt (place : Nat) (items : KeySet) : Keeps (updateAt place items) :=
  keeps_atPlace (fun f scene => f.settled_update scene items)
    fun f scene => f.update_store_alike scene items

theorem keeps_narrow : ∀ (places : List Nat) (items : KeySet), Keeps (narrow places items)
  | [], items => frame_same.pure items
  | place :: rest, items => frame_same.bind (keeps_restrictAt place items) (keeps_narrow rest)

theorem keeps_inputAt (several : Bool) (place : Nat) : Keeps (inputAt several place) := by
  refine frame_same.bind frame_same.state fun v => ?_
  split
  · exact frame_same.pure _
  · split
    · exact frame_same.pure _
    · exact keeps_narrow _ _

theorem keeps_updateFacets : Keeps updateFacets :=
  frame_same.bind frame_same.state fun v =>
    frame_same.bind (frame_same.collect (keeps_inputAt _) v.places) fun _ =>
      frame_same.each (fun (place, items) => keeps_updateAt place items) _

theorem keeps_tell (event : CollectionEvent) : Keeps (tell event) := fun _ =>
  ⟨Store.Alike.refl _, rfl, rfl, rfl, rfl, rfl, rfl⟩

end Keeping

/-! ## 4. What narrowing yields -/

theorem restrictAt_fst (place : Nat) (items : KeySet) (v : View) :
    (restrictAt place items v).1 =
      v.scene.throughEach (v.collection.facets[place]?.toList) items := by
  unfold restrictAt atPlace
  cases v.collection.facets[place]? with
  | none => rfl
  | some f =>
    simp only [Option.toList_some, Scene.throughEach]
    split
    · cases (f.restrict v.scene items).1 <;> rfl
    · rfl

/-- **Narrowing yields what the facets at the places let through.** Each of them is asked in the view
    that the ones before it leave behind, which is the same as the first. -/
theorem narrow_fst (places : List Nat) (items : KeySet) (v : View) :
    (narrow places items v).1 =
      v.scene.throughEach (places.flatMap fun place => v.collection.facets[place]?.toList) items := by
  induction places generalizing v items with
  | nil => rfl
  | cons place rest ih =>
    have hkeeps := keeps_restrictAt place items v
    have hfirst := restrictAt_fst place items v
    rw [List.flatMap_cons, Scene.throughEach_append, ← hfirst]
    unfold narrow
    rw [bind_apply]
    generalize restrictAt place items v = result at hkeeps ⊢
    obtain ⟨outcome, w⟩ := result
    cases outcome with
    | error failure => rfl
    | ok left =>
      show (narrow rest left w).1 = v.scene.throughEach _ left
      rw [ih]
      refine (Scene.throughEach_congr hkeeps.scene ?_ left).symm
      simp only [List.map_flatMap]
      refine congrArg (fun f => rest.flatMap f) (funext fun place => ?_)
      have := congrArg Option.toList (hkeeps.facet_at place)
      simpa only [Option.toList_map] using this

/-- All places together hold all facets. -/
theorem flatMap_places (v : View) :
    (v.places.flatMap fun place => v.collection.facets[place]?.toList) = v.collection.facets := by
  unfold places
  induction v.collection.facets with
  | nil => rfl
  | cons f fs ih =>
    rw [List.length_cons, List.range_succ_eq_map, List.flatMap_cons, List.flatMap_map]
    simpa using ih

theorem narrow_places_fst (v : View) (items : KeySet) :
    (narrow v.places items v).1 = v.scene.throughEach v.collection.facets items := by
  rw [narrow_fst, flatMap_places]

/-! ## 5. Refreshing -/

/-- The view with other restricted items. -/
def withRestricted (v : View) (restricted : KeySet) : View :=
  { v with collection := { v.collection with restricted } }

theorem Same.withRestricted {v w : View} (h : v.Same w) (restricted : KeySet) :
    (v.withRestricted restricted).Same (w.withRestricted restricted) :=
  ⟨h.store, h.id, h.source, h.items, rfl, h.updating, h.facets⟩

theorem narrowRoot_apply (v : View) :
    narrowRoot v =
      match narrow v.places v.collection.items v with
      | (.ok restricted, w) => (.ok (), w.withRestricted restricted)
      | (.error failure, w) => (.error failure, w) := by
  show (narrow v.places v.collection.items >>= fun restricted =>
    modify fun c => { c with restricted }) v = _
  rw [bind_apply]
  generalize narrow v.places v.collection.items v = result
  obtain ⟨outcome, w⟩ := result
  cases outcome <;> rfl

/-- **A refresh enters what the facets let through**, whatever comes of the counting after it. -/
theorem refresh_of_ok {v : View} {restricted : KeySet}
    (h : v.scene.throughEach v.collection.facets v.collection.items = .ok restricted) :
    (v.withRestricted restricted).Same (refresh v).2 := by
  have hkeeps := keeps_narrow v.places v.collection.items v
  rw [← narrow_places_fst] at h
  have hroot : narrowRoot v =
      (.ok (), (narrow v.places v.collection.items v).2.withRestricted restricted) := by
    rw [narrowRoot_apply]
    generalize narrow v.places v.collection.items v = result at h ⊢
    obtain ⟨outcome, w⟩ := result
    cases (h : outcome = .ok restricted)
    rfl
  unfold refresh
  rw [bind_of_ok hroot]
  exact (hkeeps.withRestricted restricted).trans
    (frame_same.bind keeps_updateFacets (fun _ => keeps_tell _) _)

/-- A refresh that cannot work out the items fails and leaves the view the same. -/
theorem refresh_of_error {v : View} {failure : Failure}
    (h : v.scene.throughEach v.collection.facets v.collection.items = .error failure) :
    (refresh v).1 = .error failure ∧ v.Same (refresh v).2 := by
  have hkeeps := keeps_narrow v.places v.collection.items v
  rw [← narrow_places_fst] at h
  have hroot : narrowRoot v = (.error failure, (narrow v.places v.collection.items v).2) := by
    rw [narrowRoot_apply]
    generalize narrow v.places v.collection.items v = result at h ⊢
    obtain ⟨outcome, w⟩ := result
    cases (h : outcome = .error failure)
    rfl
  unfold refresh
  rw [bind_of_error hroot]
  exact ⟨rfl, hkeeps⟩

/-- The restricted items that a refresh leaves. -/
def refreshedItems (v : View) : KeySet :=
  match v.scene.throughEach v.collection.facets v.collection.items with
  | .ok items => items
  | .error _ => v.collection.restricted

/-- **What a refresh leaves**, whether it succeeds or fails. -/
theorem same_refresh (v : View) : (v.withRestricted v.refreshedItems).Same (refresh v).2 := by
  unfold refreshedItems
  cases hroot : v.scene.throughEach v.collection.facets v.collection.items with
  | ok restricted => exact refresh_of_ok hroot
  | error failure => exact (refresh_of_error hroot).2

end View

end Faceted
