import Faceted.Proofs.Collection.Displays
import Faceted.Proofs.Facet.Inner

/-!
# Collections that are about to show the same

Two collections over the same root items whose facets have the same inner facets (`View.Peer`) may show
different things and have different restricted items, if one of them waits for the end of a batch. Once
both have been refreshed there is no difference left.

* `Peer` as an equivalence; a refresh stays in it (`peer_refresh`), and so does what is done alike to both
  (`Peer.actedAt`, `Peer.cleared`);
* **`Peer.refresh`**: a collection with a peer that is up to date can be refreshed;
* **`Peer.restricted`**, **`Peer.shown`**, **`Peer.states`**: peers that are both up to date have the same
  restricted items, show the same and have the same states.
-/

namespace Faceted

open Faceted.Action

namespace View

/-- The views see the same, and their facets have the same inner facets: they differ at most in the
    restricted items, in whether a batch is under way, and in what is kept, shown and told. -/
structure Peer (v w : View) : Prop where
  store : v.store.Alike w.store
  indexes : v.store.SameIndexes w.store
  items : v.collection.items = w.collection.items
  facets : v.collection.facets.map (Facet.inner · v.scene) =
    w.collection.facets.map (Facet.inner · w.scene)

variable {u v w : View}

namespace Peer

/-! ## 1. An equivalence -/

theorem refl (v : View) : v.Peer v := ⟨.refl _, .refl _, rfl, rfl⟩

theorem symm (h : v.Peer w) : w.Peer v :=
  ⟨h.store.symm, fun property => (h.indexes property).symm, h.items.symm, h.facets.symm⟩

theorem trans (h : u.Peer v) (h' : v.Peer w) : u.Peer w :=
  ⟨h.store.trans h'.store, h.indexes.trans h'.indexes, h.items.trans h'.items, h.facets.trans h'.facets⟩

theorem scene (h : v.Peer w) : v.scene.Twin w.scene := ⟨⟨h.store, h.items⟩, h.indexes⟩

theorem forall₂ (h : v.Peer w) : List.Forall₂
    (fun f g => f.inner v.scene = g.inner w.scene) v.collection.facets w.collection.facets :=
  map_eq_iff_forall₂.mp h.facets

theorem settled (h : v.Peer w) : v.collection.facets.map (Facet.settled · v.scene) =
    w.collection.facets.map (Facet.settled · w.scene) :=
  map_eq_of_forall₂ h.forall₂ fun _ _ heq => (Facet.inner_eq_iff.mp heq).1

theorem facet_at (h : v.Peer w) {place : Nat} {g : Facet} (hg : w.collection.facets[place]? = some g) :
    ∃ f, v.collection.facets[place]? = some f ∧ f.inner v.scene = g.inner w.scene := by
  have heq := congrArg (fun fs => fs[place]?) h.facets
  simp only [List.getElem?_map, hg, Option.map_some] at heq
  exact Option.map_eq_some_iff.mp heq

theorem ids (h : v.Peer w) : v.collection.facets.map Facet.id = w.collection.facets.map Facet.id :=
  map_eq_of_forall₂ h.forall₂ fun f g heq => by rw [← f.id_inner v.scene, heq, g.id_inner]

theorem place? (h : v.Peer w) (id : String) : v.collection.place? id = w.collection.place? id := by
  have hfind (c : Collection) :
      c.place? id = (c.facets.map Facet.id).findIdx? fun name => name == id := by
    rw [List.findIdx?_map]
    rfl
  rw [hfind, hfind, h.ids]

/-- The same items are let through, with or without the facet at a place. -/
theorem throughEach (h : v.Peer w) (items : KeySet) :
    v.scene.throughEach v.collection.facets items = w.scene.throughEach w.collection.facets items :=
  Scene.throughEach_congr h.scene.alike h.settled items

theorem throughOthers (h : v.Peer w) (place : Nat) :
    v.throughOthers place = w.throughOthers place := by
  unfold View.throughOthers others
  rw [h.items]
  refine Scene.throughEach_congr h.scene.alike ?_ w.collection.items
  rw [← List.eraseIdx_map, ← List.eraseIdx_map, h.settled]

end Peer

/-! ## 2. Refreshing -/

/-- Whether a batch is under way plays no part. -/
theorem peer_withUpdating (v : View) (updating : Bool) : v.Peer (v.withUpdating updating) :=
  ⟨.refl _, .refl _, rfl, rfl⟩

theorem peer_of_same (hsame : v.Same w) (hindexes : v.store.SameIndexes w.store)
    (hbox : List.Forall₂ (fun f g => f.box? = g.box?) v.collection.facets w.collection.facets) :
    v.Peer w where
  store := hsame.store
  indexes := hindexes
  items := hsame.items
  facets := by
    have hsettled := map_eq_iff_forall₂.mp hsame.facets
    refine map_eq_iff_forall₂.mpr ?_
    refine (List.forall₂_iff_get.mpr ⟨hsettled.length_eq, fun n hn hn' => ?_⟩)
    exact Facet.inner_eq_iff.mpr ⟨hsettled.get hn hn', hbox.get hn hn'⟩

/-- **A refresh leaves a peer**, whatever comes of it. -/
theorem peer_refresh (v : View) : v.Peer (refresh v).2 := by
  have hsame := v.same_refresh
  have hindexes := (retains_refresh Facet.alteration_sameBare v).indexes
  have hbox := (lasts_refresh Facet.lasting_box v).facets
  have hpeer : (v.withRestricted v.refreshedItems).Peer (refresh v).2 :=
    peer_of_same hsame hindexes hbox
  exact ⟨hpeer.store, hpeer.indexes, hpeer.items, hpeer.facets⟩

/-- The facets of a view that is up to date could be shown anew. -/
theorem UpToDate.allReady (hv : v.UpToDate) : v.AllReady := by
  intro f hf
  obtain ⟨place, hplace⟩ := List.getElem?_of_mem hf
  obtain ⟨input, -, hfacet⟩ := hv.shown place f hplace
  exact (f.update_eq v.scene ∅ input).trans hfacet.shows.ready

/-- Without any one of the facets of a view that is up to date the others can be applied. -/
theorem UpToDate.throughOthers_ok (hv : v.UpToDate) (place : Nat) :
    ∃ input, v.throughOthers place = .ok input := by
  cases hf : v.collection.facets[place]? with
  | some f =>
    obtain ⟨input, hinput, -⟩ := hv.shown place f hf
    exact ⟨input, hinput⟩
  | none =>
    refine ⟨v.collection.restricted, ?_⟩
    unfold View.throughOthers others
    rw [List.eraseIdx_of_length_le (List.getElem?_eq_none_iff.mp hf)]
    exact hv.narrowed

theorem Peer.allReady (h : v.Peer w) (hv : v.AllReady) : w.AllReady := by
  intro g hg
  obtain ⟨place, hplace⟩ := List.getElem?_of_mem hg
  obtain ⟨f, hf, heq⟩ := h.facet_at hplace
  have hsettled := (Facet.inner_eq_iff.mp heq).1
  exact (Facet.update_twin h.scene hsettled ∅ ∅).symm.trans (hv f (List.mem_of_getElem? hf))

/-- **A collection with a peer that is up to date can be refreshed**, and is up to date then. -/
theorem Peer.refresh (h : v.Peer w) (hv : v.UpToDate) (hw : w.collection.updating = false) :
    ∃ u, View.refresh w = (.ok (), u) ∧ u.UpToDate ∧ v.Peer u := by
  have hnarrowed : w.scene.throughEach w.collection.facets w.collection.items =
      .ok v.collection.restricted := by
    rw [← h.throughEach, ← h.items]
    exact hv.narrowed
  have hothers (place : Nat) : ∃ input, w.throughOthers place = .ok input := by
    rw [← h.throughOthers]
    exact hv.throughOthers_ok place
  obtain ⟨u, hu⟩ := refresh_succeeds hnarrowed hothers (h.allReady hv.allReady)
  have hpeer := w.peer_refresh
  rw [hu] at hpeer
  exact ⟨u, hu, refresh_upToDate hu hw, h.trans hpeer⟩

/-! ## 3. Peers that are up to date -/

theorem Peer.restricted (h : v.Peer w) (hv : v.UpToDate) (hw : w.UpToDate) :
    v.collection.restricted = w.collection.restricted := by
  have hnarrowed := hv.narrowed
  rw [h.throughEach, h.items, hw.narrowed] at hnarrowed
  exact (Except.ok.inj hnarrowed).symm

theorem Peer.shown (h : v.Peer w) (hv : v.UpToDate) (hw : w.UpToDate) :
    v.collection.facets.map Facet.shown = w.collection.facets.map Facet.shown := by
  refine List.ext_getElem? fun place => ?_
  rw [List.getElem?_map, List.getElem?_map]
  cases hg : w.collection.facets[place]? with
  | none =>
    have hlength : v.collection.facets.length = w.collection.facets.length := h.forall₂.length_eq
    rw [List.getElem?_eq_none_iff, ← hlength, ← List.getElem?_eq_none_iff] at hg
    rw [hg]
  | some g =>
    obtain ⟨f, hf, heq⟩ := h.facet_at hg
    obtain ⟨input, hinput, hfacet⟩ := hv.shown place f hf
    obtain ⟨input', hinput', hfacet'⟩ := hw.shown place g hg
    obtain rfl : input = input' :=
      Except.ok.inj (hinput.symm.trans ((h.throughOthers place).trans hinput'))
    have hwould := Facet.wouldShow_congr h.scene (Facet.inner_eq_iff.mp heq).1 input
    rw [hf, Option.map_some, Option.map_some]
    exact congrArg some (Except.ok.inj (hfacet.symm.trans (hwould.trans hfacet')))

theorem Peer.states (h : v.Peer w) : v.collection.facets.map Facet.exportState =
    w.collection.facets.map Facet.exportState :=
  map_eq_of_forall₂ h.forall₂ fun f g heq => by
    rw [← f.exportState_settled v.scene, (Facet.inner_eq_iff.mp heq).1, g.exportState_settled]

/-! ## 4. Doing the same to peers -/

/-- What is done to a facet as a change of it: it says truthfully whether it was one, it comes to the same
    for facets with the same inner facet, and the facet keeps its id. -/
structure IsChange (act : Facet → Scene → Outcome Bool × Facet) : Prop where
  reports : ReportsChanges act
  alike : Facet.ActsAlike act
  id : ∀ f scene, (act f scene).2.id = f.id

theorem Peer.actedAt (h : v.Peer w) {act : Facet → Scene → Outcome Bool × Facet}
    (hact : Facet.ActsAlike act) {place : Nat} {f g : Facet} (heq : f.inner v.scene = g.inner w.scene) :
    (v.actedAt place act f).Peer (w.actedAt place act g) where
  store := h.store
  indexes := h.indexes
  items := h.items
  facets := by
    have hanswer := hact h.scene.alike heq
    have hfacet : (act f v.scene).2.inner v.scene = (act g w.scene).2.inner w.scene :=
      congrArg Prod.snd hanswer
    show (v.collection.facets.set place _).map (Facet.inner · v.scene) =
      (w.collection.facets.set place _).map (Facet.inner · w.scene)
    rw [List.map_set, List.map_set, h.facets, hfacet]

/-- The view with every facet changed. -/
def mapFacets (v : View) (change : Facet → Facet) : View :=
  { v with collection := { v.collection with facets := v.collection.facets.map change } }

theorem mapFacets_congr {change change' : Facet → Facet}
    (h : ∀ f ∈ v.collection.facets, change f = change' f) : v.mapFacets change = v.mapFacets change' := by
  unfold mapFacets
  rw [List.map_congr_left h]

theorem mapFacets_mapFacets (v : View) (change change' : Facet → Facet) :
    (v.mapFacets change).mapFacets change' = v.mapFacets fun f => change' (change f) := by
  unfold mapFacets
  dsimp only
  rw [List.map_map]
  rfl

theorem Peer.mapFacets (h : v.Peer w) {change : Facet → Facet}
    (hchange : ∀ f g : Facet, f.inner v.scene = g.inner w.scene →
      (change f).inner v.scene = (change g).inner w.scene) :
    (v.mapFacets change).Peer (w.mapFacets change) where
  store := h.store
  indexes := h.indexes
  items := h.items
  facets := by
    show (v.collection.facets.map change).map (Facet.inner · v.scene) =
      (w.collection.facets.map change).map (Facet.inner · w.scene)
    rw [List.map_map, List.map_map]
    exact map_eq_of_forall₂ h.forall₂ fun f g heq => hchange f g heq

/-- The view with all facets cleared. -/
def cleared (v : View) : View := v.mapFacets fun f => f.clear.2

/-- The view with those facets cleared whose id is among the given ones. -/
def clearedOf (v : View) (ids : List String) : View :=
  v.mapFacets fun f => if f.id ∈ ids then f.clear.2 else f

theorem clear_congr {f g : Facet} {scene scene' : Scene} (h : f.inner scene = g.inner scene') :
    f.clear.2.inner scene = g.clear.2.inner scene' := by
  rw [← Facet.clear_inner, h, Facet.clear_inner]

theorem Peer.cleared (h : v.Peer w) : v.cleared.Peer w.cleared := h.mapFacets fun _ _ => clear_congr

theorem Peer.clearedOf (h : v.Peer w) (ids : List String) :
    (v.clearedOf ids).Peer (w.clearedOf ids) :=
  h.mapFacets fun f g heq => by
    have hid : f.id = g.id := by rw [← f.id_inner v.scene, heq, g.id_inner]
    rw [hid]
    split
    · exact clear_congr heq
    · exact heq

theorem id_clear (f : Facet) : f.clear.2.id = f.id := by
  rw [← role_fst, Facet.role_clear, role_fst]

theorem clear_clear (f : Facet) : f.clear.2.clear.2 = f.clear.2 := by
  cases f <;> rfl

/-- Clearing one and then others is clearing all of these. -/
theorem clearedOf_clearedOf (v : View) (id : String) (ids : List String) :
    (v.clearedOf [id]).clearedOf ids = v.clearedOf (id :: ids) := by
  unfold View.clearedOf
  rw [mapFacets_mapFacets]
  refine mapFacets_congr fun f _ => ?_
  by_cases hid : f.id = id
  · simp [hid, id_clear, clear_clear]
  · simp [hid]

theorem clearedOf_all (v : View) : v.clearedOf (v.collection.facets.map Facet.id) = v.cleared :=
  mapFacets_congr fun _ hf => if_pos (List.mem_map_of_mem hf)

end View

end Faceted
