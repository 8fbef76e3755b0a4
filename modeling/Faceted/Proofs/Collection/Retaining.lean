import Faceted.Proofs.Collection.Moments
import Faceted.Proofs.Facet.Reselected
import Faceted.Proofs.Facet.Sameness

/-!
# What a collection retains

Whatever becomes of an operation on a collection that neither adds nor removes facets, the collection
has its id, its source and its facets as they were set up, and the store answers as before.

* `View.Retains` is the relation, with a relation between facets as a parameter: `Facet.Reselected` for
  operations that change selections, the same bare facet for those that do not;
* `retains_refresh`, `retains_setRoot`, `retains_changeFacetBy` and **`retains_batch`**: operations
  retain, whether they succeed or fail.
-/

namespace Faceted

/-! ## 1. Collections -/

/-- A relation between a facet before and after, to be followed from step to step, that does not look
    at what is kept, shown or typed. -/
structure Facet.Alteration (r : Facet → Facet → Prop) : Prop where
  of_bare : ∀ {f g : Facet}, f.bare = g.bare → r f g
  trans : ∀ {f g h : Facet}, r f g → r g h → r f h

namespace Facet

/-- The facets differ at most in what is kept, shown and typed. -/
def SameBare (f g : Facet) : Prop := f.bare = g.bare

theorem alteration_sameBare : Alteration SameBare := ⟨fun h => h, Eq.trans⟩

theorem alteration_reselected : Alteration Reselected := ⟨.of_bare, .trans⟩

theorem Alteration.of_forall₂_bare {r : Facet → Facet → Prop} (hr : Alteration r)
    {fs gs : List Facet} (h : List.Forall₂ SameBare fs gs) : List.Forall₂ r fs gs :=
  h.imp fun _ _ => hr.of_bare

theorem Alteration.same {r : Facet → Facet → Prop} (hr : Alteration r) (fs : List Facet) :
    List.Forall₂ r fs fs :=
  List.forall₂_same.mpr fun _ _ => hr.of_bare rfl

end Facet

/-- The collection is the same one, and its facets have been altered at most. -/
structure Collection.Retains (r : Facet → Facet → Prop) (c d : Collection) : Prop where
  id : c.id = d.id
  source : c.source = d.source
  facets : List.Forall₂ r c.facets d.facets

namespace Collection.Retains

variable {r : Facet → Facet → Prop} (hr : Facet.Alteration r)

include hr

theorem refl (c : Collection) : c.Retains r c := ⟨rfl, rfl, hr.same c.facets⟩

theorem trans {c d e : Collection} (h : c.Retains r d) (h' : d.Retains r e) : c.Retains r e :=
  ⟨h.id.trans h'.id, h.source.trans h'.source, forall₂_trans h.facets h'.facets hr.trans⟩

end Collection.Retains

namespace View

open Faceted.Action

/-- The collection is the same one with its facets altered at most, and the store answers as
    before. -/
structure Retains (r : Facet → Facet → Prop) (v w : View) : Prop where
  store : v.store.Alike w.store
  indexes : v.store.SameIndexes w.store
  collection : v.collection.Retains r w.collection

/-- What stands for the same has the same facets, apart from what is kept and shown. -/
theorem Twin.retains {v w : View} (h : v.Twin w) : v.Retains Facet.SameBare w where
  store := h.same.store
  indexes := h.indexes
  collection := ⟨h.same.id, h.same.source,
    (map_eq_iff_forall₂.mp h.same.facets).imp fun _ _ => Facet.bare_of_settled⟩

/-- Changes of a collection that are not about its id, its source and its facets. -/
theorem retains_modify {r : Facet → Facet → Prop} {f : Collection → Collection}
    (h : ∀ c : Collection, c.Retains r (f c)) : Obeys (fun _ => Retains r) (modify f) := fun v =>
  ⟨Store.Alike.refl _, Store.SameIndexes.refl _, h v.collection⟩

section Retaining

variable {r : Facet → Facet → Prop} (hr : Facet.Alteration r)

include hr

theorem frame_retains : Frame fun _ => Retains r where
  refl _ _ := ⟨Store.Alike.refl _, Store.SameIndexes.refl _, .refl hr _⟩
  trans h h' := ⟨h.store.trans h'.store, h.indexes.trans h'.indexes,
    h.collection.trans hr h'.collection⟩

theorem Retains.of_bare {v w : View} (h : v.Retains Facet.SameBare w) : v.Retains r w :=
  ⟨h.store, h.indexes, h.collection.id, h.collection.source, hr.of_forall₂_bare h.collection.facets⟩

theorem retains_withUpdating (v : View) (updating : Bool) : v.Retains r (v.withUpdating updating) :=
  ⟨Store.Alike.refl _, Store.SameIndexes.refl _, rfl, rfl, hr.same v.collection.facets⟩

theorem retains_refresh : Obeys (fun _ => Retains r) refresh := by
  have hframe := frame_retains hr
  have htwin {α : Type} {act : Action View α} (h : KeepsTwin act) : Obeys (fun _ => Retains r) act :=
    fun v => .of_bare hr (Twin.retains (h v))
  refine hframe.bind (hframe.bind hframe.state fun v => ?_) fun _ => hframe.bind ?_ fun _ => ?_
  · refine hframe.bind (htwin (keepsTwin_narrow v.places _)) fun _ => ?_
    exact retains_modify fun c => ⟨rfl, rfl, hr.same c.facets⟩
  · refine hframe.bind hframe.state fun v => ?_
    refine hframe.bind (hframe.collect (fun p => htwin (keepsTwin_inputAt _ p)) _) fun _ => ?_
    exact hframe.each (fun (place, items) => htwin (keepsTwin_updateAt place items)) _
  · exact retains_modify fun c => ⟨rfl, rfl, hr.same c.facets⟩

theorem retains_setRoot (items : KeySet) : Obeys (fun _ => Retains r) (setRoot items) := by
  have hframe := frame_retains hr
  refine hframe.bind (retains_modify fun c => ⟨rfl, rfl, hr.same c.facets⟩) fun _ =>
    hframe.bind (retains_modify fun c => ⟨rfl, rfl, ?_⟩) fun _ =>
      hframe.bind (retains_modify fun c => ⟨rfl, rfl, hr.same c.facets⟩) fun _ => retains_refresh hr
  rw [List.forall₂_map_right_iff]
  exact List.forall₂_same.mpr fun f _ => hr.of_bare f.bare_dropCaches.symm

/-- A facet is put where one stood that it was made from. -/
theorem retains_putFacet {v : View} {place : Nat} {f g : Facet}
    (hf : v.collection.facets[place]? = some f) (hfg : r f g) :
    v.Retains r (v.putFacet place g v.store) :=
  ⟨Store.Alike.refl _, Store.SameIndexes.refl _, rfl, rfl,
    forall₂_set (fun _ => hr.of_bare rfl) hf hfg⟩

theorem retains_facetChanged : Obeys (fun _ => Retains r) facetChanged := by
  have hframe := frame_retains hr
  refine hframe.bind hframe.state fun v => ?_
  split
  · exact hframe.pure ()
  · exact retains_refresh hr

theorem retains_changeFacetBy {act : Facet → Scene → Outcome Bool × Facet}
    (hact : ∀ f scene, r f (act f scene).2) (id : String) :
    Obeys (fun _ => Retains r) (changeFacetBy id act) := by
  intro v
  rw [changeFacetBy_apply]
  split
  · exact (frame_retains hr).refl true v
  · next place _ =>
    split
    · exact (frame_retains hr).refl true v
    · next f hf =>
      have hacted : v.Retains r (v.actedAt place act f) :=
        retains_putFacet hr hf (hact f v.scene)
      split
      · exact hacted
      · exact hacted
      · have hchanged := retains_facetChanged hr (v.actedAt place act f)
        split <;> next heq =>
          rw [heq] at hchanged
          exact @(frame_retains hr).trans true _ _ _ hacted hchanged

theorem retains_batch {α : Type} {act : Action View α} (hact : Obeys (fun _ => Retains r) act) :
    Obeys (fun _ => Retains r) (batch act) := by
  intro v
  rw [batch_apply]
  have htrans {u v w : View} : u.Retains r v → v.Retains r w → u.Retains r w :=
    @(frame_retains hr).trans true u v w
  have hheld : v.Retains r (act (v.withUpdating true)).2 :=
    htrans (retains_withUpdating hr v true) (hact _)
  exact htrans (htrans hheld (retains_withUpdating hr _ false)) (retains_refresh hr _)

end Retaining

end View

end Faceted
