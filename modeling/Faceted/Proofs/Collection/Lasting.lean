import Faceted.Proofs.Collection.Retaining
import Faceted.Proofs.Facet.Failing

/-!
# What lasts in a collection

Facets are narrowed by, shown, and made to drop what they keep, whenever a collection works out its
items anew. A relation between a facet before and after that none of this breaks lasts through the
refreshes of the collection, whatever the store answers meanwhile and whatever fails.

* `Facet.Lasting` are these relations, `Facet.Becomes` is the closest one that every use of a facet
  stays in;
* `View.Lasts`: the collection is the same one, and each of its facets stands in the relation;
* `lasts_refresh`, **`lasts_changeFacetBy`**, **`lasts_batch`**: actions on a collection, whether they
  succeed or fail.
-/

namespace Faceted

open Faceted.Action

namespace Facet

/-! ## 1. Facets -/

/-- A relation between a facet before and after that refreshes do not break. -/
structure Lasting (r : Facet → Facet → Prop) : Prop where
  refl : ∀ f, r f f
  trans : ∀ {f g h}, r f g → r g h → r f h
  restrict : ∀ (f : Facet) scene items, r f (f.restrict scene items).2.1
  update : ∀ (f : Facet) scene items, r f (f.update scene items).2.1
  dropCaches : ∀ f : Facet, r f f.dropCaches

/-- What uses have made of a facet, whatever it saw then. -/
def Becomes : Facet → Facet → Prop :=
  Relation.ReflTransGen fun f g => ∃ scene store, f.Use scene g store

theorem becomes_use {f g : Facet} {scene : Scene} {store : Store} (h : f.Use scene g store) :
    f.Becomes g := .single ⟨scene, store, h⟩

theorem lasting_becomes : Lasting Becomes where
  refl _ := .refl
  trans := Relation.ReflTransGen.trans
  restrict _ _ items := becomes_use (.restrict items)
  update _ _ items := becomes_use (.update items)
  dropCaches _ := .single ⟨⟨Store.empty, ∅⟩, Store.empty, .dropCaches⟩

theorem becomes_perform (f : Facet) (scene : Scene) (change : Change) :
    f.Becomes (f.perform scene change).2 := becomes_use (.perform change)

/-- What holds of every use holds of what uses have made of a facet. -/
theorem Becomes.induct {P : Facet → Prop} (hP : ∀ {f g scene store}, f.Use scene g store → P f → P g)
    {f g : Facet} (h : f.Becomes g) (hf : P f) : P g := by
  induction h with
  | refl => exact hf
  | tail _ huse ih =>
    obtain ⟨scene, store, huse⟩ := huse
    exact hP huse ih

/-- The same facet all the while. -/
theorem role_use {f g : Facet} {scene : Scene} {store : Store} (h : f.Use scene g store) :
    g.role = f.role := by
  have hsettled (h : g.settled scene = f.settled scene) : g.role = f.role := by
    rw [← role_settled g scene, h, role_settled]
  cases h with
  | restrict items => exact hsettled (f.settled_restrict scene items)
  | update items => exact hsettled (f.settled_update scene items)
  | perform change => exact f.role_perform scene change
  | dropCaches => exact f.role_dropCaches

theorem Becomes.role {f g : Facet} (h : f.Becomes g) : g.role = f.role :=
  h.induct (P := fun g => g.role = f.role) (fun huse hg => (role_use huse).trans hg) rfl

end Facet

theorem Collection.dropFacet_of_missing {c : Collection} {id : String} (h : c.facet? id = none) :
    c.dropFacet id = c := by
  have hkept : c.facets.eraseP (fun f => f.id == id) = c.facets :=
    List.eraseP_of_forall_not (List.find?_eq_none.mp h)
  rw [Collection.dropFacet, hkept]

namespace View

/-! ## 2. Refreshing -/

/-- Whether it succeeds or fails, the action leaves the collection the same one, and each of its facets
    is related to the one before. -/
def Lasts {α : Type} (r : Facet → Facet → Prop) (act : Action View α) : Prop :=
  Obeys (fun _ v w => v.collection.Retains r w.collection) act

section Lasting

variable {r : Facet → Facet → Prop} (hr : Facet.Lasting r)

include hr

theorem same_facets (fs : List Facet) : List.Forall₂ r fs fs :=
  List.forall₂_same.mpr fun f _ => hr.refl f

theorem frame_lasts : Frame fun _ (v w : View) => v.collection.Retains r w.collection where
  refl _ _ := ⟨rfl, rfl, same_facets hr _⟩
  trans h h' :=
    ⟨h.id.trans h'.id, h.source.trans h'.source, forall₂_trans h.facets h'.facets hr.trans⟩

/-- Changes of a collection that are not about its id, its source and its facets. -/
theorem lasts_modify {f : Collection → Collection} (hid : ∀ c, (f c).id = c.id)
    (hsource : ∀ c, (f c).source = c.source) (hfacets : ∀ c, (f c).facets = c.facets) :
    Lasts r (modify f) := fun v =>
  ⟨(hid _).symm, (hsource _).symm, (hfacets v.collection) ▸ same_facets hr _⟩

theorem lasts_atPlace {α : Type} {place : Nat} {otherwise : α}
    {act : Facet → Scene → Outcome α × Facet × Store} (h : ∀ f scene, r f (act f scene).2.1) :
    Lasts r (atPlace place otherwise act) := by
  intro v
  unfold atPlace
  split
  · exact (frame_lasts hr).refl true v
  · next f hf => exact ⟨rfl, rfl, forall₂_set hr.refl hf (h f v.scene)⟩

theorem lasts_restrictAt (place : Nat) (items : KeySet) : Lasts r (restrictAt place items) := by
  refine lasts_atPlace hr fun f scene => ?_
  split
  · exact hr.restrict f scene items
  · exact hr.refl f

theorem lasts_updateAt (place : Nat) (items : KeySet) : Lasts r (updateAt place items) :=
  lasts_atPlace hr fun f scene => hr.update f scene items

theorem lasts_narrow : ∀ (places : List Nat) (items : KeySet), Lasts r (narrow places items)
  | [], items => (frame_lasts hr).pure items
  | place :: rest, items =>
    (frame_lasts hr).bind (lasts_restrictAt hr place items) (lasts_narrow rest)

theorem lasts_inputAt (several : Bool) (place : Nat) : Lasts r (inputAt several place) := by
  refine (frame_lasts hr).bind (frame_lasts hr).state fun v => ?_
  split
  · exact (frame_lasts hr).pure _
  · split
    · exact (frame_lasts hr).pure _
    · exact lasts_narrow hr _ _

theorem lasts_updateFacets : Lasts r updateFacets :=
  (frame_lasts hr).bind (frame_lasts hr).state fun v =>
    (frame_lasts hr).bind ((frame_lasts hr).collect (lasts_inputAt hr _) v.places) fun _ =>
      (frame_lasts hr).each (fun (place, items) => lasts_updateAt hr place items) _

theorem lasts_tell (event : CollectionEvent) : Lasts r (tell event) :=
  lasts_modify hr (fun _ => rfl) (fun _ => rfl) fun _ => rfl

theorem lasts_refresh : Lasts r refresh :=
  (frame_lasts hr).bind
    ((frame_lasts hr).bind (frame_lasts hr).state fun _ =>
      (frame_lasts hr).bind (lasts_narrow hr _ _) fun _ =>
        lasts_modify hr (fun _ => rfl) (fun _ => rfl) fun _ => rfl)
    fun _ => (frame_lasts hr).bind (lasts_updateFacets hr) fun _ => lasts_tell hr _

theorem lasts_rootChanged : Lasts r rootChanged := by
  have hdrop (v : View) : List.Forall₂ r v.collection.facets
      (v.collection.facets.map Facet.dropCaches) := by
    rw [List.forall₂_map_right_iff]
    exact List.forall₂_same.mpr fun f _ => hr.dropCaches f
  exact (frame_lasts hr).bind (fun v => ⟨rfl, rfl, hdrop v⟩) fun _ =>
    (frame_lasts hr).bind (lasts_tell hr _) fun _ => lasts_refresh hr

theorem lasts_reroot : Lasts r reroot :=
  (frame_lasts hr).bind (fun _ => ⟨rfl, rfl, same_facets hr _⟩) fun _ => lasts_rootChanged hr

theorem lasts_setRoot (items : KeySet) : Lasts r (setRoot items) :=
  (frame_lasts hr).bind (lasts_modify hr (fun _ => rfl) (fun _ => rfl) fun _ => rfl) fun _ =>
    lasts_rootChanged hr

/-! ## 3. Changing facets -/

theorem lasts_facetChanged : Lasts r facetChanged := by
  refine (frame_lasts hr).bind (frame_lasts hr).state fun v => ?_
  split
  · exact (frame_lasts hr).pure ()
  · exact lasts_refresh hr

/-- **What is done to a facet** is all that breaks the relation, if it does. -/
theorem lasts_changeFacetBy {act : Facet → Scene → Outcome Bool × Facet}
    (hact : ∀ f scene, r f (act f scene).2) (id : String) : Lasts r (changeFacetBy id act) := by
  refine (frame_lasts hr).bind (frame_lasts hr).state fun v => ?_
  split
  · exact (frame_lasts hr).fail _
  · refine (frame_lasts hr).bind (lasts_atPlace hr fun f scene => hact f scene) fun changed => ?_
    dsimp only
    split
    · exact (frame_lasts hr).bind (lasts_facetChanged hr) fun _ => (frame_lasts hr).pure _
    · exact (frame_lasts hr).pure _

/-- After something has been done to a facet, all facets are related to what they were then. -/
theorem lasts_actedAt (act : Facet → Scene → Outcome Bool × Facet) {v : View} {id : String}
    {place : Nat} {f : Facet} (hplace : v.collection.place? id = some place)
    (hf : v.collection.facets[place]? = some f) :
    (v.actedAt place act f).collection.Retains r (changeFacetBy id act v).2.collection := by
  rw [changeFacetBy_apply, hplace]
  dsimp only
  rw [hf]
  dsimp only
  split
  · exact (frame_lasts hr).refl true _
  · exact (frame_lasts hr).refl true _
  · have hchanged := lasts_facetChanged hr (v.actedAt place act f)
    split <;> next heq =>
      rw [heq] at hchanged
      exact hchanged

theorem lasts_batch {α : Type} {act : Action View α} (hact : Lasts r act) : Lasts r (batch act) := by
  have hupdating (updating : Bool) : Lasts r (modify fun c => { c with updating }) :=
    lasts_modify hr (fun _ => rfl) (fun _ => rfl) fun _ => rfl
  have hattempt {β : Type} {act : Action View β} (h : Lasts r act) : Lasts r (attempt act) := h
  refine (frame_lasts hr).bind (hupdating true) fun _ =>
    (frame_lasts hr).bind (hattempt hact) fun outcome =>
      (frame_lasts hr).bind (hupdating false) fun _ =>
        (frame_lasts hr).bind (hattempt (lasts_refresh hr)) fun refreshed => ?_
  exact (frame_lasts hr).bind ((frame_lasts hr).ofOutcome outcome) fun _ =>
    (frame_lasts hr).bind ((frame_lasts hr).ofOutcome refreshed) fun _ => (frame_lasts hr).pure _

/-- Taking over states, if the relation allows for the state that each facet is given. -/
theorem lasts_restoreFacets {s : BrowserState}
    (h : ∀ collection f, r f (f.orStay (f.importState (s.target collection f))).2) :
    Lasts r (Browser.restoreFacets s) := by
  refine (frame_lasts hr).bind (frame_lasts hr).state fun v => lasts_batch hr ?_
  exact (frame_lasts hr).anyOf (fun id => lasts_changeFacetBy hr (fun f _ => h _ f) id) _

/-! ## 4. Adding and removing facets -/

/-- A facet with a new id is added, unless it cannot be shown. -/
theorem addFacet_new {f : Facet} {v : View} (hnew : v.collection.hasFacet f.id = false) :
    (∃ failure, failure.IsEvaluation ∧ (addFacet f v).1 = .error failure ∧
        v.collection.Retains r (addFacet f v).2.collection) ∨
      (v.collection.pushFacet f).Retains r (addFacet f v).2.collection := by
  rw [addFacet_apply, hnew, if_neg Bool.false_ne_true]
  split
  · exact .inr (lasts_refresh hr (v.withFacet f))
  · have hupdate := hr.update f v.scene v.collection.restricted
    have hfails := f.update_fails v.scene v.collection.restricted
    generalize f.update v.scene v.collection.restricted = answer at hupdate hfails
    obtain ⟨outcome, g, store⟩ := answer
    cases outcome with
    | error failure => exact .inl ⟨failure, hfails failure rfl, rfl, rfl, rfl, same_facets hr _⟩
    | ok done =>
      have hlast : List.Forall₂ r [f] [g] := .cons hupdate .nil
      exact .inr ⟨rfl, rfl, List.rel_append (same_facets hr v.collection.facets) hlast⟩

/-- A facet is added, or all is as it was. -/
theorem lasts_addFacet (f : Facet) (v : View) :
    v.collection.Retains r (addFacet f v).2.collection ∨
      v.collection.hasFacet f.id = false ∧
        (v.collection.pushFacet f).Retains r (addFacet f v).2.collection := by
  cases hnew : v.collection.hasFacet f.id with
  | true =>
    rw [addFacet_apply, hnew, if_pos rfl]
    exact .inl ⟨rfl, rfl, same_facets hr _⟩
  | false =>
    rcases addFacet_new hr hnew with ⟨-, -, -, hsame⟩ | hpushed
    · exact .inl hsame
    · exact .inr ⟨rfl, hpushed⟩

/-- Whether it is there or not, the facet is gone. -/
theorem lasts_removeFacet (id : String) (v : View) :
    (v.collection.dropFacet id).Retains r (removeFacet id v).2.collection := by
  rw [removeFacet_apply]
  split
  · next hmissing =>
    rw [Collection.dropFacet_of_missing hmissing]
    exact ⟨rfl, rfl, same_facets hr _⟩
  · split
    · have hrefresh := lasts_refresh hr (v.withoutFacet id)
      generalize refresh (v.withoutFacet id) = answer at hrefresh
      obtain ⟨outcome, w⟩ := answer
      cases outcome <;> exact hrefresh
    · exact ⟨rfl, rfl, same_facets hr _⟩

end Lasting

end View

end Faceted
