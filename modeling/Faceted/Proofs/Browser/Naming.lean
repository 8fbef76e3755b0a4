import Faceted.Proofs.Browser.Lasting
import Faceted.Proofs.Store.Anonymous

/-!
# Ids that are given by counting

A collection or a facet that is added without an id is called by the number of those that are there. The
number may have been given out before: facets are removed, and then a number comes again; and callers may
choose ids that look like these. That is all that can make such an id one that is taken.

* `Renaming`: what a step may make of the ids of the facets of a collection; `renaming_after` is the
  step, and `Grows` the same for the ids of the collections;
* `Happens`: something happens at a moment of a run;
* `Occupies`: a facet is added under an id that will come up, and stays;
* **`counted_taken_iff`**: exactly when an id that is given by counting is taken;
* **`facet1_taken`**: two facets are added and the first of them is removed; then no facet can be added
  without an id.
-/

namespace Faceted

open Faceted.Action
open Faceted.Facet (lasting_becomes)

/-! ## 1. Ids that cannot be alike -/

/-- Ids that do not begin alike differ. -/
theorem append_ne {s t : String} (h : s.toList.head? ≠ t.toList.head?) (hs : s.toList ≠ [])
    (ht : t.toList ≠ []) (u v : String) : s ++ u ≠ t ++ v := by
  intro heq
  have hlist := congrArg (fun x => x.toList.head?) heq
  simp only [String.toList_append] at hlist
  rw [List.head?_append_of_ne_nil _ hs, List.head?_append_of_ne_nil _ ht] at hlist
  exact h hlist

namespace Browser

theorem counted_ne_derivedId (n : Nat) (collection : String) :
    "facet" ++ toString n ≠ derivedId collection :=
  append_ne (s := "facet") (t := "collection:") (by decide) (by decide) (by decide) _ _

theorem counted_ne_defaultId (n : Nat) : "collection" ++ toString n ≠ defaultId := by
  have h := append_ne (s := "collection") (t := "default") (by decide) (by decide) (by decide)
    (toString n) ""
  rwa [String.append_empty] at h

variable {b b' : Browser} {collection id : String}

/-! ## 2. Ids of collections and facets -/

/-- The ids of the collections. -/
def ids (b : Browser) : List String := b.collections.map Collection.id

/-- The ids of the facets of the collection of an id. -/
def idsIn (cs : List Collection) (collection : String) : List String :=
  ((cs.find? fun c => c.id == collection).map fun c => c.facets.map Facet.id).getD []

/-- The ids of the facets of a collection; there are none if there is no such collection. -/
def facetIds (b : Browser) (collection : String) : List String := idsIn b.collections collection

theorem idsIn_cons (c : Collection) (cs : List Collection) (collection : String) :
    idsIn (c :: cs) collection =
      if c.id = collection then c.facets.map Facet.id else idsIn cs collection := by
  unfold idsIn
  rw [List.find?_cons]
  split
  · next h => rw [if_pos (beq_iff_eq.mp h)]; rfl
  · next h => rw [if_neg (beq_eq_false_iff_ne.mp h)]

theorem idsIn_of_retains {cs ds : List Collection}
    (h : List.Forall₂ (Collection.Retains Facet.Becomes) cs ds) (collection : String) :
    idsIn cs collection = idsIn ds collection := by
  induction h with
  | nil => rfl
  | cons hfirst _ ih =>
    rw [idsIn_cons, idsIn_cons, ih, hfirst.id,
      map_eq_of_forall₂ hfirst.facets fun _ _ => Facet.Becomes.id]

theorem ids_of_retains
    (h : List.Forall₂ (Collection.Retains Facet.Becomes) b.collections b'.collections) :
    b.ids = b'.ids :=
  map_eq_of_forall₂ h fun _ _ => Collection.Retains.id

theorem idsIn_of_mem {cs : List Collection} (hids : (cs.map Collection.id).Nodup) {c : Collection}
    (hc : c ∈ cs) : idsIn cs c.id = c.facets.map Facet.id := by
  induction cs with
  | nil => cases hc
  | cons d ds ih =>
    obtain ⟨hnew, hrest⟩ := List.nodup_cons.mp hids
    rw [idsIn_cons]
    rcases List.mem_cons.mp hc with rfl | hc
    · exact if_pos rfl
    · have hne : d.id ≠ c.id := fun heq => hnew (heq ▸ List.mem_map_of_mem hc)
      rw [if_neg hne]
      exact ih hrest hc

/-- A collection takes the place of one with the same id. -/
theorem idsIn_set {cs : List Collection} (hids : (cs.map Collection.id).Nodup) {place : Nat}
    {c d : Collection} (hc : cs[place]? = some c) (hid : d.id = c.id) (collection : String) :
    idsIn (cs.set place d) collection =
      if c.id = collection then d.facets.map Facet.id else idsIn cs collection := by
  induction cs generalizing place with
  | nil => cases hc
  | cons e es ih =>
    obtain ⟨hnew, hrest⟩ := List.nodup_cons.mp hids
    cases place with
    | zero =>
      obtain rfl := Option.some.inj hc
      rw [List.set_cons_zero, idsIn_cons, idsIn_cons, hid]
      split <;> rfl
    | succ place =>
      have hne : e.id ≠ c.id := fun heq => hnew (heq ▸ List.mem_map_of_mem (List.mem_of_getElem? hc))
      rw [List.set_cons_succ, idsIn_cons, idsIn_cons, ih hrest hc]
      by_cases heq : e.id = collection
      · rw [if_pos heq, if_pos heq, if_neg fun hcid => hne (heq.trans hcid.symm)]
      · rw [if_neg heq, if_neg heq]

theorem idsIn_pushFacet {cs : List Collection} (hids : (cs.map Collection.id).Nodup) {place : Nat}
    {c : Collection} (hc : cs[place]? = some c) (f : Facet) (collection : String) :
    idsIn (cs.set place (c.pushFacet f)) collection =
      if c.id = collection then idsIn cs collection ++ [f.id] else idsIn cs collection := by
  rw [idsIn_set hids hc (d := c.pushFacet f) rfl]
  split
  · next heq =>
    subst heq
    rw [idsIn_of_mem hids (List.mem_of_getElem? hc)]
    exact List.map_append
  · rfl

/-- Another collection comes without facets. -/
theorem idsIn_append_new (cs : List Collection) (name : String) (source : ItemSource)
    (collection : String) : idsIn (cs ++ [.new name source]) collection = idsIn cs collection := by
  induction cs with
  | nil =>
    rw [List.nil_append, idsIn_cons]
    split <;> rfl
  | cons c cs ih => rw [List.cons_append, idsIn_cons, idsIn_cons, ih]

theorem Named.facetIds_eq (hb : b.Named) {place : Nat} {c : Collection}
    (hc : b.collections[place]? = some c) : b.facetIds c.id = c.facets.map Facet.id :=
  idsIn_of_mem hb.collections_nodup (List.mem_of_getElem? hc)

theorem Named.facetIds_nodup (hb : b.Named) (collection : String) : (b.facetIds collection).Nodup := by
  unfold facetIds idsIn
  cases hfind : b.collections.find? fun c => c.id == collection with
  | none => exact List.nodup_nil
  | some c => exact hb.facets _ (List.mem_map_of_mem (List.mem_of_find?_eq_some hfind))

theorem placeOf_error {failure : Failure} (h : b.placeOf collection = .error failure) :
    failure = .data (.noCollection collection) := by
  unfold placeOf at h
  split at h
  · cases h
  · exact (Except.error.inj h).symm

/-- A collection that is not found has no facets. -/
theorem facetIds_of_unplaced {failure : Failure} (h : b.placeOf collection = .error failure) :
    b.facetIds collection = [] := by
  unfold placeOf at h
  split at h
  · cases h
  · next hnone =>
    unfold facetIds idsIn
    rw [List.find?_eq_none.mpr (List.findIdx?_eq_none_iff.mp hnone · · |> Bool.eq_false_iff.mp)]
    rfl

theorem mem_facetIds_iff (hb : b.Named) {place : Nat} {c : Collection}
    (hc : b.collections[place]? = some c) : id ∈ b.facetIds c.id ↔ c.hasFacet id = true := by
  rw [hb.facetIds_eq hc]
  unfold Collection.hasFacet
  simp

end Browser

/-! ## 3. One step -/

theorem FacetConfig.id_build {config : FacetConfig} {settings : Settings} {place : Nat} {f : Facet}
    (h : config.build settings place = .ok f) : f.id = config.idAt place := by
  have hselect (l : ListFacet) : (config.selectFirst l).id = l.id := by
    unfold selectFirst
    split <;> rfl
  unfold build at h
  cases hclass : config.class? with
  | error failure =>
    rw [hclass] at h
    cases h
  | ok c =>
    rw [hclass] at h
    cases c <;> rw [← Except.ok.inj h] <;> first | rfl | exact hselect _

open Browser in
/-- What a step may make of the ids of the facets of a collection. -/
inductive Renaming (collection : String) (step : BrowserStep) (ids : List String) :
    List String → Prop where
  | same (hstep : ∀ id, step ≠ .operation (.removeFacet collection id)) :
    Renaming collection step ids ids
  | added {config : FacetConfig} (hstep : step = .operation (.addFacet collection config))
    (hnew : config.idAt ids.length ∉ ids) :
    Renaming collection step ids (ids ++ [config.idAt ids.length])
  /-- A new collection is to narrow this one. -/
  | derived {config : CollectionConfig} (hstep : step = .operation (.createCollection config))
    (name : String) : Renaming collection step ids (ids ++ [derivedId name])
  | removed {id : String} (hstep : step = .operation (.removeFacet collection id)) :
    Renaming collection step ids (ids.erase id)

namespace Renaming

open Browser

variable {collection id : String} {step : BrowserStep} {ids ids' : List String}
  (h : Renaming collection step ids ids')

include h

/-- An id stays unless its removal is asked for. -/
theorem mem_of_mem (hid : id ∈ ids) (hkept : step ≠ .operation (.removeFacet collection id)) :
    id ∈ ids' := by
  cases h with
  | same _ => exact hid
  | added _ _ => exact List.mem_append_left _ hid
  | derived _ _ => exact List.mem_append_left _ hid
  | @removed id' hstep =>
    have hne : id ≠ id' := by
      rintro rfl
      exact hkept hstep
    exact (List.mem_erase_of_ne hne).mpr hid

/-- Where an id comes from. -/
theorem mem_cases (hids : ids.Nodup) (hid : id ∈ ids') :
    (id ∈ ids ∧ step ≠ .operation (.removeFacet collection id)) ∨ (∃ name, id = derivedId name) ∨
      id ∉ ids ∧ ∃ config, step = .operation (.addFacet collection config) ∧
        config.idAt ids.length = id := by
  cases h with
  | same hstep => exact .inl ⟨hid, hstep id⟩
  | added hstep hnew =>
    rcases List.mem_append.mp hid with hid | hid
    · exact .inl ⟨hid, hstep ▸ nofun⟩
    · obtain rfl := List.mem_singleton.mp hid
      exact .inr (.inr ⟨hnew, _, hstep, rfl⟩)
  | derived hstep name =>
    rcases List.mem_append.mp hid with hid | hid
    · exact .inl ⟨hid, hstep ▸ nofun⟩
    · exact .inr (.inl ⟨name, List.mem_singleton.mp hid⟩)
  | @removed id' hstep =>
    obtain ⟨hne, hid⟩ := hids.mem_erase_iff.mp hid
    refine .inl ⟨hid, ?_⟩
    rw [hstep]
    rintro ⟨⟩
    exact hne rfl

/-- There are no fewer ids than before, unless one of them is removed. -/
theorem length_le (hkept : ∀ id ∈ ids, step ≠ .operation (.removeFacet collection id)) :
    ids.length ≤ ids'.length := by
  cases h with
  | same _ => exact le_rfl
  | added _ _ => simp
  | derived _ _ => simp
  | @removed id hstep => rw [List.erase_of_not_mem fun hid => hkept id hid hstep]

theorem length_lt (hnew : id ∉ ids) (hid : id ∈ ids') : ids.length < ids'.length := by
  cases h with
  | same _ => exact absurd hid hnew
  | added _ _ => simp
  | derived _ _ => simp
  | removed _ => exact absurd (List.mem_of_mem_erase hid) hnew

end Renaming

namespace BrowserStep

open Browser

variable {b : Browser} {step : BrowserStep}

theorem renaming_addFacet (hb : b.Named) (name : String) (config : FacetConfig) (collection : String) :
    Renaming collection (.operation (.addFacet name config)) (b.facetIds collection)
      (idsIn (attachFacet name config b).2.collections collection) := by
  have hsame : ∀ id, BrowserStep.operation (.addFacet name config) ≠
      .operation (.removeFacet collection id) := fun _ => nofun
  have hattaching := attaching_attachFacet name config b
  generalize attachFacet name config b = answer at hattaching
  cases hattaching with
  | unplaced _ => exact .same hsame
  | unbuilt _ _ _ => exact .same hsame
  | refused _ _ _ _ => exact .same hsame
  | unshown _ _ _ _ _ h =>
    rw [← idsIn_of_retains h]
    exact .same hsame
  | @attached place c f _ hplace hc hf hnew h =>
    obtain ⟨-, c', hc', rfl⟩ := placeOf_ok hplace
    obtain rfl := Option.some.inj (hc.symm.trans hc')
    rw [← idsIn_of_retains h, idsIn_pushFacet hb.collections_nodup hc]
    split
    · next heq =>
      subst heq
      have hids := hb.facetIds_eq hc
      have hid : f.id = config.idAt (b.facetIds c.id).length := by
        rw [hids, List.length_map]
        exact FacetConfig.id_build hf
      rw [hid]
      refine .added rfl ?_
      rw [← hid, hids]
      exact not_mem_ids hnew
    · exact .same hsame

/-- The facets of the id are gone, and no others. -/
theorem renaming_removeFacet (hb : b.Named) (name facet collection : String) :
    Renaming collection (.operation (.removeFacet name facet)) (b.facetIds collection)
      (idsIn (detachFacet name facet b).2.collections collection) := by
  have hother (hne : name ≠ collection) : ∀ id, BrowserStep.operation (.removeFacet name facet) ≠
      .operation (.removeFacet collection id) := by
    rintro id ⟨⟩
    exact hne rfl
  cases hplace : b.placeOf name with
  | error failure =>
    rw [detachFacet_of_unplaced hplace]
    by_cases hname : name = collection
    · subst hname
      have hnone : (b.facetIds name).erase facet = b.facetIds name := by
        rw [facetIds_of_unplaced hplace]
        rfl
      have hremoved : Renaming name (.operation (.removeFacet name facet)) (b.facetIds name) _ :=
        .removed rfl
      rwa [hnone] at hremoved
    · exact .same (hother hname)
  | ok place =>
    obtain ⟨-, c, hc, rfl⟩ := placeOf_ok hplace
    rw [← idsIn_of_retains (lasts_detachFacet hplace hc),
      idsIn_set hb.collections_nodup hc (d := c.dropFacet facet) rfl]
    split
    · next heq =>
      subst heq
      rw [ids_dropFacet, ← hb.facetIds_eq hc]
      exact .removed rfl
    · next hname => exact .same (hother hname)

theorem renaming_createCollection (hb : b.Named) (config : CollectionConfig) (collection : String) :
    Renaming collection (.operation (.createCollection config)) (b.facetIds collection)
      (idsIn (buildCollection config b).2.collections collection) := by
  have hsame : ∀ id, BrowserStep.operation (.createCollection config) ≠
      .operation (.removeFacet collection id) := fun _ => nofun
  have hhalf {source : ItemSource} (hadmits : b.Admits (b.newId config) source) :
      Renaming collection (.operation (.createCollection config)) (b.facetIds collection)
        ((b.halfMade (b.newId config) source).facetIds collection) := by
    unfold halfMade facetIds
    rw [idsIn_append_new]
    rcases hadmits.withNewDerived_cases with ⟨-, heq⟩ | ⟨e, place, c, -, hc, -, heq⟩
    · rw [heq]
      exact .same hsame
    · rw [heq, idsIn_pushFacet hb.collections_nodup hc]
      split
      · exact .derived rfl _
      · exact .same hsame
  have hcreation := creation_buildCollection config b
  generalize buildCollection config b = answer at hcreation
  cases hcreation with
  | refused _ => exact .same hsame
  | halfMade _ hadmits _ => exact hhalf hadmits
  | made _ hadmits hroot =>
    rw [← idsIn_of_retains ((lasts_reroot lasting_becomes _).ok hroot)]
    exact hhalf hadmits

/-- **What one step makes of the ids** of the facets of a collection, whatever fails. -/
theorem renaming_after (hb : b.Named) (huses : step.GoesByUses) (collection : String) :
    Renaming collection step (b.facetIds collection) ((step.after b).facetIds collection) := by
  cases hsetsUp : step.setsUp with
  | false =>
    have hsame : (step.after b).facetIds collection = b.facetIds collection :=
      (idsIn_of_retains (lasts_after huses hsetsUp b) collection).symm
    rw [hsame]
    refine .same fun id hstep => ?_
    subst hstep
    cases hsetsUp
  | true =>
    cases step with
    | withFacet name facet act => cases hsetsUp
    | operation op =>
      cases op with
      | createCollection config =>
        rw [after_createCollection]
        exact renaming_createCollection hb config collection
      | addFacet name config =>
        rw [after_addFacet]
        exact renaming_addFacet hb name config collection
      | removeFacet name facet =>
        rw [after_removeFacet]
        exact renaming_removeFacet hb name facet collection
      | _ => cases hsetsUp

/-- The step creates a collection of the id, which is the last one then. -/
def Creates (id : String) (b : Browser) (step : BrowserStep) : Prop :=
  ∃ config, step = .operation (.createCollection config) ∧ b.newId config = id ∧
    b.refusal config = none

theorem ids_halfMade (b : Browser) (id : String) (source : ItemSource) :
    (b.halfMade id source).ids = b.ids ++ [id] := by
  have hids : (b.withNewDerived id source).map Collection.id = b.ids := by
    unfold withNewDerived ids
    split
    · refine List.ext_getElem? fun place => ?_
      rw [List.getElem?_map, List.getElem?_map, List.getElem?_modify]
      cases b.collections[place]? with
      | none => rfl
      | some c =>
        show some _ = some _
        split <;> rfl
    · rfl
  unfold halfMade ids
  rw [List.map_append, hids]
  rfl

/-- A collection takes the place of one with the same id. -/
theorem ids_set {place : Nat} {c d : Collection} (hc : b.collections[place]? = some c)
    (hid : d.id = c.id) {b' : Browser}
    (h : List.Forall₂ (Collection.Retains Facet.Becomes) (b.collections.set place d) b'.collections) :
    b'.ids = b.ids := by
  rw [← ids_of_retains (b := { b with collections := b.collections.set place d }) h]
  exact map_set_of_eq hc hid

theorem ids_attachFacet (name : String) (config : FacetConfig) (b : Browser) :
    (attachFacet name config b).2.ids = b.ids := by
  have hattaching := attaching_attachFacet name config b
  generalize attachFacet name config b = answer at hattaching
  cases hattaching with
  | unplaced _ => rfl
  | unbuilt _ _ _ => rfl
  | refused _ _ _ _ => rfl
  | unshown _ _ _ _ _ h => exact (ids_of_retains h).symm
  | @attached _ c f _ _ hc _ _ h => exact ids_set (d := c.pushFacet f) hc rfl h

theorem ids_detachFacet (name facet : String) (b : Browser) :
    (detachFacet name facet b).2.ids = b.ids := by
  cases hplace : b.placeOf name with
  | error failure => rw [detachFacet_of_unplaced hplace]
  | ok place =>
    obtain ⟨-, c, hc, -⟩ := placeOf_ok hplace
    exact ids_set (d := c.dropFacet facet) hc rfl (lasts_detachFacet hplace hc)

/-- **What one step makes of the ids** of the collections: there is another one, or none. -/
theorem ids_after (huses : step.GoesByUses) (b : Browser) :
    (step.after b).ids = b.ids ∧ (∀ id, ¬ Creates id b step) ∨
      ∃ id, Creates id b step ∧ (step.after b).ids = b.ids ++ [id] := by
  have hkept (hsame : (step.after b).ids = b.ids)
      (hother : ∀ config, step ≠ .operation (.createCollection config)) :
      (step.after b).ids = b.ids ∧ ∀ id, ¬ Creates id b step :=
    ⟨hsame, fun id ⟨config, hstep, _⟩ => hother config hstep⟩
  cases hsetsUp : step.setsUp with
  | false =>
    refine .inl (hkept (ids_of_retains (lasts_after huses hsetsUp b)).symm fun config hstep => ?_)
    subst hstep
    cases hsetsUp
  | true =>
    cases step with
    | withFacet name facet act => cases hsetsUp
    | operation op =>
      cases op with
      | createCollection config =>
        rw [after_createCollection]
        have hcreation := creation_buildCollection config b
        generalize buildCollection config b = answer at hcreation
        cases hcreation with
        | refused hrefusal =>
          refine .inl ⟨rfl, ?_⟩
          rintro id ⟨_, ⟨⟩, -, hnone⟩
          cases hrefusal.symm.trans hnone
        | halfMade hnone _ _ => exact .inr ⟨_, ⟨config, rfl, rfl, hnone⟩, ids_halfMade _ _ _⟩
        | made hnone _ hroot =>
          refine .inr ⟨_, ⟨config, rfl, rfl, hnone⟩, ?_⟩
          rw [← ids_of_retains ((lasts_reroot lasting_becomes _).ok hroot), ids_halfMade]
      | addFacet name config =>
        exact .inl (hkept (after_addFacet name config b ▸ ids_attachFacet name config b) fun _ => nofun)
      | removeFacet name facet =>
        exact .inl (hkept (after_removeFacet name facet b ▸ ids_detachFacet name facet b) fun _ => nofun)
      | _ => cases hsetsUp

/-! ## 4. Runs -/

/-- At some moment of the run from the first browser a step is taken of which this holds, and of the
    browser at that moment and of the steps that come after. -/
def Happens (P : Browser → BrowserStep → List BrowserStep → Prop) (first : Browser)
    (steps : List BrowserStep) : Prop :=
  ∃ front step back, steps = front ++ step :: back ∧ P (afterAll front first) step back

theorem happens_cons {P : Browser → BrowserStep → List BrowserStep → Prop} {rest : List BrowserStep} :
    Happens P b (step :: rest) ↔ P b step rest ∨ Happens P (step.after b) rest := by
  constructor
  · rintro ⟨front, step', back, heq, h⟩
    cases front with
    | nil =>
      obtain ⟨rfl, rfl⟩ := List.cons.inj heq
      exact .inl h
    | cons head front =>
      obtain ⟨rfl, rfl⟩ := List.cons.inj heq
      exact .inr ⟨front, step', back, rfl, h⟩
  · rintro (h | ⟨front, step', back, rfl, h⟩)
    · exact ⟨[], step, rest, rfl, h⟩
    · exact ⟨step :: front, step', back, rfl, h⟩

theorem afterAll_append (front : List BrowserStep) (step : BrowserStep) (back : List BrowserStep)
    (b : Browser) :
    afterAll (front ++ step :: back) b = afterAll back (step.after (afterAll front b)) := by
  unfold afterAll
  rw [List.foldl_append, List.foldl_cons]

/-- A facet of the collection is removed. -/
def Loses (collection : String) (b : Browser) (step : BrowserStep) (_ : List BrowserStep) : Prop :=
  ∃ facet ∈ b.facetIds collection, step = .operation (.removeFacet collection facet)

/-- The step adds a facet of the id, and its removal is not asked for afterwards. -/
def Adds (collection id : String) (b : Browser) (step : BrowserStep) (back : List BrowserStep) : Prop :=
  ∃ config, step = .operation (.addFacet collection config) ∧
    config.idAt (b.facetIds collection).length = id ∧ id ∉ b.facetIds collection ∧
    id ∈ (step.after b).facetIds collection ∧ .operation (.removeFacet collection id) ∉ back

section Runs

variable {steps : List BrowserStep} (huses : ∀ step ∈ steps, step.GoesByUses)
include huses

/-- **Where a facet comes from**: it was there, or it is the facet of a collection that is to narrow this
    one, or it has been added. -/
theorem mem_facetIds_cases (hb : b.Named) {collection id : String}
    (hid : id ∈ (afterAll steps b).facetIds collection) :
    id ∈ b.facetIds collection ∨ (∃ name, id = derivedId name) ∨
      Happens (Adds collection id) b steps := by
  suffices h : (id ∈ b.facetIds collection ∧ .operation (.removeFacet collection id) ∉ steps) ∨
      (∃ name, id = derivedId name) ∨ Happens (Adds collection id) b steps from h.imp_left And.left
  induction steps generalizing b with
  | nil => exact .inl ⟨hid, List.not_mem_nil⟩
  | cons step rest ih =>
    obtain ⟨hfirst, hrest⟩ := List.forall_mem_cons.mp huses
    rcases ih hrest (named_of_reshaped hb (reshaped_after hfirst b)) hid with
      ⟨hafter, hback⟩ | hderived | hhappens
    · have hrenaming := renaming_after hb hfirst collection
      rcases hrenaming.mem_cases (hb.facetIds_nodup collection) hafter with
        ⟨hbefore, hkept⟩ | hderived | ⟨hnew, config, hstep, hconfig⟩
      · exact .inl ⟨hbefore, mt List.mem_cons.mp (not_or.mpr ⟨hkept.symm, hback⟩)⟩
      · exact .inr (.inl hderived)
      · exact .inr (.inr (happens_cons.mpr (.inl ⟨config, hstep, hconfig, hnew, hafter, hback⟩)))
    · exact .inr (.inl hderived)
    · exact .inr (.inr (happens_cons.mpr (.inr hhappens)))

/-- A facet is there until its removal is asked for. -/
theorem mem_facetIds_of_kept (hb : b.Named) {collection id : String} (hid : id ∈ b.facetIds collection)
    (hkept : .operation (.removeFacet collection id) ∉ steps) :
    id ∈ (afterAll steps b).facetIds collection := by
  induction steps generalizing b with
  | nil => exact hid
  | cons step rest ih =>
    obtain ⟨hfirst, hrest⟩ := List.forall_mem_cons.mp huses
    obtain ⟨hne, hkept⟩ := not_or.mp (mt List.mem_cons.mpr hkept)
    exact ih hrest (named_of_reshaped hb (reshaped_after hfirst b))
      ((renaming_after hb hfirst collection).mem_of_mem hid (Ne.symm hne)) hkept

/-- The facets of a collection do not get fewer unless one is removed. -/
theorem length_facetIds_le (hb : b.Named) {collection : String}
    (hkept : ¬ Happens (Loses collection) b steps) :
    (b.facetIds collection).length ≤ ((afterAll steps b).facetIds collection).length := by
  induction steps generalizing b with
  | nil => exact le_rfl
  | cons step rest ih =>
    obtain ⟨hfirst, hrest⟩ := List.forall_mem_cons.mp huses
    obtain ⟨hstep, hback⟩ := not_or.mp (mt happens_cons.mpr hkept)
    have hone := (renaming_after hb hfirst collection).length_le fun id hid heq => hstep ⟨id, hid, heq⟩
    exact hone.trans (ih hrest (named_of_reshaped hb (reshaped_after hfirst b)) hback)

/-- The ids of the collections stay, and each other one has been created. -/
theorem mem_ids_iff (b : Browser) (id : String) : id ∈ (afterAll steps b).ids ↔
    id ∈ b.ids ∨ Happens (fun b step _ => Creates id b step) b steps := by
  induction steps generalizing b with
  | nil =>
    refine ⟨.inl, fun h => h.elim (fun hid => hid) ?_⟩
    rintro ⟨front, step, back, hnil, -⟩
    cases front <;> cases hnil
  | cons step rest ih =>
    obtain ⟨hfirst, hrest⟩ := List.forall_mem_cons.mp huses
    rw [happens_cons]
    refine (ih hrest (step.after b)).trans ?_
    rcases ids_after hfirst b with ⟨hsame, hnone⟩ | ⟨id', hcreates, hids⟩
    · rw [hsame]
      have hnone := hnone id
      tauto
    · have hcreated : Creates id b step ↔ id = id' := by
        obtain ⟨config, rfl, rfl, hrefusal⟩ := hcreates
        refine ⟨?_, fun heq => ⟨config, rfl, heq.symm, hrefusal⟩⟩
        rintro ⟨_, ⟨⟩, rfl, -⟩
        rfl
      rw [hids, List.mem_append, List.mem_singleton, hcreated]
      tauto

theorem length_ids_le (b : Browser) : b.ids.length ≤ (afterAll steps b).ids.length := by
  induction steps generalizing b with
  | nil => exact le_rfl
  | cons step rest ih =>
    obtain ⟨hfirst, hrest⟩ := List.forall_mem_cons.mp huses
    refine le_trans ?_ (ih hrest (step.after b))
    rcases ids_after hfirst b with ⟨hsame, -⟩ | ⟨_, -, hids⟩
    · rw [hsame]
    · rw [hids, List.length_append]
      omega

end Runs

end BrowserStep

/-! ## 5. Refusals -/

namespace Browser

variable {b : Browser}

/-- Nothing but a taken id makes a creation be refused for that. -/
theorem sourceRefusal_ne (id collection : String) (config : CollectionConfig) :
    b.sourceRefusal id config ≠ some (.data (.collectionExists collection)) := by
  have hparse (text : String) : FailsIn (fun failure => failure ≠ .data (.collectionExists collection))
      (Expression.parse text) := by
    unfold Expression.parse
    split
    · exact failsIn_ok _
    · exact failsIn_error nofun
  intro h
  unfold sourceRefusal at h
  split at h
  · next base text _ _ =>
    split at h
    · next failure hfailure => exact hparse text failure hfailure (Option.some.inj h)
    · next failure _ hplace =>
      rw [placeOf_error hplace] at h
      cases h
    · split at h
      · cases h
      · split at h <;> cases h
  · cases h
  · cases h

/-- **A creation is refused** for its id exactly if there is a collection of that id. -/
theorem buildCollection_refused_iff (config : CollectionConfig) :
    buildCollection config b = (.error (.data (.collectionExists (b.newId config))), b) ↔
      b.newId config ∈ b.ids := by
  have hknown : (b.collection? (b.newId config)).isSome = true ↔ b.newId config ∈ b.ids := by
    unfold collection? ids
    rw [List.find?_isSome, List.mem_map]
    simp only [beq_iff_eq]
  have hrefusal : b.refusal config = some (.data (.collectionExists (b.newId config))) ↔
      b.newId config ∈ b.ids := by
    unfold refusal
    split
    · next h => exact ⟨fun _ => hknown.mp h, fun _ => rfl⟩
    · next h =>
      exact ⟨fun hsource => absurd hsource (sourceRefusal_ne _ _ config),
        fun hid => absurd (hknown.mpr hid) h⟩
  rw [← hrefusal]
  have hcreation := creation_buildCollection config b
  generalize buildCollection config b = answer at hcreation
  cases hcreation with
  | refused h => simp [h]
  | halfMade hnone _ _ =>
    rw [hnone]
    refine ⟨fun heq => ?_, nofun⟩
    exact absurd (congrArg (fun answer => answer.2.collections) heq) (halfMade_ne b _ _)
  | made hnone _ _ =>
    rw [hnone]
    exact ⟨nofun, nofun⟩

/-- A facet of a known kind can be built. -/
theorem build_ok {config : FacetConfig} (hclass : config.class?.isOk = true) (settings : Settings)
    (n : Nat) : ∃ f, config.build settings n = .ok f := by
  unfold FacetConfig.build
  cases hc : config.class? with
  | error failure =>
    rw [hc] at hclass
    cases hclass
  | ok c => cases c <;> exact ⟨_, rfl⟩

/-- What is built for a collection has the id that it is to have there; the collection tells whether that
    is taken. -/
theorem built_id (hb : b.Named) {collection : String} {config : FacetConfig} {place : Nat}
    {c : Collection} {f : Facet} (hplace : b.placeOf collection = .ok place)
    (hc : b.collections[place]? = some c) (hf : config.build b.settings c.facets.length = .ok f) :
    c.id = collection ∧ f.id = config.idAt (b.facetIds collection).length ∧
      (f.id ∈ b.facetIds collection ↔ c.hasFacet f.id = true) := by
  obtain ⟨-, _, hc', rfl⟩ := placeOf_ok hplace
  obtain rfl := Option.some.inj (hc.symm.trans hc')
  refine ⟨rfl, ?_, mem_facetIds_iff hb hc⟩
  rw [FacetConfig.id_build hf, hb.facetIds_eq hc, List.length_map]

/-- **A facet is refused** for its id exactly if the collection has a facet of that id. -/
theorem attachFacet_refused_iff (hb : b.Named) (collection : String) {config : FacetConfig}
    (hclass : config.class?.isOk = true) {id : String}
    (hid : config.idAt (b.facetIds collection).length = id) :
    attachFacet collection config b = (.error (.data (.facetExists collection id)), b) ↔
      id ∈ b.facetIds collection := by
  have hattaching := attaching_attachFacet collection config b
  generalize attachFacet collection config b = answer at hattaching
  cases hattaching with
  | unplaced h =>
    rw [facetIds_of_unplaced h]
    rw [placeOf_error h]
    exact ⟨nofun, fun hmem => absurd hmem List.not_mem_nil⟩
  | @unbuilt _ c _ _ _ h =>
    obtain ⟨f, hf⟩ := build_ok hclass b.settings c.facets.length
    cases hf.symm.trans h
  | refused hplace hc hf hhas =>
    obtain ⟨hcid, hfid, htaken⟩ := built_id hb hplace hc hf
    rw [← hid, ← hfid]
    simp [hcid, htaken, hhas]
  | unshown hplace hc hf hnew hfailure _ =>
    obtain ⟨-, hfid, htaken⟩ := built_id hb hplace hc hf
    obtain ⟨fault, rfl⟩ := hfailure
    rw [← hid, ← hfid]
    simp [htaken, hnew]
  | @attached _ c _ _ hplace hc hf hnew h =>
    obtain ⟨hcid, hfid, htaken⟩ := built_id hb hplace hc hf
    rw [← hid, ← hfid, htaken, hnew]
    refine ⟨fun heq => ?_, nofun⟩
    -- the browser is not as it was: it has the facet
    have hids := idsIn_of_retains h c.id
    rw [idsIn_pushFacet hb.collections_nodup hc, if_pos rfl, heq] at hids
    have hlength := congrArg List.length hids
    simp at hlength

/-! ## 6. The statement -/

open BrowserStep

/-- The caller has a collection created and chooses its id. -/
def ChoosesId (id : String) (b : Browser) (step : BrowserStep) (_ : List BrowserStep) : Prop :=
  ∃ config, step = .operation (.createCollection config) ∧ config.id = some id ∧ b.refusal config = none

/-- A facet is added under the id that counting gives to the next facet after `n` others, and its removal
    is not asked for afterwards. Either the caller has chosen that id, or it was given by counting, and
    the collection has lost a facet since. -/
def Occupies (collection : String) (n : Nat) (b : Browser) (step : BrowserStep)
    (back : List BrowserStep) : Prop :=
  ∃ config : FacetConfig, step = .operation (.addFacet collection config) ∧
    "facet" ++ toString n ∉ b.facetIds collection ∧
    "facet" ++ toString n ∈ (step.after b).facetIds collection ∧
    .operation (.removeFacet collection ("facet" ++ toString n)) ∉ back ∧
    (config.id = some ("facet" ++ toString n) ∨
      config.id = none ∧ (b.facetIds collection).length = n ∧
        Happens (Loses collection) (step.after b) back)

section Runs

variable {steps : List BrowserStep} (huses : ∀ step ∈ steps, step.GoesByUses)
include huses

/-- The id of a collection that counting comes to has been chosen by a caller if it is taken: there have
    never been as many collections before. -/
theorem counted_mem_ids_iff (settings : Settings) (present : Int) :
    let b := afterAll steps (start settings present)
    "collection" ++ toString b.ids.length ∈ b.ids ↔
      Happens (ChoosesId ("collection" ++ toString b.ids.length)) (start settings present) steps := by
  dsimp only
  rw [mem_ids_iff huses]
  constructor
  · rintro (hfirst | ⟨front, step, back, rfl, config, rfl, hid, hnone⟩)
    · exact absurd (List.mem_singleton.mp hfirst) (counted_ne_defaultId _)
    · refine ⟨front, _, back, rfl, config, rfl, ?_, hnone⟩
      cases hconfig : config.id with
      | some id => rw [← hid, newId, hconfig, Option.getD_some]
      | none =>
        -- it was given by counting, so there are more collections now
        have huses := fun step hstep => huses step (List.mem_append_right front hstep)
        obtain ⟨hstep, hback⟩ := List.forall_mem_cons.mp huses
        have hcount := length_ids_le hback ((BrowserStep.operation (.createCollection config)).after
          (afterAll front (start settings present)))
        rw [newId, hconfig, Option.getD_none] at hid
        have hlength := counted_inj hid
        rw [← afterAll_append, ← hlength] at hcount
        rcases ids_after hstep (afterAll front (start settings present)) with
          ⟨-, hno⟩ | ⟨_, -, hids⟩
        · exact absurd ⟨config, rfl, rfl, hnone⟩ (hno _)
        · rw [hids, List.length_append, List.length_singleton, ids, List.length_map] at hcount
          omega
  · rintro ⟨front, step, back, rfl, config, rfl, hconfig, hnone⟩
    refine .inr ⟨front, _, back, rfl, config, rfl, ?_, hnone⟩
    rw [newId, hconfig, Option.getD_some]

/-- The id of a facet that counting comes to is taken if it was chosen, or if it was given before and the
    collection has lost a facet since. -/
theorem counted_mem_facetIds_iff (settings : Settings) (present : Int) (collection : String) :
    let b := afterAll steps (start settings present)
    "facet" ++ toString (b.facetIds collection).length ∈ b.facetIds collection ↔
      Happens (Occupies collection (b.facetIds collection).length) (start settings present) steps := by
  dsimp only
  have hnamed {steps : List BrowserStep} (huses : ∀ step ∈ steps, step.GoesByUses) :=
    named_afterAll huses (named_start settings present)
  constructor
  · intro hmem
    rcases mem_facetIds_cases huses (named_start settings present) hmem with
      hfirst | ⟨name, hderived⟩ | ⟨front, step, back, rfl, config, rfl, hid, hnew, hafter, hback⟩
    · have hnone : (start settings present).facetIds collection = [] :=
        idsIn_append_new [] defaultId .allItems collection
      rw [hnone] at hfirst
      cases hfirst
    · exact absurd hderived (counted_ne_derivedId _ _)
    · refine ⟨front, _, back, rfl, config, rfl, hnew, hafter, hback, ?_⟩
      cases hconfig : config.id with
      | some id =>
        rw [FacetConfig.idAt, hconfig, Option.getD_some] at hid
        exact .inl (congrArg some hid)
      | none =>
        rw [FacetConfig.idAt, hconfig, Option.getD_none] at hid
        have hlength := counted_inj hid
        refine .inr ⟨rfl, hlength, by_contra fun hkept => ?_⟩
        -- without a removal there are more facets now
        have hfront := fun step hstep => huses step (List.mem_append_left _ hstep)
        obtain ⟨hstep, hrest⟩ :=
          List.forall_mem_cons.mp fun step hstep => huses step (List.mem_append_right front hstep)
        have hlt := (renaming_after (hnamed hfront) hstep collection).length_lt hnew hafter
        have hle := length_facetIds_le hrest
          (named_of_reshaped (hnamed hfront) (reshaped_after hstep _)) hkept
        rw [← afterAll_append, ← hlength] at hle
        omega
  · rintro ⟨front, step, back, rfl, config, rfl, -, hafter, hback, -⟩
    obtain ⟨hstep, hrest⟩ :=
      List.forall_mem_cons.mp fun step hstep => huses step (List.mem_append_right front hstep)
    have hfront := fun step hstep => huses step (List.mem_append_left _ hstep)
    rw [afterAll_append] at *
    exact mem_facetIds_of_kept hrest
      (named_of_reshaped (hnamed hfront) (reshaped_after hstep _)) hafter hback

end Runs

/-- **When an id that is given by counting is taken**, after any steps, whatever has failed in them. A
    collection is refused if a caller has chosen the id that counting comes to, and otherwise never, since
    collections stay. A facet is refused if a caller has chosen the id for a facet that is still there, or
    if a facet that is still there was given the id when the collection had as many facets as now, and
    others have been removed since; and otherwise never. -/
theorem counted_taken_iff {settings : Settings} {present : Int} {steps : List BrowserStep}
    (huses : ∀ step ∈ steps, step.GoesByUses) {b : Browser}
    (hb : b = afterAll steps (start settings present)) :
    (∀ config : CollectionConfig, config.id = none →
        (buildCollection config b = (.error (.data (.collectionExists
            ("collection" ++ toString b.collections.length))), b) ↔
          Happens (ChoosesId ("collection" ++ toString b.collections.length))
            (start settings present) steps)) ∧
      ∀ (collection : String) (config : FacetConfig), config.id = none → config.class?.isOk = true →
        (attachFacet collection config b = (.error (.data (.facetExists collection
            ("facet" ++ toString (b.facetIds collection).length))), b) ↔
          Happens (Occupies collection (b.facetIds collection).length) (start settings present) steps) := by
  subst hb
  constructor
  · intro config hconfig
    have hid : (afterAll steps (start settings present)).newId config =
        "collection" ++ toString (afterAll steps (start settings present)).ids.length := by
      rw [newId, hconfig, Option.getD_none, ids, List.length_map]
    have hrefused := buildCollection_refused_iff (b := afterAll steps (start settings present)) config
    rw [hid, ids, List.length_map] at hrefused
    have hcounted := counted_mem_ids_iff huses settings present
    dsimp only at hcounted
    rw [ids, List.length_map] at hcounted
    exact hrefused.trans hcounted
  · intro collection config hconfig hclass
    have hnamed := named_afterAll huses (named_start settings present)
    refine (attachFacet_refused_iff hnamed collection hclass ?_).trans
      (counted_mem_facetIds_iff huses settings present collection)
    rw [FacetConfig.idAt, hconfig, Option.getD_none]

/-- Two facets are added without ids, and the first of them is removed. -/
def firstRemoved : List BrowserOperation :=
  [.addFacet defaultId .empty, .addFacet defaultId .empty, .removeFacet defaultId "facet0"]

/-- A collection that a caller calls the second one. -/
def secondChosen : CollectionConfig where
  id := some "collection2"
  itemTypes := none
  expression := none
  baseCollectionId := none
  restrictBaseCollection := false

/-- After both of these no facet and no collection can be added without an id. -/
def bothTaken : List BrowserStep :=
  (firstRemoved ++ [BrowserOperation.createCollection secondChosen]).map .operation

theorem taken_of_bothTaken :
    (∀ step ∈ bothTaken, step.GoesByUses) ∧ ∃ b, b = afterAll bothTaken library ∧
      buildCollection { secondChosen with id := none } b =
        (.error (.data (.collectionExists "collection2")), b) ∧
      attachFacet defaultId .empty b = (.error (.data (.facetExists defaultId "facet1")), b) := by
  have huses : ∀ step ∈ bothTaken, step.GoesByUses := by
    intro step hstep
    obtain ⟨op, -, rfl⟩ := List.mem_map.mp hstep
    trivial
  obtain ⟨hcollections, hfacets⟩ := counted_taken_iff huses (b := afterAll bothTaken library) rfl
  have hcollection := hcollections { secondChosen with id := none } rfl
  have hfacet := hfacets defaultId .empty rfl rfl
  have hcollectionId : "collection" ++ toString (afterAll bothTaken library).collections.length =
      "collection2" := by decide +kernel
  have hcount : ((afterAll bothTaken library).facetIds defaultId).length = 1 := by decide +kernel
  rw [hcollectionId] at hcollection
  rw [hcount] at hfacet
  refine ⟨huses, _, rfl, hcollection.mpr ?_, hfacet.mpr ?_⟩
  · exact ⟨firstRemoved.map .operation, _, [], rfl, secondChosen, rfl, rfl, by decide +kernel⟩
  · refine ⟨[.operation (.addFacet defaultId .empty)], _, _, rfl, .empty, rfl,
      by decide +kernel, by decide +kernel, ?_, .inr ⟨rfl, by decide +kernel, ?_⟩⟩
    · have hne : "facet" ++ toString 1 ≠ "facet0" := by decide +kernel
      simpa using hne
    · exact ⟨[], _, _, rfl, "facet0", by decide +kernel, rfl⟩

/-- **A facet without an id is refused** after two have been added without ids and the first of them has
    been removed, though all of that succeeds. -/
theorem facet1_taken :
    (run firstRemoved library).1.isOk = true ∧
      (run firstRemoved library).2.contents = [(defaultId, ["facet1"], [], [])] ∧
      (Browser.addFacet defaultId .empty (run firstRemoved library).2).1.mapError Failure.message =
        .error "Data error: collection default already has a facet facet1" := by
  decide +kernel

end Browser

end Faceted
