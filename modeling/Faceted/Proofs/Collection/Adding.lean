import Faceted.Proofs.Collection.InLine

/-!
# Facets that cannot be added

A facet that does not restrict is counted first and put behind the others only if that succeeds. One
that restricts is put there first, because the refresh after it narrows by all facets, and it stays
there if the refresh fails.

* `View.EntersFirst` says that a facet is there before anything is worked out;
* `addFacet_of_not_entersFirst` and `addFacet_of_entersFirst`: what is left in either case;
* **`addFacet_undone_iff`**: a facet that cannot be added leaves the collection as it was exactly if it
  does not enter first;
* **`colour_of_misspelt`**: a misspelt function leaves a facet in the place of the one that was meant.
-/

namespace Faceted

open Faceted.Action

/-- A collection has a facet if its id is among the ids. -/
theorem Collection.hasFacet_iff {c : Collection} {id : String} :
    c.hasFacet id = true ↔ id ∈ c.facets.map Facet.id := by
  unfold hasFacet
  rw [List.any_eq_true, List.mem_map]
  exact exists_congr fun f => and_congr_right fun _ => beq_iff_eq

namespace View

variable {v w : View} {f : Facet}

/-! ## 1. What is left -/

/-- The facet stands among the others before it is known whether it can be applied. -/
def EntersFirst (v : View) (f : Facet) : Prop :=
  v.collection.hasFacet f.id = false ∧ f.hasRestrictions = true

/-- A facet that is refused, or that cannot be counted, leaves nothing behind but what the store
    keeps. -/
theorem addFacet_of_not_entersFirst {failure : Failure} (h : addFacet f v = (.error failure, w))
    (hf : ¬ v.EntersFirst f) : w.collection = v.collection ∧ v.store.Alike w.store := by
  rw [addFacet_apply] at h
  split at h
  · cases h
    exact ⟨rfl, Store.Alike.refl _⟩
  · next hnew =>
    split at h
    · next hr => exact absurd ⟨Bool.eq_false_iff.mpr hnew, hr⟩ hf
    · have hstore := f.update_store_alike v.scene v.collection.restricted
      split at h
      · cases h
      · next hupdate =>
        rw [hupdate] at hstore
        cases h
        exact ⟨rfl, hstore⟩

/-- A facet that enters first is refreshed with the others. -/
theorem addFacet_of_entersFirst (hf : v.EntersFirst f) : addFacet f v = refresh (v.withFacet f) := by
  rw [addFacet_apply, if_neg (Bool.eq_false_iff.mp hf.1), if_pos hf.2]

/-- What a facet that enters first leaves, whether or not it can be applied. -/
theorem same_addFacet (hf : v.EntersFirst f) :
    ((v.withFacet f).withRestricted (v.withFacet f).refreshedItems).Same (addFacet f v).2 := by
  rw [addFacet_of_entersFirst hf]
  exact same_refresh _

theorem Same.hasFacet (h : v.Same w) (id : String) :
    w.collection.hasFacet id = v.collection.hasFacet id := by
  rw [Bool.eq_iff_iff, Collection.hasFacet_iff, Collection.hasFacet_iff, ids_eq_of_roles h.roles]

theorem hasFacet_withFacet (v : View) (f : Facet) : (v.withFacet f).collection.hasFacet f.id = true :=
  Collection.hasFacet_iff.mpr (List.mem_map_of_mem (List.mem_append_right _ List.mem_cons_self))

/-- Once a facet has entered, its id is taken. -/
theorem addFacet_again (hsame : ((v.withFacet f).withRestricted
      (v.withFacet f).refreshedItems).Same w) {g : Facet} (hg : g.id = f.id) :
    addFacet g w = (.error (.data (.facetExists v.collection.id f.id)), w) := by
  have hhas : w.collection.hasFacet g.id = true := by
    rw [hg, hsame.hasFacet]
    exact v.hasFacet_withFacet f
  rw [addFacet_apply, if_pos hhas, ← hsame.id, hg]
  rfl

/-- **A facet that cannot be added** leaves facets and restricted items as they were exactly if it does
    not enter first. One that does stays, so that its id is taken, and the restricted items are what
    all facets let through with it, or what they were if some facet fails. -/
theorem addFacet_undone_iff {failure : Failure} (h : addFacet f v = (.error failure, w)) :
    (w.collection.facets = v.collection.facets ∧
        w.collection.restricted = v.collection.restricted ↔ ¬ v.EntersFirst f) ∧
      (¬ v.EntersFirst f → w.collection = v.collection ∧ v.store.Alike w.store) ∧
      (v.EntersFirst f →
        ((v.withFacet f).withRestricted (v.withFacet f).refreshedItems).Same w ∧
          ∀ g : Facet, g.id = f.id →
            addFacet g w = (.error (.data (.facetExists v.collection.id f.id)), w)) := by
  have hleft : v.EntersFirst f →
      ((v.withFacet f).withRestricted (v.withFacet f).refreshedItems).Same w := by
    intro hf
    have hsame := same_addFacet hf
    rwa [h] at hsame
  refine ⟨⟨fun ⟨hfacets, _⟩ hf => ?_, fun hf => ?_⟩, addFacet_of_not_entersFirst h,
    fun hf => ⟨hleft hf, fun g hg => addFacet_again (hleft hf) hg⟩⟩
  · -- The facet itself is new among the facets.
    have hhas := (hleft hf).hasFacet f.id
    rw [Collection.hasFacet, hfacets] at hhas
    exact Bool.false_ne_true (hf.1.symm.trans (hhas.trans (v.hasFacet_withFacet f)))
  · rw [(addFacet_of_not_entersFirst h hf).1]
    exact ⟨rfl, rfl⟩

/-! ## 2. A misspelt function -/

/-- Two plants without facets. -/
def bed : View := viewAfter plants "plants" .allItems [.setRoot (KeySet.ofList ["ash", "rose"])]

def colour : Expression := ⟨".colour", .path ⟨none, [⟨"colour", true, false⟩]⟩⟩

/-- The colour through a function that there is not. -/
def tint : Expression := ⟨"tint(.colour)", .call "tint" [colour.root]⟩

/-- The list by colour. -/
def colourList (e : Expression) : ListFacet := .new "byColour" (some e)

/-- The list by colour with red selected. -/
def inRed (e : Expression) : ListFacet := { colourList e with selection := KeySet.ofList ["red"] }

/-- The same list is left out without a selection and stays with one. -/
theorem undone_tint :
    ((addFacet (.list (colourList tint)) bed).2.collection.facets = bed.collection.facets ∧
        (addFacet (.list (colourList tint)) bed).2.collection.restricted =
          bed.collection.restricted) ∧
      ¬ ((addFacet (.list (inRed tint)) bed).2.collection.facets = bed.collection.facets ∧
        (addFacet (.list (inRed tint)) bed).2.collection.restricted =
          bed.collection.restricted) := by
  obtain ⟨_, hcounted⟩ : ∃ failure, addFacet (.list (colourList tint)) bed = (.error failure, _) :=
    exists_of_not_isOk (by decide +kernel)
  obtain ⟨_, hentered⟩ : ∃ failure, addFacet (.list (inRed tint)) bed = (.error failure, _) :=
    exists_of_not_isOk (by decide +kernel)
  constructor
  · exact (addFacet_undone_iff hcounted).1.mpr fun hfirst => Bool.false_ne_true hfirst.2
  · exact fun hsame => (addFacet_undone_iff hentered).1.mp hsame ⟨rfl, rfl⟩

/-- **The misspelt facet stays** and takes the id, so that the one that was meant is refused. -/
theorem colour_of_misspelt :
    bed.collection.facets.map Facet.id = [] ∧
      (addFacet (.list (inRed colour)) bed).1.isOk = true ∧
      (addFacet (.list (inRed tint)) bed).1.isOk = false ∧
      (addFacet (.list (inRed tint)) bed).2.collection.facets.map Facet.id = ["byColour"] ∧
      (addFacet (.list (inRed colour)) (addFacet (.list (inRed tint)) bed).2).1.isOk = false := by
  decide +kernel

end View

end Faceted
