import Faceted.Proofs.Hierarchy.Complete
import Faceted.Proofs.Hierarchy.Walking

/-!
# Which items a hierarchy shows

What is shown starts at the values without parents. Every value below one of these is shown, once, as
long as an item holds it; a value from which the grouping leads round and round and never to a value
without parents has no place, and neither have the items that hold nothing else.

* `Displays.mem_values_iff`: a value that is held is shown exactly if it stands below a root;
* `Displays.counted_iff`: an item is counted at the top exactly if it holds such a value;
* **`visible_iff`**: both for the tree of an expression and a grouping.
-/

namespace Faceted

open Faceted.Expression

namespace HierarchicalFacet

variable {f : HierarchicalFacet} {t : Hierarchy} {items : KeySet} {entries : List HierarchyEntry}
  {v x : String}

/-! ## 1. Displays -/

/-- A value that is held is shown exactly if it stands below a root. -/
theorem Displays.mem_values_iff (h : f.Displays t items entries) (hx : x ∈ items)
    (hholds : x ∈ t.holders v) : v ∈ entries.flatMap HierarchyEntry.values ↔ t.IsRooted v :=
  ⟨h.rooted v, fun hrooted => h.concerns v hrooted (.inr ⟨x, hx, hholds⟩)⟩

/-- An entry at the top counts the item: it counts the items of what is shown below it, and the item is
    one of these. -/
def CountedAt (t : Hierarchy) (items : KeySet) (x : String) (n : HierarchyEntry) : Prop :=
  n.entry.count = (t.heldBy items n.values).size ∧ x ∈ t.heldBy items n.values

/-- An item is counted at the top exactly if it holds a value that stands below a root. -/
theorem Displays.counted_iff (h : f.Displays t items entries) (hx : x ∈ items) :
    (∃ n ∈ entries, CountedAt t items x n) ↔ ∃ v, x ∈ t.holders v ∧ t.IsRooted v := by
  constructor
  · rintro ⟨n, hn, -, hheld⟩
    obtain ⟨-, v, hv, hholds⟩ := Hierarchy.mem_heldBy.mp hheld
    exact ⟨v, hholds, h.rooted v (List.mem_flatMap.mpr ⟨n, hn, hv⟩)⟩
  · rintro ⟨v, hholds, hrooted⟩
    obtain ⟨n, hn, hv⟩ := List.mem_flatMap.mp ((h.mem_values_iff hx hholds).mpr hrooted)
    refine ⟨n, hn, ?_, Hierarchy.mem_heldBy.mpr ⟨hx, v, hv, hholds⟩⟩
    rcases h.tops n hn with ⟨selected, rfl⟩ | ⟨hdrawn, root, -, hroot⟩
    · cases hv
    · cases hdrawn with
      | others => cases hroot
      | node hvalue hbelow hdrawn hcount => exact hcount

/-! ## 2. The tree of an expression -/

/-- **What a hierarchy shows of its items.** No value is shown twice. A value that one of the items holds
    is shown exactly if it stands below a root, and an item is counted at the top or has no value exactly
    if it holds such a value or none at all. A value stands below a root exactly if the grouping leads
    from it to a value without parents. -/
theorem visible_iff (f : HierarchicalFacet) (scene : Scene) (items : KeySet) {e : Expression}
    (he : f.expression = some e) (hkeeps : (Facet.hierarchical f).KeepsTrue scene)
    (hok : (f.update scene items).1 = .ok ()) :
    ∃ t, (f.getTree scene).1 = .ok (some t) ∧
      ((f.update scene items).2.entries.flatMap HierarchyEntry.values).Nodup ∧
      (∀ x ∈ items, x ∈ scene.allItems → (∀ v, e.Yields scene.store x v →
          (v ∈ (f.update scene items).2.entries.flatMap HierarchyEntry.values ↔ t.IsRooted v)) ∧
        ((∃ n ∈ (f.update scene items).2.entries, CountedAt t items x n) ∨ x ∈ t.missing ↔
          (∃ v, e.Yields scene.store x v ∧ t.IsRooted v) ∨ e.YieldsNothing scene.store x)) ∧
      (∀ x ∈ scene.allItems, ∀ v, e.Yields scene.store x v →
        (t.IsRooted v ↔ ∃ top, Relation.ReflTransGen (HasParent scene.store f.grouping) v top ∧
          IsTop scene.store f.grouping top)) := by
  rcases update_displays hok with ⟨hnone, -⟩ | ⟨t, ht, hdisplays⟩
  · cases he.symm.trans hnone
  obtain ⟨e', he', hbuilt⟩ := build_of_getTree hkeeps ht
  obtain rfl := Option.some.inj (he.symm.trans he')
  obtain ⟨hstems, hholders, hmissing⟩ := Hierarchy.build_tells hbuilt
  refine ⟨t, ht, hdisplays.nodup, fun x hx hroot => ⟨fun v hv => ?_, ?_⟩, fun x hroot v hv => ?_⟩
  · exact hdisplays.mem_values_iff hx ((hholders v x).mpr ⟨hroot, hv⟩)
  · rw [hdisplays.counted_iff hx, hmissing, and_iff_right hroot]
    simp only [hholders, and_iff_right hroot]
  · have hmet : t.Knows v := .inl ⟨x, (hholders v x).mpr ⟨hroot, hv⟩⟩
    exact hstems.isRooted_iff (Hierarchy.isComplete_of_build hbuilt) hmet

/-- A dog among the animals, and a cat that is a kind of cat. -/
def strays : Scene where
  store := storeAfter [.add ⟨"rex", "kind", "dog"⟩, .add ⟨"dog", "parent", "animal"⟩,
    .add ⟨"tom", "kind", "cat"⟩, .add ⟨"cat", "parent", "cat"⟩]
  allItems := KeySet.ofList ["rex", "tom"]

/-- The animals with the dog below them. -/
def animals : HierarchyEntry :=
  .node ⟨some "animal", "animal", 1, false⟩ false [.node ⟨some "dog", "dog", 1, false⟩ false []]

/-- The dog stands below the animals, so it is shown. -/
theorem visible_dog :
    (Facet.hierarchical kinds).KeepsTrue strays ∧ (kinds.update strays strays.allItems).1 = .ok () ∧
      "rex" ∈ strays.allItems ∧ (∃ e, kinds.expression = some e ∧ e.Yields strays.store "rex" "dog") ∧
      "dog" ∈ (kinds.update strays strays.allItems).2.entries.flatMap HierarchyEntry.values ∧
      ∃ t, (kinds.getTree strays).1 = .ok (some t) ∧
        ∃ n ∈ (kinds.update strays strays.allItems).2.entries, CountedAt t strays.allItems "rex" n := by
  have hkeeps : (Facet.hierarchical kinds).KeepsTrue strays := Facet.keepsTrue_of_memo_eq_none rfl
  obtain ⟨t, ht, -, hvisible, -⟩ := visible_iff kinds strays strays.allItems rfl hkeeps rfl
  have hrex : "rex" ∈ strays.allItems := by decide
  have hyields : Expression.Yields ⟨".kind", .path ⟨none, [⟨"kind", true, false⟩]⟩⟩ strays.store "rex"
      "dog" := ⟨_, rfl, by decide +kernel⟩
  have hrooted : t.IsRooted "dog" := by
    obtain rfl := Option.some.inj (Except.ok.inj ht)
    exact ⟨"animal", by decide +kernel, .single (by decide +kernel)⟩
  obtain ⟨hshown, hcounted⟩ := hvisible "rex" hrex hrex
  refine ⟨hkeeps, rfl, hrex, ⟨_, rfl, hyields⟩, (hshown "dog" hyields).mpr hrooted, t, ht, ?_⟩
  refine (hcounted.mpr (.inl ⟨"dog", hyields, hrooted⟩)).resolve_right fun hmissing => ?_
  obtain rfl := Option.some.inj (Except.ok.inj ht)
  exact absurd hmissing (by decide +kernel)

/-- **A value that is its own parent is nowhere to be seen**, and neither is the item that holds it: it is
    counted nowhere and is not without value. -/
theorem invisible_cat :
    (∃ e, kinds.expression = some e ∧ e.Yields strays.store "tom" "cat") ∧ "tom" ∈ strays.allItems ∧
      (kinds.update strays strays.allItems).1 = .ok () ∧
      (kinds.update strays strays.allItems).2.entries = [animals] ∧
      "cat" ∉ (kinds.update strays strays.allItems).2.entries.flatMap HierarchyEntry.values ∧
      ∃ t, (kinds.getTree strays).1 = .ok (some t) ∧ "tom" ∉ t.missing ∧
        ∀ n ∈ (kinds.update strays strays.allItems).2.entries, ¬ CountedAt t strays.allItems "tom" n := by
  have hshown : (kinds.update strays strays.allItems).2.entries = [animals] := rfl
  refine ⟨⟨_, rfl, _, rfl, by decide +kernel⟩, by decide, rfl, hshown, ?_, _, rfl, by decide +kernel, ?_⟩
  · rw [hshown]
    decide
  · rw [hshown]
    rintro n hn ⟨-, htom⟩
    obtain rfl := List.mem_singleton.mp hn
    exact absurd htom (by decide +kernel)

end HierarchicalFacet

end Faceted
