import Faceted.Facet.Change
import Faceted.Proofs.Facet.RangeCounting
import Faceted.Proofs.Facet.Truthful

/-!
# What facets offer

Lists, clouds and number facets offer entries, each with its count, and an entry can be clicked so that
it is all that is selected. What a facet shows is in order for some items if each count is the number of
items that hold the entry, and if showing the facet anew would not fail.

* `Facet.offers`: the entries with their counts, each as the click on it; `Facet.held`: the items that
  hold an entry, in the order and with the repetitions of a walk;
* `Facet.Shows`: what is shown is in order. **`Facet.counts_update`**: counting anew puts it in order;
* `Facet.update_congr`: whether a facet can be shown depends on what it stands for, not on the items;
* **`Facet.Shows.click`**: a click on an entry lets through what holds the entry.
-/

namespace Faceted

open Faceted.Expression

namespace Facet

variable {scene scene' : Scene} {f g : Facet} {e : Expression} {items items' : KeySet}

/-! ## 1. Entries -/

/-- The expression that the facet takes its values from; a text search may have several. -/
def expression? : Facet → Option Expression
  | .list f => f.expression
  | .cloud f => f.list.expression
  | .numericRange f => f.expression
  | .alphaRange f => f.expression
  | .hierarchical f => f.expression
  | .textSearch _ => none
  | .derived f => some f.expression

/-- The click on a bucket as the only choice, if it goes from number to number. -/
def bucketOffer (b : Bucket) : Option (Change × Nat) :=
  match b.low, b.high with
  | .number low, .number high => some (.toggleNumbers low high true, b.count)
  | _, _ => none

/-- The entries that are shown: the click on each as the only choice, with its count. -/
def offers : Facet → List (Change × Nat)
  | .list f => f.entries.map fun entry => (.toggleValue entry.value true, entry.count)
  | .cloud f => f.cloud.map fun shown =>
      (.toggleValue shown.entry.value true, shown.entry.count)
  | .numericRange f => f.buckets.filterMap bucketOffer
  | _ => []

/-- Is the entry that the change clicks all that is selected? -/
def hasOnly (f : Facet) (change : Change) : Bool :=
  match f, change with
  | .list f, .toggleValue value _ => f.hasOnly value
  | .cloud f, .toggleValue value _ => f.list.hasOnly value
  | .numericRange f, .toggleNumbers low high _ => f.hasOnly low high
  | _, _ => false

/-- The items that hold the entry that the change clicks. -/
def held (f : Facet) (scene : Scene) (e : Expression) (change : Change) (items : KeySet) :
    Outcome Values :=
  match f, change with
  | .list f, .toggleValue value _ => f.held scene e value items
  | .cloud f, .toggleValue value _ => f.list.held scene e value items
  | .numericRange f, .toggleNumbers low high _ =>
    (f.itemsIn scene e (NumericRangeFacet.rangeOf low high) items).1
  | _, _ => .ok (.empty .item)

theorem nodup_held (hrepeats : e.repeats = false) {change : Change} {held : Values}
    (h : f.held scene e change items = .ok held) : held.toList.Nodup := by
  unfold Facet.held at h
  split at h
  · exact ListFacet.nodup_held hrepeats h
  · exact ListFacet.nodup_held hrepeats h
  · exact NumericRangeFacet.nodup_itemsIn hrepeats h
  · cases h
    exact List.nodup_nil

end Facet

/-! ## 2. Showing -/

section Showing

variable {scene scene' : Scene}

theorem CloudFacet.update_fst (f : CloudFacet) (scene : Scene) (items : KeySet) :
    (f.update scene items).1 = (f.list.update scene items).1 := by
  unfold update
  split <;> next heq => rw [heq]

theorem AlphaRangeFacet.update_congr {f g : AlphaRangeFacet}
    (hs : scene.AlikeFor f.expression.toList scene') (h : f.settled scene = g.settled scene')
    (items items' : KeySet) :
    (f.update scene items).1 = (g.update scene' items').1 := by
  have hexpression : f.expression = g.expression := (congrArg AlphaRangeFacet.expression h :)
  have hindex := congrArg AlphaRangeFacet.index h
  unfold update
  dsimp only
  rw [← hexpression]
  split
  · rfl
  · next e he =>
    have hbuilt := hs.index (Option.mem_toList.mpr he) place
    simp only [settled, he, hexpression ▸ he, Option.bind_some, ← hbuilt] at hindex
    rw [LocalIndex.get_eq, LocalIndex.get_eq, ← hbuilt, answering_of_keeping_eq hindex]
    cases answering g.index (LocalIndex.build scene e place) <;> rfl

theorem HierarchicalFacet.update_fst {f : HierarchicalFacet} {e : Expression}
    (he : f.expression = some e) (scene : Scene) (items : KeySet) :
    (f.update scene items).1 =
      (answering f.tree (Hierarchy.build scene e f.grouping)).map fun _ => () := by
  unfold update
  rw [getTree_eq he]
  cases answering f.tree (Hierarchy.build scene e f.grouping) <;> rfl

theorem HierarchicalFacet.update_congr {f g : HierarchicalFacet}
    (hs : scene.AlikeFor (f.expression.toList ++ f.grouping.toList) scene')
    (h : f.settled scene = g.settled scene') (items items' : KeySet) :
    (f.update scene items).1 = (g.update scene' items').1 := by
  have hexpression : f.expression = g.expression := (congrArg HierarchicalFacet.expression h :)
  have hgrouping : f.grouping = g.grouping := (congrArg HierarchicalFacet.grouping h :)
  have htree := congrArg HierarchicalFacet.tree h
  cases he : f.expression with
  | none => simp [update, getTree, he, ← hexpression]
  | some e =>
    have he' : g.expression = some e := hexpression ▸ he
    simp only [settled, he, he', Option.bind_some, ← hgrouping, ← tree_alike he hs] at htree
    rw [update_fst he, update_fst he', ← hgrouping, ← tree_alike he hs,
      answering_of_keeping_eq htree]

end Showing

namespace Facet

variable {scene scene' : Scene} {f g : Facet} {e : Expression} {items items' : KeySet}

/-- What the facet shows is in order for the items: every count is the number of items that hold the
    entry, and counting anew would not fail. -/
structure Shows (f : Facet) (scene : Scene) (items : KeySet) : Prop where
  ready : (f.update scene items).1 = .ok ()
  counts : ∀ change count, (change, count) ∈ f.offers → ∃ e, f.expression? = some e ∧
    ∃ held, f.held scene e change items = .ok held ∧ held.size = count

/-- **Whether a facet can be shown** depends on what it stands for, not on the items. -/
theorem update_congr (hs : scene.AlikeFor f.expressions scene')
    (hindexes : scene.store.SameIndexes scene'.store) (h : f.settled scene = g.settled scene')
    (items items' : KeySet) : (f.update scene items).1 = (g.update scene' items').1 := by
  cases f <;> cases g <;> simp only [settled, reduceCtorEq, list.injEq, cloud.injEq,
    numericRange.injEq, alphaRange.injEq, hierarchical.injEq, textSearch.injEq,
    derived.injEq] at h
  case list.list f g => exact ListFacet.update_congr hs h items items'
  case cloud.cloud f g =>
    have hlist := ListFacet.update_congr hs (congrArg CloudFacet.list h :) items items'
    exact (f.update_fst scene items).trans (hlist.trans (g.update_fst scene' items').symm)
  case numericRange.numericRange f g => exact NumericRangeFacet.update_congr hs hindexes h items items'
  case alphaRange.alphaRange f g => exact AlphaRangeFacet.update_congr hs h items items'
  case hierarchical.hierarchical f g =>
    exact HierarchicalFacet.update_congr hs h items items'
  all_goals rfl

theorem update_twin (ht : scene.Twin scene') (h : f.settled scene = g.settled scene')
    (items items' : KeySet) : (f.update scene items).1 = (g.update scene' items').1 :=
  update_congr (ht.alike.alikeFor _) ht.indexes h items items'

theorem update_eq (f : Facet) (scene : Scene) (items items' : KeySet) :
    (f.update scene items).1 = (f.update scene items').1 :=
  update_twin ⟨Scene.Alike.refl _, Store.SameIndexes.refl _⟩ rfl items items'

/-- The store that is handed back has the same indexes. -/
theorem sameIndexes_restrict (f : Facet) (scene : Scene) (items : KeySet) :
    scene.store.SameIndexes (f.restrict scene items).2.2 := by
  cases f with
  | numericRange f => exact f.sameIndexes_restrict scene items
  | _ => exact Store.SameIndexes.refl _

theorem sameIndexes_update (f : Facet) (scene : Scene) (items : KeySet) :
    scene.store.SameIndexes (f.update scene items).2.2 := by
  cases f with
  | numericRange f => exact f.sameIndexes_update scene items
  | _ => exact Store.SameIndexes.refl _

theorem twin_update (f : Facet) (scene : Scene) (items : KeySet) :
    scene.Twin { scene with store := (f.update scene items).2.2 } :=
  ⟨⟨f.update_store_alike scene items, rfl⟩, f.sameIndexes_update scene items⟩

/-- What has just been counted is what holds the entries. -/
theorem counts_update (h : (f.update scene items).1 = .ok ()) :
    ∀ change count, (change, count) ∈ (f.update scene items).2.1.offers →
      ∃ e, f.expression? = some e ∧
        ∃ held, f.held scene e change items = .ok held ∧ held.size = count := by
  intro change count hoffer
  cases f with
  | list f =>
    have hupdate : f.update scene items = (.ok (), (f.update scene items).2) := Prod.ext h rfl
    obtain ⟨entry, hentry, heq⟩ := List.mem_map.mp hoffer
    cases heq
    exact ListFacet.held_of_update hupdate hentry
  | cloud f =>
    have hlist : (f.list.update scene items).1 = .ok () := (f.update_fst scene items).symm.trans h
    have hupdate : f.list.update scene items = (.ok (), (f.list.update scene items).2) :=
      Prod.ext hlist rfl
    have hcloud : (f.update scene items).2.cloud =
        CloudFacet.cloudOf f.minimumCount (f.list.update scene items).2.entries := by
      unfold CloudFacet.update
      rw [hupdate]
    obtain ⟨shown, hshown, heq⟩ := List.mem_map.mp hoffer
    cases heq
    rw [show (f.update scene items).2.cloud = _ from hcloud] at hshown
    obtain ⟨entry, hentry, rfl⟩ := List.mem_map.mp hshown
    exact ListFacet.held_of_update hupdate (List.mem_of_mem_filter hentry)
  | numericRange f =>
    have hupdate : f.update scene items =
        (.ok (), (f.update scene items).2.1, (f.update scene items).2.2) := Prod.ext h rfl
    obtain ⟨b, hb, heq⟩ := List.mem_filterMap.mp hoffer
    obtain ⟨e, low, high, he, hlow, hhigh, hheld⟩ :=
      NumericRangeFacet.held_of_update hupdate b hb
    rw [bucketOffer, hlow, hhigh] at heq
    cases heq
    exact ⟨e, he, hheld⟩
  | _ => cases hoffer

/-! ## 3. Clicks -/

/-- **A click on an entry lets through what holds it.** It selects the entry, reports the change and
    leaves a facet that can be shown. -/
theorem Shows.click (h : f.Shows scene items) {change : Change} {count : Nat}
    (hoffer : (change, count) ∈ f.offers) (hnot : f.hasOnly change = false) :
    ∃ g e held, f.perform scene change = (.ok true, g) ∧ g.expression? = f.expression? ∧
      (g.update scene items).1 = .ok () ∧ f.expression? = some e ∧
      f.held scene e change items = .ok held ∧ held.size = count ∧
      (g.restrict scene items).1 = .ok held.toSet := by
  obtain ⟨e, he, held, hheld, hcount⟩ := h.counts change count hoffer
  have hready := h.ready
  cases f with
  | list f =>
    obtain ⟨entry, -, heq⟩ := List.mem_map.mp hoffer
    cases heq
    have hlist : f.expression = some e := he
    have hrestrict := ListFacet.restrict_withOnly hlist scene entry.value items
    rw [show f.held scene e entry.value items = _ from hheld] at hrestrict
    refine ⟨.list (f.withOnly entry.value), e, held, ?_, rfl,
      ListFacet.update_withOnly hlist hheld hready, he, hheld, hcount, hrestrict⟩
    show surely .list (f.toggle entry.value true) = _
    rw [ListFacet.toggle_only hnot]
    rfl
  | cloud f =>
    obtain ⟨shown, -, heq⟩ := List.mem_map.mp hoffer
    cases heq
    have hlist : f.list.expression = some e := he
    have hrestrict := ListFacet.restrict_withOnly hlist scene shown.entry.value items
    rw [show f.list.held scene e shown.entry.value items = _ from hheld] at hrestrict
    refine ⟨.cloud { f with list := f.list.withOnly shown.entry.value }, e, held, ?_, rfl, ?_, he,
      hheld, hcount, hrestrict⟩
    · show surely (fun list => .cloud { f with list }) (f.list.toggle shown.entry.value true) = _
      rw [ListFacet.toggle_only hnot]
      rfl
    · refine (CloudFacet.update_fst _ scene items).trans ?_
      exact ListFacet.update_withOnly hlist hheld ((f.update_fst scene items).symm.trans hready)
  | numericRange f =>
    obtain ⟨b, -, heq⟩ := List.mem_filterMap.mp hoffer
    unfold bucketOffer at heq
    split at heq
    · next low high _ _ =>
      cases heq
      have hrange : f.expression = some e := he
      have hrestrict := NumericRangeFacet.restrict_withOnly hrange scene low high items
      rw [show (f.itemsIn scene e _ items).1 = _ from hheld] at hrestrict
      refine ⟨.numericRange (f.withOnly low high), e, held, ?_, rfl,
        (NumericRangeFacet.update_withOnly hrange low high scene items).trans hready, he, hheld,
        hcount, hrestrict⟩
      show surely .numericRange (f.toggle low high true) = _
      rw [NumericRangeFacet.toggle_only hnot]
      rfl
    · cases heq
  | _ => cases hoffer

end Facet

end Faceted
