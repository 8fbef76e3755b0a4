import Faceted.Facet.Config
import Faceted.Proofs.Facet.Memo

/-!
# Facets that keep what holds

A facet may be left with maps, an index, a tree or texts of other root items than the present ones. It
is fresh if what it keeps is what it would build now, so that it answers like a copy of itself that
keeps nothing.

* `Facet.Fresh` says so in one equation; `fresh_dropCaches` and `fresh_build` are where it comes from;
* `fresh_iff`: in other words, all that the facet keeps is what it would work out now, if it has
  anything to work out; a facet that `KeepsTrue` keeps nothing otherwise;
* narrowing and counting keep it (`fresh_of_settled`), since it depends on what a facet stands for;
* **`fresh_perform`**: so does every change, since changes are about the selection.
-/

namespace Faceted

/-- Asking makes no difference to something kept exactly if it is what would be worked out now. -/
theorem keeping_eq_iff {α β : Type} {wrap : α → Memo} (hwrap : Function.Injective wrap)
    (kept : Option α) (subject : Option β) (build : β → Outcome α) :
    (subject.bind fun e => keeping kept (build e)) = (subject.bind fun e => keeping none (build e)) ↔
      ∀ built, (subject.map fun e => (build e).map wrap) = some built →
        ∀ m, kept.map wrap = some m → built = .ok m := by
  cases subject with
  | none => simp
  | some e =>
    cases kept with
    | none => simp
    | some x => cases h : build e <;> simp [keeping, Except.map, h, hwrap.eq_iff, eq_comm]

namespace Facet

variable {scene scene' : Scene} {f g : Facet}

/-! ## 1. Freshness -/

/-- What the facet keeps is what a copy that keeps nothing would build. -/
def Fresh (f : Facet) (scene : Scene) : Prop := f.settled scene = f.dropCaches.settled scene

theorem dropCaches_dropCaches (f : Facet) : f.dropCaches.dropCaches = f.dropCaches := by
  cases f <;> rfl

/-- What a copy would build can be read off what the facet stands for. -/
theorem settled_dropCaches (f : Facet) (scene : Scene) :
    f.dropCaches.settled scene = (f.settled scene).dropCaches.settled scene := by
  cases f <;> rfl

theorem fresh_dropCaches (f : Facet) (scene : Scene) : f.dropCaches.Fresh scene := by
  unfold Fresh
  rw [dropCaches_dropCaches]

theorem fresh_of_settled (h : g.settled scene = f.settled scene) (hf : f.Fresh scene) :
    g.Fresh scene := by
  unfold Fresh at *
  rw [settled_dropCaches, h, hf, ← settled_dropCaches, dropCaches_dropCaches]

theorem expressions_dropCaches (f : Facet) : f.dropCaches.expressions = f.expressions := by
  cases f <;> rfl

theorem fresh_alikeFor (hs : scene.AlikeFor f.expressions scene') (hf : f.Fresh scene) :
    f.Fresh scene' := by
  have hcopy : scene.AlikeFor f.dropCaches.expressions scene' := by
    rw [expressions_dropCaches]
    exact hs
  unfold Fresh at *
  rw [← settled_alikeFor hs, ← settled_alikeFor hcopy, hf]

theorem fresh_alike (hs : scene.Alike scene') (hf : f.Fresh scene) : f.Fresh scene' :=
  fresh_alikeFor (hs.alikeFor f.expressions) hf

/-! ## 2. What freshness is about -/

theorem fresh_iff :
    f.Fresh scene ↔ ∀ built, f.memoFor scene = some built → ∀ m, f.memo = some m → built = .ok m := by
  unfold Fresh
  cases f with
  | list f =>
    refine Iff.trans ?_ (keeping_eq_iff (fun _ _ => Memo.maps.inj) _ _ _)
    simp [settled, ListFacet.settled, dropCaches, ListFacet.dropCaches, ListFacet.bare]
  | cloud f =>
    refine Iff.trans ?_ (keeping_eq_iff (fun _ _ => Memo.maps.inj) _ _ _)
    simp [settled, CloudFacet.settled, ListFacet.settled, dropCaches, ListFacet.dropCaches,
      ListFacet.bare]
  | numericRange f =>
    refine Iff.trans ?_ (keeping_eq_iff (fun _ _ => Memo.index.inj) _ _ _)
    simp [settled, NumericRangeFacet.settled, dropCaches, NumericRangeFacet.dropCaches,
      NumericRangeFacet.bare]
  | alphaRange f =>
    refine Iff.trans ?_ (keeping_eq_iff (fun _ _ => Memo.index.inj) _ _ _)
    simp [settled, AlphaRangeFacet.settled, dropCaches, AlphaRangeFacet.dropCaches,
      AlphaRangeFacet.bare]
  | hierarchical f =>
    refine Iff.trans ?_ (keeping_eq_iff (fun _ _ => Memo.tree.inj) _ _ _)
    simp [settled, HierarchicalFacet.settled, dropCaches, HierarchicalFacet.dropCaches,
      HierarchicalFacet.bare]
  | textSearch f =>
    refine Iff.trans ?_ (keeping_eq_iff (fun _ _ => Memo.texts.inj) f.texts (some f.searched)
      fun searched => TextSearchFacet.buildTexts searched scene)
    simp [settled, TextSearchFacet.settled, dropCaches, TextSearchFacet.dropCaches]
  | derived f => simp [memo, settled, dropCaches]

theorem SameMemo.fresh (h : f.SameMemo g) (hf : f.Fresh scene) : g.Fresh scene := by
  rw [fresh_iff] at hf ⊢
  rw [h.memo, h.memoFor]
  exact hf

theorem fresh_derived (f : DerivedFacet) : (Facet.derived f).Fresh scene := rfl

/-- All that the facet keeps is what it would work out now. -/
def KeepsTrue (f : Facet) (scene : Scene) : Prop :=
  ∀ m, f.memo = some m → f.memoFor scene = some (.ok m)

/-- What a facet keeps is true if it is fresh and, without anything to work out, keeps nothing. -/
theorem keepsTrue_iff :
    f.KeepsTrue scene ↔ f.Fresh scene ∧ (f.memoFor scene = none → f.memo = none) := by
  rw [fresh_iff]
  constructor
  · intro h
    refine ⟨fun built hbuilt m hm => ?_, fun hnone => Option.eq_none_iff_forall_ne_some.mpr ?_⟩
    · exact Option.some.inj (hbuilt.symm.trans (h m hm))
    · intro m hm
      have hsome := h m hm
      rw [hnone] at hsome
      cases hsome
  · rintro ⟨hfresh, hnone⟩ m hm
    cases hbuilt : f.memoFor scene with
    | none =>
      rw [hnone hbuilt] at hm
      cases hm
    | some built => rw [hfresh built hbuilt m hm]

theorem keepsTrue_of_memo_eq_none (h : f.memo = none) : f.KeepsTrue scene := fun m hm => by
  rw [h] at hm
  cases hm

/-! ## 3. Changes -/

/-- **Changes keep a facet fresh**, the failing ones included. -/
theorem fresh_perform (hf : f.Fresh scene) (change : Change) :
    (f.perform scene change).2.Fresh scene := by
  rcases f.sameMemo_perform scene change with hsame | ⟨h, rfl, hsame⟩
  · exact hsame.fresh hf
  · refine hsame.fresh (fresh_of_settled ?_ hf)
    exact congrArg Facet.hierarchical (h.settled_getTree scene (h.getTree scene).2.entries)

/-! ## 4. New facets -/

theorem cache_selectFirst (config : FacetConfig) (f : ListFacet) :
    (config.selectFirst f).cache = f.cache := by
  unfold FacetConfig.selectFirst
  split <;> rfl

theorem dropCaches_list {f : ListFacet} (h : f.cache = none) : f.dropCaches = f := by
  unfold ListFacet.dropCaches
  rw [← h]

/-- A facet that a user sets up keeps nothing. -/
theorem dropCaches_build {config : FacetConfig} {settings : Settings} {place : Nat}
    (h : config.build settings place = .ok f) : f.dropCaches = f := by
  have hlist : ∀ id, (config.selectFirst (config.buildList id)).dropCaches =
      config.selectFirst (config.buildList id) := fun id =>
    dropCaches_list (cache_selectFirst config (config.buildList id))
  unfold FacetConfig.build at h
  cases hclass : config.class? with
  | error failure =>
    rw [hclass] at h
    cases h
  | ok c =>
    rw [hclass] at h
    cases c with
    | list =>
      rw [← Except.ok.inj h]
      exact congrArg Facet.list (hlist _)
    | cloud =>
      rw [← Except.ok.inj h]
      exact congrArg (fun list => Facet.cloud { config.buildCloud _ with list }) (hlist _)
    | numericRange =>
      rw [← Except.ok.inj h]
      rfl
    | alphaRange =>
      rw [← Except.ok.inj h]
      rfl
    | hierarchical =>
      rw [← Except.ok.inj h]
      rfl
    | textSearch =>
      rw [← Except.ok.inj h]
      rfl

theorem fresh_build {config : FacetConfig} {settings : Settings} {place : Nat}
    (h : config.build settings place = .ok f) : f.Fresh scene := by
  unfold Fresh
  rw [dropCaches_build h]

end Facet

end Faceted
