import Faceted.Proofs.Facet.Truthful

/-!
# What facets keep

A facet may keep maps, an index, a tree or texts, which it has worked out from the store and the root
items. The selection has no part in that.

* `Facet.memo` and `Facet.memoFor`: what a facet keeps, and what it would work out now;
* `memo_restrict`, `memo_update`: a facet without expression works out nothing, whatever it is asked;
* **`sameMemo_perform`**: a change leaves alone what a facet keeps and what it would work out, and a click
  on a node asks for the tree at most.
-/

namespace Faceted

open Faceted.Expression

/-- What a facet may keep about the root items. -/
inductive Memo where
  | maps (maps : ValueMaps)
  | index (index : RangeIndex)
  | tree (tree : Hierarchy)
  | texts (texts : KeyMap (List String))

namespace TextSearchFacet

@[simp] theorem searched_setText (f : TextSearchFacet) (text : String) :
    (f.setText text).2.searched = f.searched := by
  simp only [setText]

@[simp] theorem texts_setText (f : TextSearchFacet) (text : String) :
    (f.setText text).2.texts = f.texts := by
  simp only [setText]

/-- Typing leaves alone where the facet looks and what it has found there. -/
theorem keeps_input (f : TextSearchFacet) (text : String) (now : Nat) (enter : Bool) :
    (f.input text now enter).2.searched = f.searched ∧
      (f.input text now enter).2.texts = f.texts := by
  unfold input
  by_cases h : (enter || (queryOf text).isNone) = true
  · simp [h]
  · rw [if_neg h]
    cases f.requiresEnter <;> exact ⟨rfl, rfl⟩

theorem keeps_poll (f : TextSearchFacet) (now : Nat) :
    (f.poll now).2.searched = f.searched ∧ (f.poll now).2.texts = f.texts := by
  unfold poll
  generalize f.debouncer.poll now = due
  obtain ⟨text, debouncer⟩ := due
  cases text <;> simp

end TextSearchFacet

namespace Facet

variable {scene : Scene} {f g : Facet}

/-! ## 1. Keeping and working out -/

/-- What the facet keeps. -/
def memo : Facet → Option Memo
  | .list f => f.cache.map .maps
  | .cloud f => f.list.cache.map .maps
  | .numericRange f => f.index.map .index
  | .alphaRange f => f.index.map .index
  | .hierarchical f => f.tree.map .tree
  | .textSearch f => f.texts.map .texts
  | .derived _ => none

/-- What the facet would work out now, if it has anything to work out. -/
def memoFor (f : Facet) (scene : Scene) : Option (Outcome Memo) :=
  match f with
  | .list f => f.expression.map fun e => (ValueMaps.build scene e).map .maps
  | .cloud f => f.list.expression.map fun e => (ValueMaps.build scene e).map .maps
  | .numericRange f => f.expression.map fun e =>
      (LocalIndex.build scene e NumericRangeFacet.place).map .index
  | .alphaRange f => f.expression.map fun e =>
      (LocalIndex.build scene e AlphaRangeFacet.place).map .index
  | .hierarchical f => f.expression.map fun e =>
      (Hierarchy.build scene e f.grouping).map .tree
  | .textSearch f => some ((TextSearchFacet.buildTexts f.searched scene).map .texts)
  | .derived _ => none

theorem memo_dropCaches (f : Facet) : f.dropCaches.memo = none := by
  cases f <;> rfl

theorem memoFor_settled (f : Facet) (scene : Scene) :
    (f.settled scene).memoFor scene = f.memoFor scene := by
  cases f <;> rfl

/-- Without an expression nothing is worked out, so nothing else is kept after narrowing. -/
theorem memo_restrict (h : f.memoFor scene = none) (items : KeySet) :
    (f.restrict scene items).2.1.memo = f.memo := by
  cases f <;> simp only [memoFor, Option.map_eq_none_iff, reduceCtorEq] at h
  case list f => simp [restrict, leaving, ListFacet.restrict, h]
  case cloud f => simp [restrict, leaving, ListFacet.restrict, h]
  case numericRange f => simp [restrict, building, NumericRangeFacet.restrict, h]
  case alphaRange f => simp [restrict, leaving, AlphaRangeFacet.restrict, h]
  case hierarchical f =>
    simp only [restrict, leaving, HierarchicalFacet.restrict, HierarchicalFacet.getTree, h]
    split <;> rfl
  case derived f => rfl

theorem memo_update (h : f.memoFor scene = none) (items : KeySet) :
    (f.update scene items).2.1.memo = f.memo := by
  cases f <;> simp only [memoFor, Option.map_eq_none_iff, reduceCtorEq] at h
  case list f => simp [update, leaving, ListFacet.update, h, memo]
  case cloud f => simp [update, leaving, CloudFacet.update, ListFacet.update, h, memo]
  case numericRange f => simp [update, building, NumericRangeFacet.update, h, memo]
  case alphaRange f => simp [update, leaving, AlphaRangeFacet.update, h, memo]
  case hierarchical f =>
    simp [update, leaving, HierarchicalFacet.update, HierarchicalFacet.getTree, h, memo]
  case derived f => rfl

/-! ## 2. Changes -/

/-- The facets keep the same, and work out the same. -/
structure SameMemo (f g : Facet) : Prop where
  memo : g.memo = f.memo
  memoFor : ∀ scene, g.memoFor scene = f.memoFor scene

namespace SameMemo

theorem refl (f : Facet) : f.SameMemo f := ⟨rfl, fun _ => rfl⟩

theorem list {f g : ListFacet} (hexpression : g.expression = f.expression)
    (hcache : g.cache = f.cache) : SameMemo (.list f) (.list g) :=
  ⟨congrArg (Option.map _) hcache, fun _ => congrArg (Option.map _) hexpression⟩

theorem cloud {f g : CloudFacet} (hexpression : g.list.expression = f.list.expression)
    (hcache : g.list.cache = f.list.cache) : SameMemo (.cloud f) (.cloud g) :=
  ⟨congrArg (Option.map _) hcache, fun _ => congrArg (Option.map _) hexpression⟩

theorem numericRange {f g : NumericRangeFacet} (hexpression : g.expression = f.expression)
    (hindex : g.index = f.index) : SameMemo (.numericRange f) (.numericRange g) :=
  ⟨congrArg (Option.map _) hindex, fun _ => congrArg (Option.map _) hexpression⟩

theorem alphaRange {f g : AlphaRangeFacet} (hexpression : g.expression = f.expression)
    (hindex : g.index = f.index) : SameMemo (.alphaRange f) (.alphaRange g) :=
  ⟨congrArg (Option.map _) hindex, fun _ => congrArg (Option.map _) hexpression⟩

theorem hierarchical {f g : HierarchicalFacet} (hexpression : g.expression = f.expression)
    (hgrouping : g.grouping = f.grouping) (htree : g.tree = f.tree) :
    SameMemo (.hierarchical f) (.hierarchical g) :=
  ⟨congrArg (Option.map _) htree, fun scene => by
    simp only [Facet.memoFor, hexpression, hgrouping]⟩

theorem textSearch {f g : TextSearchFacet} (hsearched : g.searched = f.searched)
    (htexts : g.texts = f.texts) : SameMemo (.textSearch f) (.textSearch g) :=
  ⟨congrArg (Option.map _) htexts, fun scene => by simp only [Facet.memoFor, hsearched]⟩

theorem derived (f g : DerivedFacet) : SameMemo (.derived f) (.derived g) := ⟨rfl, fun _ => rfl⟩

theorem clear (f : Facet) : f.SameMemo f.clear.2 := by
  cases f with
  | list f => exact list rfl rfl
  | cloud f => exact cloud rfl rfl
  | numericRange f => exact numericRange rfl rfl
  | alphaRange f => exact alphaRange rfl rfl
  | hierarchical f => exact hierarchical rfl rfl rfl
  | textSearch f => exact textSearch rfl rfl
  | derived f => exact derived f _

theorem apply {state : FacetState} (h : f.apply state = .ok g) : f.SameMemo g := by
  cases f with
  | list f =>
    cases state <;> cases h
    exact list rfl rfl
  | cloud f =>
    cases state <;> cases h
    exact cloud rfl rfl
  | numericRange f =>
    cases state <;> cases h
    exact numericRange rfl rfl
  | alphaRange f =>
    cases state <;> cases h
    exact alphaRange rfl rfl
  | hierarchical f =>
    cases state <;> cases h
    exact hierarchical rfl rfl rfl
  | textSearch f =>
    cases state <;> cases h
    exact textSearch (f.searched_setText _) (f.texts_setText _)
  | derived f =>
    cases state <;> cases h
    exact derived f _

theorem importState {state : FacetState} {changed : Bool}
    (h : f.importState state = .ok (changed, g)) : f.SameMemo g := by
  unfold Facet.importState at h
  split at h
  · cases h
    exact refl f
  · split at h
    · cases h
      exact clear f
    · cases ha : f.apply state with
      | error failure =>
        rw [ha] at h
        cases h
      | ok g' =>
        rw [ha] at h
        cases h
        exact apply ha

theorem orStay {answer : Outcome (Bool × Facet)}
    (h : ∀ changed g, answer = .ok (changed, g) → f.SameMemo g) :
    f.SameMemo (f.orStay answer).2 := by
  cases answer with
  | error failure => exact refl f
  | ok result => exact h result.1 result.2 rfl

theorem onList {act : ListFacet → Bool × ListFacet}
    (hact : ∀ l, (act l).2.expression = l.expression ∧ (act l).2.cache = l.cache) :
    f.SameMemo (f.onList act).2 := by
  cases f with
  | list l => exact list (hact l).1 (hact l).2
  | cloud c => exact cloud (hact c.list).1 (hact c.list).2
  | _ => exact refl _

theorem onNumbers {act : NumericRangeFacet → Bool × NumericRangeFacet}
    (hact : ∀ n, (act n).2.expression = n.expression ∧ (act n).2.index = n.index) :
    f.SameMemo (f.onNumbers act).2 := by
  cases f with
  | numericRange n => exact numericRange (hact n).1 (hact n).2
  | _ => exact refl _

theorem onTextSearch {act : TextSearchFacet → Bool × TextSearchFacet}
    (hact : ∀ t, (act t).2.searched = t.searched ∧ (act t).2.texts = t.texts) :
    f.SameMemo (f.onTextSearch act).2 := by
  cases f with
  | textSearch t => exact textSearch (hact t).1 (hact t).2
  | _ => exact refl _

end SameMemo

/-- A click on a node looks at the tree at most. -/
theorem toggle_cases (f : HierarchicalFacet) (scene : Scene) (n : NodeSelection) (only : Bool) :
    ∃ g selections, (g = f ∨ g = (f.getTree scene).2) ∧
      (f.toggle scene n only).2 = { g with selections } := by
  unfold HierarchicalFacet.toggle
  dsimp only
  split
  · exact ⟨f, _, .inl rfl, rfl⟩
  · split
    · exact ⟨f, _, .inl rfl, rfl⟩
    · split <;> next heq => rw [heq]; exact ⟨_, _, .inr rfl, rfl⟩

/-- **Changes are about the selection.** What the facet keeps and would work out stays, but for a tree
    that has been asked for. -/
theorem sameMemo_perform (f : Facet) (scene : Scene) (change : Change) :
    f.SameMemo (f.perform scene change).2 ∨ ∃ h, f = .hierarchical h ∧
      SameMemo (.hierarchical (h.getTree scene).2) (f.perform scene change).2 := by
  cases change with
  | toggleNode node only =>
    cases f with
    | hierarchical f =>
      obtain ⟨g, selections, hg, htoggle⟩ := toggle_cases f scene node only
      have hsame : SameMemo (.hierarchical g) (.hierarchical (f.toggle scene node only).2) := by
        rw [htoggle]
        exact .hierarchical rfl rfl rfl
      rcases hg with rfl | rfl
      · exact .inl hsame
      · exact .inr ⟨f, rfl, hsame⟩
    | _ => exact .inl (.refl _)
  | importState state => exact .inl (.orStay fun _ _ h => .importState h)
  | apply state =>
    refine .inl (.orStay fun changed g h => ?_)
    cases ha : f.apply state with
    | error failure =>
      rw [ha] at h
      cases h
    | ok g' =>
      rw [ha] at h
      cases h
      exact .apply ha
  | clear => exact .inl (.clear f)
  | toggleValue value only =>
    refine .inl (.onList fun l => ?_)
    obtain ⟨values, missing, heq⟩ := l.toggle_eq_select value only
    rw [heq]
    exact ⟨rfl, rfl⟩
  | select values missing => exact .inl (.onList fun _ => ⟨rfl, rfl⟩)
  | toggleNumbers low high only => exact .inl (.onNumbers fun _ => ⟨rfl, rfl⟩)
  | setNumbers low high selected => exact .inl (.onNumbers fun _ => ⟨rfl, rfl⟩)
  | toggleLetters low high only =>
    cases f with
    | alphaRange f => exact .inl (.alphaRange rfl rfl)
    | _ => exact .inl (.refl _)
  | restrictTo allowed =>
    cases f with
    | derived f => exact .inl (.derived f _)
    | _ => exact .inl (.refl _)
  | setText text =>
    exact .inl (.onTextSearch fun t => ⟨t.searched_setText text, t.texts_setText text⟩)
  | input text now enter => exact .inl (.onTextSearch fun t => t.keeps_input text now enter)
  | poll now => exact .inl (.onTextSearch fun t => t.keeps_poll now)
  | requireEnter on => exact .inl (.onTextSearch fun _ => ⟨rfl, rfl⟩)

end Facet

end Faceted
