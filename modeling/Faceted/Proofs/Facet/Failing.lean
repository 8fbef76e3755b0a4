import Faceted.Facet.Change
import Faceted.Facet.Config
import Faceted.Proofs.Failing

/-!
# How facets fail

A facet is asked for the items that it lets through and for what it shows. Both come from its
expressions, so they fail as expressions do. A selection that is handed to a facet may not fit it.

* `restrict_fails`, **`update_fails`**: the two questions, kind by kind, fail only with a failure of
  evaluation;
* **`perform_fails`**: no change to a facet claims that a collection has lost its facet.
-/

namespace Faceted

open Faceted.Expression
open Faceted.Failure (IsEvaluation)

variable {scene : Scene} {e : Expression}

/-! ## 1. What facets keep -/

theorem ValueMaps.build_fails : FailsIn IsEvaluation (build scene e) :=
  (failsIn_mapM_pairs (fun item => e.evalOnItem_fails item scene.store) _).bind fun _ => failsIn_ok _

theorem ValueCache.ask_fails {α : Type} (cache : ValueCache) (answer : ValueMaps → α) :
    FailsIn IsEvaluation (cache.ask scene e answer).1 := by
  unfold ask maps
  cases cache with
  | some maps => exact failsIn_ok _
  | none =>
    have hbuild : FailsIn IsEvaluation (ValueMaps.build scene e) := ValueMaps.build_fails
    dsimp only
    generalize ValueMaps.build scene e = answer' at hbuild
    cases answer' with
    | ok maps => exact failsIn_ok _
    | error failure => exact failsIn_error (hbuild failure rfl)

theorem ValueCache.itemsWith_fails (cache : ValueCache) (values filter : KeySet) :
    FailsIn IsEvaluation (cache.itemsWith scene e values filter).1 := by
  unfold itemsWith
  split
  · exact failsIn_ok _
  · exact cache.ask_fails _

theorem ValueCache.countsOf_fails (cache : ValueCache) (items : KeySet) :
    FailsIn IsEvaluation (cache.countsOf scene e items).1 := by
  unfold countsOf
  split
  · exact failsIn_ok _
  · exact cache.ask_fails _

theorem LocalIndex.get_fails (kept : LocalIndex) (convert : String → Option RangeValue) :
    FailsIn IsEvaluation (kept.get scene e convert).1 := by
  unfold get
  cases kept with
  | some index => exact failsIn_ok _
  | none =>
    have hbuild : FailsIn IsEvaluation (build scene e convert) :=
      (failsIn_mapM (fun item => (e.evalOnItem_fails item scene.store).bind fun _ => failsIn_ok _) _).bind
        fun _ => failsIn_ok _
    dsimp only
    generalize build scene e convert = answer at hbuild
    cases answer with
    | ok index => exact failsIn_ok _
    | error failure => exact failsIn_error (hbuild failure rfl)

theorem Hierarchy.Growth.levels_fail (s : Store) (rounds : Nat) (growth : Growth) :
    FailsIn IsEvaluation (growth.levels s e rounds) := by
  induction rounds generalizing growth with
  | zero =>
    unfold levels
    split
    · exact failsIn_ok _
    · exact failsIn_error ⟨_, rfl⟩
  | succ rounds ih =>
    have hlevel : FailsIn IsEvaluation (growth.level s e) :=
      (failsIn_mapM_pairs (fun value => e.evalOnItem_fails value s) _).bind fun _ => failsIn_ok _
    unfold levels
    split
    · exact failsIn_ok _
    · generalize growth.level s e = answer at hlevel
      cases answer with
      | ok grown => exact ih grown
      | error failure => exact failsIn_error (hlevel failure rfl)

theorem Hierarchy.build_fails (grouping : Option Expression) :
    FailsIn IsEvaluation (build scene e grouping) := by
  refine ValueMaps.build_fails.bind fun maps => ?_
  cases grouping with
  | none => exact failsIn_ok _
  | some g => exact (Growth.levels_fail scene.store _ _).bind fun _ => failsIn_ok _

/-! ## 2. Narrowing and showing -/

namespace ListFacet

theorem restrict_fails (f : ListFacet) (items : KeySet) :
    FailsIn IsEvaluation (f.restrict scene items).1 := by
  unfold restrict
  cases f.expression with
  | none => exact failsIn_ok _
  | some e =>
    dsimp only
    split
    · exact failsIn_ok _
    · obtain ⟨failure, cache, hwith, hfailure⟩ | ⟨found, cache, hwith⟩ :=
        (f.cache.itemsWith_fails f.selection items).cases
      · rw [hwith]
        exact failsIn_error hfailure
      · rw [hwith]
        dsimp only
        split
        · exact cache.ask_fails _
        · exact failsIn_ok _

theorem update_fails (f : ListFacet) (items : KeySet) :
    FailsIn IsEvaluation (f.update scene items).1 := by
  unfold update
  cases f.expression with
  | none => exact failsIn_ok _
  | some e =>
    dsimp only
    obtain ⟨failure, cache, hcounts, hfailure⟩ | ⟨⟨counts, type⟩, cache, hcounts⟩ :=
      (f.cache.countsOf_fails items).cases
    · rw [hcounts]
      exact failsIn_error hfailure
    · have hask : FailsIn IsEvaluation (cache.countWithout scene e items).1 := cache.ask_fails _
      rw [hcounts]
      dsimp only
      split
      · obtain ⟨failure, cache, hwithout, hfailure⟩ | ⟨count, cache, hwithout⟩ := hask.cases
        · rw [hwithout]
          exact failsIn_error hfailure
        · rw [hwithout]
          exact failsIn_ok _
      · exact failsIn_ok _

end ListFacet

theorem CloudFacet.update_fails (f : CloudFacet) (items : KeySet) :
    FailsIn IsEvaluation (f.update scene items).1 := by
  unfold update
  obtain ⟨failure, list, hlist, hfailure⟩ | ⟨done, list, hlist⟩ := (f.list.update_fails items).cases
  · rw [hlist]
    exact failsIn_error hfailure
  · rw [hlist]
    exact failsIn_ok _

namespace NumericRangeFacet

theorem itemsIn_fails (f : NumericRangeFacet) (r : RangeSelection) (items : KeySet) :
    FailsIn IsEvaluation (f.itemsIn scene e r items).1 := by
  unfold itemsIn
  split
  · next p _ =>
    show FailsIn IsEvaluation (rangeBackward scene.store p.hops r.low r.high false (some items)).1
    unfold rangeBackward
    split
    · exact failsIn_error ⟨_, rfl⟩
    · split
      · exact failsIn_ok _
      · exact failsIn_error ⟨_, rfl⟩
  · exact (f.index.get_fails place).map _

theorem itemsInAny_fails (f : NumericRangeFacet) (items found : KeySet) (ranges : List RangeSelection) :
    FailsIn IsEvaluation (f.itemsInAny scene e items found ranges).1 := by
  induction ranges generalizing f scene found with
  | nil => exact failsIn_ok _
  | cons r rest ih =>
    unfold itemsInAny
    obtain ⟨failure, ⟨g, store⟩, hfirst, hfailure⟩ | ⟨more, ⟨g, store⟩, hfirst⟩ :=
      (f.itemsIn_fails r items).cases
    · rw [hfirst]
      exact failsIn_error hfailure
    · rw [hfirst]
      exact ih g _

theorem restrict_fails (f : NumericRangeFacet) (items : KeySet) :
    FailsIn IsEvaluation (f.restrict scene items).1 := by
  unfold restrict
  cases f.expression with
  | none => exact failsIn_ok _
  | some e =>
    dsimp only
    split
    · exact f.itemsInAny_fails items ∅ f.chosen
    · exact failsIn_ok _

theorem boundingIndex_fails (f : NumericRangeFacet) :
    FailsIn IsEvaluation (f.boundingIndex scene e).1 := by
  unfold boundingIndex
  split
  · split
    · exact failsIn_ok _
    · exact failsIn_ok _
  · exact (f.index.get_fails place).map _

theorem bucketsFor_fails (f : NumericRangeFacet) (items : KeySet) (ranges : List RangeSelection) :
    FailsIn IsEvaluation (f.bucketsFor scene e items ranges).1 := by
  induction ranges generalizing f scene with
  | nil => exact failsIn_ok _
  | cons r rest ih =>
    unfold bucketsFor
    obtain ⟨failure, ⟨g, store⟩, hfirst, hfailure⟩ | ⟨found, ⟨g, store⟩, hfirst⟩ :=
      (f.itemsIn_fails r items).cases
    · rw [hfirst]
      exact failsIn_error hfailure
    · have hmore : FailsIn IsEvaluation (g.bucketsFor { scene with store } e items rest).1 := ih g
      rw [hfirst]
      dsimp only
      obtain ⟨failure, ⟨g, store⟩, hrest, hfailure⟩ | ⟨more, ⟨g, store⟩, hrest⟩ := hmore.cases
      · rw [hrest]
        exact failsIn_error hfailure
      · rw [hrest]
        exact failsIn_ok _

theorem update_fails (f : NumericRangeFacet) (items : KeySet) :
    FailsIn IsEvaluation (f.update scene items).1 := by
  unfold update
  dsimp only
  cases f.expression with
  | none => exact failsIn_ok _
  | some e =>
    dsimp only
    have hbounding : FailsIn IsEvaluation
        (boundingIndex { f with expression := some e, buckets := [] } scene e).1 :=
      boundingIndex_fails _
    obtain ⟨failure, ⟨g, store⟩, hindex, hfailure⟩ | ⟨index, ⟨g, store⟩, hindex⟩ := hbounding.cases
    · rw [hindex]
      exact failsIn_error hfailure
    · rw [hindex]
      dsimp only
      split
      · exact failsIn_ok _
      · split
        · obtain ⟨failure, ⟨g, store⟩, hbuckets, hfailure⟩ | ⟨buckets, ⟨g, store⟩, hbuckets⟩ :=
            (g.bucketsFor_fails items _).cases
          · rw [hbuckets]
            exact failsIn_error hfailure
          · rw [hbuckets]
            exact failsIn_ok _
        · exact failsIn_error ⟨_, rfl⟩

end NumericRangeFacet

namespace AlphaRangeFacet

theorem restrict_fails (f : AlphaRangeFacet) (items : KeySet) :
    FailsIn IsEvaluation (f.restrict scene items).1 := by
  unfold restrict
  cases f.expression with
  | none => exact failsIn_ok _
  | some e =>
    dsimp only
    split
    · exact failsIn_ok _
    · exact (f.index.get_fails place).map _

theorem update_fails (f : AlphaRangeFacet) (items : KeySet) :
    FailsIn IsEvaluation (f.update scene items).1 := by
  unfold update
  dsimp only
  cases f.expression with
  | none => exact failsIn_ok _
  | some e =>
    dsimp only
    obtain ⟨failure, kept, hindex, hfailure⟩ | ⟨index, kept, hindex⟩ := (f.index.get_fails place).cases
    · rw [hindex]
      exact failsIn_error hfailure
    · rw [hindex]
      exact failsIn_ok _

end AlphaRangeFacet

namespace HierarchicalFacet

theorem getTree_fails (f : HierarchicalFacet) : FailsIn IsEvaluation (f.getTree scene).1 := by
  unfold getTree
  cases f.expression with
  | none => exact failsIn_ok _
  | some e =>
    cases f.tree with
    | some tree => exact failsIn_ok _
    | none =>
      have hbuild : FailsIn IsEvaluation (Hierarchy.build scene e f.grouping) :=
        Hierarchy.build_fails f.grouping
      dsimp only
      generalize Hierarchy.build scene e f.grouping = answer at hbuild
      cases answer with
      | ok tree => exact failsIn_ok _
      | error failure => exact failsIn_error (hbuild failure rfl)

theorem restrict_fails (f : HierarchicalFacet) (items : KeySet) :
    FailsIn IsEvaluation (f.restrict scene items).1 := by
  unfold restrict
  split
  · exact failsIn_ok _
  · obtain ⟨failure, g, htree, hfailure⟩ | ⟨tree, g, htree⟩ := f.getTree_fails.cases
    · rw [htree]
      exact failsIn_error hfailure
    · rw [htree]
      cases tree <;> exact failsIn_ok _

theorem update_fails (f : HierarchicalFacet) (items : KeySet) :
    FailsIn IsEvaluation (f.update scene items).1 := by
  unfold update
  obtain ⟨failure, g, htree, hfailure⟩ | ⟨tree, g, htree⟩ := f.getTree_fails.cases
  · rw [htree]
    exact failsIn_error hfailure
  · rw [htree]
    cases tree <;> exact failsIn_ok _

theorem toggle_fails (f : HierarchicalFacet) (n : NodeSelection) (only : Bool) :
    FailsIn IsEvaluation (f.toggle scene n only).1 := by
  unfold toggle
  dsimp only
  split
  · exact failsIn_ok _
  · split
    · exact failsIn_ok _
    · obtain ⟨failure, g, htree, hfailure⟩ | ⟨tree, g, htree⟩ := f.getTree_fails.cases
      · rw [htree]
        exact failsIn_error hfailure
      · rw [htree]
        cases tree <;> exact failsIn_ok _

end HierarchicalFacet

theorem TextSearchFacet.restrict_fails (f : TextSearchFacet) (items : KeySet) :
    FailsIn IsEvaluation (f.restrict scene items).1 := by
  have htexts (item : String) : FailsIn IsEvaluation (textsOf f.searched scene.store item) := by
    unfold textsOf
    split
    · exact failsIn_ok _
    · exact failsIn_ok _
    · exact (failsIn_mapM (fun e => e.evalOnItem_fails item scene.store) _).bind fun _ => failsIn_ok _
  have hbuild : FailsIn IsEvaluation (buildTexts f.searched scene) :=
    (failsIn_mapM_pairs htexts _).bind fun _ => failsIn_ok _
  unfold restrict
  split
  · exact failsIn_ok _
  · split
    · exact failsIn_ok _
    · unfold getTexts
      cases f.texts with
      | some texts => exact failsIn_ok _
      | none =>
        dsimp only
        generalize buildTexts f.searched scene = answer at hbuild
        cases answer with
        | ok texts => exact failsIn_ok _
        | error failure => exact failsIn_error (hbuild failure rfl)

namespace DerivedFacet

theorem valuesOf_fails (f : DerivedFacet) (s : Store) (items : KeySet) :
    FailsIn IsEvaluation (f.valuesOf s items) := by
  unfold valuesOf
  split
  · exact failsIn_ok _
  · exact (failsIn_mapM (fun item => f.expression.evalOnItem_fails item s) _).bind fun _ => failsIn_ok _

theorem restrict_fails (f : DerivedFacet) (s : Store) (items : KeySet) :
    FailsIn IsEvaluation (f.restrict s items) := by
  unfold restrict
  split
  · exact failsIn_ok _
  · split
    · exact failsIn_ok _
    · exact (failsIn_mapM_pairs (fun item => f.expression.evalOnItem_fails item s) _).bind
        fun _ => failsIn_ok _

end DerivedFacet

namespace Facet

/-- What a facet lets through. -/
theorem restrict_fails (f : Facet) (scene : Scene) (items : KeySet) :
    FailsIn IsEvaluation (f.restrict scene items).1 := by
  cases f with
  | list f => exact f.restrict_fails items
  | cloud f => exact f.list.restrict_fails items
  | numericRange f => exact f.restrict_fails items
  | alphaRange f => exact f.restrict_fails items
  | hierarchical f => exact f.restrict_fails items
  | textSearch f => exact f.restrict_fails items
  | derived f => exact f.restrict_fails scene.store items

/-- **What a facet shows.** -/
theorem update_fails (f : Facet) (scene : Scene) (items : KeySet) :
    FailsIn IsEvaluation (f.update scene items).1 := by
  cases f with
  | list f => exact f.update_fails items
  | cloud f => exact f.update_fails items
  | numericRange f => exact f.update_fails items
  | alphaRange f => exact f.update_fails items
  | hierarchical f => exact f.update_fails items
  | textSearch f => exact failsIn_ok _
  | derived f => exact failsIn_ok _

/-! ## 3. Changes -/

theorem apply_fails (f : Facet) (state : FacetState) : FailsIn Failure.Ordinary (f.apply state) := by
  have hmismatch (facet given : String) : Failure.Ordinary (.data (.stateMismatch facet given)) :=
    fun _ _ => nofun
  cases f <;> cases state <;> first | exact failsIn_ok _ | exact failsIn_error (hmismatch _ _)

theorem importState_fails (f : Facet) (state : FacetState) :
    FailsIn Failure.Ordinary (f.importState state) := by
  unfold importState
  split
  · exact failsIn_ok _
  · split
    · exact failsIn_ok _
    · exact (f.apply_fails state).map _

theorem orStay_fails {p : Failure → Prop} {f : Facet} {answer : Outcome (Bool × Facet)}
    (h : FailsIn p answer) : FailsIn p (f.orStay answer).1 := by
  cases answer with
  | ok given => exact failsIn_ok _
  | error failure => exact failsIn_error (h failure rfl)

/-- **A change to a facet** fails with a failure of evaluation or because a state does not fit. -/
theorem perform_fails (f : Facet) (scene : Scene) (change : Change) :
    FailsIn Failure.Ordinary (f.perform scene change).1 := by
  cases change with
  | importState state => exact orStay_fails (f.importState_fails state)
  | apply state => exact orStay_fails ((f.apply_fails state).map _)
  | toggleNode node only =>
    cases f with
    | hierarchical f => exact (f.toggle_fails node only).mono Failure.IsEvaluation.ordinary
    | _ => exact failsIn_ok _
  | _ => cases f <;> exact failsIn_ok _

end Facet

/-- A facet is refused only for its class. -/
theorem FacetConfig.build_fails (config : FacetConfig) (settings : Settings) (n : Nat) :
    FailsIn Failure.Ordinary (config.build settings n) := by
  have hclass : FailsIn Failure.Ordinary config.class? := by
    unfold class?
    split
    · unfold FacetClass.ofName
      split
      · exact failsIn_ok _
      · exact failsIn_error fun _ _ => nofun
    · exact failsIn_ok _
  unfold build
  refine hclass.bind fun c => ?_
  cases c <;> exact failsIn_ok _

end Faceted
