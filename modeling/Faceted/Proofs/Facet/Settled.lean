import Faceted.Proofs.Facet.Asking

/-!
# What a facet stands for

Narrowing and counting change a facet: they fill what it keeps, and they change what it shows.
`Facet.settled` forgets the difference. It is the facet with everything kept that it may be asked for
and with nothing shown, nothing typed and nothing offered.

* `restrict_congr`: facets that settle to the same let the same items through;
* **`settled_restrict`** and **`settled_update`**: narrowing and counting leave a facet with what it
  stands for, and the store that they hand back answers like the one that they were given;
* `settled_alikeFor`: what a facet stands for depends on what is stored and on what its expressions
  yield, so on the scene only up to `Scene.Alike`.
-/

namespace Faceted

open Faceted.Expression

/-! ## 1. Lists and clouds -/

namespace ListFacet

/-- The list with nothing kept and nothing shown. -/
def bare (f : ListFacet) : ListFacet := { f with cache := none, entries := [], type := .text }

/-- The list with its maps kept and nothing shown. -/
def settled (f : ListFacet) (scene : Scene) : ListFacet :=
  { f.bare with cache := f.expression.bind fun e => keeping f.cache (ValueMaps.build scene e) }

theorem settled_alike {scene scene' : Scene} {f : ListFacet}
    (h : scene.AlikeFor f.expression.toList scene') : f.settled scene = f.settled scene' := by
  unfold settled
  cases he : f.expression with
  | none => rfl
  | some e => rw [Option.bind_some, Option.bind_some, h.maps (Option.mem_toList.mpr he)]

/-- Of the cache only what it keeps when asked counts. -/
theorem settled_eq {scene : Scene} {f g : ListFacet} {e : Expression} (hbare : g.bare = f.bare)
    (he : f.expression = some e)
    (hcache : keeping g.cache (ValueMaps.build scene e) =
      keeping f.cache (ValueMaps.build scene e)) : g.settled scene = f.settled scene := by
  have hexpression : g.expression = f.expression :=
    (congrArg ListFacet.expression hbare :)
  unfold settled
  rw [hbare, hexpression, he, Option.bind_some, Option.bind_some, hcache]

theorem settled_restrict (f : ListFacet) (scene : Scene) (items : KeySet) :
    (f.restrict scene items).2.settled scene = f.settled scene := by
  unfold restrict
  split
  · rfl
  · next e he =>
    have hwith := f.cache.keeping_itemsWith scene e f.selection items
    split
    · rfl
    · split
      · next cache h =>
        rw [h] at hwith
        exact settled_eq rfl he hwith
      · next found cache h =>
        rw [h] at hwith
        split
        · refine settled_eq rfl he ?_
          rw [← hwith]
          exact cache.keeping_itemsWithout scene e items found
        · exact settled_eq rfl he hwith

theorem settled_update (f : ListFacet) (scene : Scene) (items : KeySet) :
    (f.update scene items).2.settled scene = f.settled scene := by
  unfold update
  split
  · rfl
  · next e he =>
    have hcounts := f.cache.keeping_countsOf scene e items
    split
    · next cache h =>
      rw [h] at hcounts
      exact settled_eq rfl he hcounts
    · next counts type cache h =>
      rw [h] at hcounts
      split
      · have hwithout := cache.keeping_countWithout scene e items
        rw [show keeping cache _ = _ from hcounts] at hwithout
        split
        · next cache h =>
          rw [h] at hwithout
          exact settled_eq rfl he hwithout
        · next count cache h =>
          rw [h] at hwithout
          exact settled_eq rfl he hwithout
      · exact settled_eq rfl he hcounts

/-- What a list lets through, read off what it keeps. -/
theorem restrict_fst {f : ListFacet} {e : Expression} (he : f.expression = some e) (scene : Scene)
    (items : KeySet) :
    (f.restrict scene items).1 =
      if f.hasRestrictions then
        (match e.path? with
          | some p =>
            .ok (walkBackward scene.store (some items) p.hops (.ofSet f.selection .text)).toSet
          | none =>
            (answering f.cache (ValueMaps.build scene e)).map fun maps =>
              f.selection.toList.foldl (fun set v => set.union ((maps.holders v).inter items)) ∅)
        >>= fun found =>
          if f.selectMissing then
            (answering f.cache (ValueMaps.build scene e)).map fun maps =>
              found.union (items.inter maps.missing)
          else .ok found
      else .ok items := by
  unfold restrict
  rw [he]
  by_cases hr : f.hasRestrictions
  · simp only [hr, Bool.not_true, Bool.false_eq_true, if_false, if_true]
    unfold ValueCache.itemsWith ValueCache.itemsWithout
    cases hp : e.path? with
    | some p =>
      simp only [ValueCache.ask_eq]
      cases f.selectMissing <;> rfl
    | none =>
      simp only [ValueCache.ask_eq]
      cases hk : answering f.cache (ValueMaps.build scene e) with
      | error failure => rfl
      | ok maps =>
        simp only [Except.map]
        cases f.selectMissing with
        | false => rfl
        | true =>
          simp only [if_true, answering_keeping, hk]
          rfl
  · simp [hr]

/-- Lists that stand for the same let the same items through. -/
theorem restrict_congr {scene scene' : Scene} {f g : ListFacet}
    (hs : scene.AlikeFor f.expression.toList scene') (h : f.settled scene = g.settled scene')
    (items : KeySet) :
    (f.restrict scene items).1 = (g.restrict scene' items).1 := by
  have hexpression : f.expression = g.expression := (congrArg ListFacet.expression h :)
  have hselection : f.selection = g.selection := (congrArg ListFacet.selection h :)
  have hmissing : f.selectMissing = g.selectMissing := (congrArg ListFacet.selectMissing h :)
  have hcache := congrArg ListFacet.cache h
  cases he : f.expression with
  | none => simp [restrict, he, ← hexpression]
  | some e =>
    have he' : g.expression = some e := hexpression ▸ he
    have hmaps := hs.maps (Option.mem_toList.mpr he)
    simp only [settled, he, he', Option.bind_some, ← hmaps] at hcache
    have hanswer := answering_of_keeping_eq hcache
    rw [restrict_fst he, restrict_fst he', ← hmaps, ← hanswer]
    simp only [hasRestrictions, hselection, hmissing, walkBackward_congr hs.content]
    rfl

end ListFacet

/-- The cloud with what its list stands for and no weights. -/
def CloudFacet.settled (f : CloudFacet) (scene : Scene) : CloudFacet :=
  { f with list := f.list.settled scene, cloud := [] }

theorem CloudFacet.settled_update (f : CloudFacet) (scene : Scene) (items : KeySet) :
    (f.update scene items).2.settled scene = f.settled scene := by
  have hlist := f.list.settled_update scene items
  unfold update
  split
  · next list h =>
    rw [h] at hlist
    unfold settled
    rw [show list.settled scene = _ from hlist]
  · next failure list h =>
    rw [h] at hlist
    unfold settled
    rw [show list.settled scene = _ from hlist]

/-! ## 2. Ranges of numbers -/

namespace NumericRangeFacet

def bare (f : NumericRangeFacet) : NumericRangeFacet := { f with index := none, buckets := [] }

/-- The facet with its index kept and nothing shown. -/
def settled (f : NumericRangeFacet) (scene : Scene) : NumericRangeFacet :=
  { f.bare with
    index := f.expression.bind fun e => keeping f.index (LocalIndex.build scene e place) }

theorem settled_alike {scene scene' : Scene} {f : NumericRangeFacet}
    (h : scene.AlikeFor f.expression.toList scene') : f.settled scene = f.settled scene' := by
  unfold settled
  cases he : f.expression with
  | none => rfl
  | some e => rw [Option.bind_some, Option.bind_some, h.index (Option.mem_toList.mpr he)]

theorem settled_expression (f : NumericRangeFacet) (scene : Scene) :
    (f.settled scene).expression = f.expression := rfl

theorem settled_eq {scene : Scene} {f g : NumericRangeFacet} {e : Expression}
    (hbare : g.bare = f.bare) (he : f.expression = some e)
    (hindex : keeping g.index (LocalIndex.build scene e place) =
      keeping f.index (LocalIndex.build scene e place)) : g.settled scene = f.settled scene := by
  have hexpression : g.expression = f.expression :=
    (congrArg NumericRangeFacet.expression hbare :)
  unfold settled
  rw [hbare, hexpression, he, Option.bind_some, Option.bind_some, hindex]

/-- What an answer leaves behind: the facet as it stood and a store that answers like the scene's. -/
structure Leaves (f : NumericRangeFacet) (scene : Scene) (left : NumericRangeFacet × Store) :
    Prop where
  settled : left.1.settled scene = f.settled scene
  store : scene.store.Alike left.2

namespace Leaves

variable {f : NumericRangeFacet} {scene : Scene} {left next : NumericRangeFacet × Store}

theorem expression (h : f.Leaves scene left) : left.1.expression = f.expression := by
  rw [← settled_expression _ scene, h.settled, settled_expression]

theorem scene_alike (h : f.Leaves scene left) : scene.Alike { scene with store := left.2 } :=
  ⟨h.store, rfl⟩

/-- One question after another. -/
theorem trans (h : f.Leaves scene left)
    (h' : left.1.Leaves { scene with store := left.2 } next) : f.Leaves scene next where
  settled := by
    rw [settled_alike (h.scene_alike.alikeFor _), h'.settled,
      ← settled_alike (h.scene_alike.alikeFor _), h.settled]
  store := h.store.trans h'.store

end Leaves

variable {scene scene' : Scene} {f g : NumericRangeFacet} {e : Expression}

theorem leaves_index (he : f.expression = some e) :
    f.Leaves scene ({ f with index := (f.index.get scene e place).2 }, scene.store) := by
  refine ⟨settled_eq rfl he ?_, Store.Alike.refl _⟩
  rw [LocalIndex.get_eq]
  exact keeping_keeping _ _

theorem leaves_itemsIn (scene : Scene) (he : f.expression = some e) (r : RangeSelection)
    (items : KeySet) : f.Leaves scene (f.itemsIn scene e r items).2 := by
  unfold itemsIn
  split
  · exact ⟨rfl, rangeBackward_snd_alike _ _ _ _ _ _⟩
  · exact leaves_index he

/-- The items of a range depend on what the facet stands for. -/
theorem itemsIn_congr (hs : scene.AlikeFor [e] scene') (h : f.settled scene = g.settled scene')
    (he : f.expression = some e) (r : RangeSelection) (items : KeySet) :
    (f.itemsIn scene e r items).1 = (g.itemsIn scene' e r items).1 := by
  have he' : g.expression = some e := (congrArg NumericRangeFacet.expression h :).symm.trans he
  have hbuilt := hs.index (List.mem_singleton_self e) place
  have hindex := congrArg NumericRangeFacet.index h
  simp only [settled, he, he', Option.bind_some, ← hbuilt] at hindex
  unfold itemsIn
  split
  · next p _ => exact rangeBackward_congr hs.content p.hops r.low r.high false (some items)
  · simp only [LocalIndex.get_eq, ← hbuilt, answering_of_keeping_eq hindex]

theorem leaves_itemsInAny (he : f.expression = some e) (items found : KeySet)
    (ranges : List RangeSelection) : f.Leaves scene (f.itemsInAny scene e items found ranges).2 := by
  induction ranges generalizing f scene found with
  | nil => exact ⟨rfl, Store.Alike.refl _⟩
  | cons r rest ih =>
    have hr := leaves_itemsIn scene he r items
    unfold itemsInAny
    split
    · next failure f' store h =>
      rw [h] at hr
      exact ⟨hr.settled, hr.store⟩
    · next more f' store h =>
      rw [h] at hr
      exact hr.trans (ih (hr.expression.trans he) _)

theorem itemsInAny_congr (hs : scene.AlikeFor [e] scene') (h : f.settled scene = g.settled scene')
    (he : f.expression = some e) (items found : KeySet) (ranges : List RangeSelection) :
    (f.itemsInAny scene e items found ranges).1 = (g.itemsInAny scene' e items found ranges).1 := by
  induction ranges generalizing f g scene scene' found with
  | nil => rfl
  | cons r rest ih =>
    have he' : g.expression = some e := (congrArg NumericRangeFacet.expression h :).symm.trans he
    have hf := leaves_itemsIn scene he r items
    have hg := leaves_itemsIn scene' he' r items
    have hanswer := itemsIn_congr hs h he r items
    unfold itemsInAny
    generalize f.itemsIn scene e r items = answer at hf hanswer ⊢
    generalize g.itemsIn scene' e r items = answer' at hg hanswer ⊢
    obtain ⟨outcome, f', store⟩ := answer
    obtain ⟨outcome', g', store'⟩ := answer'
    cases (hanswer : outcome = outcome')
    cases outcome with
    | error failure => rfl
    | ok more =>
      have hscenes := ((hf.scene_alike.symm.alikeFor _).trans hs).trans (hg.scene_alike.alikeFor _)
      refine ih hscenes ?_ (hf.expression.trans he) _
      rw [← settled_alike (hf.scene_alike.alikeFor _), ← settled_alike (hg.scene_alike.alikeFor _)]
      exact (hf.settled.trans h).trans hg.settled.symm

theorem leaves_restrict (f : NumericRangeFacet) (scene : Scene) (items : KeySet) :
    f.Leaves scene (f.restrict scene items).2 := by
  unfold restrict
  split
  · exact ⟨rfl, Store.Alike.refl _⟩
  · next e he =>
    split
    · exact leaves_itemsInAny he items ∅ f.chosen
    · exact ⟨rfl, Store.Alike.refl _⟩

theorem restrict_congr (hs : scene.AlikeFor f.expression.toList scene')
    (h : f.settled scene = g.settled scene') (items : KeySet) :
    (f.restrict scene items).1 = (g.restrict scene' items).1 := by
  have hexpression : f.expression = g.expression := (congrArg NumericRangeFacet.expression h :)
  have hchosen : f.chosen = g.chosen := (congrArg NumericRangeFacet.chosen h :)
  unfold restrict hasRestrictions
  rw [← hexpression, ← hchosen]
  split
  · rfl
  · next e he =>
    split
    · rw [he, Option.toList_some] at hs
      exact itemsInAny_congr hs h he items ∅ f.chosen
    · rfl

theorem leaves_boundingIndex (scene : Scene) (he : f.expression = some e) :
    f.Leaves scene (f.boundingIndex scene e).2 := by
  unfold boundingIndex
  split
  · split
    · exact ⟨rfl, Store.Alike.refl _⟩
    · exact ⟨rfl, Store.rangeIndex?_alike _ _⟩
  · exact leaves_index he

theorem leaves_bucketsFor (scene : Scene) (he : f.expression = some e) (items : KeySet)
    (ranges : List RangeSelection) : f.Leaves scene (f.bucketsFor scene e items ranges).2 := by
  induction ranges generalizing f scene with
  | nil => exact ⟨rfl, Store.Alike.refl _⟩
  | cons r rest ih =>
    have hr := leaves_itemsIn scene he r items
    unfold bucketsFor
    split
    · next failure f' store h =>
      rw [h] at hr
      exact ⟨hr.settled, hr.store⟩
    · next found f' store h =>
      rw [h] at hr
      have hrest := hr.trans (ih { scene with store } (hr.expression.trans he))
      split
      · next failure f'' store' h' =>
        rw [h'] at hrest
        exact ⟨hrest.settled, hrest.store⟩
      · next more f'' store' h' =>
        rw [h'] at hrest
        exact ⟨hrest.settled, hrest.store⟩

theorem leaves_update (f : NumericRangeFacet) (scene : Scene) (items : KeySet) :
    f.Leaves scene (f.update scene items).2 := by
  have hblank : ({ f with buckets := [] } : NumericRangeFacet).settled scene = f.settled scene := rfl
  unfold update
  dsimp only
  split
  · exact ⟨rfl, Store.Alike.refl _⟩
  · next e he =>
    have hbound := leaves_boundingIndex (f := { f with buckets := [] }) scene he
    split
    · next failure f' store h =>
      rw [h] at hbound
      exact ⟨hbound.settled.trans hblank, hbound.store⟩
    · next index f' store h =>
      rw [h] at hbound
      split
      · exact ⟨hbound.settled.trans hblank, hbound.store⟩
      · split
        · split
          · next failure f'' store' h' =>
            have hbuckets : f'.Leaves { scene with store } (f'', store') := by
              rw [show (f'', store') = _ from (congrArg Prod.snd h').symm]
              exact leaves_bucketsFor _ (hbound.expression.trans he) items _
            have hall := hbound.trans hbuckets
            exact ⟨hall.settled.trans hblank, hall.store⟩
          · next buckets f'' store' h' =>
            have hbuckets : f'.Leaves { scene with store } (f'', store') := by
              rw [show (f'', store') = _ from (congrArg Prod.snd h').symm]
              exact leaves_bucketsFor _ (hbound.expression.trans he) items _
            have hall := hbound.trans hbuckets
            exact ⟨hall.settled.trans hblank, hall.store⟩
        · exact ⟨hbound.settled.trans hblank, hbound.store⟩

end NumericRangeFacet

/-! ## 3. Ranges of letters -/

namespace AlphaRangeFacet

def bare (f : AlphaRangeFacet) : AlphaRangeFacet := { f with index := none, buckets := [] }

/-- The facet with its index kept and nothing shown. -/
def settled (f : AlphaRangeFacet) (scene : Scene) : AlphaRangeFacet :=
  { f.bare with
    index := f.expression.bind fun e => keeping f.index (LocalIndex.build scene e place) }

variable {scene scene' : Scene}

theorem settled_alike {f : AlphaRangeFacet} (h : scene.AlikeFor f.expression.toList scene') :
    f.settled scene = f.settled scene' := by
  unfold settled
  cases he : f.expression with
  | none => rfl
  | some e => rw [Option.bind_some, Option.bind_some, h.index (Option.mem_toList.mpr he)]

theorem settled_eq {f g : AlphaRangeFacet} {e : Expression}
    (hbare : g.bare = f.bare) (he : f.expression = some e)
    (hindex : keeping g.index (LocalIndex.build scene e place) =
      keeping f.index (LocalIndex.build scene e place)) : g.settled scene = f.settled scene := by
  have hexpression : g.expression = f.expression :=
    (congrArg AlphaRangeFacet.expression hbare :)
  unfold settled
  rw [hbare, hexpression, he, Option.bind_some, Option.bind_some, hindex]

theorem keeping_get (f : AlphaRangeFacet) (scene : Scene) (e : Expression) :
    keeping (f.index.get scene e place).2 (LocalIndex.build scene e place) =
      keeping f.index (LocalIndex.build scene e place) := by
  rw [LocalIndex.get_eq]
  exact keeping_keeping _ _

theorem settled_restrict (f : AlphaRangeFacet) (scene : Scene) (items : KeySet) :
    (f.restrict scene items).2.settled scene = f.settled scene := by
  unfold restrict
  split
  · rfl
  · next e he =>
    split
    · rfl
    · exact settled_eq rfl he (f.keeping_get scene e)

theorem settled_update (f : AlphaRangeFacet) (scene : Scene) (items : KeySet) :
    (f.update scene items).2.settled scene = f.settled scene := by
  unfold update
  dsimp only
  split
  · rfl
  · next e he =>
    have hget := f.keeping_get scene e
    split
    · next failure kept h =>
      rw [h] at hget
      exact settled_eq rfl he hget
    · next index kept h =>
      rw [h] at hget
      exact settled_eq rfl he hget

theorem restrict_congr {f g : AlphaRangeFacet} (hs : scene.AlikeFor f.expression.toList scene')
    (h : f.settled scene = g.settled scene') (items : KeySet) :
    (f.restrict scene items).1 = (g.restrict scene' items).1 := by
  have hexpression : f.expression = g.expression := (congrArg AlphaRangeFacet.expression h :)
  have hchosen : f.chosen = g.chosen := (congrArg AlphaRangeFacet.chosen h :)
  have hindex := congrArg AlphaRangeFacet.index h
  unfold restrict hasRestrictions
  rw [← hexpression, ← hchosen]
  split
  · rfl
  · next e he =>
    have hbuilt := hs.index (Option.mem_toList.mpr he) place
    simp only [settled, he, hexpression ▸ he, Option.bind_some, ← hbuilt] at hindex
    split
    · rfl
    · simp only [LocalIndex.get_eq, ← hbuilt, answering_of_keeping_eq hindex]

end AlphaRangeFacet

/-! ## 4. Trees -/

namespace HierarchicalFacet

def bare (f : HierarchicalFacet) : HierarchicalFacet := { f with tree := none, entries := [] }

/-- The facet with its tree kept and nothing shown. -/
def settled (f : HierarchicalFacet) (scene : Scene) : HierarchicalFacet :=
  { f.bare with
    tree := f.expression.bind fun e => keeping f.tree (Hierarchy.build scene e f.grouping) }

variable {scene scene' : Scene}

/-- The tree is built of what the facet has been set up with. -/
theorem tree_alike {f : HierarchicalFacet} {e : Expression} (he : f.expression = some e)
    (h : scene.AlikeFor (f.expression.toList ++ f.grouping.toList) scene') :
    Hierarchy.build scene e f.grouping = Hierarchy.build scene' e f.grouping :=
  h.tree (List.mem_append_left _ (Option.mem_toList.mpr he)) fun _ hgrouping =>
    List.mem_append_right _ (Option.mem_toList.mpr hgrouping)

theorem settled_alike {f : HierarchicalFacet}
    (h : scene.AlikeFor (f.expression.toList ++ f.grouping.toList) scene') :
    f.settled scene = f.settled scene' := by
  unfold settled
  cases he : f.expression with
  | none => simp only [Option.bind_none]
  | some e => simp only [Option.bind_some, tree_alike he h]

/-- Asking for the tree leaves the facet as it stood, whatever it goes on to show. -/
theorem settled_getTree (f : HierarchicalFacet) (scene : Scene) (entries : List HierarchyEntry) :
    settled { (f.getTree scene).2 with entries } scene = f.settled scene := by
  cases he : f.expression with
  | none =>
    have : (f.getTree scene).2 = f := by simp [getTree, he]
    rw [this]
    rfl
  | some e =>
    rw [getTree_eq he]
    simp only [settled, bare, he, Option.bind_some, keeping_keeping]

theorem settled_restrict (f : HierarchicalFacet) (scene : Scene) (items : KeySet) :
    (f.restrict scene items).2.settled scene = f.settled scene := by
  have htree := f.settled_getTree scene f.entries
  unfold restrict
  split
  · rfl
  · have hentries : (f.getTree scene).2.entries = f.entries := by
      cases he : f.expression with
      | none => simp [getTree, he]
      | some e => rw [getTree_eq he]
    rw [← hentries] at htree
    split <;> next h => rw [h] at htree; exact htree

theorem settled_update (f : HierarchicalFacet) (scene : Scene) (items : KeySet) :
    (f.update scene items).2.settled scene = f.settled scene := by
  have htree := f.settled_getTree scene
  unfold update
  split
  · next failure f' h =>
    rw [h] at htree
    exact htree f'.entries
  · next f' h =>
    rw [h] at htree
    exact htree []
  · next tree f' h =>
    rw [h] at htree
    exact htree _

/-- What the tree facet lets through, read off what it keeps. -/
theorem restrict_fst {f : HierarchicalFacet} {e : Expression} (he : f.expression = some e)
    (scene : Scene) (items : KeySet) :
    (f.restrict scene items).1 =
      if f.hasRestrictions then
        (answering f.tree (Hierarchy.build scene e f.grouping)).map fun tree =>
          f.selections.foldl (fun set n => set.union ((itemsOf tree n).inter items)) ∅
      else .ok items := by
  unfold restrict
  rw [getTree_eq he]
  cases f.hasRestrictions with
  | false => rfl
  | true => cases answering f.tree (Hierarchy.build scene e f.grouping) <;> rfl

theorem restrict_congr {f g : HierarchicalFacet}
    (hs : scene.AlikeFor (f.expression.toList ++ f.grouping.toList) scene')
    (h : f.settled scene = g.settled scene') (items : KeySet) :
    (f.restrict scene items).1 = (g.restrict scene' items).1 := by
  have hexpression : f.expression = g.expression := (congrArg HierarchicalFacet.expression h :)
  have hgrouping : f.grouping = g.grouping := (congrArg HierarchicalFacet.grouping h :)
  have hselections : f.selections = g.selections := (congrArg HierarchicalFacet.selections h :)
  have htree := congrArg HierarchicalFacet.tree h
  cases he : f.expression with
  | none => simp [restrict, getTree, he, ← hexpression, hasRestrictions, hselections]
  | some e =>
    have he' : g.expression = some e := hexpression ▸ he
    simp only [settled, he, he', Option.bind_some, ← hgrouping, ← tree_alike he hs] at htree
    have hanswer := answering_of_keeping_eq htree
    rw [restrict_fst he, restrict_fst he', ← hgrouping, ← tree_alike he hs, ← hanswer]
    simp only [hasRestrictions, hselections]
    rfl

end HierarchicalFacet

/-! ## 5. Texts -/

namespace TextSearchFacet

/-- The facet with its texts kept and nothing typed. -/
def settled (f : TextSearchFacet) (scene : Scene) : TextSearchFacet :=
  { f with
    requiresEnter := false
    debouncer := .new 0
    texts := keeping f.texts (buildTexts f.searched scene) }

variable {scene scene' : Scene}

theorem settled_alike {f : TextSearchFacet} (h : scene.AlikeFor f.searched.listed scene') :
    f.settled scene = f.settled scene' := by
  unfold settled
  rw [h.texts fun _ he => he]

theorem settled_restrict (f : TextSearchFacet) (scene : Scene) (items : KeySet) :
    (f.restrict scene items).2.settled scene = f.settled scene := by
  unfold restrict
  split
  · rfl
  · split
    · rfl
    · simp only [getTexts_eq, settled, keeping_keeping]

theorem restrict_congr {f g : TextSearchFacet} (hs : scene.AlikeFor f.searched.listed scene')
    (h : f.settled scene = g.settled scene') (items : KeySet) :
    (f.restrict scene items).1 = (g.restrict scene' items).1 := by
  have hsearched : f.searched = g.searched := (congrArg TextSearchFacet.searched h :)
  have hquery : f.query = g.query := (congrArg TextSearchFacet.query h :)
  have hbuilt := hs.texts fun _ he => he
  have htexts := congrArg TextSearchFacet.texts h
  simp only [settled, ← hsearched, ← hbuilt] at htexts
  unfold restrict
  rw [← hquery, ← hsearched]
  split
  · rfl
  · split
    · rfl
    · simp only [getTexts_eq, ← hsearched, ← hbuilt, answering_of_keeping_eq htexts]

end TextSearchFacet

/-! ## 6. Derived facets -/

namespace DerivedFacet

/-- The facet with nothing offered. -/
def settled (f : DerivedFacet) : DerivedFacet := { f with candidates := ∅ }

theorem restrict_congr {scene scene' : Scene} {f g : DerivedFacet}
    (hs : scene.AlikeFor [f.expression] scene') (h : f.settled = g.settled) (items : KeySet) :
    f.restrict scene.store items = g.restrict scene'.store items := by
  have hexpression : f.expression = g.expression := (congrArg DerivedFacet.expression h :)
  have hrestriction : f.restriction = g.restriction := (congrArg DerivedFacet.restriction h :)
  unfold restrict
  rw [← hexpression, ← hrestriction]
  simp only [walkBackward_congr hs.content, hs.evalOnItem (List.mem_singleton_self _)]

/-- The values of the items depend on the expression only. -/
theorem valuesOf_congr {s t : Store} {f g : DerivedFacet} (hs : s.SameContent t)
    (heval : ∀ item, f.expression.evalOnItem item s = f.expression.evalOnItem item t)
    (h : f.expression = g.expression) (items : KeySet) : f.valuesOf s items = g.valuesOf t items := by
  unfold valuesOf
  rw [← h]
  simp only [walkForward_congr hs, heval]

theorem valuesOf_alike {s t : Store} (hs : s.Alike t) {f g : DerivedFacet}
    (h : f.expression = g.expression) (items : KeySet) : f.valuesOf s items = g.valuesOf t items :=
  valuesOf_congr hs.content (fun _ => eval_alike hs f.expression _ _) h items

end DerivedFacet

/-! ## 7. Facets -/

namespace Facet

/-- The facet with everything kept that it may be asked for, and with nothing shown. -/
def settled (f : Facet) (scene : Scene) : Facet :=
  match f with
  | .list f => .list (f.settled scene)
  | .cloud f => .cloud (f.settled scene)
  | .numericRange f => .numericRange (f.settled scene)
  | .alphaRange f => .alphaRange (f.settled scene)
  | .hierarchical f => .hierarchical (f.settled scene)
  | .textSearch f => .textSearch (f.settled scene)
  | .derived f => .derived f.settled

variable {scene scene' : Scene} {f g : Facet}

/-- What a facet stands for depends on what is stored and on what its expressions yield. -/
theorem settled_alikeFor (h : scene.AlikeFor f.expressions scene') :
    f.settled scene = f.settled scene' := by
  cases f with
  | list f => exact congrArg Facet.list (ListFacet.settled_alike h)
  | cloud f =>
    have hlist : f.list.settled scene = f.list.settled scene' := ListFacet.settled_alike h
    simp only [settled, CloudFacet.settled, hlist]
  | numericRange f => exact congrArg Facet.numericRange (NumericRangeFacet.settled_alike h)
  | alphaRange f => exact congrArg Facet.alphaRange (AlphaRangeFacet.settled_alike h)
  | hierarchical f => exact congrArg Facet.hierarchical (HierarchicalFacet.settled_alike h)
  | textSearch f => exact congrArg Facet.textSearch (TextSearchFacet.settled_alike h)
  | derived f => rfl

theorem settled_alike (h : scene.Alike scene') (f : Facet) : f.settled scene = f.settled scene' :=
  settled_alikeFor (h.alikeFor f.expressions)

/-- What counts beside the cache stands in what the facet settles to. -/
@[simp] theorem hasRestrictions_settled (f : Facet) (scene : Scene) :
    (f.settled scene).hasRestrictions = f.hasRestrictions := by
  cases f <;> rfl

theorem hasRestrictions_congr (h : f.settled scene = g.settled scene') :
    f.hasRestrictions = g.hasRestrictions := by
  rw [← hasRestrictions_settled f scene, h, hasRestrictions_settled]

/-- **Facets that stand for the same let the same items through.** -/
theorem restrict_congr (hs : scene.AlikeFor f.expressions scene')
    (h : f.settled scene = g.settled scene') (items : KeySet) :
    (f.restrict scene items).1 = (g.restrict scene' items).1 := by
  cases f <;> cases g <;> simp only [settled, reduceCtorEq, list.injEq, cloud.injEq,
    numericRange.injEq, alphaRange.injEq, hierarchical.injEq, textSearch.injEq,
    derived.injEq] at h
  · exact ListFacet.restrict_congr hs h items
  · exact ListFacet.restrict_congr hs (congrArg CloudFacet.list h :) items
  · exact NumericRangeFacet.restrict_congr hs h items
  · exact AlphaRangeFacet.restrict_congr hs h items
  · exact HierarchicalFacet.restrict_congr hs h items
  · exact TextSearchFacet.restrict_congr hs h items
  · exact DerivedFacet.restrict_congr hs h items

/-- **Narrowing leaves a facet with what it stands for.** -/
theorem settled_restrict (f : Facet) (scene : Scene) (items : KeySet) :
    (f.restrict scene items).2.1.settled scene = f.settled scene := by
  cases f with
  | list f => exact congrArg Facet.list (f.settled_restrict scene items)
  | cloud f =>
    have h := f.list.settled_restrict scene items
    simp only [restrict, leaving, settled, CloudFacet.settled, h]
  | numericRange f => exact congrArg Facet.numericRange (f.leaves_restrict scene items).settled
  | alphaRange f => exact congrArg Facet.alphaRange (f.settled_restrict scene items)
  | hierarchical f => exact congrArg Facet.hierarchical (f.settled_restrict scene items)
  | textSearch f => exact congrArg Facet.textSearch (f.settled_restrict scene items)
  | derived f => rfl

theorem restrict_store_alike (f : Facet) (scene : Scene) (items : KeySet) :
    scene.store.Alike (f.restrict scene items).2.2 := by
  cases f with
  | numericRange f => exact (f.leaves_restrict scene items).store
  | _ => exact Store.Alike.refl _

/-- **Counting leaves a facet with what it stands for.** -/
theorem settled_update (f : Facet) (scene : Scene) (items : KeySet) :
    (f.update scene items).2.1.settled scene = f.settled scene := by
  cases f with
  | list f => exact congrArg Facet.list (f.settled_update scene items)
  | cloud f => exact congrArg Facet.cloud (f.settled_update scene items)
  | numericRange f => exact congrArg Facet.numericRange (f.leaves_update scene items).settled
  | alphaRange f => exact congrArg Facet.alphaRange (f.settled_update scene items)
  | hierarchical f => exact congrArg Facet.hierarchical (f.settled_update scene items)
  | textSearch f => rfl
  | derived f => rfl

theorem update_store_alike (f : Facet) (scene : Scene) (items : KeySet) :
    scene.store.Alike (f.update scene items).2.2 := by
  cases f with
  | numericRange f => exact (f.leaves_update scene items).store
  | _ => exact Store.Alike.refl _

end Facet

end Faceted
