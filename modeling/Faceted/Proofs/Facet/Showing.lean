import Faceted.Proofs.Facet.Offering

/-!
# What facets show

An update counts over the items that it is handed and puts the outcome in the place of what was shown.
What comes of it depends on the items and on what the facet stands for: neither on what the facet keeps
nor on what it showed before.

* `counted`, one for each kind that counts: the outcome told by itself. `update_counted` says that an
  update enters it and changes nothing else but what is kept;
* `Facet.shown` and `Facet.wouldShow`: what is shown, and what an update would put there;
* **`Facet.wouldShow_congr`**: facets that stand for the same would show the same;
* **`Facet.update_of_copy`**: an update of two facets that differ in what they keep, and stand for the
  same, leaves two such facets.
-/

namespace Faceted

open Faceted.Expression

theorem Store.Alike.valueLabel {s t : Store} (h : s.Alike t) (value : String) (type : ValueType) :
    valueLabel s value type = valueLabel t value type := by
  unfold Faceted.valueLabel Store.object? Store.objectList
  rw [h.content.forward]

/-- Values are counted alike by caches that keep the same. -/
theorem ValueCache.countsOf_congr {scene scene' : Scene} (hs : scene.Alike scene') {e : Expression}
    {cache cache' : ValueCache}
    (h : keeping cache (ValueMaps.build scene e) = keeping cache' (ValueMaps.build scene' e))
    (items : KeySet) : (cache.countsOf scene e items).1 = (cache'.countsOf scene' e items).1 := by
  rw [← hs.maps e] at h
  unfold countsOf
  cases e.path? with
  | some p =>
    dsimp only
    rw [walkForward_congr hs.store.content]
    simp only [walkBackward_congr hs.store.content]
  | none =>
    dsimp only
    rw [ask_eq, ask_eq, ← hs.maps e, answering_of_keeping_eq h]

namespace ListFacet

variable {scene scene' : Scene} {f g : ListFacet} {e : Expression}

/-- The type of the values and the entries that a count yields. -/
def counted (f : ListFacet) (scene : Scene) (items : KeySet) : Outcome (ValueType × List Entry) :=
  match f.expression with
  | none => .ok (f.type, [])
  | some e => do
    let (counts, type) ← (f.cache.countsOf scene e items).1
    let entries := f.order.sort type (counts.map (f.valueEntry scene.store type))
    if f.showMissing || f.selectMissing then
      let maps ← answering f.cache (ValueMaps.build scene e)
      let count := (items.inter maps.missing).size
      return (type, if 0 < count || f.selectMissing then f.missingEntry count :: entries else entries)
    else return (type, entries)

/-- The list with what a count has yielded, or as it was if the count failed. -/
def entered (f : ListFacet) : Outcome (ValueType × List Entry) → ListFacet
  | .ok (type, entries) => { f with type, entries }
  | .error _ => f

theorem update_counted (f : ListFacet) (scene : Scene) (items : KeySet) :
    (f.update scene items).1 = (f.counted scene items).map (fun _ => ()) ∧
      (f.update scene items).2.dropCaches = f.dropCaches.entered (f.counted scene items) := by
  obtain ⟨id, label, expression, order, showMissing, missingLabel, selection, selectMissing, cache,
    shown, type⟩ := f
  unfold update counted
  cases expression with
  | none => exact ⟨rfl, rfl⟩
  | some e =>
    dsimp only
    have hkeeping := cache.keeping_countsOf scene e items
    generalize cache.countsOf scene e items = answer at hkeeping ⊢
    obtain ⟨outcome, cache'⟩ := answer
    cases outcome with
    | error failure => exact ⟨rfl, rfl⟩
    | ok counted =>
      obtain ⟨counts, type⟩ := counted
      dsimp only
      rw [ValueCache.countWithout, ValueCache.ask_eq, answering_of_keeping_eq hkeeping]
      cases hshow : showMissing || selectMissing with
      | false =>
        simp only [Bool.false_eq_true, if_false]
        exact ⟨rfl, rfl⟩
      | true =>
        simp only [if_true]
        cases answering cache (ValueMaps.build scene e) <;> exact ⟨rfl, rfl⟩

theorem counted_congr (hs : scene.Alike scene') (h : f.settled scene = g.settled scene')
    (htype : f.expression = none → f.type = g.type) (items : KeySet) :
    f.counted scene items = g.counted scene' items := by
  have hexpression : f.expression = g.expression := (congrArg ListFacet.expression h :)
  unfold counted
  rw [← hexpression]
  cases he : f.expression with
  | none => rw [htype he]
  | some e =>
    have hcache := congrArg ListFacet.cache h
    simp only [settled, he, hexpression ▸ he, Option.bind_some] at hcache
    have hentry (type : ValueType) : f.valueEntry scene.store type = g.valueEntry scene'.store type := by
      funext c
      have hselection : f.selection = g.selection := (congrArg ListFacet.selection h :)
      simp only [valueEntry, hs.store.valueLabel, hselection]
    have horder : f.order = g.order := (congrArg ListFacet.order h :)
    have hshow : f.showMissing = g.showMissing := (congrArg ListFacet.showMissing h :)
    have hmissing : f.selectMissing = g.selectMissing := (congrArg ListFacet.selectMissing h :)
    have hlabel : f.missingLabel = g.missingLabel := (congrArg ListFacet.missingLabel h :)
    have hanswer : answering f.cache (ValueMaps.build scene e) =
        answering g.cache (ValueMaps.build scene' e) := by
      rw [← hs.maps e] at hcache ⊢
      exact answering_of_keeping_eq hcache
    simp only [ValueCache.countsOf_congr hs hcache, hentry, horder, hshow, hmissing, missingEntry,
      hlabel, hanswer]

/-- The entries that a count yields. -/
theorem entries_counted_congr (hs : scene.Alike scene') (h : f.settled scene = g.settled scene')
    (items : KeySet) :
    (f.counted scene items).map Prod.snd = (g.counted scene' items).map Prod.snd := by
  have hexpression : f.expression = g.expression := (congrArg ListFacet.expression h :)
  cases he : f.expression with
  | none =>
    unfold counted
    rw [← hexpression, he]
    rfl
  | some e => rw [counted_congr hs h (by simp [he])]

end ListFacet

/-! ## 2. Clouds -/

namespace CloudFacet

/-- The cloud with what a count has yielded, or as it was if the count failed. -/
def entered (f : CloudFacet) (counted : Outcome (ValueType × List Entry)) : CloudFacet :=
  { f with
    list := f.list.entered counted
    cloud := match counted with
      | .ok c => cloudOf f.minimumCount c.2
      | .error _ => f.cloud }

theorem update_counted (f : CloudFacet) (scene : Scene) (items : KeySet) :
    (f.update scene items).1 = (f.list.counted scene items).map (fun _ => ()) ∧
      ({ (f.update scene items).2 with list := (f.update scene items).2.list.dropCaches } : CloudFacet) =
        { f with list := f.list.dropCaches }.entered (f.list.counted scene items) := by
  obtain ⟨hoks, hlist⟩ := f.list.update_counted scene items
  unfold update
  generalize f.list.update scene items = answer at hoks hlist ⊢
  obtain ⟨outcome, list⟩ := answer
  cases hcounted : f.list.counted scene items with
  | error failure =>
    rw [hcounted] at hoks hlist
    cases (hoks : outcome = .error failure)
    exact ⟨rfl, congrArg (fun list => ({ f with list } : CloudFacet)) hlist⟩
  | ok c =>
    rw [hcounted] at hoks hlist
    cases (hoks : outcome = .ok ())
    have hentries : list.entries = c.2 := (congrArg ListFacet.entries hlist :)
    refine ⟨rfl, ?_⟩
    show ({ f with list := list.dropCaches, cloud := cloudOf f.minimumCount list.entries } :
      CloudFacet) = _
    rw [hentries, show list.dropCaches = _ from hlist]
    rfl

end CloudFacet

/-! ## 3. Ranges of numbers -/

namespace NumericRangeFacet

variable {scene scene' : Scene} {f g : NumericRangeFacet} {e : Expression}

theorem dropCaches_itemsIn (f : NumericRangeFacet) (scene : Scene) (e : Expression)
    (r : RangeSelection) (items : KeySet) :
    (f.itemsIn scene e r items).2.1.dropCaches = f.dropCaches := by
  unfold itemsIn
  split <;> rfl

theorem dropCaches_itemsInAny (f : NumericRangeFacet) (scene : Scene) (e : Expression)
    (items found : KeySet) (ranges : List RangeSelection) :
    (f.itemsInAny scene e items found ranges).2.1.dropCaches = f.dropCaches := by
  induction ranges generalizing f scene found with
  | nil => rfl
  | cons r rest ih =>
    have hr := f.dropCaches_itemsIn scene e r items
    unfold itemsInAny
    split
    · next heq =>
      rw [heq] at hr
      exact hr
    · next more f' store heq =>
      rw [heq] at hr
      exact (ih f' _ _).trans hr

theorem dropCaches_boundingIndex (f : NumericRangeFacet) (scene : Scene) (e : Expression) :
    (f.boundingIndex scene e).2.1.dropCaches = f.dropCaches := by
  unfold boundingIndex
  split
  · split <;> rfl
  · rfl

theorem dropCaches_bucketsFor (f : NumericRangeFacet) (scene : Scene) (e : Expression)
    (items : KeySet) (ranges : List RangeSelection) :
    (f.bucketsFor scene e items ranges).2.1.dropCaches = f.dropCaches := by
  induction ranges generalizing f scene with
  | nil => rfl
  | cons r rest ih =>
    have hr := f.dropCaches_itemsIn scene e r items
    unfold bucketsFor
    split
    · next heq =>
      rw [heq] at hr
      exact hr
    · next found f' store heq =>
      rw [heq] at hr
      have hrest := (ih f' { scene with store }).trans hr
      split <;> next heq' =>
        rw [heq'] at hrest
        exact hrest

/-- The bucket of a range, counted by itself. -/
def bucketOf (f : NumericRangeFacet) (scene : Scene) (e : Expression) (items : KeySet)
    (r : RangeSelection) : Outcome Bucket :=
  (f.itemsIn scene e r items).1.map fun found =>
    ⟨r.low, r.high, r.low.toText ++ " - " ++ r.high.toText, found.size,
      f.chosen.isBucketSelected r.low r.high⟩

/-- Buckets that are counted one after the other are those that are counted each by itself. -/
theorem bucketsFor_fst (he : f.expression = some e) (items : KeySet)
    (ranges : List RangeSelection) :
    (f.bucketsFor scene e items ranges).1 = ranges.mapM (f.bucketOf scene e items) := by
  induction ranges generalizing f scene with
  | nil => rfl
  | cons r rest ih =>
    have hexpression := (leaves_itemsIn scene he r items).expression
    have hdrop := f.dropCaches_itemsIn scene e r items
    rw [List.mapM_cons]
    unfold bucketsFor
    cases heq : f.itemsIn scene e r items with
    | mk outcome left =>
      obtain ⟨f', store⟩ := left
      rw [heq] at hexpression hdrop
      have hchosen : f'.chosen = f.chosen := (congrArg NumericRangeFacet.chosen hdrop :)
      have hbucket : f'.bucketOf { scene with store } e items = f.bucketOf scene e items := by
        funext r'
        unfold bucketOf
        rw [itemsIn_after he r items r' heq, hchosen]
      have hrest : (f'.bucketsFor { scene with store } e items rest).1 =
          rest.mapM (f'.bucketOf { scene with store } e items) := ih (hexpression.trans he)
      rw [hbucket] at hrest
      have hfirst : f.bucketOf scene e items r = outcome.map fun found =>
          ⟨r.low, r.high, r.low.toText ++ " - " ++ r.high.toText, found.size,
            f.chosen.isBucketSelected r.low r.high⟩ := by
        unfold bucketOf
        rw [heq]
      rw [hfirst, ← hrest]
      cases outcome with
      | error failure => rfl
      | ok found =>
        have hlast := f'.dropCaches_bucketsFor { scene with store } e items rest
        dsimp only
        generalize f'.bucketsFor { scene with store } e items rest = answer at hlast
        obtain ⟨outcome, f'', store'⟩ := answer
        have hchosen' : f''.chosen = f.chosen :=
          (congrArg NumericRangeFacet.chosen hlast :).trans hchosen
        cases outcome with
        | error failure => rfl
        | ok more =>
          dsimp only
          rw [hchosen']
          rfl

/-- The buckets between the bounds of an index. -/
def bucketsOver (f : NumericRangeFacet) (scene : Scene) (e : Expression) (items : KeySet)
    (index : Option RangeIndex) : Outcome (List Bucket) :=
  match boundsOf index with
  | none => .ok []
  | some (low, high) =>
    let (start, span) := layout f.interval low high
    if Decimal.isFinite span && span ≤ maxBuckets then
      (bucketEnds f.interval start span.toUInt64.toNat).mapM (f.bucketOf scene e items)
    else .error (.evaluation (.tooManyBuckets f.id span f.interval low high))

/-- The buckets that a count yields. -/
def counted (f : NumericRangeFacet) (scene : Scene) (items : KeySet) : Outcome (List Bucket) :=
  match f.expression with
  | none => .ok []
  | some e => (f.boundingIndex scene e).1 >>= f.bucketsOver scene e items

/-- The facet with what a count has yielded, or without buckets if the count failed. -/
def entered (f : NumericRangeFacet) (counted : Outcome (List Bucket)) : NumericRangeFacet :=
  { f with buckets := counted.toOption.getD [] }

theorem update_counted (f : NumericRangeFacet) (scene : Scene) (items : KeySet) :
    (f.update scene items).1 = (f.counted scene items).map (fun _ => ()) ∧
      (f.update scene items).2.1.dropCaches = f.dropCaches.entered (f.counted scene items) := by
  cases he : f.expression with
  | none =>
    obtain ⟨id, label, expression, interval, chosen, index, buckets⟩ := f
    cases he
    exact ⟨rfl, rfl⟩
  | some e =>
    have hleaves := leaves_boundingIndex (f := { f with buckets := [] }) scene he
    have hdrop := dropCaches_boundingIndex { f with buckets := [] } scene e
    have hfst : (boundingIndex { f with buckets := [] } scene e).1 = (f.boundingIndex scene e).1 := by
      rw [boundingIndex_fst, boundingIndex_fst]
    have hcounted : f.counted scene items =
        (f.boundingIndex scene e).1 >>= f.bucketsOver scene e items := by
      unfold counted
      rw [he]
    rw [hcounted, ← hfst]
    unfold update
    dsimp only
    split
    · next hnone => exact absurd (hnone.symm.trans he) (by simp)
    · next e' he' =>
      cases Option.some.inj (he'.symm.trans he)
      generalize boundingIndex { f with buckets := [] } scene e = answer at hleaves hdrop
      obtain ⟨outcome, f', store⟩ := answer
      have hdrop : f'.dropCaches = ({ f with buckets := [] } : NumericRangeFacet).dropCaches := hdrop
      cases outcome with
      | error failure => exact ⟨rfl, hdrop⟩
      | ok index =>
        show _ = (f.bucketsOver scene e items index).map _ ∧
          _ = f.dropCaches.entered (f.bucketsOver scene e items index)
        unfold bucketsOver
        dsimp only
        cases boundsOf index with
        | none => exact ⟨rfl, hdrop⟩
        | some bounds =>
          obtain ⟨low, high⟩ := bounds
          have hinterval : f'.interval = f.interval := (congrArg NumericRangeFacet.interval hdrop :)
          have hid : f'.id = f.id := (congrArg NumericRangeFacet.id hdrop :)
          have hchosen : f'.chosen = f.chosen := (congrArg NumericRangeFacet.chosen hdrop :)
          have hexpression : f'.expression = some e := hleaves.expression.trans he
          have hbucket : f'.bucketOf { scene with store } e items = f.bucketOf scene e items := by
            funext r
            unfold bucketOf
            rw [hchosen, itemsIn_congr (hleaves.scene_alike.symm.alikeFor _) ?_ hexpression]
            rw [← settled_alike (hleaves.scene_alike.alikeFor _)]
            exact hleaves.settled
          dsimp only
          rw [hinterval, hid]
          split
          · have hbuckets (ends : List RangeSelection) :
                (f'.bucketsFor { scene with store } e items ends).1 =
                  ends.mapM (f'.bucketOf { scene with store } e items) :=
              bucketsFor_fst hexpression items ends
            have hdrops (ends : List RangeSelection) :=
              (f'.dropCaches_bucketsFor { scene with store } e items ends).trans hdrop
            simp only [hbucket] at hbuckets
            rw [← hbuckets]
            have hlast := hdrops (bucketEnds f.interval (layout f.interval low high).1
              (layout f.interval low high).2.toUInt64.toNat)
            generalize f'.bucketsFor { scene with store } e items _ = answer' at hlast
            obtain ⟨outcome, f'', store'⟩ := answer'
            cases outcome with
            | error failure => exact ⟨rfl, hlast⟩
            | ok buckets =>
              exact ⟨rfl, congrArg (fun f : NumericRangeFacet => { f with buckets }) hlast⟩
          · exact ⟨rfl, hdrop⟩

/-- What is counted depends on what the facet stands for. -/
theorem counted_congr (ht : scene.Twin scene') (h : f.settled scene = g.settled scene')
    (items : KeySet) : f.counted scene items = g.counted scene' items := by
  have hexpression : f.expression = g.expression := (congrArg NumericRangeFacet.expression h :)
  unfold counted
  rw [← hexpression]
  cases he : f.expression with
  | none => rfl
  | some e =>
    have he' : g.expression = some e := hexpression ▸ he
    have hinterval : f.interval = g.interval := (congrArg NumericRangeFacet.interval h :)
    have hid : f.id = g.id := (congrArg NumericRangeFacet.id h :)
    have hchosen : f.chosen = g.chosen := (congrArg NumericRangeFacet.chosen h :)
    have hindex := congrArg NumericRangeFacet.index h
    simp only [settled, he, he', Option.bind_some, ← ht.alike.index e] at hindex
    have hbound : (f.boundingIndex scene e).1 = (g.boundingIndex scene' e).1 := by
      rw [boundingIndex_fst, boundingIndex_fst, ← ht.alike.index e, answering_of_keeping_eq hindex]
      simp only [ht.indexes _]
    have hbucket : f.bucketOf scene e items = g.bucketOf scene' e items := by
      funext r
      unfold bucketOf
      rw [itemsIn_congr (ht.alike.alikeFor _) h he, hchosen]
    dsimp only
    rw [hbound]
    refine congrArg (fun next => (g.boundingIndex scene' e).1 >>= next) (funext fun index => ?_)
    unfold bucketsOver
    rw [hinterval, hid, hbucket]

end NumericRangeFacet

/-! ## 4. Ranges of letters and hierarchies -/

namespace AlphaRangeFacet

variable {scene scene' : Scene} {f g : AlphaRangeFacet}

/-- The buckets that a count yields. -/
def counted (f : AlphaRangeFacet) (scene : Scene) (items : KeySet) : Outcome (List Bucket) :=
  match f.expression with
  | none => .ok []
  | some e =>
    (answering f.index (LocalIndex.build scene e place)).map fun index => f.bucketsOf index items

/-- The facet with what a count has yielded, or without buckets if the count failed. -/
def entered (f : AlphaRangeFacet) (counted : Outcome (List Bucket)) : AlphaRangeFacet :=
  { f with buckets := counted.toOption.getD [] }

theorem update_counted (f : AlphaRangeFacet) (scene : Scene) (items : KeySet) :
    (f.update scene items).1 = (f.counted scene items).map (fun _ => ()) ∧
      (f.update scene items).2.dropCaches = f.dropCaches.entered (f.counted scene items) := by
  obtain ⟨id, label, expression, interval, chosen, index, buckets⟩ := f
  unfold update counted
  cases expression with
  | none => exact ⟨rfl, rfl⟩
  | some e =>
    dsimp only
    rw [LocalIndex.get_eq]
    cases answering index (LocalIndex.build scene e place) <;> exact ⟨rfl, rfl⟩

theorem counted_congr (hs : scene.Alike scene') (h : f.settled scene = g.settled scene')
    (items : KeySet) : f.counted scene items = g.counted scene' items := by
  have hexpression : f.expression = g.expression := (congrArg AlphaRangeFacet.expression h :)
  unfold counted
  rw [← hexpression]
  cases he : f.expression with
  | none => rfl
  | some e =>
    have hinterval : f.interval = g.interval := (congrArg AlphaRangeFacet.interval h :)
    have hchosen : f.chosen = g.chosen := (congrArg AlphaRangeFacet.chosen h :)
    have hindex := congrArg AlphaRangeFacet.index h
    simp only [settled, he, hexpression ▸ he, Option.bind_some, ← hs.index e] at hindex
    have hbuckets : f.bucketsOf = g.bucketsOf := by
      funext index items
      unfold bucketsOf bucketOf
      rw [hinterval, hchosen]
    dsimp only
    rw [← hs.index e, answering_of_keeping_eq hindex, hbuckets]

end AlphaRangeFacet

namespace HierarchicalFacet

variable {scene scene' : Scene} {f g : HierarchicalFacet}

/-- The nodes that a count yields. -/
def counted (f : HierarchicalFacet) (scene : Scene) (items : KeySet) :
    Outcome (List HierarchyEntry) :=
  match f.expression with
  | none => .ok []
  | some e =>
    (answering f.tree (Hierarchy.build scene e f.grouping)).map fun tree =>
      f.shownTree tree scene.store items

/-- The facet with what a count has yielded, or as it was if the count failed. -/
def entered (f : HierarchicalFacet) : Outcome (List HierarchyEntry) → HierarchicalFacet
  | .ok entries => { f with entries }
  | .error _ => f

/-- The same tree is shown alike. -/
theorem shownTree_congr (hs : scene.store.Alike scene'.store)
    (h : f.settled scene = g.settled scene') (tree : Hierarchy) (items : KeySet) :
    f.shownTree tree scene.store items = g.shownTree tree scene'.store items := by
  have horder : f.order = g.order := (congrArg HierarchicalFacet.order h :)
  have hshow : f.showMissing = g.showMissing := (congrArg HierarchicalFacet.showMissing h :)
  have hmissing : f.missingLabel = g.missingLabel := (congrArg HierarchicalFacet.missingLabel h :)
  have hothers : f.othersLabel = g.othersLabel := (congrArg HierarchicalFacet.othersLabel h :)
  have hselections : f.selections = g.selections := (congrArg HierarchicalFacet.selections h :)
  have hnode (depth : Nat) : f.node tree scene.store items depth =
      g.node tree scene'.store items depth := by
    induction depth with
    | zero => rfl
    | succ depth ih =>
      funext value shown
      unfold node
      simp only [ih, isSelected, othersEntry, hs.valueLabel, horder, hothers, hselections]
      rfl
  unfold shownTree
  simp only [hnode, horder, hshow, hselections, missingEntry, hmissing]

theorem update_counted (f : HierarchicalFacet) (scene : Scene) (items : KeySet) :
    (f.update scene items).1 = (f.counted scene items).map (fun _ => ()) ∧
      (f.update scene items).2.dropCaches = f.dropCaches.entered (f.counted scene items) := by
  obtain ⟨id, label, expression, grouping, order, showMissing, missingLabel, othersLabel, selections,
    tree, shown⟩ := f
  cases expression with
  | none => exact ⟨rfl, rfl⟩
  | some e =>
    unfold update counted
    rw [getTree_eq rfl]
    dsimp only
    cases answering tree (Hierarchy.build scene e grouping) with
    | error failure => exact ⟨rfl, rfl⟩
    | ok found =>
      refine ⟨rfl, congrArg (fun entries : List HierarchyEntry => HierarchicalFacet.mk id label (some e)
        grouping order showMissing missingLabel othersLabel selections none entries) ?_⟩
      -- the tree has been kept by now, which is not shown
      have hstore : scene.store.Alike scene.store := Store.Alike.refl _
      refine shownTree_congr hstore ?_ found items
      simp only [settled, bare, Option.bind_some, keeping_keeping]

theorem counted_congr (hs : scene.Alike scene') (h : f.settled scene = g.settled scene')
    (items : KeySet) : f.counted scene items = g.counted scene' items := by
  have hexpression : f.expression = g.expression := (congrArg HierarchicalFacet.expression h :)
  have hgrouping : f.grouping = g.grouping := (congrArg HierarchicalFacet.grouping h :)
  unfold counted
  rw [← hexpression]
  cases he : f.expression with
  | none => rfl
  | some e =>
    have htree := congrArg HierarchicalFacet.tree h
    simp only [settled, he, hexpression ▸ he, Option.bind_some, ← hs.tree e, ← hgrouping] at htree
    dsimp only
    rw [← hs.tree e, ← hgrouping, answering_of_keeping_eq htree]
    simp only [shownTree_congr hs.store h]

end HierarchicalFacet

/-! ## 5. Facets -/

/-- What is shown: entries, weighted entries, buckets, nodes, or the items that a derived facet has been
    offered. A text search shows nothing. -/
inductive Shown where
  | entries (entries : List Entry)
  | cloud (cloud : List CloudEntry)
  | buckets (buckets : List Bucket)
  | nodes (nodes : List HierarchyEntry)
  | candidates (items : KeySet)
  | nothing

namespace Facet

variable {scene scene' : Scene} {f g : Facet}

def shown : Facet → Shown
  | .list f => .entries f.entries
  | .cloud f => .cloud f.cloud
  | .numericRange f => .buckets f.buckets
  | .alphaRange f => .buckets f.buckets
  | .hierarchical f => .nodes f.entries
  | .textSearch _ => .nothing
  | .derived f => .candidates f.candidates

/-- What an update for the items shows, if it succeeds. -/
def wouldShow (f : Facet) (scene : Scene) (items : KeySet) : Outcome Shown :=
  (f.update scene items).1.map fun _ => (f.update scene items).2.1.shown

/-- What a kind yields when it counts, as it is shown. -/
theorem wouldShow_eq (f : Facet) (scene : Scene) (items : KeySet) : f.wouldShow scene items =
    match f with
    | .list f => (f.counted scene items).map fun c => .entries c.2
    | .cloud f => (f.list.counted scene items).map fun c =>
        .cloud (CloudFacet.cloudOf f.minimumCount c.2)
    | .numericRange f => (f.counted scene items).map .buckets
    | .alphaRange f => (f.counted scene items).map .buckets
    | .hierarchical f => (f.counted scene items).map .nodes
    | .textSearch _ => .ok .nothing
    | .derived _ => .ok (.candidates items) := by
  have henter {α : Type} {outcome : Outcome Unit} {counted : Outcome α} {entered : Shown}
      {show_ : α → Shown} (hok : outcome = counted.map fun _ => ())
      (hentered : ∀ x, counted = .ok x → entered = show_ x) :
      (outcome.map fun _ => entered) = counted.map show_ := by
    subst hok
    cases counted with
    | error failure => rfl
    | ok x => exact congrArg Except.ok (hentered x rfl)
  cases f with
  | list f =>
    obtain ⟨hok, hfacet⟩ := f.update_counted scene items
    refine henter hok fun c hc => ?_
    rw [hc] at hfacet
    exact congrArg (fun f : ListFacet => Shown.entries f.entries) hfacet
  | cloud f =>
    obtain ⟨hok, hfacet⟩ := f.update_counted scene items
    refine henter hok fun c hc => ?_
    rw [hc] at hfacet
    exact congrArg (fun f : CloudFacet => Shown.cloud f.cloud) hfacet
  | numericRange f =>
    obtain ⟨hok, hfacet⟩ := f.update_counted scene items
    refine henter hok fun c hc => ?_
    rw [hc] at hfacet
    exact congrArg (fun f : NumericRangeFacet => Shown.buckets f.buckets) hfacet
  | alphaRange f =>
    obtain ⟨hok, hfacet⟩ := f.update_counted scene items
    refine henter hok fun c hc => ?_
    rw [hc] at hfacet
    exact congrArg (fun f : AlphaRangeFacet => Shown.buckets f.buckets) hfacet
  | hierarchical f =>
    obtain ⟨hok, hfacet⟩ := f.update_counted scene items
    refine henter hok fun c hc => ?_
    rw [hc] at hfacet
    exact congrArg (fun f : HierarchicalFacet => Shown.nodes f.entries) hfacet
  | textSearch f => rfl
  | derived f => rfl

/-- **Facets that stand for the same would show the same**, whatever they keep and show at present. -/
theorem wouldShow_congr (ht : scene.Twin scene') (h : f.settled scene = g.settled scene')
    (items : KeySet) : f.wouldShow scene items = g.wouldShow scene' items := by
  have hentries (counted : Outcome (ValueType × List Entry)) (show_ : List Entry → Shown) :
      (counted.map fun c => show_ c.2) = (counted.map Prod.snd).map show_ := by
    cases counted <;> rfl
  rw [wouldShow_eq, wouldShow_eq]
  cases f <;> cases g <;> simp only [settled, reduceCtorEq, list.injEq, cloud.injEq,
    numericRange.injEq, alphaRange.injEq, hierarchical.injEq, textSearch.injEq,
    derived.injEq] at h
  case list.list f g =>
    dsimp only
    rw [hentries _ .entries, hentries _ .entries, ListFacet.entries_counted_congr ht.alike h]
  case cloud.cloud f g =>
    have hlist : f.list.settled scene = g.list.settled scene' := (congrArg CloudFacet.list h :)
    have hminimum : f.minimumCount = g.minimumCount := (congrArg CloudFacet.minimumCount h :)
    dsimp only
    rw [hminimum, hentries _ fun entries => .cloud (CloudFacet.cloudOf g.minimumCount entries),
      hentries _ fun entries => .cloud (CloudFacet.cloudOf g.minimumCount entries),
      ListFacet.entries_counted_congr ht.alike hlist]
  case numericRange.numericRange f g =>
    simp only [NumericRangeFacet.counted_congr ht h items]
  case alphaRange.alphaRange f g => simp only [AlphaRangeFacet.counted_congr ht.alike h items]
  case hierarchical.hierarchical f g =>
    simp only [HierarchicalFacet.counted_congr ht.alike h items]
  all_goals rfl

/-- What the facet shows is what an update for the items would show. -/
def UpToDate (f : Facet) (scene : Scene) (items : KeySet) : Prop :=
  f.wouldShow scene items = .ok f.shown

theorem UpToDate.congr {items : KeySet} (hf : f.UpToDate scene items) (ht : scene.Twin scene')
    (h : f.settled scene = g.settled scene') (hshown : f.shown = g.shown) :
    g.UpToDate scene' items := by
  unfold UpToDate at hf ⊢
  rw [← wouldShow_congr ht h, hf, hshown]

/-- **An update brings a facet up to date.** -/
theorem upToDate_update {items : KeySet} (h : (f.update scene items).1 = .ok ()) :
    (f.update scene items).2.1.UpToDate { scene with store := (f.update scene items).2.2 } items := by
  have ht := f.twin_update scene items
  have hsettled : f.settled scene =
      (f.update scene items).2.1.settled { scene with store := (f.update scene items).2.2 } := by
    rw [← settled_alike ht.alike, f.settled_update scene items]
  unfold UpToDate
  rw [← wouldShow_congr ht hsettled items, wouldShow, h]
  rfl

/-- Of a facet that is up to date every count is the number of items that hold the entry. -/
theorem UpToDate.shows {items : KeySet} (h : f.UpToDate scene items) : f.Shows scene items := by
  have hok : (f.update scene items).1 = .ok () := by
    unfold UpToDate wouldShow at h
    cases hok : (f.update scene items).1 with
    | error failure =>
      rw [hok] at h
      cases h
    | ok done => rfl
  have hshown : (f.update scene items).2.1.shown = f.shown := by
    unfold UpToDate wouldShow at h
    rw [hok] at h
    exact Except.ok.inj h
  have hoffers : (f.update scene items).2.1.offers = f.offers := by
    cases f with
    | list f => exact congrArg (List.map _) (Shown.entries.inj hshown)
    | cloud f => exact congrArg (List.map _) (Shown.cloud.inj hshown)
    | numericRange f => exact congrArg (List.filterMap bucketOffer) (Shown.buckets.inj hshown)
    | _ => rfl
  exact ⟨hok, fun change count hoffer => counts_update hok change count (hoffers ▸ hoffer)⟩

/-- **An update of copies** that differ in what they keep, and stand for the same, leaves such copies
    and comes to the same end. -/
theorem update_of_copy (hcopy : f.dropCaches = g.dropCaches) (h : f.settled scene = g.settled scene)
    (items : KeySet) : (f.update scene items).1 = (g.update scene items).1 ∧
      (f.update scene items).2.1.dropCaches = (g.update scene items).2.1.dropCaches := by
  have hs := Scene.Alike.refl scene
  cases f <;> cases g <;> simp only [dropCaches, settled, reduceCtorEq, list.injEq, cloud.injEq,
    numericRange.injEq, alphaRange.injEq, hierarchical.injEq, textSearch.injEq,
    derived.injEq] at hcopy h
  case list.list f g =>
    obtain ⟨hok, hfacet⟩ := f.update_counted scene items
    obtain ⟨hok', hfacet'⟩ := g.update_counted scene items
    have hcounted := ListFacet.counted_congr hs h (fun _ => (congrArg ListFacet.type hcopy :)) items
    rw [hcounted] at hok hfacet
    exact ⟨hok.trans hok'.symm, congrArg Facet.list (hfacet.trans (hcopy ▸ hfacet'.symm))⟩
  case cloud.cloud f g =>
    obtain ⟨hok, hfacet⟩ := f.update_counted scene items
    obtain ⟨hok', hfacet'⟩ := g.update_counted scene items
    have hlist : f.list.dropCaches = g.list.dropCaches := (congrArg CloudFacet.list hcopy :)
    have hcounted := ListFacet.counted_congr hs (congrArg CloudFacet.list h :)
      (fun _ => (congrArg ListFacet.type hlist :)) items
    rw [hcounted] at hok hfacet
    exact ⟨hok.trans hok'.symm, congrArg Facet.cloud (hfacet.trans (hcopy ▸ hfacet'.symm))⟩
  case numericRange.numericRange f g =>
    obtain ⟨hok, hfacet⟩ := f.update_counted scene items
    obtain ⟨hok', hfacet'⟩ := g.update_counted scene items
    rw [NumericRangeFacet.counted_congr ⟨hs, Store.SameIndexes.refl _⟩ h items] at hok hfacet
    exact ⟨hok.trans hok'.symm, congrArg Facet.numericRange (hfacet.trans (hcopy ▸ hfacet'.symm))⟩
  case alphaRange.alphaRange f g =>
    obtain ⟨hok, hfacet⟩ := f.update_counted scene items
    obtain ⟨hok', hfacet'⟩ := g.update_counted scene items
    rw [AlphaRangeFacet.counted_congr hs h items] at hok hfacet
    exact ⟨hok.trans hok'.symm, congrArg Facet.alphaRange (hfacet.trans (hcopy ▸ hfacet'.symm))⟩
  case hierarchical.hierarchical f g =>
    obtain ⟨hok, hfacet⟩ := f.update_counted scene items
    obtain ⟨hok', hfacet'⟩ := g.update_counted scene items
    rw [HierarchicalFacet.counted_congr hs h items] at hok hfacet
    exact ⟨hok.trans hok'.symm, congrArg Facet.hierarchical (hfacet.trans (hcopy ▸ hfacet'.symm))⟩
  case textSearch.textSearch f g => exact ⟨rfl, congrArg Facet.textSearch hcopy⟩
  case derived.derived f g =>
    exact ⟨rfl, congrArg (fun f : DerivedFacet => Facet.derived (f.update items)) hcopy⟩

/-! ## 6. Changes -/

theorem shown_onList {act : ListFacet → Bool × ListFacet}
    (hact : ∀ l, (act l).2.entries = l.entries) : (f.onList act).2.shown = f.shown := by
  cases f with
  | list l => exact congrArg Shown.entries (hact l)
  | _ => rfl

/-- A click may look at the tree, which shows nothing else. -/
theorem entries_toggle (f : HierarchicalFacet) (scene : Scene) (n : NodeSelection) (only : Bool) :
    (f.toggle scene n only).2.entries = f.entries := by
  have htree : (f.getTree scene).2.entries = f.entries := by
    unfold HierarchicalFacet.getTree
    split
    · rfl
    · rfl
    · split <;> rfl
  unfold HierarchicalFacet.toggle
  dsimp only
  split
  · rfl
  · split
    · rfl
    · split <;> next heq => rw [heq] at htree; exact htree

/-- A change that reports none leaves what is shown as it is. -/
theorem shown_perform (f : Facet) (scene : Scene) (change : Change)
    (h : (f.perform scene change).1 ≠ .ok true) : (f.perform scene change).2.shown = f.shown := by
  cases change with
  | importState state =>
    exact congrArg shown (orStay_of_unchanged (fun _ _ heq => f.importState_cases state heq) h)
  | apply state =>
    refine congrArg shown (orStay_of_unchanged (fun changed g heq => ?_) h)
    cases ha : f.apply state with
    | error failure =>
      rw [ha] at heq
      cases heq
    | ok g' =>
      rw [ha] at heq
      cases heq
      exact .inl rfl
  | clear => exact absurd rfl h
  | toggleValue value only =>
    refine shown_onList fun l => ?_
    obtain ⟨values, missing, heq⟩ := l.toggle_eq_select value only
    rw [heq]
    rfl
  | select values missing => exact shown_onList fun _ => rfl
  | toggleNode node only =>
    cases f with
    | hierarchical f => exact congrArg Shown.nodes (entries_toggle f scene node only)
    | _ => rfl
  | _ => cases f <;> rfl

end Facet

end Faceted
