import Faceted.Proofs.Facet.Counting

/-!
# What ranges of numbers count

A number facet counts the items in the range of every bucket, one range after the other. Each answer
may leave an index behind, in the facet or in the store, which changes no answer after it. As with
lists, the items are walked for the count and collected for a choice.

* `Store.SameIndexes` and `Scene.Twin`: what bounds the buckets, beside what `Scene.Alike` covers;
* `NumericRangeFacet.bucketsFor_done` and `held_of_bucketsFor`: the buckets told range by range;
* **`NumericRangeFacet.held_of_update`**: every count that is shown is the number of items walked;
* **`NumericRangeFacet.restrict_withOnly`**: with nothing else selected these items are let through;
* `NumericRangeFacet.update_congr`: whether the facet can be shown does not depend on the items.
-/

namespace Faceted

open Faceted.Expression

/-! ## 1. Indexes -/

/-- The stores have the same indexes over their properties. -/
def Store.SameIndexes (s t : Store) : Prop :=
  ∀ property, (s.rangeIndex? property).1 = (t.rangeIndex? property).1

namespace Store

variable {s t u : Store}

theorem SameIndexes.refl (s : Store) : s.SameIndexes s := fun _ => rfl

theorem SameIndexes.trans (h : s.SameIndexes t) (h' : t.SameIndexes u) : s.SameIndexes u :=
  fun q => (h q).trans (h' q)

/-- Asking for an index changes no index. -/
theorem sameIndexes_rangeIndex? (s : Store) (property : String) :
    s.SameIndexes (s.rangeIndex? property).2 := by
  rcases s.rangeIndex?_snd property with h | ⟨p, hp, -, hindex, h⟩
  · rw [h]
    exact SameIndexes.refl s
  · rw [h]
    exact fun q => (rangeIndex?_withIndex hp hindex q).symm

theorem sameIndexes_rangeBackward (s : Store) (hops : List Hop) (low high : RangeValue)
    (inclusive : Bool) (filter : Option KeySet) :
    s.SameIndexes (rangeBackward s hops low high inclusive filter).2 := by
  unfold rangeBackward
  split
  · exact SameIndexes.refl s
  · next last _ =>
    split
    · show s.SameIndexes (s.subjectsInRange last.property low high inclusive ∅ _).2
      rw [subjectsInRange_snd]
      exact s.sameIndexes_rangeIndex? last.property
    · exact SameIndexes.refl s

end Store

/-- Scenes that look alike, down to the indexes over properties. -/
structure Scene.Twin (scene scene' : Scene) : Prop where
  alike : scene.Alike scene'
  indexes : scene.store.SameIndexes scene'.store

/-- No item of a range is met twice, unless the hops repeat items. -/
theorem Expression.nodup_rangeBackward {s : Store} {hops : List Hop}
    (h : repeatsItems hops = false) {low high : RangeValue}
    {inclusive : Bool} {filter : Option KeySet} {found : Values}
    (hfound : (rangeBackward s hops low high inclusive filter).1 = .ok found) :
    found.toList.Nodup := by
  unfold rangeBackward at hfound
  split at hfound
  · cases hfound
  · split at hfound
    · cases hfound
      match hops with
      | [] => exact KeySet.nodup_toList _
      | [hop] => exact KeySet.nodup_toList _
      | hop :: _ :: _ => exact nodup_follow_of_set h
    · cases hfound

namespace NumericRangeFacet

/-! ## 2. What answers leave behind -/

variable {scene scene' : Scene} {f g : NumericRangeFacet} {e : Expression}

theorem sameIndexes_itemsIn (f : NumericRangeFacet) (scene : Scene) (e : Expression)
    (r : RangeSelection) (items : KeySet) :
    scene.store.SameIndexes (f.itemsIn scene e r items).2.2 := by
  unfold itemsIn
  split
  · exact Store.sameIndexes_rangeBackward _ _ _ _ _ _
  · exact Store.SameIndexes.refl _

theorem sameIndexes_itemsInAny (f : NumericRangeFacet) (scene : Scene) (e : Expression)
    (items found : KeySet) (ranges : List RangeSelection) :
    scene.store.SameIndexes (f.itemsInAny scene e items found ranges).2.2 := by
  induction ranges generalizing f scene found with
  | nil => exact Store.SameIndexes.refl _
  | cons r rest ih =>
    have hr := f.sameIndexes_itemsIn scene e r items
    unfold itemsInAny
    split
    · next heq =>
      rw [heq] at hr
      exact hr
    · next more f' store heq =>
      rw [heq] at hr
      exact hr.trans (ih f' { scene with store } (found.union more.toSet))

theorem sameIndexes_restrict (f : NumericRangeFacet) (scene : Scene) (items : KeySet) :
    scene.store.SameIndexes (f.restrict scene items).2.2 := by
  unfold restrict
  split
  · exact Store.SameIndexes.refl _
  · split
    · exact f.sameIndexes_itemsInAny scene _ items ∅ f.chosen
    · exact Store.SameIndexes.refl _

theorem sameIndexes_bucketsFor (f : NumericRangeFacet) (scene : Scene) (e : Expression)
    (items : KeySet) (ranges : List RangeSelection) :
    scene.store.SameIndexes (f.bucketsFor scene e items ranges).2.2 := by
  induction ranges generalizing f scene with
  | nil => exact Store.SameIndexes.refl _
  | cons r rest ih =>
    have hr := f.sameIndexes_itemsIn scene e r items
    unfold bucketsFor
    split
    · next heq =>
      rw [heq] at hr
      exact hr
    · next found f' store heq =>
      rw [heq] at hr
      have hrest := hr.trans (ih f' { scene with store })
      split <;> next heq' =>
        rw [heq'] at hrest
        exact hrest

theorem sameIndexes_boundingIndex (f : NumericRangeFacet) (scene : Scene) (e : Expression) :
    scene.store.SameIndexes (f.boundingIndex scene e).2.2 := by
  unfold boundingIndex
  split
  · split
    · exact Store.SameIndexes.refl _
    · exact Store.sameIndexes_rangeIndex? _ _
  · exact Store.SameIndexes.refl _

theorem sameIndexes_update (f : NumericRangeFacet) (scene : Scene) (items : KeySet) :
    scene.store.SameIndexes (f.update scene items).2.2 := by
  unfold update
  dsimp only
  split
  · exact Store.SameIndexes.refl _
  · next e _ =>
    have hbound := sameIndexes_boundingIndex { f with buckets := [] } scene e
    split
    · next heq =>
      rw [heq] at hbound
      exact hbound
    · next index f' store heq =>
      rw [heq] at hbound
      split
      · exact hbound
      · split
        · have hbuckets (ends : List RangeSelection) :=
            hbound.trans (f'.sameIndexes_bucketsFor { scene with store } e items ends)
          split <;> next heq' =>
            exact (congrArg (fun r => Store.SameIndexes _ r.2.2) heq').mp (hbuckets _)
        · exact hbound

/-! ## 3. One range after the other -/

/-- Whether the items of a range can be found does not depend on the items that are asked for. -/
theorem itemsIn_done (f : NumericRangeFacet) (scene : Scene) (e : Expression) (r : RangeSelection)
    (items items' : KeySet) : ((f.itemsIn scene e r items).1.map fun _ => ()) =
      (f.itemsIn scene e r items').1.map fun _ => () := by
  have hunit (answer : Outcome Values) : (answer.map fun _ => ()) =
      (answer.map Values.toSet).map fun _ => () := by
    cases answer <;> rfl
  rw [hunit, hunit]
  rcases f.itemwise_itemsIn scene e r with ⟨failure, hfail⟩ | ⟨passes, hpasses⟩
  · rw [show (f.itemsIn scene e r items).1.map Values.toSet = _ from hfail items,
      show (f.itemsIn scene e r items').1.map Values.toSet = _ from hfail items']
  · obtain ⟨kept, hkept, -⟩ := hpasses items
    obtain ⟨kept', hkept', -⟩ := hpasses items'
    rw [show (f.itemsIn scene e r items).1.map Values.toSet = _ from hkept,
      show (f.itemsIn scene e r items').1.map Values.toSet = _ from hkept']
    rfl

/-- Answers for later ranges do not depend on what the first has left in the facet. -/
theorem itemsIn_after (he : f.expression = some e) (r : RangeSelection) (items : KeySet)
    (r' : RangeSelection) {answer : Outcome Values} {f' : NumericRangeFacet} {store : Store}
    (h : f.itemsIn scene e r items = (answer, f', store)) :
    (f'.itemsIn { scene with store } e r' items).1 = (f.itemsIn scene e r' items).1 := by
  have hleaves := leaves_itemsIn scene he r items
  rw [h] at hleaves
  refine itemsIn_congr (hleaves.scene_alike.symm.alikeFor _) ?_ (hleaves.expression.trans he) r' items
  rw [← settled_alike (hleaves.scene_alike.alikeFor _)]
  exact hleaves.settled

/-- Buckets can be counted if the items of each range can be found. -/
theorem bucketsFor_done (he : f.expression = some e) (items : KeySet)
    (ranges : List RangeSelection) : ((f.bucketsFor scene e items ranges).1.map fun _ => ()) =
      ranges.forM fun r => (f.itemsIn scene e r items).1.map fun _ => () := by
  induction ranges generalizing f scene with
  | nil => rfl
  | cons r rest ih =>
    have hexpression := (leaves_itemsIn scene he r items).expression
    unfold bucketsFor
    cases heq : f.itemsIn scene e r items with
    | mk outcome left =>
      obtain ⟨f', store⟩ := left
      rw [heq] at hexpression
      have hrest : ((f'.bucketsFor { scene with store } e items rest).1.map fun _ => ()) =
          rest.forM fun r => (f'.itemsIn { scene with store } e r items).1.map fun _ => () :=
        ih (hexpression.trans he)
      simp only [itemsIn_after he r items _ heq] at hrest
      show _ = ((f.itemsIn scene e r items).1.map fun _ => ()) >>= fun _ =>
        rest.forM fun r => (f.itemsIn scene e r items).1.map fun _ => ()
      rw [← hrest, heq]
      cases outcome with
      | error failure => rfl
      | ok found =>
        dsimp only
        generalize f'.bucketsFor { scene with store } e items rest = answer
        obtain ⟨outcome, left⟩ := answer
        cases outcome <;> rfl

/-- Every bucket's count is the number of items of its range. -/
theorem held_of_bucketsFor (he : f.expression = some e) (items : KeySet)
    {ranges : List RangeSelection} {buckets : List Bucket}
    (h : (f.bucketsFor scene e items ranges).1 = .ok buckets) :
    ∀ b ∈ buckets, ∃ r ∈ ranges, b.low = r.low ∧ b.high = r.high ∧
      ∃ held, (f.itemsIn scene e r items).1 = .ok held ∧ held.size = b.count := by
  induction ranges generalizing f scene buckets with
  | nil =>
    cases h
    exact fun b hb => by cases hb
  | cons r rest ih =>
    have hexpression := (leaves_itemsIn scene he r items).expression
    unfold bucketsFor at h
    cases heq : f.itemsIn scene e r items with
    | mk outcome left =>
      obtain ⟨f', store⟩ := left
      rw [heq] at hexpression h
      have hrest (more : List Bucket)
          (h : (f'.bucketsFor { scene with store } e items rest).1 = .ok more) :=
        ih (hexpression.trans he) h
      simp only [itemsIn_after he r items _ heq] at hrest
      cases outcome with
      | error failure => cases h
      | ok found =>
        dsimp only at h
        generalize f'.bucketsFor { scene with store } e items rest = answer at h hrest
        obtain ⟨outcome, left⟩ := answer
        cases outcome with
        | error failure => cases h
        | ok more =>
          cases h
          intro b hb
          rcases List.mem_cons.mp hb with rfl | hb
          · exact ⟨r, List.mem_cons_self, rfl, rfl, found, congrArg Prod.fst heq, rfl⟩
          · obtain ⟨r', hr', hb⟩ := hrest more rfl b hb
            exact ⟨r', List.mem_cons_of_mem r hr', hb⟩

/-! ## 4. Showing -/

theorem boundingIndex_fst (f : NumericRangeFacet) (scene : Scene) (e : Expression) :
    (f.boundingIndex scene e).1 =
      match e.path?.map fun p => p.hops.getLast? with
      | some none => .ok none
      | some (some last) => .ok (scene.store.rangeIndex? last.property).1
      | none => (answering f.index (LocalIndex.build scene e place)).map some := by
  unfold boundingIndex
  cases e.path? with
  | some p => cases h : p.hops.getLast? <;> simp [h]
  | none => simp [LocalIndex.get_eq]

/-- Whether the buckets between the bounds of an index can be counted. -/
def countOver (f : NumericRangeFacet) (scene : Scene) (e : Expression) (items : KeySet)
    (index : Option RangeIndex) : Outcome Unit :=
  match boundsOf index with
  | none => .ok ()
  | some (low, high) =>
    let (start, span) := layout f.interval low high
    if Decimal.isFinite span && span ≤ maxBuckets then
      (bucketEnds f.interval start span.toUInt64.toNat).forM fun r =>
        (f.itemsIn scene e r items).1.map fun _ => ()
    else .error (.evaluation (.tooManyBuckets f.id span f.interval low high))

theorem update_fst (he : f.expression = some e) (scene : Scene) (items : KeySet) :
    (f.update scene items).1 = (f.boundingIndex scene e).1 >>= f.countOver scene e items := by
  have hleaves := leaves_boundingIndex (f := { f with buckets := [] }) scene he
  have hfst : (boundingIndex { f with buckets := [] } scene e).1 = (f.boundingIndex scene e).1 := by
    rw [boundingIndex_fst, boundingIndex_fst]
  rw [← hfst]
  unfold update
  dsimp only
  split
  · next hnone => exact absurd (hnone.symm.trans he) (by simp)
  · next e' he' =>
    cases Option.some.inj (he'.symm.trans he)
    generalize boundingIndex { f with buckets := [] } scene e = answer at hleaves
    obtain ⟨outcome, f', store⟩ := answer
    cases outcome with
    | error failure => rfl
    | ok index =>
      show _ = f.countOver scene e items index
      unfold countOver
      dsimp only
      cases boundsOf index with
      | none => rfl
      | some bounds =>
        obtain ⟨low, high⟩ := bounds
        -- looking for the bounds has at most filled what the facet keeps
        have hinterval : f'.interval = f.interval :=
          (congrArg NumericRangeFacet.interval hleaves.settled :)
        have hid : f'.id = f.id := (congrArg NumericRangeFacet.id hleaves.settled :)
        have hitems (r : RangeSelection) :
            (f'.itemsIn { scene with store } e r items).1 = (f.itemsIn scene e r items).1 := by
          refine itemsIn_congr (hleaves.scene_alike.symm.alikeFor _) ?_ (hleaves.expression.trans he) r
            items
          rw [← settled_alike (hleaves.scene_alike.alikeFor _)]
          exact hleaves.settled
        dsimp only
        rw [hinterval, hid]
        split
        · have hdone (ends : List RangeSelection) :
              ((f'.bucketsFor { scene with store } e items ends).1.map fun _ => ()) =
                ends.forM fun r => (f'.itemsIn { scene with store } e r items).1.map fun _ => () :=
            bucketsFor_done (hleaves.expression.trans he) items ends
          simp only [hitems] at hdone
          rw [← hdone]
          split <;> next heq => rw [heq]; rfl
        · rfl

/-- **Every count of a number facet is the number of items of the bucket's range.** -/
theorem held_of_update {items : KeySet} {store : Store}
    (h : f.update scene items = (.ok (), g, store)) : ∀ b ∈ g.buckets, ∃ e low high,
      f.expression = some e ∧ b.low = .number low ∧ b.high = .number high ∧
        ∃ held, (f.itemsIn scene e (rangeOf low high) items).1 = .ok held ∧
          held.size = b.count := by
  intro b hb
  unfold update at h
  dsimp only at h
  split at h
  · cases h
    cases hb
  · next e he =>
    have hleaves := leaves_boundingIndex (f := { f with buckets := [] }) scene he
    have hblank : (boundingIndex { f with buckets := [] } scene e).2.1.buckets = [] := by
      unfold boundingIndex
      split
      · split <;> rfl
      · rfl
    generalize boundingIndex { f with buckets := [] } scene e = answer at h hleaves hblank
    obtain ⟨outcome, f', store'⟩ := answer
    cases outcome with
    | error failure => cases h
    | ok index =>
      dsimp only at h
      cases hbounds : boundsOf index with
      | none =>
        rw [hbounds] at h
        cases h
        rw [show g.buckets = [] from hblank] at hb
        cases hb
      | some bounds =>
        obtain ⟨low, high⟩ := bounds
        rw [hbounds] at h
        dsimp only at h
        split at h
        · split at h
          · cases h
          · next buckets f'' store'' heq =>
            cases h
            have hbuckets : (f'.bucketsFor { scene with store := store' } e items _).1 =
                .ok buckets := congrArg Prod.fst heq
            obtain ⟨r, hr, hlow, hhigh, hheld⟩ :=
              held_of_bucketsFor (hleaves.expression.trans he) items hbuckets b hb
            obtain ⟨k, -, rfl⟩ := List.mem_map.mp hr
            refine ⟨e, _, _, he, hlow, hhigh, ?_⟩
            rw [itemsIn_congr (hleaves.scene_alike.symm.alikeFor _) ?_
              (hleaves.expression.trans he)] at hheld
            · exact hheld
            · rw [← settled_alike (hleaves.scene_alike.alikeFor _)]
              exact hleaves.settled
        · cases h

/-! ## 5. One range selected -/

/-- The facet with nothing but the range selected. -/
def withOnly (f : NumericRangeFacet) (low high : Float) : NumericRangeFacet :=
  { f with chosen := [rangeOf low high] }

/-- Is the range all that is selected? -/
def hasOnly (f : NumericRangeFacet) (low high : Float) : Bool :=
  f.chosen.has (rangeOf low high) && f.chosen.length ≤ 1

theorem toggle_only {low high : Float} (h : f.hasOnly low high = false) :
    f.toggle low high true = (true, f.withOnly low high) := by
  have hchosen : f.chosen.toggle (rangeOf low high) true = [rangeOf low high] := by
    unfold RangeChoice.toggle
    cases hhas : f.chosen.has (rangeOf low high) with
    | false => rfl
    | true =>
      have hmore : 1 < f.chosen.length := by simpa [hasOnly, hhas] using h
      simp [hmore]
  have hdiffer := f.chosen.differ_toggle (rangeOf low high) true
  unfold toggle choose
  rw [hdiffer, hchosen]
  rfl

/-- What the facet has selected plays no part in what is in a range. -/
theorem itemsIn_withOnly (f : NumericRangeFacet) (low high : Float) (scene : Scene) (e : Expression)
    (r : RangeSelection) (items : KeySet) :
    ((f.withOnly low high).itemsIn scene e r items).1 = (f.itemsIn scene e r items).1 := by
  unfold itemsIn
  split <;> rfl

theorem restrict_withOnly (he : f.expression = some e) (scene : Scene) (low high : Float)
    (items : KeySet) : ((f.withOnly low high).restrict scene items).1 =
      (f.itemsIn scene e (rangeOf low high) items).1.map Values.toSet := by
  have he' : (f.withOnly low high).expression = some e := he
  have hr : (f.withOnly low high).hasRestrictions = true := rfl
  unfold restrict
  rw [he']
  simp only [hr, if_true]
  rw [show (f.withOnly low high).chosen = [rangeOf low high] from rfl, itemsInAny_cons he',
    itemsIn_withOnly]
  cases (f.itemsIn scene e (rangeOf low high) items).1 with
  | error failure => rfl
  | ok found => exact congrArg Except.ok (KeySet.ext fun x => by simp)

theorem update_withOnly (he : f.expression = some e) (low high : Float) (scene : Scene)
    (items : KeySet) : ((f.withOnly low high).update scene items).1 = (f.update scene items).1 := by
  rw [update_fst he, update_fst (f := f.withOnly low high) he]
  have hbound : ((f.withOnly low high).boundingIndex scene e).1 = (f.boundingIndex scene e).1 := by
    rw [boundingIndex_fst, boundingIndex_fst]
    rfl
  rw [hbound]
  refine congrArg (fun next => (f.boundingIndex scene e).1 >>= next) (funext fun index => ?_)
  unfold countOver
  simp only [itemsIn_withOnly]
  rfl

/-- Whether a number facet can be shown depends on what it stands for, not on the items. -/
theorem update_congr (hs : scene.AlikeFor f.expression.toList scene')
    (hindexes : scene.store.SameIndexes scene'.store) (h : f.settled scene = g.settled scene')
    (items items' : KeySet) : (f.update scene items).1 = (g.update scene' items').1 := by
  have hexpression : f.expression = g.expression := (congrArg NumericRangeFacet.expression h :)
  cases he : f.expression with
  | none => simp [update, he, ← hexpression]
  | some e =>
    have he' : g.expression = some e := hexpression ▸ he
    have hinterval : f.interval = g.interval := (congrArg NumericRangeFacet.interval h :)
    have hid : f.id = g.id := (congrArg NumericRangeFacet.id h :)
    have hindex := congrArg NumericRangeFacet.index h
    rw [he, Option.toList_some] at hs
    have hbuilt := hs.index (List.mem_singleton_self e) place
    simp only [settled, he, he', Option.bind_some, ← hbuilt] at hindex
    have hbound : (f.boundingIndex scene e).1 = (g.boundingIndex scene' e).1 := by
      rw [boundingIndex_fst, boundingIndex_fst, ← hbuilt, answering_of_keeping_eq hindex]
      simp only [hindexes _]
    have hdone (r : RangeSelection) : ((f.itemsIn scene e r items).1.map fun _ => ()) =
        (g.itemsIn scene' e r items').1.map fun _ => () := by
      rw [itemsIn_congr hs h he, itemsIn_done g scene' e r items items']
    rw [update_fst he, update_fst he', hbound]
    refine congrArg (fun next => (g.boundingIndex scene' e).1 >>= next) (funext fun index => ?_)
    unfold countOver
    simp only [hinterval, hid, hdone]

theorem nodup_itemsIn (hrepeats : e.repeats = false) {r : RangeSelection} {items : KeySet}
    {held : Values} (h : (f.itemsIn scene e r items).1 = .ok held) : held.toList.Nodup := by
  unfold itemsIn at h
  cases hp : e.path? with
  | some p =>
    rw [hp] at h
    exact nodup_rangeBackward (by simpa [Expression.repeats, hp] using hrepeats) h
  | none =>
    simp only [hp, LocalIndex.get_eq] at h
    cases hanswer : answering f.index (LocalIndex.build scene e place) with
    | error failure =>
      rw [hanswer] at h
      cases h
    | ok index =>
      rw [hanswer] at h
      cases h
      exact KeySet.nodup_toList _

end NumericRangeFacet

end Faceted
