import Faceted.Proofs.Collection.Narrowing
import Faceted.Proofs.Expression.Converse
import Faceted.Proofs.Facet.Fresh

/-!
# Facets decide item by item

A facet lets an item through or not whatever other items it is given with. So the facets of a
collection, which narrow its root one after the other, let an item through if each of them does.

There is one exception. A list over a variable on its own, such as a list of the items themselves,
has no step at which it could look at what it is given: its whole selection comes out, and what the
facets before it have left out comes back.

* `Itemwise` is the property; narrowings of this kind may be united (`Itemwise.union`);
* **`Facet.itemwise_restrict`**: all facets have it that do not override what they are given;
* `DerivedFacet.restrict_alone`: what a derived facet makes of a single item, told by walking forward;
* **`Scene.mem_throughEach`**: what several facets let through. The exception leaves only the last
  facets to decide (`deciding`).
-/

namespace Faceted

open Faceted.Expression

/-! ## 1. Narrowing item by item -/

theorem KeySet.mem_foldl_union {α : Type} {f : α → KeySet} {xs : List α} {into : KeySet}
    {k : String} : k ∈ xs.foldl (fun set a => set.union (f a)) into ↔
      k ∈ into ∨ ∃ a ∈ xs, k ∈ f a := by
  induction xs generalizing into with
  | nil => simp
  | cons x xs ih => rw [List.foldl_cons, ih, mem_union, or_assoc, List.exists_mem_cons_iff]

instance {α : Type} (answer : Outcome α) (p : α → Prop) [DecidablePred p] :
    Decidable (∃ a, answer = .ok a ∧ p a) :=
  match answer with
  | .ok a => decidable_of_iff (p a) (by simp)
  | .error _ => isFalse (by simp)

/-- The items come out of which a condition holds. A narrowing that fails, fails whatever it is
    given. -/
def Itemwise (narrow : KeySet → Outcome KeySet) : Prop :=
  (∃ failure, ∀ items, narrow items = .error failure) ∨
    ∃ passes : String → Prop, ∀ items, ∃ kept, narrow items = .ok kept ∧
      ∀ x, x ∈ kept ↔ x ∈ items ∧ passes x

/-- What comes out can be found out by giving one item at a time. -/
theorem Itemwise.mem_iff {narrow : KeySet → Outcome KeySet} (h : Itemwise narrow)
    {items kept : KeySet} (hkept : narrow items = .ok kept) (x : String) :
    x ∈ kept ↔ x ∈ items ∧ ∃ alone, narrow (KeySet.ofList [x]) = .ok alone ∧ x ∈ alone := by
  rcases h with ⟨failure, hfail⟩ | ⟨passes, hpasses⟩
  · rw [hfail] at hkept
    cases hkept
  · obtain ⟨kept', hkept', hmem⟩ := hpasses items
    cases hkept.symm.trans hkept'
    obtain ⟨alone, halone, hmem'⟩ := hpasses (KeySet.ofList [x])
    have hx : x ∈ alone ↔ passes x := by simp [hmem']
    simp only [hmem, halone, Except.ok.injEq, exists_eq_left', hx]

theorem itemwise_of_mem {keep : KeySet → KeySet} (passes : String → Prop)
    (h : ∀ items x, x ∈ keep items ↔ x ∈ items ∧ passes x) :
    Itemwise fun items => .ok (keep items) :=
  .inr ⟨passes, fun items => ⟨keep items, rfl, h items⟩⟩

/-- A narrowing that lets everything through. -/
theorem itemwise_ok : Itemwise .ok := itemwise_of_mem (fun _ => True) fun _ _ => by simp

/-- A narrowing by something that has to be found out first. -/
theorem itemwise_map {α : Type} {known : Outcome α} {keep : α → KeySet → KeySet}
    (passes : α → String → Prop) (h : ∀ a items x, x ∈ keep a items ↔ x ∈ items ∧ passes a x) :
    Itemwise fun items => known.map fun a => keep a items := by
  cases known with
  | error failure => exact .inl ⟨failure, fun _ => rfl⟩
  | ok a => exact itemwise_of_mem (passes a) (h a)

theorem Itemwise.union {first second : KeySet → Outcome KeySet} (h : Itemwise first)
    (h' : Itemwise second) :
    Itemwise fun items => first items >>= fun kept => (second items).map kept.union := by
  rcases h with ⟨failure, hfail⟩ | ⟨passes, hpasses⟩
  · refine .inl ⟨failure, fun items => ?_⟩
    beta_reduce
    rw [hfail]
    rfl
  · rcases h' with ⟨failure, hfail⟩ | ⟨passes', hpasses'⟩
    · refine .inl ⟨failure, fun items => ?_⟩
      obtain ⟨kept, hkept, -⟩ := hpasses items
      beta_reduce
      rw [hkept, hfail]
      rfl
    · refine .inr ⟨fun x => passes x ∨ passes' x, fun items => ?_⟩
      obtain ⟨kept, hkept, hmem⟩ := hpasses items
      obtain ⟨kept', hkept', hmem'⟩ := hpasses' items
      refine ⟨kept.union kept', by beta_reduce; rw [hkept, hkept']; rfl, fun x => ?_⟩
      rw [KeySet.mem_union, hmem, hmem', and_or_left]

/-! ## 2. Lists -/

/-- Is the expression a variable on its own? The path from it has no hops. -/
def Expression.isBare (e : Expression) : Bool := e.path?.any fun p => p.hops.isEmpty

theorem Expression.hops_ne_nil {e : Expression} {p : Path} (h : e.isBare = false)
    (hp : e.path? = some p) : p.hops ≠ [] := by
  simpa [isBare, hp] using h

theorem itemwise_walkBackward {s : Store} {hops : List Hop} (hhops : hops ≠ []) (vs : Values) :
    Itemwise fun items => .ok (walkBackward s (some items) hops vs).toSet :=
  itemwise_of_mem (fun x => x ∈ (walkBackward s none hops vs).toList) fun items x => by
    rw [Values.mem_toSet, mem_walkBackward_filter hhops]

theorem ValueCache.itemwise_itemsWith {e : Expression} (h : e.isBare = false) (cache : ValueCache)
    (scene : Scene) (values : KeySet) :
    Itemwise fun items => (cache.itemsWith scene e values items).1 := by
  unfold itemsWith
  cases hp : e.path? with
  | some p => exact itemwise_walkBackward (Expression.hops_ne_nil h hp) _
  | none =>
    simp only [ask_eq]
    refine itemwise_map (fun maps x => ∃ v ∈ values.toList, x ∈ maps.holders v)
      fun maps items x => ?_
    simp only [KeySet.mem_foldl_union, KeySet.mem_inter, KeySet.not_mem_emptySet, false_or]
    grind

namespace ListFacet

/-- What a list lets through: the items with a selected value, then those without value. -/
theorem restrict_fst_eq_itemsWith {f : ListFacet} {e : Expression} (he : f.expression = some e)
    (hr : f.hasRestrictions = true) (scene : Scene) (items : KeySet) :
    (f.restrict scene items).1 = (f.cache.itemsWith scene e f.selection items).1 >>= fun found =>
      if f.selectMissing then
        ((answering f.cache (ValueMaps.build scene e)).map fun maps =>
          items.inter maps.missing).map found.union
      else .ok found := by
  rw [restrict_fst he, if_pos hr]
  unfold ValueCache.itemsWith
  cases e.path? <;> simp only [ValueCache.ask_eq] <;>
    cases answering f.cache (ValueMaps.build scene e) <;> rfl

theorem restrict_of_not_hasRestrictions {f : ListFacet} (h : f.hasRestrictions = false)
    (scene : Scene) (items : KeySet) : (f.restrict scene items).1 = .ok items := by
  unfold restrict
  cases f.expression <;> simp [h]

theorem itemwise_restrict {f : ListFacet}
    (h : f.hasRestrictions = true → ∀ e, f.expression = some e → e.isBare = false)
    (scene : Scene) : Itemwise fun items => (f.restrict scene items).1 := by
  cases he : f.expression with
  | none => simpa only [restrict, he] using itemwise_ok
  | some e =>
    cases hr : f.hasRestrictions with
    | false => simpa only [restrict_of_not_hasRestrictions hr] using itemwise_ok
    | true =>
      simp only [restrict_fst_eq_itemsWith he hr]
      have hwith := f.cache.itemwise_itemsWith (h hr e he) scene f.selection
      cases f.selectMissing with
      | false =>
        have hend (found : Outcome KeySet) : (found >>= fun found => .ok found) = found :=
          bind_pure found
        simpa only [Bool.false_eq_true, if_false, hend] using hwith
      | true =>
        exact hwith.union (itemwise_map (fun maps x => x ∈ maps.missing) fun maps items x =>
          KeySet.mem_inter)

end ListFacet

/-! ## 3. Ranges, trees and texts -/

theorem Store.itemwise_subjectsInRange (s : Store) (property : String) (low high : RangeValue)
    (inclusive : Bool) : Itemwise fun items =>
      .ok (s.subjectsInRange property low high inclusive ∅ (some items)).1 := by
  simp only [subjectsInRange_fst]
  cases (s.rangeIndex? property).1 with
  | none => exact itemwise_of_mem (fun _ => False) fun items x => by simp
  | some index =>
    refine itemwise_of_mem (fun x => x ∈ index.itemsBetween low high inclusive)
      fun items x => ?_
    simp only [RangeIndex.mem_subjectsBetween, KeySet.not_mem_emptySet, false_or, KeySet.passes_some]
    exact and_comm

theorem itemwise_rangeBackward (s : Store) (hops : List Hop) (low high : RangeValue)
    (inclusive : Bool) : Itemwise fun items =>
      (rangeBackward s hops low high inclusive (some items)).1.map Values.toSet := by
  unfold rangeBackward
  cases hops.getLast? with
  | none => exact .inl ⟨_, fun _ => rfl⟩
  | some last =>
    cases hforward : last.forward with
    | false => exact .inl ⟨_, fun _ => by simp only [hforward, Bool.false_eq_true, if_false]; rfl⟩
    | true =>
      simp only [hforward, if_true]
      cases hops.dropLast with
      | nil => exact s.itemwise_subjectsInRange last.property low high inclusive
      | cons h rest =>
        simp only [List.isEmpty_cons, Bool.false_eq_true, if_false]
        generalize s.subjectsInRange last.property low high inclusive ∅ none = answer
        exact itemwise_walkBackward (List.cons_ne_nil h rest) (.ofSet answer.1 .item)

namespace NumericRangeFacet

variable {scene : Scene} {f : NumericRangeFacet} {e : Expression}

theorem itemwise_itemsIn (f : NumericRangeFacet) (scene : Scene) (e : Expression)
    (r : RangeSelection) :
    Itemwise fun items => (f.itemsIn scene e r items).1.map Values.toSet := by
  unfold itemsIn
  cases e.path? with
  | some p => exact itemwise_rangeBackward scene.store p.hops r.low r.high false
  | none =>
    simp only [LocalIndex.get_eq]
    cases answering f.index (LocalIndex.build scene e place) with
    | error failure => exact .inl ⟨failure, fun _ => rfl⟩
    | ok index =>
      show Itemwise fun items => .ok (index.subjectsBetween r.low r.high false ∅ (some items))
      refine itemwise_of_mem (fun x => x ∈ index.itemsBetween r.low r.high false) fun items x => ?_
      rw [RangeIndex.mem_subjectsBetween, or_iff_right KeySet.not_mem_emptySet,
        KeySet.passes_some, and_comm]

/-- Answers for the ranges after the first do not depend on what the first has left in the facet. -/
theorem itemsInAny_cons (he : f.expression = some e) (r : RangeSelection)
    (rest : List RangeSelection) (items found : KeySet) :
    (f.itemsInAny scene e items found (r :: rest)).1 =
      ((f.itemsIn scene e r items).1.map Values.toSet).map found.union >>= fun found =>
        (f.itemsInAny scene e items found rest).1 := by
  have hleaves := leaves_itemsIn scene he r items
  rw [itemsInAny]
  generalize f.itemsIn scene e r items = answer at hleaves ⊢
  obtain ⟨outcome, f', store⟩ := answer
  cases outcome with
  | error failure => rfl
  | ok more =>
    refine itemsInAny_congr (hleaves.scene_alike.symm.alikeFor _) ?_ (hleaves.expression.trans he)
      items _ rest
    rw [← settled_alike (hleaves.scene_alike.alikeFor _)]
    exact hleaves.settled

theorem itemwise_itemsInAny (he : f.expression = some e) (ranges : List RangeSelection)
    {known : KeySet → Outcome KeySet} (hknown : Itemwise known) : Itemwise fun items =>
      known items >>= fun found => (f.itemsInAny scene e items found ranges).1 := by
  induction ranges generalizing known with
  | nil =>
    have hend (found : Outcome KeySet) : (found >>= fun found => .ok found) = found :=
      bind_pure found
    simpa only [itemsInAny, hend] using hknown
  | cons r rest ih =>
    simp only [itemsInAny_cons he, ← bind_assoc]
    exact ih (hknown.union (f.itemwise_itemsIn scene e r))

theorem itemwise_restrict (f : NumericRangeFacet) (scene : Scene) :
    Itemwise fun items => (f.restrict scene items).1 := by
  cases he : f.expression with
  | none => simpa only [restrict, he] using itemwise_ok
  | some e =>
    cases hr : f.hasRestrictions with
    | false => simpa [restrict, he, hr] using itemwise_ok
    | true =>
      simp only [restrict, he, hr, if_true]
      exact itemwise_itemsInAny he f.chosen
        (itemwise_of_mem (fun _ => False) fun _ _ => by simp)

end NumericRangeFacet

theorem AlphaRangeFacet.itemwise_restrict (f : AlphaRangeFacet) (scene : Scene) :
    Itemwise fun items => (f.restrict scene items).1 := by
  unfold restrict
  cases f.expression with
  | none => exact itemwise_ok
  | some e =>
    cases f.hasRestrictions with
    | false => exact itemwise_ok
    | true =>
      refine itemwise_map (fun index x =>
        ∃ r ∈ f.chosen, x ∈ index.itemsBetween r.low (endAfter r.high) false)
        fun index items x => ?_
      have hfold (ranges : RangeChoice) (into : KeySet) :
          x ∈ ranges.foldl (fun set r => itemsIn index r.low r.high set items) into ↔
            x ∈ into ∨ x ∈ items ∧
              ∃ r ∈ ranges, x ∈ index.itemsBetween r.low (endAfter r.high) false := by
        induction ranges generalizing into with
        | nil => simp
        | cons r rest ih =>
          rw [List.foldl_cons, ih, itemsIn, RangeIndex.mem_subjectsBetween, KeySet.passes_some,
            List.exists_mem_cons_iff]
          grind
      rw [hfold, or_iff_right KeySet.not_mem_emptySet]

theorem HierarchicalFacet.itemwise_restrict (f : HierarchicalFacet) (scene : Scene) :
    Itemwise fun items => (f.restrict scene items).1 := by
  cases he : f.expression with
  | none =>
    have hrestrict (items : KeySet) : (f.restrict scene items).1 = .ok items := by
      simp only [restrict, getTree, he]
      split <;> rfl
    simpa only [hrestrict] using itemwise_ok
  | some e =>
    simp only [restrict_fst he]
    cases f.hasRestrictions with
    | false => exact itemwise_ok
    | true =>
      refine itemwise_map (fun tree x => ∃ n ∈ f.selections, x ∈ itemsOf tree n)
        fun tree items x => ?_
      simp only [KeySet.mem_foldl_union, KeySet.mem_inter, KeySet.not_mem_emptySet, false_or]
      grind

theorem TextSearchFacet.itemwise_restrict (f : TextSearchFacet) (scene : Scene) :
    Itemwise fun items => (f.restrict scene items).1 := by
  unfold restrict
  cases f.query with
  | none => exact itemwise_ok
  | some query =>
    cases searchesNothing f.searched with
    | true => exact itemwise_ok
    | false => exact itemwise_map _ fun texts items x => KeySet.mem_filter

/-! ## 4. Derived facets -/

namespace DerivedFacet

theorem itemwise_restrict {f : DerivedFacet} {p : Path} (hp : f.expression.path? = some p)
    (hhops : p.hops ≠ []) (s : Store) : Itemwise (f.restrict s) := by
  unfold restrict
  cases f.restriction with
  | none => exact itemwise_ok
  | some allowed =>
    simp only [hp]
    exact itemwise_walkBackward hhops _

/-- **Narrowed on its own** an item stays if some value of it is let through. Walking backward to the
    item finds the same as walking forward from it. -/
theorem restrict_alone {f : DerivedFacet} {p : Path} (hp : f.expression.path? = some p)
    (hhops : p.hops ≠ []) {s : Store} {l : Ledger} (hs : s.Refines l) {x : String} :
    (∃ alone, f.restrict s (KeySet.ofList [x]) = .ok alone ∧ x ∈ alone) ↔
      ∀ allowed, f.restriction = some allowed →
        ∃ values, f.valuesOf s (KeySet.ofList [x]) = .ok values ∧
          ∃ v ∈ values.toList, v ∈ allowed := by
  unfold restrict valuesOf
  cases f.restriction with
  | none => simp
  | some allowed =>
    simp only [hp, Except.ok.injEq, exists_eq_left', Option.some.injEq, forall_eq',
      KeySet.mem_toList, Values.mem_toSet, mem_walkBackward_filter hhops, mem_walkBackward hs,
      mem_walkForward]
    simp [and_comm]

end DerivedFacet

/-! ## 5. Lists over a variable -/

theorem mapM_known {known : String → Outcome Values} {values : String → Values}
    (h : ∀ item, known item = .ok (values item)) (items : List String) :
    (items.mapM fun item => return (item, ← known item) : Outcome (List (String × Values))) =
      .ok (items.map fun item => (item, values item)) := by
  simp only [h]
  exact List.mapM_pure

/-- A variable has a value on every item, or on none of them. -/
theorem ValueMaps.missing_of_bare {e : Expression} (h : e.isBare = true) {scene : Scene}
    {maps : ValueMaps} (hbuild : build scene e = .ok maps) : maps.missing = ∅ := by
  unfold build at hbuild
  cases hp : e.path? with
  | none => simp [Expression.isBare, hp] at h
  | some p =>
    have hhops : p.hops = [] := by simpa [Expression.isBare, hp] using h
    by_cases hname : p.root.getD Roots.defaultName = Roots.defaultName
    · have heval (item : String) : e.evalOnItem item scene.store = .ok (.single item .item) := by
        rw [evalOnItem_of_path hp, if_pos hname, hhops]
        rfl
      rw [mapM_known heval] at hbuild
      have hmaps : _ = maps := Except.ok.inj hbuild
      rw [← hmaps]
      have hfold (items : List String) (maps : ValueMaps) :
          ((items.map fun item => (item, Values.single item .item)).foldl
            (fun maps r => maps.enter r.1 r.2) maps).missing = maps.missing := by
        induction items generalizing maps with
        | nil => rfl
        | cons item items ih =>
          rw [List.map_cons, List.foldl_cons, ih]
          rfl
      exact hfold _ _
    · cases hitems : scene.allItems.toList with
      | nil =>
        rw [hitems] at hbuild
        cases hbuild
        rfl
      | cons item items =>
        rw [hitems, List.mapM_cons, evalOnItem_of_path hp, if_neg hname] at hbuild
        cases hbuild

/-- **A list over a variable** gives the same answer whatever it is given. -/
theorem ListFacet.restrict_of_bare {f : ListFacet} {e : Expression} (he : f.expression = some e)
    (hbare : e.isBare = true) (hr : f.hasRestrictions = true) (scene : Scene) :
    ∃ answer, ∀ items, (f.dropCaches.restrict scene items).1 = answer := by
  cases hp : e.path? with
  | none => simp [Expression.isBare, hp] at hbare
  | some p =>
    have hhops : p.hops = [] := by simpa [Expression.isBare, hp] using hbare
    have hfound (items : KeySet) :
        (f.dropCaches.cache.itemsWith scene e f.selection items).1 = .ok f.selection := by
      unfold ValueCache.itemsWith
      rw [hp]
      simp only [hhops]
      rfl
    have hanswer (items : KeySet) : (f.dropCaches.restrict scene items).1 =
        if f.selectMissing then
          ((ValueMaps.build scene e).map fun maps => items.inter maps.missing).map f.selection.union
        else .ok f.selection := by
      have hrestrict := restrict_fst_eq_itemsWith (f := f.dropCaches) he hr scene items
      rw [show f.dropCaches.selection = f.selection from rfl, hfound] at hrestrict
      exact hrestrict
    refine ⟨(f.dropCaches.restrict scene ∅).1, fun items => ?_⟩
    rw [hanswer, hanswer]
    cases f.selectMissing with
    | false => rfl
    | true =>
      cases hbuild : ValueMaps.build scene e with
      | error failure => rfl
      | ok maps =>
        have hnone (items : KeySet) : items.inter maps.missing = ∅ := by
          rw [ValueMaps.missing_of_bare hbare hbuild]
          exact KeySet.ext fun x => by simp
        show Except.ok (f.selection.union (items.inter maps.missing)) =
          .ok (f.selection.union ((∅ : KeySet).inter maps.missing))
        rw [hnone, hnone]

/-! ## 6. Facets -/

namespace Facet

/-- Does the facet let its selection through whatever it is given? Lists over a variable do. -/
def overrides : Facet → Bool
  | .list f => f.hasRestrictions && f.expression.any Expression.isBare
  | .cloud f => f.list.hasRestrictions && f.list.expression.any Expression.isBare
  | _ => false

@[simp] theorem overrides_dropCaches (f : Facet) : f.dropCaches.overrides = f.overrides := by
  cases f <;> rfl

/-- The expression of a derived facet is a path with hops. -/
def GoesSomewhere (f : Facet) : Prop :=
  ∀ g, f = .derived g → ∃ p, g.expression.path? = some p ∧ p.hops ≠ []

theorem restrict_of_overrides {f : Facet} (h : f.overrides = true) (scene : Scene) :
    ∃ answer, ∀ items, (f.dropCaches.restrict scene items).1 = answer := by
  have hlist {f : ListFacet}
      (h : (f.hasRestrictions && f.expression.any Expression.isBare) = true) :
      ∃ answer, ∀ items, (f.dropCaches.restrict scene items).1 = answer := by
    rw [Bool.and_eq_true] at h
    obtain ⟨hr, hbare⟩ := h
    cases he : f.expression with
    | none => simp [he] at hbare
    | some e => exact ListFacet.restrict_of_bare he (by simpa [he] using hbare) hr scene
  cases f with
  | list f => exact hlist h
  | cloud f => exact hlist (f := f.list) h
  | _ => cases h

theorem restrict_of_not_hasRestrictions {f : Facet} (h : f.hasRestrictions = false) (scene : Scene)
    (items : KeySet) : (f.restrict scene items).1 = .ok items := by
  cases f with
  | list f => exact ListFacet.restrict_of_not_hasRestrictions h scene items
  | cloud f => exact ListFacet.restrict_of_not_hasRestrictions (f := f.list) h scene items
  | numericRange f =>
    show (f.restrict scene items).1 = _
    unfold NumericRangeFacet.restrict
    cases f.expression <;> simp [show f.hasRestrictions = false from h]
  | alphaRange f =>
    show (f.restrict scene items).1 = _
    unfold AlphaRangeFacet.restrict
    cases f.expression <;> simp [show f.hasRestrictions = false from h]
  | hierarchical f =>
    show (f.restrict scene items).1 = _
    simp [HierarchicalFacet.restrict, show f.hasRestrictions = false from h]
  | textSearch f =>
    show (f.restrict scene items).1 = _
    have hquery : f.query = none := Option.not_isSome_iff_eq_none.mp (Bool.eq_false_iff.mp h)
    simp only [TextSearchFacet.restrict, hquery]
  | derived f =>
    show f.restrict scene.store items = _
    have hrestriction : f.restriction = none :=
      Option.not_isSome_iff_eq_none.mp (Bool.eq_false_iff.mp h)
    simp only [DerivedFacet.restrict, hrestriction]

/-- **Facets decide item by item**, unless they override what they are given. -/
theorem itemwise_restrict {f : Facet} (h : f.overrides = false) (hpath : f.GoesSomewhere)
    (scene : Scene) : Itemwise fun items => (f.restrict scene items).1 := by
  have hlist {f : ListFacet}
      (h : (f.hasRestrictions && f.expression.any Expression.isBare) = false) :
      Itemwise fun items => (f.restrict scene items).1 := by
    refine ListFacet.itemwise_restrict (fun hr e he => ?_) scene
    simpa [hr, he] using h
  cases f with
  | list f => exact hlist h
  | cloud f => exact hlist (f := f.list) h
  | numericRange f => exact f.itemwise_restrict scene
  | alphaRange f => exact f.itemwise_restrict scene
  | hierarchical f => exact f.itemwise_restrict scene
  | textSearch f => exact f.itemwise_restrict scene
  | derived f =>
    obtain ⟨p, hp, hhops⟩ := hpath f rfl
    exact DerivedFacet.itemwise_restrict hp hhops scene.store

/-- A copy of the facet that keeps nothing lets the item through if it is given nothing else. -/
def LetsThrough (f : Facet) (scene : Scene) (x : String) : Prop :=
  ∃ alone, (f.dropCaches.restrict scene (KeySet.ofList [x])).1 = .ok alone ∧ x ∈ alone

instance (f : Facet) (scene : Scene) (x : String) : Decidable (f.LetsThrough scene x) :=
  inferInstanceAs (Decidable (∃ alone, _ = Except.ok alone ∧ x ∈ alone))

/-- What a copy of a facet lets through, item by item. -/
theorem mem_restrict_iff {f : Facet} (hpath : f.GoesSomewhere) {scene : Scene}
    {items narrowed : KeySet} (h : (f.dropCaches.restrict scene items).1 = .ok narrowed)
    {x : String} :
    x ∈ narrowed ↔ (f.overrides = true ∨ x ∈ items) ∧ f.LetsThrough scene x := by
  cases hoverrides : f.overrides with
  | true =>
    obtain ⟨answer, hanswer⟩ := restrict_of_overrides hoverrides scene
    simp only [true_or, true_and, LetsThrough, hanswer] at h ⊢
    simp [h]
  | false =>
    have hpath' : f.dropCaches.GoesSomewhere := by
      intro g hg
      cases f <;> cases hg
      exact hpath _ rfl
    have hitemwise := itemwise_restrict (f := f.dropCaches) (by rwa [overrides_dropCaches]) hpath'
      scene
    rw [hitemwise.mem_iff h x]
    simp [LetsThrough]

end Facet

/-! ## 7. Several facets -/

/-- The facets from the last one on that overrides what it is given, or else all of them. -/
def deciding : List Facet → List Facet
  | [] => []
  | f :: rest => if rest.any Facet.overrides then deciding rest else f :: rest

/-- The facets whose choice is lost because one after them overrides what it is given. -/
def overridden : List Facet → List Facet
  | [] => []
  | f :: rest => if rest.any Facet.overrides then f :: overridden rest else []

theorem overridden_append_deciding (fs : List Facet) : overridden fs ++ deciding fs = fs := by
  induction fs with
  | nil => rfl
  | cons f rest ih =>
    unfold overridden deciding
    split
    · rw [List.cons_append, ih]
    · rfl

theorem deciding_of_not_overrides {fs : List Facet} (h : fs.any Facet.overrides = false) :
    deciding fs = fs := by
  cases fs with
  | nil => rfl
  | cons f rest =>
    rw [List.any_cons, Bool.or_eq_false_iff] at h
    rw [deciding, if_neg (by rw [h.2]; exact Bool.false_ne_true)]

/-- The first of several facets narrows the items for the rest, whether it restricts or not. -/
theorem Scene.throughEach_cons_ok {scene : Scene} {f : Facet} {fs : List Facet} {items kept : KeySet}
    (h : scene.throughEach (f :: fs) items = .ok kept) :
    ∃ narrowed, (f.restrict scene items).1 = .ok narrowed ∧
      scene.throughEach fs narrowed = .ok kept := by
  unfold throughEach at h
  cases hr : f.hasRestrictions with
  | false =>
    rw [hr, if_neg Bool.false_ne_true] at h
    exact ⟨items, Facet.restrict_of_not_hasRestrictions hr scene items, h⟩
  | true =>
    rw [hr, if_pos rfl] at h
    cases hnarrowed : (f.restrict scene items).1 with
    | error failure =>
      rw [hnarrowed] at h
      cases h
    | ok narrowed =>
      rw [hnarrowed] at h
      exact ⟨narrowed, rfl, h⟩

/-- **What several facets let through** of the items that they are given: what each of those lets
    through that decide. -/
theorem Scene.mem_throughEach {scene : Scene} {fs : List Facet} {items kept : KeySet}
    (hpaths : ∀ f ∈ fs, f.GoesSomewhere)
    (h : scene.throughEach (fs.map Facet.dropCaches) items = .ok kept) {x : String} :
    x ∈ kept ↔ (fs.any Facet.overrides = true ∨ x ∈ items) ∧
      ∀ f ∈ deciding fs, f.LetsThrough scene x := by
  induction fs generalizing items with
  | nil =>
    cases h
    simp [deciding]
  | cons f rest ih =>
    obtain ⟨narrowed, hnarrowed, hrest⟩ := throughEach_cons_ok h
    rw [ih (fun g hg => hpaths g (List.mem_cons_of_mem f hg)) hrest, List.any_cons, deciding]
    cases hlater : rest.any Facet.overrides with
    | true => simp
    | false =>
      -- no facet after the first overrides it, so all of them decide
      have hmem := Facet.mem_restrict_iff (hpaths f List.mem_cons_self) hnarrowed (x := x)
      simp only [Bool.false_eq_true, false_or, Bool.or_false, if_false, List.forall_mem_cons,
        deciding_of_not_overrides hlater, hmem, and_assoc]

end Faceted
