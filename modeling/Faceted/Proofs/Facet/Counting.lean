import Faceted.Proofs.Facet.Itemwise
import Faceted.Proofs.Facet.Truthful
import Faceted.Proofs.KeySet.Sizes

/-!
# What lists count

A list counts the items that hold a value, or no value at all. The items are walked for the count. With
the entry as all that is selected the same items are let through, but collected, so that one that is
met twice on the walk is counted twice.

* `ListFacet.held`: the items in the order and with the repetitions of the walk. Only a path that
  repeats items has any (`Expression.repeats`, `ListFacet.nodup_held`);
* **`ListFacet.held_of_update`**: every count that is shown is the number of items walked;
* **`ListFacet.restrict_withOnly`**: with nothing else selected these items are let through;
* `ListFacet.update_congr`: whether a list can be shown does not depend on the items.
-/

namespace Faceted

open Faceted.Expression

/-! ## 1. Repetitions -/

namespace Values

/-- Of values the set is determined by the list. -/
theorem toSet_congr {vs ws : Values} (h : vs.toList = ws.toList) : vs.toSet = ws.toSet :=
  KeySet.ext fun v => by rw [mem_toSet, mem_toSet, h]

theorem size_toSet (vs : Values) : vs.toSet.size = vs.toList.dedup.length := by
  rw [← KeySet.size_ofList]
  exact congrArg KeySet.size (KeySet.ext fun v => by rw [mem_toSet, KeySet.mem_ofList])

/-- Collecting values loses repetitions. -/
theorem size_toSet_le (vs : Values) : vs.toSet.size ≤ vs.size := by
  rw [size_toSet]
  exact vs.toList.dedup_sublist.length_le

/-- It loses nothing else. -/
theorem size_toSet_eq_iff {vs : Values} : vs.toSet.size = vs.size ↔ vs.toList.Nodup := by
  rw [size_toSet, ← List.dedup_eq_self]
  exact ⟨vs.toList.dedup_sublist.eq_of_length, fun h => congrArg List.length h⟩

end Values

namespace Expression

variable {s : Store} {hops : List Hop}

/-- Walking backward depends on the values in their order, not on how they are held. -/
theorem toList_walkBackward_congr (s : Store) (filter : Option KeySet) (hops : List Hop)
    {vs ws : Values} (h : vs.toList = ws.toList) :
    (walkBackward s filter hops vs).toList = (walkBackward s filter hops ws).toList := by
  induction hops generalizing filter with
  | nil => exact h
  | cons hop rest ih =>
    unfold walkBackward follow
    rw [ih none, Values.toSet_congr (ih none)]

/-- From no values nothing is met. -/
theorem toList_walkBackward_nil (s : Store) (filter : Option KeySet) (hops : List Hop) {vs : Values}
    (h : vs.toList = []) : (walkBackward s filter hops vs).toList = [] := by
  induction hops generalizing filter with
  | nil => exact h
  | cons hop rest ih =>
    refine List.eq_nil_iff_forall_not_mem.mpr fun x hx => ?_
    obtain ⟨-, y, hy, -⟩ := mem_follow.mp (show x ∈ (follow _ _ _ _).toList from hx)
    rw [ih none] at hy
    cases hy

/-- Do the hops meet an item once for each of several ways? The first is an array hop and leads to
    further hops. -/
def repeatsItems : List Hop → Bool
  | h :: _ :: _ => h.isArray
  | _ => false

/-- May a walk backward along the expression meet an item more than once? -/
def repeats (e : Expression) : Bool := e.path?.any fun p => repeatsItems p.hops

theorem nodup_follow_of_set {h : Hop} {filter : Option KeySet} {vs : Values}
    (harray : h.isArray = false) : (follow s h filter vs).toList.Nodup := by
  unfold follow
  simp only [harray, Bool.false_eq_true, if_false]
  exact KeySet.nodup_toList _

/-- From a single value no item is met twice. -/
theorem nodup_walkBackward_single (h : repeatsItems hops = false) (filter : Option KeySet)
    (v : String) (type : ValueType) :
    (walkBackward s filter hops (.single v type)).toList.Nodup := by
  match hops with
  | [] => exact List.nodup_singleton v
  | [hop] =>
    show (follow s hop.reversed filter (.single v type)).toList.Nodup
    cases harray : hop.isArray with
    | false => exact nodup_follow_of_set harray
    | true =>
      unfold follow
      rw [if_pos (show hop.reversed.isArray = true from harray)]
      simpa [Values.single] using KeySet.nodup_toList _
  | hop :: _ :: _ => exact nodup_follow_of_set h

end Expression

/-! ## 2. Orders of entries -/

namespace EntryOrder

theorem mem_insertionSort {α : Type} {comesBefore : α → α → Bool} {xs : List α} {a : α} :
    a ∈ insertionSort comesBefore xs ↔ a ∈ xs := by
  unfold insertionSort
  rw [List.mem_reverse]
  suffices hfold : ∀ sorted : List α,
      a ∈ xs.foldl (fun sorted x => insertDescending comesBefore x sorted) sorted ↔
        a ∈ sorted ∨ a ∈ xs by
    simpa using hfold []
  induction xs with
  | nil => simp
  | cons x xs ih =>
    intro sorted
    rw [List.foldl_cons, ih, mem_insertDescending, List.mem_cons]
    grind

theorem mem_sort {order : EntryOrder} {type : ValueType} {entries : List Entry} {entry : Entry} :
    entry ∈ order.sort type entries ↔ entry ∈ entries :=
  mem_insertionSort

end EntryOrder

/-! ## 3. Lists -/

namespace ListFacet

variable {scene scene' : Scene} {f g : ListFacet} {e : Expression}

/-- The items that hold the value, or no value at all. -/
def held (f : ListFacet) (scene : Scene) (e : Expression) (value : Option String)
    (items : KeySet) : Outcome Values :=
  match value, e.path? with
  | some v, some p => .ok (walkBackward scene.store (some items) p.hops (.single v .text))
  | some v, none => (answering f.cache (ValueMaps.build scene e)).map fun maps =>
      .ofSet ((maps.holders v).inter items) .item
  | none, _ => (answering f.cache (ValueMaps.build scene e)).map fun maps =>
      .ofSet (items.inter maps.missing) .item

/-- Values that are counted are held by so many items. -/
theorem held_of_countsOf (f : ListFacet) {items : KeySet} {counts : List (String × Nat)}
    {type : ValueType} (h : (f.cache.countsOf scene e items).1 = .ok (counts, type)) :
    ∀ c ∈ counts, ∃ held, f.held scene e (some c.1) items = .ok held ∧ held.size = c.2 := by
  intro c hc
  unfold ValueCache.countsOf at h
  unfold held
  cases hp : e.path? with
  | some p =>
    rw [hp] at h
    cases h
    obtain ⟨v, -, rfl⟩ := List.mem_map.mp hc
    exact ⟨_, rfl, congrArg List.length (toList_walkBackward_congr scene.store (some items) p.hops rfl)⟩
  | none =>
    simp only [hp, ValueCache.ask_eq] at h
    cases hanswer : answering f.cache (ValueMaps.build scene e) with
    | error failure =>
      rw [hanswer] at h
      cases h
    | ok maps =>
      rw [hanswer] at h
      cases h
      obtain ⟨hmem, -⟩ := List.mem_filter.mp hc
      obtain ⟨⟨v, holders⟩, hholders, rfl⟩ := List.mem_map.mp hmem
      have hget : maps.holders v = holders := by
        rw [ValueMaps.holders, KeyMap.get?_of_mem_toList hholders]
        rfl
      exact ⟨_, rfl, congrArg (fun set : KeySet => (set.inter items).size) hget⟩

/-- **Every count of a list is the number of items that hold the entry.** -/
theorem held_of_update {items : KeySet} (h : f.update scene items = (.ok (), g)) {entry : Entry}
    (hentry : entry ∈ g.entries) : ∃ e, f.expression = some e ∧
      ∃ held, f.held scene e entry.value items = .ok held ∧ held.size = entry.count := by
  unfold update at h
  cases he : f.expression with
  | none =>
    rw [he] at h
    cases h
    cases hentry
  | some e =>
    refine ⟨e, rfl, ?_⟩
    rw [he] at h
    dsimp only at h
    have hcounts := @held_of_countsOf scene e f items
    have hkeeping := f.cache.keeping_countsOf scene e items
    generalize f.cache.countsOf scene e items = answer at h hcounts hkeeping
    obtain ⟨outcome, cache⟩ := answer
    cases outcome with
    | error failure => cases h
    | ok counted =>
      obtain ⟨counts, type⟩ := counted
      have hvalue {entry : Entry}
          (hentry : entry ∈ f.order.sort type (counts.map (f.valueEntry scene.store type))) :
          ∃ held, f.held scene e entry.value items = .ok held ∧ held.size = entry.count := by
        obtain ⟨⟨v, n⟩, hmem, rfl⟩ := List.mem_map.mp (EntryOrder.mem_sort.mp hentry)
        exact hcounts rfl (v, n) hmem
      dsimp only at h
      split at h
      · rw [ValueCache.countWithout, ValueCache.ask_eq, answering_of_keeping_eq hkeeping] at h
        cases hanswer : answering f.cache (ValueMaps.build scene e) with
        | error failure =>
          rw [hanswer] at h
          cases h
        | ok maps =>
          rw [hanswer] at h
          cases h
          dsimp only at hentry
          split at hentry
          · rcases List.mem_cons.mp hentry with rfl | hentry
            · -- the entry of the items without value
              refine ⟨.ofSet (items.inter maps.missing) .item, ?_, rfl⟩
              unfold held missingEntry
              rw [hanswer]
              rfl
            · exact hvalue hentry
          · exact hvalue hentry
      · cases h
        exact hvalue hentry

/-- Whether a list can be shown depends on its maps at most. -/
theorem update_fst (he : f.expression = some e) (scene : Scene) (items : KeySet) :
    (f.update scene items).1 =
      if e.path?.isNone || f.showMissing || f.selectMissing then
        (answering f.cache (ValueMaps.build scene e)).map fun _ => ()
      else .ok () := by
  unfold update
  rw [he]
  dsimp only
  unfold ValueCache.countsOf ValueCache.countWithout
  simp only [ValueCache.ask_eq]
  cases e.path? with
  | some p =>
    cases hshown : f.showMissing || f.selectMissing <;>
      cases hanswer : answering f.cache (ValueMaps.build scene e) <;>
      simp [hshown, hanswer, Except.map]
  | none =>
    cases f.showMissing || f.selectMissing <;>
      cases hanswer : answering f.cache (ValueMaps.build scene e) <;>
      simp [hanswer, Except.map, answering_keeping]

/-- Whether a list can be shown depends on what it stands for, not on the items. -/
theorem update_congr (hs : scene.AlikeFor f.expression.toList scene')
    (h : f.settled scene = g.settled scene') (items items' : KeySet) :
    (f.update scene items).1 = (g.update scene' items').1 := by
  have hexpression : f.expression = g.expression := (congrArg ListFacet.expression h :)
  cases he : f.expression with
  | none => simp [update, he, ← hexpression]
  | some e =>
    have he' : g.expression = some e := hexpression ▸ he
    have hshown : f.showMissing = g.showMissing := (congrArg ListFacet.showMissing h :)
    have hmissing : f.selectMissing = g.selectMissing := (congrArg ListFacet.selectMissing h :)
    have hcache := congrArg ListFacet.cache h
    have hmaps := hs.maps (Option.mem_toList.mpr he)
    simp only [settled, he, he', Option.bind_some, ← hmaps] at hcache
    rw [update_fst he, update_fst he', hshown, hmissing, ← hmaps, answering_of_keeping_eq hcache]

/-- Is the entry all that is selected? -/
def hasOnly (f : ListFacet) : Option String → Bool
  | none => f.selection.isEmpty && f.selectMissing
  | some v => f.selection.contains v && f.selection.size ≤ 1 && !f.selectMissing

/-- The list with nothing but the entry selected. -/
def withOnly (f : ListFacet) (value : Option String) : ListFacet :=
  { f with selection := KeySet.ofList value.toList, selectMissing := value.isNone }

/-- A click on an entry as the only choice selects it and reports a change, unless it was all that was
    selected. -/
theorem toggle_only {value : Option String} (h : f.hasOnly value = false) :
    f.toggle value true = (true, f.withOnly value) := by
  cases value with
  | none =>
    show f.toggleMissing true = _
    cases hempty : f.selection.isEmpty with
    | true =>
      have hmissing : f.selectMissing = false := by simpa [hasOnly, hempty] using h
      simp [toggleMissing, select, hempty, hmissing, withOnly]
      rfl
    | false =>
      have hne : (∅ : KeySet) ≠ f.selection := by
        rintro heq
        rw [← heq] at hempty
        cases hempty
      simp [toggleMissing, select, hempty, hne, withOnly]
      rfl
  | some v =>
    show f.toggleValue v true = _
    have hwhole : (f.selection.contains v && f.selection.size ≤ 1 && !f.selectMissing) = false := h
    have hchanged : (decide (KeySet.ofList [v] ≠ f.selection) || false != f.selectMissing) = true := by
      by_contra hsame
      rw [Bool.not_eq_true, Bool.or_eq_false_iff, decide_eq_false_iff_not, not_not,
        bne_eq_false_iff_eq] at hsame
      obtain ⟨heq, hmissing⟩ := hsame
      have hmem : (KeySet.ofList [v]).contains v = true := by simp
      have hone : (KeySet.ofList [v]).size ≤ 1 := Nat.le_refl 1
      rw [← heq, ← hmissing, hmem, decide_eq_true hone] at hwhole
      cases hwhole
    simp only [toggleValue, hwhole, if_true, Bool.false_eq_true, if_false]
    exact congrArg (·, f.withOnly (some v)) hchanged

theorem restrict_withOnly (he : f.expression = some e) (scene : Scene) (value : Option String)
    (items : KeySet) : ((f.withOnly value).restrict scene items).1 =
      (f.held scene e value items).map Values.toSet := by
  have hr : (f.withOnly value).hasRestrictions = true := by cases value <;> rfl
  have hempty (items : KeySet) : (∅ : KeySet).union items = items := KeySet.ext fun x => by simp
  rw [restrict_fst (f := f.withOnly value) he, if_pos hr,
    show (f.withOnly value).cache = f.cache from rfl]
  unfold held
  cases value with
  | none =>
    have hwalk (p : Path) : (walkBackward scene.store (some items) p.hops
        (.ofSet (KeySet.ofList []) .text)).toSet = ∅ :=
      (Values.toSet_congr (toList_walkBackward_nil _ _ _ rfl) : _ = (Values.empty .text).toSet)
    show _ >>= (fun found => (answering f.cache (ValueMaps.build scene e)).map _) = _
    cases answering f.cache (ValueMaps.build scene e) with
    | error failure => cases e.path? <;> rfl
    | ok maps =>
      cases e.path? with
      | some p =>
        show Except.ok ((walkBackward _ _ _ (.ofSet (KeySet.ofList []) .text)).toSet.union _) = _
        rw [hwalk, hempty]
        rfl
      | none => exact congrArg Except.ok (hempty _)
  | some v =>
    cases e.path? with
    | some p => exact congrArg Except.ok (Values.toSet_congr (toList_walkBackward_congr _ _ _ rfl))
    | none =>
      show (answering f.cache (ValueMaps.build scene e)).map _ >>= (fun found => .ok found) = _
      cases answering f.cache (ValueMaps.build scene e) with
      | error failure => rfl
      | ok maps => exact congrArg Except.ok (hempty _)

/-- If the entry could be counted, the list can be shown with nothing but it selected. -/
theorem update_withOnly (he : f.expression = some e) {items : KeySet} {value : Option String}
    {held : Values} (hheld : f.held scene e value items = .ok held)
    (h : (f.update scene items).1 = .ok ()) : ((f.withOnly value).update scene items).1 = .ok () := by
  rw [update_fst he] at h
  rw [update_fst (f := f.withOnly value) he, show (f.withOnly value).cache = f.cache from rfl]
  cases hanswer : answering f.cache (ValueMaps.build scene e) with
  | ok maps => exact ite_self _
  | error failure =>
    -- without maps only the values of a path can be counted
    rw [hanswer] at h
    unfold ListFacet.held at hheld
    rw [hanswer] at hheld
    cases value with
    | none => cases hheld
    | some v =>
      cases hp : e.path? with
      | none =>
        rw [hp] at hheld
        cases hheld
      | some p =>
        rw [hp] at h
        split at h
        · cases h
        · next hshown =>
          have hshown : f.showMissing = false := by simp at hshown; exact hshown.1
          simp [withOnly, hshown]

theorem nodup_held (hrepeats : e.repeats = false) {value : Option String} {items : KeySet}
    {held : Values} (h : f.held scene e value items = .ok held) : held.toList.Nodup := by
  have hmap (keep : ValueMaps → KeySet)
      (h : ((answering f.cache (ValueMaps.build scene e)).map fun maps =>
        Values.ofSet (keep maps) .item) = .ok held) : held.toList.Nodup := by
    cases hanswer : answering f.cache (ValueMaps.build scene e) with
    | error failure =>
      rw [hanswer] at h
      cases h
    | ok maps =>
      rw [hanswer] at h
      cases h
      exact KeySet.nodup_toList _
  unfold ListFacet.held at h
  cases value with
  | none => exact hmap _ h
  | some v =>
    cases hp : e.path? with
    | none =>
      rw [hp] at h
      exact hmap _ h
    | some p =>
      rw [hp] at h
      cases h
      exact nodup_walkBackward_single (by simpa [Expression.repeats, hp] using hrepeats) _ v .text

end ListFacet

end Faceted
