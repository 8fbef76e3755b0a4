import Faceted.Expression.Eval
import Faceted.Facet.Derived
import Faceted.Proofs.Store.Ledger
import Faceted.Proofs.Store.Run

/-!
# Walking there and back

A path relates texts: it leads from one to another along its hops. Walking forward goes from values to
all that the path leads to, walking backward to all that lead to one of the values. The second is the
converse of the first because the two indexes of a store mirror each other.

Lists, clouds and derived facets choose items by their values. Over a path they do not look at the items
at all: they walk from the values backward. This finds the items from which the path leads to one of the
values, the same ones that evaluating the path item by item finds.

* `Leads` is the relation;
* `mem_walkForward`: walking forward follows it;
* `mem_walkBackward_filter`: a filter keeps members, once there is a hop to apply it to;
* **`mem_walkBackward`**: walking backward goes against it;
* `evalOnItem_of_path`: a path on an item is walked from the item;
* `Meets`: some value of the expression on the item is among the chosen ones; `Store.Refines.meets_iff`:
  for a path from the default variable, the walk backward tells;
* **`walkBackward_converse`**: over the store after any run, so do the choices of lists and of derived
  facets.
-/

namespace Faceted

@[simp] theorem KeySet.not_mem_emptySet {k : String} : ¬ k ∈ (∅ : KeySet) := not_mem_empty

theorem Index.mem_collectUnion {index : Index} {xs : KeySet} {y z : String} {into : KeySet}
    {filter : Option KeySet} : z ∈ index.collectUnion xs y into filter ↔
      z ∈ into ∨ ∃ x ∈ xs, z ∈ index.listed x y ∧ KeySet.passes filter z = true := by
  unfold collectUnion
  suffices hfold : ∀ (keys : List String) (into : KeySet),
      z ∈ keys.foldl (fun set x => index.collect x y set filter) into ↔
        z ∈ into ∨ ∃ x ∈ keys, z ∈ index.listed x y ∧ KeySet.passes filter z = true from
    hfold xs.toList into
  intro keys
  induction keys with
  | nil => simp
  | cons x keys ih =>
    intro into
    rw [List.foldl_cons, ih, mem_collect, or_assoc]
    simp only [List.exists_mem_cons_iff]

namespace Expression

variable {s : Store}

/-! ## 1. One hop -/

/-- What is listed for a text in the direction of the hop. -/
def Hop.listed (h : Hop) (s : Store) (x : String) : List String :=
  if h.forward then s.objectList x h.property else s.subjectList x h.property

theorem mem_targets {h : Hop} {x y : String} {filter : Option KeySet} :
    y ∈ h.targets s x filter ↔ y ∈ h.listed s x ∧ KeySet.passes filter y = true := by
  unfold Hop.targets Hop.listed
  split
  · simp only [Store.objects, Store.objectList, Index.mem_collect, KeySet.not_mem_emptySet,
      false_or]
  · simp only [Store.subjects, Store.subjectList, Index.mem_collect, KeySet.not_mem_emptySet,
      false_or]

theorem mem_targetsUnion {h : Hop} {xs : KeySet} {y : String} {filter : Option KeySet} :
    y ∈ h.targetsUnion s xs filter ↔ ∃ x ∈ xs, y ∈ h.listed s x ∧ KeySet.passes filter y = true := by
  unfold Hop.targetsUnion Hop.listed
  split
  · simp only [Store.objectsUnion, Store.objectList, Index.mem_collectUnion, KeySet.not_mem_emptySet,
      false_or]
  · simp only [Store.subjectsUnion, Store.subjectList, Index.mem_collectUnion, KeySet.not_mem_emptySet,
      false_or]

theorem mem_follow {h : Hop} {filter : Option KeySet} {vs : Values} {y : String} :
    y ∈ (follow s h filter vs).toList ↔
      KeySet.passes filter y = true ∧ ∃ x ∈ vs.toList, y ∈ h.listed s x := by
  unfold follow
  split
  · simp only [Values.toList_ofList, List.mem_flatMap, KeySet.mem_toList, mem_targets]
    grind
  · simp only [Values.toList_ofSet, KeySet.mem_toList, mem_targetsUnion, Values.mem_toSet]
    grind

/-- A hop leads back to where it came from. -/
theorem mem_listed_reversed {l : Ledger} (hs : s.Refines l) {h : Hop} {x y : String} :
    x ∈ h.reversed.listed s y ↔ y ∈ h.listed s x := by
  unfold Hop.listed Hop.reversed
  cases h.forward with
  | true => exact hs.mem_objectList_iff.symm
  | false => exact hs.mem_objectList_iff

/-! ## 2. Paths -/

/-- The hops lead from the one text to the other. -/
def Leads (s : Store) : List Hop → String → String → Prop
  | [], x, y => x = y
  | h :: rest, x, y => ∃ z ∈ h.listed s x, Leads s rest z y

theorem mem_walkForward {hops : List Hop} {vs : Values} {y : String} :
    y ∈ (walkForward s hops vs).toList ↔ ∃ x ∈ vs.toList, Leads s hops x y := by
  induction hops generalizing vs with
  | nil => simp [walkForward, Leads]
  | cons h rest ih =>
    show y ∈ (walkForward s rest (follow s h none vs)).toList ↔ _
    simp only [ih, mem_follow, KeySet.passes_none, true_and, Leads]
    constructor
    · rintro ⟨z, ⟨x, hx, hz⟩, hy⟩
      exact ⟨x, hx, z, hz, hy⟩
    · rintro ⟨x, hx, z, hz, hy⟩
      exact ⟨z, ⟨x, hx, hz⟩, hy⟩

/-- A filter keeps members of what a walk backward leads to. Without hops there is no step that it
    could apply to. -/
theorem mem_walkBackward_filter {hops : List Hop} (hhops : hops ≠ []) {items : KeySet} {vs : Values}
    {x : String} : x ∈ (walkBackward s (some items) hops vs).toList ↔
      x ∈ items ∧ x ∈ (walkBackward s none hops vs).toList := by
  cases hops with
  | nil => exact absurd rfl hhops
  | cons h rest =>
    unfold walkBackward
    simp only [mem_follow, KeySet.passes_some, KeySet.passes_none, true_and]

/-- **Walking backward goes against the path.** -/
theorem mem_walkBackward {l : Ledger} (hs : s.Refines l) {hops : List Hop} {vs : Values}
    {x : String} : x ∈ (walkBackward s none hops vs).toList ↔ ∃ y ∈ vs.toList, Leads s hops x y := by
  induction hops generalizing x with
  | nil => simp [walkBackward, Leads]
  | cons h rest ih =>
    unfold walkBackward
    simp only [mem_follow, KeySet.passes_none, true_and, mem_listed_reversed hs, ih, Leads]
    constructor
    · rintro ⟨z, ⟨y, hy, hzy⟩, hxz⟩
      exact ⟨y, hy, z, hxz, hzy⟩
    · rintro ⟨y, hy, z, hxz, hzy⟩
      exact ⟨z, ⟨y, hy, hzy⟩, hxz⟩

/-! ## 3. Paths on an item -/

/-- A path on an item is walked from the item, if it starts from the default variable. -/
theorem evalOnItem_of_path {e : Expression} {p : Path} (hp : e.path? = some p) (item : String)
    (s : Store) : e.evalOnItem item s =
      if p.root.getD Roots.defaultName = Roots.defaultName then
        .ok (walkForward s p.hops (.single item .item))
      else .error (.evaluation (.noVariable (p.root.getD Roots.defaultName))) := by
  have hroot : e.root = .path p := by
    unfold path? at hp
    split at hp
    · next q h =>
      cases hp
      exact h
    · cases hp
  unfold evalOnItem eval
  rw [hroot]
  unfold Node.eval Scope.lookup Roots.ofItem
  simp only [ite_self, Option.none_or, KeyMap.get?_insert]
  by_cases hname : p.root.getD Roots.defaultName = Roots.defaultName
  · simp only [hname, if_true]
    rfl
  · simp only [hname, if_false]
    rfl

end Expression

open Faceted.Expression

/-! ## 4. Meeting values -/

/-- Some value of the expression on the item is among the chosen ones. -/
def Expression.Meets (e : Expression) (s : Store) (chosen : KeySet) (item : String) : Prop :=
  ∃ found, e.evalOnItem item s = .ok found ∧ ∃ v ∈ found.toList, v ∈ chosen

namespace Store.Refines

variable {s : Store} {l : Ledger} {hops : List Hop} {e : Expression} {p : Path}

/-- The walk backward from values finds what the walk forward leads from to one of them. -/
theorem mem_walkBackward_iff (hs : s.Refines l) {values start : Values} {x : String}
    (hstart : start.toList = [x]) : x ∈ (walkBackward s none hops values).toList ↔
      ∃ v ∈ values.toList, v ∈ (walkForward s hops start).toList := by
  simp only [mem_walkBackward hs, mem_walkForward, hstart, List.mem_singleton, exists_eq_left]

/-- With a filter it finds those of them that pass. -/
theorem mem_walkBackward_filter_iff (hs : s.Refines l) (hhops : hops ≠ []) {items : KeySet}
    {values start : Values} {x : String} (hstart : start.toList = [x]) :
    x ∈ (walkBackward s (some items) hops values).toList ↔
      x ∈ items ∧ ∃ v ∈ values.toList, v ∈ (walkForward s hops start).toList := by
  rw [mem_walkBackward_filter hhops, hs.mem_walkBackward_iff hstart]

/-- An item meets values through a path if the walk backward from them finds it. -/
theorem meets_iff (hs : s.Refines l) (hp : e.path? = some p)
    (hroot : p.root.getD Roots.defaultName = Roots.defaultName) {chosen : KeySet} {x : String}
    {type : ValueType} : e.Meets s chosen x ↔
      x ∈ (walkBackward s none p.hops (.ofSet chosen type)).toList := by
  have hsingle : (Values.single x .item).toList = [x] := rfl
  rw [hs.mem_walkBackward_iff hsingle, Expression.Meets, evalOnItem_of_path hp, if_pos hroot]
  simp only [Except.ok.injEq, exists_eq_left', Values.toList_ofSet, KeySet.mem_toList]
  exact exists_congr fun v => and_comm

/-- What the walk backward leaves of a filter is what meets the values. -/
theorem mem_toSet_walkBackward (hs : s.Refines l) (hp : e.path? = some p) (hhops : p.hops ≠ [])
    (hroot : p.root.getD Roots.defaultName = Roots.defaultName) (chosen items : KeySet)
    (type : ValueType) (x : String) :
    x ∈ (walkBackward s (some items) p.hops (.ofSet chosen type)).toSet ↔
      x ∈ items ∧ e.Meets s chosen x := by
  rw [Values.mem_toSet, mem_walkBackward_filter hhops, hs.meets_iff hp hroot]

end Store.Refines

/-! ## 5. Runs -/

/-- **Walking backward is the converse of walking forward**, over the store after any run: with a
    filter and without, from any values along any hops. So a list's items of values and what a derived
    facet lets through are, of the items given, those that meet the values. -/
theorem walkBackward_converse (ops : List StoreOperation) {hops : List Hop} (hhops : hops ≠ []) :
    (∀ (values : Values) (x : String),
      (∀ items, x ∈ (walkBackward (storeAfter ops) (some items) hops values).toList ↔
        x ∈ items ∧ ∃ v ∈ values.toList,
          v ∈ (walkForward (storeAfter ops) hops (.ofSet (KeySet.ofList [x]) .item)).toList) ∧
      (x ∈ (walkBackward (storeAfter ops) none hops values).toList ↔ ∃ v ∈ values.toList,
        v ∈ (walkForward (storeAfter ops) hops (.ofSet (KeySet.ofList [x]) .item)).toList)) ∧
    ∀ (e : Expression) (root : Option String), e.path? = some ⟨root, hops⟩ →
      root.getD Roots.defaultName = Roots.defaultName → ∀ chosen items : KeySet,
        (∀ (cache : ValueCache) (allItems : KeySet), ∃ found,
          (cache.itemsWith ⟨storeAfter ops, allItems⟩ e chosen items).1 = .ok found ∧
            ∀ x, x ∈ found ↔ x ∈ items ∧ e.Meets (storeAfter ops) chosen x) ∧
        ∀ (id : String) (candidates : KeySet), ∃ kept,
          DerivedFacet.restrict ⟨id, e, candidates, some chosen⟩ (storeAfter ops) items = .ok kept ∧
            ∀ x, x ∈ kept ↔ x ∈ items ∧ e.Meets (storeAfter ops) chosen x := by
  have hs := storeAfter_refines ops
  have hstart (x : String) : (Values.ofSet (KeySet.ofList [x]) .item).toList = [x] := rfl
  refine ⟨fun values x => ⟨fun items => hs.mem_walkBackward_filter_iff hhops (hstart x),
    hs.mem_walkBackward_iff (hstart x)⟩, fun e root hp hroot chosen items => ?_⟩
  have hmem := hs.mem_toSet_walkBackward hp hhops hroot chosen items
  refine ⟨fun cache allItems => ⟨_, ?_, hmem .text⟩, fun id candidates => ⟨_, ?_, hmem .item⟩⟩
  · rw [ValueCache.itemsWith, hp]
  · rw [DerivedFacet.restrict, hp]

/-- Who knows whom, and who wears what. -/
def guests : List StoreOperation :=
  [.add ⟨"ann", "knows", "bea"⟩, .add ⟨"bea", "wears", "red"⟩, .add ⟨"eve", "knows", "ann"⟩]

theorem ann_of_red : [⟨"knows", true, true⟩, ⟨"wears", true, false⟩] ≠ ([] : List Hop) ∧
    "ann" ∈ (walkBackward (storeAfter guests) (some (KeySet.ofList ["ann", "eve"]))
      [⟨"knows", true, true⟩, ⟨"wears", true, false⟩] (.single "red" .text)).toList := by
  have hhops : [⟨"knows", true, true⟩, ⟨"wears", true, false⟩] ≠ ([] : List Hop) :=
    List.cons_ne_nil _ _
  have hconverse := (walkBackward_converse guests hhops).1 (.single "red" .text) "ann"
  exact ⟨hhops, (hconverse.1 _).mpr ⟨by decide, "red", by decide, by decide⟩⟩

end Faceted
