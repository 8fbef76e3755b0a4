import Faceted.Facet.Basic
import Faceted.Proofs.Expression.Alike
import Faceted.Proofs.Running

/-!
# What facets keep

A facet keeps what it has worked out about the root items: maps, an index, a tree or texts. All four
are kept in the same way: what is kept already is the answer, and what is built now is kept unless
building fails (`answering`, `keeping`).

* `answering_keeping`, `keeping_keeping`: asking once more neither changes the answer nor what is kept;
* the `_eq` lemmas of section 2 put the four kinds into this form;
* section 3 does the same for the questions that a `ValueCache` answers;
* `Facet.expressions`: what a facet has been set up to evaluate;
* section 5: what is built depends on what is stored and on what the expressions yield
  (`Scene.AlikeFor`), so on the scene only up to `Scene.Alike`.
-/

namespace Faceted

open Faceted.Expression

/-! ## 1. Keeping -/

section Keeping

variable {α : Type}

/-- The answer of something that is kept or else built. -/
def answering (kept : Option α) (built : Outcome α) : Outcome α :=
  match kept with
  | some x => .ok x
  | none => built

/-- What is kept after asking. -/
def keeping (kept : Option α) (built : Outcome α) : Option α :=
  match kept, built with
  | some x, _ => some x
  | none, .ok x => some x
  | none, .error _ => none

theorem answering_keeping (kept : Option α) (built : Outcome α) :
    answering (keeping kept built) built = answering kept built := by
  cases kept with
  | some x => rfl
  | none => cases built <;> rfl

theorem keeping_keeping (kept : Option α) (built : Outcome α) :
    keeping (keeping kept built) built = keeping kept built := by
  cases kept with
  | some x => rfl
  | none => cases built <;> rfl

/-- Who keeps the same gives the same answer. -/
theorem answering_of_keeping_eq {kept kept' : Option α} {built : Outcome α}
    (h : keeping kept built = keeping kept' built) :
    answering kept built = answering kept' built := by
  rw [← answering_keeping kept, h, answering_keeping]

end Keeping

/-! ## 2. The four kinds -/

theorem ValueCache.maps_eq (cache : ValueCache) (scene : Scene) (e : Expression) :
    cache.maps scene e =
      (answering cache (ValueMaps.build scene e), keeping cache (ValueMaps.build scene e)) := by
  unfold ValueCache.maps
  cases cache with
  | some maps => rfl
  | none => cases ValueMaps.build scene e <;> rfl

theorem LocalIndex.get_eq (kept : LocalIndex) (scene : Scene) (e : Expression)
    (convert : String → Option RangeValue) :
    kept.get scene e convert =
      (answering kept (LocalIndex.build scene e convert),
        keeping kept (LocalIndex.build scene e convert)) := by
  unfold LocalIndex.get
  cases kept with
  | some index => rfl
  | none => cases LocalIndex.build scene e convert <;> rfl

theorem HierarchicalFacet.getTree_eq {f : HierarchicalFacet} {e : Expression}
    (h : f.expression = some e) (scene : Scene) :
    f.getTree scene =
      ((answering f.tree (Hierarchy.build scene e f.grouping)).map some,
        { f with tree := keeping f.tree (Hierarchy.build scene e f.grouping) }) := by
  obtain ⟨id, label, expression, grouping, order, showMissing, missingLabel, othersLabel,
    selections, tree, entries⟩ := f
  cases h
  unfold getTree
  cases tree with
  | some tree => rfl
  | none =>
    simp only
    cases Hierarchy.build scene e grouping <;> rfl

theorem HierarchicalFacet.getTree_fst (f : HierarchicalFacet) (scene : Scene) :
    (f.getTree scene).1 =
      match f.expression with
      | none => .ok none
      | some e => (answering f.tree (Hierarchy.build scene e f.grouping)).map some := by
  cases he : f.expression with
  | none => simp only [getTree, he]
  | some e => rw [getTree_eq he]

/-- A tree is the one that is kept or else the one that is built. -/
theorem HierarchicalFacet.exists_of_getTree {f : HierarchicalFacet} {scene : Scene} {t : Hierarchy}
    (h : (f.getTree scene).1 = .ok (some t)) :
    ∃ e, f.expression = some e ∧ answering f.tree (Hierarchy.build scene e f.grouping) = .ok t := by
  rw [getTree_fst] at h
  cases he : f.expression with
  | none =>
    rw [he] at h
    cases h
  | some e =>
    rw [he] at h
    dsimp only at h
    refine ⟨e, rfl, ?_⟩
    generalize answering f.tree (Hierarchy.build scene e f.grouping) = answer at h
    cases answer with
    | error failure => cases h
    | ok tree =>
      cases h
      rfl

/-- Without an expression there is no tree, and only then. -/
theorem HierarchicalFacet.expression_eq_none {f : HierarchicalFacet} {scene : Scene}
    (h : (f.getTree scene).1 = .ok none) : f.expression = none := by
  rw [getTree_fst] at h
  cases he : f.expression with
  | none => rfl
  | some e =>
    rw [he] at h
    dsimp only at h
    generalize answering f.tree (Hierarchy.build scene e f.grouping) = answer at h
    cases answer <;> cases h

/-- Asking once more yields the same tree, whatever has been selected and shown. -/
theorem HierarchicalFacet.getTree_again {f g : HierarchicalFacet} {scene : Scene}
    (hg : g = f ∨ g = (f.getTree scene).2) (selections : List NodeSelection)
    (entries : List HierarchyEntry) :
    (getTree { g with selections, entries } scene).1 = (f.getTree scene).1 := by
  rcases hg with rfl | rfl
  · rw [getTree_fst, getTree_fst]
  · cases he : f.expression with
    | none => simp only [getTree, he]
    | some e =>
      have hasked : (f.getTree scene).2 =
          { f with tree := keeping f.tree (Hierarchy.build scene e f.grouping) } := by
        rw [getTree_eq he]
      rw [hasked, getTree_fst, getTree_fst]
      simp only [he, answering_keeping]

theorem TextSearchFacet.getTexts_eq (f : TextSearchFacet) (scene : Scene) :
    f.getTexts scene =
      (answering f.texts (buildTexts f.searched scene),
        { f with texts := keeping f.texts (buildTexts f.searched scene) }) := by
  obtain ⟨id, label, searched, requiresEnter, query, debouncer, texts⟩ := f
  unfold getTexts
  cases texts with
  | some texts => rfl
  | none =>
    simp only
    cases buildTexts searched scene <;> rfl

/-! ## 3. Questions to a value cache -/

namespace ValueCache

variable (cache : ValueCache) (scene : Scene) (e : Expression)

theorem ask_eq {α : Type} (answer : ValueMaps → α) :
    cache.ask scene e answer =
      ((answering cache (ValueMaps.build scene e)).map answer,
        keeping cache (ValueMaps.build scene e)) := by
  unfold ask
  rw [maps_eq]

/-- What is kept after any question keeps the same as before when it is asked. -/
theorem keeping_ask {α : Type} (answer : ValueMaps → α) :
    keeping (cache.ask scene e answer).2 (ValueMaps.build scene e) =
      keeping cache (ValueMaps.build scene e) := by
  rw [ask_eq]
  exact keeping_keeping _ _

theorem keeping_itemsWith (values filter : KeySet) :
    keeping (cache.itemsWith scene e values filter).2 (ValueMaps.build scene e) =
      keeping cache (ValueMaps.build scene e) := by
  unfold itemsWith
  cases e.path? with
  | some p => rfl
  | none => exact cache.keeping_ask scene e _

theorem keeping_itemsWithout (filter into : KeySet) :
    keeping (cache.itemsWithout scene e filter into).2 (ValueMaps.build scene e) =
      keeping cache (ValueMaps.build scene e) :=
  cache.keeping_ask scene e _

theorem keeping_countWithout (items : KeySet) :
    keeping (cache.countWithout scene e items).2 (ValueMaps.build scene e) =
      keeping cache (ValueMaps.build scene e) :=
  cache.keeping_ask scene e _

theorem keeping_countsOf (items : KeySet) :
    keeping (cache.countsOf scene e items).2 (ValueMaps.build scene e) =
      keeping cache (ValueMaps.build scene e) := by
  unfold countsOf
  cases e.path? with
  | some p => rfl
  | none => exact cache.keeping_ask scene e _

end ValueCache

/-! ## 4. Expressions of facets -/

/-- The expressions that a text search looks at. -/
def Searched.listed : Searched → List Expression
  | .expressions es => es
  | _ => []

/-- The expressions that a facet has been set up with. -/
def Facet.expressions : Facet → List Expression
  | .list f => f.expression.toList
  | .cloud f => f.list.expression.toList
  | .numericRange f => f.expression.toList
  | .alphaRange f => f.expression.toList
  | .hierarchical f => f.expression.toList ++ f.grouping.toList
  | .textSearch f => f.searched.listed
  | .derived f => [f.expression]

/-! ## 5. Scenes that look alike -/

/-- The same root items, over stores that answer alike. -/
structure Scene.Alike (scene scene' : Scene) : Prop where
  store : scene.store.Alike scene'.store
  allItems : scene.allItems = scene'.allItems

/-- The same root items, over stores with the same content, and the expressions do not tell the two
    apart. -/
structure Scene.AlikeFor (es : List Expression) (scene scene' : Scene) : Prop where
  content : scene.store.SameContent scene'.store
  allItems : scene.allItems = scene'.allItems
  eval : ∀ e ∈ es, ∀ roots defaultName,
    e.eval roots defaultName scene.store = e.eval roots defaultName scene'.store

namespace Scene

variable {scene scene' scene'' : Scene} {es : List Expression}

namespace Alike

theorem refl (scene : Scene) : scene.Alike scene := ⟨Store.Alike.refl _, rfl⟩

theorem symm (h : scene.Alike scene') : scene'.Alike scene := ⟨h.store.symm, h.allItems.symm⟩

/-- What is alike is so for all expressions. -/
theorem alikeFor (h : scene.Alike scene') (es : List Expression) : scene.AlikeFor es scene' :=
  ⟨h.store.content, h.allItems, fun e _ => eval_alike h.store e⟩

end Alike

namespace AlikeFor

theorem trans (h : scene.AlikeFor es scene') (h' : scene'.AlikeFor es scene'') :
    scene.AlikeFor es scene'' :=
  ⟨h.content.trans h'.content, h.allItems.trans h'.allItems, fun e he roots name =>
    (h.eval e he roots name).trans (h'.eval e he roots name)⟩

theorem evalOnItem {e : Expression} (h : scene.AlikeFor es scene') (he : e ∈ es) (item : String) :
    e.evalOnItem item scene.store = e.evalOnItem item scene'.store := h.eval e he _ _

theorem maps {e : Expression} (h : scene.AlikeFor es scene') (he : e ∈ es) :
    ValueMaps.build scene e = ValueMaps.build scene' e := by
  unfold ValueMaps.build
  simp only [h.allItems, h.evalOnItem he]

theorem index {e : Expression} (h : scene.AlikeFor es scene') (he : e ∈ es)
    (convert : String → Option RangeValue) :
    LocalIndex.build scene e convert = LocalIndex.build scene' e convert := by
  unfold LocalIndex.build
  simp only [h.allItems, h.evalOnItem he]

theorem levels {grouping : Expression} (h : scene.AlikeFor es scene') (hgrouping : grouping ∈ es)
    (rounds : Nat) (g : Hierarchy.Growth) :
    Hierarchy.Growth.levels scene.store grouping rounds g =
      Hierarchy.Growth.levels scene'.store grouping rounds g := by
  have hlevel (g : Hierarchy.Growth) :
      g.level scene.store grouping = g.level scene'.store grouping := by
    unfold Hierarchy.Growth.level
    simp only [h.evalOnItem hgrouping]
  induction rounds generalizing g with
  | zero => rfl
  | succ rounds ih =>
    unfold Hierarchy.Growth.levels
    rw [hlevel]
    simp only [ih]

theorem tree {e : Expression} {grouping : Option Expression} (h : scene.AlikeFor es scene')
    (he : e ∈ es) (hgrouping : ∀ g, grouping = some g → g ∈ es) :
    Hierarchy.build scene e grouping = Hierarchy.build scene' e grouping := by
  have hmax : Hierarchy.maxLevels scene.store = Hierarchy.maxLevels scene'.store := by
    funext known
    unfold Hierarchy.maxLevels
    rw [h.content.forward, h.content.backward]
  unfold Hierarchy.build
  cases grouping with
  | none => simp only [h.maps he]
  | some g => simp only [h.maps he, hmax, h.levels (hgrouping g rfl)]

theorem texts {searched : Searched} (h : scene.AlikeFor es scene')
    (hsearched : ∀ e ∈ searched.listed, e ∈ es) :
    TextSearchFacet.buildTexts searched scene = TextSearchFacet.buildTexts searched scene' := by
  have htexts : ∀ item, TextSearchFacet.textsOf searched scene.store item =
      TextSearchFacet.textsOf searched scene'.store item := by
    intro item
    cases searched with
    | nothing => rfl
    | allProperties =>
      have hitem := congrArg (List.map Text.lowerCased) (h.content.textsOf item)
      unfold Store.textsOf at hitem
      simp only [List.map_flatMap] at hitem
      simp only [TextSearchFacet.textsOf, hitem]
    | expressions searched =>
      have hvalues : (searched.mapM fun e => e.evalOnItem item scene.store) =
          searched.mapM fun e => e.evalOnItem item scene'.store :=
        mapM_congr_of_mem fun e he => h.evalOnItem (hsearched e he) item
      simp only [TextSearchFacet.textsOf, hvalues]
  unfold TextSearchFacet.buildTexts
  simp only [h.allItems, htexts]

end AlikeFor

theorem Alike.maps (h : scene.Alike scene') (e : Expression) :
    ValueMaps.build scene e = ValueMaps.build scene' e :=
  (h.alikeFor [e]).maps (List.mem_singleton_self e)

theorem Alike.index (h : scene.Alike scene') (e : Expression)
    (convert : String → Option RangeValue) :
    LocalIndex.build scene e convert = LocalIndex.build scene' e convert :=
  (h.alikeFor [e]).index (List.mem_singleton_self e) convert

theorem Alike.tree (h : scene.Alike scene') (e : Expression) (grouping : Option Expression) :
    Hierarchy.build scene e grouping = Hierarchy.build scene' e grouping :=
  (h.alikeFor (e :: grouping.toList)).tree List.mem_cons_self fun _ hgrouping =>
    List.mem_cons_of_mem e (Option.mem_toList.mpr hgrouping)

end Scene

end Faceted
