import Faceted.Proofs.Browser.PassingOn
import Faceted.Proofs.Facet.Gathering
import Faceted.Proofs.Hierarchy.Growing

/-!
# Browsers that work because their expressions do

What a facet is asked for fails only if one of its expressions does, with two exceptions: a numeric range
refuses to show more buckets than it may, and a grouping may come to no end. So a browser works if its
expressions have values on whatever they are evaluated on. Those have that are made of constants, paths,
operators and choices; calls of functions and unknown variables are what can fail. The time can be asked
for as long as the calendar has the moment.

* `Expression.Succeeds`: an expression has values on every item and on every set of items;
  **`Node.eval_of_isTotal`**: a tree of this make has, by induction on the tree;
* `Facet.works_of_succeeds`: every other kind of facet works if its expressions succeed;
* **`Browser.works_of_isTotal`**: a browser works whose expressions are of this make.
-/

namespace Faceted

/-! ## 1. Expressions -/

namespace Expression

variable {e : Expression} {s : Store}

/-- The expression has values on every item and on every set of items. -/
structure Succeeds (e : Expression) (s : Store) : Prop where
  onItem : ∀ item, ∃ values, e.evalOnItem item s = .ok values
  onItems : ∀ items, ∃ values, e.eval (Roots.ofItems items) Roots.defaultName s = .ok values

/-- Is the tree made of constants, of paths from the default variable, of operators and choices between
    such trees, and of a moment that the calendar has? -/
def Node.isTotal (moment : Int) : Node → Bool
  | .constant _ _ => true
  | .path p => p.root.isNone
  | .binary _ left right => left.isTotal moment && right.isTotal moment
  | .call name [] => Function.ofName? name == some .now && (Calendar.format? moment).isSome
  | .control .ifThenElse [condition, yes, no] =>
    condition.isTotal moment && yes.isTotal moment && no.isTotal moment
  | _ => false

def isTotal (moment : Int) (e : Expression) : Bool := e.root.isTotal moment

/-- **A total tree has values** wherever the default variable stands for something. -/
theorem Node.eval_of_isTotal {scope : Scope} {bound : Binding × ValueType}
    (hscope : scope.lookup none = .ok bound) (n : Node) (h : n.isTotal s.present = true) :
    ∃ values, n.eval s scope = .ok values := by
  fun_induction Node.isTotal s.present n with
  | case1 value type => exact ⟨_, rfl⟩
  | case2 p =>
    refine ⟨walkForward s p.hops (bound.1.values bound.2), ?_⟩
    unfold Node.eval
    rw [Option.isNone_iff_eq_none.mp h, hscope]
    rfl
  | case3 o left right ihl ihr =>
    obtain ⟨hleft, hright⟩ := Bool.and_eq_true_iff.mp h
    obtain ⟨l, hl⟩ := ihl hleft
    obtain ⟨r, hr⟩ := ihr hright
    refine ⟨o.apply l r, ?_⟩
    unfold Node.eval
    rw [hl, hr]
    rfl
  | case4 name =>
    obtain ⟨hname, hmoment⟩ := Bool.and_eq_true_iff.mp h
    obtain ⟨text, htext⟩ := Option.isSome_iff_exists.mp hmoment
    refine ⟨.single text .date, ?_⟩
    unfold Node.eval
    rw [beq_iff_eq.mp hname]
    unfold evalAll
    dsimp only [Function.apply]
    rw [htext]
    rfl
  | case5 condition yes no ihc ihy ihn =>
    obtain ⟨hbefore, hno⟩ := Bool.and_eq_true_iff.mp h
    obtain ⟨hcondition, hyes⟩ := Bool.and_eq_true_iff.mp hbefore
    obtain ⟨c, hc⟩ := ihc hcondition
    obtain ⟨y, hy⟩ := ihy hyes
    obtain ⟨n, hn⟩ := ihn hno
    refine ⟨if c.anyTruthy then y else n, ?_⟩
    unfold Node.eval
    dsimp only
    rw [hc, ok_bind]
    unfold evalBranch
    cases c.anyTruthy
    · exact hn
    · exact hy
  | case6 => cases h

theorem succeeds_of_isTotal (h : e.isTotal s.present = true) : e.Succeeds s where
  onItem _ := Node.eval_of_isTotal rfl e.root h
  onItems _ := Node.eval_of_isTotal rfl e.root h

end Expression

/-! ## 2. What facets keep -/

section Keeping

variable {e : Expression} {scene : Scene} (h : e.Succeeds scene.store)
include h

theorem ValueMaps.build_succeeds : ∃ maps, build scene e = .ok maps := by
  obtain ⟨results, hresults⟩ := mapM_pairs_succeeds
    fun (item : String) (_ : item ∈ scene.allItems.toList) => h.onItem item
  unfold build
  rw [hresults]
  exact ⟨_, rfl⟩

theorem ValueCache.ask_succeeds {α : Type} (cache : ValueCache) (answer : ValueMaps → α) :
    ∃ x kept, cache.ask scene e answer = (.ok x, kept) := by
  cases cache with
  | some maps => exact ⟨answer maps, some maps, rfl⟩
  | none =>
    obtain ⟨maps, hmaps⟩ := ValueMaps.build_succeeds h
    refine ⟨answer maps, some maps, ?_⟩
    unfold ask ValueCache.maps
    dsimp only
    rw [hmaps]
    rfl

theorem LocalIndex.get_succeeds (kept : LocalIndex) (convert : String → Option RangeValue) :
    ∃ index kept', kept.get scene e convert = (.ok index, kept') := by
  cases kept with
  | some index => exact ⟨index, some index, rfl⟩
  | none =>
    obtain ⟨values, hbuild, -⟩ := build_ofItems convert fun item (_ : item ∈ scene.allItems) =>
      h.onItem item
    unfold get
    dsimp only
    rw [hbuild]
    exact ⟨_, _, rfl⟩

theorem Hierarchy.build_succeeds : ∃ tree, build scene e none = .ok tree := by
  obtain ⟨maps, hmaps⟩ := ValueMaps.build_succeeds h
  unfold build
  rw [hmaps, ok_bind]
  exact ⟨_, rfl⟩

end Keeping

/-! ## 3. Facets -/

namespace ListFacet

variable {f : ListFacet} {scene : Scene} (h : ∀ e, f.expression = some e → e.Succeeds scene.store)
  (items : KeySet)
include h

theorem restrict_succeeds : (f.restrict scene items).1.isOk = true := by
  unfold restrict
  cases hf : f.expression with
  | none => rfl
  | some e =>
    have he := h e hf
    dsimp only
    split
    · rfl
    · obtain ⟨found, kept, hfound⟩ : ∃ found kept,
          f.cache.itemsWith scene e f.selection items = (.ok found, kept) := by
        unfold ValueCache.itemsWith
        split
        · exact ⟨_, _, rfl⟩
        · exact ValueCache.ask_succeeds he _ _
      rw [hfound]
      dsimp only
      split
      · obtain ⟨all, kept', hall⟩ := ValueCache.ask_succeeds he kept fun maps =>
          found.union (items.inter maps.missing)
        unfold ValueCache.itemsWithout
        rw [hall]
        rfl
      · rfl

theorem update_succeeds : (f.update scene items).1.isOk = true := by
  unfold update
  cases hf : f.expression with
  | none => rfl
  | some e =>
    have he := h e hf
    obtain ⟨⟨counts, type⟩, kept, hcounts⟩ : ∃ counts kept,
        f.cache.countsOf scene e items = (.ok counts, kept) := by
      unfold ValueCache.countsOf
      split
      · exact ⟨_, _, rfl⟩
      · exact ValueCache.ask_succeeds he _ _
    dsimp only
    rw [hcounts]
    dsimp only
    split
    · obtain ⟨count, kept', hcount⟩ := ValueCache.ask_succeeds he kept fun maps =>
        (items.inter maps.missing).size
      unfold ValueCache.countWithout
      rw [hcount]
      rfl
    · rfl

end ListFacet

namespace AlphaRangeFacet

variable {f : AlphaRangeFacet} {scene : Scene}
  (h : ∀ e, f.expression = some e → e.Succeeds scene.store) (items : KeySet)
include h

theorem restrict_succeeds : (f.restrict scene items).1.isOk = true := by
  unfold restrict
  cases hf : f.expression with
  | none => rfl
  | some e =>
    dsimp only
    split
    · rfl
    · obtain ⟨index, kept, hget⟩ := LocalIndex.get_succeeds (h e hf) f.index place
      rw [hget]
      rfl

theorem update_succeeds : (f.update scene items).1.isOk = true := by
  unfold update
  cases hf : f.expression with
  | none => rfl
  | some e =>
    obtain ⟨index, kept, hget⟩ := LocalIndex.get_succeeds (h e hf) f.index place
    dsimp only
    rw [hget]
    rfl

end AlphaRangeFacet

namespace HierarchicalFacet

variable {f : HierarchicalFacet} {scene : Scene}
  (h : ∀ e, f.expression = some e → e.Succeeds scene.store) (hgrouping : f.grouping = none)
  (items : KeySet)
include h hgrouping

theorem getTree_succeeds : ∃ tree g, f.getTree scene = (.ok tree, g) := by
  unfold getTree
  cases hf : f.expression with
  | none => exact ⟨none, f, rfl⟩
  | some e =>
    cases f.tree with
    | some tree => exact ⟨some tree, f, rfl⟩
    | none =>
      obtain ⟨tree, htree⟩ := Hierarchy.build_succeeds (h e hf)
      dsimp only
      rw [hgrouping, htree]
      exact ⟨some tree, _, rfl⟩

theorem restrict_succeeds : (f.restrict scene items).1.isOk = true := by
  unfold restrict
  split
  · rfl
  · obtain ⟨tree, g, htree⟩ := getTree_succeeds h hgrouping
    rw [htree]
    cases tree <;> rfl

theorem update_succeeds : (f.update scene items).1.isOk = true := by
  unfold update
  obtain ⟨tree, g, htree⟩ := getTree_succeeds h hgrouping
  rw [htree]
  cases tree <;> rfl

end HierarchicalFacet

theorem TextSearchFacet.restrict_succeeds {f : TextSearchFacet} {scene : Scene}
    (h : ∀ e ∈ f.searched.listed, e.Succeeds scene.store) (items : KeySet) :
    (f.restrict scene items).1.isOk = true := by
  have htexts (item : String) : ∃ texts, textsOf f.searched scene.store item = .ok texts := by
    unfold textsOf
    cases hsearched : f.searched with
    | expressions es =>
      rw [hsearched] at h
      obtain ⟨results, hresults⟩ : ∃ results,
          (es.mapM fun e => e.evalOnItem item scene.store) = .ok results :=
        mapM_succeeds fun e he => (h e he).onItem item
      dsimp only
      rw [hresults]
      exact ⟨_, rfl⟩
    | _ => exact ⟨_, rfl⟩
  obtain ⟨built, hbuilt, -⟩ := buildTexts_get? f.searched scene fun item _ => htexts item
  unfold restrict
  cases f.query with
  | none => rfl
  | some query =>
    dsimp only
    split
    · rfl
    · unfold getTexts
      cases f.texts with
      | some texts => rfl
      | none =>
        dsimp only
        rw [hbuilt]
        rfl

theorem DerivedFacet.restrict_succeeds {f : DerivedFacet} {s : Store} (h : f.expression.Succeeds s)
    (items : KeySet) : (f.restrict s items).isOk = true := by
  unfold restrict
  cases f.restriction with
  | none => rfl
  | some allowed =>
    dsimp only
    cases f.expression.path? with
    | some p => rfl
    | none =>
      obtain ⟨results, hresults⟩ := mapM_pairs_succeeds
        fun (item : String) (_ : item ∈ items.toList) => h.onItem item
      dsimp only
      rw [hresults]
      rfl

namespace Facet

/-- May the facet fail although its expressions have values? A numeric range may need too many buckets,
    and a grouping may come to no end. -/
def mayRefuse : Facet → Bool
  | .numericRange _ => true
  | .hierarchical f => f.grouping.isSome
  | _ => false

theorem mayRefuse_plain (f : Facet) : f.plain.mayRefuse = f.mayRefuse := by
  cases f <;> rfl

/-- **A facet works if its expressions succeed**, unless it is of those that may refuse. -/
theorem works_of_succeeds {f : Facet} {scene : Scene} (hrefuse : f.mayRefuse = false)
    (h : ∀ e ∈ f.expressions, e.Succeeds scene.store) : f.Works scene := by
  intro g hplain _ items
  rw [← expressions_plain, ← hplain, expressions_plain] at h
  rw [← mayRefuse_plain, ← hplain, mayRefuse_plain] at hrefuse
  cases g with
  | list g =>
    have hg e (he : g.expression = some e) := h e (Option.mem_toList.mpr he)
    exact ⟨ListFacet.restrict_succeeds hg items, ListFacet.update_succeeds hg items⟩
  | cloud g =>
    have hg e (he : g.list.expression = some e) := h e (Option.mem_toList.mpr he)
    refine ⟨ListFacet.restrict_succeeds hg items, ?_⟩
    have hupdate := ListFacet.update_succeeds hg items
    show (CloudFacet.update g scene items).1.isOk = true
    unfold CloudFacet.update
    generalize g.list.update scene items = answer at hupdate
    obtain ⟨outcome, list⟩ := answer
    cases outcome with
    | ok done => rfl
    | error failure => cases hupdate
  | numericRange g => cases hrefuse
  | alphaRange g =>
    have hg e (he : g.expression = some e) := h e (Option.mem_toList.mpr he)
    exact ⟨AlphaRangeFacet.restrict_succeeds hg items, AlphaRangeFacet.update_succeeds hg items⟩
  | hierarchical g =>
    have hg e (he : g.expression = some e) :=
      h e (List.mem_append_left _ (Option.mem_toList.mpr he))
    have hgrouping : g.grouping = none :=
      Option.isSome_eq_false_iff.mp hrefuse |> Option.isNone_iff_eq_none.mp
    exact ⟨HierarchicalFacet.restrict_succeeds hg hgrouping items,
      HierarchicalFacet.update_succeeds hg hgrouping items⟩
  | textSearch g => exact ⟨TextSearchFacet.restrict_succeeds h items, rfl⟩
  | derived g =>
    exact ⟨DerivedFacet.restrict_succeeds (h g.expression (List.mem_singleton_self _)) items, rfl⟩

end Facet

/-! ## 4. Browsers -/

/-- Are the expressions of the facets and of the source total, and does no facet refuse for another
    reason? -/
def Collection.isTotal (moment : Int) (c : Collection) : Bool :=
  (c.facets.all fun f => !f.mayRefuse && f.expressions.all (Expression.isTotal moment)) &&
  match c.source with
  | .based e _ _ => e.isTotal moment
  | _ => true

/-- **Where all expressions are total everything works**, whatever the data are. -/
theorem Browser.works_of_isTotal {b : Browser}
    (h : b.collections.all (Collection.isTotal b.store.present) = true) : b.Works where
  facets {_ c items} hc _ f hf := by
    obtain ⟨hfacets, -⟩ :=
      Bool.and_eq_true_iff.mp (List.all_eq_true.mp h c (List.mem_of_getElem? hc))
    obtain ⟨hrefuse, htotal⟩ := Bool.and_eq_true_iff.mp (List.all_eq_true.mp hfacets f hf)
    exact Facet.works_of_succeeds (Bool.not_eq_true' _ |>.mp hrefuse) fun e he =>
      Expression.succeeds_of_isTotal (List.all_eq_true.mp htotal e he)
  sources {_ _ _ _ kept} _ _ _ _ c hc e restricting hsource := by
    obtain ⟨-, htotal⟩ := Bool.and_eq_true_iff.mp (List.all_eq_true.mp h c hc)
    rw [hsource] at htotal
    exact (Expression.succeeds_of_isTotal htotal).onItems kept

end Faceted
