import Faceted.Proofs.Facet.Itemwise
import Faceted.Proofs.Facet.Reselected
import Faceted.Proofs.Facet.Sameness
import Faceted.Proofs.KeySet.Sizes

/-!
# Facets with the same selection

Ranges and nodes are selected in some order, and are sorted when a selection is exported. So two facets
may have the same selection without being equal. They let the same items through nevertheless.

* `RangeIndex.itemsBetween_congr`: ranges with the same ends hold the same items;
* `Facet.SameSelection`: two facets that are set up alike export the same state;
* **`SameSelection.restrict`**: what they let through is the same;
* **`importState_exported`**: a facet takes over what another one exported that is set up alike, and then
  has the same selection.
-/

namespace Faceted

open Faceted.Expression

/-! ## 1. Ranges with the same ends -/

theorem RangeIndex.itemsBetween_congr {low low' high high' : RangeValue}
    (hlow : low.same low' = true) (hhigh : high.same high' = true) (index : RangeIndex)
    (inclusive : Bool) :
    index.itemsBetween low high inclusive = index.itemsBetween low' high' inclusive := by
  have hbefore (v : RangeValue) : v.before low = v.before low' :=
    RangeValue.before_congr v.same_refl hlow
  have hreaches (v : RangeValue) : reaches high inclusive v = reaches high' inclusive v := by
    unfold reaches
    rw [RangeValue.before_congr v.same_refl hhigh, RangeValue.same_congr v.same_refl hhigh]
  unfold itemsBetween between
  simp only [hbefore, hreaches]

theorem RangeIndex.subjectsBetween_congr {r r' : RangeSelection} (h : r.same r' = true)
    (index : RangeIndex) (inclusive : Bool) (into : KeySet) (filter : Option KeySet) :
    index.subjectsBetween r.low r.high inclusive into filter =
      index.subjectsBetween r'.low r'.high inclusive into filter := by
  obtain ⟨hlow, hhigh⟩ := Bool.and_eq_true_iff.mp h
  unfold subjectsBetween
  rw [itemsBetween_congr hlow hhigh]

theorem rangeBackward_congr {r r' : RangeSelection} (h : r.same r' = true) (s : Store)
    (hops : List Hop) (inclusive : Bool) (filter : Option KeySet) :
    rangeBackward s hops r.low r.high inclusive filter =
      rangeBackward s hops r'.low r'.high inclusive filter := by
  have hsubjects (property : String) (filter : Option KeySet) :
      s.subjectsInRange property r.low r.high inclusive ∅ filter =
        s.subjectsInRange property r'.low r'.high inclusive ∅ filter := by
    unfold Store.subjectsInRange
    split
    · rw [RangeIndex.subjectsBetween_congr h]
    · rfl
  unfold rangeBackward
  simp only [hsubjects]

/-- Every range of the one choice has its like in the other. -/
theorem RangeChoice.exists_same {chosen chosen' : RangeChoice}
    (h : (RangeSelection.sorted chosen == RangeSelection.sorted chosen') = true)
    {r : RangeSelection} (hr : r ∈ chosen) : ∃ r' ∈ chosen', r.same r' = true := by
  obtain ⟨r', hr', hsame⟩ :=
    forall₂_mem (FacetState.beq_ranges_iff.mp h) (RangeSelection.mem_sorted.mpr hr)
  exact ⟨r', RangeSelection.mem_sorted.mp hr', hsame⟩

theorem RangeChoice.isEmpty_congr {chosen chosen' : RangeChoice}
    (h : (RangeSelection.sorted chosen == RangeSelection.sorted chosen') = true) :
    chosen.isEmpty = chosen'.isEmpty := by
  have hlength := (FacetState.beq_ranges_iff.mp h).length_eq
  unfold RangeSelection.sorted at hlength
  rw [List.length_mergeSort, List.length_mergeSort] at hlength
  exact Faceted.isEmpty_congr hlength

namespace NumericRangeFacet

variable {f : NumericRangeFacet} {scene : Scene} {e : Expression}

theorem itemsIn_congr_same {r r' : RangeSelection} (h : r.same r' = true) (items : KeySet) :
    (f.itemsIn scene e r items).1 = (f.itemsIn scene e r' items).1 := by
  unfold itemsIn
  cases e.path? with
  | some p => simp only [rangeBackward_congr h]
  | none => simp only [RangeIndex.subjectsBetween_congr h]

/-- What several ranges let through, range by range. -/
theorem mem_itemsInAny (he : f.expression = some e) {ranges : List RangeSelection}
    {items found kept : KeySet} (h : (f.itemsInAny scene e items found ranges).1 = .ok kept)
    {x : String} : x ∈ kept ↔ x ∈ found ∨
      ∃ r ∈ ranges, ∃ values, (f.itemsIn scene e r items).1 = .ok values ∧ x ∈ values.toSet := by
  induction ranges generalizing found with
  | nil =>
    cases h
    simp
  | cons r rest ih =>
    rw [itemsInAny_cons he] at h
    cases hr : (f.itemsIn scene e r items).1 with
    | error failure =>
      rw [hr] at h
      cases h
    | ok values =>
      rw [hr] at h
      rw [ih h, KeySet.mem_union, or_assoc, List.exists_mem_cons_iff, hr]
      simp

theorem restrict_of_hasRestrictions (he : f.expression = some e) (hr : f.hasRestrictions = true)
    (items : KeySet) :
    (f.restrict scene items).1 = (f.itemsInAny scene e items ∅ f.chosen).1 := by
  simp only [restrict, he, hr, if_true]

theorem restrict_of_not_hasRestrictions (hr : f.expression = none ∨ f.hasRestrictions = false)
    (items : KeySet) : (f.restrict scene items).1 = .ok items := by
  unfold restrict
  rcases hr with hr | hr
  · simp only [hr]
  · cases f.expression <;> simp [hr]

/-- The order in which ranges were chosen makes no difference. -/
theorem restrict_of_sorted {chosen : RangeChoice} {items kept kept' : KeySet}
    (h : (RangeSelection.sorted f.chosen == RangeSelection.sorted chosen) = true)
    (hkept : (f.restrict scene items).1 = .ok kept)
    (hkept' : (restrict { f with chosen } scene items).1 = .ok kept') : kept = kept' := by
  have hback := FacetState.beq_ranges_iff.mpr
    ((FacetState.beq_ranges_iff.mp h).imp fun _ _ hsame => RangeSelection.same_symm hsame).flip
  have hrestricts : hasRestrictions { f with chosen } = f.hasRestrictions :=
    congrArg not (RangeChoice.isEmpty_congr h).symm
  have hnone (hr : f.expression = none ∨ f.hasRestrictions = false) : kept = kept' := by
    rw [restrict_of_not_hasRestrictions hr] at hkept
    rw [restrict_of_not_hasRestrictions (f := { f with chosen }) (by rwa [hrestricts])] at hkept'
    exact Except.ok.inj (hkept.symm.trans hkept')
  cases he : f.expression with
  | none => exact hnone (.inl he)
  | some e =>
    cases hr : f.hasRestrictions with
    | false => exact hnone (.inr hr)
    | true =>
      rw [restrict_of_hasRestrictions he hr] at hkept
      rw [restrict_of_hasRestrictions (f := { f with chosen }) he (hrestricts.trans hr)] at hkept'
      have hitemsIn (r : RangeSelection) : (itemsIn { f with chosen } scene e r items).1 =
          (f.itemsIn scene e r items).1 := by
        unfold itemsIn
        split <;> rfl
      refine KeySet.ext fun x => ?_
      rw [mem_itemsInAny he hkept, mem_itemsInAny (f := { f with chosen }) he hkept']
      simp only [hitemsIn]
      refine or_congr_right ⟨?_, ?_⟩
      · rintro ⟨r, hr, values, hvalues, hx⟩
        obtain ⟨r', hr', hsame⟩ := RangeChoice.exists_same h hr
        exact ⟨r', hr', values, (itemsIn_congr_same hsame items).symm.trans hvalues, hx⟩
      · rintro ⟨r, hr, values, hvalues, hx⟩
        obtain ⟨r', hr', hsame⟩ := RangeChoice.exists_same hback hr
        exact ⟨r', hr', values, (itemsIn_congr_same hsame items).symm.trans hvalues, hx⟩

end NumericRangeFacet

namespace AlphaRangeFacet

variable {f : AlphaRangeFacet} {scene : Scene}

theorem endAfter_congr {a b : RangeValue} (h : a.same b = true) : endAfter a = endAfter b := by
  cases a <;> cases b <;> simp_all [RangeValue.same, endAfter, letter?]

theorem mem_foldl_itemsIn {index : RangeIndex} {items : KeySet} {ranges : RangeChoice}
    {into : KeySet} {x : String} :
    x ∈ ranges.foldl (fun set r => itemsIn index r.low r.high set items) into ↔
      x ∈ into ∨ ∃ r ∈ ranges, x ∈ itemsIn index r.low r.high ∅ items := by
  induction ranges generalizing into with
  | nil => simp
  | cons r rest ih =>
    have hr : x ∈ itemsIn index r.low r.high into items ↔
        x ∈ into ∨ x ∈ itemsIn index r.low r.high ∅ items := by
      simp only [itemsIn, RangeIndex.mem_subjectsBetween, KeySet.not_mem_emptySet, false_or]
    rw [List.foldl_cons, ih, hr, or_assoc, List.exists_mem_cons_iff]

theorem restrict_of_sorted {chosen : RangeChoice} {items : KeySet}
    (h : (RangeSelection.sorted f.chosen == RangeSelection.sorted chosen) = true) :
    (f.restrict scene items).1 = (restrict { f with chosen } scene items).1 := by
  have hback := FacetState.beq_ranges_iff.mpr
    ((FacetState.beq_ranges_iff.mp h).imp fun _ _ hsame => RangeSelection.same_symm hsame).flip
  have hitemsIn {r r' : RangeSelection} (hsame : r.same r' = true) (index : RangeIndex) :
      itemsIn index r.low r.high ∅ items = itemsIn index r'.low r'.high ∅ items := by
    obtain ⟨hlow, hhigh⟩ := Bool.and_eq_true_iff.mp hsame
    unfold itemsIn RangeIndex.subjectsBetween
    rw [endAfter_congr hhigh, RangeIndex.itemsBetween_congr hlow (endAfter r'.high).same_refl]
  have hfold (index : RangeIndex) :
      f.chosen.foldl (fun set r => itemsIn index r.low r.high set items) ∅ =
        chosen.foldl (fun set r => itemsIn index r.low r.high set items) ∅ := by
    refine KeySet.ext fun x => ?_
    rw [mem_foldl_itemsIn, mem_foldl_itemsIn]
    refine or_congr_right ⟨?_, ?_⟩
    · rintro ⟨r, hr, hx⟩
      obtain ⟨r', hr', hsame⟩ := RangeChoice.exists_same h hr
      exact ⟨r', hr', hitemsIn hsame index ▸ hx⟩
    · rintro ⟨r, hr, hx⟩
      obtain ⟨r', hr', hsame⟩ := RangeChoice.exists_same hback hr
      exact ⟨r', hr', hitemsIn hsame index ▸ hx⟩
  unfold restrict hasRestrictions
  simp only [RangeChoice.isEmpty_congr h, hfold]
  split
  · rfl
  · split <;> rfl

end AlphaRangeFacet

theorem NodeSelection.isEmpty_congr {nodes nodes' : List NodeSelection}
    (h : sorted nodes = sorted nodes') : nodes.isEmpty = nodes'.isEmpty := by
  have hlength := congrArg List.length h
  unfold sorted at hlength
  rw [List.length_mergeSort, List.length_mergeSort] at hlength
  exact Faceted.isEmpty_congr hlength

namespace HierarchicalFacet

variable {f : HierarchicalFacet} {scene : Scene}

theorem restrict_of_sorted {selections : List NodeSelection} {items : KeySet}
    (h : NodeSelection.sorted f.selections = NodeSelection.sorted selections) :
    (f.restrict scene items).1 = (restrict { f with selections } scene items).1 := by
  have hmem (n : NodeSelection) : n ∈ f.selections ↔ n ∈ selections := by
    rw [← NodeSelection.mem_sorted, h, NodeSelection.mem_sorted]
  have hempty := NodeSelection.isEmpty_congr h
  have hfold (tree : Hierarchy) :
      f.selections.foldl (fun (set : KeySet) n => set.union ((itemsOf tree n).inter items)) ∅ =
        selections.foldl (fun (set : KeySet) n => set.union ((itemsOf tree n).inter items)) ∅ := by
    refine KeySet.ext fun x => ?_
    rw [KeySet.mem_foldl_union, KeySet.mem_foldl_union]
    simp only [hmem]
  rcases Option.eq_none_or_eq_some f.expression with he | ⟨e, he⟩
  · simp [restrict, getTree, he, hasRestrictions, hempty]
  · rw [restrict_fst he, restrict_fst (f := { f with selections }) he]
    simp only [hasRestrictions, hempty, hfold]
    rfl

end HierarchicalFacet

/-! ## 2. The same selection -/

namespace KeySet

@[simp] theorem ofList_toList (s : KeySet) : ofList s.toList = s := ext fun x => by
  rw [mem_ofList, mem_toList]

/-- A set of the same size that has all the values is the same set. -/
theorem eq_of_length {s t : KeySet} (hlength : s.toList.length = t.size)
    (hsub : ∀ x ∈ s.toList, t.contains x = true) : s = t :=
  (eq_iff_size_eq fun x hx => contains_iff.mp (hsub x hx)).mpr hlength

end KeySet

namespace Facet

variable {scene scene' : Scene} {f g h : Facet}

/-- The facet with the selection of another one of its kind. -/
def withSelectionOf (f g : Facet) : Facet :=
  match f, g with
  | .list f, .list g =>
    .list { f with selection := g.selection, selectMissing := g.selectMissing }
  | .cloud f, .cloud g =>
    .cloud { f with list := { f.list with
      selection := g.list.selection, selectMissing := g.list.selectMissing } }
  | .numericRange f, .numericRange g => .numericRange { f with chosen := g.chosen }
  | .alphaRange f, .alphaRange g => .alphaRange { f with chosen := g.chosen }
  | .hierarchical f, .hierarchical g => .hierarchical { f with selections := g.selections }
  | .textSearch f, .textSearch g => .textSearch { f with query := g.query }
  | .derived f, .derived g => .derived { f with restriction := g.restriction }
  | f, _ => f

/-- Two facets that are set up alike are told apart by their selections. -/
theorem bare_withSelectionOf (hplain : f.plain = g.plain) : (f.withSelectionOf g).bare = g.bare := by
  cases f <;> cases g <;> simp only [plain, bare, clear, reduceCtorEq, list.injEq, cloud.injEq,
    numericRange.injEq, alphaRange.injEq, hierarchical.injEq, textSearch.injEq,
    derived.injEq] at hplain
  · next f g =>
    have hbare := congrArg (fun l : ListFacet => Facet.list { l with
      selection := g.selection, selectMissing := g.selectMissing }) hplain
    exact hbare
  · next f g =>
    have hbare := congrArg (fun c : CloudFacet => Facet.cloud { c with list := { c.list with
      selection := g.list.selection, selectMissing := g.list.selectMissing } }) hplain
    exact hbare
  · next f g =>
    have hbare := congrArg
      (fun n : NumericRangeFacet => Facet.numericRange { n with chosen := g.chosen }) hplain
    exact hbare
  · next f g =>
    have hbare := congrArg
      (fun n : AlphaRangeFacet => Facet.alphaRange { n with chosen := g.chosen }) hplain
    exact hbare
  · next f g =>
    have hbare := congrArg
      (fun n : HierarchicalFacet => Facet.hierarchical { n with selections := g.selections }) hplain
    exact hbare
  · next f g =>
    have hbare := congrArg
      (fun t : TextSearchFacet => Facet.textSearch { t with query := g.query }) hplain
    exact hbare
  · next f g =>
    have hbare := congrArg
      (fun d : DerivedFacet => Facet.derived { d with restriction := g.restriction }) hplain
    exact hbare

theorem sameMemo_withSelectionOf (f g : Facet) : f.SameMemo (f.withSelectionOf g) := by
  cases f <;> cases g <;> first
    | exact .refl _
    | exact .list rfl rfl
    | exact .cloud rfl rfl
    | exact .numericRange rfl rfl
    | exact .alphaRange rfl rfl
    | exact .hierarchical rfl rfl rfl
    | exact .textSearch rfl rfl
    | exact .derived _ _

/-- The facets are set up alike, and what they have selected is exported as the same state. -/
structure SameSelection (f g : Facet) : Prop where
  plain : f.plain = g.plain
  state : f.exportState.same g.exportState = true

namespace SameSelection

theorem of_bare (hfg : f.bare = g.bare) : f.SameSelection g where
  plain := congrArg (fun f : Facet => f.clear.2) hfg
  state := by
    rw [← exportState_bare f, hfg, exportState_bare]
    exact g.exportState.same_refl

theorem refl (f : Facet) : f.SameSelection f := of_bare rfl

theorem symm (hfg : f.SameSelection g) : g.SameSelection f :=
  ⟨hfg.plain.symm, FacetState.same_symm hfg.state⟩

theorem trans (hfg : f.SameSelection g) (hgh : g.SameSelection h) : f.SameSelection h :=
  ⟨hfg.plain.trans hgh.plain, FacetState.same_trans hfg.state hgh.state⟩

/-- A list with the selection of another that exports the same is the list itself. -/
theorem list_withSelection {f g : ListFacet} (hstate : f.exportState.same g.exportState = true) :
    { f with selection := g.selection, selectMissing := g.selectMissing } = f := by
  simp only [ListFacet.exportState, FacetState.same, Bool.and_eq_true, beq_iff_eq] at hstate
  obtain ⟨hkeys, hmissing⟩ := hstate
  have hselection : f.selection = g.selection := KeySet.ext fun x => by
    rw [← KeySet.mem_toList, hkeys, KeySet.mem_toList]
  rw [← hselection, ← hmissing]

/-- Apart from ranges and nodes, a facet that a user acts on already has the selection of another one
    that exports the same. -/
theorem withSelectionOf_cases (hfg : f.SameSelection g) (huser : f.isForUser = true) :
    f.withSelectionOf g = f ∨
    (∃ n m, f = .numericRange n ∧ g = .numericRange m ∧
      (RangeSelection.sorted n.chosen == RangeSelection.sorted m.chosen) = true) ∨
    (∃ n m, f = .alphaRange n ∧ g = .alphaRange m ∧
      (RangeSelection.sorted n.chosen == RangeSelection.sorted m.chosen) = true) ∨
    ∃ n m, f = .hierarchical n ∧ g = .hierarchical m ∧
      NodeSelection.sorted n.selections = NodeSelection.sorted m.selections := by
  obtain ⟨-, hstate⟩ := hfg
  cases f with
  | list f =>
    cases g with
    | list g => exact .inl (congrArg Facet.list (list_withSelection hstate))
    | _ => exact .inl rfl
  | cloud f =>
    cases g with
    | cloud g =>
      exact .inl (congrArg (fun list => Facet.cloud { f with list }) (list_withSelection hstate))
    | _ => exact .inl rfl
  | numericRange f =>
    cases g with
    | numericRange g => exact .inr (.inl ⟨f, g, rfl, rfl, hstate⟩)
    | _ => exact .inl rfl
  | alphaRange f =>
    cases g with
    | alphaRange g => exact .inr (.inr (.inl ⟨f, g, rfl, rfl, hstate⟩))
    | _ => exact .inl rfl
  | hierarchical f =>
    cases g with
    | hierarchical g => exact .inr (.inr (.inr ⟨f, g, rfl, rfl, eq_of_beq hstate⟩))
    | _ => exact .inl rfl
  | textSearch f =>
    cases g with
    | textSearch g =>
      have hquery : f.query = g.query := eq_of_beq hstate
      exact .inl (by simp only [withSelectionOf, ← hquery])
    | _ => exact .inl rfl
  | derived f => cases huser

theorem hasRestrictions (hfg : f.SameSelection g) (huser : f.isForUser = true) :
    f.hasRestrictions = g.hasRestrictions := by
  rw [← hasRestrictions_bare g, ← bare_withSelectionOf hfg.plain, hasRestrictions_bare]
  obtain heq | ⟨n, m, rfl, rfl, h⟩ | ⟨n, m, rfl, rfl, h⟩ | ⟨n, m, rfl, rfl, h⟩ :=
    hfg.withSelectionOf_cases huser
  · rw [heq]
  · exact congrArg not (RangeChoice.isEmpty_congr h)
  · exact congrArg not (RangeChoice.isEmpty_congr h)
  · exact congrArg not (NodeSelection.isEmpty_congr h)

/-- With the selection of the other, the facet lets through what it did before. -/
theorem restrict_withSelectionOf (hfg : f.SameSelection g) (huser : f.isForUser = true)
    {items kept kept' : KeySet} (hkept : (f.restrict scene items).1 = .ok kept)
    (hkept' : ((f.withSelectionOf g).restrict scene items).1 = .ok kept') : kept = kept' := by
  obtain heq | ⟨n, m, rfl, rfl, h⟩ | ⟨n, m, rfl, rfl, h⟩ | ⟨n, m, rfl, rfl, h⟩ :=
    hfg.withSelectionOf_cases huser
  · rw [heq] at hkept'
    exact Except.ok.inj (hkept.symm.trans hkept')
  · exact NumericRangeFacet.restrict_of_sorted h hkept hkept'
  · exact Except.ok.inj
      (hkept.symm.trans ((AlphaRangeFacet.restrict_of_sorted h).trans hkept'))
  · exact Except.ok.inj
      (hkept.symm.trans ((HierarchicalFacet.restrict_of_sorted h).trans hkept'))

/-- **Facets with the same selection let the same items through.** -/
theorem restrict (hfg : f.SameSelection g) (huser : f.isForUser = true) (hs : scene.Alike scene')
    (hf : f.Fresh scene) (hg : g.Fresh scene') {items kept kept' : KeySet}
    (hkept : (f.restrict scene items).1 = .ok kept)
    (hkept' : (g.restrict scene' items).1 = .ok kept') : kept = kept' := by
  refine hfg.restrict_withSelectionOf huser hkept ?_
  rw [← hkept']
  exact restrict_congr (hs.alikeFor _) (settled_of_bare hs ((sameMemo_withSelectionOf f g).fresh hf) hg
    (bare_withSelectionOf hfg.plain)) items

end SameSelection

/-! ## 3. Taking over what was exported -/

theorem exportState_clear (f : Facet) : f.clear.2.exportState = f.emptyState := by
  have hranges : RangeSelection.sorted [] = [] := List.mergeSort_nil
  have hnodes : NodeSelection.sorted [] = [] := List.mergeSort_nil
  cases f with
  | numericRange f => exact congrArg FacetState.ranges hranges
  | alphaRange f => exact congrArg FacetState.ranges hranges
  | hierarchical f => exact congrArg FacetState.nodes hnodes
  | _ => rfl

/-- A list that does not differ from a selection has it. -/
theorem exportState_of_not_differs_list {f : ListFacet} {selection : KeySet} {missing : Bool}
    (h : f.differs (.list selection.toList missing) = false) :
    f.exportState = .list selection.toList missing := by
  simp only [ListFacet.differs, Bool.or_eq_false_iff, bne_eq_false_iff_eq, List.any_eq_false,
    Bool.not_eq_true', Bool.not_eq_false] at h
  obtain ⟨⟨hmissing, hlength⟩, hall⟩ := h
  have hselection : selection = f.selection := KeySet.eq_of_length hlength hall
  unfold ListFacet.exportState
  rw [hmissing, hselection]

/-- A state that another facet has exported is taken over. -/
theorem apply_exported (hplain : f.plain = g.plain) (htrimmed : g.Trimmed) :
    ∃ f', f.apply g.exportState = .ok f' ∧ f'.exportState = g.exportState := by
  cases f <;> cases g <;> simp only [Facet.plain, bare, clear, reduceCtorEq] at hplain <;>
    refine ⟨_, rfl, ?_⟩
  · next f g => simp [exportState, ListFacet.exportState, ListFacet.select]
  · next f g => simp [exportState, ListFacet.exportState, ListFacet.select]
  · next f g => exact congrArg FacetState.ranges (RangeSelection.sorted_sorted g.chosen)
  · next f g => exact congrArg FacetState.ranges (RangeSelection.sorted_sorted g.chosen)
  · next f g => exact congrArg FacetState.nodes (NodeSelection.sorted_sorted g.selections)
  · next f g =>
    have htrimmed : g.query.bind TextSearchFacet.queryOf = g.query := htrimmed
    have hquery := TextSearchFacet.queryOf_getD htrimmed
    simp only [exportState, TextSearchFacet.exportState, TextSearchFacet.setText, hquery]
  · next f g => simp [exportState, DerivedFacet.exportState]

theorem same_of_not_differs (hplain : f.plain = g.plain) (htrimmed : g.Trimmed)
    (h : f.differs g.exportState = false) : f.exportState.same g.exportState = true := by
  have hranges {xs ys : List RangeSelection}
      (hdiffers : RangeChoice.differSorted (RangeSelection.sorted ys) xs = false) :
      FacetState.same (.ranges (RangeSelection.sorted xs)) (.ranges (RangeSelection.sorted ys)) =
        true := by
    unfold RangeChoice.differSorted RangeChoice.differ at hdiffers
    rw [RangeSelection.sorted_sorted, Bool.not_eq_false'] at hdiffers
    exact FacetState.same_symm (s := .ranges _) hdiffers
  cases f <;> cases g <;> simp only [Facet.plain, bare, clear, reduceCtorEq] at hplain
  · next f g =>
    have hstate : (list f).exportState = (list g).exportState := exportState_of_not_differs_list h
    rw [hstate]
    exact FacetState.same_refl _
  · next f g =>
    have hstate : (cloud f).exportState = (cloud g).exportState := exportState_of_not_differs_list h
    rw [hstate]
    exact FacetState.same_refl _
  · exact hranges h
  · exact hranges h
  · exact (Bool.not_eq_false' ..).mp h
  · next f g =>
    have hself : g.query.bind TextSearchFacet.queryOf = g.query := htrimmed
    have hquery : (g.query.bind TextSearchFacet.queryOf != f.query) = false := h
    rw [hself, bne_eq_false_iff_eq] at hquery
    exact beq_iff_eq.mpr hquery.symm
  · exact (Bool.not_eq_false' ..).mp h

/-- **A facet takes over what another one exported**, and then has the same selection. -/
theorem importState_exported (hplain : f.plain = g.plain) (htrimmed : g.Trimmed) :
    ∃ changed f', f.importState g.exportState = .ok (changed, f') ∧ f'.SameSelection g := by
  suffices h : ∃ changed f', f.importState g.exportState = .ok (changed, f') ∧
      f'.exportState.same g.exportState = true by
    obtain ⟨changed, f', himport, hstate⟩ := h
    exact ⟨changed, f', himport, (Reselected.importState himport).plain.symm.trans hplain, hstate⟩
  unfold importState
  split
  · next hdiffers =>
    exact ⟨false, f, rfl, same_of_not_differs hplain htrimmed (by simpa using hdiffers)⟩
  · split
    · next hempty =>
      refine ⟨true, f.clear.2, rfl, ?_⟩
      rw [exportState_clear]
      exact FacetState.same_symm hempty
    · obtain ⟨f', happly, hstate⟩ := apply_exported hplain htrimmed
      refine ⟨true, f', by rw [happly]; rfl, ?_⟩
      rw [hstate]
      exact FacetState.same_refl _

end Facet

end Faceted
