import Faceted.Proofs.Collection.Fitting
import Faceted.Proofs.Facet.Bringing
import Faceted.Proofs.Facet.SameSelection

/-!
# States that are taken over

A state is imported by applying it if it differs from the present selection; if not, nothing is done. So a
state that is held to be no different has to select the same. It does, whatever the kind of facet and
however the ranges of the state are ordered or its text is padded, but for one oversight: a list compares
the number of values, and a state may repeat some.

* `NumericRangeFacet.restrict_eq_of_sorted`: the order of ranges makes no difference, failures included;
* `SameSelection.restrict_eq`: facets that export the same let the same items through;
* `ListFacet.Mistakes`: a list takes a state that repeats values for its own selection;
* `SelectsAlike.of_not_differs`: any other state that makes no difference selects the same;
* **`importState_takesOver`**: so importing a state comes to the same as applying it, unless it is
  mistaken.
-/

namespace Faceted

open Faceted.Expression

/-! ## 1. Ranges in another order -/

/-- Whether a range can be looked up along a path depends on the path only. -/
theorem Expression.rangeBackward_cases (s : Store) (hops : List Hop) (inclusive : Bool)
    (filter : Option KeySet) :
    (∃ failure, ∀ low high, (rangeBackward s hops low high inclusive filter).1 = .error failure) ∨
      ∀ low high, ∃ values, (rangeBackward s hops low high inclusive filter).1 = .ok values := by
  unfold rangeBackward
  split
  · exact .inl ⟨_, fun low high => rfl⟩
  · split
    · exact .inr fun low high => ⟨_, rfl⟩
    · exact .inl ⟨_, fun low high => rfl⟩

namespace NumericRangeFacet

variable {f : NumericRangeFacet} {scene : Scene} {e : Expression}

/-- Either no range can be looked up or all of them can. -/
theorem itemsIn_cases (f : NumericRangeFacet) (scene : Scene) (e : Expression) (items : KeySet) :
    (∃ failure, ∀ r, (f.itemsIn scene e r items).1 = .error failure) ∨
      ∀ r, ∃ values, (f.itemsIn scene e r items).1 = .ok values := by
  unfold itemsIn
  split
  · next p _ =>
    rcases rangeBackward_cases scene.store p.hops false (some items) with ⟨failure, hfails⟩ | hsucceeds
    · exact .inl ⟨failure, fun r => hfails r.low r.high⟩
    · exact .inr fun r => hsucceeds r.low r.high
  · simp only [LocalIndex.get_eq]
    cases answering f.index (LocalIndex.build scene e place) with
    | error failure => exact .inl ⟨failure, fun r => rfl⟩
    | ok index => exact .inr fun r => ⟨_, rfl⟩

theorem itemsInAny_eq_ok (he : f.expression = some e) {items : KeySet}
    (h : ∀ r, ∃ values, (f.itemsIn scene e r items).1 = .ok values) (ranges : List RangeSelection)
    (found : KeySet) : ∃ kept, (f.itemsInAny scene e items found ranges).1 = .ok kept := by
  induction ranges generalizing found with
  | nil => exact ⟨found, rfl⟩
  | cons r rest ih =>
    obtain ⟨values, hvalues⟩ := h r
    rw [itemsInAny_cons he, hvalues]
    exact ih _

theorem itemsInAny_eq_error (he : f.expression = some e) {items : KeySet} {failure : Failure}
    (h : ∀ r, (f.itemsIn scene e r items).1 = .error failure) {ranges : List RangeSelection}
    (hsome : ranges.isEmpty = false) (found : KeySet) :
    (f.itemsInAny scene e items found ranges).1 = .error failure := by
  cases ranges with
  | nil => cases hsome
  | cons r rest =>
    rw [itemsInAny_cons he, h r]
    rfl

/-- Ranges in another order let the same items through, or fail alike. -/
theorem restrict_eq_of_sorted {chosen : RangeChoice} {items : KeySet}
    (h : (RangeSelection.sorted f.chosen == RangeSelection.sorted chosen) = true) :
    (f.restrict scene items).1 = (restrict { f with chosen } scene items).1 := by
  have hempty : f.chosen.isEmpty = chosen.isEmpty := RangeChoice.isEmpty_congr h
  have hrestricts : hasRestrictions { f with chosen } = f.hasRestrictions := congrArg not hempty.symm
  -- without restrictions nothing is looked up
  have hnone (hr : f.expression = none ∨ f.hasRestrictions = false) :
      (f.restrict scene items).1 = (restrict { f with chosen } scene items).1 := by
    rw [restrict_of_not_hasRestrictions hr,
      restrict_of_not_hasRestrictions (f := { f with chosen }) (by rwa [hrestricts])]
  rcases Option.eq_none_or_eq_some f.expression with he | ⟨e, he⟩
  · exact hnone (.inl he)
  rcases Bool.eq_false_or_eq_true f.hasRestrictions with hr | hr
  · have hleft : (f.restrict scene items).1 = (f.itemsInAny scene e items ∅ f.chosen).1 :=
      restrict_of_hasRestrictions he hr items
    have hright : (restrict { f with chosen } scene items).1 =
        (itemsInAny { f with chosen } scene e items ∅ chosen).1 :=
      restrict_of_hasRestrictions (f := { f with chosen }) he (hrestricts.trans hr) items
    have hitemsIn (r : RangeSelection) : (itemsIn { f with chosen } scene e r items).1 =
        (f.itemsIn scene e r items).1 := by
      unfold itemsIn
      split <;> rfl
    rcases f.itemsIn_cases scene e items with ⟨failure, hfails⟩ | hsucceeds
    · have hsome : f.chosen.isEmpty = false := by simpa [NumericRangeFacet.hasRestrictions] using hr
      rw [hleft, hright, itemsInAny_eq_error he hfails hsome,
        itemsInAny_eq_error (f := { f with chosen }) he (fun r => (hitemsIn r).trans (hfails r))
          (hempty.symm.trans hsome)]
    · obtain ⟨kept, hkept⟩ := itemsInAny_eq_ok he hsucceeds f.chosen ∅
      obtain ⟨kept', hkept'⟩ := itemsInAny_eq_ok (f := { f with chosen }) he
        (fun r => (hitemsIn r).symm ▸ hsucceeds r) chosen ∅
      have hsame : kept = kept' := restrict_of_sorted h (hleft.trans hkept) (hright.trans hkept')
      rw [hleft, hright, hkept, hkept', hsame]
  · exact hnone (.inr hr)

end NumericRangeFacet

namespace Facet

variable {f g : Facet} {state : FacetState}

/-- With the selection of a facet that exports the same, a facet lets through what it did before. -/
theorem SameSelection.restrict_eq (hfg : f.SameSelection g) (huser : f.isForUser = true) (scene : Scene)
    (items : KeySet) : (f.restrict scene items).1 = ((f.withSelectionOf g).restrict scene items).1 := by
  obtain heq | ⟨n, m, rfl, rfl, h⟩ | ⟨n, m, rfl, rfl, h⟩ | ⟨n, m, rfl, rfl, h⟩ :=
    hfg.withSelectionOf_cases huser
  · rw [heq]
  · exact NumericRangeFacet.restrict_eq_of_sorted h
  · exact AlphaRangeFacet.restrict_of_sorted h
  · exact HierarchicalFacet.restrict_of_sorted h

end Facet

/-! ## 2. Repeated values -/

namespace ListFacet

/-- The list mistakes the state for its own selection: the state has as many values, all of them
    selected, and yet leaves some out because it repeats others. -/
def Mistakes (f : ListFacet) : FacetState → Prop
  | .list selection missing => missing = f.selectMissing ∧ selection.length = f.selection.size ∧
      (∀ v ∈ selection, v ∈ f.selection.toList) ∧ ∃ v ∈ f.selection.toList, v ∉ selection
  | _ => False

instance (f : ListFacet) (state : FacetState) : Decidable (f.Mistakes state) :=
  match state with
  | .list selection missing => inferInstanceAs (Decidable (missing = f.selectMissing ∧
      selection.length = f.selection.size ∧ (∀ v ∈ selection, v ∈ f.selection.toList) ∧
      ∃ v ∈ f.selection.toList, v ∉ selection))
  | .ranges _ | .nodes _ | .text _ => inferInstanceAs (Decidable False)

variable {f : ListFacet} {selection : List String} {missing : Bool}

theorem differs_eq_false_iff : f.differs (.list selection missing) = false ↔
    missing = f.selectMissing ∧ selection.length = f.selection.size ∧
      ∀ v ∈ selection, v ∈ f.selection.toList := by
  simp only [differs, Bool.or_eq_false_iff, bne_eq_false_iff_eq, List.any_eq_false, Bool.not_eq_true',
    Bool.not_eq_false, KeySet.contains_iff, KeySet.mem_toList, and_assoc]

/-- A mistaken state is not noticed, and it is another selection. -/
theorem Mistakes.unnoticed (h : f.Mistakes (.list selection missing)) :
    f.differs (.list selection missing) = false ∧
      ¬ f.exportState.same (f.select (KeySet.ofList selection) missing).2.exportState = true := by
  obtain ⟨hmissing, hlength, hall, v, hv, hleft⟩ := h
  refine ⟨differs_eq_false_iff.mpr ⟨hmissing, hlength, hall⟩, fun hstate => hleft ?_⟩
  have hselection : KeySet.ofList selection = f.selection :=
    congrArg ListFacet.selection (Facet.SameSelection.list_withSelection hstate)
  rwa [← KeySet.mem_ofList, hselection, ← KeySet.mem_toList]

/-- If a state makes no difference to the list and is not mistaken, it is its selection. -/
theorem select_of_not_mistakes (hsame : f.differs (.list selection missing) = false)
    (hnot : ¬ f.Mistakes (.list selection missing)) :
    (f.select (KeySet.ofList selection) missing).2 = f := by
  obtain ⟨hmissing, hlength, hall⟩ := differs_eq_false_iff.mp hsame
  have hselection : KeySet.ofList selection = f.selection := by
    refine KeySet.ext fun v => ?_
    rw [KeySet.mem_ofList, ← KeySet.mem_toList]
    refine ⟨hall v, fun hv => ?_⟩
    by_contra hleft
    exact hnot ⟨hmissing, hlength, hall, v, hv, hleft⟩
  rw [select, hselection, hmissing]

end ListFacet

/-! ## 3. States that make no difference -/

namespace FacetState

/-- Apart from ranges, the same states are equal. -/
theorem eq_of_same {s t : FacetState} (h : s.same t = true) (ht : ∀ xs, t ≠ .ranges xs) : s = t := by
  cases s <;> cases t <;> simp_all [same]

theorem eq_of_same_ranges_nil {s : FacetState} (h : s.same (.ranges []) = true) : s = .ranges [] := by
  cases s with
  | ranges xs => exact congrArg ranges (List.forall₂_nil_right_iff.mp (beq_ranges_iff.mp h))
  | _ => cases h

end FacetState

/-- No query is applied as the empty text, which asks for nothing. -/
theorem TextSearchFacet.queryOf_getD_eq (query : Option String) :
    TextSearchFacet.queryOf (query.getD "") = query.bind TextSearchFacet.queryOf := by
  cases query with
  | none => exact TextSearchFacet.queryOf_getD rfl
  | some text => rw [Option.getD_some, Option.bind_some]

namespace Facet

variable {f g : Facet} {state : FacetState}

/-- The facet is a list or a cloud that mistakes the state for its own selection. -/
def Mistakes : Facet → FacetState → Prop
  | .list f, state => f.Mistakes state
  | .cloud f, state => f.list.Mistakes state
  | _, _ => False

theorem Mistakes.unnoticed (h : f.Mistakes state) (happly : f.apply state = .ok g) :
    f.differs state = false ∧ ¬ f.exportState.same g.exportState = true := by
  cases f with
  | list f =>
    cases state with
    | list selection missing =>
      cases happly
      exact ListFacet.Mistakes.unnoticed h
    | _ => exact h.elim
  | cloud f =>
    cases state with
    | list selection missing =>
      cases happly
      exact ListFacet.Mistakes.unnoticed h
    | _ => exact h.elim
  | _ => exact h.elim

/-- The facets have the same selection as far as it is exported, and let the same items through. -/
structure SelectsAlike (f g : Facet) : Prop where
  state : f.exportState.same g.exportState = true
  restrict : ∀ scene items, (f.restrict scene items).1 = (g.restrict scene items).1

/-- Applying a state changes the selection only. -/
theorem withSelectionOf_apply (happly : f.apply state = .ok g) : f.withSelectionOf g = g := by
  cases f with
  | textSearch f =>
    cases state with
    | text query =>
      cases happly
      simp only [withSelectionOf, TextSearchFacet.setText]
    | _ => cases happly
  | _ =>
    cases state <;> cases happly
    rfl

/-- A facet that exports the same as before a state was applied lets the same items through. -/
theorem SelectsAlike.of_apply (huser : f.isForUser = true) (happly : f.apply state = .ok g)
    (hstate : f.exportState.same g.exportState = true) : f.SelectsAlike g where
  state := hstate
  restrict scene items := by
    have hsame : f.SameSelection g := ⟨(Reselected.apply happly).plain, hstate⟩
    rw [hsame.restrict_eq huser, withSelectionOf_apply happly]

theorem eq_emptyState_of_same (hempty : state.same f.emptyState = true) : state = f.emptyState := by
  cases f with
  | numericRange f => exact FacetState.eq_of_same_ranges_nil hempty
  | alphaRange f => exact FacetState.eq_of_same_ranges_nil hempty
  | _ => exact FacetState.eq_of_same hempty fun _ h => nomatch h

/-- Dropping the selection comes to the same as applying the empty state. -/
theorem SelectsAlike.of_clear (huser : f.isForUser = true) (happly : f.apply state = .ok g)
    (hempty : state.same f.emptyState = true) : f.clear.2.SelectsAlike g := by
  suffices h : g.exportState = f.clear.2.exportState ∧
      ∀ scene items, (f.clear.2.restrict scene items).1 = (g.restrict scene items).1 from
    ⟨h.1 ▸ FacetState.same_refl _, h.2⟩
  rw [eq_emptyState_of_same hempty] at happly
  cases f with
  | derived f => cases huser
  | _ =>
    cases happly
    exact ⟨rfl, fun scene items => rfl⟩

/-- If a state makes no difference to the facet and is not mistaken, applying it makes none either. -/
theorem SelectsAlike.of_not_differs (huser : f.isForUser = true) (happly : f.apply state = .ok g)
    (hsame : f.differs state = false) (hnot : ¬ f.Mistakes state) : f.SelectsAlike g := by
  refine .of_apply huser happly ?_
  have hranges {chosen selected : RangeChoice} (h : selected.differSorted chosen = false) :
      FacetState.same (.ranges (RangeSelection.sorted chosen))
        (.ranges (RangeSelection.sorted selected)) = true :=
    FacetState.same_symm (s := .ranges _) ((Bool.not_eq_false' ..).mp h)
  cases f with
  | list f =>
    cases state with
    | list selection missing =>
      cases happly
      rw [ListFacet.select_of_not_mistakes hsame hnot]
      exact FacetState.same_refl _
    | _ => cases happly
  | cloud f =>
    cases state with
    | list selection missing =>
      cases happly
      rw [ListFacet.select_of_not_mistakes hsame hnot]
      exact FacetState.same_refl _
    | _ => cases happly
  | numericRange f =>
    cases state with
    | ranges selected =>
      cases happly
      exact hranges hsame
    | _ => cases happly
  | alphaRange f =>
    cases state with
    | ranges selected =>
      cases happly
      exact hranges hsame
    | _ => cases happly
  | hierarchical f =>
    cases state with
    | nodes selected =>
      cases happly
      -- the state is what the facet exports, so it is sorted
      have hsorted : NodeSelection.sorted f.selections = selected :=
        eq_of_beq ((Bool.not_eq_false' ..).mp hsame)
      refine beq_iff_eq.mpr ?_
      rw [← hsorted, NodeSelection.sorted_sorted]
    | _ => cases happly
  | textSearch f =>
    cases state with
    | text query =>
      cases happly
      have hquery : query.bind TextSearchFacet.queryOf = f.query := bne_eq_false_iff_eq.mp hsame
      simp only [exportState, TextSearchFacet.exportState, TextSearchFacet.setText, FacetState.same,
        TextSearchFacet.queryOf_getD_eq, hquery, beq_self_eq_true]
    | _ => cases happly
  | derived f => cases huser

/-! ## 4. Importing -/

/-- Apart from a mistaken state, importing comes to the same as applying. -/
theorem importState_selectsAlike (huser : f.isForUser = true) (happly : f.apply state = .ok g)
    (hnot : ¬ f.Mistakes state) :
    ∃ changed f', f.importState state = .ok (changed, f') ∧ f'.SelectsAlike g := by
  unfold importState
  split
  · next hsame =>
    exact ⟨false, f, rfl, .of_not_differs huser happly ((Bool.not_eq_true' _).mp hsame) hnot⟩
  · split
    · next hempty => exact ⟨true, f.clear.2, rfl, .of_clear huser happly hempty⟩
    · refine ⟨true, g, by rw [happly]; rfl, g.exportState.same_refl, fun scene items => rfl⟩

/-- **Importing a state comes to the same as applying it, unless the state is mistaken**: then nothing is
    done, though the state is another selection. -/
theorem importState_takesOver (f : Facet) (state : FacetState) (huser : f.isForUser = true)
    (htakes : f.takes state = true) :
    ∃ changed f' g, f.importState state = .ok (changed, f') ∧ f.apply state = .ok g ∧
      (f'.exportState.same g.exportState = true ↔ ¬ f.Mistakes state) ∧
      (f.Mistakes state → changed = false ∧ f' = f) ∧
      (¬ f.Mistakes state →
        ∀ scene items, (f'.restrict scene items).1 = (g.restrict scene items).1) := by
  rcases f.apply_fits state with ⟨-, g, happly⟩ | ⟨hnot, -⟩
  · by_cases hmistakes : f.Mistakes state
    · obtain ⟨hsame, hother⟩ := hmistakes.unnoticed happly
      have himport : f.importState state = .ok (false, f) := by
        rw [importState, hsame]
        rfl
      exact ⟨false, f, g, himport, happly, iff_of_false hother (not_not_intro hmistakes),
        fun _ => ⟨rfl, rfl⟩, fun hnot => absurd hmistakes hnot⟩
    · obtain ⟨changed, f', himport, halike⟩ := importState_selectsAlike huser happly hmistakes
      exact ⟨changed, f', g, himport, happly, iff_of_true halike.state hmistakes,
        fun h => absurd h hmistakes, fun _ => halike.restrict⟩
  · rw [htakes] at hnot
    cases hnot

/-- The same colours in another order are taken over. -/
theorem importState_reordered :
    (byColour ["grey", "red"]).isForUser = true ∧
      (byColour ["grey", "red"]).takes (.list ["red", "grey"] false) = true ∧
      ¬ (byColour ["grey", "red"]).Mistakes (.list ["red", "grey"] false) ∧
      ∃ changed f' g,
        (byColour ["grey", "red"]).importState (.list ["red", "grey"] false) = .ok (changed, f') ∧
        (byColour ["grey", "red"]).apply (.list ["red", "grey"] false) = .ok g ∧
        ∀ scene items, (f'.restrict scene items).1 = (g.restrict scene items).1 := by
  have hnot : ¬ (byColour ["grey", "red"]).Mistakes (.list ["red", "grey"] false) := by
    rintro ⟨-, -, -, v, hv, hleft⟩
    simp at hv hleft
    tauto
  obtain ⟨changed, f', g, himport, happly, -, -, hrestrict⟩ :=
    importState_takesOver (byColour ["grey", "red"]) (.list ["red", "grey"] false) rfl rfl
  exact ⟨rfl, rfl, hnot, changed, f', g, himport, happly, hrestrict hnot⟩

/-- **A colour said twice passes for two colours**: the state is not taken over, and both plants stay
    where one of them should. -/
theorem importState_repeated :
    (byColour ["grey", "red"]).takes (.list ["grey", "grey"] false) = true ∧
      (byColour ["grey", "red"]).importState (.list ["grey", "grey"] false) =
        .ok (false, byColour ["grey", "red"]) ∧
      ((byColour ["grey", "red"]).restrict garden garden.allItems).1 =
        .ok (KeySet.ofList ["ash", "rose"]) ∧
      ∃ g, (byColour ["grey", "red"]).apply (.list ["grey", "grey"] false) = .ok g ∧
        (g.restrict garden garden.allItems).1 = .ok (KeySet.ofList ["ash"]) :=
  ⟨rfl, rfl, rfl, _, rfl, rfl⟩

end Facet

end Faceted
