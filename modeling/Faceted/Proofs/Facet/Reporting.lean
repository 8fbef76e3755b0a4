import Faceted.Proofs.Facet.TakingOver

/-!
# What an import reports

Importing a state reports whether it changed the selection. The report is the outcome of a comparison
that is made before anything is done, and that looks at the state as it is written. A state can be
written in several ways; what a facet exports afterwards is one of them (`FacetState.normal`).

* `FacetState.IsTidy`: no value of a list stands twice, and nodes stand in their order. How ranges are
  ordered and texts are padded makes no difference to the comparison;
* `exportState_of_import`: whatever was selected before, the state is exported as `normal`;
* `differs_iff_not_tidy`: a state that says what is selected passes for another exactly if it is untidy;
* **`importState_reports`**: so a change is reported exactly if there is one, unless the state is untidy
  and says what is selected; and once imported, only an untidy state is reported again.
-/

namespace Faceted

/-! ## 1. Ways to write a state -/

namespace FacetState

/-- The state as a facet exports it that has taken it over. -/
def normal : FacetState → FacetState
  | .list selection missing => .list (KeySet.ofList selection).toList missing
  | .ranges selected => .ranges (RangeSelection.sorted selected)
  | .nodes selected => .nodes (NodeSelection.sorted selected)
  | .text query => .text (query.bind TextSearchFacet.queryOf)

/-- No value of a list stands twice, and nodes stand in their order. -/
def IsTidy : FacetState → Prop
  | .list selection _ => selection.Nodup
  | .nodes selected => NodeSelection.sorted selected = selected
  | .ranges _ | .text _ => True

instance (state : FacetState) : Decidable state.IsTidy :=
  match state with
  | .list selection _ => inferInstanceAs (Decidable selection.Nodup)
  | .nodes selected => inferInstanceAs (Decidable (NodeSelection.sorted selected = selected))
  | .ranges _ | .text _ => inferInstanceAs (Decidable True)

end FacetState

theorem NodeSelection.sorted_pair {a b : NodeSelection} (h : a.le b = false) :
    NodeSelection.sorted [a, b] = [b, a] := by
  simp [NodeSelection.sorted, List.mergeSort, h]

/-- As many values as there are different ones: none stands twice. -/
theorem KeySet.length_eq_size_iff {ks : List String} : ks.length = (ofList ks).size ↔ ks.Nodup := by
  rw [size_ofList, eq_comm, ← List.dedup_eq_self]
  exact ⟨ks.dedup_sublist.eq_of_length, congrArg List.length⟩

/-- A list that has the values selected takes them for others exactly if one of them stands twice. -/
theorem ListFacet.differs_iff_not_nodup {f : ListFacet} {selection : List String} {missing : Bool}
    (hstate : f.exportState.same (FacetState.normal (.list selection missing)) = true) :
    f.differs (.list selection missing) = true ↔ ¬ selection.Nodup := by
  obtain ⟨hselected, hmissing⟩ : f.selection = KeySet.ofList selection ∧ f.selectMissing = missing := by
    simp only [exportState, FacetState.normal, FacetState.same, Bool.and_eq_true, beq_iff_eq] at hstate
    exact ⟨KeySet.ext fun v => by rw [← KeySet.mem_toList, hstate.1, KeySet.mem_toList], hstate.2⟩
  rw [← Bool.not_eq_false, not_iff_not, differs_eq_false_iff, hselected, ← KeySet.length_eq_size_iff]
  refine ⟨fun h => h.2.1, fun hlength => ⟨hmissing.symm, hlength, fun v hv => ?_⟩⟩
  rwa [KeySet.mem_toList, KeySet.mem_ofList]

/-! ## 2. Importing -/

namespace Facet

variable {f g : Facet} {state : FacetState}

/-- What has been applied is exported, whatever was selected before. -/
theorem exportState_of_apply (huser : f.isForUser = true) (happly : f.apply state = .ok g) :
    g.exportState = state.normal := by
  cases f with
  | derived f => cases huser
  | textSearch f =>
    cases state with
    | text query =>
      cases happly
      simp only [exportState, TextSearchFacet.exportState, TextSearchFacet.setText,
        TextSearchFacet.queryOf_getD_eq, FacetState.normal]
    | _ => cases happly
  | _ =>
    cases state <;> cases happly
    rfl

/-- What an import that succeeds comes to: the facet as it is, cleared, or with the state applied. -/
theorem importState_eq_ok {changed : Bool} (h : f.importState state = .ok (changed, g)) :
    f.differs state = changed ∧
      (changed = true → state.same f.emptyState = true ∧ g = f.clear.2 ∨ f.apply state = .ok g) := by
  unfold importState at h
  cases hdiffers : f.differs state with
  | false =>
    rw [hdiffers] at h
    cases h
    exact ⟨rfl, Bool.noConfusion⟩
  | true =>
    rw [hdiffers] at h
    cases hempty : state.same f.emptyState with
    | true =>
      rw [hempty] at h
      cases h
      exact ⟨rfl, fun _ => .inl ⟨rfl, rfl⟩⟩
    | false =>
      rw [hempty] at h
      cases happly : f.apply state <;> rw [happly] at h <;> cases h
      exact ⟨rfl, fun _ => .inr rfl⟩

theorem takes_of_import {answer : Bool × Facet} (h : f.importState state = .ok answer) :
    f.takes state = true := by
  rcases f.importState_fits state with ⟨htakes, -⟩ | ⟨-, hfails⟩
  · exact htakes
  · cases hfails.symm.trans h

theorem normal_emptyState (f : Facet) : f.emptyState.normal = f.emptyState := by
  have hranges : RangeSelection.sorted [] = [] := List.mergeSort_nil
  have hnodes : NodeSelection.sorted [] = [] := List.mergeSort_nil
  cases f with
  | numericRange f => exact congrArg FacetState.ranges hranges
  | alphaRange f => exact congrArg FacetState.ranges hranges
  | hierarchical f => exact congrArg FacetState.nodes hnodes
  | _ => rfl

/-- **After an import that reports a change the state is exported**, as a facet exports it. -/
theorem exportState_of_import (huser : f.isForUser = true)
    (h : f.importState state = .ok (true, g)) : g.exportState = state.normal := by
  rcases (importState_eq_ok h).2 rfl with ⟨hempty, rfl⟩ | happly
  · rw [exportState_clear, eq_emptyState_of_same hempty, normal_emptyState]
  · exact exportState_of_apply huser happly

/-- **What is selected passes for another selection exactly if it is said untidily.** -/
theorem differs_iff_not_tidy (huser : f.isForUser = true) (htakes : f.takes state = true)
    (hstate : f.exportState.same state.normal = true) : f.differs state = true ↔ ¬ state.IsTidy := by
  have hranges {chosen selected : RangeChoice}
      (h : (RangeSelection.sorted chosen == RangeSelection.sorted selected) = true) :
      selected.differSorted chosen = true ↔ ¬ True := by
    have hback : (RangeSelection.sorted selected == RangeSelection.sorted chosen) = true :=
      FacetState.same_symm (s := .ranges _) (t := .ranges _) h
    simp [RangeChoice.differSorted, RangeChoice.differ, hback]
  have hnodes {selections selected : List NodeSelection}
      (h : (NodeSelection.sorted selections == NodeSelection.sorted selected) = true) :
      (!(NodeSelection.sorted selections == selected)) = true ↔
        ¬ NodeSelection.sorted selected = selected := by
    rw [eq_of_beq h, Bool.not_eq_true', beq_eq_false_iff_ne]
  cases f with
  | list f =>
    cases state with
    | list selection missing => exact ListFacet.differs_iff_not_nodup hstate
    | _ => cases htakes
  | cloud f =>
    cases state with
    | list selection missing => exact ListFacet.differs_iff_not_nodup hstate
    | _ => cases htakes
  | numericRange f =>
    cases state with
    | ranges selected => exact hranges hstate
    | _ => cases htakes
  | alphaRange f =>
    cases state with
    | ranges selected => exact hranges hstate
    | _ => cases htakes
  | hierarchical f =>
    cases state with
    | nodes selected => exact hnodes hstate
    | _ => cases htakes
  | textSearch f =>
    cases state with
    | text query =>
      have hquery : f.query = query.bind TextSearchFacet.queryOf := eq_of_beq hstate
      show (query.bind TextSearchFacet.queryOf != f.query) = true ↔ ¬ True
      rw [hquery, bne_self_eq_false]
      decide
    | _ => cases htakes
  | derived f => cases huser

/-- **An import reports a change exactly if there is one**, unless what is selected is said untidily: then
    a change is reported and there is none. No change goes unreported. The same state imported once
    more is reported as a change exactly if it was one, or passed for one, and is untidy. -/
theorem importState_reports {changed : Bool} (huser : f.isForUser = true)
    (h : f.importState state = .ok (changed, g)) :
    ((changed = true ↔ ¬ f.exportState.same g.exportState = true) ↔
      (f.exportState.same state.normal = true → state.IsTidy)) ∧
    (¬ f.exportState.same g.exportState = true → changed = true) ∧
    ∃ again g', g.importState state = .ok (again, g') ∧
      (again = true ↔ changed = true ∧ ¬ state.IsTidy) := by
  have hdiffers := (importState_eq_ok h).1
  have htakes := takes_of_import h
  have htidy (hstate : f.exportState.same state.normal = true) : changed = true ↔ ¬ state.IsTidy := by
    rw [← hdiffers]
    exact differs_iff_not_tidy huser htakes hstate
  cases changed with
  | false =>
    have hstays : g = f := (importState_cases f state h).resolve_left Bool.false_ne_true
    subst hstays
    have hsame := g.exportState.same_refl
    refine ⟨⟨fun _ hstate => ?_, fun _ => by simp [hsame]⟩, fun hnot => absurd hsame hnot,
      false, g, h, by simp⟩
    by_contra hnot
    exact Bool.false_ne_true ((htidy hstate).mpr hnot)
  | true =>
    have hexported := exportState_of_import huser h
    have hagain : g.exportState.same state.normal = true := hexported ▸ FacetState.same_refl _
    have hplain : f.plain = g.plain := (Reselected.importState h).plain
    have htakes' : g.takes state = true := (SetUpAlike.takes hplain state).symm.trans htakes
    have huser' : g.isForUser = true := by
      rw [isForUser, ← class?_plain, ← hplain, class?_plain]
      exact huser
    rcases g.importState_fits state with ⟨-, again, g', himport⟩ | ⟨hnot, -⟩
    · refine ⟨?_, fun _ => rfl, again, g', himport, ?_⟩
      · rw [hexported]
        constructor
        · intro hchange hstate
          exact absurd hstate (hchange.mp rfl)
        · intro hsaid
          exact iff_of_true rfl fun hstate => (htidy hstate).mp rfl (hsaid hstate)
      · rw [← (importState_eq_ok himport).1, differs_iff_not_tidy huser' htakes' hagain]
        exact (and_iff_right rfl).symm
    · rw [htakes'] at hnot
      cases hnot

/-- To take over red in the place of grey and red is a change, and to take it over again is none. -/
theorem importState_red :
    (byColour ["grey", "red"]).isForUser = true ∧
      (byColour ["grey", "red"]).importState (.list ["red"] false) = .ok (true, byColour ["red"]) ∧
      ¬ (byColour ["grey", "red"]).exportState.same (byColour ["red"]).exportState = true ∧
      ∃ g', (byColour ["red"]).importState (.list ["red"] false) = .ok (false, g') := by
  have himport : (byColour ["grey", "red"]).importState (.list ["red"] false) =
      .ok (true, byColour ["red"]) := rfl
  obtain ⟨hexact, -, again, g', hagain, htidy⟩ := importState_reports rfl himport
  have hchange := (hexact.mpr fun hstate => Bool.noConfusion hstate).mp rfl
  refine ⟨rfl, himport, hchange, g', ?_⟩
  cases again with
  | false => exact hagain
  | true => exact absurd (by decide) (htidy.mp rfl).2

/-- Kinds of animals, those of the nodes selected. -/
def byKind (selections : List NodeSelection) : Facet :=
  .hierarchical { HierarchicalFacet.new "kind" none none with selections }

theorem byKind_exportState (selections : List NodeSelection) :
    (byKind selections).exportState = .nodes (NodeSelection.sorted selections) := rfl

theorem byKind_importState {selections : List NodeSelection} (a b : NodeSelection)
    (h : NodeSelection.sorted selections ≠ [a, b]) :
    (byKind selections).importState (.nodes [a, b]) = .ok (true, byKind [a, b]) := by
  have hdiffers : (byKind selections).differs (.nodes [a, b]) = true := by
    show (!(NodeSelection.sorted selections == [a, b])) = true
    rw [Bool.not_eq_true', beq_eq_false_iff_ne]
    exact h
  rw [importState, hdiffers]
  rfl

/-- **Grey said twice passes for a change where grey is selected, and so do the dog and the cat where the
    cat and the dog are**: a change is reported whenever they are imported, and what is exported stays as
    it was. -/
theorem importState_restated :
    (byColour ["grey"]).importState (.list ["grey", "grey"] false) = .ok (true, byColour ["grey"]) ∧
      (byKind [⟨some "cat", false⟩, ⟨some "dog", false⟩]).importState
          (.nodes [⟨some "dog", false⟩, ⟨some "cat", false⟩]) =
        .ok (true, byKind [⟨some "dog", false⟩, ⟨some "cat", false⟩]) ∧
      (byKind [⟨some "dog", false⟩, ⟨some "cat", false⟩]).importState
          (.nodes [⟨some "dog", false⟩, ⟨some "cat", false⟩]) =
        .ok (true, byKind [⟨some "dog", false⟩, ⟨some "cat", false⟩]) ∧
      (byKind [⟨some "cat", false⟩, ⟨some "dog", false⟩]).exportState =
        (byKind [⟨some "dog", false⟩, ⟨some "cat", false⟩]).exportState := by
  have hcat : NodeSelection.sorted [⟨some "cat", false⟩, ⟨some "dog", false⟩] =
      [⟨some "cat", false⟩, ⟨some "dog", false⟩] := List.mergeSort_of_pairwise (by decide)
  have hdog : NodeSelection.sorted [⟨some "dog", false⟩, ⟨some "cat", false⟩] =
      [⟨some "cat", false⟩, ⟨some "dog", false⟩] := NodeSelection.sorted_pair rfl
  refine ⟨rfl, byKind_importState _ _ ?_, byKind_importState _ _ ?_, ?_⟩
  · rw [hcat]
    decide
  · rw [hdog]
    decide
  · rw [byKind_exportState, byKind_exportState, hcat, hdog]

end Facet

end Faceted
