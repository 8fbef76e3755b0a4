import Faceted.Facet.Change
import Faceted.Proofs.Facet.Settled

/-!
# Changes tell the truth

A change to a facet reports whether it changed the selection. A collection works out its items anew
only if it did, so the report has to be true:

* `RangeChoice.differ_toggle`: a click on a bucket always changes the choice;
* `ListFacet.settled_select`, `TextSearchFacet.settled_setText` and their like: an operation that
  reports no change leaves the facet with what it stands for;
* **`Facet.settled_perform`**: so does every change that does not report one, the failing ones
  included.
-/

namespace Faceted

/-! ## 1. Choices of ranges -/

namespace RangeSelection

theorem same_comm (a b : RangeSelection) : a.same b = b.same a := by
  have hvalue : ∀ x y : RangeValue, x.same y = y.same x := by
    intro x y
    cases x <;> cases y <;> simp only [RangeValue.same]
    · exact BEq.comm
    · exact BEq.comm
  unfold same
  rw [hvalue a.low, hvalue a.high]

end RangeSelection

namespace RangeChoice

theorem differ_of_length {a b : RangeChoice} (h : a.length ≠ b.length) : a.differ b = true := by
  unfold differ
  rw [Bool.not_eq_true', Bool.eq_false_iff]
  exact fun heq => h (List.length_eq_of_beq heq)

theorem length_drop_lt {chosen : RangeChoice} {r : RangeSelection} (h : chosen.has r = true) :
    (chosen.drop r).length < chosen.length := by
  obtain ⟨x, hx, hsame⟩ := List.any_eq_true.mp h
  exact List.length_filter_lt_length_iff_exists.mpr ⟨x, hx, by simp [hsame]⟩

/-- A range that is not chosen is not dropped. -/
theorem drop_of_not_has {chosen : RangeChoice} {r : RangeSelection} (h : chosen.has r = false) :
    chosen.drop r = chosen := by
  refine List.filter_eq_self.mpr fun x hx => ?_
  have := List.any_eq_false.mp h x hx
  simpa using this

/-- **A click on a bucket always changes the choice.** -/
theorem differ_toggle (chosen : RangeChoice) (r : RangeSelection) (only : Bool) :
    (chosen.toggle r only).differ chosen = true := by
  unfold toggle
  by_cases hr : chosen.has r = true
  · rw [if_pos hr]
    have hdrop := length_drop_lt hr
    split
    · next h =>
      refine differ_of_length ?_
      simp only [Bool.and_eq_true, decide_eq_true_eq] at h
      simp only [List.length_singleton]
      omega
    · exact differ_of_length (by omega)
  · rw [if_neg hr]
    split
    · -- the only choice is the range itself, which would make it chosen
      match chosen with
      | [] => rfl
      | [x] =>
        have hx : x.same r = false := by simpa [has] using hr
        have hx' : ([r] == [x]) = (r.same x && true) := rfl
        unfold differ
        rw [hx', RangeSelection.same_comm, hx]
        rfl
      | _ :: _ :: _ => exact differ_of_length (by simp)
    · exact differ_of_length (by simp)

/-- Setting a range to what it is changes nothing. -/
theorem set_of_has_eq {chosen : RangeChoice} {r : RangeSelection} {selected : Bool}
    (h : chosen.has r = selected) : chosen.set r selected = chosen := by
  subst h
  unfold set
  split
  · rfl
  · next h => exact drop_of_not_has (Bool.eq_false_iff.mpr h)

end RangeChoice

/-! ## 2. Single kinds -/

namespace ListFacet

theorem select_of_unchanged {f : ListFacet} {values : KeySet} {missing : Bool}
    (h : (f.select values missing).1 = false) : (f.select values missing).2 = f := by
  simp only [select, Bool.or_eq_false_iff, decide_eq_false_iff_not, Decidable.not_not,
    bne_eq_false_iff_eq] at h
  obtain ⟨hvalues, hmissing⟩ := h
  subst hvalues hmissing
  rfl

/-- Every click is a selection. -/
theorem toggle_eq_select (f : ListFacet) (value : Option String) (only : Bool) :
    ∃ values missing, f.toggle value only = f.select values missing := by
  cases value with
  | none =>
    show ∃ values missing, f.toggleMissing only = f.select values missing
    unfold toggleMissing
    split <;> exact ⟨_, _, rfl⟩
  | some v =>
    show ∃ values missing, f.toggleValue v only = f.select values missing
    unfold toggleValue
    split
    · exact ⟨_, _, rfl⟩
    · split <;> exact ⟨_, _, rfl⟩

theorem toggle_of_unchanged {f : ListFacet} {value : Option String} {only : Bool}
    (h : (f.toggle value only).1 = false) : (f.toggle value only).2 = f := by
  obtain ⟨values, missing, heq⟩ := f.toggle_eq_select value only
  rw [heq] at h ⊢
  exact select_of_unchanged h

end ListFacet

theorem NumericRangeFacet.setRange_of_unchanged {f : NumericRangeFacet} {low high : Float}
    {selected : Bool} (h : (f.setRange low high selected).1 = false) :
    (f.setRange low high selected).2 = f := by
  simp only [setRange, bne_eq_false_iff_eq] at h
  simp only [setRange, RangeChoice.set_of_has_eq h]

theorem DerivedFacet.setRestriction_of_unchanged {f : DerivedFacet} {restriction : Option KeySet}
    (h : (f.setRestriction restriction).1 = false) : (f.setRestriction restriction).2 = f := by
  simp only [setRestriction, decide_eq_false_iff_not, Decidable.not_not] at h
  subst h
  rfl

namespace HierarchicalFacet

variable {scene : Scene}

/-- A click that reports no change has at most looked at the tree. -/
theorem settled_toggle {f : HierarchicalFacet} {n : NodeSelection} {only : Bool}
    (h : (f.toggle scene n only).1 ≠ .ok true) :
    (f.toggle scene n only).2.settled scene = f.settled scene := by
  have hchoose : ∀ {g : HierarchicalFacet} {selections : List NodeSelection},
      (Except.ok (g.choose selections).1 : Outcome Bool) ≠ .ok true →
      (g.choose selections).2 = g := by
    intro g selections hne
    have hsame : selections = g.selections :=
      Classical.byContradiction fun hdiffer => hne (by simp [choose, hdiffer])
    subst hsame
    rfl
  have htree := f.settled_getTree scene (f.getTree scene).2.entries
  unfold toggle at h ⊢
  dsimp only at h ⊢
  split at h
  · rename_i honly
    rw [if_pos honly]
    exact congrArg (settled · scene) (hchoose h)
  · rename_i honly
    rw [if_neg honly]
    split at h
    · rename_i hselected
      rw [if_pos hselected]
      exact congrArg (settled · scene) (hchoose h)
    · rename_i hselected
      rw [if_neg hselected]
      generalize f.getTree scene = answer at h htree ⊢
      obtain ⟨outcome, f'⟩ := answer
      cases outcome with
      | error failure => exact htree
      | ok tree =>
        cases tree with
        | none => exact (congrArg (settled · scene) (hchoose h)).trans htree
        | some tree => exact (congrArg (settled · scene) (hchoose h)).trans htree

end HierarchicalFacet

namespace TextSearchFacet

variable {scene : Scene}

/-- Setting the query to what it is changes nothing that is stood for, whatever is typed. -/
theorem settled_setText {f g : TextSearchFacet} (hg : g.settled scene = f.settled scene)
    {text : String} (h : (g.setText text).1 = false) :
    (g.setText text).2.settled scene = f.settled scene := by
  simp only [setText, bne_eq_false_iff_eq] at h
  rw [← hg]
  simp only [setText, settled, h]

theorem settled_input {f : TextSearchFacet} {text : String} {now : Nat} {enter : Bool}
    (h : (f.input text now enter).1 = false) :
    (f.input text now enter).2.settled scene = f.settled scene := by
  unfold input at h ⊢
  split at h
  · next hnow =>
    rw [if_pos hnow]
    exact settled_setText rfl h
  · next hnow =>
    rw [if_neg hnow]
    split <;> rfl

theorem settled_poll {f : TextSearchFacet} {now : Nat} (h : (f.poll now).1 = false) :
    (f.poll now).2.settled scene = f.settled scene := by
  unfold poll at h ⊢
  split at h
  · exact settled_setText rfl h
  · rfl

end TextSearchFacet

/-! ## 3. Facets -/

namespace Facet

variable {scene : Scene} {f : Facet}

/-- What is left alone when it fails, and otherwise is left alone or reports a change. -/
theorem orStay_of_unchanged {answer : Outcome (Bool × Facet)}
    (hanswer : ∀ changed g, answer = .ok (changed, g) → changed = true ∨ g = f)
    (h : (f.orStay answer).1 ≠ .ok true) : (f.orStay answer).2 = f := by
  cases answer with
  | error failure => rfl
  | ok result =>
    obtain ⟨changed, g⟩ := result
    rcases hanswer changed g rfl with rfl | rfl
    · exact absurd rfl h
    · rfl

theorem importState_cases (f : Facet) (state : FacetState) {changed : Bool} {g : Facet}
    (h : f.importState state = .ok (changed, g)) : changed = true ∨ g = f := by
  unfold importState at h
  split at h
  · cases h
    exact .inr rfl
  · split at h
    · cases h
      exact .inl rfl
    · cases ha : f.apply state with
      | error failure =>
        rw [ha] at h
        cases h
      | ok g' =>
        rw [ha] at h
        cases h
        exact .inl rfl

theorem settled_onList {act : ListFacet → Bool × ListFacet}
    (hact : ∀ l : ListFacet, (act l).1 = false → (act l).2 = l)
    (h : (f.onList act).1 ≠ .ok true) : (f.onList act).2.settled scene = f.settled scene := by
  have hfalse : ∀ l : ListFacet, (Except.ok (act l).1 : Outcome Bool) ≠ .ok true →
      (act l).2 = l := by
    intro l hne
    refine hact l ?_
    cases hchanged : (act l).1 with
    | false => rfl
    | true => exact absurd (by rw [hchanged]) hne
  cases f with
  | list l => exact congrArg (fun l => settled (.list l) scene) (hfalse l h)
  | cloud c => exact congrArg (fun list => settled (.cloud { c with list }) scene) (hfalse c.list h)
  | _ => rfl

theorem settled_onTextSearch {act : TextSearchFacet → Bool × TextSearchFacet}
    (hact : ∀ t : TextSearchFacet, (act t).1 = false → (act t).2.settled scene = t.settled scene)
    (h : (f.onTextSearch act).1 ≠ .ok true) :
    (f.onTextSearch act).2.settled scene = f.settled scene := by
  cases f with
  | textSearch t =>
    refine congrArg Facet.textSearch (hact t ?_)
    cases hchanged : (act t).1 with
    | false => rfl
    | true => exact absurd (congrArg Except.ok hchanged) h
  | _ => rfl

theorem settled_onNumbers {act : NumericRangeFacet → Bool × NumericRangeFacet}
    (hact : ∀ n : NumericRangeFacet, (act n).1 = false → (act n).2 = n)
    (h : (f.onNumbers act).1 ≠ .ok true) :
    (f.onNumbers act).2.settled scene = f.settled scene := by
  cases f with
  | numericRange n =>
    refine congrArg (fun n => settled (.numericRange n) scene) (hact n ?_)
    cases hchanged : (act n).1 with
    | false => rfl
    | true => exact absurd (congrArg Except.ok hchanged) h
  | _ => rfl

/-- **A change that does not report one leaves the facet with what it stands for.** -/
theorem settled_perform (f : Facet) (scene : Scene) (change : Change)
    (h : (f.perform scene change).1 ≠ .ok true) :
    (f.perform scene change).2.settled scene = f.settled scene := by
  cases change with
  | importState state =>
    exact congrArg (settled · scene)
      (orStay_of_unchanged (fun _ _ heq => f.importState_cases state heq) h)
  | apply state =>
    refine congrArg (settled · scene) (orStay_of_unchanged (fun changed g heq => ?_) h)
    cases ha : f.apply state with
    | error failure =>
      rw [ha] at heq
      cases heq
    | ok g' =>
      rw [ha] at heq
      cases heq
      exact .inl rfl
  | clear => exact absurd rfl h
  | toggleValue value only => exact settled_onList (fun _ => ListFacet.toggle_of_unchanged) h
  | select values missing => exact settled_onList (fun _ => ListFacet.select_of_unchanged) h
  | toggleNumbers low high only =>
    refine settled_onNumbers (fun n hn => ?_) h
    have hdiffer := n.chosen.differ_toggle (NumericRangeFacet.rangeOf low high) only
    exact absurd (hn.symm.trans hdiffer) Bool.false_ne_true
  | setNumbers low high selected =>
    exact settled_onNumbers (fun _ => NumericRangeFacet.setRange_of_unchanged) h
  | toggleLetters low high only =>
    cases f with
    | alphaRange f =>
      have hdiffer := f.chosen.differ_toggle
        ⟨.text (Text.upperCased low), .text (Text.upperCased high)⟩ only
      exact absurd (congrArg Except.ok hdiffer) h
    | _ => rfl
  | toggleNode node only =>
    cases f with
    | hierarchical f => exact congrArg Facet.hierarchical (HierarchicalFacet.settled_toggle h)
    | _ => rfl
  | restrictTo allowed =>
    cases f with
    | derived f =>
      refine congrArg (fun f => settled (.derived f) scene)
        (DerivedFacet.setRestriction_of_unchanged ?_)
      cases hchanged : (f.setRestriction allowed).1 with
      | false => rfl
      | true => exact absurd (congrArg Except.ok hchanged) h
    | _ => rfl
  | setText text => exact settled_onTextSearch (fun _ => TextSearchFacet.settled_setText rfl) h
  | input text now enter => exact settled_onTextSearch (fun _ => TextSearchFacet.settled_input) h
  | poll now => exact settled_onTextSearch (fun _ => TextSearchFacet.settled_poll) h
  | requireEnter on => exact settled_onTextSearch (fun _ _ => rfl) h

end Facet

end Faceted
