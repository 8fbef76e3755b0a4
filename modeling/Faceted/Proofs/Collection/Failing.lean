import Faceted.Collection
import Faceted.Browser.Bookmark
import Faceted.Proofs.Facet.Failing

/-!
# How collections fail

Whatever a collection is asked for fails because a facet does, because a request does not fit, or not at
all. What it does is put together from what its facets do.

* `View.Ordinary`: an action never says that a collection has lost its facet;
* `ordinary_refresh`, **`ordinary_changeFacetBy`**, `ordinary_addFacet`, `ordinary_removeFacet`,
  `ordinary_restoreFacets`: none of the actions on a collection does.
-/

namespace Faceted

open Faceted.Action

namespace View

variable {α : Type}

/-- In no state does the action say that a collection has lost its facet. -/
def Ordinary (act : Action View α) : Prop := Safe Failure.Ordinary (fun _ => True) act

/-! ## 1. Refreshing -/

theorem ordinary_modify (f : Collection → Collection) : Ordinary (modify f) :=
  fun _ _ => ⟨failsIn_ok _, trivial⟩

theorem ordinary_atPlace {place : Nat} {otherwise : α}
    {act : Facet → Scene → Outcome α × Facet × Store}
    (h : ∀ f scene, FailsIn Failure.Ordinary (act f scene).1) :
    Ordinary (atPlace place otherwise act) := by
  intro v _
  refine ⟨?_, trivial⟩
  unfold atPlace
  split
  · exact failsIn_ok _
  · exact h _ _

theorem ordinary_narrow : ∀ (places : List Nat) (items : KeySet), Ordinary (narrow places items)
  | [], items => safe_pure items
  | place :: rest, items => by
    have hfirst : Ordinary (restrictAt place items) := ordinary_atPlace fun f scene => by
      split
      · exact (f.restrict_fails scene items).mono Failure.IsEvaluation.ordinary
      · exact failsIn_ok _
    exact hfirst.bind (ordinary_narrow rest)

theorem ordinary_updateAt (place : Nat) (items : KeySet) : Ordinary (updateAt place items) :=
  ordinary_atPlace fun f scene => (f.update_fails scene items).mono Failure.IsEvaluation.ordinary

theorem ordinary_inputAt (several : Bool) (place : Nat) : Ordinary (inputAt several place) := by
  refine safe_state.bind fun v => ?_
  split
  · exact safe_pure _
  · split
    · exact safe_pure _
    · exact ordinary_narrow _ _

theorem ordinary_updateFacets : Ordinary updateFacets :=
  safe_state.bind fun v => (safe_collect (ordinary_inputAt _) v.places).bind fun _ =>
    safe_each (fun (place, items) => ordinary_updateAt place items) _

theorem ordinary_refresh : Ordinary refresh := by
  have hnarrow : Ordinary narrowRoot :=
    safe_state.bind fun _ => (ordinary_narrow _ _).bind fun _ => ordinary_modify _
  exact hnarrow.bind fun _ => ordinary_updateFacets.bind fun _ => ordinary_modify _

theorem ordinary_rootChanged : Ordinary rootChanged :=
  (ordinary_modify _).bind fun _ => (ordinary_modify _).bind fun _ => ordinary_refresh

theorem ordinary_setRoot (items : KeySet) : Ordinary (setRoot items) :=
  (ordinary_modify _).bind fun _ => ordinary_rootChanged

theorem ordinary_reroot : Ordinary reroot := by
  have hchange : Ordinary (change fun v : View =>
      { v with collection := { v.collection with items := v.rootItems } }) :=
    fun _ _ => ⟨failsIn_ok _, trivial⟩
  exact hchange.bind fun _ => ordinary_rootChanged

/-! ## 2. Facets -/

/-- **What is done to a facet** is all that could say so. -/
theorem ordinary_changeFacetBy {act : Facet → Scene → Outcome Bool × Facet}
    (h : ∀ f scene, FailsIn Failure.Ordinary (act f scene).1) (id : String) :
    Ordinary (changeFacetBy id act) := by
  have hchanged : Ordinary facetChanged := by
    refine safe_state.bind fun v => ?_
    split
    · exact safe_pure ()
    · exact ordinary_refresh
  refine safe_state.bind fun v => ?_
  split
  · exact safe_fail fun _ _ => nofun
  · refine Safe.bind (ordinary_atPlace h) fun changed => ?_
    cases changed with
    | false => exact safe_pure _
    | true => exact hchanged.bind fun _ => safe_pure _

theorem ordinary_addFacet (f : Facet) : Ordinary (addFacet f) := by
  have hupdated : Ordinary (updated f) := by
    intro v _
    refine ⟨?_, trivial⟩
    unfold updated
    obtain ⟨failure, g, hupdate, hfailure⟩ | ⟨done, g, hupdate⟩ :=
      (f.update_fails v.scene v.collection.restricted).cases
    · rw [hupdate]
      exact failsIn_error hfailure.ordinary
    · rw [hupdate]
      exact failsIn_ok _
  refine safe_state.bind fun v => ?_
  split
  · exact safe_fail fun _ _ => nofun
  · split
    · exact (ordinary_modify _).bind fun _ => ordinary_refresh
    · exact hupdated.bind fun _ => ordinary_modify _

theorem ordinary_removeFacet (id : String) : Ordinary (removeFacet id) := by
  refine safe_state.bind fun v => ?_
  split
  · exact safe_pure none
  · refine (ordinary_modify _).bind fun _ => ?_
    dsimp only
    split
    · exact ordinary_refresh.bind fun _ => safe_pure _
    · exact safe_pure _

/-! ## 3. Batches -/

theorem ordinary_batch {act : Action View α} (hact : Ordinary act) : Ordinary (batch act) := by
  have hdone (outcome : Outcome α) (h : FailsIn Failure.Ordinary outcome) : Ordinary (do
      modify fun c => { c with updating := false }
      let refreshed ← attempt refresh
      let x ← ofOutcome outcome
      ofOutcome refreshed
      return x) := by
    refine (ordinary_modify _).bind fun _ => Safe.attempt_bind ordinary_refresh (fun _ => ?_)
      fun failure hfailure => ?_
    · exact (safe_ofOutcome h).bind fun x => (safe_ofOutcome (failsIn_ok _)).bind fun _ => safe_pure x
    · exact (safe_ofOutcome h).bind fun x =>
        (safe_ofOutcome (failsIn_error hfailure)).bind fun _ => safe_pure x
  exact (ordinary_modify _).bind fun _ => Safe.attempt_bind hact
    (fun x => hdone (.ok x) (failsIn_ok x)) fun failure h => hdone (.error failure) (failsIn_error h)

theorem ordinary_restoreFacets (s : BrowserState) : Ordinary (Browser.restoreFacets s) :=
  safe_state.bind fun _ => ordinary_batch (safe_anyOf
    (ordinary_changeFacetBy fun f _ => Facet.orStay_fails (f.importState_fails _)) _)

end View

end Faceted
