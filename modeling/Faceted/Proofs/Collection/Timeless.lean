import Mathlib.Data.List.Infix
import Faceted.Proofs.Collection.Narrowing

/-!
# What does not depend on the clock

The clock moves on between operations, and `now` yields another value then. Nothing else does: a facet
whose expressions do not ask for the time stands for the same at every moment, and lets the same items
through.

* `Facet.asksTime`, `View.asksTime`: is `now` called in an expression of the facet, of any facet?
* `Facet.settled_atMoment`, `Facet.restrict_atMoment`, **`Scene.throughEach_atMoment`**: where it is not,
  the moment does not count;
* `runAt`: acts that take place at moments of their own. **`runAt_keeps`** is the run lemma: what acts
  keep, and the clock keeps wherever nothing asks for the time, holds after every run.
-/

namespace Faceted

open Faceted.Expression

/-! ## 1. Facets -/

/-- Is `now` called in an expression of the facet? -/
def Facet.asksTime (f : Facet) : Bool := f.expressions.any Expression.asksTime

/-- The scene at another moment. -/
def Scene.atMoment (scene : Scene) (moment : Int) : Scene :=
  { scene with store := scene.store.atMoment moment }

/-- Expressions that do not ask for the time see no difference. -/
theorem Scene.alikeFor_atMoment {es : List Expression} (h : es.any Expression.asksTime = false)
    (scene : Scene) (moment : Int) : scene.AlikeFor es (scene.atMoment moment) where
  content := scene.store.sameContent_atMoment moment
  allItems := rfl
  eval e he roots name :=
    eval_atMoment (Bool.eq_false_iff.mpr (List.any_eq_false.mp h e he)) roots name scene.store moment

namespace Facet

variable {f : Facet} (h : f.asksTime = false) (scene : Scene) (moment : Int)
include h

theorem settled_atMoment : f.settled scene = f.settled (scene.atMoment moment) :=
  settled_alikeFor (scene.alikeFor_atMoment h moment)

theorem restrict_atMoment (items : KeySet) :
    (f.restrict scene items).1 = (f.restrict (scene.atMoment moment) items).1 :=
  restrict_congr (scene.alikeFor_atMoment h moment) (settled_atMoment h scene moment) items

end Facet

/-- **The same items come through at every moment.** -/
theorem Scene.throughEach_atMoment {fs : List Facet} (h : ∀ f ∈ fs, f.asksTime = false)
    (scene : Scene) (moment : Int) (items : KeySet) :
    scene.throughEach fs items = (scene.atMoment moment).throughEach fs items :=
  throughEach_alikeFor (fun f hf => scene.alikeFor_atMoment (h f hf) moment)
    (List.map_congr_left fun f hf => f.settled_atMoment (h f hf) scene moment) items

/-! ## 2. Views -/

namespace View

/-- Is `now` called in an expression of a facet? -/
def asksTime (v : View) : Bool := v.collection.facets.any Facet.asksTime

theorem asksTime_eq_false {v : View} (h : v.asksTime = false) {f : Facet}
    (hf : f ∈ v.collection.facets) : f.asksTime = false :=
  Bool.eq_false_iff.mpr (List.any_eq_false.mp h f hf)

/-- The view at another moment. -/
def atMoment (v : View) (moment : Int) : View := { v with store := v.store.atMoment moment }

end View

/-! ## 3. Runs -/

section Runs

variable {σ α : Type} {atMoment : σ → Int → σ} {after : α → σ → σ}

/-- What is left after acts, each of which takes place at a moment of its own. -/
def runAt (atMoment : σ → Int → σ) (after : α → σ → σ) (acts : List (Int × α)) (s : σ) : σ :=
  acts.foldl (fun s act => after act.2 (atMoment s act.1)) s

/-- Nothing asks for the time wherever the clock moves on: before the first act, between acts and after
    the last one. -/
def NeverAsks (asks : σ → Bool) (atMoment : σ → Int → σ) (after : α → σ → σ)
    (acts : List (Int × α)) (s : σ) : Prop :=
  ∀ front, front <+: acts → asks (runAt atMoment after front s) = false

variable {asks : σ → Bool} {s : σ}

theorem NeverAsks.start {acts : List (Int × α)} (h : NeverAsks asks atMoment after acts s) :
    asks s = false := h [] List.nil_prefix

theorem NeverAsks.finish {acts : List (Int × α)} (h : NeverAsks asks atMoment after acts s) :
    asks (runAt atMoment after acts s) = false := h acts (List.prefix_refl acts)

theorem NeverAsks.rest {act : Int × α} {acts : List (Int × α)}
    (h : NeverAsks asks atMoment after (act :: acts) s) :
    NeverAsks asks atMoment after acts (after act.2 (atMoment s act.1)) := fun front hfront =>
  h (act :: front) (List.cons_prefix_cons.mpr ⟨rfl, hfront⟩)

/-- It can be looked up whether something asks for the time. -/
theorem neverAsks_of_inits {acts : List (Int × α)}
    (h : (acts.inits.all fun front => !asks (runAt atMoment after front s)) = true) :
    NeverAsks asks atMoment after acts s := fun front hfront => by
  simpa using List.all_eq_true.mp h front ((List.mem_inits front acts).mpr hfront)

/-- **What acts keep**, and what the clock keeps wherever nothing asks for the time, holds after every
    run. -/
theorem runAt_keeps {I : σ → Prop} {acts : List (Int × α)}
    (hmoment : ∀ s moment, asks s = false → I s → I (atMoment s moment))
    (hafter : ∀ act ∈ acts, ∀ s, I s → I (after act.2 s))
    (hasks : NeverAsks asks atMoment after acts s) (hs : I s) :
    I (runAt atMoment after acts s) := by
  induction acts generalizing s with
  | nil => exact hs
  | cons act rest ih =>
    obtain ⟨hfirst, hrest⟩ := List.forall_mem_cons.mp hafter
    exact ih hrest hasks.rest (hfirst _ (hmoment s act.1 hasks.start hs))

end Runs

end Faceted
