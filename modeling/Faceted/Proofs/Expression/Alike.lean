import Faceted.Expression.Eval
import Faceted.Proofs.Store.Alike

/-!
# Expressions over stores that answer alike

An expression has the same value over stores that answer alike: walks read the two indexes and the
types of values, and range queries the ranges. One function reads something else, `now`, which yields
the present moment. An expression without a call of it does not see the clock.

* `follow_congr`, `walkForward_congr`, `walkBackward_congr`, `rangeBackward_congr`: paths go by what is
  stored;
* `Node.asksTime`: is `now` called anywhere in the tree?
* **`Node.eval_congr`**: a tree has the same value over the same content, at the same moment if it asks
  for that, by induction over the tree;
* `eval_alike` and `eval_atMoment` are the two cases that are used: stores that are alike, and an
  expression that does not ask for the time.
-/

namespace Faceted.Expression

variable {s t : Store}

/-! ## 1. Walks -/

theorem Hop.targetType_congr (h : s.SameContent t) (hop : Hop) :
    hop.targetType s = hop.targetType t := by
  unfold Hop.targetType
  rw [h.valueTypeOf]

theorem Hop.targets_congr (h : s.SameContent t) (hop : Hop) (value : String)
    (filter : Option KeySet) : hop.targets s value filter = hop.targets t value filter := by
  unfold Hop.targets
  rw [h.objects, h.subjects]

theorem Hop.targetsUnion_congr (h : s.SameContent t) (hop : Hop) (values : KeySet)
    (filter : Option KeySet) :
    hop.targetsUnion s values filter = hop.targetsUnion t values filter := by
  unfold Hop.targetsUnion
  rw [h.objectsUnion, h.subjectsUnion]

theorem follow_congr (h : s.SameContent t) (hop : Hop) (filter : Option KeySet) (values : Values) :
    follow s hop filter values = follow t hop filter values := by
  unfold follow
  simp only [Hop.targets_congr h, Hop.targetsUnion_congr h, Hop.targetType_congr h]

theorem walkForward_congr (h : s.SameContent t) (hops : List Hop) (values : Values) :
    walkForward s hops values = walkForward t hops values := by
  unfold walkForward
  simp only [follow_congr h]

theorem walkBackward_congr (h : s.SameContent t) (filter : Option KeySet) (hops : List Hop)
    (values : Values) : walkBackward s filter hops values = walkBackward t filter hops values := by
  induction hops generalizing filter with
  | nil => rfl
  | cons hop rest ih =>
    unfold walkBackward
    rw [ih, follow_congr h]

theorem rangeBackward_congr (h : s.SameContent t) (hops : List Hop) (low high : RangeValue)
    (inclusive : Bool) (filter : Option KeySet) :
    (rangeBackward s hops low high inclusive filter).1 =
      (rangeBackward t hops low high inclusive filter).1 := by
  unfold rangeBackward
  cases hops.getLast? with
  | none => rfl
  | some last =>
    by_cases hlast : last.forward
    · have hwalk := (h.symm.trans (s.subjectsInRange_alike last.property low high inclusive ∅
        (if hops.dropLast.isEmpty then filter else none)).content).symm.trans
          (t.subjectsInRange_alike last.property low high inclusive ∅
            (if hops.dropLast.isEmpty then filter else none)).content
      simp only [hlast, if_true]
      rw [h.inRange, walkBackward_congr hwalk]
    · simp [hlast]

/-- What a range query leaves behind answers like the store before. -/
theorem rangeBackward_snd_alike (s : Store) (hops : List Hop) (low high : RangeValue)
    (inclusive : Bool) (filter : Option KeySet) :
    s.Alike (rangeBackward s hops low high inclusive filter).2 := by
  unfold rangeBackward
  cases hops.getLast? with
  | none => exact Store.Alike.refl s
  | some last =>
    by_cases hlast : last.forward
    · simp only [hlast, if_true]
      exact s.subjectsInRange_alike _ _ _ _ _ _
    · simp only [hlast]
      exact Store.Alike.refl s

/-! ## 2. Asking for the time -/

mutual

/-- Is `now` called anywhere in the tree? -/
def Node.asksTime : Node → Bool
  | .constant _ _ | .path _ => false
  | .binary _ left right => left.asksTime || right.asksTime
  | .call name arguments => Function.ofName? name == some .now || anyAsksTime arguments
  | .control _ arguments => anyAsksTime arguments

def anyAsksTime : List Node → Bool
  | [] => false
  | n :: rest => n.asksTime || anyAsksTime rest

end

/-- The moment counts for no other function. -/
theorem Function.apply_congr {f : Function} {moment moment' : Int}
    (h : f = .now → moment = moment') (arguments : List Values) :
    f.apply moment arguments = f.apply moment' arguments := by
  cases f with
  | now => rw [h rfl]
  | _ => rfl

/-! ## 3. Trees -/

/-- What is needed only if one of two parts asks for the time is so if the left one does. -/
theorem needed_left {p : Prop} {a b : Bool} (h : (a || b) = true → p) : a = true → p := fun ha =>
  h (Bool.or_eq_true_iff.mpr (.inl ha))

theorem needed_right {p : Prop} {a b : Bool} (h : (a || b) = true → p) : b = true → p := fun hb =>
  h (Bool.or_eq_true_iff.mpr (.inr hb))

mutual

/-- **A tree has the same value over the same content**, at the same moment if it asks for that. -/
theorem Node.eval_congr (h : s.SameContent t) (scope : Scope) :
    (n : Node) → (n.asksTime = true → s.present = t.present) → n.eval s scope = n.eval t scope
  | .constant _ _, _ => by simp only [Node.eval]
  | .path p, _ => by simp only [Node.eval, walkForward_congr h]
  | .binary o left right, htime => by
    unfold Node.asksTime at htime
    simp only [Node.eval]
    rw [left.eval_congr h scope (needed_left htime), right.eval_congr h scope (needed_right htime)]
  | .call name arguments, htime => by
    unfold Node.asksTime at htime
    simp only [Node.eval]
    rw [evalAll_congr h scope arguments (needed_right htime)]
    cases hf : Function.ofName? name with
    | none => rfl
    | some f =>
      have hmoment : f = .now → s.present = t.present := by
        rintro rfl
        exact htime (by rw [hf]; rfl)
      simp only [Function.apply_congr hmoment]
  | .control c arguments, htime => by
    unfold Node.asksTime at htime
    match c, arguments with
    | .ifThenElse, [] => simp only [Node.eval]
    | .ifThenElse, condition :: branches =>
      unfold anyAsksTime at htime
      simp only [Node.eval]
      rw [condition.eval_congr h scope (needed_left htime)]
      simp only [evalBranch_congr h scope _ branches (needed_right htime)]
    | .foreach, [] => simp only [Node.eval]
    | .foreach, [collection] =>
      unfold anyAsksTime at htime
      simp only [Node.eval]
      rw [collection.eval_congr h scope (needed_left htime)]
    | .foreach, collection :: body :: rest =>
      unfold anyAsksTime anyAsksTime at htime
      have hbody : ∀ scope, body.eval s scope = body.eval t scope :=
        fun scope => body.eval_congr h scope (needed_left (needed_right htime))
      simp only [Node.eval]
      rw [collection.eval_congr h scope (needed_left htime)]
      simp only [hbody]
    | .filter, [] => simp only [Node.eval]
    | .filter, [collection] =>
      unfold anyAsksTime at htime
      simp only [Node.eval]
      rw [collection.eval_congr h scope (needed_left htime)]
    | .filter, collection :: predicate :: rest =>
      unfold anyAsksTime anyAsksTime at htime
      have hpredicate : ∀ scope, predicate.eval s scope = predicate.eval t scope :=
        fun scope => predicate.eval_congr h scope (needed_left (needed_right htime))
      simp only [Node.eval]
      rw [collection.eval_congr h scope (needed_left htime)]
      simp only [hpredicate]
    | .default, arguments =>
      simp only [Node.eval]
      exact evalFirst_congr h scope arguments htime

theorem evalBranch_congr (h : s.SameContent t) (scope : Scope) (truth : Bool) :
    (branches : List Node) → (anyAsksTime branches = true → s.present = t.present) →
    evalBranch s scope truth branches = evalBranch t scope truth branches
  | [], _ => by simp only [evalBranch]
  | [yes], htime => by
    unfold anyAsksTime at htime
    simp only [evalBranch]
    rw [yes.eval_congr h scope (needed_left htime)]
  | yes :: no :: _, htime => by
    unfold anyAsksTime anyAsksTime at htime
    simp only [evalBranch]
    rw [yes.eval_congr h scope (needed_left htime),
      no.eval_congr h scope (needed_left (needed_right htime))]

theorem evalAll_congr (h : s.SameContent t) (scope : Scope) : (ns : List Node) →
    (anyAsksTime ns = true → s.present = t.present) → evalAll s scope ns = evalAll t scope ns
  | [], _ => by simp only [evalAll]
  | n :: rest, htime => by
    unfold anyAsksTime at htime
    simp only [evalAll]
    rw [n.eval_congr h scope (needed_left htime), evalAll_congr h scope rest (needed_right htime)]

theorem evalFirst_congr (h : s.SameContent t) (scope : Scope) : (ns : List Node) →
    (anyAsksTime ns = true → s.present = t.present) → evalFirst s scope ns = evalFirst t scope ns
  | [], _ => by simp only [evalFirst]
  | n :: rest, htime => by
    unfold anyAsksTime at htime
    simp only [evalFirst]
    rw [n.eval_congr h scope (needed_left htime), evalFirst_congr h scope rest (needed_right htime)]

end

/-! ## 4. Expressions -/

/-- Is `now` called anywhere in the expression? -/
def asksTime (e : Expression) : Bool := e.root.asksTime

theorem eval_alike (h : s.Alike t) (e : Expression) (roots : Roots) (defaultName : String) :
    e.eval roots defaultName s = e.eval roots defaultName t :=
  Node.eval_congr h.content _ e.root fun _ => h.present

/-- **An expression that does not ask for the time** has the same value at every moment. -/
theorem eval_atMoment {e : Expression} (h : e.asksTime = false) (roots : Roots)
    (defaultName : String) (s : Store) (moment : Int) :
    e.eval roots defaultName s = e.eval roots defaultName (s.atMoment moment) :=
  Node.eval_congr (s.sameContent_atMoment moment) _ e.root fun hasks => by
    rw [show e.root.asksTime = false from h] at hasks
    cases hasks

end Faceted.Expression
