import Faceted.Expression.Eval
import Faceted.Proofs.Running

/-!
# How things fail

A failure that is told apart from the others by its cause has to come from somewhere. What a computation
can fail with is what its parts can fail with, so these facts are put together the way the computation
is.

* `FailsIn`: every failure of an outcome has a property, with one rule per way of building outcomes;
* `Action.Safe`: the same for an action, as long as an invariant holds, which the action keeps;
* **`Expression.eval_fails`**: an expression fails only with a failure of evaluation, by induction over
  the tree.
-/

namespace Faceted

/-! ## 1. Failures -/

namespace Failure

/-- The failure of an evaluation. -/
def IsEvaluation (failure : Failure) : Prop := ∃ fault, failure = .evaluation fault

/-- The failure says something else than that a collection has lost its facet. -/
def Ordinary (failure : Failure) : Prop := ∀ collection base, failure ≠ .lostFacet collection base

theorem IsEvaluation.ordinary {failure : Failure} (h : failure.IsEvaluation) : failure.Ordinary := by
  obtain ⟨fault, rfl⟩ := h
  exact fun _ _ => nofun

end Failure

/-! ## 2. Outcomes -/

section Outcomes

variable {α β : Type} {p q : Failure → Prop}

/-- Every failure of the outcome has the property. -/
def FailsIn (p : Failure → Prop) (outcome : Outcome α) : Prop :=
  ∀ failure, outcome = .error failure → p failure

theorem failsIn_ok (x : α) : FailsIn p (.ok x : Outcome α) := fun _ => nofun

theorem failsIn_error {failure : Failure} (h : p failure) :
    FailsIn p (.error failure : Outcome α) := by
  rintro _ ⟨⟩
  exact h

/-- An answer beside which there is something else, a failure or not. -/
theorem FailsIn.cases {answer : Outcome α × β} (h : FailsIn p answer.1) :
    (∃ failure y, answer = (.error failure, y) ∧ p failure) ∨ ∃ x y, answer = (.ok x, y) := by
  obtain ⟨outcome, y⟩ := answer
  cases outcome with
  | ok x => exact .inr ⟨x, y, rfl⟩
  | error failure => exact .inl ⟨failure, y, rfl, h failure rfl⟩

theorem FailsIn.mono {outcome : Outcome α} (h : FailsIn p outcome)
    (hpq : ∀ {failure}, p failure → q failure) : FailsIn q outcome :=
  fun failure hfailure => hpq (h failure hfailure)

theorem FailsIn.bind {outcome : Outcome α} {next : α → Outcome β} (h : FailsIn p outcome)
    (hnext : ∀ x, FailsIn p (next x)) : FailsIn p (outcome >>= next) := by
  cases outcome with
  | ok x => exact hnext x
  | error failure => exact failsIn_error (h failure rfl)

theorem FailsIn.map {outcome : Outcome α} (h : FailsIn p outcome) (f : α → β) :
    FailsIn p (outcome.map f) := by
  cases outcome with
  | ok x => exact failsIn_ok _
  | error failure => exact failsIn_error (h failure rfl)

theorem failsIn_mapM {act : α → Outcome β} (h : ∀ x, FailsIn p (act x)) :
    ∀ xs : List α, FailsIn p (xs.mapM act)
  | [] => failsIn_ok []
  | x :: xs => by
    rw [List.mapM_cons]
    exact (h x).bind fun _ => (failsIn_mapM h xs).bind fun _ => failsIn_ok _

/-- The same with each element beside what is done for it. -/
theorem failsIn_mapM_pairs {act : α → Outcome β} (h : ∀ x, FailsIn p (act x)) (xs : List α) :
    FailsIn p (xs.mapM fun x => return (x, ← act x) : Outcome (List (α × β))) :=
  failsIn_mapM (fun x => (h x).bind fun _ => failsIn_ok _) xs

end Outcomes

/-! ## 3. Actions -/

namespace Action

variable {σ α β : Type} {p : Failure → Prop} {I : σ → Prop}

/-- From a state with the invariant the action leads to another one, and if it fails the failure has
    the property. -/
def Safe (p : Failure → Prop) (I : σ → Prop) (act : Action σ α) : Prop :=
  ∀ s, I s → FailsIn p (act s).1 ∧ I (act s).2

theorem safe_pure (x : α) : Safe p I (pure x : Action σ α) := fun _ hs => ⟨failsIn_ok x, hs⟩

theorem safe_state : Safe p I (state : Action σ σ) := fun s hs => ⟨failsIn_ok s, hs⟩

theorem safe_fail {failure : Failure} (h : p failure) : Safe p I (fail failure : Action σ α) :=
  fun _ hs => ⟨failsIn_error h, hs⟩

theorem safe_ofOutcome {outcome : Outcome α} (h : FailsIn p outcome) :
    Safe p I (ofOutcome outcome : Action σ α) := fun _ hs => ⟨h, hs⟩

/-- In one state. -/
theorem safe_bind_at {act : Action σ α} {next : α → Action σ β} {s : σ}
    (hact : FailsIn p (act s).1 ∧ I (act s).2) (hnext : ∀ x, Safe p I (next x)) :
    FailsIn p ((act >>= next) s).1 ∧ I ((act >>= next) s).2 := by
  rw [bind_apply]
  generalize act s = result at hact ⊢
  obtain ⟨outcome, t⟩ := result
  cases outcome with
  | ok x => exact hnext x t hact.2
  | error failure => exact ⟨failsIn_error (hact.1 failure rfl), hact.2⟩

theorem Safe.bind {act : Action σ α} {next : α → Action σ β} (hact : Safe p I act)
    (hnext : ∀ x, Safe p I (next x)) : Safe p I (act >>= next) :=
  fun s hs => safe_bind_at (hact s hs) hnext

/-- An action that looks at the state finds the invariant. -/
theorem safe_state_bind {next : σ → Action σ β} (h : ∀ s, I s → Safe p I (next s)) :
    Safe p I (state >>= next) := fun s hs => h s hs s hs

/-- What is done after an attempt may rely on what its failures are. -/
theorem Safe.attempt_bind {act : Action σ α} {next : Outcome α → Action σ β} (hact : Safe p I act)
    (hok : ∀ x, Safe p I (next (.ok x)))
    (herror : ∀ failure, p failure → Safe p I (next (.error failure))) :
    Safe p I (attempt act >>= next) := by
  intro s hs
  obtain ⟨hfails, ht⟩ := hact s hs
  rw [bind_apply, attempt_apply]
  dsimp only
  cases houtcome : (act s).1 with
  | ok x => exact hok x _ ht
  | error failure => exact herror failure (hfails failure houtcome) _ ht

theorem safe_each {act : α → Action σ Unit} (h : ∀ x, Safe p I (act x)) :
    ∀ xs : List α, Safe p I (each act xs)
  | [] => safe_pure ()
  | x :: xs => (h x).bind fun _ => safe_each h xs

theorem safe_collect {act : α → Action σ β} (h : ∀ x, Safe p I (act x)) :
    ∀ xs : List α, Safe p I (collect act xs)
  | [] => safe_pure []
  | x :: xs => (h x).bind fun _ => (safe_collect h xs).bind fun _ => safe_pure _

theorem safe_anyOf {act : α → Action σ Bool} (h : ∀ x, Safe p I (act x)) (xs : List α) :
    Safe p I (anyOf act xs) :=
  (safe_collect h xs).bind fun _ => safe_pure _

end Action

/-! ## 4. Expressions -/

namespace Expression

variable {s : Store} {scope : Scope}

theorem Scope.lookup_fails (name : Option String) : FailsIn Failure.IsEvaluation (scope.lookup name) := by
  unfold lookup
  dsimp only
  split
  · exact failsIn_ok _
  · exact failsIn_error ⟨_, rfl⟩

theorem distanceFrom_fails (arguments : List Values) :
    FailsIn Failure.IsEvaluation (distanceFrom arguments) := by
  unfold distanceFrom
  split
  · exact failsIn_error ⟨_, rfl⟩
  · split
    · dsimp only
      split <;> exact failsIn_ok _
    · exact failsIn_error ⟨_, rfl⟩

theorem Function.apply_fails (f : Function) (present : Int) (arguments : List Values) :
    FailsIn Failure.IsEvaluation (f.apply present arguments) := by
  cases f with
  | now =>
    unfold Function.apply
    dsimp only
    split
    · exact failsIn_ok _
    · exact failsIn_error ⟨_, rfl⟩
  | distance => exact distanceFrom_fails arguments
  | _ => exact failsIn_ok _

theorem foreachValue_fails {body : String → Outcome Values}
    (h : ∀ value, FailsIn Failure.IsEvaluation (body value)) (values : List String) :
    FailsIn Failure.IsEvaluation (foreachValue body values) :=
  (failsIn_mapM h values).bind fun _ => failsIn_ok _

theorem filterValues_fails {predicate : String → Outcome Values}
    (h : ∀ value, FailsIn Failure.IsEvaluation (predicate value)) (values : List String) :
    FailsIn Failure.IsEvaluation (filterValues predicate values) :=
  (failsIn_mapM_pairs h values).bind fun _ => failsIn_ok _

theorem missing_fails (c : Control) (place : Nat) : FailsIn Failure.IsEvaluation (missing c place) :=
  failsIn_error ⟨_, rfl⟩

mutual

/-- **A tree fails only with a failure of evaluation.** -/
theorem Node.eval_fails (s : Store) (scope : Scope) :
    (n : Node) → FailsIn Failure.IsEvaluation (n.eval s scope)
  | .constant _ _ => by
    unfold Node.eval
    exact failsIn_ok _
  | .path p => by
    unfold Node.eval
    exact (Scope.lookup_fails p.root).bind fun _ => failsIn_ok _
  | .binary o left right => by
    unfold Node.eval
    exact (left.eval_fails s scope).bind fun _ => (right.eval_fails s scope).bind fun _ => failsIn_ok _
  | .call name arguments => by
    unfold Node.eval
    split
    · exact failsIn_error ⟨_, rfl⟩
    · next f _ =>
      exact (evalAll_fails s scope arguments).bind fun values => f.apply_fails s.present values
  | .control .ifThenElse [] => by
    unfold Node.eval
    exact missing_fails _ _
  | .control .ifThenElse (condition :: branches) => by
    unfold Node.eval
    exact (condition.eval_fails s scope).bind fun _ => evalBranch_fails s scope _ branches
  | .control .foreach [] => by
    unfold Node.eval
    exact missing_fails _ _
  | .control .foreach [collection] => by
    unfold Node.eval
    exact (collection.eval_fails s scope).bind fun _ => missing_fails _ _
  | .control .foreach (collection :: body :: _) => by
    have hbody : ∀ scope, FailsIn Failure.IsEvaluation (body.eval s scope) :=
      fun scope => body.eval_fails s scope
    unfold Node.eval
    exact (collection.eval_fails s scope).bind fun values => foreachValue_fails (fun _ => hbody _) _
  | .control .filter [] => by
    unfold Node.eval
    exact missing_fails _ _
  | .control .filter [collection] => by
    unfold Node.eval
    exact (collection.eval_fails s scope).bind fun _ => missing_fails _ _
  | .control .filter (collection :: predicate :: _) => by
    have hpredicate : ∀ scope, FailsIn Failure.IsEvaluation (predicate.eval s scope) :=
      fun scope => predicate.eval_fails s scope
    unfold Node.eval
    exact (collection.eval_fails s scope).bind fun values =>
      (filterValues_fails (fun _ => hpredicate _) _).bind fun _ => failsIn_ok _
  | .control .default arguments => by
    unfold Node.eval
    exact evalFirst_fails s scope arguments

theorem evalBranch_fails (s : Store) (scope : Scope) (truth : Bool) :
    (branches : List Node) → FailsIn Failure.IsEvaluation (evalBranch s scope truth branches)
  | [] => by
    unfold evalBranch
    exact missing_fails _ _
  | [yes] => by
    have hyes := yes.eval_fails s scope
    unfold evalBranch
    split
    · exact hyes
    · exact missing_fails _ _
  | yes :: no :: _ => by
    have hyes := yes.eval_fails s scope
    have hno := no.eval_fails s scope
    unfold evalBranch
    split
    · exact hyes
    · exact hno

theorem evalAll_fails (s : Store) (scope : Scope) :
    (ns : List Node) → FailsIn Failure.IsEvaluation (evalAll s scope ns)
  | [] => by
    unfold evalAll
    exact failsIn_ok _
  | n :: rest => by
    unfold evalAll
    exact (n.eval_fails s scope).bind fun _ => (evalAll_fails s scope rest).bind fun _ => failsIn_ok _

theorem evalFirst_fails (s : Store) (scope : Scope) :
    (ns : List Node) → FailsIn Failure.IsEvaluation (evalFirst s scope ns)
  | [] => by
    unfold evalFirst
    exact failsIn_ok _
  | n :: rest => by
    have hrest := evalFirst_fails s scope rest
    unfold evalFirst
    refine (n.eval_fails s scope).bind fun values => ?_
    split
    · exact hrest
    · exact failsIn_ok _

end

theorem eval_fails (e : Expression) (roots : Roots) (defaultName : String) (s : Store) :
    FailsIn Failure.IsEvaluation (e.eval roots defaultName s) := e.root.eval_fails s _

theorem evalOnItem_fails (e : Expression) (item : String) (s : Store) :
    FailsIn Failure.IsEvaluation (e.evalOnItem item s) := e.eval_fails _ _ s

end Expression

end Faceted
