import Faceted.Failure

/-!
# Actions

An action changes a state and yields a result or a failure. The state that it leaves counts in either
case: what an action did before it failed stays done, such as the caches it has filled.

Main statements: one equation per way of building actions (`pure_apply`, `bind_apply`,
`attempt_apply`), by which a run is computed step by step.
-/

namespace Faceted

/-- A step from a state to a result or failure and the state after it. -/
def Action (σ α : Type) : Type := σ → Outcome α × σ

namespace Action

variable {σ α β : Type}

/-! ## 1. Building -/

/-- Goes on with the result, unless there is none. -/
def andThen (a : Action σ α) (next : α → Action σ β) : Action σ β := fun s =>
  match a s with
  | (.ok x, s) => next x s
  | (.error failure, s) => (.error failure, s)

instance : Monad (Action σ) where
  pure x := fun s => (.ok x, s)
  bind := andThen

def fail (failure : Failure) : Action σ α := fun s => (.error failure, s)

/-- An outcome that does not depend on the state. -/
def ofOutcome (outcome : Outcome α) : Action σ α := fun s => (outcome, s)

/-- Looks at the state. -/
def read (question : σ → α) : Action σ α := fun s => (.ok (question s), s)

/-- The state as it is. -/
def state : Action σ σ := fun s => (.ok s, s)

/-- Changes the state. -/
def change (f : σ → σ) : Action σ Unit := fun s => (.ok (), f s)

/-- Runs an action to its end and yields its outcome, so that a failure stops nothing. -/
def attempt (a : Action σ α) : Action σ (Outcome α) := fun s =>
  let (outcome, s) := a s
  (.ok outcome, s)

/-- Acts on every element of a list in turn, up to the first failure. -/
def each (act : α → Action σ Unit) : List α → Action σ Unit
  | [] => pure ()
  | x :: rest => do
    act x
    each act rest

/-- The results for the elements of a list, up to the first failure. -/
def collect (act : α → Action σ β) : List α → Action σ (List β)
  | [] => pure []
  | x :: rest => do
    let y ← act x
    let ys ← collect act rest
    return y :: ys

/-- Does the action report true for some element? It is asked for all of them. -/
def anyOf (act : α → Action σ Bool) (xs : List α) : Action σ Bool := do
  let answers ← collect act xs
  return answers.any id

/-! ## 2. Running -/

@[simp] theorem pure_apply (x : α) (s : σ) : (pure x : Action σ α) s = (.ok x, s) := rfl

theorem bind_apply (a : Action σ α) (next : α → Action σ β) (s : σ) :
    (a >>= next) s =
      match a s with
      | (.ok x, s) => next x s
      | (.error failure, s) => (.error failure, s) := rfl

theorem bind_of_ok {a : Action σ α} {next : α → Action σ β} {s t : σ} {x : α}
    (h : a s = (.ok x, t)) : (a >>= next) s = next x t := by
  rw [bind_apply, h]

theorem bind_of_error {a : Action σ α} {next : α → Action σ β} {s t : σ} {failure : Failure}
    (h : a s = (.error failure, t)) : (a >>= next) s = (.error failure, t) := by
  rw [bind_apply, h]

@[simp] theorem read_apply (question : σ → α) (s : σ) : read question s = (.ok (question s), s) :=
  rfl

@[simp] theorem state_apply (s : σ) : (state : Action σ σ) s = (.ok s, s) := rfl

@[simp] theorem change_apply (f : σ → σ) (s : σ) : change f s = (.ok (), f s) := rfl

@[simp] theorem fail_apply (failure : Failure) (s : σ) :
    (fail failure : Action σ α) s = (.error failure, s) := rfl

@[simp] theorem ofOutcome_apply (outcome : Outcome α) (s : σ) : ofOutcome outcome s = (outcome, s) :=
  rfl

@[simp] theorem attempt_apply (a : Action σ α) (s : σ) : attempt a s = (.ok (a s).1, (a s).2) := rfl

end Action

end Faceted
