import Mathlib.Data.List.Forall2
import Faceted.Expression.Eval
import Faceted.Proofs.Running

/-!
# The default variable in `foreach` and `filter`

`foreach` and `filter` evaluate their second argument with the default variable standing for a value. The
variables themselves stay as they are, and the scope has beside them what hides one of them. An
expression cannot tell: the value is as good as bound under the name of the default variable.

* `Scope.visible`: the variables as an expression sees them;
* **`Node.eval_plain`**: nothing else of a scope counts, by induction over the tree;
* `foreachValue_eq_ok_iff`, `filterValues_eq_ok_iff` and their like for failures: what a control makes of
  the results for the values;
* **`eval_rebound`**: in every scope, and so at every depth, the second argument has the value that it has
  on its own with the value bound, and the controls go by these values.
-/

namespace Faceted.Expression

variable {s : Store}

/-! ## 1. What is visible in a scope -/

namespace Scope

/-- The variables as an expression sees them: what the default variable stands for takes the place of
    what it is bound to. -/
def visible (scope : Scope) : Roots :=
  match scope.bound with
  | none => scope.roots
  | some binding => scope.roots.insert scope.defaultName binding

/-- The scope with the visible variables and nothing that hides one of them. -/
def plain (scope : Scope) : Scope := ⟨scope.visible, scope.defaultName, none⟩

theorem lookup_plain (scope : Scope) (name : Option String) :
    scope.plain.lookup name = scope.lookup name := by
  obtain ⟨roots, defaultName, bound⟩ := scope
  unfold lookup plain visible
  cases bound with
  | none => rfl
  | some binding =>
    dsimp only
    rw [KeyMap.get?_insert]
    by_cases h : name.getD defaultName = defaultName
    · simp [h]
    · simp [h]

/-- A rebinding takes the place of an earlier one. -/
theorem visible_plain_bind (scope : Scope) (value : String) (type : ValueType) :
    (scope.plain.bind value type).visible = (scope.bind value type).visible := by
  obtain ⟨roots, defaultName, bound⟩ := scope
  cases bound with
  | none => rfl
  | some binding =>
    refine KeyMap.ext fun k => ?_
    simp only [visible, bind, plain, KeyMap.get?_insert]
    split <;> rfl

theorem plain_bind (scope : Scope) (value : String) (type : ValueType) :
    (scope.plain.bind value type).plain = (scope.bind value type).plain :=
  congrArg (fun roots => (⟨roots, scope.defaultName, none⟩ : Scope))
    (scope.visible_plain_bind value type)

end Scope

/-! ## 2. Trees -/

mutual

/-- **A tree sees the visible variables**, and nothing else of its scope. -/
theorem Node.eval_plain (scope : Scope) : (n : Node) → n.eval s scope.plain = n.eval s scope
  | .constant _ _ => by simp only [Node.eval]
  | .path p => by simp only [Node.eval, scope.lookup_plain]
  | .binary o left right => by
    simp only [Node.eval]
    rw [left.eval_plain scope, right.eval_plain scope]
  | .call name arguments => by
    simp only [Node.eval]
    rw [evalAll_plain scope arguments]
  | .control .ifThenElse [] => by simp only [Node.eval]
  | .control .ifThenElse (condition :: branches) => by
    simp only [Node.eval]
    rw [condition.eval_plain scope]
    simp only [evalBranch_plain scope _ branches]
  | .control .foreach [] => by simp only [Node.eval]
  | .control .foreach [collection] => by
    simp only [Node.eval]
    rw [collection.eval_plain scope]
  | .control .foreach (collection :: body :: _) => by
    -- both scopes are rebound, and then they are plainly the same
    have hbody (v : String) (t : ValueType) :
        body.eval s (scope.plain.bind v t) = body.eval s (scope.bind v t) := by
      rw [← body.eval_plain (scope.plain.bind v t), scope.plain_bind, body.eval_plain (scope.bind v t)]
    simp only [Node.eval]
    rw [collection.eval_plain scope]
    simp only [hbody]
  | .control .filter [] => by simp only [Node.eval]
  | .control .filter [collection] => by
    simp only [Node.eval]
    rw [collection.eval_plain scope]
  | .control .filter (collection :: predicate :: _) => by
    have hpredicate (v : String) (t : ValueType) :
        predicate.eval s (scope.plain.bind v t) = predicate.eval s (scope.bind v t) := by
      rw [← predicate.eval_plain (scope.plain.bind v t), scope.plain_bind,
        predicate.eval_plain (scope.bind v t)]
    simp only [Node.eval]
    rw [collection.eval_plain scope]
    simp only [hpredicate]
  | .control .default arguments => by
    simp only [Node.eval]
    exact evalFirst_plain scope arguments

theorem evalBranch_plain (scope : Scope) (truth : Bool) :
    (branches : List Node) → evalBranch s scope.plain truth branches = evalBranch s scope truth branches
  | [] => by simp only [evalBranch]
  | [yes] => by
    simp only [evalBranch]
    rw [yes.eval_plain scope]
  | yes :: no :: _ => by
    simp only [evalBranch]
    rw [yes.eval_plain scope, no.eval_plain scope]

theorem evalAll_plain (scope : Scope) :
    (ns : List Node) → evalAll s scope.plain ns = evalAll s scope ns
  | [] => by simp only [evalAll]
  | n :: rest => by
    simp only [evalAll]
    rw [n.eval_plain scope, evalAll_plain scope rest]

theorem evalFirst_plain (scope : Scope) :
    (ns : List Node) → evalFirst s scope.plain ns = evalFirst s scope ns
  | [] => by simp only [evalFirst]
  | n :: rest => by
    simp only [evalFirst]
    rw [n.eval_plain scope, evalFirst_plain scope rest]

end

/-! ## 3. Results for a list of values -/

section Lists

variable {α β : Type} {act : α → Outcome β} {xs : List α}

theorem bind_eq_ok_iff {outcome : Outcome α} {next : α → Outcome β} {r : β} :
    (outcome >>= next) = .ok r ↔ ∃ x, outcome = .ok x ∧ next x = .ok r := by
  cases outcome with
  | error failure => simp [bind, Except.bind]
  | ok x => simp [ok_bind]

theorem bind_eq_error_iff {outcome : Outcome α} {next : α → Outcome β} {failure : Failure} :
    (outcome >>= next) = .error failure ↔
      outcome = .error failure ∨ ∃ x, outcome = .ok x ∧ next x = .error failure := by
  cases outcome with
  | error failure' => simp [bind, Except.bind]
  | ok x => simp [ok_bind]

/-- The list goes wrong at one of its elements, after all has gone well up to there. -/
def FailsFirst (act : α → Outcome β) (xs : List α) (failure : Failure) : Prop :=
  ∃ front x back, xs = front ++ x :: back ∧ (∀ y ∈ front, ∃ z, act y = .ok z) ∧
    act x = .error failure

theorem failsFirst_cons {x : α} {failure : Failure} :
    FailsFirst act (x :: xs) failure ↔
      act x = .error failure ∨ (∃ z, act x = .ok z) ∧ FailsFirst act xs failure := by
  constructor
  · intro ⟨front, y, back, heq, hfront, hy⟩
    cases front with
    | nil =>
      obtain ⟨rfl, rfl⟩ := List.cons.inj heq
      exact .inl hy
    | cons first front =>
      obtain ⟨rfl, rfl⟩ := List.cons.inj heq
      obtain ⟨hx, hfront⟩ := List.forall_mem_cons.mp hfront
      exact .inr ⟨hx, front, y, back, rfl, hfront, hy⟩
  · intro h
    rcases h with hx | ⟨hx, front, y, back, rfl, hfront, hy⟩
    · exact ⟨[], x, xs, rfl, by simp, hx⟩
    · exact ⟨x :: front, y, back, rfl, List.forall_mem_cons.mpr ⟨hx, hfront⟩, hy⟩

theorem mapM_eq_ok_iff {ys : List β} :
    xs.mapM act = .ok ys ↔ List.Forall₂ (fun x y => act x = .ok y) xs ys := by
  induction xs generalizing ys with
  | nil =>
    show (Except.ok [] : Outcome (List β)) = .ok ys ↔ _
    simp [eq_comm]
  | cons x rest ih =>
    simp only [List.mapM_cons, List.forall₂_cons_left_iff, bind_eq_ok_iff, ih, pure, Except.pure,
      Except.ok.injEq]
    constructor
    · intro ⟨y, hy, more, hmore, heq⟩
      exact ⟨y, more, hy, hmore, heq.symm⟩
    · intro ⟨y, more, hy, hmore, heq⟩
      exact ⟨y, hy, more, hmore, heq.symm⟩

theorem mapM_eq_error_iff {failure : Failure} :
    xs.mapM act = .error failure ↔ FailsFirst act xs failure := by
  induction xs with
  | nil =>
    show (Except.ok [] : Outcome (List β)) = .error failure ↔ _
    simp [FailsFirst]
  | cons x rest ih =>
    simp only [List.mapM_cons, failsFirst_cons, bind_eq_error_iff, ih, pure, Except.pure,
      reduceCtorEq, and_false, exists_false, or_false]
    simp only [exists_and_right]

end Lists

/-- All values of the results in one list, of the type of the last result. -/
def gathered (results : List Values) : Values :=
  .ofList (results.flatMap Values.toList) ((results.getLast?.map Values.type).getD .text)

theorem foreachValue_eq (body : String → Outcome Values) (values : List String) :
    foreachValue body values = (values.mapM body).map gathered := rfl

theorem foreachValue_eq_ok_iff {body : String → Outcome Values} {values : List String} {r : Values} :
    foreachValue body values = .ok r ↔
      ∃ results, List.Forall₂ (fun v result => body v = .ok result) values results ∧
        r = gathered results := by
  simp only [← mapM_eq_ok_iff, foreachValue_eq]
  cases values.mapM body with
  | error failure => simp [Except.map]
  | ok results => simp [Except.map, eq_comm]

theorem foreachValue_eq_error_iff {body : String → Outcome Values} {values : List String}
    {failure : Failure} :
    foreachValue body values = .error failure ↔ FailsFirst body values failure := by
  rw [← mapM_eq_error_iff, foreachValue_eq]
  cases values.mapM body with
  | error failure' => simp [Except.map]
  | ok results => simp [Except.map]

/-- The value has a result, and `true` is in it. -/
def Holds (predicate : String → Outcome Values) (value : String) : Prop :=
  ∃ result, predicate value = .ok result ∧ "true" ∈ result.toList

/-- Results beside their values fail where the results do. -/
theorem mapM_pairs_eq_error_iff {α β : Type} {act : α → Outcome β} {xs : List α} {failure : Failure} :
    (xs.mapM fun x => return (x, ← act x) : Outcome (List (α × β))) = .error failure ↔
      FailsFirst act xs failure := by
  have hok (x : α) : (∃ z, (do return (x, ← act x) : Outcome (α × β)) = .ok z) ↔
      ∃ z, act x = .ok z := by
    simp only [bind_eq_ok_iff, pure, Except.pure, Except.ok.injEq]
    exact ⟨fun ⟨_, y, hy, _⟩ => ⟨y, hy⟩, fun ⟨y, hy⟩ => ⟨(x, y), y, hy, rfl⟩⟩
  simp only [mapM_eq_error_iff, FailsFirst, hok]
  simp only [bind_eq_error_iff, pure, Except.pure, reduceCtorEq, and_false, exists_false, or_false]

/-- What is kept of the values when their results are there: those that hold. -/
theorem mem_kept {predicate : String → Outcome Values} {values : List String}
    {results : List (String × Values)}
    (hresults : (values.mapM fun v => return (v, ← predicate v) :
      Outcome (List (String × Values))) = .ok results) (v : String) :
    v ∈ KeySet.ofList ((results.filter fun r => r.2.contains "true").map Prod.fst) ↔
      v ∈ values ∧ Holds predicate v := by
  obtain ⟨rfl, hdone⟩ := ok_of_mapM_pairs hresults
  simp only [KeySet.mem_ofList, List.mem_map, List.mem_filter, Values.contains, decide_eq_true_eq]
  constructor
  · intro hmem
    obtain ⟨r, ⟨hr, htrue⟩, hv⟩ := hmem
    exact ⟨⟨r, hr, hv⟩, r.2, hv ▸ hdone r hr, htrue⟩
  · intro hholds
    obtain ⟨⟨r, hr, hv⟩, result, hresult, htrue⟩ := hholds
    obtain rfl : r.2 = result := Except.ok.inj ((hdone r hr).symm.trans (hv ▸ hresult))
    exact ⟨r, ⟨hr, htrue⟩, hv⟩

theorem filterValues_eq_ok_iff {predicate : String → Outcome Values} {values : List String}
    {kept : KeySet} :
    filterValues predicate values = .ok kept ↔
      (∀ v ∈ values, ∃ result, predicate v = .ok result) ∧
        ∀ v, v ∈ kept ↔ v ∈ values ∧ Holds predicate v := by
  unfold filterValues
  constructor
  · intro h
    cases hresults : (values.mapM fun v => return (v, ← predicate v) :
        Outcome (List (String × Values))) with
    | error failure =>
      rw [hresults] at h
      cases h
    | ok results =>
      rw [hresults] at h
      cases h
      refine ⟨fun v hv => ?_, mem_kept hresults⟩
      obtain ⟨hvalues, hdone⟩ := ok_of_mapM_pairs hresults
      rw [← hvalues] at hv
      obtain ⟨r, hr, rfl⟩ := List.mem_map.mp hv
      exact ⟨r.2, hdone r hr⟩
  · intro h
    obtain ⟨hall, hkept⟩ := h
    obtain ⟨results, hresults⟩ := mapM_pairs_succeeds hall
    rw [hresults]
    exact congrArg Except.ok (KeySet.ext fun v => (mem_kept hresults v).trans (hkept v).symm)

theorem filterValues_eq_error_iff {predicate : String → Outcome Values} {values : List String}
    {failure : Failure} :
    filterValues predicate values = .error failure ↔ FailsFirst predicate values failure := by
  rw [← mapM_pairs_eq_error_iff]
  unfold filterValues
  simp only [bind_eq_error_iff (α := List (String × Values)), pure, Except.pure, reduceCtorEq,
    and_false, exists_false, or_false]

/-! ## 4. Controls -/

/-- The expression on its own, with the default variable of the scope bound to the value. -/
def evalFor (e : Expression) (s : Store) (scope : Scope) (type : ValueType) (value : String) :
    Outcome Values :=
  e.eval (scope.roots.insert scope.defaultName (.one value, type)) scope.defaultName s

/-- On its own an expression has the value that it has in any scope with the same visible variables. -/
theorem eval_visible (e : Expression) (s : Store) (scope : Scope) :
    e.root.eval s scope = e.eval scope.visible scope.defaultName s :=
  (e.root.eval_plain scope).symm

theorem eval_bind (e : Expression) (s : Store) (scope : Scope) (value : String) (type : ValueType) :
    e.root.eval s (scope.bind value type) = e.evalFor s scope type value :=
  e.eval_visible s (scope.bind value type)

theorem eval_foreach (collection body : Expression) (more : List Node) (s : Store) (scope : Scope) :
    (Node.control .foreach (collection.root :: body.root :: more)).eval s scope =
      collection.eval scope.visible scope.defaultName s >>= fun values =>
        foreachValue (body.evalFor s scope values.type) values.toList := by
  simp only [Node.eval, eval_visible collection, eval_bind body]

theorem eval_filter (collection body : Expression) (more : List Node) (s : Store) (scope : Scope) :
    (Node.control .filter (collection.root :: body.root :: more)).eval s scope =
      collection.eval scope.visible scope.defaultName s >>= fun values =>
        filterValues (body.evalFor s scope values.type) values.toList >>= fun kept =>
          pure (.ofSet kept values.type) := by
  simp only [Node.eval, eval_visible collection, eval_bind body]

/-- **Rebinding is binding.** In every scope, those included that other controls have made, the second
    argument of `foreach` and `filter` has the value, or the failure, that it has on its own where the
    default variable is bound to the value at hand. `foreach` has all values of the results, in the order
    of the values of its first argument; `filter` has the values with `true` among the results; and both
    fail with the first argument, or as the first of the values for which there is a failure. -/
theorem eval_rebound (s : Store) (scope : Scope) (collection body : Expression) (more : List Node) :
    (∀ value type, body.root.eval s (scope.bind value type) = body.evalFor s scope type value) ∧
    collection.root.eval s scope = collection.eval scope.visible scope.defaultName s ∧
    (∀ r, (Node.control .foreach (collection.root :: body.root :: more)).eval s scope = .ok r ↔
      ∃ values results, collection.eval scope.visible scope.defaultName s = .ok values ∧
        List.Forall₂ (fun v result => body.evalFor s scope values.type v = .ok result)
          values.toList results ∧ r = gathered results) ∧
    (∀ r, (Node.control .filter (collection.root :: body.root :: more)).eval s scope = .ok r ↔
      ∃ values kept, collection.eval scope.visible scope.defaultName s = .ok values ∧
        (∀ v ∈ values.toList, ∃ result, body.evalFor s scope values.type v = .ok result) ∧
        (∀ v, v ∈ kept ↔ v ∈ values.toList ∧ Holds (body.evalFor s scope values.type) v) ∧
        r = .ofSet kept values.type) ∧
    ∀ control ∈ [Control.foreach, Control.filter], ∀ failure,
      (Node.control control (collection.root :: body.root :: more)).eval s scope = .error failure ↔
        collection.eval scope.visible scope.defaultName s = .error failure ∨
          ∃ values, collection.eval scope.visible scope.defaultName s = .ok values ∧
            FailsFirst (body.evalFor s scope values.type) values.toList failure := by
  refine ⟨body.eval_bind s scope, collection.eval_visible s scope, fun r => ?_, fun r => ?_, ?_⟩
  · simp only [eval_foreach, bind_eq_ok_iff, foreachValue_eq_ok_iff, exists_and_left]
  · simp only [eval_filter, bind_eq_ok_iff, filterValues_eq_ok_iff, pure, Except.pure,
      Except.ok.injEq, and_assoc, exists_and_left, @eq_comm _ r]
  · intro control hcontrol failure
    simp only [List.mem_cons, List.not_mem_nil, or_false] at hcontrol
    rcases hcontrol with rfl | rfl
    · simp only [eval_foreach, bind_eq_error_iff, foreachValue_eq_error_iff]
    · simp only [eval_filter, bind_eq_error_iff, filterValues_eq_error_iff, pure, Except.pure,
        reduceCtorEq, and_false, exists_false, or_false]

end Faceted.Expression
