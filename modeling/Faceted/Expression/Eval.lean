import Faceted.Expression.Functions
import Faceted.Expression.Parser
import Faceted.Expression.Walk

/-!
# Evaluating expressions

An expression is evaluated over a store in a scope of variables. Operators join every value of the
left side with every value of the right side. `foreach` and `filter` evaluate their second argument
once for each value of the first, with the default variable standing for that value; `Scope.lookup`
says that this rebinding hides what the default variable is bound to otherwise.
-/

namespace Faceted.Expression

/-! ## 1. Scopes -/

/-- The variables an expression sees. `bound` is what the default variable stands for while a control
    goes through values. -/
structure Scope where
  roots : Roots
  defaultName : String
  bound : Option (Binding × ValueType)

namespace Scope

/-- The variable of the name, or the default variable. -/
def lookup (scope : Scope) (name : Option String) : Outcome (Binding × ValueType) :=
  let name := name.getD scope.defaultName
  match (if name = scope.defaultName then scope.bound else none).or (scope.roots.get? name) with
  | some binding => .ok binding
  | none => .error (.evaluation (.noVariable name))

/-- The scope in which the default variable stands for one value. -/
def bind (scope : Scope) (value : String) (type : ValueType) : Scope :=
  { scope with bound := some (.one value, type) }

end Scope

/-! ## 2. Operators -/

/-- Two texts are equal as numbers if both are numbers, else as texts. -/
def looselyEqual (a b : String) : Bool :=
  match parseNumber? a, parseNumber? b with
  | some x, some y => x == y
  | _, _ => a == b

/-- The result of an operator on two values. -/
def Operator.onValues (o : Operator) (a b : String) : String :=
  match o with
  | .add => formatNumber (parseFloat a + parseFloat b)
  | .subtract => formatNumber (parseFloat a - parseFloat b)
  | .multiply => formatNumber (parseFloat a * parseFloat b)
  | .divide => formatNumber (parseFloat a / parseFloat b)
  | .equal => booleanText (looselyEqual a b)
  | .notEqual => booleanText !looselyEqual a b
  | .less => booleanText (parseFloat a < parseFloat b)
  | .greater => booleanText (parseFloat a > parseFloat b)
  | .lessOrEqual => booleanText (parseFloat a ≤ parseFloat b)
  | .greaterOrEqual => booleanText (parseFloat a ≥ parseFloat b)

/-- The results of an operator on all pairs of values. -/
def Operator.apply (o : Operator) (left right : Values) : Values :=
  .ofList (left.toList.flatMap fun a => right.toList.map fun b => o.onValues a b)
    (if o.isComparison then .boolean else .number)

/-! ## 3. Controls over values -/

/-- Joins the results of a body for all values, in order. The type is that of the last result. -/
def foreachValue (body : String → Outcome Values) : List String → Outcome Values
  | values => do
    let results ← values.mapM body
    return .ofList (results.flatMap Values.toList) ((results.getLast?.map Values.type).getD .text)

/-- The values for which a predicate's result contains `true`. -/
def filterValues (predicate : String → Outcome Values) (values : List String) : Outcome KeySet := do
  let results ← values.mapM fun v => return (v, ← predicate v)
  return KeySet.ofList ((results.filter fun r => r.2.contains "true").map Prod.fst)

/-! ## 4. Trees -/

/-- What a control says when it has not the argument at the place. -/
def missing (c : Control) (place : Nat) : Outcome Values :=
  .error (.evaluation (.tooFewArguments c.name (place + 1)))

mutual

/-- The value of a tree. -/
def Node.eval (s : Store) (scope : Scope) : Node → Outcome Values
  | .constant value type => .ok (.single value type)
  | .path p => do
    let (binding, type) ← scope.lookup p.root
    return walkForward s p.hops (binding.values type)
  | .binary o left right => do
    let l ← left.eval s scope
    let r ← right.eval s scope
    return o.apply l r
  | .call name arguments => do
    match Function.ofName? name with
    | none => .error (.evaluation (.noFunction name))
    | some f => f.apply s.present (← evalAll s scope arguments)
  | .control .ifThenElse arguments =>
    match arguments with
    | [] => missing .ifThenElse 0
    | condition :: branches => do
      let c ← condition.eval s scope
      evalBranch s scope c.anyTruthy branches
  | .control .foreach arguments =>
    match arguments with
    | [] => missing .foreach 0
    | collection :: rest => do
      let values ← collection.eval s scope
      match rest with
      | [] => missing .foreach 1
      | body :: _ => foreachValue (fun v => body.eval s (scope.bind v values.type)) values.toList
  | .control .filter arguments =>
    match arguments with
    | [] => missing .filter 0
    | collection :: rest => do
      let values ← collection.eval s scope
      match rest with
      | [] => missing .filter 1
      | predicate :: _ =>
        let kept ← filterValues (fun v => predicate.eval s (scope.bind v values.type)) values.toList
        return .ofSet kept values.type
  | .control .default arguments => evalFirst s scope arguments

/-- The first branch for true, the second for false. -/
def evalBranch (s : Store) (scope : Scope) (truth : Bool) : List Node → Outcome Values
  | [] => missing .ifThenElse (if truth then 1 else 2)
  | yes :: rest =>
    if truth then yes.eval s scope
    else
      match rest with
      | [] => missing .ifThenElse 2
      | no :: _ => no.eval s scope

/-- The values of all arguments, in order. -/
def evalAll (s : Store) (scope : Scope) : List Node → Outcome (List Values)
  | [] => .ok []
  | n :: rest => do
    let v ← n.eval s scope
    let vs ← evalAll s scope rest
    return v :: vs

/-- The first argument that has values. -/
def evalFirst (s : Store) (scope : Scope) : List Node → Outcome Values
  | [] => .ok (.empty .text)
  | n :: rest => do
    let v ← n.eval s scope
    if v.isEmpty then evalFirst s scope rest else return v

end

end Faceted.Expression

/-! ## 5. Expressions -/

namespace Faceted.Expression

/-- Evaluates with the given variables. -/
def eval (e : Expression) (roots : Roots) (defaultName : String) (s : Store) : Outcome Values :=
  e.root.eval s ⟨roots, defaultName, none⟩

/-- Evaluates with the default variable standing for an item. -/
def evalOnItem (e : Expression) (item : String) (s : Store) : Outcome Values :=
  e.eval (Roots.ofItem item) Roots.defaultName s

/-- The first value and the type of the result. -/
def evalSingle (e : Expression) (roots : Roots) (defaultName : String) (s : Store) :
    Outcome (Option String × ValueType) := do
  let values ← e.eval roots defaultName s
  return (values.first?, values.type)

/-- Does the expression have any value? -/
def hasValues (e : Expression) (roots : Roots) (defaultName : String) (s : Store) :
    Outcome Bool := do
  return !(← e.eval roots defaultName s).isEmpty

/-- Evaluates a path on its own. -/
def Path.eval (p : Path) (roots : Roots) (defaultName : String) (s : Store) : Outcome Values := do
  let scope : Scope := ⟨roots, defaultName, none⟩
  let (binding, type) ← scope.lookup p.root
  return walkForward s p.hops (binding.values type)

end Faceted.Expression
