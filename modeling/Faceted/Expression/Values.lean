import Faceted.KeyMap
import Faceted.ValueType

/-!
# Results of evaluation

An expression yields values of one type, as a set or as a list. A set is walked in ascending order; a
list keeps order and repetitions.
-/

namespace Faceted

/-- Values as a set or as a list. -/
inductive Contents where
  | set (values : KeySet)
  | list (values : List String)

structure Values where
  contents : Contents
  type : ValueType

namespace Values

def ofSet (values : KeySet) (type : ValueType) : Values := ⟨.set values, type⟩

def ofList (values : List String) (type : ValueType) : Values := ⟨.list values, type⟩

def single (value : String) (type : ValueType) : Values := ofList [value] type

def empty (type : ValueType) : Values := ofSet ∅ type

instance : Inhabited Values := ⟨empty .text⟩

/-- The values in the order of a walk. -/
def toList (vs : Values) : List String :=
  match vs.contents with
  | .set values => values.toList
  | .list values => values

/-- The distinct values. -/
def toSet (vs : Values) : KeySet :=
  match vs.contents with
  | .set values => values
  | .list values => KeySet.ofList values

/-- How many values there are, repetitions counted. -/
def size (vs : Values) : Nat := vs.toList.length

def isEmpty (vs : Values) : Bool := vs.toList.isEmpty

def contains (vs : Values) (value : String) : Bool := decide (value ∈ vs.toList)

def first? (vs : Values) : Option String := vs.toList.head?

/-- Does any value count as true? -/
def anyTruthy (vs : Values) : Bool := vs.toList.any fun v => isTruthy v vs.type

/-- The values that pass a test, as a set or a list like the whole. -/
def filter (p : String → Bool) (vs : Values) : Values :=
  match vs.contents with
  | .set values => ⟨.set (values.filter p), vs.type⟩
  | .list values => ⟨.list (values.filter p), vs.type⟩

@[simp] theorem toList_ofSet (s : KeySet) (t : ValueType) : (ofSet s t).toList = s.toList := rfl

@[simp] theorem toList_ofList (l : List String) (t : ValueType) : (ofList l t).toList = l := rfl

@[simp] theorem mem_toSet {vs : Values} {v : String} : v ∈ vs.toSet ↔ v ∈ vs.toList := by
  unfold toSet toList
  split <;> simp

end Values

/-! ## Bindings -/

/-- What a variable is bound to. -/
inductive Binding where
  | one (value : String)
  | many (values : KeySet)

/-- The values of a binding. -/
def Binding.values (b : Binding) (type : ValueType) : Values :=
  match b with
  | .one value => .single value type
  | .many values => .ofSet values type

/-- Variables with what they are bound to and its type. -/
abbrev Roots := KeyMap (Binding × ValueType)

namespace Roots

/-- The variable that stands for the current value unless another is named. -/
def defaultName : String := "value"

/-- Binds the default variable to one item. -/
def ofItem (item : String) : Roots := (∅ : Roots).insert defaultName (.one item, .item)

/-- Binds the default variable to a set of items. -/
def ofItems (items : KeySet) : Roots := (∅ : Roots).insert defaultName (.many items, .item)

end Roots

end Faceted
