import Faceted.Json
import Faceted.Failure

/-!
# Values that ranges compare

A range has numbers or texts as bounds. All numbers come before all texts; texts are ordered by code
point, and numbers by the total order of doubles, in which minus zero comes before zero.

Main statements: `before` is irreflexive and transitive, and of two values that are not the same one
comes before the other (`before_trichotomy`).
-/

namespace Faceted

/-! ## 1. The order of doubles -/

/-- The place of a double in the total order: the bits as a number, mirrored for negative doubles. -/
def totalOrderKey (x : Float) : Int :=
  let n := x.toBits.toNat
  if n < Nat.pow 2 63 then n else (Nat.pow 2 63 : Int) - 1 - n

/-! ## 2. Range values -/

inductive RangeValue where
  | number (x : Float)
  | text (s : String)

namespace RangeValue

instance : Inhabited RangeValue := ⟨.number 0.0⟩

/-- A number if the whole text is one, else the text itself. -/
def ofText (s : String) : RangeValue :=
  match parseNumber? s with
  | some x => .number x
  | none => .text s

def number? : RangeValue → Option Float
  | .number x => some x
  | .text _ => none

def text? : RangeValue → Option String
  | .number _ => none
  | .text s => some s

/-- The value as text, a number in its one text form. -/
def toText : RangeValue → String
  | .number x => formatNumber x
  | .text s => s

/-! ## 3. The order -/

/-- Does `a` come before `b`? -/
def before (a b : RangeValue) : Bool :=
  match a, b with
  | .number x, .number y => totalOrderKey x < totalOrderKey y
  | .number _, .text _ => true
  | .text _, .number _ => false
  | .text s, .text t => decide (s < t)

/-- Do `a` and `b` have the same place? -/
def same (a b : RangeValue) : Bool :=
  match a, b with
  | .number x, .number y => totalOrderKey x == totalOrderKey y
  | .text s, .text t => s == t
  | _, _ => false

instance : BEq RangeValue := ⟨same⟩

theorem before_irrefl (a : RangeValue) : before a a = false := by
  cases a <;> simp [before]

theorem before_trans {a b c : RangeValue} (hab : before a b = true) (hbc : before b c = true) :
    before a c = true := by
  match a, b, c, hab, hbc with
  | .number _, .number _, .number _, hab, hbc =>
    simp only [before, decide_eq_true_eq] at *
    omega
  | .number _, .number _, .text _, _, _ => rfl
  | .number _, .text _, .text _, _, _ => rfl
  | .text _, .text _, .text _, hab, hbc =>
    simp only [before, decide_eq_true_eq] at *
    exact String.lt_trans hab hbc

theorem same_refl (a : RangeValue) : same a a = true := by
  cases a <;> simp [same]

theorem before_trichotomy (a b : RangeValue) :
    before a b = true ∨ same a b = true ∨ before b a = true := by
  cases a <;> cases b <;> simp only [before, same, decide_eq_true_eq, beq_iff_eq]
  · omega
  · simp
  · simp
  · next s t =>
    rcases String.le_total s t with h | h
    · by_cases e : s = t
      · exact .inr (.inl e)
      · exact .inl (String.not_le.mp fun h' => e (String.le_antisymm h h'))
    · by_cases e : s = t
      · exact .inr (.inl e)
      · exact .inr (.inr (String.not_le.mp fun h' => e (String.le_antisymm h' h)))

/-- A value comes before another iff it is neither the same nor after it. -/
theorem not_before_iff {a b : RangeValue} :
    before a b = false ↔ same a b = true ∨ before b a = true := by
  constructor
  · intro h
    rcases before_trichotomy a b with h' | h'
    · simp [h] at h'
    · exact h'
  · intro h
    cases a <;> cases b <;> simp only [before, same, decide_eq_true_eq, beq_iff_eq,
      decide_eq_false_iff_not] at *
    · omega
    · simp at h
    · rcases h with h | h
      · exact h ▸ String.lt_irrefl _
      · exact fun h' => String.lt_irrefl _ (String.lt_trans h h')

/-! ## 4. JSON -/

/-- The value as JSON: a number or a string. -/
def toJson : RangeValue → Json
  | .number x => .float x
  | .text s => .string s

/-- A number or a string; nothing else is a range value. -/
def ofJson? (v : Json) : Option RangeValue :=
  match v with
  | .string s => some (.text s)
  | .int n => some (.number (Decimal.ofInt n))
  | .float x => some (.number x)
  | _ => none

end RangeValue

end Faceted
