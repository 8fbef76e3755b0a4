/-!
# Blanks around a text

The blanks are the characters with the Unicode property `White_Space`; `trim` removes them at both
ends and `trimStart` at the start only. What is left of a trimmed text neither starts with a blank
(`head?_trimStart`) nor is changed by trimming again (`trimStart_trimStart`).
-/

namespace Faceted.Text

/-! ## 1. The property -/

/-- Has the character the property `White_Space`? -/
def isBlank (c : Char) : Bool :=
  let n := c.toNat
  (0x09 ≤ n && n ≤ 0x0D) || n == 0x20 || n == 0x85 || n == 0xA0 || n == 0x1680 ||
    (0x2000 ≤ n && n ≤ 0x200A) || n == 0x2028 || n == 0x2029 || n == 0x202F || n == 0x205F ||
    n == 0x3000

/-! ## 2. Trimming -/

/-- The characters after the leading blanks. -/
def trimStart (cs : List Char) : List Char := cs.dropWhile isBlank

/-- The characters between the leading and the trailing blanks. -/
def trim (cs : List Char) : List Char := (trimStart (trimStart cs).reverse).reverse

/-- The text between its leading and trailing blanks. -/
def trimmed (s : String) : String := String.ofList (trim s.toList)

theorem trimStart_cons (c : Char) (cs : List Char) :
    trimStart (c :: cs) = if isBlank c then trimStart cs else c :: cs := by
  simp [trimStart, List.dropWhile_cons]

/-- What is left starts with no blank. -/
theorem head?_trimStart : ∀ {cs : List Char} {c : Char},
    (trimStart cs).head? = some c → isBlank c = false
  | [], _, h => by simp [trimStart] at h
  | a :: cs, c, h => by
    rw [trimStart_cons] at h
    by_cases ha : isBlank a = true
    · rw [if_pos ha] at h
      exact head?_trimStart h
    · rw [if_neg ha] at h
      simp only [List.head?_cons, Option.some.injEq] at h
      simpa [h] using ha

theorem trimStart_trimStart (cs : List Char) : trimStart (trimStart cs) = trimStart cs := by
  induction cs with
  | nil => rfl
  | cons c cs ih =>
    rw [trimStart_cons]
    by_cases hc : isBlank c = true
    · rw [if_pos hc, ih]
    · rw [if_neg hc, trimStart_cons, if_neg hc]

end Faceted.Text
