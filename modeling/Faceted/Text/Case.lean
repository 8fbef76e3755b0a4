import Faceted.Text.CaseTable

/-!
# Upper and lower case

`toUpper` and `toLower` apply the full Unicode case mappings: one character may become several
(`ß` is upper-cased to `SS`). Lower-casing is context-free but for one letter: a capital sigma
becomes a final sigma at the end of a word. Main statement: `toUpper_append`, upper-casing works
character by character, and so does lower-casing of a text without capital sigma
(`toLower_eq_flatMap`).
-/

namespace Faceted.Text

/-! ## 1. One character -/

/-- The image of a code point under the first run that contains it. -/
def runImage (n : Nat) : List CaseRun → Option Char
  | [] => none
  | r :: rs =>
    if r.first ≤ n ∧ n ≤ r.last ∧ (n - r.first) % r.step = 0 then
      some (Char.ofNat ((n : Int) + r.shift).toNat)
    else runImage n rs

/-- The image of a character: an expansion if there is one, else its run's image, else itself. -/
def caseImage (expansions : List (Nat × List Nat)) (runs : List CaseRun) (c : Char) : List Char :=
  match expansions.lookup c.toNat with
  | some image => image.map Char.ofNat
  | none => [(runImage c.toNat runs).getD c]

/-- The upper-case image of one character. -/
def upperChar (c : Char) : List Char :=
  if c.toNat < 0x80 then [c.toUpper] else caseImage upperExpansions upperRuns c

/-- The lower-case image of one character, away from the end of a word. -/
def lowerChar (c : Char) : List Char :=
  if c.toNat < 0x80 then [c.toLower] else caseImage lowerExpansions lowerRuns c

/-! ## 2. Texts -/

/-- The text with every character replaced by its upper-case image. -/
def toUpper (cs : List Char) : List Char := cs.flatMap upperChar

@[simp] theorem toUpper_nil : toUpper [] = [] := rfl

@[simp] theorem toUpper_append (xs ys : List Char) : toUpper (xs ++ ys) = toUpper xs ++ toUpper ys := by
  simp [toUpper]

/-- Is the first character that is not case-ignorable a cased one? -/
def meetsCased (cs : List Char) : Bool :=
  match cs.dropWhile (inRanges caseIgnorableRanges) with
  | [] => false
  | c :: _ => inRanges casedRanges c

/-- Capital sigma. -/
def capitalSigma : Char := 'Σ'

/-- Lower-cases `cs`, where `before` holds the characters already passed, the latest first. A
    capital sigma ends a word iff a cased letter stands before it and none after it. -/
def toLowerAfter (before : List Char) : List Char → List Char
  | [] => []
  | c :: cs =>
    let image :=
      if c = capitalSigma then
        if meetsCased before && !meetsCased cs then ['ς'] else ['σ']
      else lowerChar c
    image ++ toLowerAfter (c :: before) cs

/-- The text in lower case. -/
def toLower (cs : List Char) : List Char := toLowerAfter [] cs

theorem toLowerAfter_eq_flatMap (cs : List Char) :
    ∀ before, capitalSigma ∉ cs → toLowerAfter before cs = cs.flatMap lowerChar := by
  induction cs with
  | nil => intro _ _; rfl
  | cons c cs ih =>
    intro before h
    have hc : c ≠ capitalSigma := fun e => h (e ▸ List.mem_cons_self)
    have hcs : capitalSigma ∉ cs := fun e => h (List.mem_cons_of_mem _ e)
    simp [toLowerAfter, hc, ih _ hcs]

/-- Without capital sigma, lower-casing works character by character. -/
theorem toLower_eq_flatMap {cs : List Char} (h : capitalSigma ∉ cs) :
    toLower cs = cs.flatMap lowerChar :=
  toLowerAfter_eq_flatMap cs [] h

/-- The text in upper case. -/
def upperCased (s : String) : String := String.ofList (toUpper s.toList)

/-- The text in lower case. -/
def lowerCased (s : String) : String := String.ofList (toLower s.toList)

end Faceted.Text
