/-!
# Sets of keys

Item ids, property values and results of evaluation travel as sets of texts. A set is kept as its
strictly ascending list of keys, so it has one representation: two sets with the same members are
equal (`ext`), and walking a set visits its keys in ascending order.

Main statements: one membership lemma per operation (`mem_insert`, `mem_erase`, `mem_union`,
`mem_inter`, `mem_filter`, `mem_ofList`).
-/

namespace Faceted

/-! ## 1. Ascending lists -/

/-- Puts a key at its place in an ascending list, unless it is there already. -/
def insertKey (k : String) : List String → List String
  | [] => [k]
  | x :: xs => if k < x then k :: x :: xs else if x < k then x :: insertKey k xs else x :: xs

theorem mem_insertKey {k a : String} {xs : List String} :
    a ∈ insertKey k xs ↔ a = k ∨ a ∈ xs := by
  induction xs with
  | nil => simp [insertKey]
  | cons x xs ih =>
    unfold insertKey
    by_cases hkx : k < x
    · simp [hkx]
    · by_cases hxk : x < k
      · simp only [hkx, hxk, if_false, if_true, List.mem_cons, ih]
        constructor <;> rintro (h | h | h) <;> simp [h]
      · have hk : k = x := String.le_antisymm (String.not_lt.mp hxk) (String.not_lt.mp hkx)
        subst hk
        simp

theorem pairwise_insertKey {k : String} {xs : List String} (h : xs.Pairwise (· < ·)) :
    (insertKey k xs).Pairwise (· < ·) := by
  induction xs with
  | nil => simp [insertKey]
  | cons x xs ih =>
    obtain ⟨hx, hxs⟩ := List.pairwise_cons.mp h
    unfold insertKey
    by_cases hkx : k < x
    · rw [if_pos hkx]
      refine List.pairwise_cons.mpr ⟨fun a ha => ?_, h⟩
      rcases List.mem_cons.mp ha with rfl | ha
      · exact hkx
      · exact String.lt_trans hkx (hx a ha)
    · rw [if_neg hkx]
      by_cases hxk : x < k
      · rw [if_pos hxk]
        refine List.pairwise_cons.mpr ⟨fun a ha => ?_, ih hxs⟩
        rcases mem_insertKey.mp ha with rfl | ha
        · exact hxk
        · exact hx a ha
      · rw [if_neg hxk]
        exact h

/-- An ascending list is determined by its members. -/
theorem eq_of_mem_iff : ∀ {xs ys : List String}, xs.Pairwise (· < ·) → ys.Pairwise (· < ·) →
    (∀ a, a ∈ xs ↔ a ∈ ys) → xs = ys
  | [], [], _, _, _ => rfl
  | [], y :: ys, _, _, h => absurd ((h y).mpr List.mem_cons_self) (by simp)
  | x :: xs, [], _, _, h => absurd ((h x).mp List.mem_cons_self) (by simp)
  | x :: xs, y :: ys, hx, hy, h => by
    obtain ⟨hxlt, hxs⟩ := List.pairwise_cons.mp hx
    obtain ⟨hylt, hys⟩ := List.pairwise_cons.mp hy
    have hxy : x = y := by
      rcases List.mem_cons.mp ((h x).mp List.mem_cons_self) with e | hxin
      · exact e
      · rcases List.mem_cons.mp ((h y).mpr List.mem_cons_self) with e | hyin
        · exact e.symm
        · exact absurd (String.lt_trans (hylt x hxin) (hxlt y hyin)) (String.lt_irrefl y)
    subst hxy
    have htail : ∀ a, a ∈ xs ↔ a ∈ ys := by
      intro a
      constructor
      · intro ha
        rcases List.mem_cons.mp ((h a).mp (List.mem_cons_of_mem _ ha)) with e | ha'
        · exact absurd (e ▸ hxlt a ha) (String.lt_irrefl a)
        · exact ha'
      · intro ha
        rcases List.mem_cons.mp ((h a).mpr (List.mem_cons_of_mem _ ha)) with e | ha'
        · exact absurd (e ▸ hylt a ha) (String.lt_irrefl a)
        · exact ha'
    rw [eq_of_mem_iff hxs hys htail]

/-! ## 2. The type -/

/-- A finite set of keys, as its ascending list. -/
structure KeySet where
  keys : List String
  ascending : keys.Pairwise (· < ·)
  deriving DecidableEq

namespace KeySet

instance : Membership String KeySet := ⟨fun s k => k ∈ s.keys⟩

instance (k : String) (s : KeySet) : Decidable (k ∈ s) := inferInstanceAs (Decidable (k ∈ s.keys))

theorem mem_def {k : String} {s : KeySet} : k ∈ s ↔ k ∈ s.keys := Iff.rfl

/-- Sets with the same members are equal. -/
theorem ext {s t : KeySet} (h : ∀ k, k ∈ s ↔ k ∈ t) : s = t := by
  obtain ⟨xs, hxs⟩ := s
  obtain ⟨ys, hys⟩ := t
  have : xs = ys := eq_of_mem_iff hxs hys h
  subst this
  rfl

/-! ## 3. Operations -/

/-- The set without members. -/
def empty : KeySet := ⟨[], List.Pairwise.nil⟩

instance : EmptyCollection KeySet := ⟨empty⟩
instance : Inhabited KeySet := ⟨empty⟩

@[simp] theorem not_mem_empty {k : String} : ¬ k ∈ (empty : KeySet) := by
  simp [mem_def, empty]

def contains (s : KeySet) (k : String) : Bool := decide (k ∈ s)

@[simp] theorem contains_iff {s : KeySet} {k : String} : s.contains k = true ↔ k ∈ s := by
  simp [contains]

theorem contains_eq_false_iff {s : KeySet} {k : String} : s.contains k = false ↔ ¬ k ∈ s := by
  simp [contains]

/-- The keys in ascending order. -/
def toList (s : KeySet) : List String := s.keys

@[simp] theorem mem_toList {s : KeySet} {k : String} : k ∈ s.toList ↔ k ∈ s := Iff.rfl

theorem nodup_toList (s : KeySet) : s.toList.Nodup :=
  List.Pairwise.imp (fun {a b} (hlt : a < b) (heq : a = b) => String.lt_irrefl b (heq ▸ hlt))
    s.ascending

def size (s : KeySet) : Nat := s.keys.length

def isEmpty (s : KeySet) : Bool := s.keys.isEmpty

/-- The least key. -/
def first? (s : KeySet) : Option String := s.keys.head?

def insert (s : KeySet) (k : String) : KeySet := ⟨insertKey k s.keys, pairwise_insertKey s.ascending⟩

@[simp] theorem mem_insert {s : KeySet} {k a : String} : a ∈ s.insert k ↔ a = k ∨ a ∈ s :=
  mem_insertKey

/-- The members that pass the test. -/
def filter (p : String → Bool) (s : KeySet) : KeySet := ⟨s.keys.filter p, s.ascending.filter p⟩

@[simp] theorem mem_filter {p : String → Bool} {s : KeySet} {k : String} :
    k ∈ s.filter p ↔ k ∈ s ∧ p k = true :=
  List.mem_filter

def erase (s : KeySet) (k : String) : KeySet := s.filter (· != k)

@[simp] theorem mem_erase {s : KeySet} {k a : String} : a ∈ s.erase k ↔ a ∈ s ∧ a ≠ k := by
  simp [erase]

/-- Adds all keys of a list. -/
def insertMany (s : KeySet) (ks : List String) : KeySet := ks.foldl insert s

@[simp] theorem mem_insertMany {ks : List String} : ∀ {s : KeySet} {a : String},
    a ∈ s.insertMany ks ↔ a ∈ s ∨ a ∈ ks := by
  induction ks with
  | nil => intro s a; simp [insertMany]
  | cons k ks ih =>
    intro s a
    show a ∈ (s.insert k).insertMany ks ↔ _
    rw [ih, mem_insert, List.mem_cons]
    constructor
    · rintro ((h | h) | h)
      · exact .inr (.inl h)
      · exact .inl h
      · exact .inr (.inr h)
    · rintro (h | h | h)
      · exact .inl (.inr h)
      · exact .inl (.inl h)
      · exact .inr h

/-- The set of the members of a list. -/
def ofList (ks : List String) : KeySet := empty.insertMany ks

@[simp] theorem mem_ofList {ks : List String} {a : String} : a ∈ ofList ks ↔ a ∈ ks := by
  simp [ofList]

def union (s t : KeySet) : KeySet := s.insertMany t.keys

@[simp] theorem mem_union {s t : KeySet} {a : String} : a ∈ s.union t ↔ a ∈ s ∨ a ∈ t :=
  mem_insertMany

def inter (s t : KeySet) : KeySet := s.filter t.contains

@[simp] theorem mem_inter {s t : KeySet} {a : String} : a ∈ s.inter t ↔ a ∈ s ∧ a ∈ t := by
  simp [inter]

def diff (s t : KeySet) : KeySet := s.filter fun k => !t.contains k

@[simp] theorem mem_diff {s t : KeySet} {a : String} : a ∈ s.diff t ↔ a ∈ s ∧ ¬ a ∈ t := by
  simp [diff, contains]

/-- Does the key pass an optional filter? Without a filter every key does. -/
def passes (filter : Option KeySet) (k : String) : Bool :=
  match filter with
  | none => true
  | some f => f.contains k

@[simp] theorem passes_none {k : String} : passes none k = true := rfl

@[simp] theorem passes_some {f : KeySet} {k : String} : passes (some f) k = true ↔ k ∈ f :=
  contains_iff

/-- The members that two sets share, added to a third set. -/
def intersectInto (a b into : KeySet) : KeySet := into.union (a.inter b)

end KeySet

end Faceted
