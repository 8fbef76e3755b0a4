import Faceted.KeySet

/-!
# Maps from keys

A finite map from texts, kept as its list of entries in strictly ascending order of the keys.

Main statements: one lookup lemma per operation (`get?_insert`, `get?_erase`, `get?_mapValues`),
`mem_keys_iff`, which ties the listed keys to the lookups, `ext`, by which the lookups are all there
is to a map, and `get?_ofList`, by which the order of a list with distinct keys counts for nothing.
-/

namespace Faceted

/-! ## 1. Ascending entries -/

/-- The value of the first entry with the key. -/
def lookupKey {α : Type} (k : String) : List (String × α) → Option α
  | [] => none
  | (x, v) :: rest => if x = k then some v else lookupKey k rest

/-- Puts an entry at its place, replacing the value of an entry with the same key. -/
def insertEntry {α : Type} (k : String) (v : α) : List (String × α) → List (String × α)
  | [] => [(k, v)]
  | (x, w) :: rest =>
    if k < x then (k, v) :: (x, w) :: rest
    else if x < k then (x, w) :: insertEntry k v rest
    else (k, v) :: rest

variable {α β : Type}

theorem keys_insertEntry (k : String) (v : α) (xs : List (String × α)) :
    (insertEntry k v xs).map Prod.fst = insertKey k (xs.map Prod.fst) := by
  induction xs with
  | nil => rfl
  | cons e xs ih =>
    obtain ⟨x, w⟩ := e
    unfold insertEntry
    by_cases hkx : k < x
    · simp [hkx, insertKey]
    · by_cases hxk : x < k
      · simp [hkx, hxk, insertKey, ih]
      · have hk : k = x := String.le_antisymm (String.not_lt.mp hxk) (String.not_lt.mp hkx)
        subst hk
        simp [insertKey]

theorem lookupKey_insertEntry (k a : String) (v : α) (xs : List (String × α)) :
    lookupKey a (insertEntry k v xs) = if a = k then some v else lookupKey a xs := by
  induction xs with
  | nil => simp [insertEntry, lookupKey, eq_comm]
  | cons e xs ih =>
    obtain ⟨x, w⟩ := e
    unfold insertEntry
    by_cases hkx : k < x
    · simp [hkx, lookupKey, eq_comm]
    · by_cases hxk : x < k
      · rw [if_neg hkx, if_pos hxk]
        unfold lookupKey
        rw [ih]
        by_cases hxa : x = a
        · have : ¬ a = k := fun e => String.lt_irrefl k (by rw [← e, hxa] at hxk; rwa [← e])
          simp [hxa, this]
        · simp [hxa]
      · have hk : k = x := String.le_antisymm (String.not_lt.mp hxk) (String.not_lt.mp hkx)
        subst hk
        by_cases hka : k = a
        · simp [lookupKey, hka]
        · simp [lookupKey, hka, Ne.symm hka]

theorem lookupKey_filter (p : String → Bool) (a : String) (xs : List (String × α)) :
    lookupKey a (xs.filter fun e => p e.1) = if p a then lookupKey a xs else none := by
  induction xs with
  | nil => simp [lookupKey]
  | cons e xs ih =>
    obtain ⟨x, w⟩ := e
    by_cases hp : p x
    · by_cases hxa : x = a
      · subst hxa
        simp [lookupKey, hp]
      · simp [lookupKey, hp, hxa, ih]
    · by_cases hxa : x = a
      · subst hxa
        simp [hp, ih]
      · simp [lookupKey, hp, hxa, ih]

theorem lookupKey_mapValues (f : α → β) (a : String) (xs : List (String × α)) :
    lookupKey a (xs.map fun e => (e.1, f e.2)) = (lookupKey a xs).map f := by
  induction xs with
  | nil => rfl
  | cons e xs ih =>
    obtain ⟨x, w⟩ := e
    by_cases h : x = a
    · simp [lookupKey, h]
    · simp [lookupKey, h, ih]

theorem lookupKey_isSome_iff (a : String) (xs : List (String × α)) :
    (lookupKey a xs).isSome ↔ a ∈ xs.map Prod.fst := by
  induction xs with
  | nil => simp [lookupKey]
  | cons e xs ih =>
    obtain ⟨x, w⟩ := e
    by_cases hxa : x = a
    · simp [lookupKey, hxa]
    · simp [lookupKey, hxa, Ne.symm hxa, ih]

/-- The value of an entry is found where no key comes twice. -/
theorem lookupKey_of_mem {k : String} {v : α} {xs : List (String × α)}
    (hdistinct : (xs.map Prod.fst).Nodup) (h : (k, v) ∈ xs) : lookupKey k xs = some v := by
  induction xs with
  | nil => cases h
  | cons e xs ih =>
    obtain ⟨hnot, hrest⟩ := List.nodup_cons.mp hdistinct
    unfold lookupKey
    rcases List.mem_cons.mp h with rfl | h
    · exact if_pos rfl
    · have hne : e.1 ≠ k := fun heq => hnot (heq ▸ List.mem_map_of_mem h)
      rw [if_neg hne, ih hrest h]

/-- The library's lookup in a list of entries finds the same. -/
theorem lookup_eq_lookupKey (k : String) (xs : List (String × α)) : xs.lookup k = lookupKey k xs := by
  induction xs with
  | nil => rfl
  | cons e xs ih =>
    obtain ⟨x, v⟩ := e
    by_cases h : x = k
    · simp [lookupKey, h]
    · simp [lookupKey, h, List.lookup_cons, beq_eq_false_iff_ne.mpr (Ne.symm h), ih]

theorem eq_of_lookupKey {xs ys : List (String × α)} (hx : (xs.map Prod.fst).Pairwise (· < ·))
    (hkeys : xs.map Prod.fst = ys.map Prod.fst) (h : ∀ k, lookupKey k xs = lookupKey k ys) :
    xs = ys := by
  induction xs generalizing ys with
  | nil => exact (List.map_eq_nil_iff.mp hkeys.symm).symm
  | cons e xs ih =>
    obtain ⟨x, v⟩ := e
    obtain _ | ⟨⟨y, w⟩, ys⟩ := ys
    · cases hkeys
    simp only [List.map_cons, List.cons.injEq] at hkeys
    obtain ⟨rfl, hkeys⟩ := hkeys
    obtain ⟨hfirst, hrest⟩ := List.pairwise_cons.mp hx
    have hvalue : v = w := by simpa [lookupKey] using h x
    rw [hvalue, ih hrest hkeys fun k => ?_]
    by_cases hk : x = k
    · subst hk
      -- The first key does not come again in either list.
      have hnot : x ∉ xs.map Prod.fst := fun hmem => String.lt_irrefl x (hfirst x hmem)
      have hnone : ∀ zs : List (String × α), x ∉ zs.map Prod.fst → lookupKey x zs = none :=
        fun zs hzs => Option.not_isSome_iff_eq_none.mp (mt (lookupKey_isSome_iff x zs).mp hzs)
      rw [hnone xs hnot, hnone ys (hkeys ▸ hnot)]
    · simpa [lookupKey, hk] using h k

/-! ## 2. The type -/

/-- A finite map from keys, as its list of entries in ascending order. -/
structure KeyMap (α : Type) where
  entries : List (String × α)
  ascending : (entries.map Prod.fst).Pairwise (· < ·)

namespace KeyMap

theorem ascending_nil : (([] : List (String × α)).map Prod.fst).Pairwise (· < ·) :=
  List.Pairwise.nil

/-- The map without entries. -/
def empty : KeyMap α := ⟨[], ascending_nil⟩

instance : EmptyCollection (KeyMap α) := ⟨empty⟩
instance : Inhabited (KeyMap α) := ⟨empty⟩

def get? (m : KeyMap α) (k : String) : Option α := lookupKey k m.entries

def contains (m : KeyMap α) (k : String) : Bool := (m.get? k).isSome

def isEmpty (m : KeyMap α) : Bool := m.entries.isEmpty

def size (m : KeyMap α) : Nat := m.entries.length

/-- The entries in ascending order of the keys. -/
def toList (m : KeyMap α) : List (String × α) := m.entries

/-- The keys in ascending order. -/
def keys (m : KeyMap α) : List String := m.entries.map Prod.fst

@[simp] theorem get?_empty {k : String} : (empty : KeyMap α).get? k = none := rfl

theorem keys_ascending (m : KeyMap α) : m.keys.Pairwise (· < ·) := m.ascending

theorem nodup_keys (m : KeyMap α) : m.keys.Nodup := by
  refine m.ascending.imp fun hlt => ?_
  rintro rfl
  exact String.lt_irrefl _ hlt

/-- What is listed for a key is what is looked up. -/
theorem get?_of_mem_toList {m : KeyMap α} {k : String} {v : α} (h : (k, v) ∈ m.toList) :
    m.get? k = some v := lookupKey_of_mem m.nodup_keys h

theorem mem_keys_iff {m : KeyMap α} {k : String} : k ∈ m.keys ↔ (m.get? k).isSome :=
  (lookupKey_isSome_iff k m.entries).symm

/-- What is looked up for a key is listed. -/
theorem mem_toList_of_get? {m : KeyMap α} {k : String} {v : α} (h : m.get? k = some v) :
    (k, v) ∈ m.toList := by
  obtain ⟨⟨k', w⟩, hmem, rfl⟩ := List.mem_map.mp (mem_keys_iff.mpr (Option.isSome_of_eq_some h))
  rw [get?_of_mem_toList hmem] at h
  exact Option.some.inj h ▸ hmem

/-- Maps with the same value for every key are the same. -/
theorem ext {m n : KeyMap α} (h : ∀ k, m.get? k = n.get? k) : m = n := by
  have hkeys : m.keys = n.keys := by
    refine eq_of_mem_iff m.ascending n.ascending fun k => ?_
    have hm : k ∈ m.keys ↔ k ∈ n.keys := by rw [mem_keys_iff, mem_keys_iff, h k]
    exact hm
  obtain ⟨xs, hxs⟩ := m
  obtain ⟨ys, hys⟩ := n
  obtain rfl : xs = ys := eq_of_lookupKey hxs hkeys h
  rfl

/-- The keys as a set. -/
def keySet (m : KeyMap α) : KeySet := ⟨m.keys, m.ascending⟩

/-! ## 3. Operations -/

def insert (m : KeyMap α) (k : String) (v : α) : KeyMap α where
  entries := insertEntry k v m.entries
  ascending := by
    rw [keys_insertEntry]
    exact pairwise_insertKey m.ascending

@[simp] theorem get?_insert {m : KeyMap α} {k a : String} {v : α} :
    (m.insert k v).get? a = if a = k then some v else m.get? a :=
  lookupKey_insertEntry k a v m.entries

/-- The entries whose key passes the test. -/
def filterKeys (p : String → Bool) (m : KeyMap α) : KeyMap α where
  entries := m.entries.filter fun e => p e.1
  ascending := by
    have h : ((m.entries.filter fun e => p e.1).map Prod.fst).Sublist (m.entries.map Prod.fst) :=
      List.filter_sublist.map _
    exact m.ascending.sublist h

@[simp] theorem get?_filterKeys {p : String → Bool} {m : KeyMap α} {a : String} :
    (m.filterKeys p).get? a = if p a then m.get? a else none :=
  lookupKey_filter p a m.entries

def erase (m : KeyMap α) (k : String) : KeyMap α := m.filterKeys (· != k)

@[simp] theorem get?_erase {m : KeyMap α} {k a : String} :
    (m.erase k).get? a = if a = k then none else m.get? a := by
  by_cases h : a = k <;> simp [erase, h]

/-- Puts a value for the key, or removes its entry if there is none to put. -/
def set (m : KeyMap α) (k : String) : Option α → KeyMap α
  | some v => m.insert k v
  | none => m.erase k

@[simp] theorem get?_set {m : KeyMap α} {k a : String} {v : Option α} :
    (m.set k v).get? a = if a = k then v else m.get? a := by
  cases v <;> simp [set]

/-- Changes the value of the key, if it has one. -/
def modify (m : KeyMap α) (k : String) (f : α → α) : KeyMap α :=
  match m.get? k with
  | some v => m.insert k (f v)
  | none => m

@[simp] theorem get?_modify {m : KeyMap α} {k a : String} {f : α → α} :
    (m.modify k f).get? a = if a = k then (m.get? a).map f else m.get? a := by
  unfold modify
  split
  · next v hv =>
    by_cases h : a = k
    · subst h
      simp [hv]
    · simp [h]
  · next hv =>
    by_cases h : a = k
    · subst h
      simp [hv]
    · simp [h]

/-- Changes every value. -/
def mapValues (f : α → β) (m : KeyMap α) : KeyMap β where
  entries := m.entries.map fun e => (e.1, f e.2)
  ascending := by
    have : (m.entries.map fun e => (e.1, f e.2)).map Prod.fst = m.entries.map Prod.fst := by
      simp [Function.comp_def]
    rw [this]
    exact m.ascending

@[simp] theorem get?_mapValues {f : α → β} {m : KeyMap α} {a : String} :
    (m.mapValues f).get? a = (m.get? a).map f :=
  lookupKey_mapValues f a m.entries

/-- The map of a list of entries; of several with one key the last counts. -/
def ofList (es : List (String × α)) : KeyMap α := es.foldl (fun m e => m.insert e.1 e.2) empty

/-- Where no key comes twice, the map has what is found in the list. -/
theorem get?_ofList {es : List (String × α)} (hdistinct : (es.map Prod.fst).Nodup) (k : String) :
    (ofList es).get? k = lookupKey k es := by
  suffices hfold : ∀ m : KeyMap α, (es.foldl (fun m e => m.insert e.1 e.2) m).get? k =
      (lookupKey k es).or (m.get? k) from (hfold empty).trans Option.or_none
  induction es with
  | nil => exact fun m => rfl
  | cons e es ih =>
    intro m
    obtain ⟨hnot, hrest⟩ := List.nodup_cons.mp hdistinct
    rw [List.foldl_cons, ih hrest, get?_insert, lookupKey]
    by_cases hk : e.1 = k
    · -- The key does not come again.
      have hnone : lookupKey k es = none :=
        Option.not_isSome_iff_eq_none.mp (mt (lookupKey_isSome_iff k es).mp (hk ▸ hnot))
      rw [if_pos hk.symm, if_pos hk, hnone]
      rfl
    · rw [if_neg (Ne.symm hk), if_neg hk]

/-- The map of its own entries. -/
@[simp] theorem ofList_toList (m : KeyMap α) : ofList m.toList = m :=
  ext fun k => get?_ofList m.nodup_keys k

end KeyMap

end Faceted
