import Faceted.Store.Loading
import Mathlib.Data.List.Induction

/-!
# Describing again

Descriptions of types and properties that are given once more, in whatever order one name comes up among
them.

* A description undoes what an earlier one of the same name has said, and what it does not undo stays
  (`Absorbs`, `absorbs_describedType`, `absorbs_described`);
* such descriptions, taken once more, end where they ended (`Absorbs.foldl_again`);
* **`loadTypes_again`** and **`loadProperties_again`**: they have nothing more to say to a store that has
  kept what they said.
-/

namespace Faceted

/-! ## 1. Descriptions that are taken twice -/

/-- What an entry says stands until something else is said of the same, and is said again to the same
    effect. -/
structure Absorbs {α δ : Type} (step : α → δ → α) : Prop where
  again : ∀ x e, step (step x e) e = step x e
  between : ∀ x e d, step (step (step x e) d) e = step (step x d) e

namespace Absorbs

variable {α δ : Type} {step : α → δ → α}

/-- An entry that comes again later need not have come. -/
theorem step_foldl (h : Absorbs step) (x : α) (e : δ) (ds : List δ) :
    step (ds.foldl step (step x e)) e = step (ds.foldl step x) e := by
  -- The entry is called for once more in front of every other one, from the last to the first.
  induction ds using List.reverseRecOn with
  | nil => exact h.again x e
  | append_singleton ds d ih =>
    simp only [List.foldl_append, List.foldl_cons, List.foldl_nil]
    calc step (step (ds.foldl step (step x e)) d) e
        = step (step (step (ds.foldl step (step x e)) e) d) e := (h.between _ e d).symm
      _ = step (step (step (ds.foldl step x) e) d) e := by rw [ih]
      _ = step (step (ds.foldl step x) d) e := h.between _ e d

theorem foldl_of_mem (h : Absorbs step) (x : α) {e : δ} {ds : List δ} (he : e ∈ ds) :
    ds.foldl step (step x e) = ds.foldl step x := by
  obtain ⟨front, back, rfl⟩ := List.append_of_mem he
  simp only [List.foldl_append, List.foldl_cons, h.step_foldl]

/-- Entries that all come again later need not have come. -/
theorem foldl_of_subset (h : Absorbs step) (x : α) {cs ds : List δ} (hsub : ∀ e ∈ cs, e ∈ ds) :
    ds.foldl step (cs.foldl step x) = ds.foldl step x := by
  induction cs generalizing x with
  | nil => rfl
  | cons e cs ih =>
    rw [List.foldl_cons, ih _ fun d hd => hsub d (List.mem_cons_of_mem e hd),
      h.foldl_of_mem x (hsub e List.mem_cons_self)]

/-- If what the entries end with has been kept, they end with it again. -/
theorem foldl_again (h : Absorbs step) {x y : α} {ds : List δ}
    (hkept : ∀ z e, ds.foldl step x = step z e → y = ds.foldl step x) : ds.foldl step y = y := by
  rcases List.eq_nil_or_concat ds with rfl | ⟨front, e, rfl⟩
  · rfl
  · have hy := hkept (front.foldl step x) e (by simp)
    rw [hy]
    exact h.foldl_of_subset x fun _ => id

/-- Where nothing is known yet, the first entry starts from a default. -/
theorem onKnown (h : Absorbs step) (default : α) :
    Absorbs fun (x : Option α) e => some (step (x.getD default) e) where
  again _ e := congrArg some (h.again _ e)
  between _ e d := congrArg some (h.between _ e d)

end Absorbs

namespace Store

/-- The descriptions that a part of a payload gives under the name. -/
def describing (id : String) (entries : List (String × Json)) : List (List (String × Json)) :=
  entries.filterMap fun
    | (name, .object fields) => if name = id then some fields else none
    | _ => none

/-! ## 2. Types -/

/-- The type with the attributes of a description. -/
def describedType (base : String) (known : ItemType) (fields : List (String × Json)) : ItemType :=
  ItemType.withDefaults base
    { known with attributes := fields.foldl (fun m f => m.insert f.1 f.2) known.attributes }

/-- The last value that is given for the name. -/
def lastGiven (fields : List (String × Json)) (name : String) : Option Json :=
  fields.foldl (fun value f => if f.1 = name then some f.2 else value) none

theorem get?_foldl_insert (fields : List (String × Json)) (m : KeyMap Json) (name : String) :
    (fields.foldl (fun m f => m.insert f.1 f.2) m).get? name =
      (lastGiven fields name).or (m.get? name) := by
  suffices hfold : ∀ (value old : Option Json) (m : KeyMap Json), m.get? name = value.or old →
      (fields.foldl (fun m f => m.insert f.1 f.2) m).get? name =
        (fields.foldl (fun value f => if f.1 = name then some f.2 else value) value).or old from
    hfold none (m.get? name) m rfl
  intro value old m hm
  induction fields generalizing value m with
  | nil => exact hm
  | cons f fields ih =>
    refine ih _ _ ?_
    rw [KeyMap.get?_insert]
    by_cases hf : f.1 = name
    · simp [hf]
    · simp [hf, Ne.symm hf, hm]

/-- What an attribute of the type is if nothing is said of it. -/
def defaultAttribute (base id name : String) : Option Json :=
  if name = "uri" then some (.string (ItemType.defaultUri base id))
  else if name = "label" then some (.string id)
  else none

theorem get?_withDefaults (base : String) (t : ItemType) (name : String) :
    (ItemType.withDefaults base t).attributes.get? name =
      (t.attributes.get? name).or (defaultAttribute base t.id name) := by
  have hlabel : ¬ "label" = "uri" := by decide
  unfold ItemType.withDefaults defaultAttribute KeyMap.contains
  by_cases huri : name = "uri"
  · subst huri
    cases h : t.attributes.get? "uri" <;> cases h' : t.attributes.get? "label" <;>
      simp [h, h', hlabel, Ne.symm hlabel]
  · by_cases hname : name = "label"
    · subst hname
      cases t.attributes.get? "uri" <;> cases h' : t.attributes.get? "label" <;> simp [h', hlabel]
    · cases h : t.attributes.get? "uri" <;> cases h' : t.attributes.get? "label" <;>
        simp [h', huri, hname, hlabel]

theorem get?_describedType (base : String) (known : ItemType) (fields : List (String × Json))
    (name : String) :
    (describedType base known fields).attributes.get? name =
      ((lastGiven fields name).or (known.attributes.get? name)).or
        (defaultAttribute base known.id name) := by
  unfold describedType
  rw [get?_withDefaults, get?_foldl_insert]

/-- A type is its name and its attributes. -/
theorem itemType_ext {t u : ItemType} (hid : t.id = u.id)
    (h : ∀ name, t.attributes.get? name = u.attributes.get? name) : t = u := by
  obtain ⟨i, a⟩ := t
  obtain ⟨j, b⟩ := u
  obtain rfl : i = j := hid
  obtain rfl : a = b := KeyMap.ext h
  rfl

theorem absorbs_describedType (base : String) : Absorbs (describedType base) where
  again t fields := by
    refine itemType_ext rfl fun name => ?_
    have hid : (describedType base t fields).id = t.id := rfl
    simp only [get?_describedType, hid]
    cases lastGiven fields name <;> cases t.attributes.get? name <;>
      cases defaultAttribute base t.id name <;> rfl
  between t fields more := by
    refine itemType_ext rfl fun name => ?_
    have hid (known : ItemType) (given : List (String × Json)) :
      (describedType base known given).id = known.id := rfl
    simp only [get?_describedType, hid]
    cases lastGiven fields name <;> cases lastGiven more name <;> cases t.attributes.get? name <;>
      cases defaultAttribute base t.id name <;> rfl

theorem get?_foldl_loadType (base : String) (types : List (String × Json)) (s : Store)
    (id : String) :
    (types.foldl (loadType base) s).types.get? id =
      (describing id types).foldl
        (fun x fields => some (describedType base (x.getD ⟨id, ∅⟩) fields)) (s.types.get? id) := by
  induction types generalizing s with
  | nil => rfl
  | cons entry types ih =>
    rw [List.foldl_cons, ih]
    obtain ⟨name, given⟩ := entry
    cases given with
    | object fields =>
      by_cases hname : name = id
      · subst hname
        simp [describing, loadType, describedType]
      · simp [describing, loadType, hname, Ne.symm hname]
    | _ => rfl

theorem foldl_loadType (base : String) (types : List (String × Json)) (s : Store) :
    types.foldl (loadType base) s =
      { s with types := (types.foldl (loadType base) s).types } := by
  induction types generalizing s with
  | nil => rfl
  | cons entry types ih =>
    rw [List.foldl_cons, ih]
    unfold loadType
    split <;> rfl

/-- Types that have been loaded have nothing more to say to a store that has kept them. -/
theorem loadTypes_again {s t : Store} {types : List (String × Json)} {base : String}
    (hkept : ∀ id known, (s.loadTypes types base).1.types.get? id = some known →
      t.types.get? id = some known) : (t.loadTypes types base).1 = t := by
  change types.foldl (loadType base) t = t
  have htypes : (types.foldl (loadType base) t).types = t.types := by
    refine KeyMap.ext fun id => ?_
    rw [get?_foldl_loadType]
    refine ((absorbs_describedType base).onKnown ⟨id, ∅⟩).foldl_again (x := s.types.get? id) ?_
    intro known fields hlast
    rw [hlast]
    refine hkept id _ ?_
    exact (get?_foldl_loadType base types s id).trans hlast
  rw [foldl_loadType, htypes]

/-! ## 3. Properties -/

/-- The origin that a description gives. -/
def originGiven? (fields : List (String × Json)) : Option String :=
  (fields.lookup "origin").bind Json.valueText?

/-- Of what is known of a property, a description keeps the name, and the origin if it gives none. -/
theorem described_congr {p q : Property} {fields : List (String × Json)} (hid : p.id = q.id)
    (horigin : (originGiven? fields).or p.origin = (originGiven? fields).or q.origin)
    (base : String) : p.described base fields = q.described base fields := by
  unfold originGiven? at horigin
  unfold Property.described
  simp only [hid, horigin]

theorem origin_described (p : Property) (base : String) (fields : List (String × Json)) :
    (p.described base fields).origin = (originGiven? fields).or p.origin := rfl

theorem absorbs_described (base : String) :
    Absorbs fun (p : Property) (fields : List (String × Json)) => p.described base fields where
  again p fields := by
    have hid : (p.described base fields).id = p.id := rfl
    refine described_congr hid ?_ base
    rw [origin_described]
    cases originGiven? fields <;> rfl
  between p fields more := by
    have hid : ((p.described base fields).described base more).id = (p.described base more).id := rfl
    refine described_congr hid ?_ base
    simp only [origin_described]
    cases originGiven? fields <;> cases originGiven? more <;> rfl

theorem get?_foldl_loadProperty (base : String) (properties : List (String × Json)) (s : Store)
    (id : String) :
    (properties.foldl (loadProperty base) s).properties.get? id =
      (describing id properties).foldl
        (fun x fields => some ((x.getD (.ofId base id)).described base fields))
        (s.properties.get? id) := by
  induction properties generalizing s with
  | nil => rfl
  | cons entry properties ih =>
    rw [List.foldl_cons, ih]
    obtain ⟨name, given⟩ := entry
    cases given with
    | object fields =>
      by_cases hname : name = id
      · subst hname
        simp [describing, loadProperty]
      · simp [describing, loadProperty, hname, Ne.symm hname]
    | _ => rfl

theorem foldl_loadProperty (base : String) (properties : List (String × Json)) (s : Store) :
    properties.foldl (loadProperty base) s =
      { s with properties := (properties.foldl (loadProperty base) s).properties } := by
  induction properties generalizing s with
  | nil => rfl
  | cons entry properties ih =>
    rw [List.foldl_cons, ih]
    unfold loadProperty
    split <;> rfl

/-- Properties that have been loaded have nothing more to say to a store that has kept them. A
    description leaves no index, so only properties without index need to have been kept. -/
theorem loadProperties_again {s t : Store} {properties : List (String × Json)} {base : String}
    (hkept : ∀ id p, (s.loadProperties properties base).1.properties.get? id = some p →
      p.rangeIndex = none → t.properties.get? id = some p)
    (hlist : t.propertyList = none) : (t.loadProperties properties base).1 = t := by
  have hproperties : (properties.foldl (loadProperty base) t).properties = t.properties := by
    refine KeyMap.ext fun id => ?_
    rw [get?_foldl_loadProperty]
    refine ((absorbs_described base).onKnown (.ofId base id)).foldl_again
      (x := s.properties.get? id) ?_
    intro known fields hlast
    rw [hlast]
    exact hkept id _ ((get?_foldl_loadProperty base properties s id).trans hlast) rfl
  unfold loadProperties
  rw [foldl_loadProperty, hproperties, ← hlist]

end Store

end Faceted
