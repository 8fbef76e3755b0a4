import Faceted.Proofs.Browser.Advance

/-!
# Root items

The root of a collection is a function of the store and, if the collection is based on another, of the
restricted items of that one. A change to the restricted items of a collection makes the roots of its
dependents out of date; passing it on brings them up to date, and those that depend on these in turn.

* `rootOf` is the root that a collection is to have, `RootHolds` says that it has it. A restricting
  collection is left out: its root is what its base offers it;
* `basedRoot_of_unbased`, `basedRoot_of_plain` and `basedRoot_of_restricting`: what the root of a
  collection is worked out from, by the kind of its source;
* `Ordered`: ids are distinct and a collection comes after the one that it is based on;
* `rootHolds_putView`: changing a collection concerns its dependents only;
* `Rooting`: what a collection gets with its root and keeps while its base stays as it is;
* `propagateWithin_holds` and **`settle_holds`**: passing on takes the dependents of a collection out of
  the set of those that may be out of date, whichever else are in that set; `settle_roots`: so every
  root holds in the end;
* `rootOf_atMoment` and `basedRoot_atMoment`: the clock changes no root unless an expression asks for
  the time.
-/

namespace Faceted

open Faceted.Action Faceted.Expression

namespace Browser

/-! ## 1. The root of a collection -/

/-- The root items that a collection is to have. -/
def rootOf (b : Browser) (c : Collection) : Outcome KeySet :=
  match c.source with
  | .allItems => .ok b.store.items
  | .ofTypes types => .ok (b.store.subjectsUnion types "type" ∅ none)
  | .based e base _ =>
    match b.collection? base with
    | none => .error (.data (.noCollection base))
    | some base =>
      (e.eval (Roots.ofItems base.restricted) Roots.defaultName b.store).map Values.toSet

def RootHolds (b : Browser) (place : Nat) : Prop :=
  ∀ c, b.collections[place]? = some c → c.isRestricting = false → b.rootOf c = .ok c.items

/-- The id of the collection at a place. -/
def idAt (b : Browser) (place : Nat) : Option String := b.collections[place]?.map Collection.id

/-- What the collection at a place is based on. -/
def baseAt (b : Browser) (place : Nat) : Option String := b.collections[place]?.bind Collection.base?

/-- The collection at the one place is based on that at the other. -/
def DependsOn (b : Browser) (place on : Nat) : Prop :=
  ∃ id, b.baseAt place = some id ∧ b.idAt on = some id

structure Ordered (b : Browser) : Prop where
  distinct : ∀ {p q id}, b.idAt p = some id → b.idAt q = some id → p = q
  before : ∀ {place base}, b.baseAt place = some base → ∃ p < place, b.idAt p = some base

theorem DependsOn.lt {b : Browser} {place on : Nat} (h : b.DependsOn place on) (hb : b.Ordered) :
    on < place := by
  obtain ⟨id, hbase, hid⟩ := h
  obtain ⟨p, hlt, hp⟩ := hb.before hbase
  exact hb.distinct hid hp ▸ hlt

theorem idAt_eq_none {b : Browser} {place : Nat} (h : b.collections.length ≤ place) :
    b.idAt place = none := by
  unfold idAt
  rw [List.getElem?_eq_none h]
  rfl

theorem idAt_of_getElem? {b : Browser} {place : Nat} {c : Collection}
    (h : b.collections[place]? = some c) : b.idAt place = some c.id := by
  unfold idAt
  rw [h]
  rfl

theorem baseAt_of_getElem? {b : Browser} {place : Nat} {c : Collection}
    (h : b.collections[place]? = some c) : b.baseAt place = c.base? := by
  unfold baseAt
  rw [h]
  rfl

theorem collection?_eq {b : Browser} (hb : b.Ordered) {on : Nat} {base : Collection}
    (hbase : b.collections[on]? = some base) : b.collection? base.id = some base := by
  cases hfound : b.collection? base.id with
  | none =>
    have hnot := List.find?_eq_none.mp hfound base (List.mem_of_getElem? hbase)
    exact absurd (beq_self_eq_true base.id) hnot
  | some d =>
    obtain ⟨p, hp⟩ := List.mem_iff_getElem?.mp (List.mem_of_find?_eq_some hfound)
    have hid : d.id = base.id :=
      eq_of_beq (List.find?_some (p := fun c : Collection => c.id == base.id) hfound)
    have hplace := hb.distinct (idAt_of_getElem? hp) (hid ▸ idAt_of_getElem? hbase)
    subst hplace
    exact hp.symm.trans hbase

/-- Where a collection stands that another one is based on. -/
theorem Ordered.base {b : Browser} (hb : b.Ordered) {place : Nat} {c : Collection}
    (hc : b.collections[place]? = some c) {id : String} (hbase : c.base? = some id) :
    ∃ on < place, ∃ base, b.collections[on]? = some base ∧ base.id = id := by
  obtain ⟨on, hlt, hid⟩ := hb.before ((baseAt_of_getElem? hc).trans hbase)
  obtain ⟨base, hat, heq⟩ := Option.map_eq_some_iff.mp hid
  exact ⟨on, hlt, base, hat, heq⟩

/-- A collection stands at one place only. -/
theorem Ordered.eq_of_id {b : Browser} (hb : b.Ordered) {p q : Nat} {c d : Collection}
    (hc : b.collections[p]? = some c) (hd : b.collections[q]? = some d) (hid : d.id = c.id) :
    q = p ∧ d = c := by
  obtain rfl : q = p := hb.distinct (idAt_of_getElem? hd) (hid ▸ idAt_of_getElem? hc)
  exact ⟨rfl, Option.some.inj (hd.symm.trans hc)⟩

section BasedRoot

variable {b : Browser} {place : Nat} {c base : Collection} {e : Expression} {id : String}
  (hc : b.collections[place]? = some c)
include hc

theorem basedRoot_of_unbased (hbase : c.base? = none) : b.basedRoot place = .ok none := by
  unfold basedRoot
  rw [hc]
  dsimp only
  unfold Collection.base? at hbase
  cases hs : c.source with
  | based e id restricting =>
    rw [hs] at hbase
    cases hbase
  | _ => rfl

theorem basedRoot_of_missing {restricting : Bool} (hsource : c.source = .based e id restricting)
    (hnone : b.collection? id = none) : b.basedRoot place = .error (.data (.noCollection id)) := by
  unfold basedRoot
  rw [hc]
  dsimp only
  rw [hsource]
  dsimp only
  rw [hnone]

theorem basedRoot_of_plain (hsource : c.source = .based e id false)
    (hbase : b.collection? id = some base) :
    b.basedRoot place = (e.eval (Roots.ofItems base.restricted) Roots.defaultName b.store).map
      fun values => some values.toSet := by
  unfold basedRoot
  rw [hc]
  dsimp only
  rw [hsource]
  dsimp only
  rw [hbase]
  exact if_neg Bool.false_ne_true

theorem basedRoot_of_restricting (hsource : c.source = .based e id true)
    (hbase : b.collection? id = some base) :
    b.basedRoot place =
      match base.facet? (derivedId c.id) with
      | some (.derived f) => (f.valuesOf b.store f.candidates).map some
      | _ => .error (.lostFacet c.id base.id) := by
  unfold basedRoot
  rw [hc]
  dsimp only
  rw [hsource]
  dsimp only
  rw [hbase]
  exact if_pos rfl

theorem basedRoot_ne_none (hbase : c.base? = some id) : b.basedRoot place ≠ .ok none := by
  unfold Collection.base? at hbase
  cases hs : c.source with
  | based e id restricting =>
    cases hd : b.collection? id with
    | none =>
      rw [basedRoot_of_missing hc hs hd]
      exact fun h => by cases h
    | some d =>
      cases restricting with
      | false =>
        rw [basedRoot_of_plain hc hs hd]
        cases e.eval (Roots.ofItems d.restricted) Roots.defaultName b.store <;>
          exact fun h => by cases h
      | true =>
        rw [basedRoot_of_restricting hc hs hd]
        split
        · next f _ => cases f.valuesOf b.store f.candidates <;> exact fun h => by cases h
        · exact fun h => by cases h
  | _ =>
    rw [hs] at hbase
    cases hbase

end BasedRoot

theorem not_dependsOn {b : Browser} {place on : Nat} (h : b.collections.length ≤ on) :
    ¬ b.DependsOn place on := by
  rintro ⟨id, -, hid⟩
  rw [idAt_eq_none h] at hid
  cases hid

/-! ## 2. Outlines -/

/-- The collections go by the same ids and are based on the same ones, in the same order. -/
structure SameBases (b b' : Browser) : Prop where
  idAt : ∀ place, b.idAt place = b'.idAt place
  baseAt : ∀ place, b.baseAt place = b'.baseAt place

theorem SameBases.ordered {b b' : Browser} (h : b.SameBases b') (hb : b.Ordered) : b'.Ordered where
  distinct hp hq := hb.distinct ((h.idAt _).trans hp) ((h.idAt _).trans hq)
  before hbase := by
    obtain ⟨p, hlt, hp⟩ := hb.before ((h.baseAt _).trans hbase)
    exact ⟨p, hlt, (h.idAt p).symm.trans hp⟩

/-- The collections have the same outlines in the same order. -/
def SameOutlines (b b' : Browser) : Prop :=
  b.collections.map Collection.outline = b'.collections.map Collection.outline

namespace SameOutlines

variable {b b' : Browser}

theorem at_place (h : b.SameOutlines b') (place : Nat) :
    b.collections[place]?.map Collection.outline = b'.collections[place]?.map Collection.outline := by
  rw [← List.getElem?_map, show _ = _ from h, List.getElem?_map]

theorem idAt (h : b.SameOutlines b') (place : Nat) : b.idAt place = b'.idAt place := by
  simpa [Browser.idAt, Collection.outline, Function.comp_def] using
    congrArg (Option.map Collection.Outline.id) (h.at_place place)

theorem baseAt (h : b.SameOutlines b') (place : Nat) : b.baseAt place = b'.baseAt place := by
  have houtline := h.at_place place
  unfold Browser.baseAt
  cases hc : b.collections[place]? with
  | none =>
    rw [hc] at houtline
    rw [Option.map_eq_none_iff.mp houtline.symm]
  | some c =>
    rw [hc] at houtline
    obtain ⟨c', hc', heq⟩ := Option.map_eq_some_iff.mp houtline.symm
    have hsource : c'.source = c.source := congrArg Collection.Outline.source heq
    rw [hc', Option.bind_some, Option.bind_some, Collection.base?, Collection.base?, hsource]

theorem ordered (h : b.SameOutlines b') (hb : b.Ordered) : b'.Ordered :=
  SameBases.ordered ⟨h.idAt, h.baseAt⟩ hb

end SameOutlines

namespace Advance

variable {b b' : Browser}

theorem same_outlines (h : b.Advance b') : b.SameOutlines b' := h.outlines

theorem length (h : b.Advance b') : b.collections.length = b'.collections.length := by
  simpa using congrArg List.length h.outlines

theorem idAt (h : b.Advance b') (place : Nat) : b.idAt place = b'.idAt place :=
  h.same_outlines.idAt place

theorem baseAt (h : b.Advance b') (place : Nat) : b.baseAt place = b'.baseAt place :=
  h.same_outlines.baseAt place

theorem dependsOn (h : b.Advance b') {place on : Nat} :
    b.DependsOn place on ↔ b'.DependsOn place on := by
  unfold DependsOn
  rw [h.idAt, h.baseAt]

theorem ordered (h : b.Advance b') (hb : b.Ordered) : b'.Ordered := h.same_outlines.ordered hb

end Advance

/-! ## 3. Changing one collection -/

theorem find?_set {α β : Type} {p : α → Bool} {g : α → β} {xs : List α} {n : Nat} {x y : α}
    (hx : xs[n]? = some x) (hp : p y = p x) (hg : p x = true → g y = g x) :
    ((xs.set n y).find? p).map g = (xs.find? p).map g := by
  induction xs generalizing n with
  | nil => cases hx
  | cons a xs ih =>
    cases n with
    | zero =>
      cases hx
      rw [List.set_cons_zero, List.find?_cons, List.find?_cons, hp]
      cases hpx : p x with
      | false => rfl
      | true => exact congrArg some (hg hpx)
    | succ n =>
      rw [List.set_cons_succ, List.find?_cons, List.find?_cons]
      cases p a with
      | false => exact ih hx
      | true => rfl

/-- The root of a collection depends on its source, on what the store answers, and on the restricted
    items of its base. -/
theorem rootOf_congr {b b' : Browser} {c c' : Collection} (hstore : b.store.Alike b'.store)
    (hsource : c'.source = c.source)
    (hbase : ∀ id, c.base? = some id → (b'.collection? id).map Collection.restricted =
      (b.collection? id).map Collection.restricted) : b'.rootOf c' = b.rootOf c := by
  unfold rootOf
  rw [hsource]
  cases hs : c.source with
  | allItems => exact congrArg _ hstore.content.items.symm
  | ofTypes types => exact congrArg _ (hstore.content.subjectsUnion types "type" ∅ none).symm
  | based e id restricting =>
    have hid : c.base? = some id := by rw [Collection.base?, hs]
    have hrestricted := hbase id hid
    dsimp only
    cases hd : b.collection? id with
    | none =>
      rw [hd] at hrestricted
      rw [Option.map_eq_none_iff.mp hrestricted]
    | some d =>
      rw [hd] at hrestricted
      obtain ⟨d', hd', heq⟩ := Option.map_eq_some_iff.mp hrestricted
      rw [hd']
      dsimp only
      rw [heq, ← eval_alike hstore]

/-- Changing a collection changes the roots of its dependents only. -/
theorem rootOf_putView {b : Browser} {place : Nat} {c d d' : Collection} {w : View}
    (hc : b.collections[place]? = some c) (hstore : b.store.Alike w.store)
    (hid : w.collection.id = c.id) (hsource : d'.source = d.source)
    (hkeep : d.base? = some c.id → w.collection.restricted = c.restricted) :
    (b.putView place w).rootOf d' = b.rootOf d := by
  refine rootOf_congr hstore hsource fun id hbase => ?_
  refine find?_set hc (by rw [hid]) fun heq => hkeep ?_
  rw [hbase, eq_of_beq heq]

theorem rootHolds_putView {b : Browser} {place : Nat} {c : Collection} {w : View}
    (hc : b.collections[place]? = some c) (hstore : b.store.Alike w.store)
    (hid : w.collection.id = c.id) (hsource : w.collection.source = c.source)
    (hitems : w.collection.items = c.items) {q : Nat}
    (hq : b.DependsOn q place → w.collection.restricted = c.restricted) (h : b.RootHolds q) :
    (b.putView place w).RootHolds q := by
  intro d hd hplain
  have hat := idAt_of_getElem? hc
  rw [putView, List.getElem?_set] at hd
  split at hd
  · next heq =>
    subst heq
    split at hd
    · cases hd
      rw [Collection.isRestricting, hsource] at hplain
      rw [hitems, ← h c hc hplain]
      exact rootOf_putView hc hstore hid hsource fun hbase =>
        hq ⟨c.id, (baseAt_of_getElem? hc).trans hbase, hat⟩
    · cases hd
  · rw [← h d hd hplain]
    exact rootOf_putView hc hstore hid rfl fun hbase =>
      hq ⟨c.id, (baseAt_of_getElem? hd).trans hbase, hat⟩

/-- What is worked out for a collection that is based on another is its root. -/
theorem rootOf_of_basedRoot {b : Browser} {place : Nat} {c : Collection} {items : KeySet}
    (hc : b.collections[place]? = some c) (hplain : c.isRestricting = false)
    (h : b.basedRoot place = .ok (some items)) : b.rootOf c = .ok items := by
  unfold rootOf
  unfold Collection.isRestricting at hplain
  cases hs : c.source with
  | based e id restricting =>
    rw [hs] at hplain
    obtain rfl : restricting = false := hplain
    dsimp only
    cases hd : b.collection? id with
    | none =>
      rw [basedRoot_of_missing hc hs hd] at h
      cases h
    | some d =>
      rw [basedRoot_of_plain hc hs hd] at h
      dsimp only
      cases hvalues : e.eval (Roots.ofItems d.restricted) Roots.defaultName b.store with
      | error failure =>
        rw [hvalues] at h
        cases h
      | ok values =>
        rw [hvalues] at h
        cases h
        rfl
  | _ =>
    rw [basedRoot_of_unbased hc (by rw [Collection.base?, hs])] at h
    cases h

/-- A collection that is given its root has it, and all that do not depend on it keep theirs. -/
theorem rootHolds_putRoot {b : Browser} {place : Nat} {c : Collection} {items : KeySet} {w : View}
    (hc : b.collections[place]? = some c) (hb : b.Ordered)
    (hkin : (View.withItems ⟨b.store, c⟩ items).Kin w)
    (hroot : c.isRestricting = false → b.rootOf c = .ok items) :
    (b.putView place w).RootHolds place ∧
      ∀ {q}, q ≠ place → ¬ b.DependsOn q place → b.RootHolds q →
        (b.putView place w).RootHolds q := by
  have hself := idAt_of_getElem? hc
  have hnotSelf : c.base? ≠ some c.id := fun hbase =>
    Nat.lt_irrefl place (DependsOn.lt ⟨c.id, (baseAt_of_getElem? hc).trans hbase, hself⟩ hb)
  refine ⟨fun d hd hplain => ?_, fun hne hq hholds d hd hplain => ?_⟩
  · rw [putView, List.getElem?_set_self (List.getElem?_eq_some_iff.mp hc).1] at hd
    cases hd
    rw [Collection.isRestricting, ← hkin.source] at hplain
    rw [← hkin.items, rootOf_putView hc hkin.store hkin.id.symm hkin.source.symm]
    · exact hroot hplain
    · exact fun hbase => absurd hbase hnotSelf
  · rw [putView, List.getElem?_set_ne (Ne.symm hne)] at hd
    rw [← hholds d hd hplain]
    exact rootOf_putView hc hkin.store hkin.id.symm rfl fun hbase =>
      absurd ⟨c.id, (baseAt_of_getElem? hd).trans hbase, hself⟩ hq

/-- What giving a collection its root anew comes to: it is in line, and every root holds that held
    before and does not depend on it. -/
theorem reroot_ok {b b' : Browser} {place : Nat} {c : Collection}
    (hc : b.collections[place]? = some c) (hb : b.Ordered)
    (h : reroot place b = (.ok (), b')) :
    ∃ w, b' = b.putView place w ∧ (c.updating = false → w.InLine) ∧ b'.RootHolds place ∧
      ∀ {q}, q ≠ place → ¬ b.DependsOn q place → b.RootHolds q → b'.RootHolds q := by
  obtain ⟨s, u, hs, hread⟩ := bind_ok h
  cases hs
  obtain ⟨root, u, hof, hset⟩ := bind_ok hread
  obtain ⟨hroot, rfl⟩ := Prod.mk.inj hof
  cases root with
  | some items =>
    obtain ⟨w, hw, rfl⟩ := onCollection_ok_of_some hc hset
    obtain ⟨hkin, hline⟩ := View.setRoot_ok hw
    exact ⟨w, rfl, hline, rootHolds_putRoot hc hb hkin fun hplain =>
      rootOf_of_basedRoot hc hplain hroot⟩
  | none =>
    obtain ⟨w, hw, rfl⟩ := onCollection_ok_of_some hc hset
    obtain ⟨hkin, hline⟩ := View.reroot_ok hw
    refine ⟨w, rfl, hline, rootHolds_putRoot hc hb hkin fun _ => ?_⟩
    have hbase : c.base? = none := Option.eq_none_iff_forall_ne_some.mpr fun base hbase =>
      basedRoot_ne_none hc hbase hroot
    unfold rootOf View.rootItems
    unfold Collection.base? at hbase
    cases hs : c.source with
    | based e base restricting =>
      rw [hs] at hbase
      cases hbase
    | _ => rfl

/-! ## 4. Passing on -/

/-- The places after a place. -/
def later (b : Browser) (place : Nat) : List Nat := b.places.filter fun other => place < other

theorem mem_later {b : Browser} {place q : Nat} (h : q ∈ b.later place) : place < q :=
  of_decide_eq_true (List.mem_filter.mp h).2

theorem propagateWithin_of_none {b : Browser} {place : Nat} (h : b.collections[place]? = none) :
    ∀ rounds, propagateWithin rounds place b = (.ok (), b)
  | 0 => rfl
  | rounds + 1 => by
    unfold propagateWithin
    rw [bind_apply, state_apply]
    dsimp only
    rw [h]
    rfl

theorem propagateWithin_succ {b : Browser} {place : Nat} {c : Collection}
    (h : b.collections[place]? = some c) (rounds : Nat) :
    propagateWithin (rounds + 1) place b =
      each (passInto c.id (propagateWithin rounds)) (b.later place) b := by
  rw [propagateWithin, bind_apply, state_apply]
  dsimp only
  rw [h]
  rfl

/-- What passing into one collection comes to: nothing, where the collection is not concerned or has
    its root already; otherwise it is given its root, and that is passed on. -/
theorem passInto_ok {base : String} {onward : Nat → Action Browser Unit} {place : Nat}
    {b b' : Browser} (h : passInto base onward place b = (.ok (), b')) :
    (b' = b ∧ ∀ c, b.collections[place]? = some c → c.base? = some base →
        b.basedRoot place = .ok (some c.items)) ∨
      ∃ c items u, b.collections[place]? = some c ∧ b.basedRoot place = .ok (some items) ∧
        items ≠ c.items ∧ onCollection place () (View.setRoot items) b = (.ok (), u) ∧
          onward place u = (.ok (), b') := by
  unfold passInto at h
  rw [bind_apply, state_apply] at h
  dsimp only at h
  cases hc : b.collections[place]? with
  | none =>
    rw [hc] at h
    cases h
    exact .inl ⟨rfl, fun c hc' => by cases hc'⟩
  | some c =>
    rw [hc] at h
    dsimp only at h
    by_cases hbase : c.base? = some base
    · rw [hbase, beq_self_eq_true, if_pos rfl] at h
      obtain ⟨root, u, hof, h⟩ := bind_ok h
      obtain ⟨hroot, rfl⟩ := Prod.mk.inj hof
      cases root with
      | none => exact absurd hroot (basedRoot_ne_none hc hbase)
      | some items =>
        dsimp only at h
        by_cases heq : items = c.items
        · rw [if_pos heq] at h
          cases h
          refine .inl ⟨rfl, fun c' hc' _ => ?_⟩
          cases hc'
          rw [hroot, heq]
        · rw [if_neg heq] at h
          obtain ⟨_, u', hset, h⟩ := bind_ok h
          exact .inr ⟨c, items, u', rfl, hroot, heq, hset, h⟩
    · rw [if_neg fun heq => hbase (eq_of_beq heq)] at h
      cases h
      refine .inl ⟨rfl, fun c' hc' hbase' => absurd ?_ hbase⟩
      cases hc'
      exact hbase'

/-! ## 5. What passing on brings about -/

/-- What is worked out for a collection depends on its id, its source, on what the store answers, and on
    its base. -/
theorem basedRoot_congr {b b' : Browser} {place : Nat} {c c' : Collection}
    (hc : b.collections[place]? = some c) (hc' : b'.collections[place]? = some c')
    (hstore : b.store.Alike b'.store) (hid : c'.id = c.id) (hsource : c'.source = c.source)
    (hbase : ∀ id, c.base? = some id → b'.collection? id = b.collection? id) :
    b'.basedRoot place = b.basedRoot place := by
  unfold basedRoot
  rw [hc, hc']
  dsimp only
  rw [hid, hsource]
  split
  · next e id restricting hs =>
    rw [hbase id (by rw [Collection.base?, hs])]
    split
    · rfl
    · split
      · split
        · next f _ => rw [DerivedFacet.valuesOf_alike hstore rfl f.candidates]
        · rfl
      · rw [eval_alike hstore]
  · rfl

/-- It does not depend on a collection that is not its base. -/
theorem basedRoot_putView {b : Browser} {place : Nat} {c : Collection} {w : View}
    (hc : b.collections[place]? = some c) (hstore : b.store.Alike w.store)
    (hid : w.collection.id = c.id) (hsource : w.collection.source = c.source) {q : Nat}
    (hq : ¬ b.DependsOn q place) : (b.putView place w).basedRoot q = b.basedRoot q := by
  have hbase {d : Collection} (hd : b.collections[q]? = some d) (id : String)
      (hid' : d.base? = some id) : (b.putView place w).collection? id = b.collection? id := by
    have hne : c.id ≠ id := fun heq =>
      hq ⟨id, (baseAt_of_getElem? hd).trans hid', heq ▸ idAt_of_getElem? hc⟩
    have hfind := find?_set (g := fun d : Collection => d) (p := fun d : Collection => d.id == id)
      (y := w.collection) hc (by rw [hid]) fun hp => absurd (eq_of_beq hp) hne
    rwa [Option.map_id', Option.map_id'] at hfind
  by_cases heq : place = q
  · subst heq
    exact basedRoot_congr hc (List.getElem?_set_self (List.getElem?_eq_some_iff.mp hc).1) hstore hid
      hsource (hbase hc)
  · have hat : (b.putView place w).collections[q]? = b.collections[q]? := List.getElem?_set_ne heq
    cases hd : b.collections[q]? with
    | none =>
      unfold basedRoot
      rw [hat, hd]
    | some d => exact basedRoot_congr hd (hat.trans hd) hstore rfl rfl (hbase hd)

/-- A property of places that a collection gets with what is worked out for it, and that it loses only
    through changes of the collection that it is based on. -/
structure Rooting (H : Browser → Nat → Prop) : Prop where
  found : ∀ {b : Browser} {place : Nat} {c : Collection}, b.collections[place]? = some c →
    b.basedRoot place = .ok (some c.items) → H b place
  putView : ∀ {b : Browser} {place q : Nat} {c : Collection} {w : View},
    b.collections[place]? = some c → b.store.Alike w.store → w.collection.id = c.id →
    w.collection.source = c.source → (q = place → w.collection.items = c.items) →
    ¬ b.DependsOn q place → H b q → H (b.putView place w) q

theorem rooting_rootHolds : Rooting RootHolds where
  found hc hroot d hd hplain := by
    cases hc.symm.trans hd
    exact rootOf_of_basedRoot hc hplain hroot
  putView {b place q c w} hc hstore hid hsource hitems hq h d hd hplain := by
    have hself := idAt_of_getElem? hc
    by_cases heq : q = place
    · subst heq
      exact rootHolds_putView hc hstore hid hsource (hitems rfl) (fun hon => absurd hon hq) h d hd hplain
    · rw [Browser.putView, List.getElem?_set_ne (Ne.symm heq)] at hd
      rw [← h d hd hplain]
      exact rootOf_putView hc hstore hid rfl fun hbase =>
        absurd ⟨c.id, (baseAt_of_getElem? hd).trans hbase, hself⟩ hq

section Holding

variable {H : Browser → Nat → Prop}

/-- A collection that is given what is worked out for it has the property, and all that do not depend
    on it keep theirs. -/
theorem Rooting.setRoot (hH : Rooting H) {b b' : Browser} {place : Nat} {c : Collection}
    {items : KeySet} (hc : b.collections[place]? = some c) (hb : b.Ordered)
    (hroot : b.basedRoot place = .ok (some items))
    (h : onCollection place () (View.setRoot items) b = (.ok (), b')) :
    H b' place ∧ ∀ {q}, q ≠ place → ¬ b.DependsOn q place → H b q → H b' q := by
  obtain ⟨w, hw, rfl⟩ := onCollection_ok_of_some hc h
  have hkin := (View.setRoot_ok hw).1
  constructor
  · refine hH.found (List.getElem?_set_self (List.getElem?_eq_some_iff.mp hc).1) ?_
    rw [basedRoot_putView hc hkin.store hkin.id.symm hkin.source.symm fun hon =>
      Nat.lt_irrefl place (hon.lt hb), hroot, ← hkin.items]
    rfl
  · exact fun hne hq => hH.putView hc hkin.store hkin.id.symm hkin.source.symm
      (fun heq => absurd heq hne) hq

/-- Passing on for so many rounds brings the dependents of a collection up to date. `stale` are places
    that may be out of date anyway. -/
def Propagates (H : Browser → Nat → Prop) (rounds : Nat) : Prop :=
  ∀ (stale : Nat → Prop) {place : Nat} {b b' : Browser},
    propagateWithin rounds place b = (.ok (), b') → b.settings.errors ≠ .log → b.Ordered →
    b.collections.length ≤ rounds + place →
    (∀ q, ¬ stale q → ¬ b.DependsOn q place → H b q) →
    ∀ q, ¬ stale q → H b' q

/-- The browser `s` half way through passing on from a place of `b`: the dependents at the places that
    are left may be out of date. -/
structure HalfPassed (H : Browser → Nat → Prop) (b : Browser) (place : Nat) (stale : Nat → Prop)
    (left : List Nat) (s : Browser) : Prop where
  strict : s.settings.errors ≠ .log
  advance : b.Advance s
  later : ∀ r ∈ left, place < r
  holds : ∀ q, ¬ stale q → ¬ (q ∈ left ∧ b.DependsOn q place) → H s q

theorem HalfPassed.step {rounds place x : Nat} {b s t : Browser} {c : Collection}
    {stale : Nat → Prop} {left : List Nat} (hH : Rooting H) (hon : Propagates H rounds)
    (hb : b.Ordered) (hrounds : b.collections.length ≤ rounds + 1 + place)
    (hc : b.idAt place = some c.id) (hs : HalfPassed H b place stale (x :: left) s)
    (h : passInto c.id (propagateWithin rounds) x s = (.ok (), t)) :
    HalfPassed H b place stale left t := by
  have hxlt : place < x := hs.later x List.mem_cons_self
  have hordered : s.Ordered := hs.advance.ordered hb
  have hobeys := (obeys_passInto rounds c.id x).ok h
  refine ⟨by rw [hobeys.1]; exact hs.strict, hs.advance.trans (hobeys.2 rfl hs.strict),
    fun r hr => hs.later r (List.mem_cons_of_mem x hr), fun q hq hleft => ?_⟩
  rcases passInto_ok h with ⟨rfl, hfound⟩ | ⟨d, items, u, hd, hroot, -, hset, honward⟩
  · by_cases hqx : q = x ∧ b.DependsOn q place
    · obtain ⟨rfl, id, hbase, hid⟩ := hqx
      rw [hs.advance.baseAt] at hbase
      obtain ⟨d, hd, hdbase⟩ := Option.bind_eq_some_iff.mp hbase
      cases hc.symm.trans hid
      exact hH.found hd (hfound d hd hdbase)
    · refine hs.holds q hq fun hmem => ?_
      rcases List.mem_cons.mp hmem.1 with heq | hmem'
      · exact hqx ⟨heq, hmem.2⟩
      · exact hleft ⟨hmem', hmem.2⟩
  · have hsetObeys := (obeys_setRoot x items).ok hset
    have hu : s.Advance u := hsetObeys.2 rfl hs.strict
    obtain ⟨hself, hothers⟩ := hH.setRoot hd hordered hroot hset
    -- the dependents of `x` are brought up to date next, those of `place` that are left later
    refine hon (fun r => stale r ∨ (r ∈ left ∧ b.DependsOn r place)) honward
      (by rw [hsetObeys.1]; exact hs.strict) (hu.ordered hordered)
      (by rw [← hu.length, ← hs.advance.length]; omega) ?_ q (not_or.mpr ⟨hq, hleft⟩)
    intro r hr hdepends
    obtain ⟨hr, hrleft⟩ := not_or.mp hr
    by_cases hrx : r = x
    · exact hrx ▸ hself
    · refine hothers hrx (fun hon => hdepends (hu.dependsOn.mp hon)) (hs.holds r hr fun hmem => ?_)
      rcases List.mem_cons.mp hmem.1 with heq | hmem'
      · exact hrx heq
      · exact hrleft ⟨hmem', hmem.2⟩

/-- **Passing on brings the dependents of a collection up to date**, and those that depend on them. -/
theorem propagateWithin_holds (hH : Rooting H) (rounds : Nat) : Propagates H rounds := by
  induction rounds with
  | zero =>
    intro stale place b b' h hstrict hb hrounds hholds q hq
    cases h
    exact hholds q hq (not_dependsOn (by omega))
  | succ rounds ih =>
    intro stale place b b' h hstrict hb hrounds hholds q hq
    cases hc : b.collections[place]? with
    | none =>
      rw [propagateWithin_of_none hc] at h
      cases h
      exact hholds q hq (not_dependsOn (List.getElem?_eq_none_iff.mp hc))
    | some c =>
      rw [propagateWithin_succ hc] at h
      have hid := idAt_of_getElem? hc
      have hdone : HalfPassed H b place stale [] b' := by
        refine each_ok (fun hs hx => hs.step hH ih hb hrounds hid hx) h ?_
        refine ⟨hstrict, Advance.refl b, fun r hr => mem_later hr,
          fun q hq hleft => hholds q hq fun hon => ?_⟩
        refine hleft ⟨List.mem_filter.mpr ⟨List.mem_range.mpr ?_, decide_eq_true (hon.lt hb)⟩, hon⟩
        obtain ⟨id, hbase, -⟩ := hon
        refine Decidable.byContradiction fun hge => ?_
        rw [baseAt, List.getElem?_eq_none (by omega)] at hbase
        cases hbase
      exact hdone.holds q hq fun hmem => by cases hmem.1

theorem propagate_holds (hH : Rooting H) (stale : Nat → Prop) {place : Nat} {b b' : Browser}
    (h : propagate place b = (.ok (), b')) (hstrict : b.settings.errors ≠ .log) (hb : b.Ordered)
    (hholds : ∀ q, ¬ stale q → ¬ b.DependsOn q place → H b q) : ∀ q, ¬ stale q → H b' q :=
  propagateWithin_holds hH b.collections.length stale h hstrict hb (Nat.le_add_right _ _) hholds

end Holding

theorem propagate_roots (stale : Nat → Prop) {place : Nat} {b b' : Browser}
    (h : propagate place b = (.ok (), b')) (hstrict : b.settings.errors ≠ .log) (hb : b.Ordered)
    (hroots : ∀ q, ¬ stale q → ¬ b.DependsOn q place → b.RootHolds q) :
    ∀ q, ¬ stale q → b'.RootHolds q :=
  propagate_holds rooting_rootHolds stale h hstrict hb hroots

/-! ## 6. Bringing everything in line -/

theorem find_ok {id : String} {b b' : Browser} {place : Nat} (h : find id b = (.ok place, b')) :
    b' = b ∧ ∃ c, b.collections[place]? = some c ∧ c.id = id := by
  obtain ⟨s, u, hs, h⟩ := bind_ok h
  cases hs
  obtain ⟨hplace, rfl⟩ := Prod.mk.inj h
  refine ⟨rfl, ?_⟩
  unfold placeOf at hplace
  split at hplace
  · next found hfound =>
    cases hplace
    obtain ⟨hlt, hid, -⟩ := List.findIdx?_eq_some_iff_getElem.mp hfound
    exact ⟨_, List.getElem?_eq_getElem hlt, eq_of_beq hid⟩
  · cases hplace

theorem source_of_isRestricting {c : Collection} (hr : c.isRestricting = true) :
    ∃ e id, c.source = .based e id true := by
  unfold Collection.isRestricting at hr
  cases hs : c.source with
  | based e id restricting =>
    rw [hs] at hr
    cases hr
    exact ⟨e, id, rfl⟩
  | _ =>
    rw [hs] at hr
    cases hr

/-- A restricting collection depends on the one that its source names. -/
theorem dependsOn_of_source {b : Browser} {place on : Nat} {c d : Collection} {e : Expression}
    {id : String} {restricting : Bool} (hc : b.collections[place]? = some c)
    (hsource : c.source = .based e id restricting) (hd : b.collections[on]? = some d)
    (hdid : d.id = id) : b.DependsOn place on := by
  refine ⟨id, ?_, ?_⟩
  · rw [baseAt_of_getElem? hc, Collection.base?, hsource]
  · rw [idAt_of_getElem? hd, hdid]

theorem settleWithin_of_none {b : Browser} {place : Nat} (h : b.collections[place]? = none) :
    ∀ rounds, settleWithin rounds place b = (.ok (), b)
  | 0 => rfl
  | rounds + 1 => by
    unfold settleWithin
    rw [bind_apply, state_apply]
    dsimp only
    rw [h]
    rfl

theorem settleWithin_succ {b : Browser} {place : Nat} {c : Collection}
    (h : b.collections[place]? = some c) (rounds : Nat) :
    settleWithin (rounds + 1) place b =
      match c.source with
      | .based _ baseId true =>
        (find baseId >>= fun base =>
          onCollection base false
              (View.changeFacet (derivedId c.id) (.restrictTo (restriction c))) >>= fun _ =>
            settleWithin rounds base >>= fun _ => propagate place) b
      | _ => propagate place b := by
  rw [settleWithin, bind_apply, state_apply]
  dsimp only
  rw [h]
  dsimp only
  cases c.source with
  | based e baseId restricting => cases restricting <;> rfl
  | _ => rfl

theorem settleWithin_plain {b : Browser} {place : Nat} {c : Collection}
    (hc : b.collections[place]? = some c) (hplain : c.isRestricting = false) (rounds : Nat) :
    settleWithin (rounds + 1) place b = propagate place b := by
  rw [settleWithin_succ hc]
  unfold Collection.isRestricting at hplain
  split
  · next hsource =>
    rw [hsource] at hplain
    cases hplain
  · rfl

section Holding

variable {H : Browser → Nat → Prop} (hH : Rooting H)
include hH

/-- A change to a facet concerns the dependents of its collection only. -/
theorem changeFacetBy_holds {place : Nat} {id : String} {changed otherwise : Bool}
    {act : Facet → Scene → Outcome Bool × Facet} (hact : Sound act) {b b' : Browser}
    (h : onCollection place otherwise (View.changeFacetBy id act) b = (.ok changed, b')) {q : Nat}
    (hq : ¬ b.DependsOn q place) (hholds : H b q) : H b' q := by
  obtain ⟨-, -, rfl⟩ | ⟨c, w, hc, hw, rfl⟩ := onCollection_ok h
  · exact hholds
  · obtain ⟨hkin, -⟩ := View.changeFacetBy_ok hw hact
    exact hH.putView hc hkin.store hkin.id.symm hkin.source.symm (fun _ => hkin.items.symm) hq
      hholds

theorem settleWithin_holds (stale : Nat → Prop) {rounds place : Nat} {b b' : Browser}
    (h : settleWithin rounds place b = (.ok (), b')) (hstrict : b.settings.errors ≠ .log)
    (hb : b.Ordered) (hrounds : place < rounds)
    (hholds : ∀ q, ¬ stale q → ¬ b.DependsOn q place → H b q) : ∀ q, ¬ stale q → H b' q := by
  induction rounds generalizing place b b' stale with
  | zero => exact absurd hrounds (Nat.not_lt_zero place)
  | succ rounds ih =>
    cases hc : b.collections[place]? with
    | none =>
      rw [settleWithin_of_none hc] at h
      cases h
      exact fun q hq => hholds q hq (not_dependsOn (List.getElem?_eq_none_iff.mp hc))
    | some c =>
      rw [settleWithin_succ hc] at h
      split at h
      · next e baseId hsource =>
        obtain ⟨base, s, hfind, hfound⟩ := bind_ok h
        obtain ⟨rfl, d, hd, hdid⟩ := find_ok hfind
        obtain ⟨changed, u, hchange, hchanged⟩ := bind_ok hfound
        obtain ⟨_, t, hsettle, hsettled⟩ := bind_ok hchanged
        have hbase := dependsOn_of_source hc hsource hd hdid
        have hlt := hbase.lt hb
        have hu := (obeys_changeFacetOn base false _ (sound_perform _)).ok hchange
        have hadvance : s.Advance u := hu.2 rfl hstrict
        have hstrictU : u.settings.errors ≠ .log := by rw [hu.1]; exact hstrict
        have ht := (obeys_settleWithin rounds base).ok hsettle
        have honT : u.Advance t := ht.2 rfl hstrictU
        -- the base has its dependents brought up to date first, those of `place` wait
        refine propagate_holds hH stale hsettled (by rw [ht.1]; exact hstrictU)
          (honT.ordered (hadvance.ordered hb)) fun q hq hqplace => ?_
        refine ih (fun r => stale r ∨ u.DependsOn r place) hsettle hstrictU
          (hadvance.ordered hb) (by omega) (fun r hr hrbase => ?_) q
          (not_or.mpr ⟨hq, fun hon => hqplace (honT.dependsOn.mp hon)⟩)
        obtain ⟨hr, hrplace⟩ := not_or.mp hr
        refine changeFacetBy_holds hH (sound_perform _) hchange
          (fun hon => hrbase (hadvance.dependsOn.mp hon)) (hholds r hr fun hon => ?_)
        exact hrplace (hadvance.dependsOn.mp hon)
      · exact propagate_holds hH stale h hstrict hb hholds

/-- **Bringing everything in line** after a change in one collection: if only its dependents were out of
    date, then no collection is any more. -/
theorem settle_holds {place : Nat} {b b' : Browser} (h : settle place b = (.ok (), b'))
    (hstrict : b.settings.errors ≠ .log) (hb : b.Ordered)
    (hholds : ∀ q, ¬ b.DependsOn q place → H b q) (q : Nat) : H b' q := by
  have hwithin : settleWithin b.collections.length place b = (.ok (), b') := h
  by_cases hplace : place < b.collections.length
  · exact settleWithin_holds hH (fun _ => False) hwithin hstrict hb hplace
      (fun q _ => hholds q) q fun hfalse => hfalse
  · rw [settleWithin_of_none (List.getElem?_eq_none (by omega))] at hwithin
    cases hwithin
    exact hholds q (not_dependsOn (by omega))

end Holding

/-- After that every root holds. -/
theorem settle_roots {place : Nat} {b b' : Browser} (h : settle place b = (.ok (), b'))
    (hstrict : b.settings.errors ≠ .log) (hb : b.Ordered)
    (hroots : ∀ q, ¬ b.DependsOn q place → b.RootHolds q) (q : Nat) : b'.RootHolds q :=
  settle_holds rooting_rootHolds h hstrict hb hroots q

end Browser

/-! ## 7. The clock -/

/-- Is `now` called in the expression that leads to the items from another collection? -/
def ItemSource.asksTime : ItemSource → Bool
  | .based e _ _ => e.asksTime
  | _ => false

/-- Is `now` called in an expression of a facet, or in that of the source? -/
def Collection.asksTime (c : Collection) : Bool := c.facets.any Facet.asksTime || c.source.asksTime

namespace Browser

/-- Is `now` called in an expression of a facet or of a source? -/
def asksTime (b : Browser) : Bool := b.collections.any Collection.asksTime

variable {b : Browser} {c : Collection}

theorem facets_asksTime (h : b.asksTime = false) (hc : c ∈ b.collections) :
    View.asksTime ⟨b.store, c⟩ = false :=
  (Bool.or_eq_false_iff.mp (Bool.eq_false_iff.mpr (List.any_eq_false.mp h c hc))).1

theorem source_asksTime (h : b.asksTime = false) (hc : c ∈ b.collections) :
    c.source.asksTime = false :=
  (Bool.or_eq_false_iff.mp (Bool.eq_false_iff.mpr (List.any_eq_false.mp h c hc))).2

/-- **The root that a collection is to have** is the same at every moment. -/
theorem rootOf_atMoment (h : c.source.asksTime = false) (moment : Int) :
    (b.atMoment moment).rootOf c = b.rootOf c := by
  unfold rootOf
  cases hs : c.source with
  | based e id restricting =>
    have he : e.asksTime = false := by
      rw [hs] at h
      exact h
    dsimp only
    rw [show (b.atMoment moment).collection? id = b.collection? id from rfl]
    cases b.collection? id with
    | none => rfl
    | some base => exact congrArg (Except.map Values.toSet) (eval_atMoment he _ _ b.store moment).symm
  | _ => rfl

/-- What is worked out for a collection that is based on another one is the same at every moment. -/
theorem basedRoot_atMoment (h : b.asksTime = false) (moment : Int) (place : Nat) :
    (b.atMoment moment).basedRoot place = b.basedRoot place := by
  unfold basedRoot
  rw [show (b.atMoment moment).collections = b.collections from rfl]
  cases hc : b.collections[place]? with
  | none => rfl
  | some c =>
    dsimp only
    cases hs : c.source with
    | based e id restricting =>
      dsimp only
      rw [show (b.atMoment moment).collection? id = b.collection? id from rfl]
      cases hbase : b.collection? id with
      | none => rfl
      | some base =>
        dsimp only
        cases restricting with
        | false =>
          have he : e.asksTime = false := by
            have hsource := source_asksTime h (List.mem_of_getElem? hc)
            rw [hs] at hsource
            exact hsource
          exact congrArg (Except.map fun values : Values => some values.toSet)
            (eval_atMoment he _ _ b.store moment).symm
        | true =>
          -- the items are taken by the expression of a facet of the base
          rw [if_pos rfl, if_pos rfl]
          cases hf : base.facet? (derivedId c.id) with
          | none => rfl
          | some f =>
            cases f with
            | derived f =>
              have hfacet := View.asksTime_eq_false
                (facets_asksTime h (List.mem_of_find?_eq_some hbase)) (List.mem_of_find?_eq_some hf)
              have he : f.expression.asksTime = false := by
                simpa [Facet.asksTime, Facet.expressions] using hfacet
              exact congrArg (Except.map some) (DerivedFacet.valuesOf_congr
                (b.store.sameContent_atMoment moment)
                (fun item => eval_atMoment he _ _ b.store moment) rfl f.candidates).symm
            | _ => rfl
    | _ => rfl

end Browser

end Faceted
