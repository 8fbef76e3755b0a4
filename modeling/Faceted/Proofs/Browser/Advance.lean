import Faceted.Proofs.Collection.InLine

/-!
# Passing changes on

A change to one collection is passed on to those that depend on it, and a restricting collection also
hands it to its base. Whatever way it goes, the browser keeps the outlines of its collections, the
store answers as before, and collections that were in line are in line again.

* `Browser.Advance` is that relation, `Strictly` says that it holds of actions that succeed where
  failures are not just logged;
* `obeys_onCollection`: what advances one collection advances the browser;
* `follows_settle`: bringing everything in line obeys what new roots and new restrictions obey;
* **`obeys_settle`**: so it advances the browser, however many rounds it takes and whatever is based
  on what.
-/

namespace Faceted

open Faceted.Action

/-! ## 1. One collection -/

/-- What a collection is, apart from its items and its selections. -/
structure Collection.Outline where
  id : String
  source : ItemSource
  roles : List (String × Option Expression)

def Collection.outline (c : Collection) : Collection.Outline :=
  ⟨c.id, c.source, c.facets.map Facet.role⟩

namespace View

structure Advance (v w : View) : Prop where
  store : v.store.Alike w.store
  outline : v.collection.outline = w.collection.outline
  calm : v.collection.updating = false → w.collection.updating = false
  inLine : v.InLine → w.InLine

variable {v w : View}

theorem Kin.outline (h : v.Kin w) : v.collection.outline = w.collection.outline := by
  unfold Collection.outline
  rw [h.id, h.source, h.roles]

theorem Kin.advance (h : v.Kin w) (hline : v.InLine → w.InLine) : v.Advance w :=
  ⟨h.store, h.outline, h.updating, hline⟩

theorem advance_setRoot {items : KeySet} (h : setRoot items v = (.ok (), w)) : v.Advance w := by
  obtain ⟨hkin, hline⟩ := setRoot_ok h
  exact ⟨hkin.store, hkin.outline, hkin.updating, fun hv => hline hv.updating⟩

theorem advance_reroot (h : reroot v = (.ok (), w)) : v.Advance w := by
  obtain ⟨hkin, hline⟩ := reroot_ok h
  exact ⟨hkin.store, hkin.outline, hkin.updating, fun hv => hline hv.updating⟩

theorem advance_changeFacetBy {id : String} {act : Facet → Scene → Outcome Bool × Facet}
    {changed : Bool} (h : changeFacetBy id act v = (.ok changed, w)) (hact : Sound act) :
    v.Advance w := by
  obtain ⟨hkin, hline, -⟩ := changeFacetBy_ok h hact
  exact hkin.advance hline

theorem advance_restoreFacets {s : BrowserState} {changed : Bool}
    (h : Browser.restoreFacets s v = (.ok changed, w)) : v.Advance w := by
  obtain ⟨hkin, hline⟩ := restoreFacets_ok h
  exact hkin.advance fun hv => (hline hv).1

end View

namespace Browser

/-! ## 2. All collections -/

/-- No batch is under way anywhere. -/
def Calm (b : Browser) : Prop := ∀ c ∈ b.collections, c.updating = false

def AllInLine (b : Browser) : Prop := ∀ c ∈ b.collections, View.InLine ⟨b.store, c⟩

structure Advance (b b' : Browser) : Prop where
  store : b.store.Alike b'.store
  outlines : b.collections.map Collection.outline = b'.collections.map Collection.outline
  calm : b.Calm → b'.Calm
  inLine : b.AllInLine → b'.AllInLine

theorem Advance.refl (b : Browser) : b.Advance b :=
  ⟨Store.Alike.refl _, rfl, fun h => h, fun h => h⟩

theorem Advance.trans {a b c : Browser} (h : a.Advance b) (h' : b.Advance c) : a.Advance c where
  store := h.store.trans h'.store
  outlines := h.outlines.trans h'.outlines
  calm := h'.calm ∘ h.calm
  inLine := h'.inLine ∘ h.inLine

/-- The browser with a collection and the store as a view has them. -/
def putView (b : Browser) (place : Nat) (v : View) : Browser :=
  { b with store := v.store, collections := b.collections.set place v.collection }

theorem inLine_of_alike {s t : Store} {c : Collection} (h : s.Alike t)
    (hc : View.InLine ⟨s, c⟩) : View.InLine ⟨t, c⟩ :=
  (View.same_of_store (v := ⟨s, c⟩) h).inLine hc

theorem allInLine_putView {b : Browser} {place : Nat} {w : View} (hstore : b.store.Alike w.store)
    (hb : b.AllInLine) (hw : w.InLine) : (b.putView place w).AllInLine := by
  intro d hd
  rcases List.mem_or_eq_of_mem_set hd with hd | rfl
  · exact inLine_of_alike hstore (hb d hd)
  · exact hw

theorem calm_putView {b : Browser} {place : Nat} {w : View} (hb : b.Calm)
    (hw : w.collection.updating = false) : (b.putView place w).Calm := by
  intro d hd
  rcases List.mem_or_eq_of_mem_set hd with hd | rfl
  · exact hb d hd
  · exact hw

/-- What advances one collection advances the browser. -/
theorem advance_putView {b : Browser} {place : Nat} {c : Collection} {w : View}
    (hc : b.collections[place]? = some c) (h : View.Advance ⟨b.store, c⟩ w) :
    b.Advance (b.putView place w) where
  store := h.store
  outlines := (map_set_of_eq hc h.outline.symm).symm
  calm hb := calm_putView hb (h.calm (hb c (List.mem_of_getElem? hc)))
  inLine hb := allInLine_putView h.store hb (h.inLine (hb c (List.mem_of_getElem? hc)))

/-! ## 3. Actions -/

/-- The settings stay as they are; unless failures are only logged, success puts the browsers in the
    relation. -/
def Strictly (S : Browser → Browser → Prop) (ok : Bool) (b b' : Browser) : Prop :=
  b'.settings = b.settings ∧ (ok = true → b.settings.errors ≠ .log → S b b')

theorem frame_strictly {S : Browser → Browser → Prop} (hrefl : ∀ b, S b b)
    (htrans : ∀ {a b c}, S a b → S b c → S a c) : Frame (Strictly S) where
  refl _ b := ⟨rfl, fun _ _ => hrefl b⟩
  trans {ok a b c} h h' := by
    refine ⟨h'.1.trans h.1, fun hok hstrict => ?_⟩
    refine htrans (h.2 rfl hstrict) (h'.2 hok ?_)
    rw [h.1]
    exact hstrict

theorem frame_advance : Frame (Strictly Advance) := frame_strictly Advance.refl Advance.trans

section Actions

variable {α : Type} {S : Browser → Browser → Prop}

theorem onCollection_apply (place : Nat) (otherwise : α) (act : Action View α) (b : Browser) :
    onCollection place otherwise act b =
      match b.collections[place]? with
      | none => (.ok otherwise, b)
      | some c => ((act ⟨b.store, c⟩).1, b.putView place (act ⟨b.store, c⟩).2) := rfl

theorem onCollection_ok {place : Nat} {otherwise x : α} {act : Action View α} {b b' : Browser}
    (h : onCollection place otherwise act b = (.ok x, b')) :
    (b.collections[place]? = none ∧ x = otherwise ∧ b' = b) ∨
      ∃ c w, b.collections[place]? = some c ∧ act ⟨b.store, c⟩ = (.ok x, w) ∧
        b' = b.putView place w := by
  rw [onCollection_apply] at h
  cases hc : b.collections[place]? with
  | none =>
    rw [hc] at h
    cases h
    exact .inl ⟨rfl, rfl, rfl⟩
  | some c =>
    rw [hc] at h
    obtain ⟨hanswer, hview⟩ := Prod.mk.inj h
    exact .inr ⟨c, (act ⟨b.store, c⟩).2, rfl, Prod.ext hanswer rfl, hview.symm⟩

theorem onCollection_ok_of_some {place : Nat} {otherwise x : α} {act : Action View α}
    {b b' : Browser} {c : Collection} (hc : b.collections[place]? = some c)
    (h : onCollection place otherwise act b = (.ok x, b')) :
    ∃ w, act ⟨b.store, c⟩ = (.ok x, w) ∧ b' = b.putView place w := by
  obtain ⟨hnone, -⟩ | ⟨c', w, hc', hw, hb'⟩ := onCollection_ok h
  · rw [hnone] at hc
    cases hc
  · cases hc.symm.trans hc'
    exact ⟨w, hw, hb'⟩

theorem obeys_onCollection (place : Nat) (otherwise : α) {act : Action View α}
    (h : ∀ {v x w}, act v = (.ok x, w) → v.Advance w) :
    Obeys (Strictly Advance) (onCollection place otherwise act) := by
  intro b
  rw [onCollection_apply]
  split
  · exact frame_advance.refl _ b
  · next c hc =>
    refine ⟨rfl, fun hok _ => advance_putView hc ?_⟩
    cases hact : act ⟨b.store, c⟩ with
    | mk outcome w =>
      rw [hact] at hok
      cases outcome with
      | ok x => exact h hact
      | error failure => cases hok

/-- A failure that is not only logged stays one. -/
theorem obeys_guarded {act : Action Browser α} (h : Obeys (Strictly S) act) (otherwise : α) :
    Obeys (Strictly S) (guarded otherwise act) := by
  intro b
  have hb := h b
  show Strictly S ((act b).2.settings.errors.settle otherwise (act b).1).isOk b (act b).2
  refine ⟨hb.1, fun hok hstrict => hb.2 ?_ hstrict⟩
  rw [← hb.1] at hstrict
  generalize (act b).2.settings.errors = policy at hok hstrict
  cases houtcome : (act b).1 with
  | ok x => rfl
  | error failure =>
    rw [houtcome] at hok
    cases policy with
    | log => exact absurd rfl hstrict
    | throw => cases hok
    | logAndThrow => cases hok

theorem guarded_ok {act : Action Browser α} (h : Obeys (Strictly S) act) {otherwise x : α}
    {b b' : Browser} (hstrict : b.settings.errors ≠ .log)
    (hrun : guarded otherwise act b = (.ok x, b')) : act b = (.ok x, b') := by
  have hb := h b
  obtain ⟨hanswer, rfl⟩ := Prod.mk.inj hrun
  rw [← hb.1] at hstrict
  refine Prod.ext ?_ rfl
  show (act b).1 = .ok x
  generalize (act b).2.settings.errors = policy at hanswer hstrict
  cases houtcome : (act b).1 with
  | ok y =>
    rw [houtcome] at hanswer
    cases policy <;> exact hanswer
  | error failure =>
    rw [houtcome] at hanswer
    cases policy with
    | log => exact absurd rfl hstrict
    | throw => cases hanswer
    | logAndThrow => cases hanswer

theorem follows_find {R : Bool → Browser → Browser → Prop} (hR : Frame R) (id : String) :
    Obeys R (find id) :=
  hR.bind hR.state fun _ => hR.ofOutcome _

end Actions

/-! ## 4. Passing on -/

section PassingOn

/- Whatever way it goes, passing on is made of new roots, and on the way to the front of new
   restrictions. -/
variable {R : Bool → Browser → Browser → Prop} (hR : Frame R)
  (hset : ∀ place items, Obeys R (onCollection place () (View.setRoot items)))
include hR hset

theorem follows_passInto {onward : Nat → Action Browser Unit} (honward : ∀ place, Obeys R (onward place))
    (base : String) (place : Nat) : Obeys R (passInto base onward place) := by
  refine hR.bind hR.state fun b => ?_
  split
  · exact hR.pure ()
  · split
    · refine hR.bind (hR.ofOutcome _) fun root => ?_
      cases root with
      | none => exact hR.pure ()
      | some items =>
        dsimp only
        split
        · exact hR.pure ()
        · exact hR.bind (hset place items) fun _ => honward place
    · exact hR.pure ()

theorem follows_propagateWithin (rounds : Nat) : ∀ place, Obeys R (propagateWithin rounds place) := by
  induction rounds with
  | zero => exact fun _ => hR.pure ()
  | succ rounds ih =>
    intro place
    refine hR.bind hR.state fun b => ?_
    split
    · exact hR.pure ()
    · exact hR.each (follows_passInto hR hset ih _) _

theorem follows_propagate (place : Nat) : Obeys R (propagate place) :=
  hR.bind hR.state fun _ => follows_propagateWithin hR hset _ place

variable (hrestrict : ∀ place id allowed,
  Obeys R (onCollection place false (View.changeFacet id (.restrictTo allowed))))
include hrestrict

theorem follows_settleWithin (rounds : Nat) : ∀ place, Obeys R (settleWithin rounds place) := by
  induction rounds with
  | zero => exact fun _ => hR.pure ()
  | succ rounds ih =>
    intro place
    refine hR.bind hR.state fun b => ?_
    split
    · exact hR.pure ()
    · split
      · refine hR.bind (follows_find hR _) fun base => ?_
        refine hR.bind (hrestrict base _ _) fun _ => ?_
        exact hR.bind (ih base) fun _ => follows_propagate hR hset place
      · exact follows_propagate hR hset place

/-- **Bringing everything in line** obeys what new roots and new restrictions obey. -/
theorem follows_settle (place : Nat) : Obeys R (settle place) :=
  hR.bind hR.state fun _ => follows_settleWithin hR hset hrestrict _ place

end PassingOn

theorem obeys_setRoot (place : Nat) (items : KeySet) :
    Obeys (Strictly Advance) (onCollection place () (View.setRoot items)) :=
  obeys_onCollection place () View.advance_setRoot

theorem obeys_changeFacetOn (place : Nat) (otherwise : Bool) (id : String)
    {act : Facet → Scene → Outcome Bool × Facet} (hact : Sound act) :
    Obeys (Strictly Advance) (onCollection place otherwise (View.changeFacetBy id act)) :=
  obeys_onCollection place otherwise fun h => View.advance_changeFacetBy h hact

theorem obeys_reroot (place : Nat) : Obeys (Strictly Advance) (reroot place) := by
  refine frame_advance.bind frame_advance.state fun b => ?_
  refine frame_advance.bind (frame_advance.ofOutcome _) fun root => ?_
  cases root with
  | some items => exact obeys_setRoot place items
  | none => exact obeys_onCollection place () View.advance_reroot

theorem obeys_propagateWithin (rounds place : Nat) :
    Obeys (Strictly Advance) (propagateWithin rounds place) :=
  follows_propagateWithin frame_advance obeys_setRoot rounds place

theorem obeys_passInto (rounds : Nat) (base : String) (place : Nat) :
    Obeys (Strictly Advance) (passInto base (propagateWithin rounds) place) :=
  follows_passInto frame_advance obeys_setRoot (obeys_propagateWithin rounds) base place

theorem obeys_settleWithin (rounds place : Nat) :
    Obeys (Strictly Advance) (settleWithin rounds place) :=
  follows_settleWithin frame_advance obeys_setRoot
    (fun place id _ => obeys_changeFacetOn place false id (sound_perform _)) rounds place

/-- **Bringing everything in line** advances the browser. -/
theorem obeys_settle (place : Nat) : Obeys (Strictly Advance) (settle place) :=
  frame_advance.bind frame_advance.state fun _ => obeys_settleWithin _ place

end Browser

end Faceted
