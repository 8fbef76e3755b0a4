import Faceted.Proofs.Browser.Lasting

/-!
# Passing on comes to an end

Two recursions bring a browser in line, and neither of them is told when to stop: changed items are
passed on to the collections that are based on a collection, and from there on, and a restriction is
handed to the base of a collection, which is brought in line before the collection is. They end because
of the order of the collections: what is based on a collection comes after it, and its base before it.

* `ordered_after`: every step keeps that order, whatever fails in it, and whatever is done to a facet;
* `PropagateRun` and `SettleRun` are the recursions without any bound: a run is a finite derivation, so
  what has one has come to its end;
* **`propagateRun_iff`**: passing on always ends, and with what the bounded recursion comes to;
* **`settleRun_iff`**: so does bringing in line, if the collections are in order; for what happens if
  they are not, see `settleRun_of_own_base`;
* **`passing_on_ends`**: after any steps the collections are in order, and both recursions end.
-/

namespace Faceted

open Faceted.Action

namespace Browser

variable {b b' : Browser}

/-! ## 1. Ids and bases -/

theorem frame_sameBases : Frame fun _ => SameBases where
  refl _ _ := ⟨fun _ => rfl, fun _ => rfl⟩
  trans h h' := ⟨fun q => (h.idAt q).trans (h'.idAt q), fun q => (h.baseAt q).trans (h'.baseAt q)⟩

theorem sameBases_of_retains {r : Facet → Facet → Prop}
    (h : List.Forall₂ (Collection.Retains r) b.collections b'.collections) : b.SameBases b' where
  idAt place := by
    have hids : b.collections.map Collection.id = b'.collections.map Collection.id :=
      map_eq_of_forall₂ h fun _ _ hcd => hcd.id
    unfold Browser.idAt
    rw [← List.getElem?_map, hids, List.getElem?_map]
  baseAt place := by
    have hbases : b.collections.map Collection.base? = b'.collections.map Collection.base? := by
      refine map_eq_of_forall₂ h fun _ _ hcd => ?_
      unfold Collection.base?
      rw [hcd.source]
    simpa [Browser.baseAt, Option.bind_map, Function.comp_def] using
      congrArg (fun bases => bases[place]?.bind id) hbases

theorem length_le_iff {place : Nat} : b.collections.length ≤ place ↔ b.idAt place = none := by
  unfold idAt
  rw [Option.map_eq_none_iff, List.getElem?_eq_none_iff]

theorem SameBases.length (h : b.SameBases b') : b.collections.length = b'.collections.length := by
  refine Nat.le_antisymm (length_le_iff.mpr ?_) (length_le_iff.mpr ?_)
  · rw [h.idAt]
    exact length_le_iff.mp (Nat.le_refl _)
  · rw [← h.idAt]
    exact length_le_iff.mp (Nat.le_refl _)

/-- Nothing is asked of the facets. -/
theorem lasting_true : Facet.Lasting fun _ _ => True :=
  ⟨fun _ => trivial, fun _ _ => trivial, fun _ _ _ => trivial, fun _ _ _ => trivial, fun _ => trivial⟩

theorem sameBases_setRoot (place : Nat) (items : KeySet) :
    Obeys (fun _ => SameBases) (onCollection place () (View.setRoot items)) :=
  fun b => sameBases_of_retains
    (lasts_onCollection lasting_true place () (View.lasts_setRoot lasting_true items) b)

/-! ## 2. Order -/

/-- A new collection has an id of its own, and what it is based on is there already. -/
theorem ordered_halfMade {id : String} {source : ItemSource} (hb : b.Ordered)
    (hnew : b.collection? id = none) (hadmits : b.Admits id source) :
    (b.halfMade id source).Ordered := by
  have hsame : b.SameBases { b with collections := b.withNewDerived id source } := by
    rcases hadmits.withNewDerived_cases with ⟨-, hsame⟩ | ⟨e, place, c, -, hc, -, hset⟩
    · rw [hsame]
      exact frame_sameBases.refl true b
    · rw [hset]
      let w : View := ⟨b.store, c.pushFacet (newDerived id e c)⟩
      have hid (q : Nat) : (b.putView place w).idAt q = b.idAt q := idAt_putView hc rfl q
      have hbase (q : Nat) : (b.putView place w).baseAt q = b.baseAt q := baseAt_putView hc rfl q
      exact ⟨fun q => (hid q).symm, fun q => (hbase q).symm⟩
  refine ordered_withCollection (c := .new id source) (hsame.ordered hb) (fun q => ?_)
    fun base hbase => ?_
  · rw [← hsame.idAt]
    exact idAt_ne_of_collection? hnew q
  · cases source with
    | based e base' restricting =>
      cases hbase
      obtain ⟨place, c, hplace, -⟩ := hadmits
      obtain ⟨-, d, hd, rfl⟩ := placeOf_ok hplace
      exact ⟨place, (hsame.idAt place).symm.trans (idAt_of_getElem? hd)⟩
    | _ => cases hbase

theorem ordered_of_reshaped (hb : b.Ordered) (h : b.Reshaped b') : b'.Ordered := by
  cases h with
  | kept h => exact (sameBases_of_retains h).ordered hb
  | @attached place n c config settings f hc hf hnew h =>
    have hpushed : (b.putView place ⟨b.store, c.pushFacet f⟩).Ordered :=
      ordered_putView hb hc rfl rfl
    exact SameBases.ordered (sameBases_of_retains h) hpushed
  | @detached place c id hc h =>
    have hdropped : (b.putView place ⟨b.store, c.dropFacet id⟩).Ordered :=
      ordered_putView hb hc rfl rfl
    exact SameBases.ordered (sameBases_of_retains h) hdropped
  | created hnew hadmits h =>
    exact (sameBases_of_retains h).ordered (ordered_halfMade hb hnew hadmits)

end Browser

namespace BrowserStep

open Browser

/-- **Every step keeps the order**, whatever fails, also one that does to a facet what it likes. -/
theorem ordered_after (step : BrowserStep) {b : Browser} (hb : b.Ordered) :
    (step.after b).Ordered := by
  cases step with
  | withFacet collection facet act =>
    have hlasts : Browser.Lasts (fun _ _ => True) (changeFacetBy collection facet act) :=
      lasts_changeFacetBy lasting_true (fun _ _ _ => trivial) (fun _ _ => trivial) collection facet
    have hafter := hlasts b
    rw [← snd_bind_pure _ ()] at hafter
    exact SameBases.ordered (sameBases_of_retains hafter) hb
  | operation op =>
    have huses : (operation op).GoesByUses := trivial
    exact ordered_of_reshaped hb (reshaped_after huses b)

theorem ordered_afterAll (steps : List BrowserStep) {b : Browser} (hb : b.Ordered) :
    (afterAll steps b).Ordered := by
  induction steps generalizing b with
  | nil => exact hb
  | cons step rest ih => exact ih (step.ordered_after hb)

end BrowserStep

namespace Browser

variable {b b' : Browser}

/-! ## 3. Passing on without bounds -/

/-- Gives a collection its root items anew if it is based on the named one. Are they other items than
    before? -/
def renew (base : String) (place : Nat) : Action Browser Bool := do
  let b ← state
  match b.collections[place]? with
  | none => return false
  | some c =>
    if c.base? == some base then
      match ← ofOutcome (b.basedRoot place) with
      | none => return false
      | some items =>
        if items = c.items then return false
        else
          onCollection place () (View.setRoot items)
          return true
    else return false

mutual

/-- A run of passing on from a place, and what it comes to. -/
inductive PropagateRun : Nat → Browser → Outcome Unit × Browser → Prop where
  | absent {place : Nat} {b : Browser} (h : b.collections[place]? = none) :
    PropagateRun place b (.ok (), b)
  | toLater {place : Nat} {b : Browser} {c : Collection} {r : Outcome Unit × Browser}
    (hc : b.collections[place]? = some c) (h : PassRun c.id (b.later place) b r) :
    PropagateRun place b r

/-- A run through places, at which those that are based on the named collection are brought up to date,
    and what it comes to. -/
inductive PassRun : String → List Nat → Browser → Outcome Unit × Browser → Prop where
  | done {base : String} {b : Browser} : PassRun base [] b (.ok (), b)
  | failed {base : String} {place : Nat} {rest : List Nat} {b s : Browser} {failure : Failure}
    (h : renew base place b = (.error failure, s)) :
    PassRun base (place :: rest) b (.error failure, s)
  | same {base : String} {place : Nat} {rest : List Nat} {b s : Browser}
    {r : Outcome Unit × Browser} (h : renew base place b = (.ok false, s))
    (hrest : PassRun base rest s r) : PassRun base (place :: rest) b r
  | failedOn {base : String} {place : Nat} {rest : List Nat} {b s t : Browser} {failure : Failure}
    (h : renew base place b = (.ok true, s)) (hon : PropagateRun place s (.error failure, t)) :
    PassRun base (place :: rest) b (.error failure, t)
  | changed {base : String} {place : Nat} {rest : List Nat} {b s t : Browser}
    {r : Outcome Unit × Browser} (h : renew base place b = (.ok true, s))
    (hon : PropagateRun place s (.ok (), t)) (hrest : PassRun base rest t r) :
    PassRun base (place :: rest) b r

end

/-- What passing on does at one place, in two parts. -/
theorem passInto_eq (base : String) (onward : Nat → Action Browser Unit) (place : Nat)
    (b : Browser) :
    passInto base onward place b =
      (renew base place >>= fun changed => if changed then onward place else pure ()) b := by
  unfold passInto renew
  simp only [bind_apply, state_apply]
  cases b.collections[place]? with
  | none => rfl
  | some c =>
    dsimp only
    split
    · rw [bind_apply, bind_apply, ofOutcome_apply]
      cases b.basedRoot place with
      | error failure => rfl
      | ok root =>
        cases root with
        | none => rfl
        | some items =>
          dsimp only
          split
          · rfl
          · rw [bind_apply, bind_apply]
            generalize onCollection place () (View.setRoot items) b = answer
            obtain ⟨outcome, s⟩ := answer
            cases outcome <;> rfl
    · rfl

theorem sameBases_renew (base : String) (place : Nat) :
    Obeys (fun _ => SameBases) (renew base place) := by
  have hframe := frame_sameBases
  refine hframe.bind hframe.state fun b => ?_
  split
  · exact hframe.pure false
  · split
    · refine hframe.bind (hframe.ofOutcome _) fun root => ?_
      cases root with
      | none => exact hframe.pure false
      | some items =>
        dsimp only
        split
        · exact hframe.pure false
        · exact hframe.bind (sameBases_setRoot place items) fun _ => hframe.pure true
    · exact hframe.pure false

section Places

variable {base : String} {onward : Nat → Action Browser Unit} {place : Nat} {s : Browser}

theorem passInto_of_error {failure : Failure} (h : renew base place b = (.error failure, s)) :
    passInto base onward place b = (.error failure, s) := by
  rw [passInto_eq, bind_of_error h]

theorem passInto_of_same (h : renew base place b = (.ok false, s)) :
    passInto base onward place b = (.ok (), s) := by
  rw [passInto_eq, bind_of_ok h]
  rfl

theorem passInto_of_changed (h : renew base place b = (.ok true, s)) :
    passInto base onward place b = onward place s := by
  rw [passInto_eq, bind_of_ok h]
  rfl

end Places

/-- There are rounds enough for everything after the place. -/
def Suffices (b : Browser) (rounds place : Nat) : Prop := b.collections.length ≤ rounds + place

theorem SameBases.suffices (h : b.SameBases b') {rounds place : Nat} (hb : b.Suffices rounds place) :
    b'.Suffices rounds place := by
  unfold Suffices
  rw [← h.length]
  exact hb

theorem suffices_later {rounds place : Nat} (h : b.Suffices (rounds + 1) place) :
    ∀ q ∈ b.later place, b.Suffices rounds q := by
  intro q hq
  have hlt := mem_later hq
  unfold Suffices at *
  omega

theorem sameBases_propagateWithin (rounds place : Nat) :
    Obeys (fun _ => SameBases) (propagateWithin rounds place) :=
  follows_propagateWithin frame_sameBases sameBases_setRoot rounds place

/-- The bounded recursion is a run through the places, if it is one from each of them. -/
theorem passRun_each {rounds : Nat}
    (hon : ∀ {place : Nat} {b : Browser}, b.Suffices rounds place →
      PropagateRun place b (propagateWithin rounds place b)) (base : String) (places : List Nat) :
    ∀ {b : Browser}, (∀ q ∈ places, b.Suffices rounds q) →
      PassRun base places b (each (passInto base (propagateWithin rounds)) places b) := by
  induction places with
  | nil => exact fun _ => .done
  | cons place rest ih =>
    intro b hb
    obtain ⟨hplace, hrest⟩ := List.forall_mem_cons.mp hb
    have hs := sameBases_renew base place b
    rw [each]
    cases hrenew : renew base place b with
    | mk outcome s =>
      rw [hrenew] at hs
      cases outcome with
      | error failure =>
        rw [bind_of_error (passInto_of_error hrenew)]
        exact .failed hrenew
      | ok changed =>
        cases changed with
        | false =>
          rw [bind_of_ok (passInto_of_same hrenew)]
          exact .same hrenew (ih fun q hq => hs.suffices (hrest q hq))
        | true =>
          have hrun := hon (hs.suffices hplace)
          have ht := sameBases_propagateWithin rounds place s
          cases honward : propagateWithin rounds place s with
          | mk outcome t =>
            rw [honward] at hrun ht
            have hpass := (passInto_of_changed hrenew).trans honward
            cases outcome with
            | error failure =>
              rw [bind_of_error hpass]
              exact .failedOn hrenew hrun
            | ok done =>
              rw [bind_of_ok hpass]
              exact .changed hrenew hrun (ih fun q hq => ht.suffices (hs.suffices (hrest q hq)))

/-- The bounded recursion comes to the end of a run before its rounds are used up. -/
theorem propagateRun_within (rounds : Nat) : ∀ {place : Nat} {b : Browser}, b.Suffices rounds place →
    PropagateRun place b (propagateWithin rounds place b) := by
  induction rounds with
  | zero =>
    intro place b hb
    exact .absent (List.getElem?_eq_none (by simpa [Suffices] using hb))
  | succ rounds ih =>
    intro place b hb
    cases hc : b.collections[place]? with
    | none =>
      rw [propagateWithin_of_none hc]
      exact .absent hc
    | some c =>
      rw [propagateWithin_succ hc]
      exact .toLater hc (passRun_each ih c.id _ (suffices_later hb))

mutual

/-- Every run is the one of the bounded recursion, however many rounds that is given. -/
theorem PropagateRun.within {place : Nat} {b : Browser} {r : Outcome Unit × Browser}
    (h : PropagateRun place b r) {rounds : Nat} (hb : b.Suffices rounds place) :
    propagateWithin rounds place b = r := by
  match h, rounds with
  | .absent hnone, rounds => exact propagateWithin_of_none hnone rounds
  | .toLater hc hpass, 0 =>
    have hlt := (List.getElem?_eq_some_iff.mp hc).1
    unfold Suffices at hb
    omega
  | .toLater hc hpass, rounds + 1 =>
    rw [propagateWithin_succ hc]
    exact hpass.within (suffices_later hb)

theorem PassRun.within {base : String} {places : List Nat} {b : Browser}
    {r : Outcome Unit × Browser} (h : PassRun base places b r) {rounds : Nat}
    (hb : ∀ q ∈ places, b.Suffices rounds q) :
    each (passInto base (propagateWithin rounds)) places b = r := by
  match h with
  | .done => rfl
  | .failed hrenew =>
    rw [each, bind_of_error (passInto_of_error hrenew)]
  | .same hrenew hrest =>
    have hs := (sameBases_renew base _).ok hrenew
    rw [each, bind_of_ok (passInto_of_same hrenew)]
    exact hrest.within fun q hq => hs.suffices (hb q (List.mem_cons_of_mem _ hq))
  | .failedOn hrenew hon =>
    have hs := (sameBases_renew base _).ok hrenew
    have honward := hon.within (hs.suffices (hb _ List.mem_cons_self))
    rw [each, bind_of_error ((passInto_of_changed hrenew).trans honward)]
  | .changed hrenew hon hrest =>
    have hs := (sameBases_renew base _).ok hrenew
    have honward := hon.within (hs.suffices (hb _ List.mem_cons_self))
    have ht := (sameBases_propagateWithin rounds _).ok honward
    rw [each, bind_of_ok ((passInto_of_changed hrenew).trans honward)]
    exact hrest.within fun q hq =>
      ht.suffices (hs.suffices (hb q (List.mem_cons_of_mem _ hq)))

end

/-- **Passing on always ends**, from every place of every browser. -/
theorem propagateRun_iff {place : Nat} {r : Outcome Unit × Browser} :
    PropagateRun place b r ↔ propagate place b = r := by
  have hb : b.Suffices b.collections.length place := Nat.le_add_right _ _
  show _ ↔ propagateWithin b.collections.length place b = r
  constructor
  · exact fun h => h.within hb
  · rintro rfl
    exact propagateRun_within _ hb

/-! ## 4. Bringing in line without bounds -/

/-- A restricting collection hands its restriction to its base. The answer is where that stands. -/
def handOver (c : Collection) (baseId : String) : Action Browser Nat := do
  let base ← find baseId
  let _ ← onCollection base false (View.changeFacet (derivedId c.id) (.restrictTo (restriction c)))
  return base

/-- A run of bringing everything in line after a change in the collection at a place, and what it comes
    to. -/
inductive SettleRun : Nat → Browser → Outcome Unit × Browser → Prop where
  | absent {place : Nat} {b : Browser} (h : b.collections[place]? = none) :
    SettleRun place b (.ok (), b)
  | plain {place : Nat} {b : Browser} {c : Collection} {r : Outcome Unit × Browser}
    (hc : b.collections[place]? = some c) (hplain : c.isRestricting = false)
    (h : PropagateRun place b r) : SettleRun place b r
  | failed {place : Nat} {b s : Browser} {c : Collection} {e : Expression} {id : String}
    {failure : Failure} (hc : b.collections[place]? = some c) (hsource : c.source = .based e id true)
    (h : handOver c id b = (.error failure, s)) : SettleRun place b (.error failure, s)
  | failedBelow {place base : Nat} {b s t : Browser} {c : Collection} {e : Expression} {id : String}
    {failure : Failure} (hc : b.collections[place]? = some c) (hsource : c.source = .based e id true)
    (h : handOver c id b = (.ok base, s)) (hbase : SettleRun base s (.error failure, t)) :
    SettleRun place b (.error failure, t)
  | settledBelow {place base : Nat} {b s t : Browser} {c : Collection} {e : Expression} {id : String}
    {r : Outcome Unit × Browser} (hc : b.collections[place]? = some c)
    (hsource : c.source = .based e id true) (h : handOver c id b = (.ok base, s))
    (hbase : SettleRun base s (.ok (), t)) (hlast : PropagateRun place t r) : SettleRun place b r

section HandingOver

variable {place : Nat} {c : Collection} {e : Expression} {id : String}

theorem settleWithin_restricting (hc : b.collections[place]? = some c)
    (hsource : c.source = .based e id true) (rounds : Nat) :
    settleWithin (rounds + 1) place b =
      (handOver c id >>= fun base => settleWithin rounds base >>= fun _ => propagate place) b := by
  rw [settleWithin_succ hc, hsource]
  dsimp only
  unfold handOver
  rw [bind_apply, bind_apply, bind_apply, find_apply]
  cases b.placeOf id with
  | error failure => rfl
  | ok base =>
    dsimp only
    rw [bind_apply, bind_apply]
    generalize onCollection base false
      (View.changeFacet (derivedId c.id) (.restrictTo (restriction c))) b = answer
    obtain ⟨outcome, s⟩ := answer
    cases outcome <;> rfl

theorem lasts_handOver (c : Collection) (id : String) : Lasts (fun _ _ => True) (handOver c id) :=
  (frame_lasts lasting_true).bind (follows_find (frame_lasts lasting_true) id) fun base =>
    (frame_lasts lasting_true).bind
      (lasts_onCollection lasting_true base false
        (View.lasts_changeFacetBy lasting_true (fun _ _ => trivial) _))
      fun _ => (frame_lasts lasting_true).pure base

theorem sameBases_handOver (c : Collection) (id : String) :
    Obeys (fun _ => SameBases) (handOver c id) := fun b =>
  sameBases_of_retains (lasts_handOver c id b)

/-- What a collection hands its restriction to is the one that its source names. -/
theorem dependsOn_of_handOver {base : Nat} {s : Browser} (hc : b.collections[place]? = some c)
    (hsource : c.source = .based e id true) (h : handOver c id b = (.ok base, s)) :
    b.DependsOn place base := by
  obtain ⟨found, u, hfind, hrest⟩ := bind_ok h
  obtain ⟨-, d, hd, hid⟩ := find_ok hfind
  obtain ⟨_, t, -, hdone⟩ := bind_ok hrest
  cases hdone
  exact dependsOn_of_source hc hsource hd hid

/-- It comes before the collection, and the collections are in order still. -/
theorem back_of_handOver {base : Nat} {s : Browser} (hb : b.Ordered)
    (hc : b.collections[place]? = some c) (hsource : c.source = .based e id true)
    (h : handOver c id b = (.ok base, s)) : base < place ∧ s.Ordered :=
  ⟨(dependsOn_of_handOver hc hsource h).lt hb, ((sameBases_handOver c id).ok h).ordered hb⟩

end HandingOver

theorem exists_rounds {place rounds : Nat} {c : Collection} (hc : b.collections[place]? = some c)
    (hplace : place < b.collections.length → place < rounds) : ∃ fewer, rounds = fewer + 1 := by
  have hlt := hplace (List.getElem?_eq_some_iff.mp hc).1
  exact ⟨rounds - 1, by omega⟩

/-- The bounded recursion comes to the end of a run before its rounds are used up. -/
theorem settleRun_within (rounds : Nat) : ∀ {place : Nat} {b : Browser}, b.Ordered →
    (place < b.collections.length → place < rounds) →
      SettleRun place b (settleWithin rounds place b) := by
  induction rounds with
  | zero =>
    intro place b hb hplace
    exact .absent (List.getElem?_eq_none (Nat.not_lt.mp fun hlt => Nat.not_lt_zero _ (hplace hlt)))
  | succ rounds ih =>
    intro place b hb hplace
    cases hc : b.collections[place]? with
    | none =>
      rw [settleWithin_of_none hc]
      exact .absent hc
    | some c =>
      have hlt := hplace (List.getElem?_eq_some_iff.mp hc).1
      cases hrestricting : c.isRestricting with
      | false =>
        rw [settleWithin_plain hc hrestricting]
        exact .plain hc hrestricting (propagateRun_iff.mpr rfl)
      | true =>
        obtain ⟨e, id, hsource⟩ := source_of_isRestricting hrestricting
        rw [settleWithin_restricting hc hsource]
        cases hhand : handOver c id b with
        | mk outcome s =>
          cases outcome with
          | error failure =>
            rw [bind_of_error hhand]
            exact .failed hc hsource hhand
          | ok base =>
            rw [bind_of_ok hhand]
            obtain ⟨hbelow, hs⟩ := back_of_handOver hb hc hsource hhand
            have hrun := ih hs fun _ => show base < rounds by omega
            cases hbase : settleWithin rounds base s with
            | mk outcome t =>
              rw [hbase] at hrun
              cases outcome with
              | error failure =>
                rw [bind_of_error hbase]
                exact .failedBelow hc hsource hhand hrun
              | ok done =>
                rw [bind_of_ok hbase]
                exact .settledBelow hc hsource hhand hrun (propagateRun_iff.mpr rfl)

/-- Every run is the one of the bounded recursion, however many rounds that is given. -/
theorem SettleRun.within {place : Nat} {r : Outcome Unit × Browser} (h : SettleRun place b r) :
    ∀ {rounds : Nat}, b.Ordered → (place < b.collections.length → place < rounds) →
      settleWithin rounds place b = r := by
  induction h with
  | absent hnone => exact fun _ _ => settleWithin_of_none hnone _
  | plain hc hplain hrun =>
    intro rounds _ hplace
    obtain ⟨rounds, rfl⟩ := exists_rounds hc hplace
    rw [settleWithin_plain hc hplain]
    exact propagateRun_iff.mp hrun
  | failed hc hsource hhand =>
    intro rounds _ hplace
    obtain ⟨rounds, rfl⟩ := exists_rounds hc hplace
    rw [settleWithin_restricting hc hsource, bind_of_error hhand]
  | failedBelow hc hsource hhand _ ih =>
    intro rounds hb hplace
    obtain ⟨rounds, rfl⟩ := exists_rounds hc hplace
    obtain ⟨hbelow, hs⟩ := back_of_handOver hb hc hsource hhand
    have hlt := hplace (List.getElem?_eq_some_iff.mp hc).1
    rw [settleWithin_restricting hc hsource, bind_of_ok hhand,
      bind_of_error (ih hs fun _ => by omega)]
  | settledBelow hc hsource hhand _ hlast ih =>
    intro rounds hb hplace
    obtain ⟨rounds, rfl⟩ := exists_rounds hc hplace
    obtain ⟨hbelow, hs⟩ := back_of_handOver hb hc hsource hhand
    have hlt := hplace (List.getElem?_eq_some_iff.mp hc).1
    rw [settleWithin_restricting hc hsource, bind_of_ok hhand,
      bind_of_ok (ih hs fun _ => by omega)]
    exact propagateRun_iff.mp hlast

/-- **Bringing in line always ends** where the collections are in order. -/
theorem settleRun_iff (hb : b.Ordered) {place : Nat} {r : Outcome Unit × Browser} :
    SettleRun place b r ↔ settle place b = r := by
  show _ ↔ settleWithin b.collections.length place b = r
  constructor
  · exact fun h => h.within hb fun hlt => hlt
  · rintro rfl
    exact settleRun_within _ hb fun hlt => hlt

/-- **Without the order it would not end**: a restricting collection that is based on itself hands its
    restriction to itself again and again, until that fails. -/
theorem settleRun_of_own_base {place : Nat} {c : Collection} {e : Expression}
    {r : Outcome Unit × Browser} (hrun : SettleRun place b r)
    (hdistinct : ∀ {p q id}, b.idAt p = some id → b.idAt q = some id → p = q)
    (hc : b.collections[place]? = some c) (hsource : c.source = .based e c.id true) :
    r.1.isOk = false := by
  induction hrun generalizing c with
  | absent hnone =>
    rw [hnone] at hc
    cases hc
  | plain hc' hplain =>
    cases hc.symm.trans hc'
    rw [Collection.isRestricting, hsource] at hplain
    cases hplain
  | failed => rfl
  | failedBelow => rfl
  | @settledBelow place base b u t c' e' id r hc' hsource' hhand _ _ ih =>
    cases hc.symm.trans hc'
    cases hsource.symm.trans hsource'
    obtain ⟨own, hbase, hid⟩ := dependsOn_of_handOver hc hsource hhand
    rw [baseAt_of_getElem? hc, Collection.base?, hsource] at hbase
    cases hbase
    obtain rfl : base = place := hdistinct hid (idAt_of_getElem? hc)
    obtain ⟨d, hd, hcd⟩ := forall₂_getElem? ((lasts_handOver _ _).ok hhand) hc
    have hcd : Collection.Retains _ _ d := hcd
    have hu := (sameBases_handOver _ _).ok hhand
    have hbelow := ih (fun hp hq => hdistinct ((hu.idAt _).trans hp) ((hu.idAt _).trans hq)) hd
      (by rw [← hcd.source, hsource, hcd.id])
    cases hbelow

/-! ## 5. The statement -/

theorem Ordered.ids_nodup (hb : b.Ordered) : (b.collections.map Collection.id).Nodup := by
  refine List.nodup_iff_getElem?_ne_getElem?.mpr fun p q hlt hq hsame => ?_
  rw [List.length_map] at hq
  rw [List.getElem?_map, List.getElem?_map] at hsame
  have hid := idAt_of_getElem? (List.getElem?_eq_getElem hq)
  exact Nat.ne_of_lt hlt (hb.distinct (hsame.trans hid) hid)

/-- **Passing on comes to an end.** After any steps, whatever has failed in them, no two collections
    have the same id, and what a collection is based on comes before it. Therefore the two recursions
    end from every place, also in a browser that an operation is about to bring in line, which has other
    items and selections but the same collections; and they come to what the bounded recursions come
    to. -/
theorem passing_on_ends {settings : Settings} {present : Int} {steps : List BrowserStep} {b : Browser}
    (hb : b = BrowserStep.afterAll steps (start settings present)) :
    (b.collections.map Collection.id).Nodup ∧
      (∀ place base, b.baseAt place = some base → ∃ p < place, b.idAt p = some base) ∧
      ∀ s, b.SameBases s → ∀ place r,
        (PropagateRun place s r ↔ propagate place s = r) ∧
          (SettleRun place s r ↔ settle place s = r) := by
  subst hb
  have hb := BrowserStep.ordered_afterAll steps (orderly_start settings present).ordered
  exact ⟨hb.ids_nodup, fun _ _ hbase => hb.before hbase,
    fun s hs place r => ⟨propagateRun_iff, settleRun_iff (hs.ordered hb)⟩⟩

/-- The countries of the authors, by which the authors are narrowed, are to be found by a function that
    nobody knows. -/
def countries : CollectionConfig where
  id := some "countries"
  itemTypes := none
  expression := some "home(.country)"
  baseCollectionId := some "authors"
  restrictBaseCollection := true

/-- The books are narrowed by their authors; then the countries cannot be created. -/
def nesting : List BrowserOperation := clearing ++ [.createCollection countries]

/-- The collection that could not be created stands last in a row of three of which each narrows the one
    before, and bringing in line ends all the same: at the first one with success, at the second one
    since the function is not known. -/
theorem ends_of_nesting :
    (run nesting library).1.isOk = false ∧
      ∃ b, b = BrowserStep.afterAll (nesting.map .operation) library ∧
        b.baseAt 2 = some "authors" ∧ (∃ p < 2, b.idAt p = some "authors") ∧
        b.baseAt 1 = some defaultId ∧
        SettleRun 0 b (settle 0 b) ∧ (settle 0 b).1.isOk = true ∧
        SettleRun 1 b (settle 1 b) ∧ (settle 1 b).1.isOk = false := by
  obtain ⟨-, hbefore, hends⟩ :=
    passing_on_ends (b := BrowserStep.afterAll (nesting.map .operation) library) rfl
  have hruns (place : Nat) := ((hends _ ⟨fun _ => rfl, fun _ => rfl⟩ place _).2).mpr rfl
  have hbase : (BrowserStep.afterAll (nesting.map .operation) library).baseAt 2 = some "authors" := by
    decide +kernel
  exact ⟨by decide +kernel, _, rfl, hbase, hbefore 2 _ hbase, by decide +kernel, hruns 0,
    by decide +kernel, hruns 1, by decide +kernel⟩

end Browser

end Faceted
