import Faceted.Proofs.Facet.Waiting

/-!
# Typing into a text search

A text search that does not require Enter holds back the latest keystroke until its delay has passed.
Another keystroke, Enter, an empty box and clearing all put an end to that, and so does the first poll
at which it is due. What holds for every run of such events:

* `pending_takeAll_iff`: what is held back is the last keystroke, as long as there were only polls since
  and none of them was late enough;
* `BecomesQuery`: a poll makes a query of the keystroke at some place, whatever was typed there;
* **`last_keystroke_wins`**: when a keystroke becomes the query, and that nothing else does.

The moments of the events need not be in order.
-/

namespace Faceted

/-! ## 1. Runs -/

/-- What may happen to a text search. -/
inductive SearchEvent where
  /-- A keystroke: the text in the box, and whether Enter was pressed. -/
  | input (text : String) (now : Nat) (enter : Bool)
  | poll (now : Nat)
  | clear

/-- The change of a facet that an event is. -/
def SearchEvent.change : SearchEvent → Change
  | .input text now enter => .input text now enter
  | .poll now => .poll now
  | .clear => .clear

namespace TextSearchFacet

variable {f : TextSearchFacet} {events before since : List SearchEvent} {text : String}
  {start due now : Nat}

def take (f : TextSearchFacet) : SearchEvent → TextSearchFacet
  | .input text now enter => (f.input text now enter).2
  | .poll now => (f.poll now).2
  | .clear => f.clear.2

def takeAll (f : TextSearchFacet) (events : List SearchEvent) : TextSearchFacet := events.foldl take f

/-- Events are changes like those of other facets. -/
theorem perform_change (f : TextSearchFacet) (scene : Scene) (e : SearchEvent) :
    ((Facet.textSearch f).perform scene e.change).2 = .textSearch (f.take e) := by
  cases e <;> rfl

theorem takeAll_append (f : TextSearchFacet) (before since : List SearchEvent) :
    f.takeAll (before ++ since) = (f.takeAll before).takeAll since := List.foldl_append

/-- No event changes what a text search demands and how long it waits. -/
theorem demands_take (f : TextSearchFacet) (e : SearchEvent) :
    (f.take e).requiresEnter = f.requiresEnter ∧
      (f.take e).debouncer.delay = f.debouncer.delay := by
  cases e with
  | input text now enter =>
    rw [take, input]
    split
    · rw [setText]
      exact ⟨rfl, rfl⟩
    · split <;> exact ⟨rfl, rfl⟩
  | poll now =>
    rw [take]
    rcases Facet.textSearch_poll_cases f now with ⟨hidle, -⟩ | ⟨text, due, -, -, hpoll⟩
    · rw [hidle]
      exact ⟨rfl, rfl⟩
    · rw [hpoll]
      exact ⟨rfl, rfl⟩
  | clear => exact ⟨rfl, rfl⟩

theorem demands_takeAll (f : TextSearchFacet) (events : List SearchEvent) :
    (f.takeAll events).requiresEnter = f.requiresEnter ∧
      (f.takeAll events).debouncer.delay = f.debouncer.delay := by
  induction events generalizing f with
  | nil => exact ⟨rfl, rfl⟩
  | cons e events ih =>
    obtain ⟨henter, hdelay⟩ := ih (f.take e)
    obtain ⟨henter', hdelay'⟩ := demands_take f e
    exact ⟨henter.trans henter', hdelay.trans hdelay'⟩

/-! ## 2. One event -/

/-- The same facet, which holds back a text typed at a moment. -/
def holding (f : TextSearchFacet) (text : String) (start : Nat) : TextSearchFacet :=
  { f with debouncer := f.debouncer.schedule text start }

/-- A keystroke that stands for a query is held back, and nothing else changes. -/
theorem input_of_queryOf (hf : f.requiresEnter = false) (htext : queryOf text ≠ none) (start : Nat) :
    f.input text start false = (false, f.holding text start) := by
  have hheld : (queryOf text).isNone = false := by
    cases hquery : queryOf text with
    | none => exact absurd hquery htext
    | some query => rfl
  simp [input, hheld, hf, holding]

/-- Enter and an empty box take effect at once. -/
theorem pending_input_of_atOnce {enter : Bool} (h : enter = true ∨ queryOf text = none) (now : Nat) :
    (f.input text now enter).2.debouncer.pending = none := by
  have honce : (enter || (queryOf text).isNone) = true := by
    rcases h with h | h <;> simp [h]
  simp [input, honce, setText, Debouncer.cancel]

/-- A poll leaves what is not due yet. -/
theorem poll_of_lt (hpending : f.debouncer.pending = some (text, due)) (hnow : now < due) :
    f.poll now = (false, f) := by
  rcases Facet.textSearch_poll_cases f now with ⟨hidle, -⟩ | ⟨text', due', hdue, hpending', -⟩
  · exact hidle
  · rw [hpending] at hpending'
    cases hpending'
    omega

/-- A poll applies what is due. -/
theorem poll_of_le (hpending : f.debouncer.pending = some (text, due)) (hnow : due ≤ now) :
    f.poll now = (queryOf text != f.query,
      { f with debouncer := f.debouncer.cancel, query := queryOf text }) := by
  rcases Facet.textSearch_poll_cases f now with ⟨-, hearly⟩ | ⟨text', due', -, hpending', hpoll⟩
  · have := hearly text due hpending
    omega
  · rw [hpending] at hpending'
    cases hpending'
    exact hpoll

/-- **After an event** something is held back if it has just been typed, or if it was held back before
    and the event is a poll at which it is not due. -/
theorem pending_take_iff (hf : f.requiresEnter = false) (e : SearchEvent) :
    (f.take e).debouncer.pending = some (text, due) ↔
      (∃ start, e = .input text start false ∧ queryOf text ≠ none ∧
        due = start + f.debouncer.delay) ∨
        ∃ now, e = .poll now ∧ now < due ∧ f.debouncer.pending = some (text, due) := by
  cases e with
  | input typed start enter =>
    rw [take]
    by_cases honce : enter = true ∨ queryOf typed = none
    · rw [pending_input_of_atOnce honce]
      constructor
      · intro h
        cases h
      · rintro (⟨start', heq, htext, -⟩ | ⟨now, heq, -⟩)
        · cases heq
          rcases honce with henter | hblank
          · cases henter
          · exact absurd hblank htext
        · cases heq
    · obtain ⟨henter, htyped⟩ := not_or.mp honce
      rw [Bool.not_eq_true] at henter
      rw [henter, input_of_queryOf hf htyped, holding, Debouncer.schedule]
      constructor
      · intro h
        cases h
        exact .inl ⟨start, rfl, htyped, rfl⟩
      · rintro (⟨start', heq, -, hdue⟩ | ⟨now, heq, -⟩)
        · cases heq
          rw [hdue]
        · cases heq
  | poll now =>
    rw [take]
    rcases Facet.textSearch_poll_cases f now with
      ⟨hidle, hearly⟩ | ⟨text', due', hdue, hpending, hpoll⟩
    · rw [hidle]
      constructor
      · exact fun h => .inr ⟨now, rfl, hearly text due h, h⟩
      · rintro (⟨start, heq, -⟩ | ⟨now', -, -, h⟩)
        · cases heq
        · exact h
    · rw [hpoll]
      constructor
      · intro h
        cases h
      · rintro (⟨start, heq, -⟩ | ⟨now', heq, hlt, hpending'⟩)
        · cases heq
        · cases heq
          rw [hpending] at hpending'
          cases hpending'
          omega
  | clear =>
    constructor
    · intro h
      cases h
    · rintro (⟨start, heq, -⟩ | ⟨now, heq, -⟩) <;> cases heq

/-! ## 3. What is held back after a run -/

/-- Nothing but polls, all of them before a moment. -/
def EarlyPolls (due : Nat) (events : List SearchEvent) : Prop :=
  ∀ e ∈ events, ∃ now < due, e = .poll now

theorem earlyPolls_cons {e : SearchEvent} :
    EarlyPolls due (e :: events) ↔ (∃ now < due, e = .poll now) ∧ EarlyPolls due events :=
  List.forall_mem_cons

/-- The last keystroke of a run stands for a query, and every poll since then was before it was due. -/
def LastTyped (delay : Nat) (events : List SearchEvent) (text : String) (due : Nat) : Prop :=
  ∃ before start since, events = before ++ .input text start false :: since ∧
    queryOf text ≠ none ∧ due = start + delay ∧ EarlyPolls due since

/-- The last keystroke is the first event, or one after it. -/
theorem lastTyped_cons {delay : Nat} {e : SearchEvent} :
    LastTyped delay (e :: events) text due ↔ LastTyped delay events text due ∨
      (∃ start, e = .input text start false ∧ queryOf text ≠ none ∧ due = start + delay) ∧
        EarlyPolls due events := by
  constructor
  · rintro ⟨before, start, since, heq, htext, hdue, hearly⟩
    cases before with
    | nil =>
      cases heq
      exact .inr ⟨⟨start, rfl, htext, hdue⟩, hearly⟩
    | cons e before =>
      cases heq
      exact .inl ⟨before, start, since, rfl, htext, hdue, hearly⟩
  · rintro (⟨before, start, since, rfl, hkept⟩ | ⟨⟨start, rfl, htext, hdue⟩, hearly⟩)
    · exact ⟨e :: before, start, since, rfl, hkept⟩
    · exact ⟨[], start, events, rfl, htext, hdue, hearly⟩

/-- **What is held back after a run** is what was typed last or, if nothing but polls came, what the
    text search held back from the start. -/
theorem pending_takeAll_iff (hf : f.requiresEnter = false) (events : List SearchEvent) :
    (f.takeAll events).debouncer.pending = some (text, due) ↔
      LastTyped f.debouncer.delay events text due ∨
        f.debouncer.pending = some (text, due) ∧ EarlyPolls due events := by
  induction events generalizing f with
  | nil =>
    refine ⟨fun h => .inr ⟨h, nofun⟩, ?_⟩
    rintro (⟨before, start, since, heq, -⟩ | ⟨hpending, -⟩)
    · cases before <;> cases heq
    · exact hpending
  | cons e events ih =>
    obtain ⟨henter, hdelay⟩ := demands_take f e
    have hrun : f.takeAll (e :: events) = (f.take e).takeAll events := rfl
    rw [hrun, ih (henter.trans hf), hdelay, pending_take_iff hf, lastTyped_cons, earlyPolls_cons]
    -- both sides say: typed later, or typed now and not yet due since, or held back and not yet due
    grind

/-- A keystroke that stands for a query starts afresh, whatever came before. -/
theorem takeAll_typed (hf : f.requiresEnter = false) (htext : queryOf text ≠ none)
    (before since : List SearchEvent) (start : Nat) :
    f.takeAll (before ++ .input text start false :: since) =
      ((f.takeAll before).holding text start).takeAll since := by
  have henter := (demands_takeAll f before).1.trans hf
  rw [takeAll_append, takeAll, List.foldl_cons, take, input_of_queryOf henter htext, ← takeAll]

theorem pending_typed_iff (hf : f.requiresEnter = false) {typed : String}
    (htyped : queryOf typed ≠ none) (before since : List SearchEvent) (start : Nat) :
    (f.takeAll (before ++ .input typed start false :: since)).debouncer.pending = some (text, due) ↔
      LastTyped f.debouncer.delay since text due ∨
        (typed = text ∧ start + f.debouncer.delay = due) ∧ EarlyPolls due since := by
  obtain ⟨henter, hdelay⟩ := demands_takeAll f before
  have hstart : ((f.takeAll before).holding typed start).requiresEnter = false := henter.trans hf
  rw [takeAll_typed hf htyped, pending_takeAll_iff hstart]
  simp only [holding, Debouncer.schedule, hdelay, Option.some.injEq, Prod.mk.injEq]

/-- Polls that come too early change nothing. -/
theorem takeAll_of_earlyPolls (hpending : f.debouncer.pending = some (text, due))
    (hearly : EarlyPolls due events) : f.takeAll events = f := by
  induction events with
  | nil => rfl
  | cons e events ih =>
    obtain ⟨⟨now, hlt, rfl⟩, hrest⟩ := earlyPolls_cons.mp hearly
    have hrun : f.takeAll (.poll now :: events) = (f.take (.poll now)).takeAll events := rfl
    rw [hrun, take, poll_of_lt hpending hlt]
    exact ih hrest

/-! ## 4. Becoming the query -/

/-- At a poll after the run the keystroke between two parts of it becomes the query: whatever is typed
    there is the query after the poll, and it need not have been the query before. -/
structure BecomesQuery (f : TextSearchFacet) (before : List SearchEvent) (start : Nat)
    (since : List SearchEvent) (now : Nat) : Prop where
  after : ∀ text, queryOf text ≠ none →
    ((f.takeAll (before ++ .input text start false :: since)).poll now).2.query = queryOf text
  new : ¬ ∀ text, queryOf text ≠ none →
    (f.takeAll (before ++ .input text start false :: since)).query = queryOf text

/-- No query is the only one that can be typed. -/
theorem exists_other_query (query : Option String) :
    ∃ text, queryOf text ≠ none ∧ query ≠ queryOf text := by
  by_cases h : query = queryOf "a"
  · exact ⟨"b", by decide +kernel, by rw [h]; decide +kernel⟩
  · exact ⟨"a", by decide +kernel, h⟩

theorem becomesQuery_of_le (hf : f.requiresEnter = false)
    (hnow : start + f.debouncer.delay ≤ now) (hearly : EarlyPolls (start + f.debouncer.delay) since)
    (before : List SearchEvent) : f.BecomesQuery before start since now where
  after text htext := by
    have hpending := (pending_typed_iff hf htext before since start).mpr (.inr ⟨⟨rfl, rfl⟩, hearly⟩)
    rw [poll_of_le hpending hnow]
  new hall := by
    -- the polls since then leave the query that there was before the keystroke
    obtain ⟨text, htext, hother⟩ := exists_other_query (f.takeAll before).query
    apply hother
    rw [← hall text htext, takeAll_typed hf htext]
    have hheld : ((f.takeAll before).holding text start).debouncer.pending =
        some (text, start + f.debouncer.delay) := by
      rw [holding, Debouncer.schedule, (demands_takeAll f before).2]
    rw [takeAll_of_earlyPolls hheld hearly, holding]

/-- **A keystroke becomes the query** at a poll exactly when it is due there, has been the last event
    but for polls, and was due at none of these. -/
theorem becomesQuery_iff (hf : f.requiresEnter = false) (before : List SearchEvent) (start : Nat)
    (since : List SearchEvent) (now : Nat) :
    f.BecomesQuery before start since now ↔
      start + f.debouncer.delay ≤ now ∧ EarlyPolls (start + f.debouncer.delay) since := by
  refine ⟨fun hbecomes => ?_, fun ⟨hnow, hearly⟩ => becomesQuery_of_le hf hnow hearly before⟩
  by_contra hnot
  -- what the poll applies is the same whatever was typed
  by_cases happlies : ∃ text due, LastTyped f.debouncer.delay since text due ∧ due ≤ now
  · obtain ⟨text, due, hlast, hnow⟩ := happlies
    obtain ⟨typed, htyped, hother⟩ := exists_other_query (queryOf text)
    apply hother
    have hpending := (pending_typed_iff hf htyped before since start).mpr (.inl hlast)
    rw [← hbecomes.after typed htyped, poll_of_le hpending hnow]
  · refine hbecomes.new fun typed htyped => ?_
    rw [← hbecomes.after typed htyped]
    rcases Facet.textSearch_poll_cases _ now with ⟨hidle, -⟩ | ⟨text, due, hnow, hpending, -⟩
    · rw [hidle]
    · rcases (pending_typed_iff hf htyped before since start).mp hpending with
        hlast | ⟨⟨-, rfl⟩, hearly⟩
      · exact absurd ⟨text, due, hlast, hnow⟩ happlies
      · exact absurd ⟨hnow, hearly⟩ hnot

/-- **The last keystroke wins.** Take any run of a text search that does not require Enter, and a poll
    after it. A keystroke of the run that stands for a query becomes the query there exactly when it
    is due, only polls came since, and it was due at none of them. The poll applies nothing but such a
    keystroke, or what the text search held back from the start if there were only early polls, and it
    tells whether the query has changed. A keystroke alone leaves the query. -/
theorem last_keystroke_wins (hf : f.requiresEnter = false) (events : List SearchEvent) (now : Nat) :
    (∀ before text start since, events = before ++ .input text start false :: since →
      queryOf text ≠ none →
        (f.BecomesQuery before start since now ↔
          start + f.debouncer.delay ≤ now ∧ EarlyPolls (start + f.debouncer.delay) since)) ∧
    ((f.takeAll events).poll now = (false, f.takeAll events) ∨
      ∃ text,
        ((f.takeAll events).poll now).2 = { f.takeAll events with
          query := queryOf text, debouncer := (f.takeAll events).debouncer.cancel } ∧
        ((∃ before start since, events = before ++ .input text start false :: since ∧
            queryOf text ≠ none ∧ f.BecomesQuery before start since now) ∨
          ∃ due ≤ now, f.debouncer.pending = some (text, due) ∧ EarlyPolls due events)) ∧
    (((f.takeAll events).poll now).1 = true ↔
      ((f.takeAll events).poll now).2.query ≠ (f.takeAll events).query) ∧
    ∀ text start, queryOf text ≠ none →
      ((f.takeAll events).input text start false).1 = false ∧
        ((f.takeAll events).input text start false).2.query = (f.takeAll events).query := by
  refine ⟨fun before _ start since _ _ => becomesQuery_iff hf before start since now, ?_, ?_, ?_⟩
  · rcases Facet.textSearch_poll_cases (f.takeAll events) now with
      ⟨hidle, -⟩ | ⟨text, due, hnow, hpending, hpoll⟩
    · exact .inl hidle
    · refine .inr ⟨text, by rw [hpoll], ?_⟩
      rcases (pending_takeAll_iff hf events).mp hpending with
        ⟨before, start, since, hevents, htext, rfl, hearly⟩ | ⟨hstart, hearly⟩
      · exact .inl ⟨before, start, since, hevents, htext, becomesQuery_of_le hf hnow hearly before⟩
      · exact .inr ⟨due, hnow, hstart, hearly⟩
  · rcases Facet.textSearch_poll_cases (f.takeAll events) now with
      ⟨hidle, -⟩ | ⟨text, due, -, -, hpoll⟩
    · rw [hidle]
      exact ⟨nofun, fun hne => absurd rfl hne⟩
    · rw [hpoll]
      dsimp only
      exact bne_iff_ne
  · intro text start htext
    rw [input_of_queryOf ((demands_takeAll f events).1.trans hf) htext]
    exact ⟨rfl, rfl⟩

/-- Two keystrokes within the delay: the second becomes the query, and the first never does. -/
theorem last_keystroke_wins_twice :
    let f := TextSearchFacet.new "search" .allProperties 500
    f.requiresEnter = false ∧ queryOf "em" ≠ none ∧
      ([.input "dr" 0 false, .input "em" 300 false, .poll 600] : List SearchEvent) =
        [.input "dr" 0 false] ++ .input "em" 300 false :: [.poll 600] ∧
      f.BecomesQuery [.input "dr" 0 false] 300 [.poll 600] 800 ∧
      ¬ f.BecomesQuery [] 0 [.input "em" 300 false, .poll 600] 800 := by
  intro f
  have hwins := (last_keystroke_wins (f := f) rfl
    [.input "dr" 0 false, .input "em" 300 false, .poll 600] 800).1
  refine ⟨rfl, by decide, rfl, (hwins _ "em" 300 _ rfl (by decide)).mpr ⟨by decide, ?_⟩,
    fun hbecomes => ?_⟩
  · simp [EarlyPolls, f, new, Debouncer.new]
  · have hearly := ((hwins [] "dr" 0 _ rfl (by decide)).mp hbecomes).2
    simp [EarlyPolls] at hearly

end TextSearchFacet

end Faceted
