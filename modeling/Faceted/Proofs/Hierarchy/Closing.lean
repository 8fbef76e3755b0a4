import Faceted.Proofs.Hierarchy.Calling

/-!
# Walks that close a relation

What a value leads to is gathered by a walk: a value that waits is taken, and what it leads to is found
and waits in its turn, unless it was found before or is the start. The start itself is never found, so
the walk may come back to it again and again. Nothing is said about how often this is repeated: the walk
goes on as long as anything waits.

* `Relation.Round` is one round of such a walk, whichever value is taken and in whatever order others
  are put in line; `round_of_notes` and `round_of_filter` are two ways to make it;
* `Round.left_lt`: every round leaves less, so no walk goes on for ever;
* `Exploring.round`: the invariant of the walk is kept by a round, paths through the start included;
* **`closure_is_reachability`**: every walk ends, and ends with the closure, which is what is reached in
  one step or more; so ancestors and descendants are converse on every tree that is built.
-/

namespace Faceted

namespace Relation

variable {r : Relation} {start v w : String}

/-! ## 1. Rounds -/

/-- What waits, and what is found. -/
abbrev Walk := List String × KeySet

/-- One of the waiting values is taken. What it leads to and was not found, except the start, is found
    and put in line. -/
inductive Round (r : Relation) (start : String) : Walk → Walk → Prop
  | take {v : String} {waiting rest waiting' : List String} {found new : KeySet}
      (taken : waiting.Perm (v :: rest))
      (entered : ∀ w, w ∈ new ↔ w ∈ r.next v ∧ w ≠ start ∧ w ∉ found)
      (line : waiting'.Perm (new.toList ++ rest)) :
      Round r start (waiting, found) (waiting', found.union new)

/-- What a round leaves: the values that wait, and the pairs that lead to something not found. -/
def left (r : Relation) (s : Walk) : Nat := s.1.length + r.unreached s.2

/-- As long as something waits there is a round, with the values in the order of the set. -/
theorem round_of_filter (r : Relation) (start v : String) (waiting : List String) (found : KeySet) :
    let new := (r.next v).filter fun w => w != start && !found.contains w
    r.Round start (v :: waiting, found) (new.toList ++ waiting, found.union new) :=
  .take (.refl _) (mem_filter_new r start v found) (.refl _)

/-- Finds one value that another leads to, and puts it on top of what waits. -/
def note (start : String) (s : Walk) (w : String) : Walk :=
  if w != start && !s.2.contains w then (w :: s.1, s.2.insert w) else s

/-- Distinct values are noted exactly if they were not found before: none is in the way of another. -/
theorem foldl_note {values : List String} (hvalues : values.Nodup) (waiting : List String)
    (found : KeySet) :
    values.foldl (note start) (waiting, found) =
      ((values.filter fun w => w != start && !found.contains w).reverse ++ waiting,
        found.insertMany (values.filter fun w => w != start && !found.contains w)) := by
  induction values generalizing waiting found with
  | nil => rfl
  | cons v values ih =>
    obtain ⟨hv, hvalues⟩ := List.nodup_cons.mp hvalues
    rw [List.foldl_cons, note, List.filter_cons]
    split
    next =>
      have hothers : (values.filter fun w => w != start && !(found.insert v).contains w) =
          values.filter fun w => w != start && !found.contains w := by
        refine List.filter_congr fun w hw => ?_
        have hne : w ≠ v := fun h => hv (h ▸ hw)
        simp [KeySet.contains, hne]
      rw [ih hvalues, hothers, List.reverse_cons, List.append_assoc]
      rfl
    next => exact ih hvalues waiting found

/-- A round may also take the value on top and note what it leads to one by one. -/
theorem round_of_notes (r : Relation) (start v : String) (waiting : List String) (found : KeySet) :
    r.Round start (v :: waiting, found) ((r.next v).toList.foldl (note start) (waiting, found)) := by
  rw [foldl_note (r.next v).nodup_toList]
  exact .take (.refl _) (mem_filter_new r start v found)
    ((List.reverse_perm _).append_right waiting)

/-- **Every round leaves less**: one value has been taken, and what is put in line was not found. -/
theorem Round.left_lt {s s' : Walk} (h : r.Round start s s') : r.left s' < r.left s := by
  obtain ⟨taken, entered, line⟩ := h
  have hless := unreached_union_add_le entered
  have hwaiting := taken.length_eq
  have hline := line.length_eq
  rw [List.length_cons] at hwaiting
  rw [List.length_append] at hline
  simp only [left]
  omega

/-- No walk goes on for ever. -/
theorem wellFounded_round (r : Relation) (start : String) :
    WellFounded fun s' s => r.Round start s s' :=
  Subrelation.wf Round.left_lt (InvImage.wf r.left Nat.lt_wfRel.wf)

/-! ## 2. The invariant -/

namespace Exploring

variable {waiting waiting' : List String} {found : KeySet}

/-- The order in line does not matter. -/
theorem perm (h : r.Exploring start waiting found) (hperm : waiting.Perm waiting') :
    r.Exploring start waiting' found where
  waits v hv := h.waits v (hperm.mem_iff.mpr hv)
  sound := h.sound
  closed v hv := (h.closed v hv).imp hperm.mem_iff.mp id

theorem round {s s' : Walk} (h : r.Exploring start s.1 s.2) (hround : r.Round start s s') :
    r.Exploring start s'.1 s'.2 := by
  obtain ⟨taken, entered, line⟩ := hround
  exact ((h.perm taken).step entered).perm line.symm

/-- What holds at the start holds after any number of rounds. -/
theorem rounds {s : Walk}
    (hwalk : Relation.ReflTransGen (r.Round start) ([start], ∅) s) :
    r.Exploring start s.1 s.2 := by
  induction hwalk with
  | refl => exact begin r start
  | tail _ hround ih => exact ih.round hround

theorem eq_closure (hdone : r.Exploring start [] found) : found = r.closure start :=
  KeySet.ext fun _ => hdone.mem_iff.trans mem_closure_iff.symm

end Exploring

/-! ## 3. What a walk ends with -/

/-- A walk that cannot go on has nothing waiting and has found the closure. -/
theorem Round.end_eq {s : Walk} (hwalk : Relation.ReflTransGen (r.Round start) ([start], ∅) s)
    (hend : ∀ s', ¬ r.Round start s s') : s = ([], r.closure start) := by
  obtain ⟨waiting, found⟩ := s
  cases waiting with
  | nil => exact congrArg (Prod.mk []) (Exploring.rounds hwalk).eq_closure
  | cons v waiting => exact absurd (round_of_filter r start v waiting found) (hend _)

/-- Every walk can be gone on with to its end. -/
theorem Round.ends (r : Relation) (start : String) (s : Walk) :
    ∃ s', Relation.ReflTransGen (r.Round start) s s' ∧ ∀ s'', ¬ r.Round start s' s'' := by
  induction s using (wellFounded_round r start).induction with
  | _ s ih =>
    by_cases hmore : ∃ s', r.Round start s s'
    · obtain ⟨s', hround⟩ := hmore
      obtain ⟨last, hwalk, hlast⟩ := ih s' hround
      exact ⟨last, .head hround hwalk, hlast⟩
    · exact ⟨s, .refl, fun s' hround => hmore ⟨s', hround⟩⟩

/-- Without the start itself, any number of steps is one step or more. -/
theorem mem_closure_iff_transGen : w ∈ r.closure start ↔
    w ≠ start ∧ Relation.TransGen (fun v w => w ∈ r.next v) start w := by
  rw [mem_closure_iff]
  refine and_congr_right fun hne => ?_
  rw [Reaches, Relation.reflTransGen_iff_eq_or_transGen]
  exact or_iff_right hne

/-- **The closure of a relation is reachability**, whatever the relation is: no walk from a value goes on
    for ever, also none that notes what it finds one by one; one that cannot go on has found the
    closure; and this is what is reached from the value in one step or more, without the value itself.
    So on every tree that is built a value is above another exactly if that one is below it. -/
theorem closure_is_reachability :
    (∀ (r : Relation) (start : String),
      WellFounded (fun s' s => r.Round start s s') ∧
      (∀ v waiting found, r.Round start (v :: waiting, found)
        ((r.next v).toList.foldl (note start) (waiting, found))) ∧
      Relation.ReflTransGen (r.Round start) ([start], ∅) ([], r.closure start) ∧
      (∀ s, Relation.ReflTransGen (r.Round start) ([start], ∅) s → (∀ s', ¬ r.Round start s s') →
        s = ([], r.closure start)) ∧
      ∀ w, w ∈ r.closure start ↔
        w ≠ start ∧ Relation.TransGen (fun v w => w ∈ r.next v) start w) ∧
    ∀ (scene : Scene) (e : Expression) (grouping : Option Expression) (t : Hierarchy),
      Hierarchy.build scene e grouping = .ok t →
      ∀ a v, a ∈ t.ancestors v ↔ v ∈ t.descendants a := by
  refine ⟨fun r start => ⟨wellFounded_round r start, round_of_notes r start, ?_,
    fun s hwalk hend => Round.end_eq hwalk hend, fun w => mem_closure_iff_transGen⟩, ?_⟩
  · obtain ⟨last, hwalk, hlast⟩ := Round.ends r start ([start], ∅)
    rwa [Round.end_eq hwalk hlast] at hwalk
  · intro scene e grouping t hbuild a v
    exact (Hierarchy.build_tells hbuild).1.paired.mem_ancestors_iff

/-- Two values that lead to each other, one of them also to itself and to a third. -/
def roundabout : Relation := (((Relation.add ∅ "a" "b").add "b" "a").add "b" "b").add "b" "c"

/-- From `a` there are ways back to `a`, but the closure of `a` is `b` and `c`. The cat that is a kind of
    cat is not among its own ancestors, and the dog is below the animals as they are above it. -/
theorem closure_of_roundabout :
    ("a" ∉ roundabout.closure "a" ∧
      Relation.TransGen (fun v w => w ∈ roundabout.next v) "a" "a") ∧
    ("b" ∈ roundabout.closure "a" ∧ "c" ∈ roundabout.closure "a") ∧
    ∃ t, Hierarchy.build HierarchicalFacet.strays HierarchicalFacet.kindsGiven
        (some HierarchicalFacet.parentsGiven) = .ok t ∧
      "cat" ∈ t.parents.next "cat" ∧ "cat" ∉ t.ancestors "cat" ∧
      "animal" ∈ t.ancestors "dog" ∧ "dog" ∈ t.descendants "animal" := by
  have hthere : "b" ∈ roundabout.next "a" := by decide
  have hback : "a" ∈ roundabout.next "b" := by decide
  have hon : "c" ∈ roundabout.next "b" := by decide
  obtain ⟨hclosure, htrees⟩ := closure_is_reachability
  obtain ⟨-, -, -, -, hreached⟩ := hclosure roundabout "a"
  refine ⟨⟨fun h => ((hreached "a").mp h).1 rfl, .tail (.single hthere) hback⟩,
    ⟨(hreached "b").mpr ⟨by decide, .single hthere⟩,
      (hreached "c").mpr ⟨by decide, .tail (.single hthere) hon⟩⟩, ?_⟩
  obtain ⟨t, ht⟩ : ∃ t, (HierarchicalFacet.kinds.getTree HierarchicalFacet.strays).1 = .ok (some t) :=
    ⟨_, rfl⟩
  obtain ⟨e, he, hbuild⟩ :=
    HierarchicalFacet.build_of_getTree (Facet.keepsTrue_of_memo_eq_none rfl) ht
  obtain rfl := Option.some.inj he
  have hcat : "cat" ∈ t.parents.next "cat" := by
    obtain rfl := Option.some.inj (Except.ok.inj ht)
    decide +kernel
  have hdog : "animal" ∈ t.parents.next "dog" := by
    obtain rfl := Option.some.inj (Except.ok.inj ht)
    decide +kernel
  have habove : "animal" ∈ t.ancestors "dog" :=
    ((closure_is_reachability.1 t.parents "dog").2.2.2.2 "animal").mpr ⟨by decide, .single hdog⟩
  exact ⟨t, hbuild, hcat,
    fun h => (((closure_is_reachability.1 t.parents "cat").2.2.2.2 "cat").mp h).1 rfl,
    habove, (htrees HierarchicalFacet.strays _ _ t hbuild "animal" "dog").mp habove⟩

end Relation

end Faceted
