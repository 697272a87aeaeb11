import Crossing.Proofs.FirstAreas
import Crossing.Proofs.RoadMap
import Crossing.Planner

/-!
# A planner over time

Between two moments, a planner has gone through some cycles, whatever came of each, and has been
assigned to some lanelets, or refused to be (`Event`, `Planner.run`).  Maps, paths and everything
else may be different in each cycle.

What does not depend on any of that is collected in `Planner.Continues`: the lanelets that count
as the assigned one and the settings are the same, the assigned lanelet is still among those, and
the cache of first areas has only grown.  One event continues a planner (`continues_after`), so a
run does (`continues_run`).  `run_continues` says what that means for a planner that begins with
`Planner.ofConfig`.
-/

namespace Crossing

variable {K : Type}

/-- What can happen to a planner. -/
inductive Event (K : Type) where
  | cycle (s : Snapshot K)
  | reassign (lane : LaneletId)

namespace Planner

variable [Scalar K]

/-! ## Events -/

/-- The planner after an event, whatever came of it. -/
def after (p : Planner K) : Event K → Planner K
  | .cycle s => (p.plan s).2
  | .reassign lane => (p.reassign lane).2

/-- **The planner after some events.** -/
def run (p : Planner K) (events : List (Event K)) : Planner K := events.foldl after p

@[simp] lemma run_nil (p : Planner K) : p.run [] = p := rfl

@[simp] lemma run_cons (p : Planner K) (e : Event K) (events : List (Event K)) :
    p.run (e :: events) = (p.after e).run events := rfl

lemma run_append (p : Planner K) (before later : List (Event K)) :
    p.run (before ++ later) = (p.run before).run later := List.foldl_append

/-! ## Where a planner begins -/

/-- A planner begins with settings that are valid, with its own lanelet among those that count as
it, and with nothing found. -/
lemma ofConfig_eq_ok {lane : LaneletId} {associated : IdSet} {config : Config K} {p : Planner K}
    (h : ofConfig lane associated config = .ok p) :
    config.validate = .ok () ∧ p = ⟨lane, associated.insert lane, config, .empty⟩ := by
  obtain ⟨⟨⟩, hvalid, h⟩ := Outcome.bind_eq_ok.mp h
  refine ⟨?_, (Except.ok.inj h).symm⟩
  cases hconfig : config.validate with
  | ok u => rfl
  | error f => cases f <;> simp [hconfig, Outcome.within] at hvalid

/-! ## What an event does -/

omit [Scalar K] in
/-- **A planner is assigned to a lanelet that counts as its own**; any other is refused and changes
nothing. -/
lemma reassign_cases (p : Planner K) (lane : LaneletId) :
    (lane ∈ p.associated ∧ p.reassign lane = (.ok (), { p with lane })) ∨
      (lane ∉ p.associated ∧
        p.reassign lane = (Outcome.refuse (.notAssociated p.lane lane p.associated), p)) := by
  unfold reassign
  split
  · next hmem => exact Or.inl ⟨hmem, rfl⟩
  · next hno => exact Or.inr ⟨hno, rfl⟩

omit [Scalar K] in
lemma reassign_ok_iff {p : Planner K} {lane : LaneletId} :
    (p.reassign lane).1 = .ok () ↔ lane ∈ p.associated := by
  rcases p.reassign_cases lane with ⟨hmem, h⟩ | ⟨hno, h⟩
  · simp [h, hmem]
  · simp [h, hno, Outcome.refuse]

omit [Scalar K] in
lemma reassign_of_error {p : Planner K} {lane : LaneletId} {f : Fault K}
    (h : (p.reassign lane).1 = .error f) : (p.reassign lane).2 = p := by
  rcases p.reassign_cases lane with ⟨-, hok⟩ | ⟨-, hrefused⟩
  · rw [hok] at h
    cases h
  · rw [hrefused]

/-- **A cycle changes nothing but the cache**, and the cache only if the surroundings were found
before anything failed. -/
lemma plan_cases (p : Planner K) (s : Snapshot K) :
    (p.plan s).2 = p ∨ ∃ scene, p.look s = .ok (some scene) ∧ (p.plan s).2 =
      { p with firstAreas := (p.firstAreas.apply scene.surroundings scene.sampled).2 } := by
  unfold plan
  cases hlook : p.look s with
  | error f => exact Or.inl rfl
  | ok found =>
      cases found with
      | none => exact Or.inl rfl
      | some scene => exact Or.inr ⟨scene, rfl, rfl⟩

/-! ## What does not change -/

/-- **One planner at a later time**: the same planner, as far as events cannot change it. -/
structure Continues (q p : Planner K) : Prop where
  associated : q.associated = p.associated
  config : q.config = p.config
  lane_mem : p.lane ∈ p.associated → q.lane ∈ q.associated
  firstAreas : q.firstAreas.Extends p.firstAreas

omit [Scalar K] in
lemma Continues.refl (p : Planner K) : p.Continues p := ⟨rfl, rfl, id, .refl _⟩

omit [Scalar K] in
lemma Continues.trans {p q r : Planner K} (hqr : r.Continues q) (hpq : q.Continues p) :
    r.Continues p where
  associated := hqr.associated.trans hpq.associated
  config := hqr.config.trans hpq.config
  lane_mem h := hqr.lane_mem (hpq.lane_mem h)
  firstAreas := hqr.firstAreas.trans hpq.firstAreas

/-- An event continues a planner, whatever comes of it. -/
lemma continues_after (p : Planner K) (e : Event K) : (p.after e).Continues p := by
  cases e with
  | cycle s =>
      rcases p.plan_cases s with h | ⟨scene, -, h⟩
      · rw [after, h]
        exact .refl p
      · rw [after, h]
        exact ⟨rfl, rfl, id, FirstAreaCache.extends_apply _ _ _⟩
  | reassign lane =>
      rcases p.reassign_cases lane with ⟨hmem, h⟩ | ⟨-, h⟩
      · rw [after, h]
        exact ⟨rfl, rfl, fun _ => hmem, .refl _⟩
      · rw [after, h]
        exact .refl p

lemma continues_run (p : Planner K) (events : List (Event K)) : (p.run events).Continues p := by
  induction events generalizing p with
  | nil => exact .refl p
  | cons e events ih => exact (ih (p.after e)).trans (p.continues_after e)

omit [Scalar K] in
lemma Continues.knownAreas {p q : Planner K} (h : q.Continues p) {known : FirstAreas K}
    (hknown : p.knownAreas = some known) :
    ∃ areas, q.knownAreas = some areas ∧ areas.Extends known := by
  unfold Planner.knownAreas at hknown ⊢
  rw [h.associated]
  exact h.firstAreas _ known hknown

/-- **What a run keeps.**  After any events `before`, the lanelets that count as the assigned one
are those that the planner was made for, its settings are those that it was made with, and the
assigned lanelet is one of them.  It can be assigned to exactly those lanelets, and stays as it is
when it is refused another.  After any further events `later`, each first area that was known is
the same. -/
theorem run_continues {lane : LaneletId} {associated : IdSet} {config : Config K}
    {p : Planner K} (h : ofConfig lane associated config = .ok p) (before later : List (Event K)) :
    (p.run before).associated = associated.insert lane ∧
      (p.run before).config = config ∧
      (p.run before).lane ∈ (p.run before).associated ∧
      (∀ other, ((p.run before).reassign other).1 = .ok () ↔ other ∈ associated.insert lane) ∧
      (∀ other f, ((p.run before).reassign other).1 = .error f →
        ((p.run before).reassign other).2 = p.run before) ∧
      ∀ known, (p.run before).knownAreas = some known →
        ∃ areas, (p.run (before ++ later)).knownAreas = some areas ∧
          (∀ r, known.conflicting = some r → areas.conflicting = some r) ∧
          (∀ r, known.attention = some r → areas.attention = some r) := by
  obtain ⟨-, rfl⟩ := ofConfig_eq_ok h
  have hbefore := continues_run ⟨lane, associated.insert lane, config, .empty⟩ before
  refine ⟨hbefore.associated, hbefore.config, ?_, ?_, fun _ _ => reassign_of_error, ?_⟩
  · exact hbefore.lane_mem (IdSet.mem_insert.mpr (Or.inl rfl))
  · intro other
    rw [reassign_ok_iff, hbefore.associated]
  · intro known hknown
    rw [run_append]
    obtain ⟨areas, hareas, hextends⟩ := (continues_run _ later).knownAreas hknown
    exact ⟨areas, hareas, hextends.conflicting, hextends.attention⟩

/-! ## A run through two crossings

Two lanelets that run east side by side, a metre apart, and count as one another; each is crossed
by a lanelet of its own.  A vehicle plans on the first of the two and then on the second.
-/

/-- The lanelets: two eastward ones, and what crosses the first and what crosses the second. -/
def crossingLanes : List (Int × (Point Rat × Point Rat) × (Point Rat × Point Rat)) :=
  [(2, (⟨0, 1⟩, ⟨4, 1⟩), (⟨0, -1⟩, ⟨4, -1⟩)),
    (5, (⟨0, 4⟩, ⟨4, 4⟩), (⟨0, 2⟩, ⟨4, 2⟩)),
    (11, (⟨1.5, -2⟩, ⟨1.5, 1.25⟩), (⟨2.5, -2⟩, ⟨2.5, 1.25⟩)),
    (21, (⟨1.5, 1.75⟩, ⟨1.5, 5⟩), (⟨2.5, 1.75⟩, ⟨2.5, 5⟩))]

def crossings : RoadMap Rat := (RoadMap.ofStraight crossingLanes).toOption.getD ⟨[], [], default⟩

lemma ofStraight_crossingLanes : RoadMap.ofStraight crossingLanes = .ok crossings :=
  Outcome.eq_ok_getD (by decide +kernel) _

/-- What the vehicle looks at on one of the lanelets, without anything else around it. -/
def eastward (lane : Int) (y : Rat) : Snapshot Rat where
  map := crossings
  path := ⟨[⟨⟨⟨0, y⟩, ⟨0⟩⟩, ⟨1⟩, [⟨lane⟩]⟩, ⟨⟨⟨4, y⟩, ⟨0⟩⟩, ⟨1⟩, [⟨lane⟩]⟩]⟩
  ego := ⟨⟨⟨0, y⟩, ⟨0⟩⟩, ⟨1⟩⟩
  perception := ⟨⟨0⟩, []⟩
  signals := []
  now := ⟨0⟩

/-- Settings for crossings of this size. -/
def crossingConfig : Config Rat :=
  { Config.default with
    common := { Config.defaultCommon with
      pathSpacing := ⟨1⟩
      stopMargin := ⟨1⟩
      attentionLength := ⟨1⟩ }
    occlusion := { Config.defaultOcclusion with
      enabled := false
      attentionLength := ⟨1⟩ }
    vehicle := ⟨⟨1⟩, ⟨1⟩⟩ }

/-- The planner for the crossings, assigned to the first one. -/
def crossingPlanner : Planner Rat :=
  ⟨⟨2⟩, IdSet.ofList [⟨2⟩, ⟨5⟩], crossingConfig, .empty⟩

lemma ofConfig_crossing :
    ofConfig ⟨2⟩ (IdSet.ofList [⟨5⟩]) crossingConfig = .ok crossingPlanner := by decide +kernel

/-- What crosses the first of the two lanelets. -/
def firstCrossed : Region Rat :=
  ⟨[⟨1.5, -2⟩, ⟨1.5, 1.25⟩, ⟨2.5, 1.25⟩, ⟨2.5, -2⟩, ⟨1.5, -2⟩]⟩

lemma knownAreas_first : (crossingPlanner.run [.cycle (eastward 2 0)]).knownAreas =
    some ⟨some firstCrossed, some firstCrossed⟩ := by decide +kernel

/-- The area found on the first lanelet stays the first area on the second one, which it does not
cross. -/
theorem run_continues_crossing :
    (crossingPlanner.run [.cycle (eastward 2 0)]).knownAreas =
        some ⟨some firstCrossed, some firstCrossed⟩ ∧
      ∃ areas, (crossingPlanner.run
          [.cycle (eastward 2 0), .reassign ⟨5⟩, .cycle (eastward 5 3)]).knownAreas = some areas ∧
        areas.conflicting = some firstCrossed ∧ areas.attention = some firstCrossed := by
  obtain ⟨-, -, -, -, -, hkeep⟩ := run_continues ofConfig_crossing [.cycle (eastward 2 0)]
    [.reassign ⟨5⟩, .cycle (eastward 5 3)]
  obtain ⟨areas, hareas, hconflicting, hattention⟩ := hkeep _ knownAreas_first
  exact ⟨knownAreas_first, areas, hareas, hconflicting _ rfl, hattention _ rfl⟩

end Planner

end Crossing
