import Mathlib.Data.List.Induction
import Crossing.Proofs.Cycle
import Crossing.Proofs.Run

/-!
# Stuck lines and the area that is remembered

A stuck line is for one area, the first conflicting one.  Once such an area has been found for the
lanelets of an intersection it is remembered, whatever the path and the map are later, and a stuck
line exists exactly when the path enters the remembered area.  Only as long as nothing is
remembered does it matter whether the path enters any of the conflicting areas of the cycle
itself.  `stuckLine_of_run` says both, and where a remembered area comes from: some earlier cycle
of the run in which nothing was known yet, whose path entered it (`Finds`).

The price of lines that do not jump around is that the path may enter a conflicting area of its
own cycle and still have no stuck line, because what is remembered lies elsewhere
(`not_forall_stuckLine`).
-/

namespace Crossing.Planner

variable {K : Type} [Scalar K]

/-! ## Where a remembered area comes from -/

/-- **A cycle in which an area is found**: no conflicting area is known before it, the area is one
of the conflicting ones around the vehicle, and the path enters it. -/
structure Finds (p : Planner K) (s : Snapshot K) (r : Region K) : Prop where
  unknown : p.knownConflicting = none
  found : ∃ scene, p.look s = .ok (some scene) ∧
    r ∈ scene.surroundings.conflicting.areas ∧
    scene.sampled.path.Enters scene.sampled.interval r.contains

variable {p q : Planner K} {e : Event K} {r : Region K}

omit [Scalar K] in
lemma Continues.knownConflicting (h : q.Continues p) (hr : p.knownConflicting = some r) :
    q.knownConflicting = some r := by
  obtain ⟨known, hknown, hr⟩ := Option.bind_eq_some_iff.mp hr
  obtain ⟨areas, hareas, hextends⟩ := h.knownAreas hknown
  exact Option.bind_eq_some_iff.mpr ⟨areas, hareas, hextends.conflicting r hr⟩

/-- Nothing but a cycle that finds an area makes one known. -/
lemma finds_of_after (hunknown : p.knownConflicting = none)
    (h : (p.after e).knownConflicting = some r) : ∃ s, e = .cycle s ∧ p.Finds s r := by
  cases e with
  | reassign lane =>
      have hsame : (p.after (.reassign lane)).knownConflicting = p.knownConflicting := by
        rcases p.reassign_cases lane with ⟨-, hreassign⟩ | ⟨-, hreassign⟩
        · rw [after, hreassign]
          rfl
        · rw [after, hreassign]
      rw [hsame, hunknown] at h
      cases h
  | cycle s =>
      refine ⟨s, rfl, hunknown, ?_⟩
      rcases p.plan_cases s with hsame | ⟨scene, hlook, hplan⟩
      · rw [after, hsame, hunknown] at h
        cases h
      · refine ⟨scene, hlook, ?_⟩
        rw [after, hplan, ← known_conflicting] at h
        -- the entry of the planner's lanelets is the one that the cycle has written
        cases hresult : (p.firstAreas.apply scene.surroundings scene.sampled).1 with
        | error f =>
            simp only [FirstAreaCache.apply_error hresult, associated_of_look hlook,
              FirstAreaCache.known_eq (FirstAreaCache.get?_set_self _ _ _), known_conflicting,
              hunknown] at h
            cases h
        | ok around =>
            simp only [(FirstAreaCache.apply_eq_ok hresult).2, associated_of_look hlook,
              FirstAreaCache.known_eq (FirstAreaCache.get?_set_self _ _ _)] at h
            have hfirst := firstConflicting_of_apply hlook hresult
            rw [hunknown, h] at hfirst
            exact Surroundings.firstAlong_eq_some hfirst

/-- **A remembered area was found in some cycle of the run.** -/
lemma exists_finds_of_run (hunknown : p.knownConflicting = none) {events : List (Event K)}
    (h : (p.run events).knownConflicting = some r) : ∃ before s later,
      events = before ++ .cycle s :: later ∧ (p.run before).Finds s r := by
  induction events using List.reverseRecOn with
  | nil =>
      rw [run_nil, hunknown] at h
      cases h
  | append_singleton events e ih =>
      rw [run_append, run_cons, run_nil] at h
      cases hbefore : (p.run events).knownConflicting with
      | some r' =>
          have hlater := ((p.run events).continues_after e).knownConflicting hbefore
          cases h.symm.trans hlater
          obtain ⟨before, s, later, rfl, hfinds⟩ := ih hbefore
          exact ⟨before, s, later ++ [e], by simp, hfinds⟩
      | none =>
          obtain ⟨s, rfl, hfinds⟩ := finds_of_after hbefore h
          exact ⟨events, s, [], rfl, hfinds⟩

/-! ## When there is a stuck line -/

/-- The stuck line of a cycle is for the area that the cycle plans for. -/
lemma stuckLine_of_plan {s : Snapshot K} {cycle : Cycle K}
    (h : (p.plan s).1 = .ok (some cycle)) : ∃ scene,
      p.look s = .ok (some scene) ∧ cycle.path = scene.sampled.path ∧
      match p.knownConflicting with
      | some r => cycle.stopLines.stuck.isSome = true ↔
          scene.sampled.path.Enters scene.sampled.interval r.contains
      | none => cycle.stopLines.stuck.isSome = true ↔
          ∃ r ∈ scene.surroundings.conflicting.areas,
            scene.sampled.path.Enters scene.sampled.interval r.contains := by
  obtain ⟨scene, around, hlook, haround, hwork⟩ := plan_eq_ok h
  obtain ⟨hpath, mapLine, closest, -, -, hlines⟩ := work_eq_ok hwork
  obtain ⟨P⟩ := StopLines.placement_of_plan hlines
  refine ⟨scene, hlook, hpath, ?_⟩
  have hstuck := P.stuck_isSome_iff
  have hfirst := firstConflicting_of_apply hlook haround
  cases hknown : p.knownConflicting with
  | some r =>
      rw [hknown] at hfirst
      simpa [hfirst] using hstuck
  | none =>
      rw [hknown] at hfirst
      simp only at hfirst ⊢
      cases hfound : around.firstConflicting with
      | some r =>
          rw [hfound] at hfirst hstuck
          obtain ⟨hmem, henters⟩ := Surroundings.firstAlong_eq_some hfirst
          rw [hstuck]
          exact ⟨fun _ => ⟨r, hmem, henters⟩, fun _ => ⟨r.contains, rfl, henters⟩⟩
      | none =>
          rw [hfound] at hfirst hstuck
          rw [hstuck]
          constructor
          · rintro ⟨inside, hinside, -⟩
            cases hinside
          · rintro ⟨r, hmem, henters⟩
            exact absurd henters (Surroundings.firstAlong_eq_none hfirst r hmem)

/-- **When a cycle has a stuck line.**  After any events, a cycle that gives a result has a stuck
line exactly when its path enters the conflicting area that is remembered, and that one was found
in an earlier cycle of the run.  When none is remembered, it has one exactly when its path enters
some conflicting area. -/
theorem stuckLine_of_run {lane : LaneletId} {associated : IdSet} {config : Config K}
    {p : Planner K} (h : ofConfig lane associated config = .ok p) (events : List (Event K))
    {s : Snapshot K} {cycle : Cycle K} (hcycle : ((p.run events).plan s).1 = .ok (some cycle)) :
    ∃ scene, (p.run events).look s = .ok (some scene) ∧ cycle.path = scene.sampled.path ∧
      match (p.run events).knownConflicting with
      | some r => (cycle.stopLines.stuck.isSome = true ↔
            scene.sampled.path.Enters scene.sampled.interval r.contains) ∧
          ∃ before earlier later, events = before ++ .cycle earlier :: later ∧
            (p.run before).Finds earlier r
      | none => cycle.stopLines.stuck.isSome = true ↔
          ∃ r ∈ scene.surroundings.conflicting.areas,
            scene.sampled.path.Enters scene.sampled.interval r.contains := by
  obtain ⟨-, rfl⟩ := ofConfig_eq_ok h
  obtain ⟨scene, hlook, hpath, hstuck⟩ := stuckLine_of_plan hcycle
  refine ⟨scene, hlook, hpath, ?_⟩
  cases hknown : (run ⟨lane, associated.insert lane, config, .empty⟩ events).knownConflicting with
  | some r =>
      rw [hknown] at hstuck
      exact ⟨hstuck, exists_finds_of_run rfl hknown⟩
  | none =>
      rw [hknown] at hstuck
      exact hstuck

/-! ## A path that enters an area and has no stuck line

The run through the two crossings: what crosses the first lanelet is remembered, so a path along
the second one has no stuck line, although it enters what crosses that one.
-/

/-- What crosses the second of the two lanelets. -/
def secondCrossed : Region Rat :=
  ⟨[⟨1.5, 1.75⟩, ⟨1.5, 5⟩, ⟨2.5, 5⟩, ⟨2.5, 1.75⟩, ⟨1.5, 1.75⟩]⟩

/-- The planner on the second lanelet, after a cycle on the first. -/
def changedPlanner : Planner Rat := crossingPlanner.run [.cycle (eastward 2 0), .reassign ⟨5⟩]

lemma plan_changedPlanner : ∃ cycle,
    (changedPlanner.plan (eastward 5 3)).1 = .ok (some cycle) ∧ cycle.stopLines.stuck = none :=
  Outcome.exists_of_toOption (f := fun cycle : Cycle Rat => cycle.stopLines.stuck)
    (by decide +kernel)

lemma look_changedPlanner : ∃ scene, changedPlanner.look (eastward 5 3) = .ok (some scene) ∧
    scene.surroundings.conflicting.areas = [secondCrossed] ∧
    scene.sampled.path.Enters scene.sampled.interval secondCrossed.contains := by
  obtain ⟨scene, hlook, hscene⟩ := Outcome.exists_of_toOption
    (x := changedPlanner.look (eastward 5 3))
    (f := fun scene => (scene.surroundings.conflicting.areas, scene.sampled.interval,
      scene.sampled.path.points[2]?))
    (b := ([secondCrossed], (0, 4), some ⟨⟨⟨2, 3⟩, ⟨0⟩⟩, ⟨1⟩, [⟨5⟩]⟩)) (by decide +kernel)
  obtain ⟨hareas, hinterval, hpoint⟩ := by simpa only [Prod.mk.injEq] using hscene
  refine ⟨scene, hlook, hareas, 2, _, hpoint, ?_⟩
  rw [hinterval]
  exact ⟨by decide, by decide, by decide +kernel⟩

/-- The path along the second lanelet does not enter the remembered area, which was found on the
first one. -/
theorem stuckLine_of_run_crossing : ∃ scene cycle,
    changedPlanner.look (eastward 5 3) = .ok (some scene) ∧
      (changedPlanner.plan (eastward 5 3)).1 = .ok (some cycle) ∧
      cycle.stopLines.stuck = none ∧
      ¬ scene.sampled.path.Enters scene.sampled.interval firstCrossed.contains ∧
      ∃ before earlier later, [.cycle (eastward 2 0), .reassign ⟨5⟩] =
          before ++ .cycle earlier :: later ∧
        (crossingPlanner.run before).Finds earlier firstCrossed := by
  obtain ⟨cycle, hcycle, hnone⟩ := plan_changedPlanner
  obtain ⟨scene, hlook, -, hstuck⟩ := stuckLine_of_run ofConfig_crossing
    [.cycle (eastward 2 0), .reassign ⟨5⟩] hcycle
  have hknown : changedPlanner.knownConflicting = some firstCrossed := by decide +kernel
  rw [changedPlanner] at hknown
  rw [hknown] at hstuck
  refine ⟨scene, cycle, hlook, hcycle, hnone, fun henters => ?_, hstuck.2⟩
  have hsome := hstuck.1.mpr henters
  rw [hnone] at hsome
  cases hsome

/-- **A path that enters a conflicting area need not have a stuck line**, not even when every map
of the run was accepted. -/
theorem not_forall_stuckLine :
    ¬ ∀ (lane : LaneletId) (associated : IdSet) (config : Config Rat) (p : Planner Rat)
      (events : List (Event Rat)) (s : Snapshot Rat) (scene : Scene Rat) (cycle : Cycle Rat),
      ofConfig lane associated config = .ok p →
      (∀ s', s' = s ∨ .cycle s' ∈ events →
        ∃ lanelets areas, RoadMap.ofLanelets lanelets areas = .ok s'.map) →
      (p.run events).look s = .ok (some scene) →
      ((p.run events).plan s).1 = .ok (some cycle) →
      (∃ r ∈ scene.surroundings.conflicting.areas,
        scene.sampled.path.Enters scene.sampled.interval r.contains) →
      cycle.stopLines.stuck.isSome = true := by
  intro h
  obtain ⟨cycle, hcycle, hnone⟩ := plan_changedPlanner
  obtain ⟨scene, hlook, hareas, henters⟩ := look_changedPlanner
  have hsome := h ⟨2⟩ (IdSet.ofList [⟨5⟩]) crossingConfig crossingPlanner
    [.cycle (eastward 2 0), .reassign ⟨5⟩] (eastward 5 3) scene cycle ofConfig_crossing ?_ hlook
    hcycle ⟨secondCrossed, by rw [hareas]; exact List.mem_singleton_self _, henters⟩
  · rw [hnone] at hsome
    cases hsome
  · intro s' hs'
    have hmap : s'.map = crossings := by
      rcases hs' with rfl | hs'
      · rfl
      · simp only [List.mem_cons, Event.cycle.injEq, reduceCtorEq, List.not_mem_nil,
          or_false] at hs'
        rw [hs']
        rfl
    rw [hmap]
    exact RoadMap.exists_ofLanelets ofStraight_crossingLanes

end Crossing.Planner
