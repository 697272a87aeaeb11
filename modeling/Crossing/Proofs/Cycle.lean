import Crossing.Proofs.FirstAreas
import Crossing.Proofs.StopLines
import Crossing.Proofs.Surroundings
import Crossing.Planner

/-!
# What a cycle consists of

`Planner.plan` looks around, completes the first areas and then works out everything else.  The
lemmas here take a cycle that succeeded apart along these lines: `plan_eq_ok` has the three parts,
`look_eq_some` says what a scene is made of, and `work_eq_ok` where the path and the stop lines of
a cycle come from.

What a cycle is given as its first areas is either what the cache had or what is found now;
`firstConflicting_of_apply` says so for the conflicting one.
-/

namespace Crossing

variable {K : Type} [Scalar K]

/-- **A sampled path** is the planned one with samples at the spacing, and its interval is where
that runs through the lanelets. -/
lemma SampledPath.ofPath_eq_some {lane : LaneletId} {associated : IdSet} {path : Path K}
    {spacing : Distance K} {s : SampledPath K}
    (h : ofPath lane associated path spacing = .ok (some s)) :
    ¬ spacing ≤ Distance.zero ∧ resample path spacing = .ok s.path ∧
      s.path.laneInterval associated = some s.interval ∧
      s.spacing = spacing ∧ s.lane = lane ∧ s.associated = associated := by
  unfold ofPath at h
  split at h
  · cases h
  · next hspacing =>
    obtain ⟨sampled, hsampled, h⟩ := Outcome.bind_eq_ok.mp h
    simp only [Outcome.pure_eq_ok, Except.ok.injEq, Option.map_eq_some_iff] at h
    obtain ⟨interval, hinterval, rfl⟩ := h
    exact ⟨hspacing, hsampled, hinterval, rfl, rfl, rfl⟩

namespace Planner

variable {p : Planner K} {s : Snapshot K} {scene : Scene K} {around : Surroundings K}
  {cycle : Cycle K}

/-- **What a scene is made of.** -/
lemma look_eq_some (h : p.look s = .ok (some scene)) :
    s.map.lanelet? p.lane = some scene.assigned ∧
      SampledPath.ofPath p.lane p.associated s.path p.config.common.pathSpacing =
        .ok (some scene.sampled) ∧
      scene.onPath = s.path.laneSequence ∧
      Surroundings.classify s.map p.lane scene.onPath p.associated
        p.config.common.attentionLength p.config.occlusion.attentionLength
        p.config.common.wrongDirection = .ok scene.surroundings := by
  unfold look at h
  cases hassigned : s.map.lanelet? p.lane with
  | none =>
      simp only [hassigned] at h
      cases h
  | some assigned =>
      simp only [hassigned] at h
      obtain ⟨found, hfound, h⟩ := Outcome.bind_eq_ok.mp h
      cases found with
      | none => cases h
      | some sampled =>
          obtain ⟨surroundings, hsurroundings, h⟩ := Outcome.bind_eq_ok.mp h
          cases h
          exact ⟨rfl, hfound, rfl, hsurroundings⟩

/-- **The parts of a cycle.** -/
lemma plan_eq_ok (h : (p.plan s).1 = .ok (some cycle)) : ∃ scene around,
    p.look s = .ok (some scene) ∧
      (p.firstAreas.apply scene.surroundings scene.sampled).1 = .ok around ∧
      p.work s scene around = .ok cycle := by
  unfold plan at h
  cases hlook : p.look s with
  | error f =>
      simp only [hlook] at h
      cases h
  | ok found =>
      cases found with
      | none =>
          simp only [hlook] at h
          cases h
      | some scene =>
          simp only [hlook] at h
          obtain ⟨around, haround, h⟩ := Outcome.bind_eq_ok.mp h
          obtain ⟨cycle', hwork, h⟩ := Outcome.bind_eq_ok.mp h
          cases h
          exact ⟨scene, around, rfl, haround, hwork⟩

/-- **Where the path and the stop lines of a cycle come from.** -/
lemma work_eq_ok (h : p.work s scene around = .ok cycle) :
    cycle.path = scene.sampled.path ∧ ∃ mapLine closest,
      scene.sampled.path.nearest s.ego.pose.position = .ok (some closest) ∧
      scene.assigned.stopLine.mapM (StopLines.ofMap scene.sampled) = .ok mapLine ∧
      StopLines.plan scene.sampled (around.firstConflicting.map Region.contains)
        (around.firstAttention.map Region.contains) mapLine.join closest p.config =
          .ok cycle.stopLines := by
  unfold work at h
  obtain ⟨nearest, hnearest, h⟩ := Outcome.bind_eq_ok.mp h
  cases nearest with
  | none => cases h
  | some closest =>
      obtain ⟨_, ⟨⟩, h⟩ := Outcome.bind_eq_ok.mp h
      obtain ⟨mapLine, hmapLine, h⟩ := Outcome.bind_eq_ok.mp h
      obtain ⟨lines, hlines, h⟩ := Outcome.bind_eq_ok.mp h
      obtain ⟨lane, -, h⟩ := Outcome.bind_eq_ok.mp h
      obtain ⟨⟨stuck, sketch⟩, -, h⟩ := Outcome.bind_eq_ok.mp h
      obtain ⟨perception, -, h⟩ := Outcome.bind_eq_ok.mp h
      obtain ⟨lanelets, -, h⟩ := Outcome.bind_eq_ok.mp h
      obtain ⟨⟨targets, sketch⟩, -, h⟩ := Outcome.bind_eq_ok.mp h
      suffices hlast : cycle.path = scene.sampled.path ∧ cycle.stopLines = lines by
        exact ⟨hlast.1, mapLine, closest, hnearest, hmapLine, hlast.2 ▸ hlines⟩
      -- whether hidden places are looked for or not, the rest is the same
      dsimp only at h
      split at h
      all_goals
        obtain ⟨⟨occlusion, sketch⟩, -, h⟩ := Outcome.bind_eq_ok.mp h
        obtain ⟨times, -, h⟩ := Outcome.bind_eq_ok.mp h
        obtain ⟨sketch, -, h⟩ := Outcome.bind_eq_ok.mp h
        obtain ⟨distance, -, h⟩ := Outcome.bind_eq_ok.mp h
        obtain ⟨overPassJudge, -, h⟩ := Outcome.bind_eq_ok.mp h
        cases h
        exact ⟨rfl, rfl⟩

/-- Where its stop lines cannot be planned, a cycle ends. -/
lemma plan_of_lines_error {mapLine : Option (Option Nat)} {closest : Nat} {e : Fault K}
    (hlook : p.look s = .ok (some scene))
    (haround : (p.firstAreas.apply scene.surroundings scene.sampled).1 = .ok around)
    (hnearest : scene.sampled.path.nearest s.ego.pose.position = .ok (some closest))
    (hmapLine : scene.assigned.stopLine.mapM (StopLines.ofMap scene.sampled) = .ok mapLine)
    (hlines : StopLines.plan scene.sampled (around.firstConflicting.map Region.contains)
      (around.firstAttention.map Region.contains) mapLine.join closest p.config = .error e) :
    (p.plan s).1 = .error e := by
  have hwork : p.work s scene around = .error e := by
    unfold work
    simp only [hnearest, Outcome.pure_eq_ok, bind, Except.bind] at hmapLine ⊢
    rw [hmapLine]
    simp only [hlines]
  unfold plan
  rw [hlook]
  exact Outcome.bind_eq_error.mpr (Or.inr ⟨around, haround,
    Outcome.bind_eq_error.mpr (Or.inl hwork)⟩)

/-! ## The first areas of a cycle -/

/-- The first conflicting area that a planner knows. -/
def knownConflicting (p : Planner K) : Option (Region K) := p.knownAreas.bind FirstAreas.conflicting

omit [Scalar K] in
lemma known_conflicting (p : Planner K) :
    (p.firstAreas.known p.associated).conflicting = p.knownConflicting := by
  rw [knownConflicting, knownAreas, FirstAreaCache.known]
  cases p.firstAreas.get? p.associated <;> rfl

lemma associated_of_look (h : p.look s = .ok (some scene)) :
    scene.sampled.associated = p.associated := by
  obtain ⟨-, hsampled, -, -⟩ := look_eq_some h
  exact (SampledPath.ofPath_eq_some hsampled).2.2.2.2.2

/-- **The conflicting area that a cycle plans for** is the one that the planner knows, and
otherwise the one that is found along the path. -/
lemma firstConflicting_of_apply (hlook : p.look s = .ok (some scene))
    (haround : (p.firstAreas.apply scene.surroundings scene.sampled).1 = .ok around) :
    match p.knownConflicting with
    | some r => around.firstConflicting = some r
    | none => Surroundings.firstAlong scene.surroundings.conflicting.areas scene.sampled =
        .ok around.firstConflicting := by
  obtain ⟨-, -, -, hclassify⟩ := look_eq_some hlook
  obtain ⟨-, -, -, -, hnone⟩ := Surroundings.classify_eq_ok hclassify
  obtain ⟨hupdate, -⟩ := FirstAreaCache.apply_eq_ok haround
  obtain ⟨conflicting, attention, hconflicting, -, rfl⟩ := Surroundings.update_eq_ok.mp hupdate
  rw [associated_of_look hlook] at hconflicting
  simp only [FirstAreaCache.restore, known_conflicting, hnone, Option.or_none] at hconflicting
  cases hknown : p.knownConflicting with
  | some r =>
      rw [hknown] at hconflicting
      exact (Except.ok.inj hconflicting).symm
  | none =>
      rw [hknown] at hconflicting
      exact hconflicting

end Planner

end Crossing
