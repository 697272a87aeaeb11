import Crossing.Proofs.CountOverflow
import Crossing.Proofs.Cycle
import Crossing.Proofs.LaneRuns
import Crossing.Proofs.Run
import Crossing.Proofs.StopLineOrder

/-!
# Indices of a cycle

A cycle counts in samples, and uses its counts as indices of the sampled path without looking
whether there is such a sample.  This module says why there always is.

**Every index begins as one of a sample.**  The interval comes from a search through the path
(`lt_size_of_laneInterval`), the sample closest to the vehicle is one of the samples
(`lt_size_of_nearest`), an area is entered at a sample that is inside (`Path.InsideAt.lt_size`), and
the map's line crosses the way from one sample to the next (`lt_size_of_ofMap`).

**Lines are moved, but not off the path.**  Offsets to the front are not taken further than the
start, or leave no line; offsets to the back end at the last sample inside the area.  What is left
are smaller and larger ones of such indices (`Placement.inRange`).

The settings do not matter for this, and neither do the areas that the lines are planned for.  They
matter for whether there are lines: a sum of counts past the largest one ends the cycle before it
has any index of a line, even where a limit would have brought the line back
(`Planner.not_forall_indices`).
-/

namespace Crossing

variable {K : Type}

/-! ## Where indices come from -/

namespace Path

variable [Scalar K] {path : Path K} {i : Nat}

/-- One of the pairs with the least distance is one of the pairs. -/
lemma mem_of_leastFirst {pairs : List (Distance K × Nat)} {best : Distance K × Nat}
    (h : leastFirst pairs = some best) : best ∈ pairs := by
  cases pairs with
  | nil => cases h
  | cons first rest =>
      cases h
      refine List.foldlRecOn rest _ List.mem_cons_self fun best hbest d hd => ?_
      split
      · exact List.mem_cons_of_mem _ hd
      · exact hbest

/-- The sample closest to a point is on the path. -/
lemma lt_size_of_nearest {p : Point K} (h : path.nearest p = .ok (some i)) : i < path.size := by
  obtain ⟨distances, hdistances, h⟩ := Outcome.bind_eq_ok.mp h
  obtain ⟨⟨d, i⟩, hbest, rfl⟩ := Option.map_eq_some_iff.mp (Except.ok.inj h)
  obtain ⟨⟨w, j⟩, hw, hd⟩ := Outcome.exists_mem_of_mapM hdistances (mem_of_leastFirst hbest)
  obtain ⟨_, -, hd⟩ := Outcome.bind_eq_ok.mp hd
  cases hd
  exact lt_size_of_getElem? (List.mk_mem_zipIdx_iff_getElem?.mp hw)

/-- Only a path without samples has none that is closest. -/
lemma points_of_nearest {p : Point K} (h : path.nearest p = .ok none) : path.points = [] := by
  obtain ⟨distances, hdistances, h⟩ := Outcome.bind_eq_ok.mp h
  have hlength := (Outcome.mapM_eq_ok.mp hdistances).length_eq
  cases distances with
  | nil => simpa using hlength
  | cons first rest => cases h

/-- There is an arc length for each waypoint. -/
lemma length_arcsAfter : ∀ {rest : List (Waypoint K)} {w : Waypoint K} {sofar : Distance K}
    {arcs : List (Distance K)}, arcsAfter w sofar rest = .ok arcs → arcs.length = rest.length
  | [], _, _, _, h => by
      cases h
      rfl
  | next :: rest, w, sofar, arcs, h => by
      obtain ⟨step, -, h⟩ := Outcome.bind_eq_ok.mp h
      obtain ⟨here, -, h⟩ := Outcome.bind_eq_ok.mp h
      obtain ⟨later, hlater, h⟩ := Outcome.bind_eq_ok.mp h
      cases h
      rw [List.length_cons, List.length_cons, length_arcsAfter hlater]

lemma length_arcLengths {arcs : List (Distance K)} (h : path.arcLengths = .ok arcs) :
    arcs.length = path.size := by
  rw [size]
  unfold arcLengths at h
  split at h
  · next hpoints =>
    cases h
    rw [hpoints, List.length_nil, List.length_nil]
  · next w rest hpoints =>
    obtain ⟨later, hlater, h⟩ := Outcome.bind_eq_ok.mp h
    cases h
    rw [hpoints, List.length_cons, List.length_cons, length_arcsAfter hlater]

end Path

namespace StopLines

variable [Scalar K] {s : SampledPath K} {i : Nat}

/-- The map's line is at a sample that has a next one. -/
lemma lt_size_of_ofMap {line : Polyline K} (h : ofMap s line = .ok (some i)) :
    i + 1 < s.path.size := by
  obtain ⟨found, hfound, h⟩ := Outcome.bind_eq_ok.mp h
  obtain ⟨⟨way, i⟩, rfl, rfl⟩ := Option.map_eq_some_iff.mp (Except.ok.inj h)
  obtain ⟨before, after, hsplit, -, -⟩ := Outcome.findM_eq_some.mp hfound
  have hmem : (way, i) ∈ (Chain.links s.path.points).zipIdx := by
    have hways : (way, i) ∈ before ++ (way, i) :: after := by simp
    rw [← hsplit] at hways
    exact List.mem_of_mem_drop (List.mem_of_mem_take hways)
  have hlt := (List.getElem?_eq_some_iff.mp (List.mk_mem_zipIdx_iff_getElem?.mp hmem)).1
  rw [Chain.length_links] at hlt
  rw [Path.size]
  omega

lemma lt_size_of_mapLine {line : Option (Polyline K)} {found : Option (Option Nat)}
    (h : line.mapM (ofMap s) = .ok found) {m : Nat} (hm : found.join = some m) :
    m < s.path.size := by
  cases line with
  | none =>
      cases h
      cases hm
  | some l =>
      obtain ⟨index, hindex, rfl⟩ := Outcome.map_eq_ok.mp h
      obtain rfl : index = some m := hm
      exact Nat.lt_of_succ_lt (lt_size_of_ofMap hindex)

/-! ## Where lines can be -/

/-- **Every line is at a sample of a path**, and nothing has to be decided behind a line. -/
structure InRange (lines : StopLines) (size : Nat) : Prop where
  closest : lines.closest < size
  stuck : ∀ i, lines.stuck = some i → i < size
  default : ∀ i, lines.default = some i → i < size
  firstAttention : ∀ i, lines.firstAttention = some i → i < size
  peeking : ∀ i, lines.peeking = some i → i < size
  passJudge : lines.passJudge < size
  passJudge_le : ∀ i, lines.stuck = some i ∨ lines.firstAttention = some i ∨
    lines.peeking = some i → lines.passJudge ≤ i

lemma atMost_le (i : Nat) (limit : Option Nat) : atMost i limit ≤ i := by
  cases limit with
  | none => exact Nat.le_refl i
  | some l => exact Nat.min_le_left i l

omit [Scalar K] in
/-- The default line is not behind everything that it is made of. -/
lemma defaultLine_lt {mapLine conflictEntry stuck firstAttention : Option Nat}
    {margin front n d : Nat} (hmap : ∀ i, mapLine = some i → i < n)
    (hentry : ∀ i, conflictEntry = some i → i < n) (hstuck : ∀ i, stuck = some i → i < n)
    (h : defaultLine mapLine conflictEntry stuck firstAttention margin front =
      (.ok (some d) : Outcome K _)) : d < n := by
  obtain ⟨-, hline⟩ := defaultLine_eq_ok.mp h
  obtain ⟨i, hi, rfl⟩ := Option.map_eq_some_iff.mp hline
  refine Nat.lt_of_le_of_lt (atMost_le _ _) ?_
  have hlt : i < n := by
    rcases Option.or_eq_some_iff.mp hi with hi | ⟨-, hi⟩
    · obtain ⟨m, hm, hi⟩ := Option.bind_eq_some_iff.mp (Option.eq_some_of_filter_eq_some hi)
      have := hmap m hm
      have := earlier_eq_some.mp hi
      omega
    · obtain ⟨e, he, hi⟩ := Option.bind_eq_some_iff.mp hi
      have := hentry e he
      have := earlier_eq_some.mp hi
      omega
  cases hs : stuck with
  | none => exact hlt
  | some s =>
      rw [atLeast_some]
      have := hstuck s hs
      omega

lemma passJudgeLine_le {stuck firstAttention : Option Nat} {i : Nat}
    (h : stuck = some i ∨ firstAttention = some i) : passJudgeLine stuck firstAttention ≤ i := by
  rcases h with rfl | rfl
  · cases firstAttention with
    | none => exact Nat.le_refl i
    | some f => exact Nat.min_le_left i f
  · cases stuck with
    | none => exact Nat.le_refl i
    | some s => exact Nat.min_le_right s i

namespace Placement

variable {conflicting attention : Option (Inside K)} {mapLine : Option Nat}
  {closest : Nat} {c : Config K} {lines : StopLines}
  (P : Placement s conflicting attention mapLine closest c lines)
include P

lemma conflictEntry_lt (h : P.conflictEntry = some i) : i < s.path.size := by
  obtain ⟨area, -, hfound⟩ := P.exists_conflicting h
  exact (Path.insideAt_of_firstInside hfound).lt_size

lemma attentionEntry_lt (h : P.attentionEntry = some i) : i < s.path.size := by
  obtain ⟨area, -, hfound⟩ := P.exists_area h
  exact (Path.insideAt_of_firstInside hfound).lt_size

lemma stuck_lt (hstart : s.interval.1 < s.path.size) (h : lines.stuck = some i) :
    i < s.path.size := by
  rw [P.stuck, Option.map_eq_some_iff] at h
  obtain ⟨entry, hentry, rfl⟩ := h
  have hlt := P.conflictEntry_lt hentry
  refine Nat.lt_of_le_of_lt (atMost_le _ _) ?_
  split <;> omega

lemma firstAttention_lt (h : lines.firstAttention = some i) : i < s.path.size := by
  obtain ⟨entry, hentry, hle⟩ := P.firstAttention_le h
  exact Nat.lt_of_le_of_lt hle (P.attentionEntry_lt hentry)

lemma peeking_lt (h : lines.peeking = some i) : i < s.path.size := by
  obtain ⟨area, entry, -, -, hforward, hline⟩ := P.peeking_eq_some h
  obtain ⟨start, last, steps, -, -, hback, -, -, rfl⟩ := peekingLine_eq_some hforward hline
  have hlast := (Path.insideAt_of_firstInside hback).lt_size
  omega

/-- **The lines of a plan are in range** when what they are planned from is. -/
lemma inRange (hstart : s.interval.1 < s.path.size) (hclosest : closest < s.path.size)
    (hmap : ∀ i, mapLine = some i → i < s.path.size) : lines.InRange s.path.size where
  closest := by rwa [P.closest_eq]
  stuck _ := P.stuck_lt hstart
  default d hd := by
    have hline := P.default
    rw [hd] at hline
    exact defaultLine_lt hmap (fun _ => P.conflictEntry_lt) (fun _ => P.stuck_lt hstart) hline
  firstAttention _ := P.firstAttention_lt
  peeking _ := P.peeking_lt
  passJudge := by
    rw [P.passJudge]
    cases hs : lines.stuck with
    | some i => exact Nat.lt_of_le_of_lt (passJudgeLine_le (Or.inl rfl)) (P.stuck_lt hstart hs)
    | none =>
        cases hf : lines.firstAttention with
        | some i => exact P.firstAttention_lt hf
        | none => exact Nat.lt_of_le_of_lt (Nat.zero_le _) hclosest
  passJudge_le i hi := by
    rw [P.passJudge]
    rcases hi with hi | hi | hi
    · exact passJudgeLine_le (Or.inl hi)
    · exact passJudgeLine_le (Or.inr hi)
    · -- the peeking line is behind both, and without either the judgement is at the start
      have hstuck := P.stuck_le_peeking hi
      have hattention := P.firstAttention_before_peeking
      rw [hi] at hattention
      cases hs : lines.stuck with
      | some j => exact (passJudgeLine_le (Or.inl rfl)).trans (hstuck j hs)
      | none =>
          cases hf : lines.firstAttention with
          | some j =>
              rw [hf, before_some] at hattention
              exact hattention
          | none => exact Nat.zero_le i

end Placement

end StopLines

/-! ## A cycle does not leave its path -/

namespace Planner

variable [Scalar K] {path : Path K} {lines : StopLines}

omit [Scalar K] in
/-- The pose to draw at a line is there, if there is a line. -/
lemma exists_wall {line : Option Nat} (h : ∀ i, line = some i → i < path.size) :
    ∃ pose, line.mapM (fun i => Waypoint.pose <$> path.point i) = (.ok pose : Outcome K _) := by
  cases line with
  | none => exact ⟨none, rfl⟩
  | some i =>
      obtain ⟨w, hw⟩ := Path.exists_point (h i rfl)
      refine ⟨some w.pose, Outcome.map_eq_ok.mpr ⟨w.pose, ?_, rfl⟩⟩
      exact Outcome.map_eq_ok.mpr ⟨w, hw, rfl⟩

omit [Scalar K] in
lemma exists_drawWalls (h : lines.InRange path.size) (stuck : Bool) (sketch : Sketch K) :
    ∃ drawn, drawWalls path lines stuck sketch = .ok drawn := by
  have hstuck : ∀ i, (if stuck then lines.stuck else none) = some i → i < path.size := by
    intro i hi
    split at hi
    · exact h.stuck i hi
    · cases hi
  have hjudge : ∀ i, some lines.passJudge = some i → i < path.size := by
    rintro i ⟨⟩
    exact h.passJudge
  obtain ⟨stuckWall, hstuckWall⟩ := exists_wall hstuck
  obtain ⟨defaultWall, hdefaultWall⟩ := exists_wall h.default
  obtain ⟨attentionWall, hattentionWall⟩ := exists_wall h.firstAttention
  obtain ⟨peekingWall, hpeekingWall⟩ := exists_wall h.peeking
  obtain ⟨judgeWall, hjudgeWall⟩ := exists_wall hjudge
  simp [drawWalls, hstuckWall, hdefaultWall, hattentionWall, hpeekingWall, hjudgeWall, bind,
    Except.bind]

lemma exists_isOver {target : Nat} (h : target < path.size) (closest : Nat) (pose : Pose K) :
    ∃ passed, StopLines.isOver path closest pose target = .ok passed := by
  unfold StopLines.isOver
  split
  · obtain ⟨w, hw⟩ := Path.exists_point h
    exact ⟨_, by rw [hw]; rfl⟩
  · exact ⟨_, rfl⟩

/-- The stop lines that are planned for a scene are on its path, whatever areas are remembered. -/
lemma lines_inRange {p : Planner K} {s : Snapshot K} {scene : Scene K} {around : Surroundings K}
    {mapLine : Option (Option Nat)} {closest : Nat} (h : p.look s = .ok (some scene))
    (hclosest : closest < scene.sampled.path.size)
    (hmapLine : scene.assigned.stopLine.mapM (StopLines.ofMap scene.sampled) = .ok mapLine)
    (hplan : StopLines.plan scene.sampled (around.firstConflicting.map Region.contains)
      (around.firstAttention.map Region.contains) mapLine.join closest p.config = .ok lines) :
    lines.InRange scene.sampled.path.size := by
  obtain ⟨-, hsampled, -, -⟩ := look_eq_some h
  obtain ⟨-, -, hinterval, -⟩ := SampledPath.ofPath_eq_some hsampled
  obtain ⟨hwide, hlast⟩ := Path.lt_size_of_laneInterval hinterval
  obtain ⟨P⟩ := StopLines.placement_of_plan hplan
  exact P.inRange (hwide.trans hlast) hclosest fun i => StopLines.lt_size_of_mapLine hmapLine

/-- **A cycle does not leave its path.**  Once the path has been found to come to the intersection,
the interval lies on it with both ends.  The search for the sample closest to the vehicle finds one,
and it is on the path; so it has an arc length.  Whatever areas are remembered, the stop lines that
are planned are on the path, and nothing has to be decided behind one of the lines that hold the
vehicle back; so there are poses to draw at them and one to compare with the vehicle's.

The lines are there unless a sum of counts is past the largest one: if every sample is found to be
inside the areas or outside of them, they are planned exactly when there is no such sum, and
otherwise the cycle breaks off.  If it comes to a result, they are its stop lines. -/
theorem indices_inRange {p : Planner K} {s : Snapshot K} {scene : Scene K}
    (h : p.look s = .ok (some scene)) :
    let path := scene.sampled.path
    let interval := scene.sampled.interval
    interval.1 < interval.2 ∧ interval.2 < path.size ∧ (∃ w, path.point interval.1 = .ok w) ∧
      (∀ found, path.nearest s.ego.pose.position = .ok found → ∃ closest, found = some closest ∧
        closest < path.size ∧
        (∀ arcs, path.arcLengths = .ok arcs → ∃ arc, arcs[closest]? = some arc) ∧
        ∀ (around : Surroundings K) mapLine,
          scene.assigned.stopLine.mapM (StopLines.ofMap scene.sampled) = .ok mapLine →
          let conflicting := around.firstConflicting.map Region.contains
          let attention := around.firstAttention.map Region.contains
          let planned := StopLines.plan scene.sampled conflicting attention mapLine.join closest
            p.config
          (∀ lines, planned = .ok lines → lines.InRange path.size ∧
            (∀ stuck sketch, ∃ drawn, drawWalls path lines stuck sketch = .ok drawn) ∧
            ∃ passed, StopLines.isOver path closest s.ego.pose lines.passJudge = .ok passed) ∧
          ((∀ a, conflicting = some a → path.Decides a) →
            (∀ a, attention = some a → path.Decides a) →
            ∃ S : StopLines.Survey scene.sampled conflicting attention p.config,
              (¬ S.Overflow mapLine.join → ∃ lines, planned = .ok lines) ∧
              (S.Overflow mapLine.join → ∃ e, planned = .error e ∧ e.IsCountOverflow)) ∧
          ∀ e, planned = .error e →
            (p.firstAreas.apply scene.surroundings scene.sampled).1 = .ok around →
              (p.plan s).1 = .error e) ∧
      ∀ cycle, (p.plan s).1 = .ok (some cycle) →
        cycle.path = path ∧ cycle.stopLines.InRange path.size := by
  intro path interval
  obtain ⟨-, hsampled, -, -⟩ := look_eq_some h
  obtain ⟨hspacing, -, hinterval, hequal, -, -⟩ := SampledPath.ofPath_eq_some hsampled
  obtain ⟨hwide, hlast⟩ := Path.lt_size_of_laneInterval hinterval
  refine ⟨hwide, hlast, Path.exists_point (hwide.trans hlast), ?_, ?_⟩
  · intro found hfound
    cases found with
    | none =>
        -- a path without samples has no interval
        have hpoints := Path.points_of_nearest hfound
        rw [Path.size, hpoints] at hlast
        cases hlast
    | some closest =>
        have hclosest := Path.lt_size_of_nearest hfound
        refine ⟨closest, rfl, hclosest, ?_, ?_⟩
        · intro arcs harcs
          rw [← Path.length_arcLengths harcs] at hclosest
          exact ⟨_, List.getElem?_eq_getElem hclosest⟩
        · intro around mapLine hmapLine conflicting attention planned
          refine ⟨?_, ?_, ?_⟩
          · intro lines hlines
            have hrange := lines_inRange h hclosest hmapLine hlines
            exact ⟨hrange, exists_drawWalls hrange, exists_isOver hrange.passJudge _ _⟩
          · intro hconflicting hattention
            exact StopLines.plan_of_decides (hequal ▸ hspacing) (hwide.trans hlast) hconflicting
              hattention mapLine.join closest p.config
          · exact fun e he haround => plan_of_lines_error h haround hfound hmapLine he
  · intro cycle hcycle
    obtain ⟨scene', around, hlook, -, hwork⟩ := plan_eq_ok hcycle
    cases h.symm.trans hlook
    obtain ⟨hpath, mapLine, closest, hnearest, hmapLine, hplan⟩ := work_eq_ok hwork
    exact ⟨hpath, lines_inRange h (Path.lt_size_of_nearest hnearest) hmapLine hplan⟩

/-- The cycle on the first of the two crossed lanelets has five samples, and its lines are among
the first three. -/
theorem indices_inRange_crossing : ∃ scene cycle,
    crossingPlanner.look (eastward 2 0) = .ok (some scene) ∧
      (crossingPlanner.plan (eastward 2 0)).1 = .ok (some cycle) ∧
      scene.sampled.path.size = 5 ∧ scene.sampled.interval = (0, 4) ∧
      cycle.stopLines = ⟨0, some 0, some 0, some 1, some 2, 0⟩ ∧ cycle.stopLines.InRange 5 := by
  obtain ⟨scene, hlook, hscene⟩ := Outcome.exists_of_toOption
    (x := crossingPlanner.look (eastward 2 0))
    (f := fun scene => (scene.sampled.path.size, scene.sampled.interval))
    (b := (5, (0, 4))) (by decide +kernel)
  obtain ⟨cycle, hcycle, hlines⟩ := Outcome.exists_of_toOption
    (x := (crossingPlanner.plan (eastward 2 0)).1) (f := fun cycle => cycle.stopLines)
    (b := ⟨0, some 0, some 0, some 1, some 2, 0⟩) (by decide +kernel)
  obtain ⟨hsize, hinterval⟩ := Prod.mk.inj hscene
  obtain ⟨-, -, -, -, hplan⟩ := indices_inRange hlook
  have hrange := (hplan cycle hcycle).2
  rw [hsize] at hrange
  exact ⟨scene, cycle, hlook, hcycle, hsize, hinterval, hlines, hrange⟩

/-! ## A cycle that breaks off

The same cycle with all lines at the place where the watched area is entered, but for an offset by
which the vehicle peeks further into the area than can be counted in samples.  The peeking line
would be at the last sample inside, as it is for every offset that reaches it, and that is the one
at which the area is entered.
-/

def farConfig : Config Rat :=
  { crossingConfig with
    common := { crossingConfig.common with stopAtLaneStart := false, stopMargin := ⟨0⟩ }
    occlusion := { crossingConfig.occlusion with peekingOffset := ⟨100000000000000000000⟩ }
    vehicle := { crossingConfig.vehicle with front := ⟨0⟩ } }

def farPlanner : Planner Rat := { crossingPlanner with config := farConfig }

/-- The watched area is entered at the third sample, and the offset is the largest count. -/
lemma plan_far :
    (farPlanner.plan (eastward 2 0)).1 = .error (.broken (.countOverflow 2 maxCount)) :=
  Outcome.eq_error_of_fault? (by decide +kernel)

/-- **Not every cycle has its indices**, not even with valid settings, on a path that comes to the
intersection, and when nothing but a sum of counts goes wrong. -/
theorem not_forall_indices :
    ¬ ∀ (lane : LaneletId) (associated : IdSet) (config : Config Rat) (p : Planner Rat)
      (s : Snapshot Rat) (scene : Scene Rat), ofConfig lane associated config = .ok p →
        p.look s = .ok (some scene) → (∀ e, (p.plan s).1 = .error e → e.IsCountOverflow) →
          ∃ cycle, (p.plan s).1 = .ok (some cycle) ∧ cycle.stopLines.InRange cycle.path.size := by
  intro h
  obtain ⟨scene, hlook, -⟩ := Outcome.exists_of_toOption (x := farPlanner.look (eastward 2 0))
    (f := fun scene => scene.sampled.path.size) (b := 5) (by decide +kernel)
  obtain ⟨cycle, hcycle, -⟩ := h ⟨2⟩ (IdSet.ofList [⟨5⟩]) farConfig farPlanner (eastward 2 0) scene
    (by decide +kernel) hlook fun e he => by
      cases plan_far.symm.trans he
      exact ⟨2, maxCount, by decide, rfl⟩
  cases plan_far.symm.trans hcycle

end Planner

end Crossing
