import Mathlib.Algebra.BigOperators.Intervals
import Mathlib.Tactic.NormNum.RealSqrt
import Crossing.Proofs.Rational
import Crossing.Proofs.Resampling
import Crossing.Proofs.StopLines

/-!
# The room before an area

A stuck line is placed so many samples before the area that rounding never leaves less room than
asked for.  That counts samples.  As a distance it holds along the planned path, where samples lie a
spacing apart, except that the last sample is as close to the one before it as the path leaves it;
so an area that is entered only there can be closer by less than one spacing.

Measured along the samples there can be less room still, since the way from sample to sample cuts
the corners of the planned path.  It is as long as the planned path exactly when every step is
(`room_of_stuckBefore`), and a single corner can take the room away (`not_forall_room`).
-/

namespace Crossing

/-! ## The way along samples -/

namespace Path

/-- Steps along waypoints, when the waypoints lie at the points of a sequence. -/
lemma mapM_step (ws : List (Waypoint ℝ)) {z : ℕ → Point ℝ}
    (hz : ∀ k w, ws[k]? = some w → w.position = z k) :
    ((Chain.links ws).mapM fun (a, b) => step a b) =
      (.ok ((List.range (ws.length - 1)).map fun k => ⟨dist (z k) (z (k + 1))⟩) :
        Outcome ℝ (List (Distance ℝ))) := by
  match ws with
  | [] => rfl
  | [w] => rfl
  | w :: next :: rest =>
      have hrest := mapM_step (next :: rest) (z := fun k => z (k + 1))
        fun k w' hw' => hz (k + 1) w' hw'
      rw [Chain.links, List.mapM_cons, hrest]
      simp only [step_eq, hz 0 w rfl, hz 1 next rfl, List.length_cons, Nat.add_sub_cancel,
        List.range_succ_eq_map, List.map_cons, List.map_map]
      rfl

/-- **The way along a path** from one waypoint to a later one. -/
lemma arcBetween_eq {path : Path ℝ} {z : ℕ → Point ℝ}
    (hz : ∀ k w, path.points[k]? = some w → w.position = z k) {i j : ℕ} (hij : i ≤ j)
    (hj : j < path.size) :
    path.arcBetween i j = .ok ⟨∑ k ∈ Finset.Ico i j, dist (z k) (z (k + 1))⟩ := by
  have hpiece : ∀ k w, ((path.points.drop i).take (j + 1 - i))[k]? = some w →
      w.position = z (i + k) := by
    intro k w hw
    rw [List.getElem?_take] at hw
    split at hw
    · rw [List.getElem?_drop] at hw
      exact hz _ w hw
    · cases hw
  have hlength : ((path.points.drop i).take (j + 1 - i)).length - 1 = j - i := by
    rw [List.length_take, List.length_drop, ← Path.size]
    omega
  unfold arcBetween
  simp only [min_eq_left hij, max_eq_right hij, if_neg (not_le.mpr hj), mapM_step _ hpiece, hlength,
    if_pos hij, Distance.sum_eq, List.map_map, bind, Except.bind]
  rw [Finset.sum_Ico_eq_sum_range]
  rfl

end Path

/-! ## Counting samples -/

namespace StopLines

variable {s : SampledPath ℝ} {area : Inside ℝ} {margin front : Distance ℝ} {i e : ℕ}

/-- A count below the largest one covers its distance. -/
lemma le_stepsUp {d : Distance ℝ} {steps : ℕ} (hspacing : 0 < s.spacing.metres)
    (h : s.stepsUp d = .ok steps) (hlt : steps < maxCount) :
    d.metres ≤ steps * s.spacing.metres := by
  rw [SampledPath.stepsUp, Distance.ratio_eq _ hspacing.ne'] at h
  obtain ⟨ratio, ⟨⟩, h⟩ := Outcome.bind_eq_ok.mp h
  have hsteps : min ⌈d.metres / s.spacing.metres⌉₊ maxCount = steps := Except.ok.inj h
  have hceil : ⌈d.metres / s.spacing.metres⌉₊ = steps := by omega
  rw [← div_le_iff₀ hspacing, ← hceil]
  exact Nat.le_ceil _

/-- **Counted in samples, a stuck line that is not at the start leaves the room asked for.** -/
lemma room_le_of_stuckBefore (hspacing : 0 < s.spacing.metres) (hcount : s.interval.2 ≤ maxCount)
    (h : stuckBefore s area margin front false = .ok (some i)) (hi : 0 < i) :
    ∃ e, s.path.firstInside s.interval area true = .ok (some e) ∧ i ≤ e ∧
      margin.metres + front.metres ≤ (e - i) * s.spacing.metres := by
  obtain ⟨entry, hentry, h⟩ := Outcome.bind_eq_ok.mp h
  cases entry with
  | none => cases h
  | some e =>
      obtain ⟨line, hline, ⟨⟩⟩ := Outcome.map_eq_ok.mp h
      obtain ⟨marginSteps, hmargin, hline⟩ := Outcome.bind_eq_ok.mp hline
      obtain ⟨frontSteps, hfront, hline⟩ := Outcome.bind_eq_ok.mp hline
      obtain ⟨sum, hsum, hline⟩ := Outcome.bind_eq_ok.mp hline
      obtain ⟨-, rfl⟩ := Outcome.addCounts_eq_ok.mp hsum
      cases hline
      refine ⟨e, hentry, Nat.sub_le _ _, ?_⟩
      have he : e ≤ s.interval.2 := (Path.insideAt_of_firstInside hentry).le_last
      -- nothing was cut off at the start, so neither offset is the largest count
      have hsteps : ((e - (marginSteps + frontSteps) : ℕ) : ℝ) =
          e - (marginSteps + frontSteps) := by
        rw [Nat.cast_sub (by omega), Nat.cast_add]
      rw [hsteps]
      linarith [le_stepsUp hspacing hmargin (by omega), le_stepsUp hspacing hfront (by omega)]

end StopLines

/-! ## Along the planned path and along the samples -/

/-- **A way along a path that does not turn**: its ends are as far apart as they are along it. -/
def Path.StraightBetween (path : Path ℝ) (a b : ℝ) : Prop :=
  dist (path.pointAt a) (path.pointAt b) = b - a

namespace SampledPath

variable {planned sampled : Path ℝ} {spacing : Distance ℝ} {i e : ℕ}

/-- **The way along the samples** from one to a later one is at most as long as along the planned
path, and as long only if the planned path turns at samples alone. -/
lemma arcBetween_of_resample (hspacing : 0 ≤ spacing.metres)
    (h : resample planned spacing = .ok sampled) (hie : i ≤ e) (he : e < sampled.size) :
    let arc := planned.sampleArc spacing sampled.size
    ∃ d, sampled.arcBetween i e = .ok d ∧ d.metres ≤ arc e - arc i ∧
      (d.metres = arc e - arc i ↔
        ∀ j ∈ Finset.Ico i e, planned.StraightBetween (arc j) (arc (j + 1))) := by
  intro arc
  have hstep : ∀ j ∈ Finset.Ico i e,
      dist (planned.pointAt (arc j)) (planned.pointAt (arc (j + 1))) ≤ arc (j + 1) - arc j := by
    intro j hj
    have hj := Finset.mem_Ico.mp hj
    obtain ⟨hnonneg, hle⟩ := sampleArc_le_succ (j := j) hspacing h (by omega)
    exact planned.dist_pointAt_le hnonneg hle
  have hway : ∑ j ∈ Finset.Ico i e, (arc (j + 1) - arc j) = arc e - arc i :=
    Finset.sum_Ico_sub arc hie
  have hplace : ∀ j w, sampled.points[j]? = some w → w.position = planned.pointAt (arc j) :=
    fun j w hw => (position_of_resample hspacing h hw).1
  refine ⟨_, Path.arcBetween_eq hplace hie he, ?_, ?_⟩
  · rw [← hway]
    exact Finset.sum_le_sum hstep
  · rw [← hway]
    exact Finset.sum_eq_sum_iff_of_le hstep

/-- **Room that is counted in samples** is there along the planned path, except that the last sample
may leave up to one spacing less. -/
lemma room_of_resample (hspacing : 0 < spacing.metres)
    (h : resample planned spacing = .ok sampled) (hie : i ≤ e) (he : e < sampled.size) {room : ℝ}
    (hroom : room ≤ (e - i) * spacing.metres) :
    let arc := planned.sampleArc spacing sampled.size
    (e + 1 < sampled.size → room ≤ arc e - arc i) ∧ room < arc e - arc i + spacing.metres := by
  intro arc
  have hbefore : ∀ j, j + 1 < sampled.size → arc j = j * spacing.metres := fun j hj => if_pos hj
  have hinner : e + 1 < sampled.size → room ≤ arc e - arc i := by
    intro hlast
    rw [hbefore e hlast, hbefore i (by omega)]
    linarith
  refine ⟨hinner, ?_⟩
  by_cases hlast : e + 1 < sampled.size
  · linarith [hinner hlast]
  · rcases hie.eq_or_lt with rfl | hlt
    · rw [sub_self, zero_mul] at hroom
      linarith
    · -- the last sample lies behind the one before it, wherever that is
      have hend : arc e = planned.length := if_neg hlast
      have hlength := mul_lt_length (j := e - 1) hspacing.le h (by omega)
      rw [Nat.cast_sub (by omega), Nat.cast_one] at hlength
      rw [hend, hbefore i (by omega)]
      linarith

end SampledPath

/-! ## The room before an area -/

namespace StopLines

variable {lane : LaneletId} {associated : IdSet} {planned : Path ℝ} {spacing : Distance ℝ}
  {s : SampledPath ℝ} {area : Inside ℝ} {margin front : Distance ℝ} {i : ℕ}

/-- **The room before an area.**  Say that a path is sampled, with an interval whose ends are
counts, and that the stuck line before an area is at sample `i`, behind the start.  Then the area is
entered at a sample `e`, and counted in samples there is at least the room asked for between them.

Along the planned path there is as much, unless `e` is the last sample, which may leave up to one
spacing less.  Along the samples there is at most as much as along the planned path, and exactly as
much when the planned path does not turn between two samples; then the room asked for is there, as
long as `e` is not the last sample. -/
theorem room_of_stuckBefore
    (hs : SampledPath.ofPath lane associated planned spacing = .ok (some s))
    (hcount : s.interval.2 ≤ maxCount)
    (hstuck : stuckBefore s area margin front false = .ok (some i)) (hi : 0 < i) :
    let arc := planned.sampleArc spacing s.path.size
    let room := margin.metres + front.metres
    (∀ j w, s.path.points[j]? = some w → w.position = planned.pointAt (arc j)) ∧
      ∃ e d, s.path.firstInside s.interval area true = .ok (some e) ∧
        s.path.arcBetween i e = .ok d ∧ i ≤ e ∧
        room ≤ (e - i) * spacing.metres ∧
        (e + 1 < s.path.size → room ≤ arc e - arc i) ∧
        room < arc e - arc i + spacing.metres ∧
        d.metres ≤ arc e - arc i ∧
        (d.metres = arc e - arc i ↔
          ∀ j ∈ Finset.Ico i e, planned.StraightBetween (arc j) (arc (j + 1))) ∧
        (e + 1 < s.path.size →
          (∀ j ∈ Finset.Ico i e, planned.StraightBetween (arc j) (arc (j + 1))) →
            room ≤ d.metres) := by
  intro arc room
  obtain ⟨hspacing, hsampled, -, hequal, -, -⟩ := SampledPath.ofPath_eq_some hs
  have hpos : 0 < spacing.metres := by
    rw [← Distance.metres_zero]
    exact not_le.mp hspacing
  obtain ⟨e, hentry, hie, hroom⟩ := room_le_of_stuckBefore (hequal ▸ hpos) hcount hstuck hi
  rw [hequal] at hroom
  have he : e < s.path.size := (Path.insideAt_of_firstInside hentry).lt_size
  obtain ⟨hinner, hlast⟩ := SampledPath.room_of_resample hpos hsampled hie he hroom
  obtain ⟨d, hd, hle, hstraight⟩ := SampledPath.arcBetween_of_resample hpos.le hsampled hie he
  refine ⟨fun j w hw => (SampledPath.position_of_resample hpos.le hsampled hw).1, e, d, hentry, hd,
    hie, hroom, hinner, hlast, hle, hstraight, ?_⟩
  intro hbefore hall
  rw [hstraight.mpr hall]
  exact hinner hbefore

/-! ## Room that a corner takes away

A path of ten metres and then, to the left, of eleven, sampled every seven metres.  The samples
before and behind the corner are seven metres apart along the path, three before the corner and four
behind it, and so five metres apart as seen from one another.
-/

section Corner

variable {K : Type} [Scalar K]

def cornerWaypoint (x y : ℕ) (yaw : Angle K) : Waypoint K :=
  ⟨⟨⟨Scalar.ofNat x, Scalar.ofNat y⟩, yaw⟩, ⟨Scalar.ofNat 5⟩, [⟨2⟩]⟩

def cornerPath : Path K :=
  ⟨[cornerWaypoint 0 0 ⟨Scalar.ofNat 0⟩, cornerWaypoint 10 0 ⟨Scalar.ofNat 0⟩,
    cornerWaypoint 10 11 ⟨Scalar.ofNat 0⟩]⟩

/-- The direction before the corner. -/
def cornerEast : Angle K := ⟨Scalar.atan2 (Scalar.ofNat 0) (Scalar.ofNat 10)⟩

/-- The direction behind the corner. -/
def cornerNorth : Angle K := ⟨Scalar.atan2 (Scalar.ofNat 11) (Scalar.ofNat 0)⟩

/-- The samples of the path. -/
def cornerSampled : SampledPath K where
  path := ⟨[cornerWaypoint 0 0 cornerEast, cornerWaypoint 7 0 cornerEast,
    cornerWaypoint 10 4 cornerNorth, cornerWaypoint 10 11 cornerNorth]⟩
  spacing := ⟨Scalar.ofNat 7⟩
  lane := ⟨2⟩
  associated := IdSet.ofList [⟨2⟩]
  interval := (0, 3)

end Corner

/-- The stretches before and behind the corner. -/
noncomputable def cornerWays : List (Stretch ℝ) :=
  [⟨cornerWaypoint 0 0 ⟨0⟩, cornerWaypoint 10 0 ⟨0⟩, ⟨0⟩, ⟨10⟩⟩,
    ⟨cornerWaypoint 10 0 ⟨0⟩, cornerWaypoint 10 11 ⟨0⟩, ⟨10⟩, ⟨11⟩⟩]

lemma stretches_corner :
    SampledPath.stretches (Chain.links (cornerPath : Path ℝ).points) Distance.zero =
      .ok (cornerWays, ⟨21⟩) := by
  have hzero : (Distance.zero : Distance ℝ) = ⟨0⟩ := by rw [← Distance.metres_zero]
  rw [hzero, cornerPath, SampledPath.stretches_eq, cornerWays]
  norm_num [Waypoint.ways, Waypoint.wayLength, Waypoint.position, cornerWaypoint,
    Point.dist_eq_sqrt]

lemma sampleBound_corner : SampledPath.sampleBound (⟨7⟩ : Distance ℝ) ⟨21⟩ = 6 := by
  have hceil : ⌈((21 + 0.0001) / 7 : ℝ)⌉₊ = 4 := by rw [Nat.ceil_eq_iff] <;> norm_num
  exact congrArg (· + 2) hceil

lemma samplesFrom_corner : SampledPath.samplesFrom ⟨7⟩ ⟨21⟩ 6 0 cornerWays =
    .ok [cornerWaypoint 0 0 cornerEast, cornerWaypoint 7 0 cornerEast,
      cornerWaypoint 10 4 cornerNorth] := by
  norm_num [cornerWays, SampledPath.samplesFrom, SampledPath.advance, SampledPath.sampleOn,
    Distance.le_iff, Distance.ratio_eq, Point.onWay, Point.direction, Angle.ofRadians,
    Waypoint.position, cornerWaypoint, cornerEast, cornerNorth, Scalar.isFinite, bind, Except.bind]

lemma close_corner : SampledPath.close [cornerWaypoint 0 0 cornerEast,
    cornerWaypoint 7 0 cornerEast, cornerWaypoint 10 4 cornerNorth] (cornerWaypoint 10 11 ⟨0⟩) =
      (.ok cornerSampled.path.points : Outcome ℝ _) := by
  norm_num [SampledPath.close, cornerSampled, cornerWaypoint, Waypoint.position, Point.isSame,
    Point.isNear, Point.dist_eq_sqrt, Distance.le_iff, Distance.metres_epsilon, bind, Except.bind]

lemma ofPath_corner :
    SampledPath.ofPath ⟨2⟩ (IdSet.ofList [⟨2⟩]) cornerPath (⟨7⟩ : Distance ℝ) =
      .ok (some cornerSampled) := by
  have hpositive : ¬ (⟨7⟩ : Distance ℝ) ≤ Distance.zero := by norm_num [Distance.le_iff]
  have hlast : (cornerPath : Path ℝ).points.getLast? = some (cornerWaypoint 10 11 ⟨0⟩) := by
    simp [cornerPath]
  have hinterval : (cornerSampled : SampledPath ℝ).path.laneInterval (IdSet.ofList [⟨2⟩]) =
      some (0, 3) := rfl
  have hspacing : (⟨7⟩ : Distance ℝ) = cornerSampled.spacing := by norm_num [cornerSampled]
  unfold SampledPath.ofPath SampledPath.resample
  rw [if_neg hpositive, stretches_corner]
  simp only [bind, Except.bind, sampleBound_corner, samplesFrom_corner, hlast, close_corner,
    Outcome.pure_eq_ok, hinterval, Option.map_some]
  rw [hspacing]
  rfl

lemma stuckBefore_corner :
    stuckBefore cornerSampled (fun p : Point ℝ => .ok (decide (3 ≤ p.y ∧ p.y ≤ 5))) ⟨7⟩ ⟨0⟩ false =
      .ok (some 1) := by
  norm_num [stuckBefore, Path.firstInside, Path.window, cornerSampled, cornerWaypoint,
    Waypoint.position, stuckLine, SampledPath.stepsUp, Distance.ratio_eq, Outcome.addCounts,
    maxCount, bind, Except.bind, List.findM?, List.zipIdx]

/-- The stuck line is one sample before the area and has its seven metres along the path, but only
five along the samples. -/
theorem room_of_stuckBefore_corner :
    ∃ e d, (cornerSampled : SampledPath ℝ).path.firstInside (0, 3)
        (fun p => .ok (decide (3 ≤ p.y ∧ p.y ≤ 5))) true = .ok (some e) ∧
      (cornerSampled : SampledPath ℝ).path.arcBetween 1 e = .ok d ∧ d.metres = 5 ∧
      7 ≤ Path.sampleArc cornerPath ⟨7⟩ 4 e - Path.sampleArc cornerPath ⟨7⟩ 4 1 := by
  obtain ⟨-, e, d, hentry, hd, -, -, hinner, -, -, -, -⟩ :=
    room_of_stuckBefore ofPath_corner (by decide) stuckBefore_corner Nat.one_pos
  have he : (cornerSampled : SampledPath ℝ).path.firstInside (0, 3)
      (fun p => .ok (decide (3 ≤ p.y ∧ p.y ≤ 5))) true = .ok (some 2) := by
    norm_num [Path.firstInside, Path.window, cornerSampled, cornerWaypoint, Waypoint.position,
      bind, Except.bind, List.findM?, List.zipIdx]
  obtain rfl : e = 2 := by
    cases he.symm.trans hentry
    rfl
  have hfive : (cornerSampled : SampledPath ℝ).path.arcBetween 1 2 = .ok ⟨5⟩ := by
    norm_num [Path.arcBetween, cornerSampled, cornerWaypoint, Waypoint.position, Path.size,
      Chain.links, Point.dist_eq_sqrt, Distance.sum_eq, bind, Except.bind]
  cases hfive.symm.trans hd
  have hseven := hinner (by decide)
  rw [add_zero] at hseven
  exact ⟨2, _, he, hfive, rfl, hseven⟩

/-- What the path of the example enters behind its corner. -/
def behindCorner : Region Rat := ⟨[⟨9, 3⟩, ⟨11, 3⟩, ⟨11, 5⟩, ⟨9, 5⟩, ⟨9, 3⟩]⟩

/-- **A corner can take the room away**: not every stuck line behind the start has the room asked
for along the samples.  All lengths of the example are whole numbers. -/
theorem not_forall_room :
    ¬ ∀ (lane : LaneletId) (associated : IdSet) (planned : Path Rat) (spacing : Distance Rat)
      (s : SampledPath Rat) (area : Region Rat) (margin front : Distance Rat) (i e : ℕ),
      SampledPath.ofPath lane associated planned spacing = .ok (some s) →
        0 ≤ margin.metres → 0 ≤ front.metres →
          s.path.firstInside s.interval area.contains true = .ok (some e) →
            stuckBefore s area.contains margin front false = .ok (some i) → 0 < i →
              ∃ d, s.path.arcBetween i e = .ok d ∧ margin.metres + front.metres ≤ d.metres := by
  intro h
  obtain ⟨d, hd, hroom⟩ := h ⟨2⟩ (IdSet.ofList [⟨2⟩]) cornerPath ⟨7⟩ cornerSampled behindCorner
    ⟨7⟩ ⟨0⟩ 1 2 (by decide +kernel) (by decide) (by decide) (by decide +kernel) (by decide +kernel)
    Nat.one_pos
  have hfive : (cornerSampled : SampledPath Rat).path.arcBetween 1 2 = .ok ⟨5⟩ := by decide +kernel
  cases hfive.symm.trans hd
  norm_num at hroom

end StopLines

end Crossing
