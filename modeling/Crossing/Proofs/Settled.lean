import Crossing.Proofs.Surroundings
import Crossing.EgoLane
import Crossing.Object
import Crossing.Occlusion
import Crossing.PassingTime
import Crossing.Approach

/-!
# What is never refused

A computation is settled when it is not refused: it has a value or ends in a breach.  Most of what a
cycle computes is settled, because whatever could be refused on the way is either tolerated, as a
piece that is too short, or insisted on, as the segments of a polyline.

The rules for the ways in which computations are strung together are simp lemmas, and so is the
lemma about each function, stated in the order in which the functions call each other.  So a proof
unfolds one function and leaves what that function calls to simp; where the function branches on
what it has found, or walks along a list, the proof says so.
-/

namespace Crossing

namespace Outcome

variable {K α β : Type}

/-- **The computation is not refused.** -/
def Settled (x : Outcome K α) : Prop := ∀ why activities, x ≠ .error (.refused why activities)

variable {x : Outcome K α}

lemma Delivers.settled {P : α → Prop} (h : x.Delivers P) : x.Settled := by
  rintro why activities rfl
  rcases h with ⟨a, ha, -⟩ | ⟨why, hwhy⟩
  · cases ha
  · cases hwhy

/-- What is settled can only fail in a breach. -/
lemma Settled.exists_broken (h : x.Settled) {f : Fault K} (hf : x = .error f) :
    ∃ why, f = .broken why := by
  cases f with
  | refused why activities => exact absurd hf (h why activities)
  | broken why => exact ⟨why, rfl⟩

@[simp] lemma settled_ok (a : α) : Settled (.ok a : Outcome K α) := fun _ _ h => by cases h

@[simp] lemma settled_breach (why : Breach K) : Settled (breach why : Outcome K α) :=
  fun _ _ h => by cases h

@[simp] lemma settled_demand (why : Breach K) (o : Option α) : (demand why o).Settled :=
  Delivers.demand.settled

@[simp] lemma settled_tolerate (x : Outcome K α) : x.tolerate.Settled := Delivers.tolerate.settled

@[simp] lemma settled_insist (x : Outcome K α) : x.insist.Settled := by
  match x with
  | .ok a => exact settled_ok a
  | .error (.refused why _) => exact settled_breach (.unmetDemand why)
  | .error (.broken why) => exact settled_breach why

@[simp] lemma settled_addCounts (a b : Nat) : (addCounts a b : Outcome K Nat).Settled := by
  unfold addCounts
  split
  · exact settled_ok (a + b)
  · exact settled_breach (.countOverflow a b)

lemma settled_iff_avoids :
    x.Settled ↔ x.Avoids fun e => ∃ why activities, e = .refused why activities := by
  constructor
  · rintro h _ ⟨why, activities, rfl⟩
    exact h why activities
  · exact fun h why activities => h _ ⟨why, activities, rfl⟩

@[simp] lemma settled_bind {f : α → Outcome K β} :
    (x >>= f).Settled ↔ x.Settled ∧ ∀ a, x = .ok a → (f a).Settled := by
  simp only [settled_iff_avoids, avoids_bind]

@[simp] lemma settled_map {f : α → β} : (f <$> x).Settled ↔ x.Settled := by
  simp only [settled_iff_avoids, avoids_map]

@[simp] lemma settled_ite {p : Prop} [Decidable p] {y : Outcome K α} :
    (if p then x else y).Settled ↔ (p → x.Settled) ∧ (¬ p → y.Settled) := by
  simp only [settled_iff_avoids, avoids_ite]

/-! ## Lists -/

section Lists

variable {f : α → Outcome K β} {p : α → Outcome K Bool} {xs : List α}

@[simp] lemma settled_optionMapM {o : Option α} (h : ∀ a, o = some a → (f a).Settled) :
    (o.mapM f).Settled := by
  simp only [settled_iff_avoids] at h ⊢
  exact avoids_optionMapM h

@[simp] lemma settled_mapM (h : ∀ a ∈ xs, (f a).Settled) : (xs.mapM f).Settled := by
  simp only [settled_iff_avoids] at h ⊢
  exact avoids_mapM h

@[simp] lemma settled_findM (h : ∀ a ∈ xs, (p a).Settled) : (xs.findM? p).Settled := by
  simp only [settled_iff_avoids] at h ⊢
  exact avoids_findM h

@[simp] lemma settled_findSomeM {f : α → Outcome K (Option β)} (h : ∀ a ∈ xs, (f a).Settled) :
    (xs.findSomeM? f).Settled := by
  simp only [settled_iff_avoids] at h ⊢
  exact avoids_findSomeM h

@[simp] lemma settled_anyM (h : ∀ a ∈ xs, (p a).Settled) : (xs.anyM p).Settled := by
  simp only [settled_iff_avoids] at h ⊢
  exact avoids_anyM h

@[simp] lemma settled_filterM (h : ∀ a ∈ xs, (p a).Settled) : (xs.filterM p).Settled := by
  simp only [settled_iff_avoids] at h ⊢
  exact avoids_filterM h

end Lists

end Outcome

variable {K : Type} [Scalar K]

/-! ## Quantities -/

section Quantities

@[simp] lemma Distance.settled_ofMetres (x : K) : (Distance.ofMetres x).Settled :=
  Distance.delivers_ofMetres.settled

@[simp] lemma Duration.settled_ofSeconds (x : K) : (Duration.ofSeconds x).Settled := by
  simp [Duration.ofSeconds]

@[simp] lemma Speed.settled_ofMetresPerSecond (x : K) : (Speed.ofMetresPerSecond x).Settled := by
  simp [Speed.ofMetresPerSecond]

variable (a b : Distance K) (k : K)

@[simp] lemma Distance.settled_add : (a.add b).Settled := Distance.delivers_add.settled

@[simp] lemma Distance.settled_sub : (a.sub b).Settled := Distance.delivers_sub.settled

@[simp] lemma Distance.settled_neg : a.neg.Settled := Distance.settled_ofMetres _

@[simp] lemma Distance.settled_scale : (Distance.scale k a).Settled :=
  Distance.delivers_scale.settled

@[simp] lemma Distance.settled_half : a.half.Settled := by simp [Distance.half, Distance.shrink]

@[simp] lemma Distance.settled_ratio : (a.ratio b).Settled := by simp [Distance.ratio]

@[simp] lemma Distance.settled_sum (ds : List (Distance K)) : (Distance.sum ds).Settled :=
  Distance.delivers_sum.settled

@[simp] lemma Duration.settled_add (s t : Duration K) : (s.add t).Settled :=
  Duration.settled_ofSeconds _

@[simp] lemma Duration.settled_sub (s t : Duration K) : (s.sub t).Settled :=
  Duration.settled_ofSeconds _

@[simp] lemma Duration.settled_scale (t : Duration K) : (Duration.scale k t).Settled :=
  Duration.settled_ofSeconds _

@[simp] lemma Speed.settled_add (u v : Speed K) : (u.add v).Settled :=
  Speed.settled_ofMetresPerSecond _

@[simp] lemma Speed.settled_shrink (v : Speed K) : (v.shrink k).Settled := by simp [Speed.shrink]

@[simp] lemma Speed.settled_timeFor (v : Speed K) : (v.timeFor a).Settled := by
  simp [Speed.timeFor]

@[simp] lemma Angle.settled_ofRadians : (Angle.ofRadians k).Settled := by simp [Angle.ofRadians]

end Quantities

/-! ## Shapes -/

section Points

variable (p q : Point K)

@[simp] lemma Point.settled_ofCoordinates (x y : K) : (Point.ofCoordinates x y).Settled := by
  simp [Point.ofCoordinates]

@[simp] lemma Point.settled_distance : (p.distance q).Settled := Distance.settled_ofMetres _

@[simp] lemma Point.settled_direction : (p.direction q).Settled := Angle.settled_ofRadians _

@[simp] lemma Point.settled_lerp (part : K) : (p.lerp q part).Settled :=
  Point.settled_ofCoordinates _ _

@[simp] lemma Pose.settled_toWorld (pose : Pose K) (ahead left : Distance K) :
    (pose.toWorld ahead left).Settled := Point.settled_ofCoordinates _ _

end Points

section Segments

variable (s other : Segment K) (p : Point K)

@[simp] lemma Segment.settled_length : s.length.Settled := Point.settled_distance _ _

@[simp] lemma Segment.settled_angle : s.angle.Settled := Point.settled_direction _ _

@[simp] lemma Segment.settled_atPart (part : K) : (s.atPart part).Settled :=
  Point.settled_lerp _ _ _

@[simp] lemma Segment.settled_closest : (s.closest p).Settled := Segment.settled_atPart _ _

@[simp] lemma Segment.settled_distanceTo : (s.distanceTo p).Settled := by
  simp [Segment.distanceTo]

@[simp] lemma Segment.settled_crosses : (s.crosses other).Settled := by
  simp [Segment.crosses, Segment.crossing]

end Segments

section Polylines

variable (line : Polyline K) (p : Point K)

@[simp] lemma Polyline.settled_segments : line.segments.Settled := by simp [Polyline.segments]

omit [Scalar K] in
@[simp] lemma Polyline.settled_first : line.first.Settled := Outcome.settled_demand _ _

@[simp] lemma Polyline.settled_closestAmong (segments : List (Segment K)) (sofar : Distance K)
    (best : Option (Polyline.Closest K)) :
    (Polyline.closestAmong p segments sofar best).Settled := by
  induction segments generalizing sofar best with
  | nil => exact Outcome.settled_ok best
  | cons s rest ih => simp [Polyline.closestAmong, ih]

@[simp] lemma Polyline.settled_project : (line.project p).Settled := by simp [Polyline.project]

@[simp] lemma Polyline.settled_angleNear : (line.angleNear p).Settled := by
  simp [Polyline.angleNear]

end Polylines

section Regions

variable (r : Region K) (p : Point K)

@[simp] lemma Region.settled_borderDistance : (r.borderDistance p).Settled := by
  simp [Region.borderDistance, Region.edges]

@[simp] lemma Region.settled_contains : (r.contains p).Settled := by simp [Region.contains]

@[simp] lemma Region.settled_distanceTo : (r.distanceTo p).Settled := by simp [Region.distanceTo]

@[simp] lemma Region.settled_rectangle (centre : Pose K) (length width : Distance K) :
    (Region.rectangle centre length width).Settled := by simp [Region.rectangle]

end Regions


/-! ## Along the path -/

section Paths

variable (path : Path K) (interval : Nat × Nat) (i : Nat) (p : Point K)

omit [Scalar K] in
@[simp] lemma Path.settled_point : (path.point i).Settled := Outcome.settled_demand _ _

@[simp] lemma Path.settled_arcLengths : path.arcLengths.Settled := by
  have hafter : ∀ (w : Waypoint K) (sofar : Distance K) (ws : List (Waypoint K)),
      (Path.arcsAfter w sofar ws).Settled := by
    intro w sofar ws
    induction ws generalizing w sofar with
    | nil => exact Outcome.settled_ok []
    | cons next rest ih => simp [Path.arcsAfter, Path.step, ih]
  unfold Path.arcLengths
  split <;> simp [hafter]

@[simp] lemma Path.settled_arcBetween (j : Nat) : (path.arcBetween i j).Settled := by
  simp [Path.arcBetween, Path.step]

@[simp] lemma Path.settled_nearest : (path.nearest p).Settled := by simp [Path.nearest]

@[simp] lemma Path.settled_distanceUntil (l : Lanelet K) : (path.distanceUntil l i).Settled := by
  unfold Path.distanceUntil
  split <;> simp [Path.aheadOf]

omit [Scalar K] in
@[simp] lemma Path.settled_firstInside {inside : Inside K} (h : ∀ p, (inside p).Settled)
    (forward : Bool) : (path.firstInside interval inside forward).Settled := by
  simp [Path.firstInside, h]

omit [Scalar K] in
@[simp] lemma Path.settled_firstInsideAny {areas : List (Inside K)}
    (h : ∀ inside ∈ areas, ∀ p, (inside p).Settled) (forward : Bool) :
    (path.firstInsideAny interval areas forward).Settled := by
  have hholding : ∀ p, (Path.firstHolding areas p).Settled := by
    intro p
    simp only [Path.firstHolding, Outcome.settled_bind]
    refine ⟨Outcome.settled_findM ?_, by simp⟩
    rintro ⟨inside, j⟩ hinside
    exact h inside (List.mem_of_getElem? (List.mk_mem_zipIdx_iff_getElem?.mp hinside)) p
  simp [Path.firstInsideAny, hholding]

variable (s : SampledPath K) (d : Distance K)

@[simp] lemma SampledPath.settled_stepsUp : (s.stepsUp d).Settled := by simp [SampledPath.stepsUp]

@[simp] lemma SampledPath.settled_stepsDown : (s.stepsDown d).Settled := by
  simp [SampledPath.stepsDown]

namespace StopLines

@[simp] lemma settled_stuckLine (margin front : Distance K) (atLaneStart : Bool) :
    (stuckLine s i margin front atLaneStart).Settled := by simp [stuckLine]

omit [Scalar K] in
@[simp] lemma settled_defaultLine (mapLine conflictEntry stuck firstAttention : Option Nat)
    (marginSteps frontSteps : Nat) : (defaultLine mapLine conflictEntry stuck firstAttention
      marginSteps frontSteps : Outcome K _).Settled := by
  unfold defaultLine
  split <;> simp

@[simp] lemma settled_peekingLine {area : Inside K} (h : ∀ p, (area p).Settled) :
    (peekingLine s area i d).Settled := by simp [peekingLine, h]

/-- Stop lines can be planned if the areas that they are planned for can be looked at. -/
@[simp] lemma settled_plan {conflicting attention : Option (Inside K)}
    (hconflicting : ∀ area, conflicting = some area → ∀ p, (area p).Settled)
    (hattention : ∀ area, attention = some area → ∀ p, (area p).Settled)
    (mapLine : Option Nat) (closest : Nat) (c : Config K) :
    (plan s conflicting attention mapLine closest c).Settled := by
  have hentry : ∀ area : Option (Inside K), (∀ a, area = some a → ∀ p, (a p).Settled) →
      (area.mapM fun a => s.path.firstInside s.interval a true).Settled := fun area h =>
    Outcome.settled_optionMapM fun a ha => Path.settled_firstInside _ _ (h a ha) _
  simp only [plan, Outcome.settled_bind, SampledPath.settled_stepsUp, true_and]
  refine fun _ _ _ _ => ⟨hentry _ hconflicting, fun _ _ => ⟨hentry _ hattention, fun entry _ => ?_⟩⟩
  refine ⟨by simp, fun stuck _ => ⟨by simp, fun default _ => ?_⟩⟩
  split
  · next area i _ _ =>
    simp [hattention area rfl]
  · simp

@[simp] lemma settled_ofMap (line : Polyline K) : (ofMap s line).Settled := by
  have hcrosses : ∀ a b, (crossesWay line a b).Settled := by
    intro a b
    simp only [crossesWay, Outcome.settled_bind, Outcome.settled_tolerate, true_and]
    intro way _
    cases way <;> simp
  simp [ofMap, hcrosses]

@[simp] lemma settled_isOver (pose : Pose K) (target : Nat) :
    (isOver path i pose target).Settled := by simp [isOver]

end StopLines

end Paths

/-! ## The lane of the vehicle -/

namespace EgoLane

variable (s : SampledPath K) (width : Distance K)

lemma settled_guidePoints (here : Point K) (since : Distance K) (ps : List (Point K)) :
    (guidePoints here since ps).Settled := by
  induction ps generalizing here since with
  | nil => exact Outcome.settled_ok []
  | cons p rest ih => simp [guidePoints, ih]

/-- A lanelet along the path is tolerated to be missing. -/
@[simp] lemma settled_between (start finish : Nat) : (between s start finish width).Settled := by
  simp only [between, Outcome.settled_ite, Outcome.pure_eq_ok, Outcome.settled_ok, true_and,
    implies_true]
  intro _
  split <;> simp [settled_guidePoints]

@[simp] lemma settled_laneAfter : (laneAfter s width).Settled := by
  simp only [laneAfter, Outcome.settled_ite, Outcome.settled_bind, Path.settled_point,
    Outcome.pure_eq_ok, Outcome.settled_ok, true_and, implies_true, and_true]
  intro _ w _
  split
  · exact Outcome.settled_ok none
  · split <;> simp

@[simp] lemma settled_conflictLanes (range : Nat × Nat) :
    (conflictLanes s range width).Settled := by
  simp [conflictLanes, Option.forall]

section Conflict

variable {firstConflicting : Inside K} {conflicting : List (Inside K)}
  {firstAttention : Option (Inside K)} {attention : List (Inside K)}
  (hfirst : ∀ p, (firstConflicting p).Settled)
  (hconflicting : ∀ area ∈ conflicting, ∀ p, (area p).Settled)
  (hwatched : ∀ area, firstAttention = some area → ∀ p, (area p).Settled)
  (hattention : ∀ area ∈ attention, ∀ p, (area p).Settled)
include hfirst hconflicting hwatched hattention

omit [Scalar K] in
lemma settled_conflictRange :
    (conflictRange s firstConflicting conflicting firstAttention attention).Settled := by
  cases firstAttention with
  | none =>
      simp [conflictRange, Option.forall, Path.settled_firstInsideAny _ _ hconflicting, hfirst]
  | some area =>
      simp [conflictRange, Option.forall, Path.settled_firstInsideAny _ _ hattention,
        hwatched area rfl]

/-- The lanes of the vehicle are made, if the areas in conflict can be looked at. -/
lemma settled_ofPath (map : RoadMap K) (onPath : List LaneletId) (closest : Nat) :
    (ofPath map onPath s firstConflicting conflicting firstAttention attention closest
      width).Settled := by
  have hrange := settled_conflictRange s hfirst hconflicting hwatched hattention
  simp [ofPath, Option.forall, hrange]

end Conflict

@[simp] lemma settled_stuckArea (lane : EgoLane K) (reach : Distance K) :
    (lane.stuckArea reach).Settled := by
  simp [stuckArea, Lanelet.delivers_span.settled]

end EgoLane

/-! ## Other road users -/

section RoadUsers

variable (o : RoadUser K) (lanelets : List (Lanelet K)) (c : Config K) (perception : Perception K)
  (sketch : Sketch K)

@[simp] lemma RoadUser.settled_footprint : o.footprint.Settled := by
  unfold RoadUser.footprint
  split <;> simp

@[simp] lemma RoadUser.settled_isAlong : (o.isAlong lanelets c).Settled := by
  simp [RoadUser.isAlong, Pose.isAlong, Lanelet.contains, Lanelet.directionAt]

@[simp] lemma Perception.settled_checkStuck (area : Region K) (limit : Speed K) :
    (perception.checkStuck area limit lanelets c sketch).Settled := by
  simp [Perception.checkStuck, Perception.isStuck, Option.forall]

@[simp] lemma Perception.settled_targets : (perception.targets lanelets c sketch).Settled := by
  simp [Perception.targets]

@[simp] lemma Perception.settled_cutPrediction (stamp now horizon : Duration K)
    (f : Prediction K) : (cutPrediction stamp now horizon f).Settled := by
  simp [cutPrediction, isWithin]

@[simp] lemma Perception.settled_cut (now horizon : Duration K) :
    (perception.cut now horizon).Settled := by simp [Perception.cut]

end RoadUsers

/-! ## Times and hidden places -/

namespace PassingTime

variable (a : PassingTime K)

@[simp] lemma settled_velocityAt (origin : Distance K) (stopped : Bool) (w : Waypoint K)
    (arc : Distance K) : (a.velocityAt origin stopped w arc).Settled := by
  simp [velocityAt, ramp]

@[simp] lemma settled_timeAfter (time : Duration K) (before after : Speed K)
    (stretch : Distance K) : (a.timeAfter time before after stretch).Settled := by
  simp [timeAfter]

@[simp] lemma settled_entries (origin : Distance K) (stopped : Bool) (time : Duration K)
    (before : Speed K) (here : Distance K) (rows : List (Waypoint K × Distance K)) :
    (a.entries origin stopped time before here rows).Settled := by
  induction rows generalizing stopped time before here with
  | nil => exact Outcome.settled_ok []
  | cons row rest ih => simp [entries, ih]

@[simp] lemma settled_profile (path : Path K) (closest last : Nat) :
    (a.profile path closest last).Settled := by
  simp only [profile, Outcome.settled_bind, Path.settled_arcLengths, true_and]
  intro arcs _
  split <;> simp

end PassingTime

namespace Occlusion

variable (obstacles : List (Region K)) (ego : Point K) (range : Distance K) (path : Polyline K)

@[simp] lemma settled_hitAt (p : Point K) : (hitAt obstacles ego range p).Settled := by
  simp [hitAt]

@[simp] lemma settled_ofDivision (division : Polyline K) :
    (ofDivision obstacles ego range path division).Settled := by simp [ofDivision, Option.forall]

/-- What is hidden can be looked for, once there are cross sections and a way to measure along. -/
@[simp] lemma settled_find (lanes : List (SlicedLane K)) (sketch : Sketch K) :
    (find lanes obstacles ego range path sketch).Settled := by simp [find]

end Occlusion

end Crossing
