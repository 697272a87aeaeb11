import Crossing.Surroundings.FirstAreas
import Crossing.EgoLane
import Crossing.Object
import Crossing.Occlusion
import Crossing.PassingTime
import Crossing.Approach

/-!
# Planning around one intersection

A `Planner` accompanies the vehicle through one intersection.  In each cycle it is given a
`Snapshot` of everything that matters and answers with a `Cycle`: where to stop, what stands in
the way, and when the vehicle would be where.  Whether it does stop is decided elsewhere.

**What a planner remembers.**  It knows the lanelet that it is assigned to, the lanelets that
count as that one, its settings, and the first areas found so far.  `Planner.plan` gives back the
planner together with the outcome, whatever the outcome is.  Only the first areas can change, and
they do as soon as the surroundings are known, before anything later in the cycle can fail.
-/

namespace Crossing

structure Ego (K : Type) where
  pose : Pose K
  velocity : Speed K
  deriving DecidableEq

/-- What one cycle looks at. -/
structure Snapshot (K : Type) where
  map : RoadMap K
  path : Path K
  ego : Ego K
  perception : Perception K
  signals : Signals K
  now : Duration K

/-- What one cycle finds; indices are those of its path. -/
structure Cycle (K : Type) where
  path : Path K
  stopLines : StopLines
  /-- How far conflicting traffic is stopped. -/
  priority : Priority
  /-- Is a vehicle stuck in the intersection or behind it? -/
  stuck : Bool
  /-- The objects to check for collisions. -/
  targets : List ObjectId
  /-- The hidden point that comes first. -/
  occlusion : Option (Occlusion K)
  times : List (Duration K × Distance K)
  /-- How far it is to the intersection. -/
  distance : Distance K
  /-- Is it too late to decide to stop? -/
  overPassJudge : Bool
  sketch : Sketch K

/-- What accompanies the vehicle through one intersection. -/
structure Planner (K : Type) where
  lane : LaneletId
  /-- The lanelets that count as the assigned one. -/
  associated : IdSet
  config : Config K
  firstAreas : FirstAreaCache K
  deriving DecidableEq

namespace Planner

variable {K : Type} [Scalar K]

/-! ## Making one and moving it -/

/-- The planner for an assigned lanelet and those that count as it. -/
def ofConfig (lane : LaneletId) (associated : IdSet) (config : Config K) :
    Outcome K (Planner K) := do
  config.validate.within (.configuring lane)
  return ⟨lane, associated.insert lane, config, FirstAreaCache.empty⟩

/-- **Assigns the planner to another lanelet** of the same intersection, with the planner as it is
afterwards. -/
def reassign (p : Planner K) (lane : LaneletId) : Outcome K Unit × Planner K :=
  if lane ∈ p.associated then (.ok (), { p with lane })
  else (Outcome.refuse (.notAssociated p.lane lane p.associated), p)

/-- The first areas known for the intersection. -/
def knownAreas (p : Planner K) : Option (FirstAreas K) := p.firstAreas.get? p.associated

/-! ## One cycle -/

/-- What a cycle knows once the path has been found to come to the intersection. -/
structure Scene (K : Type) where
  assigned : Lanelet K
  sampled : SampledPath K
  /-- The lanelets that the planned path passes. -/
  onPath : List LaneletId
  /-- The lanelets around the vehicle. -/
  surroundings : Surroundings K

/-- What there is to plan for, unless the path does not come to the intersection. -/
def look (p : Planner K) (s : Snapshot K) : Outcome K (Option (Scene K)) := do
  match s.map.lanelet? p.lane with
  | none => Outcome.refuse (.assignedNotInMap p.lane)
  | some assigned =>
    match ← SampledPath.ofPath p.lane p.associated s.path p.config.common.pathSpacing with
    | none => return none
    | some sampled =>
      let onPath := s.path.laneSequence
      let surroundings ← Surroundings.classify s.map p.lane onPath p.associated
        p.config.common.attentionLength p.config.occlusion.attentionLength
        p.config.common.wrongDirection
      return some { assigned, sampled, onPath, surroundings }

/-- Looks for stuck vehicles along the lane of the vehicle. -/
def findStuck (c : Config K) (s : Snapshot K) (lane : Option (EgoLane K)) (sketch : Sketch K) :
    Outcome K (Bool × Sketch K) := do
  match lane with
  | none => return (false, sketch)
  | some lane =>
    let sketch := { sketch with egoLane := some lane.toExit.region }
    match ← lane.stuckArea c.stuck.reach with
    | none => return (false, sketch)
    | some area =>
      let (stuck, sketch) ← s.perception.checkStuck area c.stuck.speedLimit lane.all c sketch
      return (stuck, { sketch with stuckArea := some area })

/-- Looks for what is hidden on the lanelets to be watched for it. -/
def findOcclusion (p : Planner K) (s : Snapshot K) (perception : Perception K)
    (watched : LaneGroup K) (path : Path K) (sketch : Sketch K) :
    Outcome K (Option (Occlusion K) × Sketch K) := do
  let lanes ← (SlicedLane.ofMap s.map watched.ids p.config.occlusion.resolution).within
    (.discretizing p.lane)
  let obstacles := (← perception.objects.mapM RoadUser.footprint).filterMap fun o => o
  Occlusion.find lanes obstacles s.ego.pose.position p.config.occlusion.sensingRange
    (← path.polyline) sketch

/-- The last of the stop lines that there are, or the end of the intersection. -/
def lastIndex (lines : StopLines) (interval : Nat × Nat) : Nat :=
  let present :=
    [lines.stuck, lines.default, lines.firstAttention, lines.peeking].filterMap fun i => i
  present.max?.getD interval.2

/-- The poses to draw at the stop lines. -/
def drawWalls (path : Path K) (lines : StopLines) (stuck : Bool) (sketch : Sketch K) :
    Outcome K (Sketch K) := do
  let wall (i : Option Nat) : Outcome K (Option (Pose K)) :=
    i.mapM fun i => Waypoint.pose <$> path.point i
  return { sketch with
    stuckWall := ← wall (if stuck then lines.stuck else none)
    collisionWall := ← wall lines.default
    firstAttentionWall := ← wall lines.firstAttention
    peekingWall := ← wall lines.peeking
    passJudgeWall := ← wall (some lines.passJudge) }

/-- The rest of a cycle, once the first areas are known. -/
def work (p : Planner K) (s : Snapshot K) (scene : Scene K) (around : Surroundings K) :
    Outcome K (Cycle K) := do
  let c := p.config
  let sampled := scene.sampled
  let path := sampled.path
  let closest ← match ← path.nearest s.ego.pose.position with
    | some i => pure i
    | none => Outcome.refuse (.emptyPath p.lane)
  let mapLine := (← scene.assigned.stopLine.mapM fun l => StopLines.ofMap sampled l).join
  let firstConflicting := around.firstConflicting.map Region.contains
  let firstAttention := around.firstAttention.map Region.contains
  let lines ← StopLines.plan sampled firstConflicting firstAttention mapLine closest c
  let priority := Priority.ofLanelet scene.assigned s.signals
  let view := AttentionView.ofPriority priority
  let attention := around.attentionIn view
  let sketch : Sketch K := {
    attentionAreas := some attention.areas
    occlusionAreas := some (around.occlusionIn view).areas
    adjacentAreas := some around.adjacent.areas
    firstAttentionArea := around.firstAttention
    intersectionArea := s.map.intersectionArea scene.assigned }
  let lane ← firstConflicting.mapM fun first =>
    EgoLane.ofPath s.map scene.onPath sampled first (around.conflicting.areas.map Region.contains)
      firstAttention (attention.areas.map Region.contains) closest c.vehicle.width
  let (stuck, sketch) ← findStuck c s lane.join sketch
  let perception ← s.perception.cut s.now c.collision.horizon
  let (targets, sketch) ← perception.targets (← attention.lanelets s.map) c sketch
  let (occlusion, sketch) ←
    if c.occlusion.enabled && priority ≠ .fully then
      p.findOcclusion s perception (around.occlusionIn view) path sketch
    else pure (none, sketch)
  let times ← (PassingTime.ofConfig c s.ego.velocity).profile path closest
    (lastIndex lines sampled.interval)
  let sketch ← drawWalls path lines stuck sketch
  let distance ← path.distanceUntil scene.assigned closest
  let overPassJudge ← StopLines.isOver path closest s.ego.pose lines.passJudge
  return {
    path, stopLines := lines, priority, stuck, targets := targets.map RoadUser.id
    occlusion, times, distance, overPassJudge, sketch }

/-- **One planning cycle**, with the planner as it is afterwards.  There is no result when the
path does not come to the intersection. -/
def plan (p : Planner K) (s : Snapshot K) : Outcome K (Option (Cycle K)) × Planner K :=
  match p.look s with
  | .error f => (.error f, p)
  | .ok none => (.ok none, p)
  | .ok (some scene) =>
    let (around, firstAreas) := p.firstAreas.apply scene.surroundings scene.sampled
    let result := do
      return some (← p.work s scene (← around))
    (result, { p with firstAreas })

end Planner

end Crossing
