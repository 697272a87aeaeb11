import Crossing.Lanelet
import Crossing.Config
import Crossing.Sketch

/-!
# Other road users

An object is perceived with a pose, a velocity along its heading, a shape and predictions of
where it will be.  Three questions are asked about objects.

* Which vehicles are **stuck** in an area: slow, along one of the vehicle's lanes, and with an
  outline that meets the area.  A moving vehicle is never stuck.
* Which vehicles are on the **watched** lanelets and go along them.
* Which parts of the predictions lie within a **horizon**.

An object that reverses faces the other way for the first two (`facing`).
-/

namespace Crossing

inductive ObjectClass where
  | unknown
  | car
  | truck
  | bus
  | trailer
  | motorcycle
  | bicycle
  | pedestrian
  deriving DecidableEq

/-- Is this a vehicle that can block an intersection or collide with the vehicle inside? -/
def ObjectClass.isTarget : ObjectClass → Bool
  | .car | .truck | .bus | .trailer | .motorcycle | .bicycle => true
  | .unknown | .pedestrian => false

inductive Shape (K : Type) where
  /-- A box around its position, along its heading. -/
  | box (length width : Distance K)
  /-- An outline as seen from the object: metres ahead and metres to the left. -/
  | outline (corners : List (K × K))
  deriving DecidableEq

/-- One possible future of an object. -/
structure Prediction (K : Type) where
  poses : List (Pose K)
  /-- The time from one pose to the next. -/
  step : Duration K
  /-- How likely it is. -/
  confidence : K
  deriving DecidableEq

/-- A perceived object. -/
structure RoadUser (K : Type) where
  id : ObjectId
  kind : ObjectClass
  pose : Pose K
  /-- Its velocity along its heading. -/
  velocity : Speed K
  shape : Shape K
  predictions : List (Prediction K)
  deriving DecidableEq

/-- The objects perceived at a time. -/
structure Perception (K : Type) where
  /-- When the predictions were made. -/
  stamp : Duration K
  objects : List (RoadUser K)
  deriving DecidableEq

variable {K : Type} [Scalar K]

namespace RoadUser

/-- The outline of the object in the world; there is none where the shape encloses nothing. -/
def footprint (o : RoadUser K) : Outcome K (Option (Region K)) := do
  match o.shape with
  | .box length width =>
    if length ≤ Distance.zero || width ≤ Distance.zero then return none
    else return some (← Region.rectangle o.pose length width)
  | .outline corners =>
    let points ← corners.mapM fun (ahead, left) => do
      o.pose.toWorld (← Distance.ofMetres ahead) (← Distance.ofMetres left)
    (Region.ofOutline points).tolerate

/-- The pose of the object, facing the way in which it moves. -/
def facing (o : RoadUser K) : Pose K :=
  if o.velocity < Speed.zero then o.pose.reversed else o.pose

end RoadUser

/-! ## Going along a lane -/

/-- Is a pose on one of the lanelets, or within `margin` of it, and does it head along the lane
up to `threshold`?  With `wrongDirection`, heading against the lane counts too. -/
def Pose.isAlong (pose : Pose K) (lanelets : List (Lanelet K)) (threshold : Angle K)
    (wrongDirection : Bool) (margin : Distance K) : Outcome K Bool :=
  let limit := threshold.normalized
  lanelets.anyM fun l => do
    if ← l.contains pose.position margin then
      let deviation := (← l.directionAt pose.position).deviation pose.yaw
      return deviation < limit || (wrongDirection && Scalar.pi - deviation < limit)
    else return false

/-- Does an object go along one of the lanelets, by the settings? -/
def RoadUser.isAlong (o : RoadUser K) (lanelets : List (Lanelet K)) (c : Config K) :
    Outcome K Bool :=
  o.facing.isAlong lanelets c.common.attentionAngle c.common.wrongDirection c.common.attentionMargin

/-! ## The three questions -/

namespace Perception

/-- Is the object a vehicle that is stuck in the area? -/
def isStuck (area : Region K) (limit : Speed K) (lanelets : List (Lanelet K)) (c : Config K)
    (o : RoadUser K) : Outcome K Bool := do
  if !o.kind.isTarget || limit < o.velocity.abs then return false
  else if ← o.isAlong lanelets c then
    match ← o.footprint with
    | some outline => return outline.intersects area
    | none => return false
  else return false

/-- **Is a vehicle stuck in the area?**  Those that are go into the drawing. -/
def checkStuck (p : Perception K) (area : Region K) (limit : Speed K)
    (lanelets : List (Lanelet K)) (c : Config K) (sketch : Sketch K) :
    Outcome K (Bool × Sketch K) := do
  let stuck ← p.objects.filterM (isStuck area limit lanelets c)
  return (!stuck.isEmpty,
    { sketch with stuckTargets := sketch.stuckTargets ++ stuck.map RoadUser.id })

/-- **The vehicles that go along the watched lanelets.**  They go into the drawing. -/
def targets (p : Perception K) (lanelets : List (Lanelet K)) (c : Config K) (sketch : Sketch K) :
    Outcome K (List (RoadUser K) × Sketch K) := do
  let found ← p.objects.filterM fun o => do
    if o.kind.isTarget then o.isAlong lanelets c else return false
  return (found,
    { sketch with conflictingTargets := sketch.conflictingTargets ++ found.map RoadUser.id })

/-- Does pose number `i` of a prediction lie less than `horizon` after `now`? -/
def isWithin (stamp now horizon step : Duration K) (i : Nat) : Outcome K Bool := do
  let ahead ← (← stamp.add (← step.scale (Scalar.ofNat i))).sub now
  return ahead < horizon

/-- A prediction without the poses that lie beyond the horizon. -/
def cutPrediction (stamp now horizon : Duration K) (f : Prediction K) :
    Outcome K (Prediction K) := do
  let kept ← f.poses.zipIdx.filterM fun (_, i) => isWithin stamp now horizon f.step i
  return { f with poses := kept.map Prod.fst }

/-- **The objects with their predictions up to a horizon.** -/
def cut (p : Perception K) (now horizon : Duration K) : Outcome K (Perception K) := do
  let objects ← p.objects.mapM fun o => do
    return { o with predictions := ← o.predictions.mapM (cutPrediction p.stamp now horizon) }
  return { p with objects }

end Perception

end Crossing
