import Crossing.RoadMap
import Crossing.Routing.Order

/-!
# Lanes in cross sections

To see what is hidden on a lane, the lane is cut across at equal distances, and each cut from
the left to the right boundary is a line of points.  Lanelets that turn are left out; the others
are listed in flow order.

A place where the lane has no width has no cross section.  A lanelet that ends up with fewer
than two of them is refused.
-/

namespace Crossing

/-- A lanelet cut across. -/
structure SlicedLane (K : Type) where
  lane : LaneletId
  /-- The cross sections in the direction of travel, each from left to right. -/
  divisions : List (Polyline K)
  deriving DecidableEq

namespace SlicedLane

variable {K : Type} [Scalar K]

/-- The line from left to right across a lanelet at a distance, with points about `resolution`
apart, unless the lanelet has no width there. -/
def division (l : Lanelet K) (resolution d : Distance K) : Outcome K (Option (Polyline K)) := do
  let (left, right) ← l.crossSection d
  let width ← left.distance right
  if width < Distance.epsilon then return none
  else
    let steps := max (Scalar.ceilNat (← width.ratio resolution)) 1
    let points ← (List.range (steps + 1)).mapM fun i =>
      left.lerp right (Scalar.ofNat i / Scalar.ofNat steps)
    return some (← Polyline.ofThinned points)

/-- A lanelet cut across at distances `resolution` apart. -/
def ofLanelet (l : Lanelet K) (resolution : Distance K) : Outcome K (SlicedLane K) := do
  let cuts ← (← l.centerline.strideDistances resolution).mapM (division l resolution)
  let divisions := cuts.filterMap fun cut => cut
  if divisions.length < 2 then
    Outcome.refuse (.fewCrossSections l.id divisions.length resolution)
  else return ⟨l.id, divisions⟩

/-- Does a lanelet that has to be in the map go straight on? -/
def goesStraight (map : RoadMap K) (id : LaneletId) : Outcome K Bool :=
  match map.lanelet? id with
  | some l => .ok !l.isTurning
  | none => Outcome.refuse (.detectionNotInMap id)

/-- **The cross sections of the lanelets that do not turn**, in flow order. -/
def ofMap (map : RoadMap K) (ids : List LaneletId) (resolution : Distance K) :
    Outcome K (List (SlicedLane K)) := do
  if resolution ≤ Distance.zero then Outcome.refuse (.badResolution resolution)
  else
    let straight ← ids.filterM (goesStraight map)
    (map.routing.flowOrder straight).mapM fun id => do
      ofLanelet (← map.lanelet id) resolution

end SlicedLane

end Crossing
