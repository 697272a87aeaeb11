import Crossing.Polyline
import Crossing.Region
import Crossing.IdSet

/-!
# Lanelets

A lanelet is a piece of lane with one direction of travel, given by its two boundaries; traffic
flows from the first to the last point of both.  The centre line is sampled between points at
the same part of either boundary, about a metre apart, and the area is what the boundaries
enclose.  Both are computed once, when the lanelet is made.

Beside its shape a lanelet carries what the map says about it: how it turns inside an
intersection, its traffic light, its stop line, the area of its intersection, and the lanelets
that have to yield to it.
-/

namespace Crossing

/-- How a lanelet turns inside an intersection; lanelets elsewhere are `elsewhere`. -/
inductive TurnDirection where
  | straight
  | left
  | right
  | elsewhere
  deriving DecidableEq, Inhabited

/-- A piece of lane with one direction of travel. -/
structure Lanelet (K : Type) where
  id : LaneletId
  left : Polyline K
  right : Polyline K
  /-- The middle between the boundaries. -/
  centerline : Polyline K
  /-- How it turns inside an intersection. -/
  turn : TurnDirection
  /-- The light that controls it. -/
  light : Option LightId
  /-- Where to stop before it. -/
  stopLine : Option (Polyline K)
  /-- The area of the intersection that it belongs to. -/
  area : Option AreaId
  /-- The lanelets that must yield to it. -/
  yields : IdSet
  region : Region K
  deriving DecidableEq

namespace Lanelet

variable {K : Type} [Scalar K]

/-! ## Making one -/

/-- About how far apart the points of a centre line are. -/
def centerlineSpacing : Distance K := ⟨1.0⟩

/-- The point of a boundary at a part of its length. -/
def boundaryPoint (boundary : Polyline K) (part : K) : Outcome K (Point K) := do
  return (← boundary.pointAt (← boundary.length.scale part)).1

/-- The middle between two boundaries at a part of their lengths. -/
def middle (left right : Polyline K) (part : K) : Outcome K (Point K) := do
  (← boundaryPoint left part).lerp (← boundaryPoint right part) 0.5

/-- The line in the middle between two boundaries. -/
def centerlineBetween (left right : Polyline K) : Outcome K (Polyline K) := do
  let steps := max (Scalar.ceilNat (← (max left.length right.length).ratio centerlineSpacing)) 1
  Polyline.ofThinned
    (← (List.range (steps + 1)).mapM fun i =>
      middle left right (Scalar.ofNat i / Scalar.ofNat steps))

/-- The lanelet between two boundaries, about which the map says nothing else. -/
def ofBounds (id : LaneletId) (left right : Polyline K) : Outcome K (Lanelet K) := do
  let centerline ← (centerlineBetween left right).within (.centerlineOf id)
  let region ← (Region.ofBounds left right).within (.outlineOf id)
  return {
    id, left, right, centerline, region
    turn := .elsewhere, light := none, stopLine := none, area := none, yields := IdSet.empty }

/-! ## Asking one -/

def length (l : Lanelet K) : Distance K := l.centerline.length

def isTurning (l : Lanelet K) : Bool := l.turn = .left || l.turn = .right

/-- Is a point inside, or at most `margin` away? -/
def contains (l : Lanelet K) (p : Point K) (margin : Distance K) : Outcome K Bool :=
  return (← l.region.distanceTo p) ≤ margin

/-- The direction of travel closest to a point. -/
def directionAt (l : Lanelet K) (p : Point K) : Outcome K (Angle K) := l.centerline.angleNear p

/-- The points of the left and the right boundary at the same part of their lengths as a
distance is of the centre line. -/
def crossSection (l : Lanelet K) (d : Distance K) : Outcome K (Point K × Point K) := do
  let part := Scalar.clamp 0.0 1.0 (d.fractionOf l.length)
  return (← boundaryPoint l.left part, ← boundaryPoint l.right part)

end Lanelet

end Crossing
