import Crossing.Angle

/-!
# Points and poses

Every point that is computed is built by `Point.ofCoordinates`, which demands two finite
coordinates; coordinates are not rounded.  Distances between points are rounded like all
distances, so two points can lie at distance zero without being the same.
-/

namespace Crossing

variable {K : Type} [Scalar K]

namespace Point

/-- The point with these coordinates. -/
def ofCoordinates (x y : K) : Outcome K (Point K) :=
  if Scalar.isFinite x && Scalar.isFinite y then .ok ⟨x, y⟩
  else Outcome.breach (.pointNotFinite x y)

/-- The distance between two points. -/
def distance (a b : Point K) : Outcome K (Distance K) :=
  Distance.ofMetres (Scalar.sqrt (Scalar.square (a.x - b.x) + Scalar.square (a.y - b.y)))

/-- Are two points at most `threshold` apart? -/
def isNear (a b : Point K) (threshold : Distance K) : Outcome K Bool :=
  return (← a.distance b) ≤ threshold

/-- Do two points count as the same? -/
def isSame (a b : Point K) : Outcome K Bool := a.isNear b Distance.epsilon

/-- The direction from one point to another. -/
def direction (a b : Point K) : Outcome K (Angle K) :=
  Angle.ofRadians (Scalar.atan2 (b.y - a.y) (b.x - a.x))

/-- The point moved along both axes. -/
def offset (p : Point K) (dx dy : K) : Outcome K (Point K) := ofCoordinates (p.x + dx) (p.y + dy)

/-- The point at a distance in a direction. -/
def projectAway (p : Point K) (d : Distance K) (direction : Angle K) : Outcome K (Point K) :=
  let r := direction.normalized
  ofCoordinates (p.x + d.metres * Scalar.cos r) (p.y + d.metres * Scalar.sin r)

/-- The point between two points, or on the line through them: `0` is the first, `1` the
second. -/
def lerp (a b : Point K) (part : K) : Outcome K (Point K) :=
  ofCoordinates (a.x + part * (b.x - a.x)) (a.y + part * (b.y - a.y))

end Point

namespace Pose

/-- A point of the world as seen from the pose: metres ahead and metres to the left. -/
def toLocal (pose : Pose K) (p : Point K) : K × K :=
  let dx := p.x - pose.position.x
  let dy := p.y - pose.position.y
  let r := pose.yaw.normalized
  let sin := Scalar.sin r
  let cos := Scalar.cos r
  (dx * cos + dy * sin, -dx * sin + dy * cos)

/-- The point of the world that is so far ahead of the pose and so far to its left. -/
def toWorld (pose : Pose K) (ahead left : Distance K) : Outcome K (Point K) :=
  let r := pose.yaw.normalized
  let sin := Scalar.sin r
  let cos := Scalar.cos r
  pose.position.offset (ahead.metres * cos - left.metres * sin)
    (ahead.metres * sin + left.metres * cos)

/-- Is the other pose strictly ahead? -/
def isBehind (pose other : Pose K) : Bool := 0.0 < (pose.toLocal other.position).1

/-- The same position, facing the other way. -/
def reversed (pose : Pose K) : Pose K := ⟨pose.position, pose.yaw.opposite⟩

/-- How displays write a pose. -/
def text [Numeral K] (pose : Pose K) : String :=
  "Pose(" ++ pose.position.text ++ ", " ++ pose.yaw.text ++ ")"

end Pose

end Crossing
