import Crossing.Path

/-!
# The way to the intersection

`distanceUntil` says how far the vehicle still has to go before it comes to a lanelet.  Away from
the lanelet that is the way along the path to the last waypoint before it.  At that waypoint it
is how far ahead the lanelet begins, as seen from there.  Nothing is left when the vehicle is
already on the lanelet, or when the path never comes there.
-/

namespace Crossing.Path

variable {K : Type} [Scalar K]

/-- How far ahead of a pose a lanelet begins; nothing when it begins behind. -/
def aheadOf (pose : Pose K) (l : Lanelet K) : Outcome K (Distance K) := do
  let (ahead, _) := pose.toLocal (← l.centerline.first)
  Distance.ofMetres (Scalar.positivePart ahead)

/-- **How far it is from an index to a lanelet.** -/
def distanceUntil (path : Path K) (l : Lanelet K) (closest : Nat) : Outcome K (Distance K) := do
  match path.points.findIdx? fun w => l.id ∈ w.lanes with
  | none => return Distance.zero
  | some entry =>
    if entry ≤ closest then return Distance.zero
    else if entry = closest + 1 then aheadOf (← path.point closest).pose l
    else path.arcBetween closest (entry - 1)

end Crossing.Path
