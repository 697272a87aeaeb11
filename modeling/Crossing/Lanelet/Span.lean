import Crossing.Lanelet
import Crossing.Polyline.Slice

/-!
# The area along consecutive lanelets

`Lanelet.span` gives the area that a row of lanelets covers between two distances along their
joined centre lines.  Each lanelet contributes the piece of either boundary that corresponds to
its share of the range, and the pieces of a side are joined end to end.

A lanelet outside the range contributes nothing, and neither does a piece too short to be cut
out.  What is left may be too little to enclose anything; then there is no area.
-/

namespace Crossing.Lanelet

variable {K : Type} [Scalar K]

/-- The points of the piece of a boundary between two parts of its length; none where the piece
is too short. -/
def boundaryPiece (boundary : Polyline K) (start finish : K) : Outcome K (List (Point K)) := do
  let piece ← (boundary.slice (← boundary.length.scale start)
    (← boundary.length.scale finish)).tolerate
  return (piece.map Polyline.points).getD []

/-- The points of the left and the right boundary between two distances along a row of lanelets
that begins at the distance `travelled`. -/
def spanBounds (start finish : Distance K) :
    List (Lanelet K) → (travelled : Distance K) → Outcome K (List (Point K) × List (Point K))
  | [], _ => .ok ([], [])
  | l :: rest, travelled => do
    let entry ← start.sub travelled
    let exit ← finish.sub travelled
    let next ← travelled.add l.length
    if exit ≤ Distance.zero || l.length ≤ entry then spanBounds start finish rest next
    else
      let first := (max entry Distance.zero).fractionOf l.length
      let last := (min exit l.length).fractionOf l.length
      let left ← boundaryPiece l.left first last
      let right ← boundaryPiece l.right first last
      let (lefts, rights) ← spanBounds start finish rest next
      return (left ++ lefts, right ++ rights)

/-- **The area of a row of lanelets between two distances along it**; the distances are first
moved into the row. -/
def span (lanelets : List (Lanelet K)) (start finish : Distance K) :
    Outcome K (Option (Region K)) := do
  let low := max start Distance.zero
  let high := min finish (← Distance.sum (lanelets.map length))
  if high ≤ low then return none
  else
    let (lefts, rights) ← spanBounds low high lanelets Distance.zero
    Outcome.tolerate do
      Region.ofBounds (← Polyline.ofThinned lefts) (← Polyline.ofThinned rights)

end Crossing.Lanelet
