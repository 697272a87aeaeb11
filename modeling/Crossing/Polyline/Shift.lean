import Crossing.Polyline

/-!
# Polylines moved to the side

Each segment is moved along its normal, and neighbouring segments are joined where the lines
through them meet, so a corner stays a corner (a miter join).  Neighbours that are parallel keep
the end of the first.
-/

namespace Crossing.Polyline

variable {K : Type} [Scalar K]

/-- A point moved to the left of a normal by a width, which may be negative. -/
def shiftPoint (p : Point K) (width : Distance K) (normal : Angle K) : Outcome K (Point K) := do
  if width < Distance.zero then p.projectAway (← width.neg) normal.opposite
  else p.projectAway width normal

/-- A segment moved to its left; the ends are not checked again. -/
def shiftSegment (width : Distance K) (s : Segment K) : Outcome K (Segment K) := do
  let normal := (← s.angle).rotateDegrees 90.0
  return ⟨← shiftPoint s.start width normal, ← shiftPoint s.finish width normal⟩

/-- Where the lines through two segments meet, unless they are parallel. -/
def miter (a b : Segment K) : Outcome K (Option (Point K)) :=
  let rx := a.finish.x - a.start.x
  let ry := a.finish.y - a.start.y
  let sx := b.finish.x - b.start.x
  let sy := b.finish.y - b.start.y
  let cross := rx * sy - ry * sx
  if Scalar.magnitude cross < 1.0e-9 then .ok none
  else
    let t := ((b.start.x - a.start.x) * sy - (b.start.y - a.start.y) * sx) / cross
    some <$> a.atPart t

/-- The corner between two moved segments. -/
def corner (a b : Segment K) : Outcome K (Point K) := return (← miter a b).getD a.finish

/-- The polyline moved to its left by a width, which may be negative. -/
def shift (pl : Polyline K) (width : Distance K) : Outcome K (Polyline K) := do
  let moved ← (← pl.segments).mapM (shiftSegment width)
  let start ← Outcome.demand .nothingToChoose (moved.head?.map Segment.start)
  let corners ← (Chain.links moved).mapM fun (a, b) => corner a b
  let finish ← Outcome.demand .nothingToChoose (moved.getLast?.map Segment.finish)
  ofThinned (start :: corners ++ [finish])

/-- The polyline moved to its left. -/
def shiftLeft (pl : Polyline K) (width : Distance K) : Outcome K (Polyline K) := pl.shift width

/-- The polyline moved to its right. -/
def shiftRight (pl : Polyline K) (width : Distance K) : Outcome K (Polyline K) := do
  pl.shift (← width.neg)

end Crossing.Polyline
