import Crossing.Point

/-!
# Segments

A segment joins two points that do not count as the same.  Where two segments meet is computed
from the two parameters along them, and both parameters have to lie between zero and one, ends
included; nearly parallel segments meet nowhere.
-/

namespace Crossing

/-- A straight line between two points. -/
structure Segment (K : Type) where
  start : Point K
  finish : Point K
  deriving DecidableEq, Inhabited

namespace Segment

variable {K : Type} [Scalar K]

/-- The segment between two points, which must not be closer than the epsilon. -/
def between (a b : Point K) : Outcome K (Segment K) := do
  if (← a.distance b) < Distance.epsilon then Outcome.refuse (.shortSegment a b)
  else return ⟨a, b⟩

def length (s : Segment K) : Outcome K (Distance K) := s.start.distance s.finish

/-- The direction from the start to the end. -/
def angle (s : Segment K) : Outcome K (Angle K) := s.start.direction s.finish

/-- The point at a part of the way: `0` is the start, `1` the end. -/
def atPart (s : Segment K) (part : K) : Outcome K (Point K) := s.start.lerp s.finish part

/-- The point at a distance from the start; it may lie before the start or past the end. -/
def atDistance (s : Segment K) (d : Distance K) : Outcome K (Point K) := do
  s.atPart (← d.ratio (← s.length))

/-- At which part of the way the segment is closest to a point. -/
def closestPart (s : Segment K) (p : Point K) : K :=
  let dx := s.finish.x - s.start.x
  let dy := s.finish.y - s.start.y
  Scalar.clamp 0.0 1.0
    (((p.x - s.start.x) * dx + (p.y - s.start.y) * dy) / (dx * dx + dy * dy))

/-- The point of the segment that is closest to a point. -/
def closest (s : Segment K) (p : Point K) : Outcome K (Point K) := s.atPart (s.closestPart p)

/-- The distance from a point to the closest point of the segment. -/
def distanceTo (s : Segment K) (p : Point K) : Outcome K (Distance K) := do
  (← s.closest p).distance p

/-- Cross products nearer to zero than this count as parallel. -/
def parallelBound : K := 1.0 / 4503599627370496.0

/-- Is the number between zero and one, both included? -/
def isPart (t : K) : Bool := 0.0 ≤ t && t ≤ 1.0

/-- At which part of the first segment the two meet, if they do. -/
def crossingPart (s other : Segment K) : Option K :=
  let rx := s.finish.x - s.start.x
  let ry := s.finish.y - s.start.y
  let sx := other.finish.x - other.start.x
  let sy := other.finish.y - other.start.y
  let cross := rx * sy - ry * sx
  if Scalar.magnitude cross < parallelBound then none
  else
    let qx := other.start.x - s.start.x
    let qy := other.start.y - s.start.y
    let t := (qx * sy - qy * sx) / cross
    let u := (qx * ry - qy * rx) / cross
    if isPart t && isPart u then some t else none

/-- The point where two segments meet; touching ends count, parallel segments never meet. -/
def crossing (s other : Segment K) : Outcome K (Option (Point K)) :=
  (s.crossingPart other).mapM s.atPart

def crosses (s other : Segment K) : Outcome K Bool := return (← s.crossing other).isSome

def text [Numeral K] (s : Segment K) : String :=
  "Line::new(\n  Pt2D::new(" ++ s.start.coordinates ++ "),\n  Pt2D::new(" ++
    s.finish.coordinates ++ "),\n)"

end Segment

end Crossing
