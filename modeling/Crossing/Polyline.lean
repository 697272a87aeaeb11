import Crossing.Segment
import Crossing.Chain

/-!
# Polylines

A polyline is a list of points with the length of the way through them.  `Polyline.ofPoints`
refuses points that follow each other too closely, and `Polyline.ofThinned` first drops those.
Because the two agree on what is too close, and segments only refuse what is closer still, all
segments of a polyline exist.

Places on a polyline are given by the distance from its start.  Every walk along it subtracts
or adds the rounded lengths of its segments one after the other, which is how its length was
made too.
-/

namespace Crossing

/-- A way through two or more points. -/
structure Polyline (K : Type) where
  points : List (Point K)
  length : Distance K
  deriving DecidableEq, Inhabited

namespace Polyline

variable {K : Type} [Scalar K]

/-! ## Making one -/

/-- The length of the way through some points. -/
def wayLength (points : List (Point K)) : Outcome K (Distance K) :=
  (Chain.links points).foldlM (fun d (a, b) => do d.add (← a.distance b)) Distance.zero

/-- The polyline through some points. -/
def ofPoints (points : List (Point K)) : Outcome K (Polyline K) := do
  if points.length < 2 then Outcome.refuse .fewPoints
  else
    let length ← wayLength points
    if ← (Chain.links points).anyM fun (a, b) => a.isSame b then Outcome.refuse .crowdedPoints
    else return ⟨points, length⟩

/-- The polyline through some points, without those too close to the last one kept. -/
def ofThinned (points : List (Point K)) : Outcome K (Polyline K) := do
  ofPoints (← Chain.thin Point.isSame points)

/-! ## Its parts -/

def segments (pl : Polyline K) : Outcome K (List (Segment K)) :=
  (Chain.links pl.points).mapM fun (a, b) => (Segment.between a b).insist

def first (pl : Polyline K) : Outcome K (Point K) :=
  Outcome.demand (.outsidePath 0) pl.points.head?

def last (pl : Polyline K) : Outcome K (Point K) :=
  Outcome.demand .nothingToChoose pl.points.getLast?

/-! ## Places at a distance from the start -/

/-- Walks a distance along segments: the point reached and the direction there.  The last
segment takes whatever is left, up to its end. -/
def walk : List (Segment K) → Distance K → Outcome K (Point K × Angle K)
  | [], _ => Outcome.breach .nothingToChoose
  | s :: rest, left => do
    let length ← s.length
    if left ≤ length || rest.isEmpty then
      let left := if length < left then length else left
      return (← s.atDistance left, ← s.angle)
    else walk rest (← left.sub length)

/-- The point at a distance from the start and the direction there; an epsilon past the end is
tolerated. -/
def pointAt (pl : Polyline K) (d : Distance K) : Outcome K (Point K × Angle K) := do
  if d < Distance.zero then Outcome.refuse (.beforeStart d)
  else if (← pl.length.add Distance.epsilon) < d then Outcome.refuse (.pastEnd d pl.length)
  else walk (← pl.segments) d

/-- Multiples of `stride` from `d` on, as long as they stay an epsilon short of the length. -/
def strides (pl : Polyline K) (stride : Distance K) :
    (fuel : Nat) → (d : Distance K) → Outcome K (List (Distance K))
  | 0, _ => .ok []
  | fuel + 1, d => do
    if d < (← pl.length.sub Distance.epsilon) then
      return d :: (← pl.strides stride fuel (← d.add stride))
    else return []

/-- How many strides a polyline can take at most: the length over the rounded stride, twice,
because a stride that is added to a distance can lose up to half of itself to rounding. -/
def strideBound (pl : Polyline K) (stride : Distance K) : Nat :=
  2 * Scalar.ceilNat (pl.length.metres / Scalar.quantize stride.metres) + 2

/-- The distances zero, one stride, two strides and so on, and at last the full length. -/
def strideDistances (pl : Polyline K) (stride : Distance K) : Outcome K (List (Distance K)) := do
  if Distance.zero < stride then
    return (← pl.strides stride (pl.strideBound stride) Distance.zero) ++ [pl.length]
  else Outcome.breach .strideNotPositive

/-! ## The closest place -/

/-- The best place found so far when looking for the one closest to a point. -/
structure Closest (K : Type) where
  /-- How far it is from the point. -/
  off : Distance K
  /-- How far along the polyline it is. -/
  along : Distance K
  place : Point K

/-- The closest place among segments that begin at the distance `sofar`; an earlier place stays
when a later one is not strictly closer. -/
def closestAmong (p : Point K) :
    List (Segment K) → (sofar : Distance K) → Option (Closest K) → Outcome K (Option (Closest K))
  | [], _, best => .ok best
  | s :: rest, sofar, best => do
    let hit ← s.closest p
    let off ← hit.distance p
    let better := (best.map fun b => decide (off < b.off)).getD true
    let best ← if better then
        pure (some ⟨off, ← sofar.add (← s.start.distance hit), hit⟩)
      else pure best
    closestAmong p rest (← sofar.add (← s.length)) best

/-- The place closest to a point, with its distance from the start. -/
def project (pl : Polyline K) (p : Point K) : Outcome K (Distance K × Point K) := do
  let best ← Outcome.demand .nothingToChoose
    (← closestAmong p (← pl.segments) Distance.zero none)
  return (best.along, best.place)

/-- The direction at the place closest to a point. -/
def angleNear (pl : Polyline K) (p : Point K) : Outcome K (Angle K) := do
  let (d, _) ← pl.project p
  return (← (pl.pointAt d).insist).2

def text [Numeral K] (pl : Polyline K) : String :=
  "PolyLine::new(vec![\n" ++
    String.join (pl.points.map fun p => "  Pt2D::new(" ++ p.coordinates ++ "),\n") ++ "])"

end Polyline

end Crossing
