import Crossing.CrossSection
import Crossing.Sketch

/-!
# What is hidden

On each cross section of a lane, the first point from the left that cannot be seen is a **hit**:
a point out of range, or inside an obstacle.  The hit that matters is the one that the vehicle
comes to first, measured where the path is closest to it; of equal ones the earliest.  Points in
range are hidden by the first obstacle that holds them, and those obstacles are drawn.
-/

namespace Crossing

/-- A hidden point, seen from the path. -/
structure Occlusion (K : Type) where
  /-- The point that cannot be seen. -/
  occluded : Point K
  /-- The place of the path that is closest to it. -/
  projection : Point K
  /-- How far along the path that is. -/
  along : Distance K
  deriving DecidableEq

/-- The first point of a cross section that cannot be seen. -/
structure Hit (K : Type) where
  point : Point K
  /-- The obstacle that hides it, unless it is out of range. -/
  obstacle : Option Nat
  deriving DecidableEq

namespace Occlusion

variable {K : Type} [Scalar K]

/-- Why a point cannot be seen, if it cannot. -/
def hitAt (obstacles : List (Region K)) (ego : Point K) (range : Distance K) (p : Point K) :
    Outcome K (Option (Hit K)) := do
  if range < (← p.distance ego) then return some ⟨p, none⟩
  else
    let found ← obstacles.zipIdx.findM? fun (o, _) => o.contains p
    return found.map fun (_, i) => ⟨p, some i⟩

/-- The hit of a cross section, with its place on the path. -/
def ofDivision (obstacles : List (Region K)) (ego : Point K) (range : Distance K)
    (path division : Polyline K) : Outcome K (Option (Hit K × Occlusion K)) := do
  match ← division.points.findSomeM? (hitAt obstacles ego range) with
  | none => return none
  | some hit =>
    let (along, projection) ← path.project hit.point
    return some (hit, ⟨hit.point, projection, along⟩)

/-- The hidden point that comes first on the path. -/
def nearest : List (Occlusion K) → Option (Occlusion K)
  | [] => none
  | o :: rest =>
    some (rest.foldl (fun best o => if o.along < best.along then o else best) o)

/-- **The hidden point that the vehicle comes to first**, if anything is hidden.  It goes into
the drawing, and so do the obstacles that hide something. -/
def find (lanes : List (SlicedLane K)) (obstacles : List (Region K)) (ego : Point K)
    (range : Distance K) (path : Polyline K) (sketch : Sketch K) :
    Outcome K (Option (Occlusion K) × Sketch K) := do
  let hits ← (lanes.flatMap SlicedLane.divisions).mapM (ofDivision obstacles ego range path)
  let hits := hits.filterMap fun hit => hit
  let blocking := hits.filterMap fun (hit, _) => hit.obstacle
  let best := nearest (hits.map Prod.snd)
  return (best, { sketch with
    blockingObstacles := sketch.blockingObstacles ++
      obstacles.zipIdx.filterMap fun (o, i) => if i ∈ blocking then some o else none
    nearestOcclusion := best.map fun b => (b.occluded, b.projection) })

end Occlusion

end Crossing
