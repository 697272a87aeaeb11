import Crossing.Lanelet

/-!
# The planned path

A path is a list of waypoints: poses with the velocity commanded there and the lanelets that the
waypoint lies on.  Its length is measured along straight lines from waypoint to waypoint.

`Path.laneInterval` finds where the path runs through some lanelets.  It takes the first run of
waypoints on one of them, and widens it by the waypoint before the run and the one after it, so
that the interval also covers the ways into and out of the lanelets.  What comes later, even if
it is on the same lanelets again, does not count.
-/

namespace Crossing

/-- A point of the planned path. -/
structure Waypoint (K : Type) where
  /-- Where it is and which way the path goes there. -/
  pose : Pose K
  /-- The commanded velocity. -/
  velocity : Speed K
  /-- The lanelets that it lies on. -/
  lanes : List LaneletId
  deriving DecidableEq

structure Path (K : Type) where
  /-- The waypoints in order. -/
  points : List (Waypoint K)
  deriving DecidableEq, Inhabited

namespace Waypoint

variable {K : Type}

/-- Where the waypoint is. -/
def position (w : Waypoint K) : Point K := w.pose.position

/-- Does the waypoint lie on one of the lanelets? -/
def isOn (w : Waypoint K) (ids : IdSet) : Bool := w.lanes.any (· ∈ ids)

end Waypoint

namespace Path

variable {K : Type}

/-- The number of waypoints. -/
def size (path : Path K) : Nat := path.points.length

/-- The waypoint at an index, which has to be on the path. -/
def point (path : Path K) (i : Nat) : Outcome K (Waypoint K) :=
  Outcome.demand (.outsidePath i) path.points[i]?

/-- The lanelets that the path passes, in the order in which it comes to them. -/
def laneSequence (path : Path K) : List LaneletId :=
  (path.points.flatMap Waypoint.lanes).foldl
    (fun seen id => if id ∈ seen then seen else seen ++ [id]) []

/-- **Where the path runs through some lanelets**: the first run of waypoints on them, with the
waypoint before it and the one after it.  There is none when no waypoint is on them, and none
when it would have a single index. -/
def laneInterval (path : Path K) (ids : IdSet) : Option (Nat × Nat) := do
  let entry ← path.points.findIdx? (·.isOn ids)
  let start := entry - 1
  let finish := match (path.points.drop entry).findIdx? (fun w => !w.isOn ids) with
    | some run => entry + run
    | none => path.size - 1
  if start < finish then some (start, finish) else none

section Length

variable [Scalar K]

/-- The distance between two waypoints. -/
def step (a b : Waypoint K) : Outcome K (Distance K) := a.position.distance b.position

/-- The distances along the path of the waypoints after `w`, which is at the distance `sofar`. -/
def arcsAfter (w : Waypoint K) (sofar : Distance K) : List (Waypoint K) →
    Outcome K (List (Distance K))
  | [] => .ok []
  | next :: rest => do
    let here ← sofar.add (← step w next)
    return here :: (← arcsAfter next here rest)

/-- The distance of each waypoint from the first, along the path. -/
def arcLengths (path : Path K) : Outcome K (List (Distance K)) :=
  match path.points with
  | [] => .ok []
  | w :: rest => return Distance.zero :: (← arcsAfter w Distance.zero rest)

/-- The distance along the path from one index to another; it is negative when the second lies
before the first. -/
def arcBetween (path : Path K) (start finish : Nat) : Outcome K (Distance K) := do
  let low := min start finish
  let high := max start finish
  if path.size ≤ high then Outcome.breach (.outsidePath high)
  else
    let piece := (path.points.drop low).take (high + 1 - low)
    let d ← Distance.sum (← (Chain.links piece).mapM fun (a, b) => step a b)
    if start ≤ finish then return d else d.neg

/-- The first of the pairs with the least distance. -/
def leastFirst : List (Distance K × Nat) → Option (Distance K × Nat)
  | [] => none
  | best :: rest => some (rest.foldl (fun best d => if d.1 < best.1 then d else best) best)

/-- The index of the waypoint closest to a point; of equally close ones the first. -/
def nearest (path : Path K) (p : Point K) : Outcome K (Option Nat) := do
  let distances ← path.points.zipIdx.mapM fun (w, i) => return (← w.position.distance p, i)
  return (leastFirst distances).map Prod.snd

/-- The way of the path. -/
def polyline (path : Path K) : Outcome K (Polyline K) :=
  Polyline.ofThinned (path.points.map Waypoint.position)

end Length

end Path

end Crossing
