import Crossing.StopLine
import Crossing.RoadMap
import Crossing.Lanelet.Span
import Crossing.Polyline.Shift

/-!
# The lane of the vehicle

The vehicle does not keep to the lanelets of the map, so its own lane is made from the sampled
path: `EgoLane.between` lays a lanelet of a given width along a range of samples.  `EgoLane`
cuts the whole drive at the places that matter: the start of the intersection, the vehicle, the
end of the intersection, and the part on which other traffic can be in the way.

A range that is too short for a lanelet has none.  Most parts may be missing; without the part
from the vehicle to the end of the intersection, or without the part in conflict, there is no
lane at all.
-/

namespace Crossing

/-- The lanes that the vehicle drives on around an intersection. -/
structure EgoLane (K : Type) where
  /-- The lanelets of the map before the intersection. -/
  before : List (Lanelet K)
  /-- From the start of the intersection to the vehicle, when it is already inside. -/
  entryToEgo : Option (Lanelet K)
  /-- From the vehicle, or from the start of the intersection when the vehicle is not there yet,
  to the end of the intersection. -/
  toExit : Lanelet K
  /-- The lane behind the intersection; missing when the path ends inside. -/
  next : Option (Lanelet K)
  /-- The part in conflict, and then what is left of the intersection. -/
  conflictAndRest : List (Lanelet K)

namespace EgoLane

variable {K : Type} [Scalar K]

/-! ## A lanelet along the path -/

/-- How far apart the points of a lanelet made from the path are. -/
def pointSpacing : Distance K := ⟨1.5⟩

/-- The points after `here` that a lanelet is made from: the last one, and each that has come
far enough since the one before.  `since` is the way since then. -/
def guidePoints (here : Point K) (since : Distance K) : List (Point K) → Outcome K (List (Point K))
  | [] => .ok []
  | p :: rest => do
    let since ← since.add (← here.distance p)
    if rest.isEmpty || pointSpacing ≤ since then
      return p :: (← guidePoints p Distance.zero rest)
    else guidePoints p since rest

/-- A lanelet along points of the path. -/
def along (lane : LaneletId) (points : List (Point K)) (width : Distance K) :
    Outcome K (Lanelet K) := do
  let centre ← Polyline.ofThinned points
  let half ← width.half
  Lanelet.ofBounds lane (← centre.shiftLeft half) (← centre.shiftRight half)

/-- **The lanelet along a range of samples**, unless the range is too short. -/
def between (s : SampledPath K) (start finish : Nat) (width : Distance K) :
    Outcome K (Option (Lanelet K)) := do
  if finish ≤ start || s.path.size ≤ finish then return none
  else
    let points := ((s.path.points.drop start).take (finish + 1 - start)).map Waypoint.position
    match points with
    | [] => return none
    | first :: rest =>
      let guide ← guidePoints first Distance.zero rest
      (along s.lane (first :: guide) width).tolerate

/-! ## The parts of the drive -/

/-- The lanelets of the map on the way to the first that belongs to the intersection. -/
def lanesBefore (map : RoadMap K) (onPath : List LaneletId) (associated : IdSet) :
    List (Lanelet K) :=
  (onPath.takeWhile (· ∉ associated)).filterMap map.lanelet?

/-- The lane that the path is on when it leaves the intersection. -/
def laneAfter (s : SampledPath K) (width : Distance K) : Outcome K (Option (Lanelet K)) := do
  let last := s.interval.2
  if last < s.path.size - 1 then
    match (← s.path.point last).lanes.head? with
    | none => return none
    | some id =>
      match s.path.laneInterval (IdSet.ofList [id]) with
      | none => return none
      | some (start, finish) => between s start finish width
  else return none

/-- Where the path is first and last inside the areas in conflict: the watched ones when a first
of those is known, and otherwise the conflicting ones. -/
def conflictRange (s : SampledPath K) (firstConflicting : Inside K) (conflicting : List (Inside K))
    (firstAttention : Option (Inside K)) (attention : List (Inside K)) :
    Outcome K (Option (Nat × Nat)) := do
  let (first, all) := match firstAttention with
    | some area => (area, attention)
    | none => (firstConflicting, conflicting)
  match ← s.path.firstInside s.interval first true with
  | none => return none
  | some start =>
    match ← s.path.firstInsideAny s.interval all false with
    | none => return none
    | some (finish, _) => return some (start, finish)

/-- The part in conflict and what is left of the intersection behind it; a single sample in
conflict takes the next one along, so that there is a range. -/
def conflictLanes (s : SampledPath K) (range : Nat × Nat) (width : Distance K) :
    Outcome K (Option (List (Lanelet K))) := do
  let last := s.interval.2
  let finish := if range.1 = range.2 && range.2 < last then range.2 + 1 else range.2
  match ← between s range.1 finish width with
  | none => return none
  | some conflict =>
    if finish < last then return some (conflict :: (← between s finish last width).toList)
    else return some [conflict]

/-- **The lanes of the vehicle**, unless the path never enters a conflicting area. -/
def ofPath (map : RoadMap K) (onPath : List LaneletId) (s : SampledPath K)
    (firstConflicting : Inside K) (conflicting : List (Inside K))
    (firstAttention : Option (Inside K)) (attention : List (Inside K))
    (closest : Nat) (width : Distance K) : Outcome K (Option (EgoLane K)) := do
  let (start, last) := s.interval
  let entryToEgo ← if start < closest then between s start closest width else pure none
  match ← between s (max closest start) last width with
  | none => return none
  | some toExit =>
    let next ← laneAfter s width
    match ← conflictRange s firstConflicting conflicting firstAttention attention with
    | none => return none
    | some range =>
      return (← conflictLanes s range width).map fun conflictAndRest =>
        { before := lanesBefore map onPath s.associated
          entryToEgo, toExit, next, conflictAndRest }

/-! ## What they give -/

/-- All lanes in the order in which they are driven on. -/
def all (e : EgoLane K) : List (Lanelet K) :=
  e.before ++ e.entryToEgo.toList ++ [e.toExit] ++ e.next.toList

/-- **The area to look for stuck vehicles**: from the start of the part in conflict through the
rest of the intersection, and `reach` into the lane behind it. -/
def stuckArea (e : EgoLane K) (reach : Distance K) : Outcome K (Option (Region K)) := do
  let length ← Distance.sum (e.conflictAndRest.map Lanelet.length)
  Lanelet.span (e.conflictAndRest ++ e.next.toList) Distance.zero (← length.add reach)

end EgoLane

end Crossing
