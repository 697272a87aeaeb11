import Crossing.SampledPath
import Crossing.Config

/-!
# Stop lines

Where the vehicle may have to stop, as indices of the sampled path:

* the **stuck** line, for when a vehicle stands in the intersection or behind it;
* the **default** line, for traffic that conflicts: the map's line if it has one, and otherwise
  before the first conflicting area;
* the **first attention** line, just before the first watched area;
* the **peeking** line, a little inside it, from where more of it can be seen.

Those that exist are meant to be in this order.  Offsets from the place where the path enters an
area count up to the next sample when they move a line earlier, and down when they move it
later, so rounding never makes a stop less careful.  An offset that would lead to before the
start of the path leaves no line; only the stuck line then stays at the start.  Where a rule adds
two counts, their sum has to be a count itself.

Areas are looked at only through the question whether a point is inside (`Inside`).
-/

namespace Crossing

/-- The question whether a point is inside an area. -/
abbrev Inside (K : Type) := Point K → Outcome K Bool

/-- Where to stop, as indices of the sampled path. -/
structure StopLines where
  /-- The sample closest to the vehicle. -/
  closest : Nat
  /-- Where to wait for a stuck vehicle; missing when the path does not enter the first
  conflicting area. -/
  stuck : Option Nat
  /-- Where to wait for conflicting traffic; missing when it would be before the path. -/
  default : Option Nat
  /-- Just before the first watched area; missing when it would be before the path. -/
  firstAttention : Option Nat
  /-- A little inside the first watched area; missing when the path begins inside. -/
  peeking : Option Nat
  /-- Before here it has to be decided whether to stop. -/
  passJudge : Nat
  deriving DecidableEq

/-! ## The first sample inside -/

namespace Path

variable {K : Type}

/-- The waypoints of an interval with their indices, both ends included, as far as the path
goes; backward from the last one. -/
def window (path : Path K) (interval : Nat × Nat) (forward : Bool) : List (Waypoint K × Nat) :=
  let ws := (path.points.zipIdx.drop interval.1).take (interval.2 + 1 - interval.1)
  if forward then ws else ws.reverse

/-- The first index of an interval whose waypoint is inside an area. -/
def firstInside (path : Path K) (interval : Nat × Nat) (inside : Inside K) (forward : Bool) :
    Outcome K (Option Nat) := do
  return ((← (path.window interval forward).findM? fun (w, _) => inside w.position)).map Prod.snd

/-- The first area that a point is inside of. -/
def firstHolding (areas : List (Inside K)) (p : Point K) : Outcome K (Option Nat) := do
  return (← areas.zipIdx.findM? fun (inside, _) => inside p).map Prod.snd

/-- The first index of an interval whose waypoint is inside one of several areas, and the first
area that it is inside of. -/
def firstInsideAny (path : Path K) (interval : Nat × Nat) (areas : List (Inside K))
    (forward : Bool) : Outcome K (Option (Nat × Nat)) :=
  (path.window interval forward).findSomeM? fun (w, i) => do
    return (← firstHolding areas w.position).map fun j => (i, j)

end Path

/-! ## Which line is where -/

/-- The index so many samples earlier, unless that is before the start. -/
def earlier? (i steps : Nat) : Option Nat := if steps ≤ i then some (i - steps) else none

/-- The smaller of an index and a limit that may be missing. -/
def atMost (i : Nat) (limit : Option Nat) : Nat := (limit.map (min i)).getD i

/-- The larger of an index and a limit that may be missing. -/
def atLeast (i : Nat) (limit : Option Nat) : Nat := (limit.map (max i)).getD i

namespace StopLines

variable {K : Type} [Scalar K]

/-- Where to wait for a stuck vehicle when the path enters the conflicting area at `entry`. -/
def stuckLine (s : SampledPath K) (entry : Nat) (margin front : Distance K)
    (atLaneStart : Bool) : Outcome K Nat := do
  if atLaneStart then return s.interval.1
  else return entry - (← Outcome.addCounts (← s.stepsUp margin) (← s.stepsUp front))

/-- Where to wait for a stuck vehicle before an area, if the path enters it. -/
def stuckBefore (s : SampledPath K) (area : Inside K) (margin front : Distance K)
    (atLaneStart : Bool) : Outcome K (Option Nat) := do
  (← s.path.firstInside s.interval area true).mapM fun entry =>
    stuckLine s entry margin front atLaneStart

/-- Where the vehicle waits with its front at the map's line, unless that is before the stuck
line. -/
def atMapLine (mapLine stuck : Option Nat) (frontSteps : Nat) : Option Nat :=
  (mapLine.bind fun i => earlier? i frontSteps).filter fun i =>
    (stuck.map fun s => decide (s ≤ i)).getD true

/-- Where to wait for conflicting traffic: at the map's line if that counts, and otherwise before
the conflicting area; moved to between the stuck and the first attention line. -/
def defaultLine (mapLine conflictEntry stuck firstAttention : Option Nat)
    (marginSteps frontSteps : Nat) : Outcome K (Option Nat) := do
  let line ← match atMapLine mapLine stuck frontSteps, conflictEntry with
    | some i, _ => pure (some i)
    | none, some i => pure (earlier? i (← Outcome.addCounts marginSteps frontSteps))
    | none, none => pure none
  return line.map fun i => atMost (atLeast i stuck) firstAttention

/-- Where to peek into the first watched area that the path enters at `entry`: so many samples
further, but not past the last sample inside. -/
def peekingLine (s : SampledPath K) (area : Inside K) (entry : Nat) (offset : Distance K) :
    Outcome K (Option Nat) := do
  if ← area (← s.path.point s.interval.1).position then return none
  else
    let last := (← s.path.firstInside s.interval area false).getD entry
    return some (min (← Outcome.addCounts entry (← s.stepsDown offset)) last)

/-- Before where it has to be decided whether to stop. -/
def passJudgeLine (stuck firstAttention : Option Nat) : Nat :=
  match stuck, firstAttention with
  | some s, some f => min s f
  | some s, none => s
  | none, some f => f
  | none, none => 0

/-- **All stop lines** for the first conflicting area and the first watched area, as far as they
are known, and the map's stop line. -/
def plan (s : SampledPath K) (conflicting attention : Option (Inside K)) (mapLine : Option Nat)
    (closest : Nat) (c : Config K) : Outcome K StopLines := do
  let margin := c.common.stopMargin
  let marginSteps ← s.stepsUp margin
  let frontSteps ← s.stepsUp c.vehicle.front
  let entryOf (area : Inside K) := s.path.firstInside s.interval area true
  let conflictEntry := (← conflicting.mapM entryOf).join
  let attentionEntry := (← attention.mapM entryOf).join
  let firstAttention := attentionEntry.bind fun i => earlier? i marginSteps
  let stuck ← conflictEntry.mapM fun i => do
    return atMost (← stuckLine s i margin c.vehicle.front c.common.stopAtLaneStart)
      (firstAttention.or attentionEntry)
  let default ← defaultLine mapLine conflictEntry stuck firstAttention marginSteps frontSteps
  let peeking ← match attention, attentionEntry with
    | some area, some entry => peekingLine s area entry c.occlusion.peekingOffset
    | _, _ => pure none
  return {
    closest, stuck, default, firstAttention, peeking
    passJudge := passJudgeLine stuck firstAttention }

/-! ## The map's line, and which side of a line the vehicle is on -/

/-- Does a line cross the way between two points?  Nothing crosses a way that is too short. -/
def crossesWay (line : Polyline K) (a b : Point K) : Outcome K Bool := do
  match ← (Segment.between a b).tolerate with
  | some way => (← line.segments).anyM fun l => l.crosses way
  | none => return false

/-- The first index of the interval from which the way to the next sample crosses a line. -/
def ofMap (s : SampledPath K) (line : Polyline K) : Outcome K (Option Nat) := do
  let (first, last) := s.interval
  let ways := ((Chain.links s.path.points).zipIdx.drop first).take (last - first)
  let found ← ways.findM? fun ((a, b), _) => crossesWay line a.position b.position
  return found.map Prod.snd

/-- Has the vehicle passed an index?  At the index itself the poses decide. -/
def isOver (path : Path K) (closest : Nat) (pose : Pose K) (target : Nat) : Outcome K Bool := do
  if closest = target then return (← path.point target).pose.isBehind pose
  else return target < closest

/-- Is the vehicle still before an index?  At the index itself the poses decide. -/
def isBefore (path : Path K) (closest : Nat) (pose : Pose K) (target : Nat) : Outcome K Bool := do
  if closest = target then return pose.isBehind (← path.point target).pose
  else return closest < target

end StopLines

end Crossing
