import Crossing.Path

/-!
# The path sampled at a fixed spacing

Planning counts in indices, so it first lays a path with equal spacing over the planned one.
`SampledPath` is that path together with where it runs through the lanelets of the intersection.

Sample `k` lies `k` times the spacing along the planned path, so spacing does not begin anew at
each waypoint.  It takes its heading from the stretch that it lies on, and its velocity and
lanelets from the waypoint that the stretch begins with.  The last waypoint of the planned path
is always the last sample; the sample before it goes when it is too close.

Distances in metres become counts of samples in two ways: `stepsUp` for offsets that move a stop
earlier, `stepsDown` for offsets that move it later.  A distance of more samples than can be counted
becomes the largest count.
-/

namespace Crossing

/-- A path sampled at a fixed spacing, and where it runs through an intersection. -/
structure SampledPath (K : Type) where
  /-- The samples. -/
  path : Path K
  /-- How far apart the samples are. -/
  spacing : Distance K
  /-- The lanelet of the intersection that the vehicle is assigned to. -/
  lane : LaneletId
  /-- The lanelets that count as that one. -/
  associated : IdSet
  /-- The first and the last index of the run through those lanelets. -/
  interval : Nat × Nat
  deriving DecidableEq

/-- The way between two waypoints that are some distance apart. -/
structure Stretch (K : Type) where
  start : Waypoint K
  finish : Waypoint K
  /-- How far along the path it begins. -/
  along : Distance K
  /-- How long it is. -/
  length : Distance K

namespace SampledPath

variable {K : Type} [Scalar K]

/-! ## Stretches -/

/-- The stretches between consecutive waypoints, from the distance `along` on, and the distance
at which they end. -/
def stretches : List (Waypoint K × Waypoint K) → (along : Distance K) →
    Outcome K (List (Stretch K) × Distance K)
  | [], along => .ok ([], along)
  | (a, b) :: rest, along => do
    let length ← Path.step a b
    if length.isZero then stretches rest along
    else
      let (later, total) ← stretches rest (← along.add length)
      return (⟨a, b, along, length⟩ :: later, total)

/-- Stretches from the last one on that begins no later than a distance. -/
def advance (d : Distance K) : List (Stretch K) → List (Stretch K)
  | s :: next :: rest => if next.along ≤ d then advance d (next :: rest) else s :: next :: rest
  | rest => rest

/-! ## Samples -/

/-- The sample at a distance that lies on a stretch. -/
def sampleOn (s : Stretch K) (d : Distance K) : Outcome K (Waypoint K) := do
  let position ← s.start.position.lerp s.finish.position (← (← d.sub s.along).ratio s.length)
  let yaw ← s.start.position.direction s.finish.position
  return ⟨⟨position, yaw⟩, s.start.velocity, s.start.lanes⟩

/-- The samples from number `k` on, up to the distance `total`; the stretches are those that the
samples still lie on. -/
def samplesFrom (spacing total : Distance K) :
    (fuel k : Nat) → List (Stretch K) → Outcome K (List (Waypoint K))
  | 0, _, _ => .ok []
  | fuel + 1, k, remaining => do
    let d ← spacing.scale (Scalar.ofNat k)
    if total ≤ d then return []
    else
      match advance d remaining with
      | [] => Outcome.breach (.outsidePath k)
      | s :: rest =>
        let sample ← sampleOn s d
        return sample :: (← samplesFrom spacing total fuel (k + 1) (s :: rest))

/-- How many samples fit on a path at most. -/
def sampleBound (spacing total : Distance K) : Nat :=
  Scalar.ceilNat ((total.metres + 0.0001) / spacing.metres) + 2

/-- The samples with the last waypoint of the planned path behind them. -/
def close (samples : List (Waypoint K)) (last : Waypoint K) : Outcome K (List (Waypoint K)) := do
  match samples.getLast? with
  | none => return [last]
  | some before =>
    let last := { last with pose := { last.pose with yaw := before.pose.yaw } }
    if ← before.position.isSame last.position then return samples.dropLast ++ [last]
    else return samples ++ [last]

/-- A path sampled at a spacing. -/
def resample (path : Path K) (spacing : Distance K) : Outcome K (Path K) := do
  let (ways, total) ← stretches (Chain.links path.points) Distance.zero
  let samples ← samplesFrom spacing total (sampleBound spacing total) 0 ways
  match path.points.getLast? with
  | none => return ⟨samples⟩
  | some last => return ⟨← close samples last⟩

/-- **The sampled path through an intersection**, unless the path does not come there. -/
def ofPath (lane : LaneletId) (associated : IdSet) (path : Path K) (spacing : Distance K) :
    Outcome K (Option (SampledPath K)) := do
  if spacing ≤ Distance.zero then Outcome.refuse (.badPathSpacing spacing)
  else
    let sampled ← resample path spacing
    return (sampled.laneInterval associated).map fun interval =>
      { path := sampled, spacing, lane, associated, interval }

/-! ## Offsets -/

/-- How many samples cover a distance. -/
def stepsUp (s : SampledPath K) (d : Distance K) : Outcome K Nat :=
  return min (Scalar.ceilNat (← d.ratio s.spacing)) maxCount

/-- How many samples a distance covers. -/
def stepsDown (s : SampledPath K) (d : Distance K) : Outcome K Nat :=
  return min (Scalar.floorNat (← d.ratio s.spacing)) maxCount

end SampledPath

end Crossing
