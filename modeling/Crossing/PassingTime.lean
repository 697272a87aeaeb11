import Crossing.Path
import Crossing.Config

/-!
# When the vehicle is where

`PassingTime.profile` estimates at which time the vehicle comes to each waypoint, as a list of
times and distances.  From one waypoint to the next the vehicle is taken to drive with the mean
of its velocities at both, and never below the minimum velocity.  The velocities follow one of
two rules: they ramp from the current velocity to that of the intersection, or they are the
commanded ones, of which none counts any more behind the first commanded stop.

A waypoint at no distance from the one before makes no entry.  A stretch so short that its time
rounds to nothing takes the smallest time there is, so that times always grow.
-/

namespace Crossing

structure PassingTime (K : Type) where
  /-- When it starts. -/
  startDelay : Duration K
  currentVelocity : Speed K
  crossingVelocity : Speed K
  /-- No stretch is taken to be driven more slowly. -/
  minimumVelocity : Speed K
  /-- The acceleration of the ramp; with zero the velocity inside is reached at once. -/
  rampAcceleration : K
  /-- Do the commanded velocities count? -/
  useCommanded : Bool
  /-- The velocity behind a commanded stop. -/
  minimumCommanded : Speed K
  deriving DecidableEq

namespace PassingTime

/-- The assumptions that settings make. -/
def ofConfig {K : Type} (c : Config K) (currentVelocity : Speed K) : PassingTime K where
  startDelay := c.collision.startDelay
  currentVelocity := currentVelocity
  crossingVelocity := c.collision.crossingVelocity
  minimumVelocity := c.collision.minimumVelocity
  rampAcceleration := c.collision.rampAcceleration
  useCommanded := c.collision.useCommanded
  minimumCommanded := c.collision.minimumCommanded

variable {K : Type} [Scalar K]

/-- The ramped velocity after a distance. -/
def ramp (a : PassingTime K) (d : Distance K) : Outcome K (Speed K) := do
  let goal := a.crossingVelocity
  if a.rampAcceleration ≤ 0.0 then return goal
  else
    let now := a.currentVelocity.abs
    let v := now.metresPerSecond
    let gain := 2.0 * a.rampAcceleration * d.metres
    if now < goal then
      return min (← Speed.ofMetresPerSecond (Scalar.sqrt (v * v + gain))) goal
    else
      return max (← Speed.ofMetresPerSecond (Scalar.sqrt (Scalar.positivePart (v * v - gain)))) goal

/-- The velocity at a waypoint at the distance `arc` when the vehicle starts at the distance
`origin`; `stopped` says whether a commanded stop lies behind. -/
def velocityAt (a : PassingTime K) (origin : Distance K) (stopped : Bool) (w : Waypoint K)
    (arc : Distance K) : Outcome K (Speed K) := do
  if a.useCommanded then return if stopped then a.minimumCommanded else w.velocity
  else a.ramp (← arc.sub origin)

/-- Is a waypoint a commanded stop that counts? -/
def isStop (a : PassingTime K) (w : Waypoint K) : Bool := a.useCommanded && w.velocity ≤ Speed.zero

/-- The time at the end of a stretch that begins at `time`. -/
def timeAfter (a : PassingTime K) (time : Duration K) (before after : Speed K)
    (stretch : Distance K) : Outcome K (Duration K) := do
  let mean ← (← before.add after).shrink 2.0
  let next ← time.add (← (max mean a.minimumVelocity).timeFor stretch)
  if next ≤ time then time.add Duration.epsilon else return next

/-- The entries after a waypoint that the vehicle passes at `time`, with velocity `before`, at the
distance `here`. -/
def entries (a : PassingTime K) (origin : Distance K) :
    (stopped : Bool) → (time : Duration K) → (before : Speed K) → (here : Distance K) →
      List (Waypoint K × Distance K) → Outcome K (List (Duration K × Distance K))
  | _, _, _, _, [] => .ok []
  | stopped, time, before, here, (w, arc) :: rest => do
    let stopped := stopped || a.isStop w
    let after ← a.velocityAt origin stopped w arc
    let stretch ← arc.sub here
    if stretch ≤ Distance.zero then entries a origin stopped time after arc rest
    else
      let next ← a.timeAfter time before after stretch
      return (next, arc) :: (← entries a origin stopped next after arc rest)

/-- **When the vehicle is where**, from the index closest to it to the last index, or to the end
of the path. -/
def profile (a : PassingTime K) (path : Path K) (closest last : Nat) :
    Outcome K (List (Duration K × Distance K)) := do
  let rows := path.points.zip (← path.arcLengths)
  match (rows.take (last + 1)).drop closest, rows[closest]? with
  | _, none => Outcome.breach (.outsidePath closest)
  | (w, origin) :: later, some _ =>
    if later.isEmpty then return [(a.startDelay, origin)]
    else
      let before ← a.velocityAt origin false w origin
      return (a.startDelay, origin) ::
        (← entries a origin false a.startDelay before origin later)
  | [], some (_, origin) => return [(a.startDelay, origin)]

end PassingTime

end Crossing
