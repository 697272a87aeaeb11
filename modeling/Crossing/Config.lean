import Crossing.Quantity

/-!
# Settings

The settings of one intersection, in sections, with a default for each.  `Config.validate` names
the first setting that planning could not work with; a valid configuration has positive
spacings, widths and velocities, and no negative clearance.
-/

namespace Crossing

/-- Settings that several parts of planning use. -/
structure CommonConfig (K : Type) where
  /-- How far apart the samples of the path are. -/
  pathSpacing : Distance K
  /-- How far the front of the vehicle stays away from an area that it must not enter. -/
  stopMargin : Distance K
  /-- How far back the ways into conflicting lanes are watched. -/
  attentionLength : Distance K
  /-- Objects this close to a watched lanelet count as being on it. -/
  attentionMargin : Distance K
  /-- How far the heading of an object may be from the direction of its lane. -/
  attentionAngle : Angle K
  /-- Do vehicles count that go against the direction of their lane? -/
  wrongDirection : Bool
  /-- Is the stop for a stuck vehicle at the very start of the intersection lane? -/
  stopAtLaneStart : Bool
  deriving DecidableEq

/-- Settings about vehicles that are stuck in the intersection. -/
structure StuckConfig (K : Type) where
  /-- How far behind the intersection stuck vehicles are looked for. -/
  reach : Distance K
  /-- Vehicles up to this speed count as stopped. -/
  speedLimit : Speed K
  deriving DecidableEq

/-- Settings about what obstacles hide. -/
structure OcclusionConfig (K : Type) where
  /-- Is it looked for at all? -/
  enabled : Bool
  /-- How far back hidden traffic is looked for. -/
  attentionLength : Distance K
  /-- How far into the first watched area the vehicle may creep for a better view. -/
  peekingOffset : Distance K
  /-- How far apart cross sections of lanes are, and the points on each. -/
  resolution : Distance K
  /-- Nothing farther away than this can be seen. -/
  sensingRange : Distance K
  deriving DecidableEq

/-- Settings about when the vehicle is where. -/
structure CollisionConfig (K : Type) where
  /-- The vehicle is taken to start after this time. -/
  startDelay : Duration K
  crossingVelocity : Speed K
  /-- No stretch is taken to be driven more slowly. -/
  minimumVelocity : Speed K
  /-- Do the commanded velocities count? -/
  useCommanded : Bool
  /-- The velocity behind a commanded stop. -/
  minimumCommanded : Speed K
  /-- The acceleration to the velocity inside the intersection; with zero it is reached at
  once. -/
  rampAcceleration : K
  /-- How far ahead in time predictions of objects are used. -/
  horizon : Duration K
  deriving DecidableEq

/-- The dimensions of the vehicle. -/
structure VehicleConfig (K : Type) where
  /-- From the point that poses refer to, to the front bumper. -/
  front : Distance K
  /-- The width of lanelets made from the path. -/
  width : Distance K
  deriving DecidableEq

/-- The settings of one intersection. -/
structure Config (K : Type) where
  common : CommonConfig K
  stuck : StuckConfig K
  occlusion : OcclusionConfig K
  collision : CollisionConfig K
  vehicle : VehicleConfig K
  deriving DecidableEq

namespace Config

variable {K : Type} [Scalar K]

/-! ## Defaults -/

def defaultCommon : CommonConfig K where
  pathSpacing := ⟨0.1⟩
  stopMargin := ⟨3.0⟩
  attentionLength := ⟨200.0⟩
  attentionMargin := ⟨0.75⟩
  attentionAngle := ⟨Scalar.radians 45.0⟩
  wrongDirection := false
  stopAtLaneStart := true

/-- The default settings about stuck vehicles; the speed limit is three kilometres per hour. -/
def defaultStuck : StuckConfig K where
  reach := ⟨3.0⟩
  speedLimit := ⟨0.8333⟩

def defaultOcclusion : OcclusionConfig K where
  enabled := true
  attentionLength := ⟨70.0⟩
  peekingOffset := ⟨1.0⟩
  resolution := ⟨0.5⟩
  sensingRange := ⟨50.0⟩

/-- The default settings about times; the velocities are ten and five kilometres per hour. -/
def defaultCollision : CollisionConfig K where
  startDelay := ⟨1.0⟩
  crossingVelocity := ⟨2.7778⟩
  minimumVelocity := ⟨1.3889⟩
  useCommanded := false
  minimumCommanded := ⟨0.01⟩
  rampAcceleration := 0.5
  horizon := ⟨15.0⟩

def defaultVehicle : VehicleConfig K where
  front := ⟨4.0⟩
  width := ⟨1.9⟩

def default : Config K :=
  ⟨defaultCommon, defaultStuck, defaultOcclusion, defaultCollision, defaultVehicle⟩

/-! ## Validity -/

def demandLength (s : Setting) (d : Distance K) : Outcome K Unit :=
  if d ≤ Distance.zero then Outcome.refuse (.lengthNotPositive s d) else .ok ()

def demandSpeed (s : Setting) (v : Speed K) : Outcome K Unit :=
  if v ≤ Speed.zero then Outcome.refuse (.speedNotPositive s v) else .ok ()

/-- **Refuses settings that planning cannot work with**, by the first of them. -/
def validate (c : Config K) : Outcome K Unit := do
  demandLength .pathSpacing c.common.pathSpacing
  demandLength .occlusionResolution c.occlusion.resolution
  demandSpeed .minimumVelocity c.collision.minimumVelocity
  demandSpeed .crossingVelocity c.collision.crossingVelocity
  if c.collision.rampAcceleration < 0.0 then
    Outcome.refuse (.negativeRamp c.collision.rampAcceleration)
  demandLength .vehicleWidth c.vehicle.width
  if c.common.stopMargin < Distance.zero || c.vehicle.front < Distance.zero ||
      c.occlusion.peekingOffset < Distance.zero then
    Outcome.refuse .negativeClearance

end Config

end Crossing
