import Crossing.Format.Geometry
import Crossing.Config
import Crossing.Json.Reader

/-!
# Written form of settings

Every member of every section has a default, and so has every section, so a written
configuration only has to list what it changes.  `Config.ofText` reads a configuration and
accepts it only when planning can work with it.
-/

namespace Crossing

namespace Format

variable {K : Type} [Scalar K]

instance : Format K (CommonConfig K) where
  encode c := .record [
    ("path_interpolation_ds", encode c.pathSpacing), ("stop_line_margin", encode c.stopMargin),
    ("attention_area_length", encode c.attentionLength),
    ("attention_area_margin", encode c.attentionMargin),
    ("attention_area_angle_threshold", encode c.attentionAngle),
    ("consider_wrong_direction_vehicle", encode c.wrongDirection),
    ("use_stuck_stopline", encode c.stopAtLaneStart)]
  decode? v := do
    let ms ← sparseMembers? ["path_interpolation_ds", "stop_line_margin", "attention_area_length",
      "attention_area_margin", "attention_area_angle_threshold",
      "consider_wrong_direction_vehicle", "use_stuck_stopline"] v
    let d : CommonConfig K := Config.defaultCommon
    return {
      pathSpacing := ← withDefault ms "path_interpolation_ds" d.pathSpacing
      stopMargin := ← withDefault ms "stop_line_margin" d.stopMargin
      attentionLength := ← withDefault ms "attention_area_length" d.attentionLength
      attentionMargin := ← withDefault ms "attention_area_margin" d.attentionMargin
      attentionAngle := ← withDefault ms "attention_area_angle_threshold" d.attentionAngle
      wrongDirection := ← withDefault ms "consider_wrong_direction_vehicle" d.wrongDirection
      stopAtLaneStart := ← withDefault ms "use_stuck_stopline" d.stopAtLaneStart }

instance : Format K (StuckConfig K) where
  encode c := .record [
    ("stuck_vehicle_detect_dist", encode c.reach),
    ("stuck_vehicle_velocity_threshold", encode c.speedLimit)]
  decode? v := do
    let ms ← sparseMembers? ["stuck_vehicle_detect_dist", "stuck_vehicle_velocity_threshold"] v
    let d : StuckConfig K := Config.defaultStuck
    return {
      reach := ← withDefault ms "stuck_vehicle_detect_dist" d.reach
      speedLimit := ← withDefault ms "stuck_vehicle_velocity_threshold" d.speedLimit }

instance : Format K (OcclusionConfig K) where
  encode c := .record [
    ("enable", encode c.enabled),
    ("occlusion_attention_area_length", encode c.attentionLength),
    ("peeking_offset", encode c.peekingOffset), ("resolution", encode c.resolution),
    ("sensing_range", encode c.sensingRange)]
  decode? v := do
    let ms ← sparseMembers? ["enable", "occlusion_attention_area_length", "peeking_offset",
      "resolution", "sensing_range"] v
    let d : OcclusionConfig K := Config.defaultOcclusion
    return {
      enabled := ← withDefault ms "enable" d.enabled
      attentionLength := ← withDefault ms "occlusion_attention_area_length" d.attentionLength
      peekingOffset := ← withDefault ms "peeking_offset" d.peekingOffset
      resolution := ← withDefault ms "resolution" d.resolution
      sensingRange := ← withDefault ms "sensing_range" d.sensingRange }

instance : Format K (CollisionConfig K) where
  encode c := .record [
    ("start_delay", encode c.startDelay), ("intersection_velocity", encode c.crossingVelocity),
    ("minimum_ego_velocity", encode c.minimumVelocity),
    ("use_upstream_velocity", encode c.useCommanded),
    ("minimum_upstream_velocity", encode c.minimumCommanded),
    ("ramp_acceleration", encode c.rampAcceleration),
    ("predicted_path_horizon", encode c.horizon)]
  decode? v := do
    let ms ← sparseMembers? ["start_delay", "intersection_velocity", "minimum_ego_velocity",
      "use_upstream_velocity", "minimum_upstream_velocity", "ramp_acceleration",
      "predicted_path_horizon"] v
    let d : CollisionConfig K := Config.defaultCollision
    return {
      startDelay := ← withDefault ms "start_delay" d.startDelay
      crossingVelocity := ← withDefault ms "intersection_velocity" d.crossingVelocity
      minimumVelocity := ← withDefault ms "minimum_ego_velocity" d.minimumVelocity
      useCommanded := ← withDefault ms "use_upstream_velocity" d.useCommanded
      minimumCommanded := ← withDefault ms "minimum_upstream_velocity" d.minimumCommanded
      rampAcceleration := ← withDefault ms "ramp_acceleration" d.rampAcceleration
      horizon := ← withDefault ms "predicted_path_horizon" d.horizon }

instance : Format K (VehicleConfig K) where
  encode c := .record [
    ("base_link_to_front", encode c.front), ("vehicle_width", encode c.width)]
  decode? v := do
    let ms ← sparseMembers? ["base_link_to_front", "vehicle_width"] v
    let d : VehicleConfig K := Config.defaultVehicle
    return {
      front := ← withDefault ms "base_link_to_front" d.front
      width := ← withDefault ms "vehicle_width" d.width }

instance : Format K (Config K) where
  encode c := .record [
    ("common", encode c.common), ("stuck_vehicle", encode c.stuck),
    ("occlusion", encode c.occlusion), ("collision_detection", encode c.collision),
    ("vehicle", encode c.vehicle)]
  decode? v := do
    let ms ← sparseMembers? ["common", "stuck_vehicle", "occlusion", "collision_detection",
      "vehicle"] v
    let d : Config K := Config.default
    return {
      common := ← withDefault ms "common" d.common
      stuck := ← withDefault ms "stuck_vehicle" d.stuck
      occlusion := ← withDefault ms "occlusion" d.occlusion
      collision := ← withDefault ms "collision_detection" d.collision
      vehicle := ← withDefault ms "vehicle" d.vehicle }

end Format

namespace Config

variable {K : Type} [Scalar K]

/-- The settings of a text, whether planning can work with them or not. -/
def parse? (text : String) : Option (Config K) := do
  let v : Json K ← Json.read? text
  Format.decode? v

/-- **The settings of a text**, as long as planning can work with them. -/
def ofText (text : String) : Outcome K (Config K) := do
  match parse? text with
  | none => Outcome.refuse .unreadableConfig
  | some c =>
    c.validate
    return c

end Config

end Crossing
