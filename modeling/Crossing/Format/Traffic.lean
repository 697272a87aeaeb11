import Crossing.Format.Geometry
import Crossing.Object
import Crossing.Signal
import Crossing.StopLine

/-!
# Written forms of paths, stop lines, road users and traffic lights

As everywhere, reading takes the numbers as they are written and checks nothing.
-/

namespace Crossing.Format

variable {K : Type} [Scalar K]

/-! ## Paths and stop lines -/

instance : Format K (Waypoint K) where
  encode w := .record [
    ("pose", encode w.pose), ("velocity", encode w.velocity), ("lane_ids", encode w.lanes)]
  decode? v := do
    let ms ← members? ["pose", "velocity", "lane_ids"] v
    return ⟨← required ms "pose", ← required ms "velocity", ← required ms "lane_ids"⟩

instance : Format K (Path K) where
  encode p := .record [("points", encode p.points)]
  decode? v := do
    let ms ← members? ["points"] v
    return ⟨← required ms "points"⟩

instance : Format K StopLines where
  encode l := .record [
    ("closest_idx", encode l.closest), ("stuck_stop_line", encodeOption l.stuck),
    ("default_stop_line", encodeOption l.default),
    ("first_attention_stop_line", encodeOption l.firstAttention),
    ("occlusion_peeking_stop_line", encodeOption l.peeking),
    ("pass_judge_line", encode l.passJudge)]
  decode? v := do
    let ms ← members? ["closest_idx", "stuck_stop_line", "default_stop_line",
      "first_attention_stop_line", "occlusion_peeking_stop_line", "pass_judge_line"] v
    return {
      closest := ← required ms "closest_idx"
      stuck := ← optional ms "stuck_stop_line"
      default := ← optional ms "default_stop_line"
      firstAttention := ← optional ms "first_attention_stop_line"
      peeking := ← optional ms "occlusion_peeking_stop_line"
      passJudge := ← required ms "pass_judge_line" }

/-! ## Road users -/

/-- The names of the kinds of object. -/
def classNames : List (String × ObjectClass) :=
  [("Unknown", .unknown), ("Car", .car), ("Truck", .truck), ("Bus", .bus), ("Trailer", .trailer),
    ("Motorcycle", .motorcycle), ("Bicycle", .bicycle), ("Pedestrian", .pedestrian)]

instance : Format K ObjectClass where
  encode := encodeName classNames
  decode? := decodeName? classNames

instance : Format K (Shape K) where
  encode
    | .box length width =>
      .record [("BoundingBox", .record [("length", encode length), ("width", encode width)])]
    | .outline corners => .record [("Polygon", encode corners)]
  decode?
    | .record [("BoundingBox", v)] => do
      let ms ← members? ["length", "width"] v
      return .box (← required ms "length") (← required ms "width")
    | .record [("Polygon", v)] => (decode? v).map .outline
    | _ => none

instance : Format K (Prediction K) where
  encode f := .record [
    ("path", encode f.poses), ("time_step", encode f.step), ("confidence", encode f.confidence)]
  decode? v := do
    let ms ← members? ["path", "time_step", "confidence"] v
    return ⟨← required ms "path", ← required ms "time_step", ← required ms "confidence"⟩

instance : Format K (RoadUser K) where
  encode o := .record [
    ("id", encode o.id), ("classification", encode o.kind), ("pose", encode o.pose),
    ("velocity", encode o.velocity), ("shape", encode o.shape),
    ("predicted_paths", encode o.predictions)]
  decode? v := do
    let ms ← members? ["id", "classification", "pose", "velocity", "shape", "predicted_paths"] v
    return {
      id := ← required ms "id"
      kind := ← required ms "classification"
      pose := ← required ms "pose"
      velocity := ← required ms "velocity"
      shape := ← required ms "shape"
      predictions := ← required ms "predicted_paths" }

instance : Format K (Perception K) where
  encode p := .record [("stamp", encode p.stamp), ("objects", encode p.objects)]
  decode? v := do
    let ms ← members? ["stamp", "objects"] v
    return ⟨← required ms "stamp", ← required ms "objects"⟩

/-! ## Traffic lights -/

/-- The names of the colours. -/
def colorNames : List (String × SignalColor) :=
  [("Red", .red), ("Amber", .amber), ("Green", .green), ("White", .white), ("Unknown", .unknown)]

instance : Format K SignalColor where
  encode := encodeName colorNames
  decode? := decodeName? colorNames

/-- The names of the shapes of lamps. -/
def shapeNames : List (String × SignalShape) :=
  [("Circle", .circle), ("LeftArrow", .leftArrow), ("RightArrow", .rightArrow),
    ("UpArrow", .upArrow), ("DownArrow", .downArrow), ("Cross", .cross), ("Unknown", .unknown)]

instance : Format K SignalShape where
  encode := encodeName shapeNames
  decode? := decodeName? shapeNames

instance : Format K (SignalElement K) where
  encode e := .record [
    ("color", encode e.color), ("shape", encode e.shape), ("confidence", encode e.confidence)]
  decode? v := do
    let ms ← members? ["color", "shape", "confidence"] v
    return ⟨← required ms "color", ← required ms "shape", ← required ms "confidence"⟩

instance : Format K (TrafficSignal K) where
  encode s := .record [("light", encode s.light), ("elements", encode s.elements)]
  decode? v := do
    let ms ← members? ["light", "elements"] v
    return ⟨← required ms "light", ← required ms "elements"⟩

instance : Format K (StampedSignal K) where
  encode s := .record [("stamp", encode s.stamp), ("signal", encode s.signal)]
  decode? v := do
    let ms ← members? ["stamp", "signal"] v
    return ⟨← required ms "stamp", ← required ms "signal"⟩

/-- The names of the judgements about conflicting traffic. -/
def priorityNames : List (String × Priority) :=
  [("FullyPrioritized", .fully), ("PartiallyPrioritized", .partially), ("NotPrioritized", .not)]

instance : Format K Priority where
  encode := encodeName priorityNames
  decode? := decodeName? priorityNames

end Crossing.Format
