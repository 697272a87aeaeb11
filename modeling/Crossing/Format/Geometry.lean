import Crossing.Format
import Crossing.Lanelet

/-!
# Written forms of shapes and lanelets

Reading takes the numbers as they are written.  Nothing is checked or rounded, and what could be
computed, like the length of a polyline, is read like everything else.
-/

namespace Crossing.Format

variable {K : Type} [Scalar K]

instance : Format K (Distance K) where
  encode d := encode d.metres
  decode? v := (decode? v).map .mk

instance : Format K (Duration K) where
  encode t := encode t.seconds
  decode? v := (decode? v).map .mk

instance : Format K (Speed K) where
  encode v := encode v.metresPerSecond
  decode? v := (decode? v).map .mk

instance : Format K (Angle K) where
  encode a := encode a.radians
  decode? v := (decode? v).map .mk

instance : Format K (Point K) where
  encode p := .record [("x", encode p.x), ("y", encode p.y)]
  decode? v := do
    let ms ← members? ["x", "y"] v
    return ⟨← required ms "x", ← required ms "y"⟩

instance : Format K (Pose K) where
  encode p := .record [("pos", encode p.position), ("yaw", encode p.yaw)]
  decode? v := do
    let ms ← members? ["pos", "yaw"] v
    return ⟨← required ms "pos", ← required ms "yaw"⟩

instance : Format K (Segment K) where
  encode s := .list [encode s.start, encode s.finish]
  decode? v := do
    let (a, b) ← decode? v
    return ⟨a, b⟩

instance : Format K (Polyline K) where
  encode pl := .record [("pts", encode pl.points), ("length", encode pl.length)]
  decode? v := do
    let ms ← members? ["pts", "length"] v
    return ⟨← required ms "pts", ← required ms "length"⟩

instance : Format K (Region K) where
  encode r := .record [("points", encode r.ring)]
  decode? v := do
    let ms ← members? ["points"] v
    return ⟨← required ms "points"⟩

/-- The names of the ways to turn. -/
def turnNames : List (String × TurnDirection) :=
  [("Straight", .straight), ("Left", .left), ("Right", .right), ("Else", .elsewhere)]

instance : Format K TurnDirection where
  encode := encodeName turnNames
  decode? := decodeName? turnNames

instance : Format K (Lanelet K) where
  encode l := .record [
    ("id", encode l.id), ("left", encode l.left), ("right", encode l.right),
    ("centerline", encode l.centerline), ("turn_direction", encode l.turn),
    ("traffic_light", encodeOption l.light), ("stop_line", encodeOption l.stopLine),
    ("intersection_area", encodeOption l.area), ("yield_lanelets", encode l.yields),
    ("polygon", encode l.region)]
  decode? v := do
    let ms ← members? ["id", "left", "right", "centerline", "turn_direction", "traffic_light",
      "stop_line", "intersection_area", "yield_lanelets", "polygon"] v
    return {
      id := ← required ms "id"
      left := ← required ms "left"
      right := ← required ms "right"
      centerline := ← required ms "centerline"
      turn := ← required ms "turn_direction"
      light := ← optional ms "traffic_light"
      stopLine := ← optional ms "stop_line"
      area := ← optional ms "intersection_area"
      yields := ← required ms "yield_lanelets"
      region := ← required ms "polygon" }

end Crossing.Format
