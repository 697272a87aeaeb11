import Crossing.Scalar

/-!
# Points and physical quantities

A number alone does not say whether it counts metres or seconds, so each kind of quantity is a
type of its own.  This module has the bare types, their comparisons and their texts; the
arithmetic, which can fail, is in `Crossing.Quantity` and `Crossing.Point`.

All of them live in one local frame: metres, seconds, angles counter-clockwise from the `x`
axis in radians.
-/

namespace Crossing

/-- A distance in metres; it may be negative. -/
structure Distance (K : Type) where
  metres : K
  deriving DecidableEq, Inhabited

/-- A stretch of time in seconds; it may be negative. -/
structure Duration (K : Type) where
  seconds : K
  deriving DecidableEq, Inhabited

/-- A velocity along a heading in metres per second; it is negative when reversing. -/
structure Speed (K : Type) where
  metresPerSecond : K
  deriving DecidableEq, Inhabited

/-- A direction, or a rotation from one to another; any number of turns is allowed. -/
structure Angle (K : Type) where
  radians : K
  deriving DecidableEq, Inhabited

/-- A position in the plane. -/
structure Point (K : Type) where
  x : K
  y : K
  deriving DecidableEq, Inhabited

/-- A position with a heading. -/
structure Pose (K : Type) where
  position : Point K
  yaw : Angle K
  deriving DecidableEq, Inhabited

section Order

variable {K : Type} [Scalar K]

instance : LT (Distance K) := ⟨fun a b => a.metres < b.metres⟩
instance : LE (Distance K) := ⟨fun a b => a.metres ≤ b.metres⟩
instance : LT (Duration K) := ⟨fun a b => a.seconds < b.seconds⟩
instance : LE (Duration K) := ⟨fun a b => a.seconds ≤ b.seconds⟩
instance : LT (Speed K) := ⟨fun a b => a.metresPerSecond < b.metresPerSecond⟩
instance : LE (Speed K) := ⟨fun a b => a.metresPerSecond ≤ b.metresPerSecond⟩

instance (a b : Distance K) : Decidable (a < b) := Scalar.decidableLT a.metres b.metres
instance (a b : Distance K) : Decidable (a ≤ b) := Scalar.decidableLE a.metres b.metres
instance (a b : Duration K) : Decidable (a < b) := Scalar.decidableLT a.seconds b.seconds
instance (a b : Duration K) : Decidable (a ≤ b) := Scalar.decidableLE a.seconds b.seconds
instance (a b : Speed K) : Decidable (a < b) :=
  Scalar.decidableLT a.metresPerSecond b.metresPerSecond
instance (a b : Speed K) : Decidable (a ≤ b) :=
  Scalar.decidableLE a.metresPerSecond b.metresPerSecond

/-- Of two equal distances the larger is the second. -/
instance : Max (Distance K) := ⟨fun a b => if b < a then a else b⟩

/-- Of two equal distances the smaller is the first. -/
instance : Min (Distance K) := ⟨fun a b => if b < a then b else a⟩

/-- Of two equal speeds the larger is the second. -/
instance : Max (Speed K) := ⟨fun a b => if b < a then a else b⟩

/-- Of two equal speeds the smaller is the first. -/
instance : Min (Speed K) := ⟨fun a b => if b < a then b else a⟩

/-- How two numbers that can be compared compare. -/
def Scalar.order (a b : K) : Ordering := if a < b then .lt else if b < a then .gt else .eq

end Order

section Constants

variable {K : Type} [Scalar K]

def Distance.zero : Distance K := ⟨0.0⟩

/-- One centimetre: points this close count as the same point. -/
def Distance.epsilon : Distance K := ⟨0.01⟩

def Duration.zero : Duration K := ⟨0.0⟩

/-- The smallest time that two entries of a time profile may lie apart. -/
def Duration.epsilon : Duration K := ⟨0.0001⟩

def Speed.zero : Speed K := ⟨0.0⟩

end Constants

section Text

variable {K : Type} [Numeral K]

def Distance.text (d : Distance K) : String := Numeral.text d.metres ++ "m"

def Duration.text (t : Duration K) : String := Numeral.text t.seconds ++ "s"

def Speed.text (v : Speed K) : String := Numeral.text v.metresPerSecond ++ "m/s"

/-- Two coordinates separated by a comma. -/
def Point.coordinates (p : Point K) : String := Numeral.text p.x ++ ", " ++ Numeral.text p.y

def Point.text (p : Point K) : String := "Pt2D(" ++ p.coordinates ++ ")"

end Text

end Crossing
