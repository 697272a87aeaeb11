import Crossing.Quantity

/-!
# Angles

An angle is stored as the radians it was made from, with as many turns as those have; only
`normalized` and what is built on it look at the direction alone.  Making an angle demands a
finite number, turning one does not.
-/

namespace Crossing.Angle

variable {K : Type} [Scalar K]

def ofRadians (x : K) : Outcome K (Angle K) :=
  if Scalar.isFinite x then .ok ⟨x⟩ else Outcome.breach (.notFinite .angle x)

def ofDegrees (x : K) : Outcome K (Angle K) := ofRadians (Scalar.radians x)

/-- Half a turn further. -/
def opposite (a : Angle K) : Angle K := ⟨a.radians + Scalar.pi⟩

/-- So many degrees further, counter-clockwise. -/
def rotateDegrees (a : Angle K) (degrees : K) : Angle K := ⟨a.radians + Scalar.radians degrees⟩

/-- The direction in radians, from zero up to a full turn. -/
def normalized (a : Angle K) : K := Scalar.modulo a.radians Scalar.fullTurn

/-- The direction in degrees, from zero up to 360. -/
def normalizedDegrees (a : Angle K) : K := Scalar.degrees a.normalized

/-- The shortest rotation from one direction to another: more than minus half a turn, and at
most half a turn. -/
def rotationTowards (a b : Angle K) : K :=
  let counterClockwise := Scalar.modulo (b.radians - a.radians) Scalar.fullTurn
  if Scalar.pi < counterClockwise then counterClockwise - Scalar.fullTurn else counterClockwise

/-- The size of the shortest rotation between two directions. -/
def deviation (a b : Angle K) : K := Scalar.magnitude (a.rotationTowards b)

/-- Are two directions less than `threshold` radians apart? -/
def isNear (a b : Angle K) (threshold : K) : Bool := a.deviation b < threshold

def text [Numeral K] (a : Angle K) : String :=
  "Angle(" ++ Numeral.text a.normalizedDegrees ++ " degrees)"

end Crossing.Angle
