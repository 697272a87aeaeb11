import Crossing.Fault

/-!
# Arithmetic of distances, durations and speeds

Every result is built by the constructor of its type (`Distance.ofMetres`, `Duration.ofSeconds`,
`Speed.ofMetresPerSecond`), which demands a finite number and rounds it.  So a stored quantity
is always a rounded one, and the sum of two quantities is the rounded sum, not the sum of what
they were rounded from.

Quotients by zero are breaches, each with the two things that were to be divided.  Two
operations never fail: `Distance.fractionOf`, which counts any part of nothing as zero, and the
absolute values.
-/

namespace Crossing

variable {K : Type} [Scalar K]

namespace Distance

/-- So many metres, rounded. -/
def ofMetres (x : K) : Outcome K (Distance K) :=
  if Scalar.isFinite x then .ok ⟨Scalar.quantize x⟩ else Outcome.breach (.notFinite .distance x)

def add (a b : Distance K) : Outcome K (Distance K) := ofMetres (a.metres + b.metres)

def sub (a b : Distance K) : Outcome K (Distance K) := ofMetres (a.metres - b.metres)

def neg (a : Distance K) : Outcome K (Distance K) := ofMetres (-a.metres)

def abs (a : Distance K) : Distance K := if 0.0 < a.metres then a else ⟨-a.metres⟩

def isZero (a : Distance K) : Bool := Scalar.isZero a.metres

def scale (k : K) (a : Distance K) : Outcome K (Distance K) := ofMetres (a.metres * k)

/-- The `k`-th part of a distance. -/
def shrink (a : Distance K) (k : K) : Outcome K (Distance K) :=
  if Scalar.isZero k then Outcome.breach (.distanceByZeroFactor a k) else ofMetres (a.metres / k)

def half (a : Distance K) : Outcome K (Distance K) := a.shrink 2.0

/-- How many times `b` goes into `a`. -/
def ratio (a b : Distance K) : Outcome K K :=
  if b.isZero then Outcome.breach (.distanceByZero a b) else .ok (a.metres / b.metres)

/-- Which part of `b` the distance `a` is, usually between zero and one; nothing has no parts,
and then the answer is zero. -/
def fractionOf (a b : Distance K) : K := if b.isZero then 0.0 else a.metres / b.metres

/-- The sum of distances from the first to the last. -/
def sum (ds : List (Distance K)) : Outcome K (Distance K) := ds.foldlM add zero

end Distance

namespace Duration

def ofSeconds (x : K) : Outcome K (Duration K) :=
  if Scalar.isFinite x then .ok ⟨Scalar.quantize x⟩ else Outcome.breach (.notFinite .duration x)

def add (a b : Duration K) : Outcome K (Duration K) := ofSeconds (a.seconds + b.seconds)

def sub (a b : Duration K) : Outcome K (Duration K) := ofSeconds (a.seconds - b.seconds)

def scale (k : K) (a : Duration K) : Outcome K (Duration K) := ofSeconds (a.seconds * k)

/-- How many times `b` goes into `a`. -/
def ratio (a b : Duration K) : Outcome K K :=
  if Scalar.isZero b.seconds then Outcome.breach (.durationByZero a b)
  else .ok (a.seconds / b.seconds)

end Duration

namespace Speed

def ofMetresPerSecond (x : K) : Outcome K (Speed K) :=
  if Scalar.isFinite x then .ok ⟨Scalar.quantize x⟩ else Outcome.breach (.notFinite .speed x)

def ofKilometresPerHour (x : K) : Outcome K (Speed K) := ofMetresPerSecond (0.277778 * x)

def abs (a : Speed K) : Speed K := ⟨Scalar.magnitude a.metresPerSecond⟩

def isZero (a : Speed K) : Bool := Scalar.isZero a.metresPerSecond

def add (a b : Speed K) : Outcome K (Speed K) :=
  ofMetresPerSecond (a.metresPerSecond + b.metresPerSecond)

def sub (a b : Speed K) : Outcome K (Speed K) :=
  ofMetresPerSecond (a.metresPerSecond - b.metresPerSecond)

def neg (a : Speed K) : Outcome K (Speed K) := ofMetresPerSecond (-a.metresPerSecond)

def scale (k : K) (a : Speed K) : Outcome K (Speed K) := ofMetresPerSecond (a.metresPerSecond * k)

/-- The `k`-th part of a speed. -/
def shrink (a : Speed K) (k : K) : Outcome K (Speed K) :=
  if Scalar.isZero k then Outcome.breach (.speedByZeroFactor a k)
  else ofMetresPerSecond (a.metresPerSecond / k)

/-- The distance covered at this speed. -/
def during (a : Speed K) (t : Duration K) : Outcome K (Distance K) :=
  Distance.ofMetres (a.metresPerSecond * t.seconds)

/-- The time in which a distance is covered at this speed. -/
def timeFor (a : Speed K) (d : Distance K) : Outcome K (Duration K) :=
  if a.isZero then Outcome.breach (.distanceByStandstill d)
  else Duration.ofSeconds (d.metres / a.metresPerSecond)

end Speed

end Crossing
