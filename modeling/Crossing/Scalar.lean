/-!
# The numbers that coordinates and quantities are made of

Everything below this module is written over one type `K` of numbers.  Run, `K` is the double
precision numbers (`Crossing.Scalar.Binary64`); reasoned about, it may as well be the rationals
or the reals, where sums and products are exact.  `Scalar` collects what the library asks of
`K`, and nothing else about `K` is ever used.

**Three operations carry a decision of their own.**  `quantize` is the rounding that every
stored distance, duration and speed goes through (four decimal places for doubles).
`isFinite` tells the numbers that a value may be built from; exact number types answer `true`.
`turn` is the orientation of three points, and no rounding enters it: whether a point lies on an
edge, left of it or right of it is settled exactly, as long as the products involved are not too
small for `K`.

`Numeral` is separate because only messages and displays need the text of a number.
-/

namespace Crossing

/-- The largest count: counts have 64 bits. -/
def maxCount : Nat := UInt64.size - 1

/-- **What the library asks of its numbers.**  Literals are read by `OfScientific`, so a
constant is written `0.0`, `0.01` or `180.0`. -/
class Scalar (K : Type) extends Add K, Sub K, Mul K, Div K, Neg K, LT K, LE K, OfScientific K where
  /-- Strict comparison can be run; a number that compares with nothing is less than nothing. -/
  decidableLT : DecidableLT K
  decidableLE : DecidableLE K
  /-- The number of things counted by a natural number. -/
  ofNat : Nat → K
  /-- May a point, a quantity or an angle be built from this number? -/
  isFinite : K → Bool
  /-- The rounding of stored distances, durations and speeds. -/
  quantize : K → K
  sqrt : K → K
  sin : K → K
  cos : K → K
  /-- `atan2 y x` is the direction of `(x, y)` in radians. -/
  atan2 : K → K → K
  pi : K
  /-- `modulo x m` is what is left of `x` after taking out whole multiples of `m`; it is never
  negative for a positive `m`. -/
  modulo : K → K → K
  /-- The least natural number that is not below the number; `0` for negative numbers.  A type may
  stop at `maxCount`, as the doubles do. -/
  ceilNat : K → Nat
  /-- The largest natural number that is not above the number; `0` for negative numbers.  A type
  may stop at `maxCount`. -/
  floorNat : K → Nat
  /-- `turn x₁ y₁ x₂ y₂ x₃ y₃` compares the cross product of the ways from the first point to the
  other two with zero, unrounded: `.gt` when the third point lies left of the line from the first to
  the second, `.eq` when it lies on it. -/
  turn : (x₁ y₁ x₂ y₂ x₃ y₃ : K) → Ordering

/-- Numbers with a text: the fewest decimal digits that read back as the same number. -/
class Numeral (K : Type) where
  text : K → String

namespace Scalar

variable {K : Type} [Scalar K]

instance : DecidableLT K := decidableLT

instance : DecidableLE K := decidableLE

/-- Do two numbers compare equal?  Written with `≤`, so that the two signed zeros are the same
and an undefined number is not even the same as itself. -/
def same (a b : K) : Bool := a ≤ b && b ≤ a

/-- Is this zero, of either sign? -/
def isZero (a : K) : Bool := same a 0.0

/-- Distance from zero. -/
def magnitude (a : K) : K := if a ≤ 0.0 then 0.0 - a else a

/-- The number, or zero where it is negative or undefined. -/
def positivePart (a : K) : K := if 0.0 < a then a else 0.0

/-- The number moved into the range between `lo` and `hi`; an undefined number stays as it
is. -/
def clamp (lo hi a : K) : K := if a < lo then lo else if hi < a then hi else a

def square (a : K) : K := a * a

def fullTurn : K := 2.0 * pi

def radians (degrees : K) : K := degrees * (pi / 180.0)

def degrees (radians : K) : K := radians * (180.0 / pi)

/-- The orientation of three points, for numbers whose sums and products are exact. -/
def exactTurn {R : Type} [Sub R] [Mul R] [LT R] [DecidableLT R]
    (x₁ y₁ x₂ y₂ x₃ y₃ : R) : Ordering :=
  let left := (x₂ - x₁) * (y₃ - y₁)
  let right := (y₂ - y₁) * (x₃ - x₁)
  if right < left then .gt else if left < right then .lt else .eq

end Scalar

end Crossing
