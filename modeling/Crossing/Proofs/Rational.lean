import Crossing.Scalar

/-!
# Rational numbers as scalars

Doubles cannot be computed with inside a proof; rational numbers can.  This is the instance at
which closed statements of the library are evaluated.

Sums, products, quotients, comparisons and orientations are exact, every number is finite, and
nothing is rounded when it is stored.  Roots and directions are not rational, so they are exact
only where that is possible: `sqrt` at squares, the sine, the cosine and `atan2` along the axes.
Elsewhere they are approximations, a root rounded down and a parabola in the place of the sine.
Whatever is evaluated below lies along the axes.
-/

namespace Crossing.Rational

/-- The number `r` with its next bits set from the highest on, as long as its square stays at
most `n`. -/
def rootFrom (n : Nat) : (bits r : Nat) → Nat
  | 0, r => r
  | bits + 1, r =>
    let next := r + Nat.pow 2 bits
    rootFrom n bits (if next * next ≤ n then next else r)

def root (n : Nat) : Nat := rootFrom n (n.log2 / 2 + 1) 0

/-- The root of a number, rounded down to a millionth of the unit that its denominator gives. -/
def sqrt (x : Rat) : Rat := mkRat (root (x.num.toNat * x.den * 1000000000000)) (x.den * 1000000)

/-- Half a turn, to fourteen places. -/
def pi : Rat := 3.14159265358979

/-- The sine, exact at multiples of a quarter turn and a parabola over each half turn. -/
def sin (x : Rat) : Rat :=
  let quarters := x / (pi / 2)
  let r := quarters - 4 * (quarters / 4).floor
  if r ≤ 2 then r * (2 - r) else (r - 2) * (r - 4)

/-- The direction of `(x, y)`, exact along the axes and the diagonals between them, and in
proportion to the slope elsewhere. -/
def atan2 (y x : Rat) : Rat :=
  let low (y x : Rat) : Rat := if x = 0 then 0 else y / x * (pi / 4)
  let first (y x : Rat) : Rat := if y ≤ x then low y x else pi / 2 - low x y
  if 0 ≤ y then
    if 0 ≤ x then first y x else pi - first y (-x)
  else
    if 0 ≤ x then - first (-y) x else first (-y) (-x) - pi

end Crossing.Rational

namespace Crossing

instance : Scalar Rat where
  decidableLT := inferInstance
  decidableLE := inferInstance
  ofNat n := n
  isFinite _ := true
  quantize x := x
  sqrt := Rational.sqrt
  sin := Rational.sin
  cos x := Rational.sin (x + Rational.pi / 2)
  atan2 := Rational.atan2
  pi := Rational.pi
  modulo x m := x - m * (x / m).floor
  ceilNat x := min x.ceil.toNat (Nat.pow 2 64 - 1)
  floorNat x := min x.floor.toNat (Nat.pow 2 64 - 1)
  turn := Scalar.exactTurn

end Crossing
