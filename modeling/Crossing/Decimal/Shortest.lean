/-!
# Shortest decimal text of a double

`Decimal.shortest x` writes the fewest digits that read back as `x`, never with an exponent, and
with a point only where there is a fractional part: `3`, `0.1`, `-0`, `inf`, `NaN`.

**The rule.**  A double is `m · 2^q`.  The numbers that read back as it form an interval whose
ends are half way to its neighbours, and belong to it exactly when `m` is even.  The multiples
of `10^t` form a grid; going from coarse grids to fine ones, the first grid with a point in the
interval gives the digits.  Only the two grid points around the number can be in it first, so
those two are tested; of two hits the nearer is taken, and the larger when they are equally
near.
-/

namespace Crossing.Decimal

/-- A positive double and the numbers that read back as it, in quarters of its last binary
place: the number is `4 · significand · 2^scale`. -/
structure Neighbourhood where
  /-- The significand, a whole number. -/
  significand : Nat
  /-- The power of two that one quarter stands for. -/
  scale : Int
  /-- How many quarters the interval reaches below the number: one where the doubles below lie
  twice as close, two everywhere else. -/
  below : Nat

namespace Neighbourhood

/-- The neighbourhood of the absolute value of a finite double. -/
def ofFloat (x : Float) : Neighbourhood :=
  let bits := x.toBits.toNat
  let exponent : Nat := bits / Nat.pow 2 52 % 2048
  let fraction := bits % Nat.pow 2 52
  if exponent = 0 then ⟨fraction, -1076, 2⟩
  else
    let scale : Int := exponent
    ⟨Nat.pow 2 52 + fraction, scale - 1077, if fraction = 0 ∧ 1 < exponent then 1 else 2⟩

/-- Do the ends of the interval read back as the number too? -/
def closed (v : Neighbourhood) : Bool := v.significand % 2 = 0

/-- A number of the form `numerator / denominator` that every power of ten on the grid of step
`10^t` is a whole multiple of: the length of one quarter, counted in grid steps. -/
def quarter (v : Neighbourhood) (t : Int) : Nat × Nat :=
  (Nat.pow 2 v.scale.toNat * Nat.pow 10 (-t).toNat,
    Nat.pow 2 (-v.scale).toNat * Nat.pow 10 t.toNat)

/-- Does `c` times `10^t` read back as the number? -/
def reads (v : Neighbourhood) (t : Int) (c : Nat) : Bool :=
  let (n, d) := v.quarter t
  let low := (4 * v.significand - v.below) * n
  let high := (4 * v.significand + 2) * n
  if v.closed then low ≤ c * d && c * d ≤ high else low < c * d && c * d < high

/-- The multiple of `10^t` that reads back as the number, if one does: the nearer of the two
around it. -/
def onGrid (v : Neighbourhood) (t : Int) : Option Nat :=
  let (n, d) := v.quarter t
  let value := 4 * v.significand * n
  let c := value / d
  match v.reads t c, v.reads t (c + 1) with
  | true, true => some (if 2 * (value % d) < d then c else c + 1)
  | true, false => some c
  | false, true => some (c + 1)
  | false, false => none

/-- The power of ten of the first digit of a number, or the one above it. -/
def leading (v : Neighbourhood) : Int :=
  ((v.significand.log2 : Int) + v.scale + 2) * 30103 / 100000 + 1

/-- The digits of the number and the power of ten of the last of them. -/
def digits (v : Neighbourhood) : Nat × Int :=
  ((List.range 24).findSome? fun (i : Nat) =>
    let t := v.leading - i
    (v.onGrid t).map fun c => (c, t)).getD (0, 0)

end Neighbourhood

/-- `c · 10^t` without an exponent. -/
def positional (c : Nat) (t : Int) : String :=
  let text := toString c
  if 0 ≤ t then text ++ "".pushn '0' t.toNat
  else
    let places := (-t).toNat
    let padded := ("".pushn '0' (places + 1 - text.length) ++ text).toList
    let whole := padded.length - places
    String.ofList (padded.take whole) ++ "." ++ String.ofList (padded.drop whole)

/-- The shortest text of a double that reads back as it. -/
def shortest (x : Float) : String :=
  if x.isNaN then "NaN"
  else
    let sign := if Nat.pow 2 63 ≤ x.toBits.toNat then "-" else ""
    if x.isInf then sign ++ "inf"
    else if x == 0.0 then sign ++ "0"
    else
      let (c, t) := (Neighbourhood.ofFloat x).digits
      sign ++ positional c t

end Crossing.Decimal
