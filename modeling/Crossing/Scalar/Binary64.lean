import Crossing.Scalar
import Crossing.Decimal.Shortest
import Crossing.Scalar.Orientation

/-!
# Doubles as scalars

The double precision numbers are the `K` that runs.  Three things need more than the processor's
instructions.

* `remainder` works on the integers behind the numbers (`units`).  It is exact, because the
  remainder of two whole numbers of units is one again and always fits a double.
* `turn`, the orientation of three points, has a module of its own (`Scalar/Orientation`).
* Literals go through `readDecimal`, which answers zero or infinity for exponents so far out that
  the power of ten need not be computed.
-/

namespace Crossing

namespace Binary64

/-! ## Remainders -/

/-- The exact remainder of the division of `x` by `m`, with the sign of `x`. -/
def remainder (x m : Float) : Float :=
  if !x.isFinite || m.isNaN || unitsAbs m = 0 then 0.0 / 0.0
  else if !m.isFinite then x
  else
    let rest := ofUnits (unitsAbs x % unitsAbs m)
    if isNegative x then -rest else rest

/-- The remainder moved into the range from zero to `m`. -/
def modulo (x m : Float) : Float :=
  let rest := remainder x m
  if rest < 0.0 then rest + m.abs else rest

/-! ## Rounding and reading -/

/-- Four decimal places, halves away from zero. -/
def quantize (x : Float) : Float := (x * 10000.0).round / 10000.0

/-- The double nearest to `mantissa · 10^±exponent`. -/
def readDecimal (mantissa : Nat) (negative : Bool) (exponent : Nat) : Float :=
  if mantissa = 0 then 0.0
  else if negative then
    if (mantissa.log2 + 1) / 3 + 400 < exponent then 0.0
    else Float.ofScientific mantissa true exponent
  else if 400 < exponent then 1.0 / 0.0
  else Float.ofScientific mantissa false exponent

/-- The largest 64-bit count, for numbers past it; `0` for negative and undefined ones. -/
def toCount (x : Float) : Nat := x.toUInt64.toNat

end Binary64

instance : Scalar Float where
  ofScientific := Binary64.readDecimal
  decidableLT := Float.decLt
  decidableLE := Float.decLe
  ofNat := Float.ofNat
  isFinite := Float.isFinite
  quantize := Binary64.quantize
  sqrt := Float.sqrt
  sin := Float.sin
  cos := Float.cos
  atan2 := Float.atan2
  pi := Float.ofBits 0x400921FB54442D18
  modulo := Binary64.modulo
  ceilNat := fun x => Binary64.toCount x.ceil
  floorNat := fun x => Binary64.toCount x.floor
  turn := Binary64.turn

instance : Numeral Float := ⟨Decimal.shortest⟩

end Crossing
