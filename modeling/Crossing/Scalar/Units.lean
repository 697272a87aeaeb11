/-!
# The integers behind doubles

Every finite double is a whole number of `2^-1074`ths, its `units`.  Sums and remainders of units
are exact, so what has to be exact about doubles is computed there.
-/

namespace Crossing.Binary64

/-- How many `2^-1074`ths the absolute value of a finite double is. -/
def unitsAbs (x : Float) : Nat :=
  let bits := x.toBits.toNat
  let exponent := bits / Nat.pow 2 52 % 2048
  let fraction := bits % Nat.pow 2 52
  if exponent = 0 then fraction else (Nat.pow 2 52 + fraction) <<< (exponent - 1)

/-- Does the number carry a minus sign?  Negative zero does. -/
def isNegative (x : Float) : Bool := Nat.pow 2 63 ≤ x.toBits.toNat

/-- How many `2^-1074`ths a finite double is. -/
def units (x : Float) : Int :=
  if isNegative x then -(unitsAbs x : Int) else unitsAbs x

/-- The double that is `n` times `2^-1074`, for an `n` that some double has. -/
def ofUnits (n : Nat) : Float :=
  let shift := n.log2 - 52
  Float.ofBits (UInt64.ofNat ((shift <<< 52) + (n >>> shift)))

end Crossing.Binary64
