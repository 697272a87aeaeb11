/-!
# Doubles with a fixed number of decimal places

`Decimal.fixed places x` is the exact value of `x` rounded to that many places, halves to the
even neighbour, without an exponent however large the number is.  A number that rounds to zero
is written without a sign.
-/

namespace Crossing.Decimal

/-- The whole number nearest to `n / d`, the even one of two that are equally near. -/
def roundHalfEven (n d : Nat) : Nat :=
  let q := n / d
  let twice := 2 * (n % d)
  if d < twice || (twice = d && q % 2 = 1) then q + 1 else q

/-- How many `10^-places` the absolute value of a finite double is, rounded. -/
def scaled (places : Nat) (x : Float) : Nat :=
  let bits := x.toBits.toNat
  let exponent := bits / Nat.pow 2 52 % 2048
  let fraction := bits % Nat.pow 2 52
  let significand := if exponent = 0 then fraction else Nat.pow 2 52 + fraction
  let power := exponent - 1
  roundHalfEven ((significand * Nat.pow 10 places) <<< (power - 1074)) (Nat.pow 2 (1074 - power))

/-- The number with exactly `places` digits after the point. -/
def fixed (places : Nat) (x : Float) : String :=
  if x.isNaN then "NaN"
  else if x.isInf then if x < 0.0 then "-inf" else "inf"
  else
    let n := scaled places x
    let fraction := toString (n % Nat.pow 10 places)
    let sign := if x < 0.0 && n != 0 then "-" else ""
    sign ++ toString (n / Nat.pow 10 places) ++ "." ++
      "".pushn '0' (places - fraction.length) ++ fraction

end Crossing.Decimal
