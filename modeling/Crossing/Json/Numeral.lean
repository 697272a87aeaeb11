import Crossing.Json.Value

/-!
# Numbers in JSON

A numeral is digits, perhaps a point and more digits, perhaps a power of ten.  Without point and
power it is a whole number, as long as it fits 64 bits, and is read as it stands.  Every other
numeral is read in two steps:

* the **significand** is the count that its digits spell, taken from the left for as long as the
  count fits 64 bits (`absorb`); digits that found no room before the point are made up for in
  the power of ten, those after the point are dropped;
* the significand is then scaled by the power of ten (`scale?`), with one product, or with one
  quotient for every `10^308`.

Each step rounds once at most where the numbers of `K` round, so the result need not be the number
of `K` that is nearest to the decimal: `3e23` is three times the double nearest to `10^23`, one
step below the double nearest to `3 · 10^23`.  A result past the range of `K` is `Json.void`.
-/

namespace Crossing.Json

/-! ## Spelling -/

/-- The value of a digit. -/
def digitValue (d : Char) : Nat := d.toNat - '0'.toNat

/-- The value of a run of digits. -/
def digitsValue (ds : List Char) : Nat := ds.foldl (fun n d => 10 * n + digitValue d) 0

/-- A run of at least one digit. -/
def digits? (cs : List Char) : Option (List Char × List Char) :=
  match cs.span Char.isDigit with
  | ([], _) => none
  | (ds, rest) => some (ds, rest)

/-- The digits before the point: a single zero, or digits of which the first is none. -/
def wholePart? (cs : List Char) : Option (List Char × List Char) :=
  match cs with
  | '0' :: rest => if (rest.head?.map Char.isDigit).getD false then none else some (['0'], rest)
  | _ => digits? cs

/-- The digits after a point, if there is one. -/
def fraction? (cs : List Char) : Option (Option (List Char) × List Char) :=
  match cs with
  | '.' :: rest => (digits? rest).map fun (ds, rest) => (some ds, rest)
  | _ => some (none, cs)

/-- The power of ten after an `e`, if there is one. -/
def exponent? (cs : List Char) : Option (Option Int × List Char) :=
  match cs with
  | 'e' :: rest | 'E' :: rest =>
    match rest with
    | '-' :: rest => (digits? rest).map fun (ds, rest) => (some (-(digitsValue ds : Int)), rest)
    | '+' :: rest => (digits? rest).map fun (ds, rest) => (some (digitsValue ds : Int), rest)
    | _ => (digits? rest).map fun (ds, rest) => (some (digitsValue ds : Int), rest)
  | _ => some (none, cs)

/-! ## Significands -/

/-- A count followed by digits, for as long as it stays below `2^64`, and the digits left over. -/
def absorb (n : Nat) : List Char → Nat × List Char
  | [] => (n, [])
  | d :: ds =>
    let next := 10 * n + digitValue d
    if next < Nat.pow 2 64 then absorb next ds else (n, d :: ds)

/-! ## Scaling -/

section Values

variable {K : Type} [Scalar K]

/-- A count as a number. -/
def ofCount (n : Nat) : K := OfScientific.ofScientific n false 0

/-- A power of ten. -/
def powerOfTen (exponent : Nat) : K := OfScientific.ofScientific 1 false exponent

/-- `x · 10^-exponent`; a number that has shrunk to zero stays there. -/
def shrink (x : K) (exponent : Nat) : K :=
  if exponent ≤ 308 then x / powerOfTen exponent
  else if Scalar.isZero x then x
  else shrink (x / powerOfTen 308) (exponent - 308)
termination_by exponent

/-- `x · 10^exponent`, if that is in range.  No number but zero has room for more than 308 places
to the left. -/
def scale? (x : K) : Int → Option K
  | .negSucc exponent => some (shrink x (exponent + 1))
  | .ofNat exponent =>
    if exponent ≤ 308 then
      let scaled := x * powerOfTen exponent
      if Scalar.isFinite scaled then some scaled else none
    else if Scalar.isZero x then some x
    else none

/-! ## Numerals -/

/-- **A number.**  Minus zero is no whole number, so that its sign survives. -/
def numeral? (cs : List Char) : Option (Json K × List Char) := do
  let (negative, cs) := match cs with
    | '-' :: rest => (true, rest)
    | _ => (false, cs)
  let (whole, cs) ← wholePart? cs
  let (fraction, cs) ← fraction? cs
  let (exponent, cs) ← exponent? cs
  let (count, beyond) := absorb 0 whole
  match fraction, exponent, beyond, negative && count = 0 with
  | none, none, [], false =>
    let n : Int := count
    return (integer (if negative then -n else n), cs)
  | _, _, _, _ =>
    let fraction := fraction.getD []
    let (significand, dropped) := absorb count fraction
    let places : Int := fraction.length - dropped.length
    let x : Option K := scale? (ofCount significand) (exponent.getD 0 + beyond.length - places)
    match x with
    | some x => return (real (if negative then -x else x), cs)
    | none => return (void, cs)

end Values

end Crossing.Json
