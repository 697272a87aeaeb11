import Crossing.Scalar.Units

/-!
# The orientation of three points in doubles

Whether a third point lies left of the line from the first to the second, right of it or on it is
the sign of a cross product, a difference of two products of differences.  `Binary64.turn` computes
it in up to four passes.  Each pass is more exact than the one before, and all but the last are
believed only where their result is further from zero than its error can be.

1. Everything is rounded (`roughBound`).
2. The differences are rounded, and their cross product is exact (`crossBound`).
3. The rests of the differences are added, rounded (`correctionBound`).
4. All products of differences and rests are summed exactly, in `units`.

A product comes with its rest (`productWithRest`), and the two are the exact product unless the
rest, or the product itself, is too small for a double.  Short of that the orientation is exact.
Differences so small that their products vanish make their points lie on one line.
-/

namespace Crossing.Binary64

/-! ## Sums and products with their rests -/

/-- The rounded sum and what rounding took from it; both together are the exact sum. -/
def sumWithRest (a b : Float) : Float × Float :=
  let sum := a + b
  let fromB := sum - a
  let fromA := sum - fromB
  (sum, (a - fromA) + (b - fromB))

/-- The rounded difference and what rounding took from it. -/
def differenceWithRest (a b : Float) : Float × Float := sumWithRest a (-b)

/-- A number as the sum of two that have half as many digits each. -/
def halves (a : Float) : Float × Float :=
  let shifted := 134217729.0 * a
  let high := shifted - (shifted - a)
  (high, a - high)

/-- The rounded product and what rounding took from it. -/
def productWithRest (a b : Float) : Float × Float :=
  let product := a * b
  let (aHigh, aLow) := halves a
  let (bHigh, bLow) := halves b
  let rest := ((product - aHigh * bHigh) - aLow * bHigh) - aHigh * bLow
  (product, aLow * bLow - rest)

/-! ## Cross products -/

/-- The four products and rests whose sum is `a₁ · b₂ - a₂ · b₁`. -/
def crossTerms (a₁ a₂ b₁ b₂ : Float) : List Float :=
  let (left, leftRest) := productWithRest a₁ b₂
  let (right, rightRest) := productWithRest a₂ b₁
  [left, leftRest, -right, -rightRest]

/-- `a₁ · b₂ - a₂ · b₁` from its products and rests, the smallest parts first. -/
def cross (a₁ a₂ b₁ b₂ : Float) : Float :=
  let (left, leftRest) := productWithRest a₁ b₂
  let (right, rightRest) := productWithRest a₂ b₁
  let (low, part₀) := differenceWithRest leftRest rightRest
  let (high, middle) := sumWithRest left low
  let (low, part₁) := differenceWithRest middle right
  let (part₃, part₂) := sumWithRest high low
  part₀ + part₁ + part₂ + part₃

/-! ## Error bounds -/

/-- Half the distance from one to the next larger double. -/
def halfStep : Float := 1.1102230246251565e-16

/-- Error of the first pass, as a part of the sum of the absolute products. -/
def roughBound : Float := (3.0 + 16.0 * halfStep) * halfStep

/-- Error of the second pass, as a part of the sum of the absolute products. -/
def crossBound : Float := (2.0 + 12.0 * halfStep) * halfStep

/-- Error of the third pass, as a part of the sum of the absolute products. -/
def correctionBound : Float := (9.0 + 64.0 * halfStep) * halfStep * halfStep

/-- Error of the second pass, as a part of its result. -/
def resultBound : Float := (3.0 + 8.0 * halfStep) * halfStep

/-! ## Signs -/

/-- On which side of zero a number is; an undefined one is on none. -/
def side (x : Float) : Ordering := if x < 0.0 then .lt else if 0.0 < x then .gt else .eq

/-- The side of a number that is at least `bound` away from zero. -/
def clearSide (bound x : Float) : Option Ordering :=
  if x ≥ bound || -x ≥ bound then some (side x) else none

/-- The side of an exact sum. -/
def sumSide (terms : List Float) : Ordering :=
  if terms.all Float.isFinite then compare (terms.foldl (fun total x => total + units x) 0) 0 else .eq

/-! ## Orientation -/

/-- The passes after the first; `total` is the sum of the absolute products. -/
def refinedTurn (total x₁ y₁ x₂ y₂ x₃ y₃ : Float) : Ordering :=
  let (dx₁, rx₁) := differenceWithRest x₁ x₃
  let (dy₁, ry₁) := differenceWithRest y₁ y₃
  let (dx₂, rx₂) := differenceWithRest x₂ x₃
  let (dy₂, ry₂) := differenceWithRest y₂ y₃
  let product := cross dx₁ dy₁ dx₂ dy₂
  let corrected :=
    product + ((dx₁ * ry₂ + dy₂ * rx₁) - (dy₁ * rx₂ + dx₂ * ry₁))
  match clearSide (crossBound * total) product with
  | some s => s
  | none =>
    if rx₁ == 0.0 && ry₁ == 0.0 && rx₂ == 0.0 && ry₂ == 0.0 then side product
    else
      match clearSide (correctionBound * total + resultBound * product.abs) corrected with
      | some s => s
      | none =>
        sumSide (crossTerms dx₁ dy₁ dx₂ dy₂ ++ crossTerms rx₁ ry₁ dx₂ dy₂ ++
          crossTerms dx₁ dy₁ rx₂ ry₂ ++ crossTerms rx₁ ry₁ rx₂ ry₂)

/-- **The orientation of three points:** `.gt` when the third lies left of the line from the first
to the second, `.lt` when it lies right of it, `.eq` when it lies on it. -/
def turn (x₁ y₁ x₂ y₂ x₃ y₃ : Float) : Ordering :=
  let left := (x₁ - x₃) * (y₂ - y₃)
  let right := (y₁ - y₃) * (x₂ - x₃)
  let total := left.abs + right.abs
  match clearSide (roughBound * total) (left - right) with
  | some s => s
  | none => refinedTurn total x₁ y₁ x₂ y₂ x₃ y₃

end Crossing.Binary64
