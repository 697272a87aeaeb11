import Mathlib.Algebra.Order.Floor.Ring
import Mathlib.Tactic.Linarith
import Crossing.Object
import Crossing.Proofs.FourPlaces

/-!
# Half a turn

Two opposite directions are half a turn apart.  So what one of them deviates from a third, and what
the other does, make up half a turn, if angles are exact (`Angle.HalfTurns`).  That is so for exact
numbers as soon as half a turn is more than nothing; with doubles it is so up to rounding.

Along a lane **either way** is then a question that a pose and its opposite answer alike
(`Pose.isAlong_reversed`).
-/

namespace Crossing

/-! ## Directions modulo a full turn -/

section Turns

variable {F : Type} [Field F] [LinearOrder F] [FloorRing F] [IsStrictOrderedRing F] {p : F}

/-- What is left of a number after taking out whole multiples of `p + p`. -/
def remainder (p x : F) : F := x - (p + p) * ⌊x / (p + p)⌋

/-- The same between `-p` and `p`. -/
def signedRemainder (p x : F) : F :=
  if p < remainder p x then remainder p x - (p + p) else remainder p x

lemma remainder_mem (hp : 0 < p) (x : F) : 0 ≤ remainder p x ∧ remainder p x < p + p := by
  have hfloor := Int.floor_le (x / (p + p))
  have hlt := Int.lt_floor_add_one (x / (p + p))
  have hpos : 0 < p + p := by linarith
  rw [le_div_iff₀ hpos] at hfloor
  rw [div_lt_iff₀ hpos] at hlt
  unfold remainder
  constructor <;> linarith

/-- A number with a remainder in the range has that remainder. -/
lemma remainder_eq (hp : 0 < p) {x r : F} {n : ℤ} (h : x = r + (p + p) * n) (hr : 0 ≤ r)
    (hlt : r < p + p) : remainder p x = r := by
  have hpos : 0 < p + p := by linarith
  have hfloor : ⌊x / (p + p)⌋ = n := by
    rw [Int.floor_eq_iff, le_div_iff₀ hpos, div_lt_iff₀ hpos]
    constructor <;> linarith
  rw [remainder, hfloor, h]
  ring

lemma abs_signedRemainder_le (hp : 0 < p) (x : F) : |signedRemainder p x| ≤ p := by
  obtain ⟨hzero, hfull⟩ := remainder_mem hp x
  unfold signedRemainder
  split
  · next hhigh =>
    rw [abs_of_nonpos (by linarith)]
    linarith
  · next hlow =>
    rw [abs_of_nonneg hzero]
    exact not_lt.mp hlow

/-- Up to half a turn nothing is taken out. -/
lemma signedRemainder_eq (hp : 0 < p) {x : F} (h₀ : 0 ≤ x) (h₁ : x ≤ p) :
    signedRemainder p x = x := by
  have hrest : remainder p x = x :=
    remainder_eq hp (n := 0) (by rw [Int.cast_zero, mul_zero, add_zero]) h₀ (by linarith)
  rw [signedRemainder, hrest, if_neg (not_lt.mpr h₁)]

lemma remainder_add_half (hp : 0 < p) (x : F) :
    remainder p (x + p) = if remainder p x < p then remainder p x + p else remainder p x - p := by
  obtain ⟨hzero, hfull⟩ := remainder_mem hp x
  have hx : x = remainder p x + (p + p) * ⌊x / (p + p)⌋ := by
    unfold remainder
    ring
  split
  · next hlow =>
    exact remainder_eq hp (n := ⌊x / (p + p)⌋) (by linarith) (by linarith) (by linarith)
  · next hhigh =>
    refine remainder_eq hp (n := ⌊x / (p + p)⌋ + 1) ?_ (by linarith) (by linarith)
    push_cast
    linarith

/-- Half of the way around, a direction is as far away as is missing from half a turn. -/
lemma abs_signedRemainder_add_half (hp : 0 < p) (x : F) :
    |signedRemainder p (x + p)| = p - |signedRemainder p x| := by
  obtain ⟨hzero, hfull⟩ := remainder_mem hp x
  unfold signedRemainder
  rw [remainder_add_half hp]
  rcases lt_trichotomy (remainder p x) p with hlow | heq | hhigh
  · rw [if_pos hlow, if_neg hlow.not_gt, abs_of_nonneg hzero]
    rcases hzero.eq_or_lt with hnone | hpos
    · rw [← hnone, zero_add, if_neg (lt_irrefl p), abs_of_pos hp, sub_zero]
    · rw [if_pos (by linarith), abs_of_nonpos (by linarith)]
      ring
  · rw [heq, if_neg (lt_irrefl p), sub_self, if_neg hp.not_gt, if_neg (lt_irrefl p), abs_zero,
      abs_of_pos hp, sub_self]
  · rw [if_neg hhigh.not_gt, if_pos hhigh, if_neg (by linarith), abs_of_nonneg (by linarith),
      abs_of_nonpos (by linarith)]
    ring

end Turns

/-! ## Angles -/

/-- **Angles are exact as far as half a turn goes**: what a direction deviates from another, and
what the opposite one does, make up half a turn. -/
structure Angle.HalfTurns (K : Type) [Scalar K] : Prop where
  deviation_opposite : ∀ a b : Angle K, a.deviation b.opposite = Scalar.pi - a.deviation b
  pi_sub_pi_sub : ∀ x : K, Scalar.pi - (Scalar.pi - x) = x

namespace FourPlaces

variable {F : Type} [Field F] [LinearOrder F] [FloorRing F] [IsStrictOrderedRing F]
  {f : Functions F}

lemma fullTurn_eq : (Scalar.fullTurn : FourPlaces f) = Scalar.pi + Scalar.pi := by
  rw [Scalar.fullTurn, two_eq, two_mul]

lemma normalized_eq (a : Angle (FourPlaces f)) :
    a.normalized = remainder (Scalar.pi : FourPlaces f) a.radians := by
  rw [Angle.normalized, fullTurn_eq]
  rfl

lemma deviation_eq (a b : Angle (FourPlaces f)) :
    a.deviation b = |signedRemainder (Scalar.pi : FourPlaces f) (b.radians - a.radians)| := by
  have hrotation : a.rotationTowards b =
      signedRemainder (Scalar.pi : FourPlaces f) (b.radians - a.radians) := by
    rw [Angle.rotationTowards, fullTurn_eq]
    rfl
  rw [Angle.deviation, hrotation, Scalar.magnitude, zero_eq]
  split
  · next hneg => rw [abs_of_nonpos hneg, zero_sub]
  · next hpos => rw [abs_of_pos (not_le.mp hpos)]

/-- **Angles of exact numbers are exact**, if half a turn is more than nothing. -/
lemma halfTurns (hpi : (0 : FourPlaces f) < Scalar.pi) : Angle.HalfTurns (FourPlaces f) where
  deviation_opposite a b := by
    have hadd : b.opposite.radians - a.radians = b.radians - a.radians + Scalar.pi := by
      rw [Angle.opposite]
      ring
    rw [deviation_eq, deviation_eq, hadd, abs_signedRemainder_add_half hpi]
  pi_sub_pi_sub x := sub_sub_cancel _ _

end FourPlaces

/-! ## Along a lane, either way -/

variable {K : Type} [Scalar K]

/-- **A pose and its opposite go along the same lanes**, if going against a lane counts. -/
lemma Pose.isAlong_reversed (h : Angle.HalfTurns K) (pose : Pose K) (lanelets : List (Lanelet K))
    (threshold : Angle K) (margin : Distance K) :
    pose.reversed.isAlong lanelets threshold true margin =
      pose.isAlong lanelets threshold true margin := by
  have hyaw : pose.reversed.yaw = pose.yaw.opposite := rfl
  have hposition : pose.reversed.position = pose.position := rfl
  unfold isAlong
  simp only [hyaw, hposition, h.deviation_opposite, h.pi_sub_pi_sub, Bool.true_and,
    Bool.or_comm]

end Crossing
