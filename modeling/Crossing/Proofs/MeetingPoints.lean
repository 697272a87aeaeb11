import Mathlib.Tactic.LinearCombination
import Crossing.Proofs.Polylines

/-!
# Where two segments meet

A segment has the points at the parts of its way from zero to one (`Segment.Holds`).  Two segments
have a common point if the way from the start of the one to the start of the other can be made up
of a part of each, which is two equations for two unknown parts.  If their cross product is not
zero there is one solution (`Segment.pointOnWay_eq_iff`), so the segments meet exactly if both parts
of it are between zero and one, and then in one point only.

`Segment.crossing` computes both parts, but the point from the first of them alone.  It is still the
same point when the segments change places (`Segment.crossing_spec`): both answers are the one
common point.

Numbers are exact here, of any ordered field with whole parts.  Of the cross product it is asked
that it is not so small that segments count as parallel.
-/

namespace Crossing

namespace FourPlaces

variable {F : Type} [Field F] [LinearOrder F] [FloorRing F] [IsStrictOrderedRing F]
  {f : Functions F}

lemma one_eq : (1.0 : FourPlaces f) = 1 := by norm_num

lemma magnitude_eq (x : FourPlaces f) : Scalar.magnitude x = |x| := by
  rw [Scalar.magnitude, zero_eq]
  split
  · next h => rw [abs_of_nonpos h, zero_sub]
  · next h => rw [abs_of_pos (not_le.mp h)]

end FourPlaces

namespace Segment

variable {F : Type} [Field F] [LinearOrder F] [FloorRing F] [IsStrictOrderedRing F]
  {f : Functions F} (s other : Segment (FourPlaces f)) (t u : FourPlaces f)
  (p : Point (FourPlaces f))

open FourPlaces

/-! ## Points of a segment -/

/-- **The point lies on the segment**, its ends included. -/
def Holds : Prop := ∃ t, 0 ≤ t ∧ t ≤ 1 ∧ pointOnWay s.start s.finish t = p

lemma isPart_iff : isPart t = true ↔ 0 ≤ t ∧ t ≤ 1 := by
  rw [isPart, zero_eq, one_eq, Bool.and_eq_true, decide_eq_true_eq, decide_eq_true_eq]

lemma parallelBound_pos : (0 : FourPlaces f) < parallelBound := by
  unfold parallelBound
  norm_num

/-! ## The parts at which segments meet -/

/-- The cross product of the ways that two segments go. -/
def cross : FourPlaces f :=
  (s.finish.x - s.start.x) * (other.finish.y - other.start.y) -
    (s.finish.y - s.start.y) * (other.finish.x - other.start.x)

/-- At which part of the first segment the lines through the two meet. -/
def meetingPart : FourPlaces f :=
  ((other.start.x - s.start.x) * (other.finish.y - other.start.y) -
    (other.start.y - s.start.y) * (other.finish.x - other.start.x)) / s.cross other

lemma cross_swap : other.cross s = -s.cross other := by
  unfold cross
  ring

/-- The part of the second segment, in the terms in which that of the first is computed. -/
lemma meetingPart_swap : other.meetingPart s =
    ((other.start.x - s.start.x) * (s.finish.y - s.start.y) -
      (other.start.y - s.start.y) * (s.finish.x - s.start.x)) / s.cross other := by
  rw [meetingPart, cross_swap, div_neg, ← neg_div]
  congr 1
  ring

variable {s other t u p}

/-- **The lines through two segments meet once**, unless the segments are parallel. -/
lemma pointOnWay_eq_iff (h : s.cross other ≠ 0) :
    pointOnWay s.start s.finish t = pointOnWay other.start other.finish u ↔
      t = s.meetingPart other ∧ u = other.meetingPart s := by
  rw [meetingPart_swap s other, meetingPart, eq_div_iff h, eq_div_iff h, pointOnWay, pointOnWay,
    Point.mk.injEq]
  constructor
  · rintro ⟨hx, hy⟩
    unfold cross
    constructor
    · linear_combination (other.finish.y - other.start.y) * hx -
        (other.finish.x - other.start.x) * hy
    · linear_combination (s.finish.y - s.start.y) * hx - (s.finish.x - s.start.x) * hy
  · rintro ⟨ht, hu⟩
    constructor
    · refine mul_right_cancel₀ h ?_
      unfold cross at *
      linear_combination (s.finish.x - s.start.x) * ht - (other.finish.x - other.start.x) * hu
    · refine mul_right_cancel₀ h ?_
      unfold cross at *
      linear_combination (s.finish.y - s.start.y) * ht - (other.finish.y - other.start.y) * hu

/-- The segments have a common point exactly if both parts are between zero and one, and then it is
the point there. -/
lemma holds_both_iff (h : s.cross other ≠ 0) :
    s.Holds p ∧ other.Holds p ↔
      (isPart (s.meetingPart other) = true ∧ isPart (other.meetingPart s) = true) ∧
        pointOnWay s.start s.finish (s.meetingPart other) = p := by
  rw [isPart_iff, isPart_iff]
  constructor
  · rintro ⟨⟨t, ht₀, ht₁, rfl⟩, u, hu₀, hu₁, hmeet⟩
    obtain ⟨rfl, rfl⟩ := (pointOnWay_eq_iff h).mp hmeet.symm
    exact ⟨⟨⟨ht₀, ht₁⟩, hu₀, hu₁⟩, rfl⟩
  · rintro ⟨⟨⟨ht₀, ht₁⟩, hu₀, hu₁⟩, rfl⟩
    exact ⟨⟨_, ht₀, ht₁, rfl⟩, _, hu₀, hu₁, ((pointOnWay_eq_iff h).mpr ⟨rfl, rfl⟩).symm⟩

/-! ## What is computed -/

lemma crossingPart_eq (h : parallelBound ≤ |s.cross other|) :
    s.crossingPart other =
      if isPart (s.meetingPart other) && isPart (other.meetingPart s) then
        some (s.meetingPart other)
      else none := by
  have hsteep : ¬ Scalar.magnitude (s.cross other) < parallelBound := by
    rw [magnitude_eq]
    exact not_lt.mpr h
  rw [meetingPart_swap s other]
  exact if_neg hsteep

/-- The answer that is computed is the common point, if there is one. -/
lemma exists_crossing (h : parallelBound ≤ |s.cross other|) :
    ∃ found, s.crossing other = .ok found ∧ ∀ p, found = some p ↔ s.Holds p ∧ other.Holds p := by
  have hcross : s.cross other ≠ 0 := abs_pos.mp (parallelBound_pos.trans_le h)
  refine ⟨(s.crossingPart other).map (pointOnWay s.start s.finish), ?_, fun p => ?_⟩
  · rw [crossing]
    cases s.crossingPart other <;> rfl
  · rw [holds_both_iff hcross, crossingPart_eq h, ← Bool.and_eq_true]
    split
    · next hparts => simp [hparts]
    · next hparts => simp [hparts]

/-- **Where two segments meet.**  Unless they are so nearly parallel that they count as parallel,
the answer is their common point, ends included, and there is an answer exactly if they have one;
the answer is the same when they change places. -/
theorem crossing_spec (h : parallelBound ≤ |s.cross other|) :
    ∃ found, s.crossing other = .ok found ∧ other.crossing s = .ok found ∧
      s.crosses other = .ok found.isSome ∧
      (found.isSome = true ↔ ∃ p, s.Holds p ∧ other.Holds p) ∧
      ∀ p, found = some p ↔ s.Holds p ∧ other.Holds p := by
  have hswap : parallelBound ≤ |other.cross s| := by rwa [cross_swap, abs_neg]
  obtain ⟨found, hfound, hmeet⟩ := exists_crossing h
  obtain ⟨found', hfound', hmeet'⟩ := exists_crossing hswap
  have hsame : found = found' := by
    ext p
    rw [hmeet, hmeet', and_comm]
  subst hsame
  refine ⟨found, hfound, hfound', ?_, ?_, hmeet⟩
  · rw [crosses, hfound]
    rfl
  · rw [Option.isSome_iff_exists]
    exact exists_congr hmeet

/-- Two segments that touch at their ends, a corner of a way. -/
def alongCorner : Segment (FourPlaces rationals) := ⟨⟨0.0, 0.0⟩, ⟨10.0, 0.0⟩⟩

def behindCorner : Segment (FourPlaces rationals) := ⟨⟨10.0, 0.0⟩, ⟨7.0, 5.0⟩⟩

/-- They meet in the corner. -/
theorem crossing_spec_corner :
    parallelBound ≤ |alongCorner.cross behindCorner| ∧
      alongCorner.crossing behindCorner = .ok (some ⟨10.0, 0.0⟩) ∧
      ∀ p, alongCorner.Holds p ∧ behindCorner.Holds p ↔ p = ⟨10.0, 0.0⟩ := by
  have hsteep : parallelBound ≤ |alongCorner.cross behindCorner| := by decide +kernel
  have hcorner : alongCorner.crossing behindCorner = .ok (some ⟨10.0, 0.0⟩) := by decide +kernel
  obtain ⟨found, hfound, -, -, -, hmeet⟩ := crossing_spec hsteep
  cases hcorner.symm.trans hfound
  refine ⟨hsteep, hcorner, fun p => ?_⟩
  rw [← hmeet, Option.some.injEq, eq_comm]

end Segment

end Crossing
