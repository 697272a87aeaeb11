import Mathlib.Algebra.Order.Floor.Semiring
import Mathlib.Analysis.Complex.Norm
import Mathlib.Analysis.SpecialFunctions.Complex.Arg
import Mathlib.Analysis.SpecialFunctions.Trigonometric.Basic
import Crossing.Path

/-!
# Real numbers as scalars

At the real numbers nothing that the library computes is rounded, no number is too large to be
counted, and roots and directions are what they are meant to be.  This is the instance at which the
geometry itself can be reasoned about: what is proved here holds of exact arithmetic, and of doubles
as far as rounding does not matter.

Arithmetic of distances cannot fail there, so it comes down to that of `ℝ` by simp.  Points are a
metric space, that of the complex plane, and `Point.distance` is its distance
(`Point.distance_eq_dist`).
-/

namespace Crossing

noncomputable instance : Scalar ℝ where
  decidableLT := inferInstance
  decidableLE := inferInstance
  ofNat n := n
  isFinite _ := true
  quantize x := x
  sqrt := Real.sqrt
  sin := Real.sin
  cos := Real.cos
  atan2 y x := Complex.arg ⟨x, y⟩
  pi := Real.pi
  modulo x m := x - m * ⌊x / m⌋
  ceilNat x := ⌈x⌉₊
  floorNat x := ⌊x⌋₊
  turn := Scalar.exactTurn

namespace Scalar

@[simp] lemma ofNat_eq (n : ℕ) : (ofNat n : ℝ) = n := rfl

@[simp] lemma ceilNat_eq (x : ℝ) : ceilNat x = ⌈x⌉₊ := rfl

end Scalar

/-! ## Distances -/

namespace Distance

@[simp] lemma metres_zero : (zero : Distance ℝ).metres = 0 := by
  unfold zero
  norm_num

lemma metres_epsilon : (epsilon : Distance ℝ).metres = 1 / 100 := by
  unfold epsilon
  norm_num

lemma le_iff {a b : Distance ℝ} : a ≤ b ↔ a.metres ≤ b.metres := Iff.rfl

@[simp] lemma isZero_iff {a : Distance ℝ} : a.isZero = true ↔ a.metres = 0 := by
  have hzero : a.isZero = (decide (a.metres ≤ 0.0) && decide ((0.0 : ℝ) ≤ a.metres)) := rfl
  have hliteral : (0.0 : ℝ) = 0 := by norm_num
  rw [hzero, hliteral, Bool.and_eq_true, decide_eq_true_eq, decide_eq_true_eq, le_antisymm_iff]

@[simp] lemma add_eq (a b : Distance ℝ) : a.add b = .ok ⟨a.metres + b.metres⟩ := rfl

@[simp] lemma sub_eq (a b : Distance ℝ) : a.sub b = .ok ⟨a.metres - b.metres⟩ := rfl

@[simp] lemma scale_eq (k : ℝ) (a : Distance ℝ) : scale k a = .ok ⟨a.metres * k⟩ := rfl

lemma ratio_eq (a : Distance ℝ) {b : Distance ℝ} (h : b.metres ≠ 0) :
    a.ratio b = .ok (a.metres / b.metres) := by
  rw [ratio, if_neg (by simpa using h)]

/-- The sum of distances is their sum in metres. -/
lemma sum_eq (ds : List (Distance ℝ)) : sum ds = .ok ⟨(ds.map metres).sum⟩ := by
  have hfrom : ∀ (ds : List (Distance ℝ)) (a : Distance ℝ),
      ds.foldlM add a = (.ok ⟨a.metres + (ds.map metres).sum⟩ : Outcome ℝ _) := by
    intro ds
    induction ds with
    | nil => simp [pure, Except.pure]
    | cons d ds ih =>
        intro a
        rw [List.foldlM_cons, add_eq, List.map_cons, List.sum_cons, ← add_assoc]
        exact ih _
  rw [sum, hfrom, metres_zero, zero_add]

end Distance

/-! ## Points -/

namespace Point

/-- The point as a complex number. -/
def complex (p : Point ℝ) : ℂ := ⟨p.x, p.y⟩

lemma complex_injective : Function.Injective complex := by
  rintro ⟨x, y⟩ ⟨x', y'⟩ h
  simpa [complex] using h

noncomputable instance : MetricSpace (Point ℝ) :=
  .induced complex complex_injective inferInstance

lemma dist_eq_sqrt (p q : Point ℝ) : dist p q = √((p.x - q.x) ^ 2 + (p.y - q.y) ^ 2) :=
  Complex.dist_eq_re_im _ _

@[simp] lemma distance_eq_dist (p q : Point ℝ) : p.distance q = .ok ⟨dist p q⟩ := by
  rw [dist_eq_sqrt, sq, sq]
  rfl

/-- The point at a part of the way from one point to another. -/
def onWay (p q : Point ℝ) (part : ℝ) : Point ℝ :=
  ⟨p.x + part * (q.x - p.x), p.y + part * (q.y - p.y)⟩

@[simp] lemma lerp_eq (p q : Point ℝ) (part : ℝ) : p.lerp q part = .ok (p.onWay q part) := rfl

@[simp] lemma onWay_zero (p q : Point ℝ) : p.onWay q 0 = p := by simp [onWay]

@[simp] lemma onWay_one (p q : Point ℝ) : p.onWay q 1 = q := by simp [onWay]

/-- Along a straight way points are as far apart as their parts. -/
lemma dist_onWay (p q : Point ℝ) (s t : ℝ) :
    dist (p.onWay q s) (p.onWay q t) = |s - t| * dist p q := by
  rw [dist_eq_sqrt, dist_eq_sqrt, ← Real.sqrt_sq_eq_abs, ← Real.sqrt_mul (sq_nonneg _)]
  congr 1
  simp only [onWay]
  ring

end Point

@[simp] lemma Path.step_eq (a b : Waypoint ℝ) :
    Path.step a b = .ok ⟨dist a.position b.position⟩ := Point.distance_eq_dist _ _

end Crossing
