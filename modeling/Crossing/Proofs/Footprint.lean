import Mathlib.Analysis.SpecialFunctions.Complex.Arg
import Crossing.Object
import Crossing.Proofs.Overflow
import Crossing.Proofs.Reals

/-!
# Which objects have an outline

An object that encloses nothing should have no outline, and `RoadUser.footprint` says so for boxes
without length or width and for outlines of which fewer than three corners are left.  Between those
boxes and the ones with an outline there are **slivers**: boxes with a side longer than nothing, but
not longer than the centimetre within which corners count as one.  Two of their corners fall
together with the other two, what is left encloses nothing, and since the corners of a box are
insisted on, a sliver is a breach.

**Corners.**  Numbers are exact and distances have four places (`FourPlaces`).  Directions are those
of the unit circle (`Functions.HasTurns`), so turning a box leaves its sides as they are, and two
corners are as far apart as they are for the object (`isSame_corner`).  What remains is to see which
of the four corners are kept: all of them, two if a side is short, one if the diagonal is.
-/

namespace Crossing

/-! ## Directions -/

/-- **Directions are those of the unit circle.** -/
def Functions.HasTurns {F : Type} [Field F] (f : Functions F) : Prop :=
  ∀ r, f.sin r * f.sin r + f.cos r * f.cos r = 1

/-- The root and the directions of real numbers. -/
noncomputable def reals : Functions ℝ where
  root := Scalar.sqrt
  sin := Scalar.sin
  cos := Scalar.cos
  atan2 := Scalar.atan2
  pi := Scalar.pi

lemma hasRoot_reals : reals.HasRoot where
  monotone _ _ _ _ h := Real.sqrt_le_sqrt h
  root_mul_self _ _ h := Real.sqrt_mul_self h

lemma hasTurns_reals : reals.HasTurns := fun r => by
  have hcircle := Real.sin_sq_add_cos_sq r
  rwa [sq, sq] at hcircle

/-! ## Halves on the grid -/

section Grid

variable {K : Type} [Field K] [LinearOrder K] [FloorRing K] [IsStrictOrderedRing K] {x : K}

/-- A number is rounded to `n` at most as long as it lies below `n` and a half. -/
lemma nearestInt_le_iff {n : ℤ} (hn : 0 ≤ n) : nearestInt x ≤ n ↔ x < n + 1 / 2 := by
  unfold nearestInt
  split
  · rw [← Int.lt_add_one_iff, Int.floor_lt]
    push_cast
    constructor <;> intro h <;> linarith
  · next hneg =>
    have hcast : (0 : K) ≤ n := by exact_mod_cast hn
    rw [Int.ceil_le]
    constructor <;> intro _ <;> linarith

/-- The stored half of a side is at most half a centimetre exactly below 101 ten-thousandths: on the
grid, the sides up to a centimetre. -/
lemma toGrid_half_le_iff : toGrid (x / 2) ≤ 1 / 200 ↔ x < 101 / 10000 := by
  have hround : nearestInt (x / 2 * 10000) ≤ 50 ↔ x / 2 * 10000 < (50 : ℤ) + 1 / 2 :=
    nearestInt_le_iff (by norm_num)
  have hcast : toGrid (x / 2) ≤ 1 / 200 ↔ (nearestInt (x / 2 * 10000) : K) ≤ (50 : ℤ) := by
    unfold toGrid
    push_cast
    constructor <;> intro h <;> linarith
  rw [hcast, Int.cast_le, hround]
  push_cast
  constructor <;> intro h <;> linarith

end Grid

/-! ## Four corners -/

namespace Region

variable {K : Type} [Scalar K] {a b c d : Point K}

lemma ofOutline_apart (hab : b.isSame a = .ok false) (hbc : c.isSame b = .ok false)
    (hcd : d.isSame c = .ok false) (had : a.isSame d = .ok false) :
    ofOutline [a, b, c, d] = .ok ⟨[a, b, c, d, a]⟩ := by
  simp [ofOutline, Chain.thin, Chain.thinAfter, openRing, hab, hbc, hcd, had, bind, Except.bind]

lemma ofOutline_short (hab : b.isSame a = .ok true) (hac : c.isSame a = .ok false)
    (hcd : d.isSame c = .ok true) (hca : a.isSame c = .ok false) :
    ofOutline [a, b, c, d] = Outcome.refuse (.fewCorners 2) := by
  simp [ofOutline, Chain.thin, Chain.thinAfter, openRing, hab, hac, hcd, hca, bind, Except.bind]

lemma ofOutline_narrow (hab : b.isSame a = .ok false) (hbc : c.isSame b = .ok true)
    (hbd : d.isSame b = .ok false) (had : a.isSame d = .ok true) :
    ofOutline [a, b, c, d] = Outcome.refuse (.fewCorners 2) := by
  simp [ofOutline, Chain.thin, Chain.thinAfter, openRing, hab, hbc, hbd, had, bind, Except.bind]

lemma ofOutline_tiny (hab : b.isSame a = .ok true) (hac : c.isSame a = .ok true)
    (had : d.isSame a = .ok true) :
    ofOutline [a, b, c, d] = Outcome.refuse (.fewCorners 1) := by
  simp [ofOutline, Chain.thin, Chain.thinAfter, openRing, hab, hac, had, bind, Except.bind]

end Region

/-! ## The corners of a box -/

namespace FourPlaces

variable {F : Type} [Field F] [LinearOrder F] [FloorRing F] [IsStrictOrderedRing F]
  {f : Functions F} {x y h w : FourPlaces f} {pose : Pose (FourPlaces f)}

lemma half_eq (a : Distance (FourPlaces f)) : a.half = .ok ⟨toGrid (a.metres / 2)⟩ := by
  have hnonzero : Scalar.isZero (2.0 : FourPlaces f) = false := by
    rw [Bool.eq_false_iff, ne_eq, isZero_iff, two_eq]
    norm_num
  rw [Distance.half, Distance.shrink, hnonzero, two_eq]
  rfl

/-- Where a point lies that is so far ahead of a pose and so far to its left: `Pose.toWorld`, which
always has an answer here. -/
def corner (pose : Pose (FourPlaces f)) (ahead left : FourPlaces f) : Point (FourPlaces f) :=
  let r := pose.yaw.normalized
  ⟨pose.position.x + (ahead * Scalar.cos r - left * Scalar.sin r),
    pose.position.y + (ahead * Scalar.sin r + left * Scalar.cos r)⟩

/-- Do points count as one that are so far apart along both axes? -/
def areClose (x y : FourPlaces f) : Bool :=
  decide (toGrid (Scalar.sqrt (x * x + y * y)) ≤ 1 / 100)

/-- Turning leaves distances as they are, so what counts is how far apart points are along the axes
of the pose. -/
lemma isSame_corner (hturn : f.HasTurns) (pose : Pose (FourPlaces f)) (a b a' b' : FourPlaces f) :
    (corner pose a b).isSame (corner pose a' b') = .ok (areClose |a - a'| |b - b'|) := by
  have hcircle : Scalar.sin pose.yaw.normalized * Scalar.sin pose.yaw.normalized +
    Scalar.cos pose.yaw.normalized * Scalar.cos pose.yaw.normalized = 1 := hturn _
  have hsquares : Scalar.square ((corner pose a b).x - (corner pose a' b').x) +
      Scalar.square ((corner pose a b).y - (corner pose a' b').y) =
        |a - a'| * |a - a'| + |b - b'| * |b - b'| := by
    rw [abs_mul_abs_self, abs_mul_abs_self]
    simp only [corner, Scalar.square]
    linear_combination ((a - a') * (a - a') + (b - b') * (b - b')) * hcircle
  have hdistance : (corner pose a b).distance (corner pose a' b') =
      .ok ⟨toGrid (Scalar.sqrt (|a - a'| * |a - a'| + |b - b'| * |b - b'|))⟩ := by
    rw [← hsquares]
    rfl
  rw [Point.isSame, Point.isNear, hdistance, areClose, ← metres_epsilon]
  rfl

lemma areClose_comm (x y : FourPlaces f) : areClose x y = areClose y x := by
  rw [areClose, areClose, add_comm]

/-- Along one axis points count as one up to a centimetre. -/
lemma areClose_zero (hf : f.HasRoot) (hx : OnGrid x) (hpos : 0 ≤ x) :
    areClose x 0 = decide (x ≤ 1 / 100) := by
  rw [areClose, mul_zero, add_zero, sqrt_mul_self hf hx hpos, hx.toGrid_eq]

/-- If the diagonal is short, so are the sides. -/
lemma areClose_side (hf : f.HasRoot) (h : areClose x y = true) : areClose x 0 = true := by
  have hle : x * x + 0 * 0 ≤ x * x + y * y := by
    rw [mul_zero]
    exact add_le_add_right (mul_self_nonneg y) _
  have hnonneg : 0 ≤ x * x + 0 * 0 := add_nonneg (mul_self_nonneg x) (mul_self_nonneg 0)
  exact decide_eq_true ((toGrid_mono (sqrt_mono hf hnonneg hle)).trans (of_decide_eq_true h))

/-- The corners of a box that reaches `h` ahead and `w` to the left. -/
def corners (pose : Pose (FourPlaces f)) (h w : FourPlaces f) : List (Point (FourPlaces f)) :=
  [corner pose h w, corner pose (-h) w, corner pose (-h) (-w), corner pose h (-w)]

/-- **Which corners of a box are left.** -/
lemma ofOutline_corners (hf : f.HasRoot) (hturn : f.HasTurns) (hh : 0 ≤ h) (hw : 0 ≤ w) :
    Region.ofOutline (corners pose h w) =
      if areClose (2 * h) 0 || areClose (2 * w) 0 then
        Outcome.refuse (.fewCorners (if areClose (2 * h) (2 * w) then 1 else 2))
      else .ok ⟨corners pose h w ++ [corner pose h w]⟩ := by
  have hahead : ∀ z : FourPlaces f, 0 ≤ z → |-z - z| = 2 * z ∧ |z - -z| = 2 * z := by
    intro z hz
    rw [← neg_add', abs_neg, sub_neg_eq_add, ← two_mul, abs_of_nonneg (by positivity)]
    exact ⟨rfl, rfl⟩
  obtain ⟨hh₁, hh₂⟩ := hahead h hh
  obtain ⟨hw₁, hw₂⟩ := hahead w hw
  have hsame := isSame_corner hturn pose
  have hcomm (z : FourPlaces f) := areClose_comm 0 z
  cases hshort : areClose (2 * h) 0 with
  | false =>
      -- a diagonal that is short has short sides
      have hdiagonal : areClose (2 * h) (2 * w) = false :=
        Bool.eq_false_iff.mpr fun hd => by simp [areClose_side hf hd] at hshort
      cases hnarrow : areClose (2 * w) 0 with
      | false =>
          refine Region.ofOutline_apart ?_ ?_ ?_ ?_ <;>
            simp only [hsame, hh₁, hh₂, hw₁, hw₂, sub_self, abs_zero, hcomm, hshort, hnarrow]
      | true =>
          rw [hdiagonal]
          refine Region.ofOutline_narrow ?_ ?_ ?_ ?_ <;>
            simp only [hsame, hh₁, hh₂, hw₁, hw₂, sub_self, abs_zero, hcomm, hshort, hnarrow,
              hdiagonal]
  | true =>
      cases hdiagonal : areClose (2 * h) (2 * w) with
      | false =>
          refine Region.ofOutline_short ?_ ?_ ?_ ?_ <;>
            simp only [hsame, hh₁, hh₂, hw₁, hw₂, sub_self, abs_zero, hshort, hdiagonal]
      | true =>
          have hnarrow : areClose (2 * w) 0 = true :=
            areClose_side hf ((areClose_comm _ _).trans hdiagonal)
          refine Region.ofOutline_tiny ?_ ?_ ?_ <;>
            simp only [hsame, hh₁, hw₁, sub_self, abs_zero, hcomm, hshort, hnarrow, hdiagonal]

lemma areClose_half (hf : f.HasRoot) (hx : 0 ≤ x) :
    areClose (2 * toGrid (x / 2)) 0 = true ↔ x < 101 / 10000 := by
  have hhalf : 0 ≤ toGrid (x / 2) := toGrid_nonneg (by linarith)
  have hgrid : OnGrid (2 * toGrid (x / 2)) := by
    rw [two_mul]
    exact (onGrid_toGrid _).add (onGrid_toGrid _)
  rw [areClose_zero hf hgrid (by linarith), decide_eq_true_iff, ← toGrid_half_le_iff]
  constructor <;> intro h <;> linarith

lemma rectangle_eq (pose : Pose (FourPlaces f)) (l w : Distance (FourPlaces f)) :
    Region.rectangle pose l w =
      (Region.ofOutline (corners pose (toGrid (l.metres / 2)) (toGrid (w.metres / 2)))).insist := by
  rw [Region.rectangle, half_eq, half_eq]
  dsimp only [bind, Except.bind]
  rw [neg_eq (onGrid_toGrid _), neg_eq (onGrid_toGrid _)]
  rfl

/-! ## Outlines -/

lemma exists_openRing (points : List (Point (FourPlaces f))) :
    ∃ ring, Region.openRing points = .ok ring ∧ ring.length ≤ points.length := by
  unfold Region.openRing
  split
  · next first rest =>
    split
    · next last _ =>
      cases hsame : first.isSame last with
      | error e => cases hsame
      | ok same => cases same <;> simp [bind, Except.bind]
    · exact ⟨[first], rfl, by simp⟩
  · exact ⟨[], rfl, Nat.le_refl _⟩

/-- An outline can be asked for any points; there is none for fewer than three. -/
lemma exists_ofOutline (points : List (Point (FourPlaces f))) :
    ∃ outline, (Region.ofOutline points).tolerate = .ok outline ∧
      (points.length < 3 → outline = none) := by
  have hcomputes : (Chain.thin Point.isSame points).Computes :=
    Chain.avoids_thin Point.computes_isSame
  obtain ⟨kept, hkept⟩ := exists_of_computes hcomputes
  have hle := (Chain.sublist_of_thin hkept).length_le
  obtain ⟨ring, hring, hle'⟩ := exists_openRing kept
  rw [Region.ofOutline, hkept]
  dsimp only [bind, Except.bind]
  rw [hring]
  dsimp only
  split
  · next heq =>
    exact ⟨_, rfl, fun h => by simp at hle'; omega⟩
  · exact ⟨none, rfl, fun _ => rfl⟩

end FourPlaces

/-! ## Who has an outline -/

/-- The two ends of a shorter side than this count as one point.  For a side that is stored, so to
four places, it means that it is not longer than a centimetre. -/
def Shape.leastSide {K : Type} [Scalar K] : Distance K := ⟨0.0101⟩

/-- **A sliver**: a box with both sides longer than nothing and one of them too short. -/
def Shape.IsSliver {K : Type} [Scalar K] (s : Shape K) : Prop :=
  ∃ length width, s = .box length width ∧ Distance.zero < length ∧ Distance.zero < width ∧
    (length < leastSide ∨ width < leastSide)

section Slivers

variable {K : Type} [Scalar K]

lemma Shape.isSliver_box {l w : Distance K} : (Shape.box l w).IsSliver ↔
    (Distance.zero < l ∧ Distance.zero < w) ∧ (l < leastSide ∨ w < leastSide) := by
  constructor
  · rintro ⟨l', w', h, hl, hw, hsides⟩
    cases h
    exact ⟨⟨hl, hw⟩, hsides⟩
  · rintro ⟨⟨hl, hw⟩, hsides⟩
    exact ⟨l, w, rfl, hl, hw, hsides⟩

lemma Shape.not_isSliver_outline (corners : List (K × K)) :
    ¬ (Shape.outline corners).IsSliver := by
  rintro ⟨l, w, h, -⟩
  cases h

end Slivers

section Footprint

variable {F : Type} [Field F] [LinearOrder F] [FloorRing F] [IsStrictOrderedRing F]
  {f : Functions F}

lemma FourPlaces.zero_lt_iff {d : Distance (FourPlaces f)} : Distance.zero < d ↔ 0 < d.metres := by
  rw [← metres_zero]
  rfl

lemma FourPlaces.lt_leastSide_iff {d : Distance (FourPlaces f)} :
    d < Shape.leastSide ↔ d.metres < 101 / 10000 := by
  have hleast : (Shape.leastSide : Distance (FourPlaces f)).metres = 101 / 10000 := by
    unfold Shape.leastSide
    norm_num
  rw [← hleast]
  rfl

/-- A box that encloses something has an outline unless one of its sides is short. -/
lemma Region.rectangle_answers (hf : f.HasRoot) (hturn : f.HasTurns) (pose : Pose (FourPlaces f))
    {l w : Distance (FourPlaces f)} (hl : Distance.zero < l) (hw : Distance.zero < w) :
    ((l < Shape.leastSide ∨ w < Shape.leastSide) → ∃ n < 3,
      Region.rectangle pose l w = Outcome.breach (.unmetDemand (.fewCorners n))) ∧
    (¬ (l < Shape.leastSide ∨ w < Shape.leastSide) →
      ∃ r, Region.rectangle pose l w = .ok r) := by
  rw [FourPlaces.zero_lt_iff] at hl hw
  have hl' : 0 ≤ toGrid (l.metres / 2) := toGrid_nonneg (by linarith)
  have hw' : 0 ≤ toGrid (w.metres / 2) := toGrid_nonneg (by linarith)
  rw [FourPlaces.lt_leastSide_iff, FourPlaces.lt_leastSide_iff, ← FourPlaces.areClose_half hf hl.le,
    ← FourPlaces.areClose_half hf hw.le, ← Bool.or_eq_true, FourPlaces.rectangle_eq,
    FourPlaces.ofOutline_corners hf hturn hl' hw']
  constructor
  · intro hshort
    rw [if_pos hshort]
    exact ⟨_, by split <;> decide, rfl⟩
  · intro hlong
    rw [if_neg hlong]
    exact ⟨_, rfl⟩

section Answers

variable {o : RoadUser (FourPlaces f)} {l w : Distance (FourPlaces f)}

lemma RoadUser.footprint_box (h : o.shape = .box l w) :
    o.footprint = if Distance.zero < l ∧ Distance.zero < w then
      some <$> Region.rectangle o.pose l w else .ok none := by
  have hempty : (l ≤ Distance.zero || w ≤ Distance.zero) = true ↔
      ¬ (Distance.zero < l ∧ Distance.zero < w) := by
    rw [Bool.or_eq_true, decide_eq_true_iff, decide_eq_true_iff, FourPlaces.zero_lt_iff,
      FourPlaces.zero_lt_iff, not_and_or, not_lt, not_lt, ← FourPlaces.metres_zero]
    rfl
  rw [RoadUser.footprint, h]
  simp only [hempty, ite_not]
  split
  · cases Region.rectangle o.pose l w <;> rfl
  · rfl

lemma RoadUser.exists_footprint_outline {corners : List (FourPlaces f × FourPlaces f)}
    (h : o.shape = .outline corners) :
    ∃ outline, o.footprint = .ok outline ∧ (corners.length < 3 → outline = none) := by
  have hpoints : (corners.mapM fun (ahead, left) => do
      o.pose.toWorld (← Distance.ofMetres ahead) (← Distance.ofMetres left)) =
        (.ok (corners.map fun (ahead, left) =>
          FourPlaces.corner o.pose (toGrid ahead) (toGrid left)) : Outcome (FourPlaces f) _) :=
    List.mapM_pure
  obtain ⟨outline, houtline, hfew⟩ := FourPlaces.exists_ofOutline
    (corners.map fun (ahead, left) => FourPlaces.corner o.pose (toGrid ahead) (toGrid left))
  refine ⟨outline, ?_, fun hlength => hfew (by simpa using hlength)⟩
  rw [RoadUser.footprint, h]
  simp only [hpoints]
  exact houtline

end Answers

/-- **Who has an outline.**  A sliver has no outline and not even an answer: asking for it is a
breach.  Any other shape has an answer.  It is an outline for a box exactly if both sides are longer
than nothing, and none for an outline with fewer than three corners. -/
theorem RoadUser.footprint_answers (hf : f.HasRoot) (hturn : f.HasTurns)
    (o : RoadUser (FourPlaces f)) :
    (o.shape.IsSliver →
      ∃ n < 3, o.footprint = Outcome.breach (.unmetDemand (.fewCorners n))) ∧
    (¬ o.shape.IsSliver → ∃ outline, o.footprint = .ok outline ∧
      (∀ length width, o.shape = .box length width →
        (outline.isSome = true ↔ Distance.zero < length ∧ Distance.zero < width)) ∧
      ∀ corners, o.shape = .outline corners → corners.length < 3 → outline = none) := by
  cases hshape : o.shape with
  | box l w =>
      rw [RoadUser.footprint_box hshape, Shape.isSliver_box]
      by_cases hbox : Distance.zero < l ∧ Distance.zero < w
      · obtain ⟨hshort, hlong⟩ := Region.rectangle_answers hf hturn o.pose hbox.1 hbox.2
        rw [if_pos hbox]
        constructor
        · rintro ⟨-, hsides⟩
          obtain ⟨n, hn, hbreach⟩ := hshort hsides
          exact ⟨n, hn, by rw [hbreach]; rfl⟩
        · intro hnot
          obtain ⟨r, hr⟩ := hlong fun hsides => hnot ⟨hbox, hsides⟩
          refine ⟨some r, by rw [hr]; rfl, ?_, ?_⟩
          · rintro _ _ ⟨⟩
            simpa using hbox
          · rintro _ ⟨⟩
      · rw [if_neg hbox]
        refine ⟨fun hsliver => absurd hsliver.1 hbox, fun _ => ⟨none, rfl, ?_, ?_⟩⟩
        · rintro _ _ ⟨⟩
          simpa using hbox
        · rintro _ ⟨⟩
  | outline corners =>
      obtain ⟨outline, houtline, hfew⟩ := RoadUser.exists_footprint_outline hshape
      refine ⟨fun hsliver => absurd hsliver (Shape.not_isSliver_outline corners), fun _ =>
        ⟨outline, houtline, ?_, ?_⟩⟩
      · rintro _ _ ⟨⟩
      · rintro _ ⟨⟩
        exact hfew

end Footprint

/-! ## A sliver -/

/-- A car at the origin, as long and as wide as is said. -/
def carOf {K : Type} [Scalar K] (length width : Distance K) : RoadUser K where
  id := ⟨1⟩
  kind := .car
  pose := ⟨⟨0.0, 0.0⟩, ⟨0.0⟩⟩
  velocity := Speed.zero
  shape := .box length width
  predictions := []

/-- With real numbers, a car of five millimetres has no answer, and a car of two metres by one has
an outline. -/
theorem RoadUser.footprint_answers_reals :
    (∃ n, (carOf (⟨1 / 200⟩ : Distance (FourPlaces reals)) ⟨1 / 200⟩).footprint =
      Outcome.breach (.unmetDemand (.fewCorners n))) ∧
    ∃ r, (carOf (⟨2⟩ : Distance (FourPlaces reals)) ⟨1⟩).footprint = .ok (some r) := by
  have hanswers := RoadUser.footprint_answers hasRoot_reals hasTurns_reals
  constructor
  · have hsliver : (carOf (⟨1 / 200⟩ : Distance (FourPlaces reals)) ⟨1 / 200⟩).shape.IsSliver :=
      ⟨⟨1 / 200⟩, ⟨1 / 200⟩, rfl, by
        norm_num [FourPlaces.zero_lt_iff, FourPlaces.lt_leastSide_iff]⟩
    obtain ⟨n, -, hbreach⟩ := (hanswers _).1 hsliver
    exact ⟨n, hbreach⟩
  · have hwide : ¬ (carOf (⟨2⟩ : Distance (FourPlaces reals)) ⟨1⟩).shape.IsSliver := by
      rintro ⟨l, w, h, -, -, hsides⟩
      cases h
      norm_num [FourPlaces.lt_leastSide_iff] at hsides
    obtain ⟨outline, houtline, hbox, -⟩ := (hanswers _).2 hwide
    obtain ⟨r, rfl⟩ := Option.isSome_iff_exists.mp
      ((hbox _ _ rfl).mpr (by norm_num [FourPlaces.zero_lt_iff]))
    exact ⟨r, houtline⟩

/-- **Not every object has an answer**, even along the axes, where rational numbers are exact. -/
theorem RoadUser.not_forall_footprint :
    ¬ ∀ o : RoadUser Rat, ∃ outline, o.footprint = .ok outline := by
  intro h
  obtain ⟨outline, houtline⟩ := h (carOf ⟨0.005⟩ ⟨0.005⟩)
  have hbroken : (carOf (⟨0.005⟩ : Distance Rat) ⟨0.005⟩).footprint =
      Outcome.breach (.unmetDemand (.fewCorners 1)) := by decide +kernel
  cases hbroken.symm.trans houtline

end Crossing
