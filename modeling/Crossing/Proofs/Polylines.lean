import Crossing.Proofs.FourPlaces
import Crossing.Proofs.Thinning
import Crossing.Lanelet

/-!
# Polylines that have been made

A polyline is made of two points or more, of which none counts as the same as the one before
(`Polyline.ofPoints_eq_ok`).  Segments refuse only points that are closer still, so a polyline that
has been made has its segments, one for each link of its points (`Polyline.IsMade.segments_eq`).
For that it must be true of distances that what is less is at most as much; it is for all numbers
here, but a scalar type says nothing about its order.

**Walking** from the start to the end of a polyline always arrives, with exact numbers
(`FourPlaces.exists_pointAt`): no segment has length zero, and the length of the polyline is not
rounded.
-/

namespace Crossing

namespace Chain

variable {α : Type} {as : List α}

lemma links_ne_nil (h : 2 ≤ as.length) : links as ≠ [] := by
  rw [← List.length_pos_iff, length_links]
  omega

end Chain

variable {K : Type} [Scalar K]

lemma Point.isSame_eq_ok {a b : Point K} {same : Bool} :
    a.isSame b = .ok same ↔ ∃ d, a.distance b = .ok d ∧ decide (d ≤ Distance.epsilon) = same := by
  rw [isSame, isNear, Outcome.bind_eq_ok]
  simp only [Outcome.pure_eq_ok, Except.ok.injEq]

/-- There is a segment between points that do not count as the same. -/
lemma Segment.between_eq_ok (hle : ∀ a b : Distance K, a < b → a ≤ b) {a b : Point K}
    (h : a.isSame b = .ok false) : Segment.between a b = .ok ⟨a, b⟩ := by
  obtain ⟨d, hd, hfar⟩ := Point.isSame_eq_ok.mp h
  have hfar : ¬ d < Distance.epsilon := fun hlt => of_decide_eq_false hfar (hle _ _ hlt)
  rw [between, hd]
  simp only [bind, Except.bind, if_neg hfar]
  rfl

namespace Polyline

variable {points : List (Point K)} {pl : Polyline K}

/-- Points that follow each other do not count as the same. -/
def Apart (points : List (Point K)) : Prop :=
  ∀ way ∈ Chain.links points, way.1.isSame way.2 = .ok false

/-- **When a polyline can be made of points.** -/
lemma ofPoints_eq_ok : ofPoints points = .ok pl ↔
    2 ≤ points.length ∧ Apart points ∧ wayLength points = .ok pl.length ∧ pl.points = points := by
  rw [ofPoints]
  by_cases hfew : points.length < 2
  · rw [if_pos hfew]
    exact iff_of_false (fun h => by cases h) fun h => absurd h.1 (Nat.not_le_of_lt hfew)
  rw [if_neg hfew, Apart, ← Outcome.anyM_eq_false, Outcome.bind_eq_ok]
  constructor
  · rintro ⟨length, hlength, h⟩
    obtain ⟨crowded, hcrowded, h⟩ := Outcome.bind_eq_ok.mp h
    cases crowded with
    | true => cases h
    | false =>
        cases h
        exact ⟨Nat.le_of_not_lt hfew, hcrowded, hlength, rfl⟩
  · rintro ⟨-, hcrowded, hlength, rfl⟩
    exact ⟨pl.length, hlength, Outcome.bind_eq_ok.mpr ⟨false, hcrowded, rfl⟩⟩

/-- **The polyline has been made** of points. -/
def IsMade (pl : Polyline K) : Prop := ∃ points, ofPoints points = .ok pl

namespace IsMade

variable (h : pl.IsMade)
include h

lemma two_le : 2 ≤ pl.points.length := by
  obtain ⟨points, h⟩ := h
  obtain ⟨hcount, -, -, hpoints⟩ := ofPoints_eq_ok.mp h
  rwa [hpoints]

lemma apart : Apart pl.points := by
  obtain ⟨points, h⟩ := h
  obtain ⟨-, hapart, -, hpoints⟩ := ofPoints_eq_ok.mp h
  rwa [hpoints]

lemma wayLength_eq : wayLength pl.points = .ok pl.length := by
  obtain ⟨points, h⟩ := h
  obtain ⟨-, -, hlength, hpoints⟩ := ofPoints_eq_ok.mp h
  rwa [hpoints]

/-- **The segments of a polyline that has been made.** -/
lemma segments_eq (hle : ∀ a b : Distance K, a < b → a ≤ b) :
    pl.segments = .ok ((Chain.links pl.points).map fun way => ⟨way.1, way.2⟩) := by
  rw [segments, Outcome.mapM_eq_ok, List.forall₂_map_right_iff, List.forall₂_same]
  rintro ⟨a, b⟩ hway
  show (Segment.between a b).insist = .ok ⟨a, b⟩
  rw [Segment.between_eq_ok hle (h.apart (a, b) hway)]
  rfl

lemma segments_ne_nil :
    (Chain.links pl.points).map (fun way => (⟨way.1, way.2⟩ : Segment K)) ≠ [] :=
  fun hnil => Chain.links_ne_nil h.two_le (List.map_eq_nil_iff.mp hnil)

end IsMade

end Polyline

/-- The middle of a lanelet that has been made is a polyline that has been made. -/
lemma Lanelet.isMade_centerline {id : LaneletId} {left right : Polyline K} {l : Lanelet K}
    (h : ofBounds id left right = .ok l) : l.centerline.IsMade := by
  obtain ⟨centerline, hcenterline, h⟩ := Outcome.bind_eq_ok.mp h
  obtain ⟨region, -, ⟨⟩⟩ := Outcome.bind_eq_ok.mp h
  obtain ⟨steps, -, hthinned⟩ := Outcome.bind_eq_ok.mp (Outcome.within_eq_ok.mp hcenterline)
  obtain ⟨middles, -, hthinned⟩ := Outcome.bind_eq_ok.mp hthinned
  obtain ⟨points, -, hmade⟩ := Outcome.bind_eq_ok.mp hthinned
  exact ⟨points, hmade⟩

lemma Lanelet.isMade_centerline_of_points {id : LaneletId} {ps qs : List (Point K)} {l : Lanelet K}
    (h : (do ofBounds id (← Polyline.ofPoints ps) (← Polyline.ofPoints qs)) = .ok l) :
    l.centerline.IsMade := by
  obtain ⟨left, -, h⟩ := Outcome.bind_eq_ok.mp h
  obtain ⟨right, -, h⟩ := Outcome.bind_eq_ok.mp h
  exact isMade_centerline h

/-! ## Polylines of exact numbers -/

namespace FourPlaces

variable {F : Type} [Field F] [LinearOrder F] [FloorRing F] [IsStrictOrderedRing F]
  {f : Functions F}

/-- How far it is from one point to another. -/
def pointGap (p q : Point (FourPlaces f)) : FourPlaces f :=
  toGrid (Scalar.sqrt (Scalar.square (p.x - q.x) + Scalar.square (p.y - q.y)))

section Points

variable (p q : Point (FourPlaces f)) (t : FourPlaces f)

lemma distance_eq : p.distance q = .ok ⟨pointGap p q⟩ := rfl

lemma pointGap_comm : pointGap p q = pointGap q p := by
  have hswap (x y : FourPlaces f) : Scalar.square (x - y) = Scalar.square (y - x) := by
    unfold Scalar.square
    ring
  rw [pointGap, pointGap, hswap p.x, hswap p.y]

lemma onGrid_pointGap : OnGrid (pointGap p q) := onGrid_toGrid _

lemma pointGap_nonneg (hf : f.HasRoot) : 0 ≤ pointGap p q :=
  toGrid_nonneg (sqrt_nonneg hf (add_nonneg (mul_self_nonneg _) (mul_self_nonneg _)))

lemma distance_le_of_lt (a b : Distance (FourPlaces f)) (h : a < b) : a ≤ b :=
  le_of_lt (α := FourPlaces f) h

lemma isSame_eq : p.isSame q = .ok (decide (pointGap p q ≤ 1 / 100)) := by
  rw [Point.isSame, Point.isNear, distance_eq, ← metres_epsilon]
  rfl

/-- The point at a part of the way from one point to another: `Point.lerp`, which always has an
answer here. -/
def pointOnWay : Point (FourPlaces f) := ⟨p.x + t * (q.x - p.x), p.y + t * (q.y - p.y)⟩

lemma lerp_eq : p.lerp q t = .ok (pointOnWay p q t) := rfl

lemma pointOnWay_zero : pointOnWay p q 0 = p := by
  unfold pointOnWay
  rw [zero_mul, zero_mul, add_zero, add_zero]

lemma pointOnWay_one : pointOnWay p q 1 = q := by
  unfold pointOnWay
  rw [one_mul, one_mul, add_sub_cancel, add_sub_cancel]

variable {p q t}

/-- Points on the way are no farther from where it begins than where it ends. -/
lemma pointGap_pointOnWay_le (hf : f.HasRoot) (h₀ : 0 ≤ t) (h₁ : t ≤ 1) :
    pointGap (pointOnWay p q t) p ≤ pointGap p q := by
  have haxis (x y : FourPlaces f) :
      Scalar.square (x + t * (y - x) - x) ≤ Scalar.square (x - y) := by
    have hpart : t * t ≤ 1 := mul_le_one₀ h₁ h₀ h₁
    have hscale := mul_le_mul_of_nonneg_right hpart (mul_self_nonneg (x - y))
    unfold Scalar.square
    linarith
  have hnonneg (x : FourPlaces f) : 0 ≤ Scalar.square x := mul_self_nonneg x
  exact toGrid_mono (sqrt_mono hf (add_nonneg (hnonneg _) (hnonneg _))
    (add_le_add (haxis p.x q.x) (haxis p.y q.y)))

end Points

/-- A walk along segments arrives, if each of them leads anywhere. -/
lemma exists_walk {segments : List (Segment (FourPlaces f))} (hsome : segments ≠ [])
    (hlength : ∀ s ∈ segments, pointGap s.start s.finish ≠ 0) (left : Distance (FourPlaces f)) :
    ∃ place, Polyline.walk segments left = .ok place := by
  induction segments generalizing left with
  | nil => exact absurd rfl hsome
  | cons s rest ih =>
      rw [List.forall_mem_cons] at hlength
      have hlong : s.length = .ok ⟨pointGap s.start s.finish⟩ := rfl
      have hat (d : Distance (FourPlaces f)) : ∃ p, s.atDistance d = .ok p := by
        have hzero : ¬ (⟨pointGap s.start s.finish⟩ : Distance (FourPlaces f)).isZero = true :=
          fun h => hlength.1 ((isZero_iff _).mp h)
        rw [Segment.atDistance, hlong]
        simp only [bind, Except.bind, Distance.ratio, if_neg hzero]
        exact ⟨_, rfl⟩
      rw [Polyline.walk, hlong]
      simp only [bind, Except.bind]
      split
      · obtain ⟨p, hp⟩ := hat (if ⟨pointGap s.start s.finish⟩ < left then
          ⟨pointGap s.start s.finish⟩ else left)
        rw [hp]
        exact ⟨_, rfl⟩
      · next hlater =>
        refine ih (fun hnil => hlater ?_) hlength.2 _
        rw [hnil, List.isEmpty_nil, Bool.or_true]

/-- The way through points is a sum of steps, which is not rounded. -/
lemma wayLength_lawful {points : List (Point (FourPlaces f))} {d : Distance (FourPlaces f)}
    (hf : f.HasRoot) (h : Polyline.wayLength points = .ok d) : 0 ≤ d.metres ∧ OnGrid d.metres := by
  have hfold (ways : List (Point (FourPlaces f) × Point (FourPlaces f)))
      (start : Distance (FourPlaces f)) (hstart : 0 ≤ start.metres ∧ OnGrid start.metres)
      (h : ways.foldlM (fun d (a, b) => do d.add (← a.distance b)) start = .ok d) :
      0 ≤ d.metres ∧ OnGrid d.metres := by
    induction ways generalizing start with
    | nil =>
        cases h
        exact hstart
    | cons way ways ih =>
        rw [List.foldlM_cons] at h
        obtain ⟨next, hnext, h⟩ := Outcome.bind_eq_ok.mp h
        cases hnext
        exact ih _ ⟨toGrid_nonneg (add_nonneg hstart.1 (pointGap_nonneg _ _ hf)), onGrid_toGrid _⟩ h
  refine hfold _ _ ?_ h
  rw [metres_zero]
  exact ⟨le_rfl, onGrid_zero⟩

/-- **There is a place at every distance along a polyline.** -/
lemma exists_pointAt (hf : f.HasRoot) {pl : Polyline (FourPlaces f)} (h : pl.IsMade)
    {d : FourPlaces f} (hfrom : 0 ≤ d) (hto : d ≤ pl.length.metres) :
    ∃ place, pl.pointAt ⟨d⟩ = .ok place := by
  have hlong := (wayLength_lawful hf h.wayLength_eq).2
  have hstart : ¬ (⟨d⟩ : Distance (FourPlaces f)) < Distance.zero := by
    rw [distance_zero]
    exact not_lt.mpr hfrom
  have hend : ¬ (⟨toGrid (pl.length.metres + Distance.epsilon.metres)⟩ :
      Distance (FourPlaces f)) < ⟨d⟩ := by
    have hmono : toGrid pl.length.metres ≤ toGrid (pl.length.metres + Distance.epsilon.metres) := by
      refine toGrid_mono (le_add_of_nonneg_right ?_)
      rw [metres_epsilon]
      positivity
    rw [hlong.toGrid_eq] at hmono
    exact not_lt.mpr (hto.trans hmono)
  rw [Polyline.pointAt, if_neg hstart, add_eq, h.segments_eq distance_le_of_lt]
  simp only [bind, Except.bind, if_neg hend]
  refine exists_walk h.segments_ne_nil ?_ _
  intro s hs
  obtain ⟨way, hway, rfl⟩ := List.mem_map.mp hs
  have hfar := h.apart way hway
  rw [isSame_eq, Except.ok.injEq, decide_eq_false_iff_not] at hfar
  intro hzero
  rw [hzero] at hfar
  exact hfar (by positivity)

end FourPlaces

end Crossing
