import Crossing.Proofs.StuckVehicles
import Crossing.Proofs.Overflow

/-!
# Headings along lanelets

Whether a pose goes along one of some lanelets is asked with a threshold for the heading.  The
threshold is an angle and is looked at as a direction, so a full turn and more counts as what is
left of it without the full turns.

**A threshold loosens another** (`Angle.Loosens`) if as a direction it is at least as much, or more
than half a turn, which no heading deviates.  Up to a full turn a greater threshold does.  Whatever
is accepted stays accepted with a threshold that loosens the first, with more lanelets, a wider
margin, and when going against a lane counts as well; and with a threshold that does not, some
heading is lost at every place (`Pose.isAlong_loosens`).
-/

namespace Crossing

/-! ## The direction of a lane -/

namespace FourPlaces

variable {F : Type} [Field F] [LinearOrder F] [FloorRing F] [IsStrictOrderedRing F]
  {f : Functions F} {p : Point (FourPlaces f)}

/-- The closest place lies between the start of a way and its end. -/
lemma along_mem_of_closestAmong (hf : f.HasRoot)
    {ways : List (Point (FourPlaces f) × Point (FourPlaces f))}
    {sofar total : Distance (FourPlaces f)} {best found : Option (Polyline.Closest (FourPlaces f))}
    (hsofar : 0 ≤ sofar.metres ∧ OnGrid sofar.metres)
    (hbest : ∀ c, best = some c → 0 ≤ c.along.metres ∧ c.along.metres ≤ sofar.metres)
    (htotal : ways.foldlM (fun d (a, b) => do d.add (← a.distance b)) sofar = .ok total)
    (h : Polyline.closestAmong p (ways.map fun way => ⟨way.1, way.2⟩) sofar best = .ok found) :
    ∀ c, found = some c → 0 ≤ c.along.metres ∧ c.along.metres ≤ total.metres := by
  induction ways generalizing sofar best with
  | nil =>
      cases htotal
      cases h
      exact hbest
  | cons way ways ih =>
      obtain ⟨a, b⟩ := way
      rw [List.foldlM_cons] at htotal
      obtain ⟨here, hhere, htotal⟩ := Outcome.bind_eq_ok.mp htotal
      obtain ⟨c, length, next, hlength, hnext, h, hc⟩ := Polyline.closestAmong_cons h
      cases hlength
      cases hhere
      cases hnext
      have hgap := pointGap_nonneg a b hf
      have hend := (hsofar.2.add (onGrid_pointGap a b)).toGrid_eq
      refine ih ⟨?_, onGrid_toGrid _⟩ ?_ htotal h
      · exact toGrid_nonneg (add_nonneg hsofar.1 hgap)
      · rintro _ ⟨⟩
        show 0 ≤ c.along.metres ∧ c.along.metres ≤ toGrid (sofar.metres + pointGap a b)
        rw [hend]
        rcases hc with hsame | ⟨hit, d, hhit, hd, halong⟩
        · obtain ⟨hfrom, hto⟩ := hbest c hsame
          exact ⟨hfrom, hto.trans (le_add_of_nonneg_right hgap)⟩
        · -- the closest place on the segment is no farther from its start than its end
          let part := Segment.closestPart ⟨a, b⟩ p
          have hpart : 0 ≤ part ∧ part ≤ 1 := clamp_mem _
          obtain rfl : pointOnWay a b part = hit :=
            Except.ok.inj ((lerp_eq a b part).symm.trans hhit)
          obtain rfl : ⟨pointGap a (pointOnWay a b part)⟩ = d := Except.ok.inj hd
          have hle : pointGap a (pointOnWay a b part) ≤ pointGap a b := by
            rw [pointGap_comm]
            exact pointGap_pointOnWay_le hf hpart.1 hpart.2
          have hmetres : c.along.metres = sofar.metres + pointGap a (pointOnWay a b part) := by
            rw [← (hsofar.2.add (onGrid_pointGap a (pointOnWay a b part))).toGrid_eq]
            exact congrArg Distance.metres (Except.ok.inj halong).symm
          rw [hmetres]
          exact ⟨add_nonneg hsofar.1 (pointGap_nonneg _ _ hf), add_le_add_right hle _⟩

/-- **Every point can be projected onto a polyline that has been made**, between its ends. -/
lemma exists_project (hf : f.HasRoot) {pl : Polyline (FourPlaces f)} (h : pl.IsMade)
    (p : Point (FourPlaces f)) :
    ∃ d place, pl.project p = .ok (d, place) ∧ 0 ≤ d.metres ∧ d.metres ≤ pl.length.metres := by
  obtain ⟨⟨d, place⟩, hproject⟩ := exists_of_computes (h.computes_project distance_le_of_lt p)
  refine ⟨d, place, hproject, ?_⟩
  rw [Polyline.project, h.segments_eq distance_le_of_lt] at hproject
  obtain ⟨_, ⟨⟩, hproject⟩ := Outcome.bind_eq_ok.mp hproject
  obtain ⟨found, hfound, hbest⟩ := Outcome.bind_eq_ok.mp hproject
  obtain ⟨c, hc, hbest⟩ := Outcome.bind_eq_ok.mp hbest
  cases hbest
  refine along_mem_of_closestAmong hf ?_ ?_ h.wayLength_eq hfound c ?_
  · rw [metres_zero]
    exact ⟨le_rfl, onGrid_zero⟩
  · intro c hnone
    cases hnone
  · cases found with
    | none => cases hc
    | some c' =>
        cases hc
        rfl

lemma exists_angleNear (hf : f.HasRoot) {pl : Polyline (FourPlaces f)} (h : pl.IsMade)
    (p : Point (FourPlaces f)) : ∃ a, pl.angleNear p = .ok a := by
  obtain ⟨d, place, hproject, hfrom, hto⟩ := exists_project hf h p
  obtain ⟨⟨q, a⟩, hat⟩ := exists_pointAt hf h hfrom hto
  refine ⟨a, ?_⟩
  rw [Polyline.angleNear, hproject]
  simp only [bind, Except.bind, hat]
  rfl

end FourPlaces

/-! ## Thresholds for headings -/

section Thresholds

variable {K : Type} [Scalar K]

/-- **A threshold loosens another**: as a direction it is at least as much, or it is more than any
heading deviates. -/
def Angle.Loosens (t t' : Angle K) : Prop :=
  t.normalized ≤ t'.normalized ∨ Scalar.pi < t'.normalized

namespace Pose

/-- `Pose.isAlong` for a single lanelet. -/
def isAlongLane (pose : Pose K) (limit : K) (wrongDirection : Bool) (margin : Distance K)
    (l : Lanelet K) : Outcome K Bool := do
  if ← l.contains pose.position margin then
    let deviation := (← l.directionAt pose.position).deviation pose.yaw
    return deviation < limit || (wrongDirection && Scalar.pi - deviation < limit)
  else return false

lemma isAlong_eq (pose : Pose K) (lanelets : List (Lanelet K)) (t : Angle K)
    (wrongDirection : Bool) (margin : Distance K) :
    pose.isAlong lanelets t wrongDirection margin =
      lanelets.anyM (pose.isAlongLane t.normalized wrongDirection margin) := rfl

/-- **The pose goes along a lanelet**: it is on it or within the margin, and its heading deviates
from the direction of the lane, or from the opposite one if that counts, by less than the limit. -/
structure GoesAlong (pose : Pose K) (limit : K) (wrongDirection : Bool) (margin : Distance K)
    (l : Lanelet K) : Prop where
  near : ∃ d, l.region.distanceTo pose.position = .ok d ∧ d ≤ margin
  heading : ∃ direction, l.directionAt pose.position = .ok direction ∧
    (direction.deviation pose.yaw < limit ∨
      wrongDirection = true ∧ Scalar.pi - direction.deviation pose.yaw < limit)

end Pose

end Thresholds

namespace FourPlaces

variable {F : Type} [Field F] [LinearOrder F] [FloorRing F] [IsStrictOrderedRing F]
  {f : Functions F} {pose : Pose (FourPlaces f)} {l : Lanelet (FourPlaces f)}
  {lanelets lanelets' : List (Lanelet (FourPlaces f))} {t t' : Angle (FourPlaces f)}
  {margin margin' : Distance (FourPlaces f)} {wrong wrong' : Bool} {limit : FourPlaces f}

lemma exists_isAlongLane (hf : f.HasRoot) (hl : l.centerline.IsMade) :
    ∃ along, pose.isAlongLane limit wrong margin l = .ok along ∧
      (along = true ↔ pose.GoesAlong limit wrong margin l) := by
  obtain ⟨d, hd⟩ := exists_of_computes (Region.computes_distanceTo l.region pose.position)
  obtain ⟨direction, hdirection⟩ : ∃ a, l.directionAt pose.position = .ok a :=
    exists_angleNear hf hl pose.position
  have hcontains : l.contains pose.position margin = .ok (decide (d ≤ margin)) := by
    rw [Lanelet.contains, hd]
    rfl
  rw [Pose.isAlongLane, hcontains, hdirection]
  by_cases hnear : d ≤ margin
  · refine ⟨_, by simp only [bind, Except.bind, decide_eq_true hnear]; rfl, ?_⟩
    rw [Bool.or_eq_true, Bool.and_eq_true, decide_eq_true_eq, decide_eq_true_eq]
    refine ⟨fun h => ⟨⟨d, hd, hnear⟩, direction, hdirection, h⟩, ?_⟩
    rintro ⟨-, direction', hdirection', h⟩
    cases hdirection.symm.trans hdirection'
    exact h
  · refine ⟨false, by simp only [bind, Except.bind, decide_eq_false hnear]; rfl, ?_⟩
    refine iff_of_false Bool.false_ne_true ?_
    rintro ⟨⟨d', hd', hle⟩, -⟩
    cases hd.symm.trans hd'
    exact hnear hle

/-- A pose is along some lanelets exactly if it goes along one of them. -/
lemma isAlong_iff (hf : f.HasRoot) (hl : ∀ l ∈ lanelets, l.centerline.IsMade) :
    pose.isAlong lanelets t wrong margin = .ok true ↔
      ∃ l ∈ lanelets, pose.GoesAlong t.normalized wrong margin l := by
  rw [Pose.isAlong_eq, Outcome.anyM_eq_true]
  · refine exists_congr fun l => and_congr_right fun hmem => ?_
    obtain ⟨along, halong, hiff⟩ : ∃ along,
        pose.isAlongLane t.normalized wrong margin l = .ok along ∧
          (along = true ↔ pose.GoesAlong t.normalized wrong margin l) :=
      exists_isAlongLane hf (hl l hmem)
    rw [halong, Except.ok.injEq, hiff]
  · intro l hmem
    obtain ⟨along, halong, -⟩ := exists_isAlongLane hf (hl l hmem)
    exact ⟨along, halong⟩

lemma deviation_le_pi (hpi : (0 : FourPlaces f) < Scalar.pi) (a b : Angle (FourPlaces f)) :
    a.deviation b ≤ Scalar.pi := by
  rw [deviation_eq]
  exact abs_signedRemainder_le hpi _

/-- What goes along a lanelet still does when what is asked is loosened. -/
lemma goesAlong_mono (hpi : (0 : FourPlaces f) < Scalar.pi) (hloosens : t.Loosens t')
    (hmargin : margin ≤ margin') (hwrong : wrong = true → wrong' = true)
    (h : pose.GoesAlong t.normalized wrong margin l) :
    pose.GoesAlong t'.normalized wrong' margin' l := by
  obtain ⟨⟨d, hd, hnear⟩, direction, hdirection, hheading⟩ := h
  refine ⟨⟨d, hd, le_trans (α := FourPlaces f) hnear hmargin⟩, direction, hdirection, ?_⟩
  rcases hloosens with hle | hall
  · exact hheading.imp (fun hless => hless.trans_le hle)
      fun ⟨hagainst, hless⟩ => ⟨hwrong hagainst, hless.trans_le hle⟩
  · exact Or.inl ((deviation_le_pi hpi _ _).trans_lt hall)

/-- Up to a full turn a greater threshold loosens a smaller one. -/
lemma loosens_of_le (hpi : (0 : FourPlaces f) < Scalar.pi) (h₀ : 0 ≤ t.radians)
    (hle : t.radians ≤ t'.radians) (hturn : t'.radians < Scalar.fullTurn) : t.Loosens t' := by
  have hplain (a : Angle (FourPlaces f)) (hfrom : 0 ≤ a.radians)
      (hto : a.radians < Scalar.fullTurn) : a.normalized = a.radians := by
    rw [fullTurn_eq] at hto
    rw [normalized_eq]
    exact remainder_eq hpi (n := 0) (by rw [Int.cast_zero, mul_zero, add_zero]) hfrom hto
  left
  rwa [hplain t h₀ (hle.trans_lt hturn), hplain t' (h₀.trans hle) hturn]

/-- A threshold that does not loosen another loses the heading that deviates by just as much. -/
lemma exists_heading_lost (hf : f.HasRoot) (hpi : (0 : FourPlaces f) < Scalar.pi)
    (hloosens : ¬ t.Loosens t') (hl : l.centerline.IsMade) {p : Point (FourPlaces f)}
    (hnear : ∃ d, l.region.distanceTo p = .ok d ∧ d ≤ margin) :
    ∃ yaw, Pose.GoesAlong ⟨p, yaw⟩ t.normalized false margin l ∧
      ¬ Pose.GoesAlong ⟨p, yaw⟩ t'.normalized false margin l := by
  rw [Angle.Loosens, not_or, not_le, not_lt] at hloosens
  obtain ⟨hless, hhalf⟩ := hloosens
  obtain ⟨direction, hdirection⟩ : ∃ a, l.directionAt p = .ok a := exists_angleNear hf hl p
  have hdeviation : direction.deviation ⟨direction.radians + t'.normalized⟩ = t'.normalized := by
    have hpos : 0 ≤ t'.normalized := by
      rw [normalized_eq]
      exact (remainder_mem hpi _).1
    rw [deviation_eq, add_sub_cancel_left, signedRemainder_eq hpi hpos hhalf, abs_of_nonneg hpos]
  refine ⟨⟨direction.radians + t'.normalized⟩, ⟨hnear, direction, hdirection, ?_⟩, ?_⟩
  · left
    rwa [hdeviation]
  · rintro ⟨-, direction', hdirection', hheading⟩
    cases hdirection.symm.trans hdirection'
    rw [hdeviation] at hheading
    rcases hheading with hheading | ⟨hagainst, -⟩
    · exact lt_irrefl _ hheading
    · cases hagainst

end FourPlaces

open FourPlaces

section Loosening

variable {F : Type} [Field F] [LinearOrder F] [FloorRing F] [IsStrictOrderedRing F]
  {f : Functions F}

/-- **What loosening keeps.**  A greater threshold below a full turn loosens a smaller one.  With a
threshold that loosens the first, more lanelets, a wider margin, and when going against a lane
counts as well, whatever is accepted stays accepted.  And if near any lanelet all headings that are
accepted stay so, the threshold loosens the first. -/
theorem Pose.isAlong_loosens (hf : f.HasRoot) (hpi : (0 : FourPlaces f) < Scalar.pi)
    (t t' : Angle (FourPlaces f)) :
    (0 ≤ t.radians → t.radians ≤ t'.radians → t'.radians < Scalar.fullTurn → t.Loosens t') ∧
    (t.Loosens t' → ∀ (pose : Pose (FourPlaces f))
      (lanelets lanelets' : List (Lanelet (FourPlaces f)))
      (margin margin' : Distance (FourPlaces f)) (wrong wrong' : Bool),
      (∀ l ∈ lanelets', l.centerline.IsMade) →
        lanelets ⊆ lanelets' → margin ≤ margin' → (wrong = true → wrong' = true) →
          pose.isAlong lanelets t wrong margin = .ok true →
            pose.isAlong lanelets' t' wrong' margin' = .ok true) ∧
    ∀ (l : Lanelet (FourPlaces f)) (p : Point (FourPlaces f)) (margin : Distance (FourPlaces f)),
      l.centerline.IsMade → l.contains p margin = .ok true →
        (∀ yaw, Pose.isAlong ⟨p, yaw⟩ [l] t false margin = .ok true →
          Pose.isAlong ⟨p, yaw⟩ [l] t' false margin = .ok true) → t.Loosens t' := by
  refine ⟨loosens_of_le hpi, ?_, ?_⟩
  · intro hloosens pose lanelets lanelets' margin margin' wrong wrong' hmade hsubset hmargin hwrong
    rw [isAlong_iff hf hmade, isAlong_iff hf fun l hl => hmade l (hsubset hl)]
    rintro ⟨l, hl, halong⟩
    exact ⟨l, hsubset hl, goesAlong_mono hpi hloosens hmargin hwrong halong⟩
  · intro l p margin hmade hcontains hkeeps
    by_contra hloosens
    obtain ⟨d, hd, hnear⟩ := Outcome.bind_eq_ok.mp hcontains
    have hnear : d ≤ margin := of_decide_eq_true (Except.ok.inj hnear)
    obtain ⟨yaw, hbefore, hafter⟩ := exists_heading_lost hf hpi hloosens hmade ⟨d, hd, hnear⟩
    have hmade : ∀ l' ∈ [l], l'.centerline.IsMade := List.forall_mem_singleton.mpr hmade
    have hkeep := hkeeps yaw
    simp only [isAlong_iff hf hmade, List.mem_singleton, exists_eq_left] at hkeep
    exact hafter (hkeep hbefore)

end Loosening

/-! ## A full turn

A car in the middle of a straight lanelet and along it.  Its heading deviates by nothing, which is
less than one radian, and less than two, but not less than what is left of a full turn.
-/

namespace Pose

def eastward : Pose (FourPlaces rationals) := ⟨⟨5.0, 0.0⟩, ⟨0.0⟩⟩

lemma isMade_eastLane : Perception.eastLane.centerline.IsMade :=
  Lanelet.isMade_centerline_of_points
    (show Perception.eastTrial = .ok Perception.eastLane from Outcome.eq_ok_get _)

lemma isAlong_eastward :
    eastward.isAlong [Perception.eastLane] ⟨1.0⟩ false Distance.zero = .ok true := by
  decide +kernel

/-- With a threshold of two radians and a wider margin the car is still accepted. -/
theorem isAlong_loosens_eastward :
    (0 : FourPlaces rationals) < Scalar.pi ∧ (∀ l ∈ [Perception.eastLane], l.centerline.IsMade) ∧
      eastward.isAlong [Perception.eastLane] ⟨2.0⟩ true ⟨1.0⟩ = .ok true := by
  have hpi : (0 : FourPlaces rationals) < Scalar.pi := by decide +kernel
  have hmade : ∀ l ∈ [Perception.eastLane], l.centerline.IsMade :=
    List.forall_mem_singleton.mpr isMade_eastLane
  obtain ⟨hless, hkeeps, -⟩ := isAlong_loosens hasRoot_rationals hpi ⟨1.0⟩ ⟨2.0⟩
  refine ⟨hpi, hmade, ?_⟩
  exact hkeeps (hless (by decide +kernel) (by decide +kernel) (by decide +kernel)) eastward _ _
    Distance.zero ⟨1.0⟩ false true hmade (List.Subset.refl _) (by decide +kernel) nofun
    isAlong_eastward

/-- **A greater threshold can lose a heading.**  A full turn accepts nothing. -/
theorem not_forall_isAlong_of_le :
    ¬ ∀ (pose : Pose (FourPlaces rationals)) (lanelets : List (Lanelet (FourPlaces rationals)))
      (t t' : Angle (FourPlaces rationals)) (wrong : Bool)
      (margin : Distance (FourPlaces rationals)),
      (∀ l ∈ lanelets, l.centerline.IsMade) → 0 ≤ t.radians → t.radians ≤ t'.radians →
        pose.isAlong lanelets t wrong margin = .ok true →
          pose.isAlong lanelets t' wrong margin = .ok true := by
  intro h
  have hlost : eastward.isAlong [Perception.eastLane] ⟨Scalar.fullTurn⟩ false Distance.zero =
      .ok false := by decide +kernel
  have hkept := h eastward [Perception.eastLane] ⟨1.0⟩ ⟨Scalar.fullTurn⟩ false Distance.zero
    (List.forall_mem_singleton.mpr isMade_eastLane) (by decide +kernel) (by decide +kernel)
    isAlong_eastward
  rw [hlost] at hkept
  cases hkept

end Pose

end Crossing
