import Crossing.Proofs.ArcLengths
import Crossing.Proofs.Polylines
import Crossing.Approach

/-!
# The way that is left

`Path.distanceUntil` measures in two ways.  Away from a lanelet it is the way along the path to the
last waypoint before the lanelet, and at that waypoint it is how far ahead the lanelet begins.  The
first does not count what the second measures.

So the distance never grows along the path as long as it is measured in one way, but where it is
measured the other way for the first time it can.  It does exactly if the lanelet begins farther
ahead than the path was long up to there (`Path.JumpsAhead`).  Along a whole path it never does
exactly if the last step before the lanelet is long enough (`Path.StepsInto`); both are said by
`Path.distanceUntil_antitone_iff`.
-/

namespace Crossing

/-! ## To a lanelet -/

namespace Path

section Cases

variable {K : Type} {path : Path K} {l : Lanelet K} {c c' e : ℕ} {w : Waypoint K}

/-- The first index on a lanelet. -/
def firstOn (path : Path K) (l : Lanelet K) : Option ℕ :=
  path.points.findIdx? fun w => l.id ∈ w.lanes

lemma lt_size_of_firstOn (he : path.firstOn l = some e) : e < path.size :=
  (List.findIdx?_eq_some_iff_getElem.mp he).1

variable [Scalar K]

/-- Nothing is left at and behind the first waypoint on the lanelet. -/
lemma distanceUntil_reached (h : ∀ e, path.firstOn l = some e → e ≤ c) :
    path.distanceUntil l c = .ok Distance.zero := by
  unfold distanceUntil
  split
  · rfl
  · next e he => exact if_pos (h e he)

lemma distanceUntil_last (he : path.firstOn l = some (c + 1)) (hw : path.points[c]? = some w) :
    path.distanceUntil l c = aheadOf w.pose l := by
  have hpoint : path.point c = .ok w := Outcome.demand_eq_ok.mpr hw
  rw [firstOn] at he
  simp [distanceUntil, he, hpoint, bind, Except.bind]

lemma distanceUntil_before (he : path.firstOn l = some e) (hc : c + 1 < e) :
    path.distanceUntil l c = path.arcBetween c (e - 1) := by
  have hreached : ¬ e ≤ c := by omega
  have hlast : e ≠ c + 1 := by omega
  rw [firstOn] at he
  simp only [distanceUntil, he, if_neg hreached, if_neg hlast]

/-- **The distance to a lanelet jumps ahead** between two indices: the second is the last one before
the lanelet, and the lanelet begins farther ahead of it than it is from the first to the second. -/
structure JumpsAhead (path : Path K) (l : Lanelet K) (c c' : ℕ) : Prop where
  before : c < c'
  entry : path.firstOn l = some (c' + 1)
  farther : ∃ w way ahead, path.points[c']? = some w ∧ path.arcBetween c c' = .ok way ∧
    aheadOf w.pose l = .ok ahead ∧ way < ahead

/-- **The path steps into a lanelet**: the lanelet begins at most as far ahead of the last waypoint
before it as that waypoint lies behind the one before. -/
def StepsInto (path : Path K) (l : Lanelet K) : Prop :=
  ∀ i before last, path.firstOn l = some (i + 2) → path.points[i]? = some before →
    path.points[i + 1]? = some last → ∃ gap ahead, step before last = .ok gap ∧
      aheadOf last.pose l = .ok ahead ∧ ahead ≤ gap

end Cases

section Exact

variable {F : Type} [Field F] [LinearOrder F] [FloorRing F] [IsStrictOrderedRing F]
  {f : Functions F} {path : Path (FourPlaces f)} {l : Lanelet (FourPlaces f)} {c c' e : ℕ}

open FourPlaces

lemma exists_aheadOf (hl : l.centerline.IsMade) (pose : Pose (FourPlaces f)) :
    ∃ ahead, aheadOf pose l = .ok ahead ∧ 0 ≤ ahead.metres := by
  obtain ⟨p, hp⟩ : ∃ p, l.centerline.points.head? = some p := by
    rw [← Option.isSome_iff_exists, List.isSome_head?, ← List.length_pos_iff]
    exact Nat.zero_lt_of_lt hl.two_le
  have hfirst : l.centerline.first = .ok p := Outcome.demand_eq_ok.mpr hp
  refine ⟨⟨toGrid (Scalar.positivePart (pose.toLocal p).1)⟩, ?_, toGrid_nonneg ?_⟩
  · rw [aheadOf, hfirst]
    rfl
  · rw [Scalar.positivePart, zero_eq]
    split
    · next hpos => exact hpos.le
    · exact le_rfl

/-- There is always an answer, and it is not negative. -/
lemma exists_distanceUntil (hf : f.HasRoot) (hl : l.centerline.IsMade) (hc : c < path.size) :
    ∃ d, path.distanceUntil l c = .ok d ∧ 0 ≤ d.metres := by
  by_cases hreached : ∀ e, path.firstOn l = some e → e ≤ c
  · exact ⟨Distance.zero, distanceUntil_reached hreached, metres_zero.ge⟩
  push Not at hreached
  obtain ⟨e, he, hlt⟩ := hreached
  rcases (Nat.succ_le_of_lt hlt).eq_or_lt with rfl | hbefore
  · rw [distanceUntil_last he (List.getElem?_eq_getElem hc)]
    exact exists_aheadOf hl _
  · have hentry : e < path.size := lt_size_of_firstOn he
    have hbetween : c ≤ e - 1 := by omega
    rw [distanceUntil_before he hbefore, FourPlaces.arcBetween_eq hbetween (by omega)]
    exact ⟨_, rfl, sub_nonneg.mpr (arcAt_mono hf hbetween (by omega))⟩

/-- From one index to a later one the distance grows exactly if it jumps ahead there. -/
lemma distanceUntil_le_iff (hf : f.HasRoot) (hl : l.centerline.IsMade) (hcc : c ≤ c')
    (hsize : c' < path.size) :
    ∃ d d', path.distanceUntil l c = .ok d ∧ path.distanceUntil l c' = .ok d' ∧
      (d' ≤ d ↔ ¬ path.JumpsAhead l c c') := by
  obtain ⟨d, hd, hnonneg⟩ := exists_distanceUntil hf hl (hcc.trans_lt hsize)
  obtain ⟨d', hd', -⟩ := exists_distanceUntil hf hl hsize
  refine ⟨d, d', hd, hd', ?_⟩
  rcases hcc.eq_or_lt with rfl | hlt
  · rw [hd] at hd'
    cases hd'
    exact iff_of_true (le_refl d.metres) fun h => lt_irrefl c h.before
  by_cases hreached : ∀ e, path.firstOn l = some e → e ≤ c'
  · rw [distanceUntil_reached hreached] at hd'
    cases hd'
    refine iff_of_true ?_ fun h => ?_
    · show Distance.zero.metres ≤ d.metres
      rwa [metres_zero]
    · exact absurd (hreached _ h.entry) (by omega)
  push Not at hreached
  obtain ⟨e, he, hentry⟩ := hreached
  rw [distanceUntil_before he (by omega)] at hd
  rcases (Nat.succ_le_of_lt hentry).eq_or_lt with rfl | hbefore
  · -- the way is measured up to the later index, and from there how far ahead the lanelet begins
    have hw : path.points[c']? = some path.points[c'] := List.getElem?_eq_getElem hsize
    rw [distanceUntil_last he hw] at hd'
    have hgrows : path.JumpsAhead l c c' ↔ d < d' := by
      refine ⟨?_, fun hfarther => ⟨hlt, he, _, d, d', hw, hd, hd', hfarther⟩⟩
      rintro ⟨-, -, w, way, ahead, hw', hway, hahead, hfarther⟩
      cases hw.symm.trans hw'
      cases hd.symm.trans hway
      cases hd'.symm.trans hahead
      exact hfarther
    rw [hgrows]
    exact not_lt.symm
  · -- both ways are measured up to the same index
    have hlast := lt_size_of_firstOn he
    rw [distanceUntil_before he hbefore, FourPlaces.arcBetween_eq (by omega) (by omega)] at hd'
    rw [FourPlaces.arcBetween_eq (by omega) (by omega)] at hd
    cases hd
    cases hd'
    refine iff_of_true ?_ fun h => ?_
    · exact sub_le_sub_left (arcAt_mono hf hcc hsize) _
    · cases he.symm.trans h.entry
      omega

/-- The shortest way on which the distance can jump ahead is the last step before the lanelet. -/
lemma stepsInto_iff (hf : f.HasRoot) (hl : l.centerline.IsMade) :
    path.StepsInto l ↔ ∀ c c', ¬ path.JumpsAhead l c c' := by
  constructor
  · rintro hsteps c c' ⟨hlt, he, w, way, ahead, hw, hway, hahead, hfarther⟩
    obtain ⟨i, rfl⟩ : ∃ i, c' = i + 1 := ⟨c' - 1, by omega⟩
    have hsize := Nat.lt_of_succ_lt (lt_size_of_firstOn he)
    obtain ⟨before, hbefore⟩ : ∃ before, path.points[i]? = some before :=
      ⟨_, List.getElem?_eq_getElem (Nat.lt_of_succ_lt hsize)⟩
    obtain ⟨_, ahead', ⟨⟩, hahead', hle⟩ := hsteps i before w he hbefore hw
    cases hahead.symm.trans hahead'
    rw [FourPlaces.arcBetween_eq hlt.le hsize, arcAt_succ hbefore hw] at hway
    cases hway
    have hmono := arcAt_mono hf (Nat.le_of_lt_succ hlt) (Nat.lt_of_succ_lt hsize)
    have hway : gap before w ≤ arcAt path i + gap before w - arcAt path c := by linarith
    exact absurd hfarther (not_lt.mpr (le_trans hle hway))
  · intro h i before last he hbefore hlast
    obtain ⟨ahead, hahead, -⟩ := exists_aheadOf hl last.pose
    refine ⟨_, ahead, FourPlaces.step_eq before last, hahead, not_lt.mp fun hfarther => ?_⟩
    have hsize := lt_size_of_firstOn he
    refine h i (i + 1) ⟨Nat.lt_succ_self i, he, last, _, ahead, hlast,
      FourPlaces.arcBetween_eq (Nat.le_succ i) (Nat.lt_of_succ_lt hsize), hahead, ?_⟩
    rw [arcAt_succ hbefore hlast, add_sub_cancel_left]
    exact hfarther

/-- **When the distance to a lanelet grows.**  Along a path there is a distance at every index, and
from one index to a later one it grows exactly if it jumps ahead there.  So it never grows along the
whole path exactly if the path steps into the lanelet. -/
theorem distanceUntil_antitone_iff (hf : f.HasRoot) (hl : l.centerline.IsMade) :
    (∀ c c', c ≤ c' → c' < path.size →
      ∃ d d', path.distanceUntil l c = .ok d ∧ path.distanceUntil l c' = .ok d' ∧
        (d' ≤ d ↔ ¬ path.JumpsAhead l c c')) ∧
    (path.StepsInto l ↔ ∀ c c' d d', c ≤ c' → c' < path.size →
      path.distanceUntil l c = .ok d → path.distanceUntil l c' = .ok d' → d' ≤ d) := by
  have hle : ∀ c c', c ≤ c' → c' < path.size →
      ∃ d d', path.distanceUntil l c = .ok d ∧ path.distanceUntil l c' = .ok d' ∧
        (d' ≤ d ↔ ¬ path.JumpsAhead l c c') :=
    fun c c' hcc hsize => distanceUntil_le_iff hf hl hcc hsize
  refine ⟨hle, ?_⟩
  rw [stepsInto_iff hf hl]
  constructor
  · intro h c c' d d' hcc hsize hd hd'
    obtain ⟨e, e', he, he', hiff⟩ := hle c c' hcc hsize
    cases hd.symm.trans he
    cases hd'.symm.trans he'
    exact hiff.mpr (h c c')
  · intro h c c' hjumps
    have hsize := Nat.lt_of_succ_lt (lt_size_of_firstOn hjumps.entry)
    obtain ⟨d, d', hd, hd', hiff⟩ := hle c c' hjumps.before.le hsize
    exact hiff.mp (h c c' d d' hjumps.before.le hsize hd hd') hjumps

end Exact

/-! ## A lanelet that begins after a gap

It begins nine metres to the east.  The path comes with three waypoints, a metre apart, and has its
next one on the lanelet.
-/

def lateTrial : Outcome (FourPlaces rationals) (Lanelet (FourPlaces rationals)) := do
  let left ← Polyline.ofPoints [⟨9.0, 1.0⟩, ⟨20.0, 1.0⟩]
  let right ← Polyline.ofPoints [⟨9.0, -1.0⟩, ⟨20.0, -1.0⟩]
  Lanelet.ofBounds ⟨2⟩ left right

def lateLane : Lanelet (FourPlaces rationals) := lateTrial.toOption.get (by decide +kernel)

lemma isMade_lateLane : lateLane.centerline.IsMade :=
  Lanelet.isMade_centerline_of_points (show lateTrial = .ok lateLane from Outcome.eq_ok_get _)

def lateRoute (x : FourPlaces rationals) : Path (FourPlaces rationals) :=
  ⟨[⟨⟨⟨x, 0.0⟩, ⟨0.0⟩⟩, ⟨5.0⟩, [⟨1⟩]⟩, ⟨⟨⟨x + 1.0, 0.0⟩, ⟨0.0⟩⟩, ⟨5.0⟩, [⟨1⟩]⟩,
    ⟨⟨⟨x + 2.0, 0.0⟩, ⟨0.0⟩⟩, ⟨5.0⟩, [⟨1⟩]⟩, ⟨⟨⟨10.0, 0.0⟩, ⟨0.0⟩⟩, ⟨5.0⟩, [⟨2⟩]⟩]⟩

/-- If the last waypoint before the lanelet is a metre before it, the distance never grows. -/
theorem distanceUntil_antitone_iff_lateRoute :
    lateLane.centerline.IsMade ∧ ∀ c c' d d', c ≤ c' → c' < 4 →
      (lateRoute 6.0).distanceUntil lateLane c = .ok d →
      (lateRoute 6.0).distanceUntil lateLane c' = .ok d' → d' ≤ d := by
  refine ⟨isMade_lateLane, ?_⟩
  have hsteps : (lateRoute 6.0).StepsInto lateLane := by
    intro i before last hfirst hbefore hlast
    have hthree : (lateRoute 6.0).firstOn lateLane = some 3 := by decide +kernel
    obtain rfl : i = 1 := by
      rw [hthree, Option.some.injEq] at hfirst
      omega
    cases hbefore
    cases hlast
    exact ⟨⟨1.0⟩, ⟨1.0⟩, by decide +kernel, by decide +kernel, by decide +kernel⟩
  obtain ⟨-, hnever⟩ := distanceUntil_antitone_iff hasRoot_rationals isMade_lateLane
  exact hnever.mp hsteps

/-- **The distance can grow along a path.**  From the second waypoint it is a metre, up to the
third, and from there it is seven. -/
theorem not_forall_distanceUntil_le :
    ¬ ∀ (path : Path (FourPlaces rationals)) (l : Lanelet (FourPlaces rationals)),
      l.centerline.IsMade → ∀ (c c' : ℕ) (d d' : Distance (FourPlaces rationals)), c ≤ c' →
        c' < path.size → path.distanceUntil l c = .ok d → path.distanceUntil l c' = .ok d' →
          d' ≤ d := by
  intro h
  have hsecond : (lateRoute 0.0).distanceUntil lateLane 1 = .ok ⟨1.0⟩ := by decide +kernel
  have hthird : (lateRoute 0.0).distanceUntil lateLane 2 = .ok ⟨7.0⟩ := by decide +kernel
  exact absurd (h (lateRoute 0.0) lateLane isMade_lateLane 1 2 _ _ (by decide) (by decide) hsecond
    hthird) (by decide +kernel)

end Path

end Crossing
