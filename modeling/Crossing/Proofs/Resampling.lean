import Mathlib.Tactic.Linarith
import Mathlib.Topology.MetricSpace.Pseudo.Lemmas
import Crossing.Proofs.Reals
import Crossing.Proofs.IndexRange
import Crossing.Proofs.Samples

/-!
# Where samples lie

A planned path leads from waypoint to waypoint along straight ways.  `Path.pointAt` is the point at
a distance along it, and `Path.length` its length; both are defined by walking the waypoints,
without stretches and without samples.

**Sample `j` lies `j` times the spacing along the planned path**, and the last sample lies at its
end (`Path.sampleArc`, `position_of_resample`).  The stretches that samples are laid on are the ways
between waypoints that are not at the same place; a sample is laid on the last of them that begins
no later (`advance_ways`), and stretches that have been passed are never needed again
(`advance_advance`).

**A way that is cut short is not longer**: two points of a path are at most as far apart as they are
along it (`dist_pointAt_le`).
-/

namespace Crossing

/-! ## Walking along waypoints -/

namespace Waypoint

/-- The point at a distance along the way from a waypoint through the ones after it; past the end it
is the last of them. -/
noncomputable def ahead (w : Waypoint ℝ) : List (Waypoint ℝ) → ℝ → Point ℝ
  | [], _ => w.position
  | next :: rest, d =>
    let length := dist w.position next.position
    if d < length then w.position.onWay next.position (d / length) else next.ahead rest (d - length)

/-- The length of the way from a waypoint through the ones after it. -/
noncomputable def wayLength (w : Waypoint ℝ) : List (Waypoint ℝ) → ℝ
  | [] => 0
  | next :: rest => dist w.position next.position + next.wayLength rest

/-- The stretches of the way from a waypoint through the ones after it: the ways between waypoints
that are not at the same place. -/
noncomputable def ways (w : Waypoint ℝ) : List (Waypoint ℝ) → ℝ → List (Stretch ℝ)
  | [], _ => []
  | next :: rest, along =>
    let length := dist w.position next.position
    if length = 0 then next.ways rest along
    else ⟨w, next, ⟨along⟩, ⟨length⟩⟩ :: next.ways rest (along + length)

variable {w : Waypoint ℝ} {rest : List (Waypoint ℝ)} {a b : ℝ}

lemma wayLength_nonneg : ∀ (w : Waypoint ℝ) (rest : List (Waypoint ℝ)), 0 ≤ w.wayLength rest
  | _, [] => le_rfl
  | _, next :: rest => add_nonneg dist_nonneg (next.wayLength_nonneg rest)

lemma ahead_zero : ∀ (w : Waypoint ℝ) (rest : List (Waypoint ℝ)), w.ahead rest 0 = w.position
  | _, [] => rfl
  | w, next :: rest => by
      rw [ahead]
      split
      · rw [zero_div, Point.onWay_zero]
      · next h =>
        have hsame : dist w.position next.position = 0 := le_antisymm (not_lt.mp h) dist_nonneg
        rw [hsame, sub_zero, ahead_zero next rest]
        exact (dist_eq_zero.mp hsame).symm

lemma ahead_wayLength : ∀ (w : Waypoint ℝ) (rest : List (Waypoint ℝ)),
    some (w.ahead rest (w.wayLength rest)) = (w :: rest).getLast?.map Waypoint.position
  | _, [] => rfl
  | w, next :: rest => by
      have hlength := next.wayLength_nonneg rest
      rw [ahead, wayLength, if_neg (by linarith), add_sub_cancel_left, ahead_wayLength next rest,
        List.getLast?_cons_cons]

/-- Points of a way are at most as far apart as they are along it: straight ways keep distances, and
at a waypoint between the two the way may turn. -/
lemma dist_ahead_le (ha : 0 ≤ a) (hab : a ≤ b) :
    dist (w.ahead rest a) (w.ahead rest b) ≤ b - a := by
  induction rest generalizing w a b with
  | nil =>
      rw [ahead, ahead, dist_self]
      linarith
  | cons next rest ih =>
      have hstraight : ∀ s t, s ≤ t → 0 < dist w.position next.position →
          dist (w.position.onWay next.position (s / dist w.position next.position))
            (w.position.onWay next.position (t / dist w.position next.position)) = t - s := by
        intro s t hst hpos
        rw [Point.dist_onWay, ← sub_div, abs_div, abs_of_pos hpos, abs_sub_comm,
          abs_of_nonneg (by linarith), div_mul_cancel₀ _ hpos.ne']
      rw [ahead, ahead]
      split <;> split
      · exact (hstraight a b hab (by linarith)).le
      · next hfirst hsecond =>
        -- by way of the waypoint between them
        have hpos : 0 < dist w.position next.position := by linarith
        have hbefore := hstraight a _ hfirst.le hpos
        rw [div_self hpos.ne', Point.onWay_one] at hbefore
        have hbehind := ih (w := next) (a := 0) (b := b - dist w.position next.position) le_rfl
          (by linarith)
        rw [ahead_zero] at hbehind
        linarith [dist_triangle
          (w.position.onWay next.position (a / dist w.position next.position)) next.position
          (next.ahead rest (b - dist w.position next.position))]
      · linarith
      · next hfirst _ =>
        have hbehind := ih (w := next) (a := a - dist w.position next.position)
          (b := b - dist w.position next.position) (by linarith) (by linarith)
        linarith

end Waypoint

namespace Path

/-- **The point at a distance along a path.** -/
noncomputable def pointAt (path : Path ℝ) (d : ℝ) : Point ℝ :=
  match path.points with
  | [] => ⟨0, 0⟩
  | w :: rest => w.ahead rest d

/-- **How long a path is.** -/
noncomputable def length (path : Path ℝ) : ℝ :=
  match path.points with
  | [] => 0
  | w :: rest => w.wayLength rest

/-- **Points of a path are at most as far apart as they are along it.** -/
lemma dist_pointAt_le (path : Path ℝ) {a b : ℝ} (ha : 0 ≤ a) (hab : a ≤ b) :
    dist (path.pointAt a) (path.pointAt b) ≤ b - a := by
  unfold pointAt
  split
  · rw [dist_self]
    linarith
  · exact Waypoint.dist_ahead_le ha hab

/-- How far along the planned path a sample lies, when there are `size` of them. -/
noncomputable def sampleArc (planned : Path ℝ) (spacing : Distance ℝ) (size j : ℕ) : ℝ :=
  if j + 1 < size then j * spacing.metres else planned.length

end Path

/-! ## Samples on stretches -/

namespace SampledPath

variable {d : Distance ℝ}

lemma stretches_eq (w : Waypoint ℝ) (rest : List (Waypoint ℝ)) (along : ℝ) :
    stretches (Chain.links (w :: rest)) ⟨along⟩ =
      .ok (w.ways rest along, ⟨along + w.wayLength rest⟩) := by
  induction rest generalizing w along with
  | nil =>
      rw [Waypoint.wayLength, add_zero]
      rfl
  | cons next rest ih =>
      rw [Chain.links, stretches, Path.step_eq, Waypoint.ways, Waypoint.wayLength]
      by_cases hsame : dist w.position next.position = 0
      · have hzero : (⟨dist w.position next.position⟩ : Distance ℝ).isZero = true :=
          Distance.isZero_iff.mpr hsame
        simp only [bind, Except.bind, hzero, if_true, if_pos hsame]
        rw [ih, hsame, zero_add]
      · have hapart : ¬ (⟨dist w.position next.position⟩ : Distance ℝ).isZero = true :=
          fun h => hsame (Distance.isZero_iff.mp h)
        simp only [bind, Except.bind, if_neg hapart, if_neg hsame, Distance.add_eq, ih, add_assoc]
        rfl

/-- Stretches begin where the way does. -/
lemma along_of_ways {w : Waypoint ℝ} {rest : List (Waypoint ℝ)} {along : ℝ} {s : Stretch ℝ}
    {later : List (Stretch ℝ)} (h : w.ways rest along = s :: later) : s.along = ⟨along⟩ := by
  induction rest generalizing w with
  | nil => cases h
  | cons next rest ih =>
      rw [Waypoint.ways] at h
      split at h
      · exact ih h
      · cases h
        rfl

/-- **The stretch that a distance lies on** leads to the point at that distance. -/
lemma advance_ways (w : Waypoint ℝ) (rest : List (Waypoint ℝ)) (along : ℝ)
    (hfrom : along ≤ d.metres) (hto : d.metres < along + w.wayLength rest) :
    ∃ s later, advance d (w.ways rest along) = s :: later ∧ s.length.metres ≠ 0 ∧
      s.start.position.onWay s.finish.position ((d.metres - s.along.metres) / s.length.metres) =
        w.ahead rest (d.metres - along) := by
  induction rest generalizing w along with
  | nil =>
      rw [Waypoint.wayLength] at hto
      linarith
  | cons next rest ih =>
      rw [Waypoint.wayLength] at hto
      rw [Waypoint.ways, Waypoint.ahead]
      split
      · -- a waypoint at the same place adds nothing
        next hsame =>
        rw [hsame] at hto ⊢
        obtain ⟨s, later, hadvance, hlength, hpoint⟩ := ih next along hfrom (by linarith)
        refine ⟨s, later, hadvance, hlength, ?_⟩
        rw [hpoint, if_neg (by linarith), sub_zero]
      · next hapart =>
        by_cases hhere : d.metres - along < dist w.position next.position
        · -- the next stretch begins too late
          rw [if_pos hhere]
          refine ⟨⟨w, next, ⟨along⟩, ⟨dist w.position next.position⟩⟩,
            next.ways rest (along + dist w.position next.position), ?_, hapart, rfl⟩
          refine advance_stay fun n later hlater => ?_
          rw [along_of_ways hlater, Distance.le_iff]
          dsimp only
          linarith
        · obtain ⟨s, later, hadvance, hlength, hpoint⟩ :=
            ih next (along + dist w.position next.position) (by linarith) (by linarith)
          refine ⟨s, later, ?_, hlength, ?_⟩
          · refine advance_pass (fun n later' hlater => ?_) hadvance
            rw [along_of_ways hlater, Distance.le_iff]
            dsimp only
            linarith
          · rw [hpoint, if_neg hhere, sub_sub]

lemma position_of_sampleOn {s : Stretch ℝ} {sample : Waypoint ℝ} (hlength : s.length.metres ≠ 0)
    (h : sampleOn s d = .ok sample) : sample.position =
      s.start.position.onWay s.finish.position
        ((d.metres - s.along.metres) / s.length.metres) := by
  rw [sampleOn, Distance.sub_eq] at h
  obtain ⟨since, ⟨⟩, h⟩ := Outcome.bind_eq_ok.mp h
  rw [Distance.ratio_eq _ hlength] at h
  obtain ⟨part, ⟨⟩, h⟩ := Outcome.bind_eq_ok.mp h
  obtain ⟨position, ⟨⟩, h⟩ := Outcome.bind_eq_ok.mp h
  obtain ⟨yaw, -, h⟩ := Outcome.bind_eq_ok.mp h
  cases h
  rfl

/-- **Samples lie at multiples of the spacing**, all before the end of the way.  The stretches that
are left for the samples from number `k` on serve those as well as all stretches. -/
lemma position_of_samplesFrom {w : Waypoint ℝ} {rest : List (Waypoint ℝ)} {spacing : Distance ℝ}
    (hspacing : 0 ≤ spacing.metres) {fuel k : ℕ} {remaining : List (Stretch ℝ)}
    {samples : List (Waypoint ℝ)}
    (hremaining : ∀ d : Distance ℝ, k * spacing.metres ≤ d.metres →
      advance d remaining = advance d (w.ways rest 0))
    (h : samplesFrom spacing ⟨w.wayLength rest⟩ fuel k remaining = .ok samples) {j : ℕ}
    {sample : Waypoint ℝ} (hj : samples[j]? = some sample) :
    (k + j) * spacing.metres < w.wayLength rest ∧
      sample.position = w.ahead rest ((k + j) * spacing.metres) := by
  induction fuel generalizing k remaining samples j with
  | zero =>
      cases h
      cases hj
  | succ fuel ih =>
      rw [samplesFrom, Scalar.ofNat_eq, Distance.scale_eq] at h
      obtain ⟨d, ⟨⟩, h⟩ := Outcome.bind_eq_ok.mp h
      split at h
      · cases h
        cases hj
      · next hbefore =>
        have hd : (⟨spacing.metres * k⟩ : Distance ℝ).metres = k * spacing.metres := mul_comm _ _
        have hlt : k * spacing.metres < w.wayLength rest := hd ▸ not_le.mp hbefore
        obtain ⟨s, later, hadvance, hlength, hpoint⟩ := advance_ways
          (d := ⟨spacing.metres * k⟩) w rest 0 (by rw [hd]; positivity)
          (by rw [hd, zero_add]; exact hlt)
        rw [hd, sub_zero] at hpoint
        have hremains := hremaining ⟨spacing.metres * k⟩ hd.ge
        rw [hremains, hadvance] at h
        obtain ⟨first, hfirst, h⟩ := Outcome.bind_eq_ok.mp h
        obtain ⟨others, hothers, h⟩ := Outcome.bind_eq_ok.mp h
        cases h
        cases j with
        | zero =>
            cases hj
            rw [Nat.cast_zero, add_zero, position_of_sampleOn hlength hfirst, hd]
            exact ⟨hlt, hpoint⟩
        | succ j =>
            have hlater : ∀ d' : Distance ℝ, (k + 1 : ℕ) * spacing.metres ≤ d'.metres →
                advance d' (s :: later) = advance d' (w.ways rest 0) := by
              intro d' hd'
              rw [← hadvance]
              refine advance_advance (fun along hpassed => ?_) _
              rw [Distance.le_iff] at hpassed ⊢
              rw [Nat.cast_succ] at hd'
              linarith
            have hothers := ih (j := j) hlater hothers hj
            rw [Nat.cast_succ] at hothers ⊢
            rwa [show (k : ℝ) + (j + 1) = k + 1 + j by ring]

/-- **Where samples lie.**  Each lies on the planned path, at its number times the spacing, and the
last one at the end; those before it all lie before the end. -/
theorem position_of_resample {planned sampled : Path ℝ} {spacing : Distance ℝ}
    (hspacing : 0 ≤ spacing.metres) (h : resample planned spacing = .ok sampled) {j : ℕ}
    {sample : Waypoint ℝ} (hj : sampled.points[j]? = some sample) :
    sample.position = planned.pointAt (planned.sampleArc spacing sampled.size j) ∧
      (j + 1 < sampled.size → j * spacing.metres < planned.length) := by
  unfold resample at h
  cases hpoints : planned.points with
  | nil =>
      -- without waypoints there are no samples
      rw [hpoints] at h
      obtain ⟨⟨ways, total⟩, ⟨⟩, h⟩ := Outcome.bind_eq_ok.mp h
      obtain ⟨samples, hsamples, h⟩ := Outcome.bind_eq_ok.mp h
      cases h
      rw [sampleBound, samplesFrom, Scalar.ofNat_eq, Distance.scale_eq] at hsamples
      obtain ⟨d, ⟨⟩, hsamples⟩ := Outcome.bind_eq_ok.mp hsamples
      rw [if_pos (by simp [Distance.le_iff])] at hsamples
      cases hsamples
      cases hj
  | cons w rest =>
      have hzero : (Distance.zero : Distance ℝ) = ⟨0⟩ := by
        rw [← Distance.metres_zero]
      rw [hpoints, hzero, stretches_eq, zero_add] at h
      obtain ⟨⟨ways, total⟩, ⟨⟩, h⟩ := Outcome.bind_eq_ok.mp h
      obtain ⟨samples, hsamples, h⟩ := Outcome.bind_eq_ok.mp h
      cases hlast : (w :: rest).getLast? with
      | none => simp at hlast
      | some last =>
          simp only [hlast] at h
          obtain ⟨closed, hclosed, h⟩ := Outcome.bind_eq_ok.mp h
          cases h
          obtain ⟨kept, final, rfl, ⟨dropped, rfl⟩, -, hfinal, -⟩ := close_eq_ok hclosed
          simp only [Path.size, List.length_append, List.length_singleton, Path.sampleArc,
            Path.length, Path.pointAt, hpoints, Nat.add_lt_add_iff_right]
          by_cases hbefore : j < kept.length
          · rw [List.getElem?_append_left hbefore] at hj
            have hsample := position_of_samplesFrom hspacing (fun _ _ => rfl) hsamples (j := j)
              (by rw [List.getElem?_append_left hbefore, hj])
            rw [Nat.cast_zero, zero_add] at hsample
            rw [if_pos hbefore]
            exact ⟨hsample.2, fun _ => hsample.1⟩
          · obtain ⟨hlt, hj⟩ := List.getElem?_eq_some_iff.mp hj
            rw [List.length_append, List.length_singleton] at hlt
            obtain rfl : j = kept.length := by omega
            have hend : sample = final := by simpa using hj.symm
            have hahead := Waypoint.ahead_wayLength w rest
            rw [hlast] at hahead
            rw [if_neg hbefore, hend, hfinal]
            exact ⟨(Option.some.inj hahead).symm, fun h => absurd h hbefore⟩

/-- All samples but the last lie before the end. -/
lemma mul_lt_length {planned sampled : Path ℝ} {spacing : Distance ℝ}
    (hspacing : 0 ≤ spacing.metres) (h : resample planned spacing = .ok sampled) {j : ℕ}
    (hj : j + 1 < sampled.size) : j * spacing.metres < planned.length := by
  obtain ⟨sample, hsample⟩ : ∃ sample, sampled.points[j]? = some sample :=
    ⟨_, List.getElem?_eq_getElem (Nat.lt_of_succ_lt hj)⟩
  exact (position_of_resample hspacing h hsample).2 hj

/-- From sample to sample the planned path goes on. -/
lemma sampleArc_le_succ {planned sampled : Path ℝ} {spacing : Distance ℝ}
    (hspacing : 0 ≤ spacing.metres) (h : resample planned spacing = .ok sampled) {j : ℕ}
    (hj : j + 1 < sampled.size) :
    0 ≤ planned.sampleArc spacing sampled.size j ∧
      planned.sampleArc spacing sampled.size j ≤
        planned.sampleArc spacing sampled.size (j + 1) := by
  rw [Path.sampleArc, if_pos hj, Path.sampleArc]
  refine ⟨by positivity, ?_⟩
  split
  · rw [Nat.cast_succ]
    linarith
  · exact (mul_lt_length hspacing h hj).le

end SampledPath

end Crossing
