import Crossing.Proofs.SampledLanes

/-!
# Where each sample is laid

Samples are laid in one pass: the stretches that have been passed are dropped, and the next sample
is looked for among those that are left.  Described from scratch, without a pass, a sample lies on
the last way between waypoints at different places that begins no later than the distance of the
sample (`Path.SampledAt`).

**Resampling is that**, for every path and every spacing of a ten-thousandth or more
(`FourPlaces.exists_resampled`).  There is one sample for each multiple of the spacing that lies
before the end of the path, also when the path has no length and there is no stretch at all.  The
last waypoint is put behind the samples, in the place of the last of them when the two are at most
`Distance.epsilon` apart (`SampledPath.Closes`).
-/

namespace Crossing

section Description

variable {K : Type} [Scalar K]

/-- The sample is at the distance `d` along the path, on the stretch and before its finish.  It has
the heading of the stretch, and the velocity and the lanelets of its start. -/
structure Stretch.Carries (s : Stretch K) (d : Distance K) (sample : Waypoint K) : Prop where
  position : ∃ part, 0.0 ≤ part ∧ part < 1.0 ∧
    s.along.metres + part * s.length.metres = d.metres ∧
    s.start.position.lerp s.finish.position part = .ok sample.position
  heading : s.start.position.direction s.finish.position = .ok sample.pose.yaw
  velocity : sample.velocity = s.start.velocity
  lanes : sample.lanes = s.start.lanes

/-- The way from waypoint `i` leads elsewhere, and it begins no later than the distance. -/
def Path.BeginsBy (path : Path K) (distances : List (Distance K)) (d : Distance K) (i : ℕ) : Prop :=
  ∃ s : Stretch K, s.IsWay path.points distances i ∧ s.along ≤ d

/-- **The sample at a distance, looked for from scratch**: it lies on the last way that leads
elsewhere and begins no later. -/
def Path.SampledAt (path : Path K) (distances : List (Distance K)) (d : Distance K)
    (sample : Waypoint K) : Prop :=
  ∃ (i : ℕ) (s : Stretch K), IsGreatest { i | path.BeginsBy distances d i } i ∧
    s.IsWay path.points distances i ∧ s.Carries d sample

/-- The last waypoint ends the path, with the heading of the last sample before it.  That sample
goes if it counts as the same point. -/
def SampledPath.Closes (samples : List (Waypoint K)) (last : Waypoint K)
    (closed : List (Waypoint K)) : Prop :=
  (samples = [] → closed = [last]) ∧
  ∀ before, samples.getLast? = some before →
    ∃ gap, before.position.distance last.position = .ok gap ∧
      closed = (if gap ≤ Distance.epsilon then samples.dropLast else samples) ++
        [{ last with pose := { last.pose with yaw := before.pose.yaw } }]

/-- **What a path is sampled into.**  There is a sample for each multiple of the spacing that lies
before the end, and behind them the last waypoint. -/
structure SampledPath.Resampled (path : Path K) (spacing : Distance K)
    (distances : List (Distance K)) (samples : List (Waypoint K)) (sampled : Path K) : Prop where
  count : ∀ k d, spacing.scale (Scalar.ofNat k) = .ok d →
    (k < samples.length ↔ d < distances.getLastD Distance.zero)
  laid : ∀ k d sample, spacing.scale (Scalar.ofNat k) = .ok d → samples[k]? = some sample →
    path.SampledAt distances d sample
  closed : ∀ last, path.points.getLast? = some last → Closes samples last sampled.points
  empty : path.points = [] → sampled.points = []

end Description

namespace FourPlaces

variable {F : Type} [Field F] [LinearOrder F] [FloorRing F] [IsStrictOrderedRing F]
  {f : Functions F} {d : Distance (FourPlaces f)} {spacing : Distance (FourPlaces f)}

/-- On the grid nothing is lost when a sample is laid. -/
lemma carries_of_sampleOn {s : Stretch (FourPlaces f)} {sample : Waypoint (FourPlaces f)}
    (hd : OnGrid d.metres) (halong : OnGrid s.along.metres) (hfrom : s.along ≤ d)
    (hto : d.metres < s.along.metres + s.length.metres)
    (h : SampledPath.sampleOn s d = .ok sample) : s.Carries d sample := by
  have hsince : 0 ≤ d.metres - s.along.metres := sub_nonneg.mpr hfrom
  have hwithin : d.metres - s.along.metres < s.length.metres := sub_lt_iff_lt_add'.mpr hto
  have hlength : 0 < s.length.metres := hsince.trans_lt hwithin
  have hratio (x : Distance (FourPlaces f)) :
      x.ratio s.length = .ok (x.metres / s.length.metres) :=
    if_neg fun hzero => hlength.ne' ((isZero_iff _).mp hzero)
  obtain ⟨since, part, hsub, hpart, hposition, hyaw, hvelocity, hlanes⟩ :=
    SampledPath.sampleOn_eq_ok h
  rw [sub_eq, (hd.sub halong).toGrid_eq] at hsub
  obtain rfl := Except.ok.inj hsub
  obtain rfl := Except.ok.inj ((hratio _).symm.trans hpart)
  refine ⟨⟨_, ?_, ?_, ?_, hposition⟩, hyaw, hvelocity, hlanes⟩
  · rw [zero_eq]
    exact div_nonneg hsince hlength.le
  · have hone : (1.0 : FourPlaces f) = 1 := by norm_num
    rw [hone]
    exact (div_lt_one hlength).mpr hwithin
  · rw [div_mul_cancel₀ _ hlength.ne', add_sub_cancel]

/-- A row of samples is closed as described. -/
lemma closes_of_close {samples closed : List (Waypoint (FourPlaces f))}
    {last : Waypoint (FourPlaces f)} (h : SampledPath.close samples last = .ok closed) :
    SampledPath.Closes samples last closed := by
  constructor
  · rintro rfl
    cases h
    rfl
  · intro before hbefore
    rw [SampledPath.close, hbefore] at h
    obtain ⟨same, hsame, h⟩ := Outcome.bind_eq_ok.mp h
    obtain ⟨gap, hgap, hsame⟩ := Outcome.bind_eq_ok.mp hsame
    refine ⟨gap, hgap, ?_⟩
    cases hsame
    split at h
    · next hnear =>
      cases h
      rw [if_pos (of_decide_eq_true hnear)]
    · next hfar =>
      cases h
      rw [if_neg fun hnear => hfar (decide_eq_true hnear)]

/-- **What is laid is what is found from scratch.** -/
lemma sampledAt_of_covers (hf : f.HasRoot) {path : Path (FourPlaces f)} {i : ℕ}
    {s : Stretch (FourPlaces f)} {sample : Waypoint (FourPlaces f)} (hd : OnGrid d.metres)
    (hway : s.IsWay path.points ((arcs path).map Distance.mk) i)
    (hcovers : Path.Covers ((arcs path).map Distance.mk) i d)
    (hto : d.metres < s.along.metres + s.length.metres)
    (hsample : SampledPath.sampleOn s d = .ok sample) :
    path.SampledAt ((arcs path).map Distance.mk) d sample := by
  have hfrom : s.along ≤ d := by
    obtain ⟨start, -, hstart, -, hle, -⟩ := hcovers
    cases hstart.symm.trans hway.along
    exact hle
  have halong : OnGrid s.along.metres := by
    obtain ⟨x, hx, hmk⟩ := List.mem_map.mp (List.mem_of_getElem? hway.along)
    rw [← hmk]
    exact onGrid_of_mem_arcs x hx
  refine ⟨i, s, ⟨⟨s, hway, hfrom⟩, ?_⟩, hway, carries_of_sampleOn hd halong hfrom hto hsample⟩
  rintro j ⟨t, ht, hle⟩
  exact le_of_covers (pairwise_arcs hf path) hcovers ht.along hle

/-- A path without waypoints has no samples. -/
lemma resampled_nil (hspacing : 0 ≤ spacing.metres) :
    SampledPath.Resampled ⟨[]⟩ spacing [] [] ⟨[]⟩ where
  count := by
    rintro k _ ⟨⟩
    have hbehind : (0.0 : FourPlaces f) ≤ sampleAt spacing k := by
      rw [zero_eq]
      exact toGrid_nonneg (mul_nonneg hspacing k.cast_nonneg)
    exact iff_of_false (Nat.not_lt_zero k) (not_lt.mpr hbehind)
  laid := nofun
  closed := nofun
  empty _ := rfl

lemma getLastD_arcs (w : Waypoint (FourPlaces f)) (rest : List (Waypoint (FourPlaces f))) :
    ((arcs (⟨w :: rest⟩ : Path (FourPlaces f))).map Distance.mk).getLastD Distance.zero =
      ⟨endFrom w 0 rest⟩ := by
  rw [arcs, List.map_cons, List.getLastD_cons, List.getLastD_map, endFrom]

/-- A path with waypoints has the samples that are laid along it. -/
lemma exists_resampled_cons (hf : f.HasRoot) (hspacing : 0 < spacing.metres)
    (w : Waypoint (FourPlaces f)) (rest : List (Waypoint (FourPlaces f))) :
    ∃ samples sampled,
      SampledPath.samplesFrom spacing ⟨endFrom w 0 rest⟩
        (SampledPath.sampleBound spacing ⟨endFrom w 0 rest⟩) 0 (ways w 0 rest) = .ok samples ∧
      endFrom w 0 rest ≤ sampleAt spacing samples.length ∧
      SampledPath.resample ⟨w :: rest⟩ spacing = .ok sampled ∧
      SampledPath.Resampled ⟨w :: rest⟩ spacing
        ((arcs (⟨w :: rest⟩ : Path (FourPlaces f))).map Distance.mk) samples sampled := by
  obtain ⟨last, hlast⟩ : ∃ last, (w :: rest).getLast? = some last := ⟨_, List.getLast?_cons⟩
  have hfuel := le_sampleAt_sampleBound hspacing ⟨endFrom w 0 rest⟩
  rw [← Nat.zero_add (SampledPath.sampleBound _ _)] at hfuel
  obtain ⟨samples, hsamples, hreach, hlaid⟩ :=
    exists_samplesFrom hspacing.le (fun _ _ => rfl) hfuel
  obtain ⟨closed, hclosed⟩ := exists_close samples last
  have hresample : SampledPath.resample ⟨w :: rest⟩ spacing = .ok ⟨closed⟩ := by
    rw [SampledPath.resample, distance_zero, stretches_eq onGrid_zero]
    simp only [bind, Except.bind, hsamples, hlast, hclosed]
    rfl
  simp only [Nat.zero_add] at hreach hlaid
  refine ⟨samples, ⟨closed⟩, hsamples, hreach, hresample,
    ⟨?_, ?_, ?_, fun h => absurd h (List.cons_ne_nil w rest)⟩⟩
  · rintro k _ ⟨⟩
    rw [getLastD_arcs]
    constructor
    · intro hk
      exact (hlaid k _ (List.getElem?_eq_getElem hk)).1
    · intro hbefore
      by_contra hk
      exact not_lt.mpr (hreach.trans (sampleAt_mono hspacing.le (not_lt.mp hk))) hbefore
  · rintro k _ sample ⟨⟩ hk
    obtain ⟨-, i, s, hway, hcovers, hto, hsample⟩ := hlaid k sample hk
    exact sampledAt_of_covers hf (onGrid_toGrid _) hway hcovers hto hsample
  · intro last' hlast'
    obtain rfl := Option.some.inj (hlast.symm.trans hlast')
    exact closes_of_close hclosed

/-- **Any path is resampled as if each sample were looked for from scratch**, with any spacing of a
ten-thousandth or more.  The pass along the stretches ends by itself: beyond what is provided, more
fuel gives no more samples.  Multiples of a spacing on the grid are exact. -/
theorem exists_resampled (hf : f.HasRoot) (path : Path (FourPlaces f))
    (hspacing : ⟨0.0001⟩ ≤ spacing) :
    ∃ distances ways samples sampled, path.arcLengths = .ok distances ∧
      SampledPath.stretches (Chain.links path.points) Distance.zero =
        .ok (ways, distances.getLastD Distance.zero) ∧
      (∀ fuel, SampledPath.sampleBound spacing (distances.getLastD Distance.zero) ≤ fuel →
        SampledPath.samplesFrom spacing (distances.getLastD Distance.zero) fuel 0 ways =
          .ok samples) ∧
      SampledPath.resample path spacing = .ok sampled ∧
      SampledPath.Resampled path spacing distances samples sampled ∧
      (OnGrid spacing.metres → ∀ k d, spacing.scale (Scalar.ofNat k) = .ok d →
        d.metres = k * spacing.metres) := by
  have hpos := pos_of_tick_le hspacing
  have hmultiple (hgrid : OnGrid spacing.metres) (k : ℕ) (d : Distance (FourPlaces f))
      (hd : spacing.scale (Scalar.ofNat k) = .ok d) : d.metres = k * spacing.metres := by
    cases hd
    obtain ⟨n, hn⟩ := hgrid
    have hproduct : OnGrid (spacing.metres * k) := ⟨n * k, by rw [hn]; push_cast; ring⟩
    exact hproduct.toGrid_eq.trans (mul_comm _ _)
  rcases path with ⟨_ | ⟨w, rest⟩⟩
  · refine ⟨[], [], [], ⟨[]⟩, rfl, rfl, fun fuel _ => ?_, resample_nil spacing,
      resampled_nil hpos.le, hmultiple⟩
    have hnone : SampledPath.samplesFrom spacing Distance.zero 0 0 [] = .ok [] := rfl
    have hend : (Distance.zero : Distance (FourPlaces f)) ≤ ⟨sampleAt spacing 0⟩ :=
      not_lt.mp fun hbefore =>
        Nat.not_lt_zero 0 (((resampled_nil hpos.le).count 0 _ rfl).mpr hbefore)
    exact SampledPath.samplesFrom_of_le hnone rfl hend fuel.zero_le
  · obtain ⟨samples, sampled, hsamples, hreach, hsampled, h⟩ :=
      exists_resampled_cons hf hpos w rest
    refine ⟨_, ways w 0 rest, samples, sampled, arcLengths_eq _, ?_, fun fuel hfuel => ?_, hsampled,
      h, hmultiple⟩
    · rw [getLastD_arcs, distance_zero, stretches_eq onGrid_zero]
    · rw [getLastD_arcs] at hfuel ⊢
      have hbeyond : spacing.scale (Scalar.ofNat (0 + samples.length)) =
          .ok ⟨sampleAt spacing samples.length⟩ := by
        rw [Nat.zero_add, scale_eq]
      exact SampledPath.samplesFrom_of_le hsamples hbeyond hreach hfuel

/-- Two metres at a spacing of one have samples at the start and a metre on, where two waypoints have
been passed; the third sample would be at the end, and the last waypoint is there. -/
theorem exists_resampled_shortRun :
    (⟨0.0001⟩ : Distance (FourPlaces rationals)) ≤ ⟨1⟩ ∧
      ∃ distances samples sampled,
        SampledPath.resample SampledPath.shortRun ⟨1⟩ = .ok sampled ∧ sampled.size = 3 ∧
        SampledPath.Resampled SampledPath.shortRun ⟨1⟩ distances samples sampled ∧
        samples.length = 2 := by
  have hspacing : (⟨0.0001⟩ : Distance (FourPlaces rationals)) ≤ ⟨1⟩ := by decide +kernel
  obtain ⟨distances, ways, samples, sampled, hdistances, -, -, hsampled, h, -⟩ :=
    exists_resampled hasRoot_rationals SampledPath.shortRun hspacing
  have hlength : SampledPath.shortRun.arcLengths =
      .ok [⟨0⟩, ⟨0.25⟩, ⟨0.75⟩, (⟨2⟩ : Distance (FourPlaces rationals))] := by decide +kernel
  have hsize : (SampledPath.resample SampledPath.shortRun ⟨1⟩).map Path.size = .ok 3 := by
    decide +kernel
  rw [hsampled] at hsize
  obtain rfl := Except.ok.inj (hdistances.symm.trans hlength)
  have hsecond : 1 < samples.length := (h.count 1 ⟨1⟩ (by decide +kernel)).mpr (by decide +kernel)
  have hthird : ¬ 2 < samples.length := fun hlt =>
    absurd ((h.count 2 ⟨2⟩ (by decide +kernel)).mp hlt) (by decide +kernel)
  exact ⟨hspacing, _, samples, sampled, hsampled, Except.ok.inj hsize, h, by omega⟩

end FourPlaces

end Crossing
