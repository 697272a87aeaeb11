import Crossing.Proofs.FourPlaces
import Crossing.Proofs.LaneRuns
import Crossing.Proofs.Samples

/-!
# The lanelets that samples show

Whether a path comes to an intersection is read off its samples, not off its waypoints.  A sample
has the lanelets of the waypoint whose way to the next one it lies on (`Path.Covers`), and the last
sample has those of the last waypoint.  So the lanelets of a waypoint are seen when it is the last
one, or when a sample other than the last lies on its way (`SampledPath.Shows`).

**A path is missed when none of the waypoints that are seen is on the lanelets**, and when it is
sampled into a single point (`SampledPath.ofPath_eq_none_iff`).  A path without a waypoint on them
is always missed.  The converse does not hold (`SampledPath.not_forall_ofPath_eq_none_iff`): a run
on the lanelets can be shorter than the spacing and lie between two samples.

Two things make up the proof.  Laying samples never fails and there is fuel up to the end
(`FourPlaces.exists_samplesFrom`, `FourPlaces.le_sampleAt_sampleBound`); and as distances do not
decrease along a path, a sample lies on the way from one waypoint only (`FourPlaces.covers_unique`).
-/

namespace Crossing

/-! ## Waypoints along the path -/

namespace Path

variable {K : Type} {path : Path K}

lemma getLast?_points {w : Waypoint K} :
    path.points.getLast? = some w ↔ ∃ i, path.points[i]? = some w ∧ i + 1 = path.size := by
  rw [List.getLast?_eq_getElem?, ← size]
  constructor
  · intro h
    have hlt : path.size - 1 < path.size := (List.getElem?_eq_some_iff.mp h).1
    exact ⟨_, h, by omega⟩
  · rintro ⟨i, hi, hsize⟩
    rw [← hsize, Nat.add_sub_cancel, hi]

variable [Scalar K]

/-- The way from waypoint `i` to the next one covers the distance: it begins no later and ends
later. -/
def Covers (distances : List (Distance K)) (i : ℕ) (d : Distance K) : Prop :=
  ∃ start finish, distances[i]? = some start ∧ distances[i + 1]? = some finish ∧
    start ≤ d ∧ d < finish

end Path

lemma Waypoint.isOn_congr {K : Type} {a b : Waypoint K} (h : a.lanes = b.lanes) (ids : IdSet) :
    a.isOn ids = b.isOn ids := by
  rw [isOn, isOn, h]

/-- A stretch is the way from waypoint `i` to the next one, and the two are not at the same place. -/
structure Stretch.IsWay {K : Type} [Scalar K] (s : Stretch K) (points : List (Waypoint K))
    (distances : List (Distance K)) (i : ℕ) : Prop where
  start : points[i]? = some s.start
  finish : points[i + 1]? = some s.finish
  along : distances[i]? = some s.along
  length : Path.step s.start s.finish = .ok s.length
  apart : s.length.isZero = false

/-- One of the samples, other than the last, lies on the way from waypoint `i` of the planned path
to the next one, when there are `size` samples. -/
def SampledPath.Shows {K : Type} [Scalar K] (distances : List (Distance K)) (spacing : Distance K)
    (size i : ℕ) : Prop :=
  ∃ k d, k + 1 < size ∧ spacing.scale (Scalar.ofNat k) = .ok d ∧ Path.Covers distances i d

/-! ## Stretches and samples -/

namespace FourPlaces

variable {F : Type} [Field F] [LinearOrder F] [FloorRing F] [IsStrictOrderedRing F]
  {f : Functions F}

/-- The stretches of the way from a waypoint at the distance `along` through the ones after it. -/
def ways (w : Waypoint (FourPlaces f)) (along : FourPlaces f) :
    List (Waypoint (FourPlaces f)) → List (Stretch (FourPlaces f))
  | [] => []
  | next :: rest =>
    if gap w next = 0 then ways next along rest
    else ⟨w, next, ⟨along⟩, ⟨gap w next⟩⟩ :: ways next (along + gap w next) rest

/-- How far along the last of the waypoints lies. -/
def endFrom (w : Waypoint (FourPlaces f)) (along : FourPlaces f)
    (rest : List (Waypoint (FourPlaces f))) : FourPlaces f :=
  (arcsFrom w along rest).getLastD along

/-- How far along the planned path a sample lies. -/
def sampleAt (spacing : Distance (FourPlaces f)) (k : ℕ) : FourPlaces f :=
  toGrid (spacing.metres * k)

variable {w : Waypoint (FourPlaces f)} {along d : FourPlaces f}
  {rest : List (Waypoint (FourPlaces f))} {spacing : Distance (FourPlaces f)}

lemma scale_eq (k : ℕ) : spacing.scale (Scalar.ofNat k) = .ok ⟨sampleAt spacing k⟩ := rfl

lemma sampleAt_mono (hspacing : 0 ≤ spacing.metres) : Monotone (sampleAt spacing) := by
  intro k l h
  have hcast : (k : FourPlaces f) ≤ l := by exact_mod_cast h
  exact toGrid_mono (mul_le_mul_of_nonneg_left hcast hspacing)

lemma endFrom_cons (next : Waypoint (FourPlaces f)) :
    endFrom w along (next :: rest) = endFrom next (along + gap w next) rest :=
  List.getLastD_cons

lemma stretches_eq (halong : OnGrid along) :
    SampledPath.stretches (Chain.links (w :: rest)) ⟨along⟩ =
      .ok (ways w along rest, ⟨endFrom w along rest⟩) := by
  induction rest generalizing w along with
  | nil => rfl
  | cons next rest ih =>
      have hnext := halong.add (onGrid_gap w next)
      rw [Chain.links, SampledPath.stretches, step_eq, ways, endFrom_cons]
      by_cases hsame : gap w next = 0
      · have hzero : (⟨gap w next⟩ : Distance (FourPlaces f)).isZero = true :=
          (isZero_iff _).mpr hsame
        simp only [bind, Except.bind, hzero, if_true, if_pos hsame]
        rw [ih halong, hsame, add_zero]
      · have hapart : ¬ (⟨gap w next⟩ : Distance (FourPlaces f)).isZero = true :=
          fun h => hsame ((isZero_iff _).mp h)
        simp only [bind, Except.bind, if_neg hapart, if_neg hsame, add_eq, hnext.toGrid_eq,
          ih hnext]
        rfl

/-- Stretches begin where the way does. -/
lemma along_of_ways {s : Stretch (FourPlaces f)} {later : List (Stretch (FourPlaces f))}
    (h : ways w along rest = s :: later) : s.along = ⟨along⟩ := by
  induction rest generalizing w with
  | nil => cases h
  | cons next rest ih =>
      rw [ways] at h
      split at h
      · exact ih h
      · cases h
        rfl

/-- **The stretch that a distance lies on** is the way from one of the waypoints to the next. -/
lemma advance_ways (hfrom : along ≤ d) (hto : d < endFrom w along rest) :
    ∃ s later i, SampledPath.advance ⟨d⟩ (ways w along rest) = s :: later ∧
      s.IsWay (w :: rest) ((along :: arcsFrom w along rest).map Distance.mk) i ∧
      Path.Covers ((along :: arcsFrom w along rest).map Distance.mk) i ⟨d⟩ ∧
      d < s.along.metres + s.length.metres := by
  induction rest generalizing w along with
  | nil => exact absurd hto (not_lt.mpr hfrom)
  | cons next rest ih =>
      rw [endFrom_cons] at hto
      rw [ways]
      split
      · -- a waypoint at the same place adds nothing
        next hsame =>
        rw [hsame, add_zero] at hto
        obtain ⟨s, later, i, hadvance, hway, hcovers, hbefore⟩ := ih hfrom hto
        refine ⟨s, later, i + 1, hadvance, ?_, ?_, hbefore⟩ <;> rw [arcsFrom, hsame, add_zero]
        · exact ⟨hway.start, hway.finish, hway.along, hway.length, hway.apart⟩
        · exact hcovers
      · next hapart =>
        by_cases hhere : d < along + gap w next
        · -- the next stretch begins too late
          refine ⟨⟨w, next, ⟨along⟩, ⟨gap w next⟩⟩, ways next (along + gap w next) rest, 0, ?_,
            ⟨rfl, rfl, rfl, rfl, Bool.eq_false_iff.mpr fun h => hapart ((isZero_iff _).mp h)⟩,
            ⟨_, _, rfl, rfl, hfrom, hhere⟩, hhere⟩
          refine SampledPath.advance_stay fun next rest hlater => ?_
          rw [along_of_ways hlater]
          exact not_le.mpr hhere
        · have hpassed := not_lt.mp hhere
          obtain ⟨s, later, i, hadvance, hway, hcovers, hbefore⟩ := ih hpassed hto
          refine ⟨s, later, i + 1, ?_,
            ⟨hway.start, hway.finish, hway.along, hway.length, hway.apart⟩, hcovers, hbefore⟩
          refine SampledPath.advance_pass (fun next rest hlater => ?_) hadvance
          rw [along_of_ways hlater]
          exact hpassed

/-- On a stretch that leads anywhere there are samples. -/
lemma exists_sampleOn {s : Stretch (FourPlaces f)} (h : s.length.isZero = false) :
    ∃ sample, SampledPath.sampleOn s ⟨d⟩ = .ok sample := by
  have hratio (x : Distance (FourPlaces f)) :
      x.ratio s.length = .ok (x.metres / s.length.metres) := by
    rw [Distance.ratio, if_neg (Bool.eq_false_iff.mp h)]
  rw [SampledPath.sampleOn, sub_eq]
  simp only [bind, Except.bind, hratio]
  exact ⟨_, rfl⟩

/-- **Samples are laid up to the end**, if there is fuel to get there: those that lie before it.
Each is laid on the way from a waypoint to the next that covers its distance.  The stretches that
are left for the samples from number `k` on serve those as well as all stretches. -/
lemma exists_samplesFrom (hspacing : 0 ≤ spacing.metres) {fuel k : ℕ}
    {remaining : List (Stretch (FourPlaces f))}
    (hremaining : ∀ d, sampleAt spacing k ≤ d →
      SampledPath.advance ⟨d⟩ remaining = SampledPath.advance ⟨d⟩ (ways w 0 rest))
    (hfuel : endFrom w 0 rest ≤ sampleAt spacing (k + fuel)) :
    ∃ samples,
      SampledPath.samplesFrom spacing ⟨endFrom w 0 rest⟩ fuel k remaining = .ok samples ∧
      endFrom w 0 rest ≤ sampleAt spacing (k + samples.length) ∧
      ∀ j sample, samples[j]? = some sample → sampleAt spacing (k + j) < endFrom w 0 rest ∧
        ∃ i s, s.IsWay (w :: rest) ((0 :: arcsFrom w 0 rest).map Distance.mk) i ∧
          Path.Covers ((0 :: arcsFrom w 0 rest).map Distance.mk) i ⟨sampleAt spacing (k + j)⟩ ∧
          sampleAt spacing (k + j) < s.along.metres + s.length.metres ∧
          SampledPath.sampleOn s ⟨sampleAt spacing (k + j)⟩ = .ok sample := by
  induction fuel generalizing k remaining with
  | zero => exact ⟨[], rfl, hfuel, nofun⟩
  | succ fuel ih =>
      rw [SampledPath.samplesFrom, scale_eq]
      dsimp only [bind, Except.bind]
      split
      · next hend => exact ⟨[], rfl, hend, nofun⟩
      · next hbefore =>
        have hfrom : 0 ≤ sampleAt spacing k := toGrid_nonneg (mul_nonneg hspacing k.cast_nonneg)
        obtain ⟨s, later, i, hadvance, hway, hcovers, hwithin⟩ :=
          advance_ways hfrom (not_le.mp hbefore)
        obtain ⟨sample, hsample⟩ := exists_sampleOn (d := sampleAt spacing k) hway.apart
        have hlater (d) (hd : sampleAt spacing (k + 1) ≤ d) :
            SampledPath.advance ⟨d⟩ (s :: later) = SampledPath.advance ⟨d⟩ (ways w 0 rest) := by
          have hle : sampleAt spacing k ≤ d := (sampleAt_mono hspacing k.le_succ).trans hd
          rw [← hadvance, SampledPath.advance_advance]
          exact fun _ hpassed => le_trans (α := FourPlaces f) hpassed hle
        have hshift (j : ℕ) : k + 1 + j = k + (j + 1) := by omega
        obtain ⟨others, hothers, hend, hlaid⟩ := ih hlater (by rwa [hshift])
        rw [hremaining _ le_rfl, hadvance]
        simp only [hsample, hothers]
        refine ⟨sample :: others, rfl, ?_, ?_⟩
        · rwa [List.length_cons, ← hshift]
        · rintro (_ | j) sample' hj
          · cases hj
            exact ⟨not_le.mp hbefore, i, s, hway, hcovers, hwithin, hsample⟩
          · rw [← hshift]
            exact hlaid j sample' hj

/-- There is fuel for all samples. -/
lemma le_sampleAt_sampleBound (hspacing : 0 < spacing.metres) (total : Distance (FourPlaces f)) :
    total.metres ≤ sampleAt spacing (SampledPath.sampleBound spacing total) := by
  have hceil : (total.metres + 1 / 10000) / spacing.metres ≤
      (SampledPath.sampleBound spacing total : FourPlaces f) := by
    rw [← tick_eq]
    refine (Nat.le_ceil _).trans ?_
    exact_mod_cast Nat.le_add_right _ 2
  have hmul : total.metres + 1 / 10000 ≤
      spacing.metres * (SampledPath.sampleBound spacing total : FourPlaces f) := by
    rw [mul_comm]
    exact (div_le_iff₀ hspacing).mp hceil
  exact (lt_toGrid_tick _).le.trans (toGrid_mono hmul)

/-- Any row of samples can be closed. -/
lemma exists_close (samples : List (Waypoint (FourPlaces f))) (last : Waypoint (FourPlaces f)) :
    ∃ closed, SampledPath.close samples last = .ok closed := by
  unfold SampledPath.close
  cases samples.getLast? with
  | none => exact ⟨_, rfl⟩
  | some before =>
      obtain ⟨same, hsame⟩ : ∃ same, before.pose.position.isSame last.pose.position = .ok same :=
        ⟨_, rfl⟩
      simp only [Waypoint.position, hsame, bind, Except.bind]
      cases same <;> exact ⟨_, rfl⟩

/-- **What a path has been sampled into.**  One sample more would not lie before the end.  The last
sample has the lanelets of the last waypoint, and each of the others those of the waypoint whose way
to the next it lies on. -/
structure Sampled (planned : Path (FourPlaces f)) (spacing : Distance (FourPlaces f))
    (sampled : Path (FourPlaces f)) : Prop where
  reaches : ∀ finish ∈ (arcs planned).getLast?, finish ≤ sampleAt spacing sampled.size
  lanes : ∀ k sample, sampled.points[k]? = some sample → k + 1 < sampled.size →
    ∃ i start, planned.points[i]? = some start ∧
      Path.Covers ((arcs planned).map Distance.mk) i ⟨sampleAt spacing k⟩ ∧
      sample.lanes = start.lanes
  last : sampled.points.getLast?.map Waypoint.lanes = planned.points.getLast?.map Waypoint.lanes

lemma resample_nil (spacing : Distance (FourPlaces f)) :
    SampledPath.resample ⟨[]⟩ spacing = .ok ⟨[]⟩ := by
  have hend : (Distance.zero : Distance (FourPlaces f)) ≤ ⟨sampleAt spacing 0⟩ := by
    rw [sampleAt, Nat.cast_zero, mul_zero, onGrid_zero.toGrid_eq]
    exact metres_zero.le
  have hways : SampledPath.stretches (Chain.links ([] : List (Waypoint (FourPlaces f))))
    Distance.zero = .ok ([], Distance.zero) := rfl
  rw [SampledPath.resample, hways]
  simp only [bind, Except.bind, SampledPath.sampleBound, SampledPath.samplesFrom, scale_eq,
    if_pos hend]
  rfl

lemma exists_resample_cons (hspacing : 0 < spacing.metres) :
    ∃ sampled, SampledPath.resample ⟨w :: rest⟩ spacing = .ok sampled ∧
      Sampled ⟨w :: rest⟩ spacing sampled := by
  obtain ⟨last, hlast⟩ : ∃ last, (w :: rest).getLast? = some last := ⟨_, List.getLast?_cons⟩
  have hfuel := le_sampleAt_sampleBound hspacing ⟨endFrom w 0 rest⟩
  rw [← Nat.zero_add (SampledPath.sampleBound _ _)] at hfuel
  obtain ⟨samples, hsamples, hreach, hlaid⟩ :=
    exists_samplesFrom hspacing.le (fun _ _ => rfl) hfuel
  rw [Nat.zero_add] at hreach
  obtain ⟨closed, hclosed⟩ := exists_close samples last
  obtain ⟨kept, final, rfl, ⟨dropped, rfl⟩, hlength, -, hfinal⟩ := SampledPath.close_eq_ok hclosed
  refine ⟨⟨kept ++ [final]⟩, ?_, ?_, ?_, ?_⟩
  · rw [SampledPath.resample, distance_zero, stretches_eq onGrid_zero]
    simp only [bind, Except.bind, hsamples, hlast, hclosed]
    rfl
  · intro finish hfinish
    have hend : (arcs (⟨w :: rest⟩ : Path (FourPlaces f))).getLast? =
        some (endFrom w 0 rest) := by
      rw [endFrom, List.getLastD_eq_getLast?]
      exact List.getLast?_cons
    rw [hend] at hfinish
    cases hfinish
    rw [Path.size, List.length_append, List.length_singleton]
    exact hreach.trans (sampleAt_mono hspacing.le hlength)
  · intro k sample hk hlt
    rw [Path.size, List.length_append, List.length_singleton] at hlt
    have hlt := Nat.lt_of_succ_lt_succ hlt
    rw [List.getElem?_append_left hlt] at hk
    obtain ⟨-, i, s, hway, hcovers, -, hsample⟩ :=
      hlaid k sample (by rwa [List.getElem?_append_left hlt])
    rw [Nat.zero_add] at hcovers
    exact ⟨i, s.start, hway.start, hcovers, SampledPath.lanes_of_sampleOn hsample⟩
  · rw [hlast, List.getLast?_concat, Option.map_some, Option.map_some, hfinal]

/-- **Any path can be sampled** with any positive spacing. -/
lemma exists_resample (hspacing : 0 < spacing.metres) (path : Path (FourPlaces f)) :
    ∃ sampled, SampledPath.resample path spacing = .ok sampled ∧ Sampled path spacing sampled := by
  rcases path with ⟨_ | ⟨w, rest⟩⟩
  · exact ⟨⟨[]⟩, resample_nil spacing, nofun, nofun, rfl⟩
  · exact exists_resample_cons hspacing

/-- A waypoint behind the way that covers a distance lies farther along than that. -/
lemma le_of_covers {xs : List (FourPlaces f)} (hxs : xs.Pairwise (· ≤ ·)) {i j : ℕ}
    {start d : Distance (FourPlaces f)} (hi : Path.Covers (xs.map Distance.mk) i d)
    (hj : (xs.map Distance.mk)[j]? = some start) (hd : start ≤ d) : j ≤ i := by
  by_contra hlt
  obtain ⟨-, finish, -, hfinish, -, hbefore⟩ := hi
  rw [List.getElem?_map, Option.map_eq_some_iff] at hfinish hj
  obtain ⟨x, hx, rfl⟩ := hfinish
  obtain ⟨y, hy, rfl⟩ := hj
  obtain ⟨hxlt, rfl⟩ := List.getElem?_eq_some_iff.mp hx
  obtain ⟨hylt, rfl⟩ := List.getElem?_eq_some_iff.mp hy
  have hle : xs[i + 1] ≤ xs[j] :=
    hxs.rel_get_of_le (a := ⟨i + 1, hxlt⟩) (b := ⟨j, hylt⟩) (not_le.mp hlt)
  exact not_lt.mpr (hle.trans hd) hbefore

/-- A distance lies on one way only. -/
lemma covers_unique {xs : List (FourPlaces f)} (hxs : xs.Pairwise (· ≤ ·)) {i j : ℕ}
    {d : Distance (FourPlaces f)} (hi : Path.Covers (xs.map Distance.mk) i d)
    (hj : Path.Covers (xs.map Distance.mk) j d) : i = j := by
  have ⟨_, _, hstart, _, hle, _⟩ := hi
  have ⟨_, _, hstart', _, hle', _⟩ := hj
  exact le_antisymm (le_of_covers hxs hj hstart hle) (le_of_covers hxs hi hstart' hle')

/-- Samples are on some lanelets when the last waypoint is or one whose way a sample lies on. -/
lemma Sampled.forall_isOn_iff {planned sampled : Path (FourPlaces f)}
    (h : Sampled planned spacing sampled) (hf : f.HasRoot) (ids : IdSet) :
    (∀ sample ∈ sampled.points, sample.isOn ids = false) ↔
      ∀ i w, planned.points[i]? = some w → i + 1 = planned.size ∨
        SampledPath.Shows ((arcs planned).map Distance.mk) spacing sampled.size i →
        w.isOn ids = false := by
  constructor
  · rintro hnone i w hi (hlast | ⟨k, _, hk, ⟨⟩, hcovers⟩)
    · have hfinal := h.last
      rw [Path.getLast?_points.mpr ⟨i, hi, hlast⟩, Option.map_some,
        Option.map_eq_some_iff] at hfinal
      obtain ⟨final, hfinal, hlanes⟩ := hfinal
      rw [← Waypoint.isOn_congr hlanes]
      exact hnone final (List.mem_of_getLast? hfinal)
    · have hsample := List.getElem?_eq_getElem (Nat.lt_of_succ_lt hk)
      obtain ⟨j, start, hj, hcovers', hlanes⟩ := h.lanes k _ hsample hk
      rw [← covers_unique (pairwise_arcs hf planned) hcovers hcovers', hi] at hj
      cases hj
      rw [← Waypoint.isOn_congr hlanes]
      exact hnone _ (List.mem_of_getElem? hsample)
  · intro hnone sample hsample
    obtain ⟨k, hk, hsample⟩ := List.getElem_of_mem hsample
    have hsample : sampled.points[k]? = some sample := List.getElem?_eq_some_iff.mpr ⟨hk, hsample⟩
    by_cases hlast : k + 1 < sampled.size
    · obtain ⟨i, start, hi, hcovers, hlanes⟩ := h.lanes k sample hsample hlast
      rw [Waypoint.isOn_congr hlanes]
      exact hnone i start hi (Or.inr ⟨k, _, hlast, rfl, hcovers⟩)
    · have hsize : k + 1 = sampled.size := le_antisymm hk (not_lt.mp hlast)
      have hplanned := h.last
      rw [Path.getLast?_points.mpr ⟨k, hsample, hsize⟩, Option.map_some, eq_comm,
        Option.map_eq_some_iff] at hplanned
      obtain ⟨w, hw, hlanes⟩ := hplanned
      obtain ⟨i, hi, hend⟩ := Path.getLast?_points.mp hw
      rw [← Waypoint.isOn_congr hlanes]
      exact hnone i w hi (Or.inl hend)

end FourPlaces

/-! ## Paths that do not come to the intersection -/

namespace SampledPath

variable {F : Type} [Field F] [LinearOrder F] [FloorRing F] [IsStrictOrderedRing F]
  {f : Functions F}

/-- **When a path does not come to the intersection.**  For every positive spacing there is an
answer, and the samples reach the end of the path: one more would not lie before it.  The answer is
that the path does not come there exactly if there is a single sample at most, or if neither the
last waypoint nor any whose way to the next a sample lies on, other than the last sample, is on the
lanelets. -/
theorem ofPath_eq_none_iff (hf : f.HasRoot) (lane : LaneletId) (ids : IdSet)
    (path : Path (FourPlaces f)) {spacing : Distance (FourPlaces f)}
    (hspacing : Distance.zero < spacing) :
    ∃ distances sampled found, path.arcLengths = .ok distances ∧
      resample path spacing = .ok sampled ∧ ofPath lane ids path spacing = .ok found ∧
      (∀ finish beyond, distances.getLast? = some finish →
        spacing.scale (Scalar.ofNat sampled.size) = .ok beyond → finish ≤ beyond) ∧
      (found = none ↔ sampled.size ≤ 1 ∨ ∀ i w, path.points[i]? = some w →
        i + 1 = path.size ∨ Shows distances spacing sampled.size i → w.isOn ids = false) := by
  have hpos : 0 < spacing.metres := by
    rw [← FourPlaces.metres_zero (f := f)]
    exact hspacing
  have hguard : ¬ spacing ≤ Distance.zero := not_le.mpr hspacing
  obtain ⟨sampled, hsampled, h⟩ := FourPlaces.exists_resample hpos path
  have hofPath : ofPath lane ids path spacing =
      .ok ((sampled.laneInterval ids).map fun interval =>
        { path := sampled, spacing, lane, associated := ids, interval }) := by
    rw [ofPath, if_neg hguard, hsampled]
    rfl
  refine ⟨_, sampled, _, FourPlaces.arcLengths_eq path, hsampled, hofPath, ?_, ?_⟩
  · rintro _ _ hfinish ⟨⟩
    rw [List.getLast?_map, Option.map_eq_some_iff] at hfinish
    obtain ⟨finish, hfinish, rfl⟩ := hfinish
    exact h.reaches finish hfinish
  · rw [Option.map_eq_none_iff, Path.laneInterval_eq_none_iff, h.forall_isOn_iff hf ids]

/-- Half a metre on lanelet 2, between the samples at the start and a metre on. -/
def shortRun : Path (FourPlaces rationals) :=
  ⟨[⟨⟨⟨0.0, 0.0⟩, ⟨0.0⟩⟩, ⟨5.0⟩, [⟨1⟩]⟩, ⟨⟨⟨0.25, 0.0⟩, ⟨0.0⟩⟩, ⟨5.0⟩, [⟨2⟩]⟩,
    ⟨⟨⟨0.75, 0.0⟩, ⟨0.0⟩⟩, ⟨5.0⟩, [⟨1⟩]⟩, ⟨⟨⟨2.0, 0.0⟩, ⟨0.0⟩⟩, ⟨5.0⟩, [⟨1⟩]⟩]⟩

lemma ofPath_shortRun : ofPath ⟨2⟩ (IdSet.ofList [⟨2⟩]) shortRun ⟨1⟩ = .ok none := by
  decide +kernel

/-- The path has three samples and is missed, so none of them shows the run. -/
theorem not_shows_shortRun : Distance.zero < (⟨1⟩ : Distance (FourPlaces rationals)) ∧
    ∃ distances sampled, shortRun.arcLengths = .ok distances ∧
      resample shortRun ⟨1⟩ = .ok sampled ∧ sampled.size = 3 ∧
      ¬ Shows distances ⟨1⟩ sampled.size 1 := by
  have hspacing : Distance.zero < (⟨1⟩ : Distance (FourPlaces rationals)) := by decide +kernel
  obtain ⟨distances, sampled, found, hdistances, hsampled, hfound, -, hiff⟩ :=
    ofPath_eq_none_iff hasRoot_rationals ⟨2⟩ (IdSet.ofList [⟨2⟩]) shortRun hspacing
  have hsize : (resample shortRun ⟨1⟩).map Path.size = .ok 3 := by decide +kernel
  rw [hsampled] at hsize
  have hsize : sampled.size = 3 := Except.ok.inj hsize
  have hnone : found = none := Except.ok.inj (hfound.symm.trans ofPath_shortRun)
  have hoff := (hiff.mp hnone).resolve_left (by omega)
  refine ⟨hspacing, distances, sampled, hdistances, hsampled, hsize, fun hshows => ?_⟩
  have hrun : ∀ w, shortRun.points[1]? = some w → w.isOn (IdSet.ofList [⟨2⟩]) = true := by
    rintro _ ⟨⟩
    decide +kernel
  exact Bool.false_ne_true ((hoff 1 _ rfl (Or.inr hshows)).symm.trans (hrun _ rfl))

/-- **A waypoint on the lanelets is not enough** for a path to come there, not even for a path that
leads somewhere. -/
theorem not_forall_ofPath_eq_none_iff :
    ¬ ∀ (lane : LaneletId) (ids : IdSet) (path : Path (FourPlaces rationals))
      (spacing : Distance (FourPlaces rationals)), Distance.zero < spacing →
        (∃ way ∈ Chain.links path.points, ∃ d, Path.step way.1 way.2 = .ok d ∧ d.isZero = false) →
          (ofPath lane ids path spacing = .ok none ↔ ∀ w ∈ path.points, w.isOn ids = false) := by
  intro h
  have hstep : ∃ way ∈ Chain.links shortRun.points, ∃ d,
      Path.step way.1 way.2 = .ok d ∧ d.isZero = false :=
    ⟨_, List.mem_cons_self, ⟨0.25⟩, by decide +kernel, by decide +kernel⟩
  have hiff := h ⟨2⟩ (IdSet.ofList [⟨2⟩]) shortRun ⟨1⟩ (by decide +kernel) hstep
  have hoff := hiff.mp ofPath_shortRun
  revert hoff
  decide +kernel

end SampledPath

end Crossing
