import Mathlib.Algebra.BigOperators.Intervals
import Crossing.Proofs.FasterPassing

/-!
# A profile told without a memory

`PassingTime.entries` goes from waypoint to waypoint and carries along what it has seen: whether a
commanded stop lies behind, the velocity at the waypoint before, and the clock.  The rules here
carry nothing.  The velocity at an index (`PassingTime.VelocityAt`) depends on that index, the one
where the vehicle is and the waypoints between.  The time of a stretch (`PassingTime.stretchTime`)
depends on the velocities at its ends.  And an index has an entry exactly if the path goes on there
(`PassingTime.moves`).

`profile_eq_rules` says that the profile follows these rules.  What has to be seen for it is that a
waypoint without an entry does all else that a waypoint does: it may be a stop, and it is the
waypoint before the next one.

**The clock** at an index is the start delay and the times of all stretches up to there, where the
way to a repeated waypoint takes none.  With times on the grid these sums are not rounded.
-/

namespace Crossing

namespace PassingTime

/-! ## The rules -/

section Rules

variable {K : Type} [Scalar K]

/-- Behind one index, and up to another, the vehicle is commanded to stop. -/
def StopBetween (path : Path K) (closest i : ℕ) : Prop :=
  ∃ k w, closest < k ∧ k ≤ i ∧ path.points[k]? = some w ∧ w.velocity ≤ Speed.zero

/-- **The velocity at an index** `i` for a vehicle that is at the index `closest`, on a path whose
waypoints lie at the distances `s`. -/
inductive VelocityAt (a : PassingTime K) (path : Path K) (s : ℕ → Distance K) (closest i : ℕ) :
    Speed K → Prop
  /-- Without commanded velocities it is that of the ramp. -/
  | ramped {way : Distance K} {v : Speed K} (rule : a.useCommanded = false)
      (sub : (s i).sub (s closest) = .ok way) (ramp : a.ramp way = .ok v) :
      VelocityAt a path s closest i v
  /-- Behind a commanded stop it is the least one. -/
  | stopped (rule : a.useCommanded = true) (stop : StopBetween path closest i) :
      VelocityAt a path s closest i a.minimumCommanded
  /-- Otherwise it is the one commanded there. -/
  | commanded {w : Waypoint K} (rule : a.useCommanded = true)
      (go : ¬ StopBetween path closest i) (point : path.points[i]? = some w) :
      VelocityAt a path s closest i w.velocity

/-- **The time of a stretch** with a velocity before it and one after it: its length over their mean
or over the least velocity, and the smallest time there is where that is nothing. -/
def stretchTime (a : PassingTime K) (before after : Speed K) (stretch : Distance K) :
    Outcome K (Duration K) := do
  let mean ← (← before.add after).shrink 2.0
  let time ← (max mean a.minimumVelocity).timeFor stretch
  if Scalar.isZero time.seconds then return Duration.epsilon else return time

/-- The indices behind one, up to another, at which the path goes on. -/
def moves (s : ℕ → Distance K) (closest last : ℕ) : List ℕ :=
  (List.range' (closest + 1) (last - closest)).filter fun i => s (i - 1) < s i

lemma stopBetween_succ {path : Path K} {closest i : ℕ} {w : Waypoint K} (hi : closest ≤ i)
    (hw : path.points[i + 1]? = some w) :
    StopBetween path closest (i + 1) ↔ StopBetween path closest i ∨ w.velocity ≤ Speed.zero := by
  constructor
  · rintro ⟨k, w', hk, hki, hw', hstop⟩
    rcases Nat.le_succ_iff.mp hki with hki | rfl
    · exact Or.inl ⟨k, w', hk, hki, hw', hstop⟩
    · cases hw.symm.trans hw'
      exact Or.inr hstop
  · rintro (⟨k, w', hk, hki, hw', hstop⟩ | hstop)
    · exact ⟨k, w', hk, Nat.le_succ_of_le hki, hw', hstop⟩
    · exact ⟨i + 1, w, Nat.lt_succ_of_le hi, le_rfl, hw, hstop⟩

lemma not_stopBetween_self {path : Path K} {closest : ℕ} : ¬ StopBetween path closest closest := by
  rintro ⟨k, w, hk, hki, -⟩
  omega

end Rules

variable {F : Type} [Field F] [LinearOrder F] [FloorRing F] [IsStrictOrderedRing F]
  {f : Functions F} {a : PassingTime (FourPlaces f)} {path : Path (FourPlaces f)}
  {closest last i j n : ℕ} {stopped : Bool} {w : Waypoint (FourPlaces f)}

open FourPlaces

/-! ## Along the path -/

lemma row_eq (hw : path.points[i]? = some w) : (rows path)[i]? = some (w, ⟨arcAt path i⟩) := by
  have hi : i < path.size := (List.getElem?_eq_some_iff.mp hw).1
  rw [rows, List.getElem?_zip_eq_some, List.getElem?_map, getElem?_arcs hi]
  exact ⟨hw, rfl⟩

/-- The rows up to an index begin with the next one. -/
lemma window_eq_cons (hi : i < last) (hw : path.points[i + 1]? = some w) :
    window path i last = (w, ⟨arcAt path (i + 1)⟩) :: window path (i + 1) last := by
  have hrow : ((rows path).take (last + 1))[i + 1]? = some (w, ⟨arcAt path (i + 1)⟩) := by
    rw [List.getElem?_take_of_lt (by omega), row_eq hw]
  obtain ⟨hlength, hget⟩ := List.getElem?_eq_some_iff.mp hrow
  rw [window, List.drop_eq_getElem_cons hlength, hget]
  rfl

/-! ## Velocities -/

open Classical in
/-- The velocity at an index, by the rules. -/
noncomputable def speedBy (a : PassingTime (FourPlaces f)) (path : Path (FourPlaces f))
    (closest i : ℕ) : FourPlaces f :=
  if a.useCommanded then
    if StopBetween path closest i then a.minimumCommanded.metresPerSecond
    else (path.points[i]?.map (·.velocity.metresPerSecond)).getD 0
  else a.rampAt (toGrid (arcAt path i - arcAt path closest))

lemma velocityAt_speedBy (hi : i < path.size) :
    a.VelocityAt path (fun i => ⟨arcAt path i⟩) closest i ⟨a.speedBy path closest i⟩ := by
  unfold speedBy
  split
  · next hrule =>
    split
    · next hstop => exact .stopped hrule hstop
    · next hgo =>
      have hw : path.points[i]? = some path.points[i] := List.getElem?_eq_getElem hi
      rw [hw]
      exact .commanded hrule hgo hw
  · next hrule => exact .ramped (Bool.eq_false_iff.mpr hrule) rfl (a.ramp_eq _)

/-- The flag that the entries carry: a commanded stop lies behind, and it counts. -/
def Flags (a : PassingTime (FourPlaces f)) (path : Path (FourPlaces f)) (closest i : ℕ)
    (stopped : Bool) : Prop :=
  stopped = true ↔ a.useCommanded = true ∧ StopBetween path closest i

lemma flags_self : a.Flags path closest closest false :=
  ⟨nofun, fun h => absurd h.2 not_stopBetween_self⟩

lemma Flags.succ (h : a.Flags path closest i stopped) (hi : closest ≤ i)
    (hw : path.points[i + 1]? = some w) :
    a.Flags path closest (i + 1) (stopped || a.isStop w) := by
  rw [Flags] at h ⊢
  rw [stopBetween_succ hi hw, Bool.or_eq_true, h, isStop, Bool.and_eq_true, decide_eq_true_eq,
    and_or_left]

/-- With the flag as it should be, the velocity is that of the rules. -/
lemma speedAt_eq_speedBy (h : a.Flags path closest i stopped) (hw : path.points[i]? = some w) :
    a.speedAt (arcAt path closest) stopped w (arcAt path i) = a.speedBy path closest i := by
  rw [speedAt, speedBy, hw]
  by_cases hrule : a.useCommanded = true
  · by_cases hstop : StopBetween path closest i
    · have hstopped : stopped = true := h.mpr ⟨hrule, hstop⟩
      simp [hrule, hstop, hstopped]
    · have hgo : ¬ stopped = true := fun hstopped => hstop (h.mp hstopped).2
      simp [hrule, hstop, hgo]
  · simp [hrule]

/-! ## Times -/

/-- A time, and the smallest one there is for none. -/
def orTick (d : FourPlaces f) : FourPlaces f := if d = 0 then 0.0001 else d

/-- The time of a stretch, which is not nothing. -/
def stretchSeconds (a : PassingTime (FourPlaces f)) (before after stretch : FourPlaces f) :
    FourPlaces f :=
  orTick (toGrid (stretch / a.stretchSpeed before after))

lemma onGrid_tick : OnGrid (0.0001 : FourPlaces f) := ⟨1, by rw [tick_eq]; norm_num⟩

lemma stretchTime_eq (hmin : 0 < a.minimumVelocity.metresPerSecond)
    (before after stretch : FourPlaces f) :
    a.stretchTime ⟨before⟩ ⟨after⟩ ⟨stretch⟩ = .ok ⟨a.stretchSeconds before after stretch⟩ := by
  have hpositive : 0 < a.stretchSpeed before after := lt_max_of_lt_right hmin
  have hadd : (⟨before⟩ : Speed (FourPlaces f)).add ⟨after⟩ = .ok ⟨toGrid (before + after)⟩ := rfl
  have htime : (max (⟨toGrid (toGrid (before + after) / 2.0)⟩ : Speed (FourPlaces f))
      a.minimumVelocity).timeFor ⟨stretch⟩ =
        .ok ⟨toGrid (stretch / a.stretchSpeed before after)⟩ := by
    rw [timeFor_eq _ _ (by rw [max_metresPerSecond]; exact hpositive.ne'), max_metresPerSecond]
    rfl
  simp only [stretchTime, hadd, bind, Except.bind, speed_half_eq, htime, isZero_iff, stretchSeconds,
    orTick]
  split <;> rfl

lemma onGrid_stretchSeconds (before after stretch : FourPlaces f) :
    OnGrid (a.stretchSeconds before after stretch) := by
  unfold stretchSeconds orTick
  split
  · exact onGrid_tick
  · exact onGrid_toGrid _

/-- On the grid the time after a stretch is a sum, which is not rounded. -/
lemma nextTime_eq (hmin : 0 < a.minimumVelocity.metresPerSecond) {time stretch : FourPlaces f}
    (htime : OnGrid time) (hstretch : 0 < stretch) (before after : FourPlaces f) :
    a.nextTime time before after stretch = time + a.stretchSeconds before after stretch := by
  have hpositive : 0 < a.stretchSpeed before after := lt_max_of_lt_right hmin
  have hnonneg : 0 ≤ toGrid (stretch / a.stretchSpeed before after) :=
    toGrid_nonneg (div_nonneg hstretch.le hpositive.le)
  have hgrid := onGrid_toGrid (stretch / a.stretchSpeed before after)
  unfold nextTime stretchSeconds laterBy orTick
  generalize toGrid (stretch / a.stretchSpeed before after) = d at hnonneg hgrid
  rw [(htime.add hgrid).toGrid_eq, (htime.add onGrid_tick).toGrid_eq]
  rcases hnonneg.eq_or_lt with rfl | hpos
  · simp
  · simp [hpos.ne', hpos]

/-! ## The clock -/

/-- The time of the stretch that ends at an index; none is needed where the path does not go on. -/
noncomputable def timeTo (a : PassingTime (FourPlaces f)) (path : Path (FourPlaces f))
    (closest i : ℕ) : FourPlaces f :=
  if arcAt path (i - 1) < arcAt path i then
    a.stretchSeconds (a.speedBy path closest (i - 1)) (a.speedBy path closest i)
      (arcAt path i - arcAt path (i - 1))
  else 0

/-- **The clock at an index.** -/
noncomputable def clockAt (a : PassingTime (FourPlaces f)) (path : Path (FourPlaces f))
    (closest i : ℕ) : FourPlaces f :=
  a.startDelay.seconds + ∑ k ∈ Finset.Ioc closest i, a.timeTo path closest k

lemma clockAt_self : a.clockAt path closest closest = a.startDelay.seconds := by
  rw [clockAt, Finset.Ioc_self, Finset.sum_empty, add_zero]

lemma clockAt_succ (hi : closest ≤ i) :
    a.clockAt path closest (i + 1) = a.clockAt path closest i + a.timeTo path closest (i + 1) := by
  rw [clockAt, clockAt, Finset.sum_Ioc_succ_top hi, add_assoc]

/-- Where the path does not go on, the clock stands still. -/
lemma clockAt_of_stay (hi : closest ≤ i) (h : ¬ arcAt path i < arcAt path (i + 1)) :
    a.clockAt path closest (i + 1) = a.clockAt path closest i := by
  rw [clockAt_succ hi, timeTo, Nat.add_sub_cancel, if_neg h, add_zero]

lemma clockAt_of_move (hi : closest ≤ i) (h : arcAt path i < arcAt path (i + 1)) :
    a.clockAt path closest (i + 1) = a.clockAt path closest i +
      a.stretchSeconds (a.speedBy path closest i) (a.speedBy path closest (i + 1))
        (arcAt path (i + 1) - arcAt path i) := by
  rw [clockAt_succ hi, timeTo, Nat.add_sub_cancel, if_pos h]

lemma onGrid_clockAt (hdelay : OnGrid a.startDelay.seconds) :
    OnGrid (a.clockAt path closest i) := by
  refine hdelay.add (Finset.sum_induction _ OnGrid (fun _ _ => OnGrid.add) onGrid_zero ?_)
  intro k _
  unfold timeTo
  split
  · exact onGrid_stretchSeconds _ _ _
  · exact onGrid_zero

/-! ## Entries -/

lemma moves_self (s : ℕ → Distance (FourPlaces f)) : moves s i (i + 0) = [] := by
  simp [moves]

lemma moves_succ (s : ℕ → Distance (FourPlaces f)) :
    moves s i (i + (n + 1)) =
      if s i < s (i + 1) then (i + 1) :: moves s (i + 1) (i + 1 + n)
      else moves s (i + 1) (i + 1 + n) := by
  have hleft : i + (n + 1) - i = n + 1 := by omega
  have hright : i + 1 + n - (i + 1) = n := by omega
  simp only [moves, hleft, hright, List.range'_succ, List.filter_cons, Nat.add_sub_cancel,
    decide_eq_true_eq]

/-- The indices at which a path goes on. -/
def movesAlong (path : Path (FourPlaces f)) (closest last : ℕ) : List ℕ :=
  moves (fun i => ⟨arcAt path i⟩) closest last

lemma movesAlong_of_stay (h : ¬ arcAt path i < arcAt path (i + 1)) :
    movesAlong path i (i + (n + 1)) = movesAlong path (i + 1) (i + 1 + n) :=
  (moves_succ _).trans (if_neg h)

lemma movesAlong_of_move (h : arcAt path i < arcAt path (i + 1)) :
    movesAlong path i (i + (n + 1)) = (i + 1) :: movesAlong path (i + 1) (i + 1 + n) :=
  (moves_succ _).trans (if_pos h)

/-- **The entries behind an index follow the rules.**  By induction over the indices that are left;
flag, velocity and clock are what the rules say of the index reached. -/
lemma entries_eq_rules (hf : f.HasRoot) (hmin : 0 < a.minimumVelocity.metresPerSecond)
    (hdelay : OnGrid a.startDelay.seconds) (hi : closest ≤ i) (hlast : i + n < path.size)
    (hflags : a.Flags path closest i stopped) :
    a.entries ⟨arcAt path closest⟩ stopped ⟨a.clockAt path closest i⟩
        ⟨a.speedBy path closest i⟩ ⟨arcAt path i⟩ (window path i (i + n)) =
      .ok ((movesAlong path i (i + n)).map fun k =>
        (⟨a.clockAt path closest k⟩, ⟨arcAt path k⟩)) := by
  induction n generalizing i stopped with
  | zero =>
      have hnone : window path i (i + 0) = [] := by
        rw [window, List.drop_take, Nat.sub_self, List.take_zero]
      rw [hnone, movesAlong, moves_self]
      rfl
  | succ n ih =>
      have hnext : i + 1 < path.size := by omega
      have hw : path.points[i + 1]? = some path.points[i + 1] := List.getElem?_eq_getElem hnext
      have hlater := hflags.succ hi hw
      have hspeed := speedAt_eq_speedBy hlater hw
      have hrest := ih (Nat.le_succ_of_le hi) (by omega) hlater
      have hend : i + 1 + n = i + (n + 1) := by omega
      rw [window_eq_cons (by omega) hw, ← hend]
      rcases (arcAt_mono hf (Nat.le_succ i) hnext).eq_or_lt with hsame | hahead
      · -- no entry, but the flag and the velocity of the waypoint go on
        have hstays : ¬ arcAt path i < arcAt path (i + 1) := not_lt_of_ge hsame.ge
        rw [hend, movesAlong_of_stay hstays, hsame, entries_stay, hspeed,
          ← clockAt_of_stay hi hstays, ← hend]
        exact hrest
      · have hclock : a.nextTime (a.clockAt path closest i) (a.speedBy path closest i)
            (a.speedBy path closest (i + 1)) (arcAt path (i + 1) - arcAt path i) =
              a.clockAt path closest (i + 1) := by
          rw [nextTime_eq hmin (onGrid_clockAt hdelay) (sub_pos.mpr hahead),
            clockAt_of_move hi hahead]
        have hgrid := onGrid_arcAt path
        rw [hend, movesAlong_of_move hahead, ← hend,
          entries_move hmin (hgrid i) (hgrid (i + 1)) hahead]
        simp only [hspeed, hclock, hrest]
        rfl

/-- From an entry to the next the clock goes on by the time of the stretch that ends there.  Between
them the clock stands still, so the entry may be told by any index `j` with the same clock. -/
lemma isChain_moves (hi : closest ≤ i)
    (hj : a.clockAt path closest j = a.clockAt path closest i) :
    (j :: movesAlong path i (i + n)).IsChain fun j k =>
      a.clockAt path closest k = a.clockAt path closest j + a.timeTo path closest k ∧
        arcAt path (k - 1) < arcAt path k := by
  induction n generalizing i j with
  | zero =>
      rw [movesAlong, moves_self]
      exact List.isChain_singleton j
  | succ n ih =>
      by_cases hahead : arcAt path i < arcAt path (i + 1)
      · rw [movesAlong_of_move hahead]
        refine .cons_cons ⟨?_, hahead⟩ (ih (Nat.le_succ_of_le hi) rfl)
        rw [hj, clockAt_succ hi]
      · rw [movesAlong_of_stay hahead]
        exact ih (Nat.le_succ_of_le hi) (hj.trans (clockAt_of_stay hi hahead).symm)

/-! ## The whole profile -/

/-- **A profile follows the rules.**  Let the vehicle be at one index and go to another.  Behind its
first entry, the start delay where it is, the profile has exactly one entry for each index behind at
which the path goes on.  The entry tells how far along the path that is, and its time is the time of
the entry before and the time of the stretch that ends there, with the velocities that the rules
give for the two ends of the stretch. -/
theorem profile_eq_rules (hf : f.HasRoot) (hmin : Speed.zero < a.minimumVelocity)
    (hdelay : OnGrid a.startDelay.seconds) (hlast : closest < last) (hsize : last < path.size) :
    ∃ (s : ℕ → Distance (FourPlaces f)) (v : ℕ → Speed (FourPlaces f))
        (clock : ℕ → Duration (FourPlaces f)),
      path.arcLengths = .ok ((List.range path.size).map s) ∧
      (∀ i, closest ≤ i → i ≤ last → a.VelocityAt path s closest i (v i)) ∧
      clock closest = a.startDelay ∧
      a.profile path closest last =
        .ok ((closest :: moves s closest last).map fun i => (clock i, s i)) ∧
      (closest :: moves s closest last).IsChain fun j i => ∃ stretch time,
        (s i).sub (s (i - 1)) = .ok stretch ∧
        a.stretchTime (v (i - 1)) (v i) stretch = .ok time ∧
        (clock i).seconds = (clock j).seconds + time.seconds := by
  have hmin : 0 < a.minimumVelocity.metresPerSecond := zero_eq (f := f) ▸ hmin
  obtain ⟨n, rfl⟩ := Nat.exists_eq_add_of_le hlast.le
  obtain ⟨w, hw⟩ : ∃ w, path.points[closest]? = some w :=
    ⟨_, List.getElem?_eq_getElem (hlast.trans hsize)⟩
  have hspeed := speedAt_eq_speedBy (a := a) flags_self hw
  have hstart : (⟨a.clockAt path closest closest⟩ : Duration (FourPlaces f)) = a.startDelay :=
    congrArg Duration.mk clockAt_self
  refine ⟨fun i => ⟨arcAt path i⟩, fun i => ⟨a.speedBy path closest i⟩,
    fun i => ⟨a.clockAt path closest i⟩, arcLengths_eq_arcAt path, ?_, ?_, ?_, ?_⟩
  · intro i _ hi
    exact velocityAt_speedBy (hi.trans_lt hsize)
  · exact hstart
  · have hentries := entries_eq_rules hf hmin hdelay le_rfl hsize flags_self
    rw [hstart, ← hspeed] at hentries
    rw [profile_eq (row_eq hw), List.map_cons]
    dsimp only
    rw [hstart]
    exact congrArg (((a.startDelay, ⟨arcAt path closest⟩) :: ·) <$> ·) hentries
  · refine (isChain_moves (a := a) le_rfl rfl).imp ?_
    rintro j i ⟨hclock, hahead⟩
    have hstretch : (⟨arcAt path i⟩ : Distance (FourPlaces f)).sub ⟨arcAt path (i - 1)⟩ =
        .ok ⟨arcAt path i - arcAt path (i - 1)⟩ := by
      rw [sub_eq, ((onGrid_arcAt path i).sub (onGrid_arcAt path (i - 1))).toGrid_eq]
    rw [timeTo, if_pos hahead] at hclock
    exact ⟨_, _, hstretch, stretchTime_eq hmin _ _ _, hclock⟩

/-! ## A stop at a repeated waypoint

The path lists its second waypoint twice, and it is the second time that the vehicle is told to stop
there.  So the stop makes no entry, but the stretch behind it is driven with the velocity that
counts behind a stop.
-/

def pausedRoute : Path (FourPlaces rationals) :=
  ⟨[⟨⟨⟨0.0, 0.0⟩, ⟨0.0⟩⟩, ⟨5.0⟩, []⟩, ⟨⟨⟨3.0, 4.0⟩, ⟨0.0⟩⟩, ⟨5.0⟩, []⟩,
    ⟨⟨⟨3.0, 4.0⟩, ⟨0.0⟩⟩, ⟨0.0⟩, []⟩, ⟨⟨⟨6.0, 8.0⟩, ⟨0.0⟩⟩, ⟨5.0⟩, []⟩]⟩

def pausedPassing : PassingTime (FourPlaces rationals) :=
  { stopPassing with minimumVelocity := ⟨1.0⟩, minimumCommanded := ⟨2.0⟩ }

/-- The first five metres take a second, and the next five take two and a half. -/
theorem profile_eq_rules_pausedRoute :
    Speed.zero < pausedPassing.minimumVelocity ∧ OnGrid pausedPassing.startDelay.seconds ∧
      3 < pausedRoute.size ∧
      pausedPassing.profile pausedRoute 0 3 =
        .ok [(⟨1.0⟩, ⟨0.0⟩), (⟨2.0⟩, ⟨5.0⟩), (⟨4.5⟩, ⟨10.0⟩)] ∧
      ∃ (s : ℕ → Distance (FourPlaces rationals)) (v : ℕ → Speed (FourPlaces rationals))
          (clock : ℕ → Duration (FourPlaces rationals)),
        pausedRoute.arcLengths = .ok ((List.range pausedRoute.size).map s) ∧
        pausedPassing.VelocityAt pausedRoute s 0 2 (v 2) ∧
        pausedPassing.VelocityAt pausedRoute s 0 3 (v 3) ∧
        pausedPassing.profile pausedRoute 0 3 =
          .ok ((0 :: moves s 0 3).map fun i => (clock i, s i)) := by
  have hmin : Speed.zero < pausedPassing.minimumVelocity := by decide +kernel
  have hdelay : OnGrid pausedPassing.startDelay.seconds := ⟨10000, by decide +kernel⟩
  have hsize : 3 < pausedRoute.size := by decide
  have hvalue : pausedPassing.profile pausedRoute 0 3 =
      .ok [(⟨1.0⟩, ⟨0.0⟩), (⟨2.0⟩, ⟨5.0⟩), (⟨4.5⟩, ⟨10.0⟩)] := by decide +kernel
  obtain ⟨s, v, clock, hs, hv, -, hprofile, -⟩ :=
    profile_eq_rules hasRoot_rationals hmin hdelay (by decide : 0 < 3) hsize
  exact ⟨hmin, hdelay, hsize, hvalue, s, v, clock, hs, hv 2 (by decide) (by decide),
    hv 3 (by decide) (by decide), hprofile⟩

end PassingTime

end Crossing
