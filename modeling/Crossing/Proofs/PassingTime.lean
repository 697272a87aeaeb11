import Crossing.Proofs.FourPlaces
import Crossing.PassingTime

/-!
# How the times of a profile grow

`PassingTime.profile` goes from waypoint to waypoint, and at each of them it may make an entry.
Over numbers with quantities to four places every step of it has a value that can be written down
(`ramp_eq`, `velocityAt_eq`, `timeAfter_eq`), and there are two kinds of steps: a waypoint at no
distance from the one before makes no entry (`entries_stay`), and any other makes one
(`entries_move`).

**Times grow because of the smallest time there is.**  A stretch may take no time to four places,
but what is added then is a ten-thousandth, and rounding does not take it away (`lt_laterBy`).
**Distances grow because entries are only made when the path goes on**, and along a path distances
do not decrease.  Neither depends on velocities, commanded or ramped; only the least velocity has
to be positive, as stretches are divided by what they are driven with.

`profile_grows` joins this with where a profile begins and ends.
-/

namespace Crossing

variable {F : Type} [Field F] [LinearOrder F] [FloorRing F] [IsStrictOrderedRing F]
  {f : Functions F}

/-! ## Speeds and durations -/

namespace FourPlaces

section Speeds

variable (u v : Speed (FourPlaces f)) (x : FourPlaces f)

lemma abs_metresPerSecond : u.abs.metresPerSecond = |u.metresPerSecond| := by
  have habs : u.abs.metresPerSecond =
    if u.metresPerSecond ≤ 0.0 then 0.0 - u.metresPerSecond else u.metresPerSecond := rfl
  rw [habs, zero_eq]
  split
  · next h => rw [zero_sub, abs_of_nonpos h]
  · next h => rw [abs_of_pos (not_le.mp h)]

lemma min_metresPerSecond :
    (min u v).metresPerSecond = min u.metresPerSecond v.metresPerSecond := by
  have hmin : min u v = if v < u then v else u := rfl
  rw [hmin]
  split
  · next h => exact (min_eq_right (le_of_lt (α := FourPlaces f) h)).symm
  · next h => exact (min_eq_left (not_lt (α := FourPlaces f) |>.mp h)).symm

lemma max_metresPerSecond :
    (max u v).metresPerSecond = max u.metresPerSecond v.metresPerSecond := by
  have hmax : max u v = if v < u then u else v := rfl
  rw [hmax]
  split
  · next h => exact (max_eq_left (le_of_lt (α := FourPlaces f) h)).symm
  · next h => exact (max_eq_right (not_lt (α := FourPlaces f) |>.mp h)).symm

lemma positivePart_eq : Scalar.positivePart x = max x 0 := by
  unfold Scalar.positivePart
  rw [zero_eq]
  split
  · next h => exact (max_eq_left h.le).symm
  · next h => exact (max_eq_right (not_lt.mp h)).symm

lemma ofMetresPerSecond_eq : Speed.ofMetresPerSecond x = .ok ⟨toGrid x⟩ := rfl

lemma speed_half_eq : u.shrink 2.0 = .ok ⟨toGrid (u.metresPerSecond / 2.0)⟩ := by
  have htwo : ¬ Scalar.isZero (2.0 : FourPlaces f) = true := by rw [isZero_iff, two_eq]; norm_num
  rw [Speed.shrink, if_neg htwo, ofMetresPerSecond_eq]

lemma epsilon_seconds : (Duration.epsilon : Duration (FourPlaces f)).seconds = 0.0001 := rfl

lemma duration_add_eq (s t : Duration (FourPlaces f)) :
    s.add t = .ok ⟨toGrid (s.seconds + t.seconds)⟩ := rfl

lemma timeFor_eq (d : Distance (FourPlaces f)) (h : u.metresPerSecond ≠ 0) :
    u.timeFor d = .ok ⟨toGrid (d.metres / u.metresPerSecond)⟩ := by
  have hmoving : ¬ u.isZero = true := fun hzero => h ((isZero_iff _).mp hzero)
  rw [Speed.timeFor, if_neg hmoving]
  rfl

end Speeds

end FourPlaces

open FourPlaces

namespace PassingTime

variable (a : PassingTime (FourPlaces f))

/-! ## Velocities -/

/-- The velocity on the way from one velocity to another, once `gain` has come to the square of the
first or has gone from it. -/
def ramped (now goal gain : FourPlaces f) : FourPlaces f :=
  if now < goal then min (toGrid (Scalar.sqrt (now * now + gain))) goal
  else max (toGrid (Scalar.sqrt (max (now * now - gain) 0))) goal

/-- The velocity of the ramp after a distance. -/
def rampAt (d : FourPlaces f) : FourPlaces f :=
  if a.rampAcceleration ≤ 0 then a.crossingVelocity.metresPerSecond
  else ramped |a.currentVelocity.metresPerSecond| a.crossingVelocity.metresPerSecond
    (2.0 * a.rampAcceleration * d)

lemma ramp_eq (d : Distance (FourPlaces f)) : a.ramp d = .ok ⟨a.rampAt d.metres⟩ := by
  have hspeed : ∀ {u : Speed (FourPlaces f)} {x : FourPlaces f}, u.metresPerSecond = x →
      (.ok u : Outcome (FourPlaces f) _) = .ok ⟨x⟩ := by
    rintro u x rfl
    rfl
  have hless : a.currentVelocity.abs < a.crossingVelocity ↔
      |a.currentVelocity.metresPerSecond| < a.crossingVelocity.metresPerSecond := by
    rw [← abs_metresPerSecond]
    rfl
  simp only [ramp, rampAt, ramped, zero_eq, two_eq, hless, abs_metresPerSecond, positivePart_eq]
  split
  · exact hspeed rfl
  · split
    · exact hspeed (min_metresPerSecond _ _)
    · exact hspeed (max_metresPerSecond _ _)

/-- The velocity at a waypoint at the distance `arc`. -/
def speedAt (origin : FourPlaces f) (stopped : Bool) (w : Waypoint (FourPlaces f))
    (arc : FourPlaces f) : FourPlaces f :=
  if a.useCommanded then
    if stopped then a.minimumCommanded.metresPerSecond else w.velocity.metresPerSecond
  else a.rampAt (toGrid (arc - origin))

lemma velocityAt_eq (origin : Distance (FourPlaces f)) (stopped : Bool)
    (w : Waypoint (FourPlaces f)) (arc : Distance (FourPlaces f)) :
    a.velocityAt origin stopped w arc = .ok ⟨a.speedAt origin.metres stopped w arc.metres⟩ := by
  unfold velocityAt speedAt
  split
  · split <;> rfl
  · exact a.ramp_eq _

/-! ## Times -/

/-- The velocity that a stretch is driven with. -/
def stretchSpeed (before after : FourPlaces f) : FourPlaces f :=
  max (toGrid (toGrid (before + after) / 2.0)) a.minimumVelocity.metresPerSecond

/-- The time a duration later, and never the same. -/
def laterBy (d time : FourPlaces f) : FourPlaces f :=
  if toGrid (time + d) ≤ time then toGrid (time + 0.0001) else toGrid (time + d)

/-- The time at the end of a stretch. -/
def nextTime (time before after stretch : FourPlaces f) : FourPlaces f :=
  laterBy (toGrid (stretch / a.stretchSpeed before after)) time

lemma lt_afterEpsilon (time : FourPlaces f) : time < toGrid (time + 0.0001) := by
  rw [tick_eq]
  exact lt_toGrid_tick time

lemma lt_laterBy (d time : FourPlaces f) : time < laterBy d time := by
  unfold laterBy
  split
  · exact lt_afterEpsilon time
  · next h => exact not_le.mp h

section Entries

variable {a} {time before after here arc : FourPlaces f}

lemma timeAfter_eq (hmin : 0 < a.minimumVelocity.metresPerSecond)
    (stretch : Distance (FourPlaces f)) :
    a.timeAfter ⟨time⟩ ⟨before⟩ ⟨after⟩ stretch =
      .ok ⟨a.nextTime time before after stretch.metres⟩ := by
  have hpositive : 0 < a.stretchSpeed before after := lt_max_of_lt_right hmin
  have hadd : (⟨before⟩ : Speed (FourPlaces f)).add ⟨after⟩ = .ok ⟨toGrid (before + after)⟩ := rfl
  have htime : (max (⟨toGrid (toGrid (before + after) / 2.0)⟩ : Speed (FourPlaces f))
      a.minimumVelocity).timeFor stretch =
        .ok ⟨toGrid (stretch.metres / a.stretchSpeed before after)⟩ := by
    rw [timeFor_eq _ _ (by rw [max_metresPerSecond]; exact hpositive.ne'), max_metresPerSecond]
    rfl
  simp only [timeAfter, hadd, bind, Except.bind, speed_half_eq, htime, duration_add_eq,
    epsilon_seconds, nextTime, laterBy]
  generalize toGrid (stretch.metres / _) = d
  by_cases h : toGrid (time + d) ≤ time
  · rw [if_pos h]
    exact if_pos h
  · rw [if_neg h]
    exact if_neg h

variable {origin : Distance (FourPlaces f)} {stopped : Bool} {w : Waypoint (FourPlaces f)}
  {rest : List (Waypoint (FourPlaces f) × Distance (FourPlaces f))}

/-! ## Entries -/

/-- A waypoint at no distance from the one before makes no entry. -/
lemma entries_stay : a.entries origin stopped ⟨time⟩ ⟨before⟩ ⟨here⟩ ((w, ⟨here⟩) :: rest) =
    a.entries origin (stopped || a.isStop w) ⟨time⟩
      ⟨a.speedAt origin.metres (stopped || a.isStop w) w here⟩ ⟨here⟩ rest := by
  have hsub : (⟨here⟩ : Distance (FourPlaces f)).sub ⟨here⟩ = .ok Distance.zero := by
    rw [sub_eq, sub_self, onGrid_zero.toGrid_eq, ← metres_zero]
  simp only [entries, velocityAt_eq, hsub, bind, Except.bind]
  exact if_pos (le_refl (α := FourPlaces f) _)

/-- A waypoint further on makes an entry. -/
lemma entries_move (hmin : 0 < a.minimumVelocity.metresPerSecond) (hhere : OnGrid here)
    (harc : OnGrid arc) (h : here < arc) :
    a.entries origin stopped ⟨time⟩ ⟨before⟩ ⟨here⟩ ((w, ⟨arc⟩) :: rest) =
      let after := a.speedAt origin.metres (stopped || a.isStop w) w arc
      let next := a.nextTime time before after (arc - here)
      ((⟨next⟩, ⟨arc⟩) :: ·) <$>
        a.entries origin (stopped || a.isStop w) ⟨next⟩ ⟨after⟩ ⟨arc⟩ rest := by
  have hsub : (⟨arc⟩ : Distance (FourPlaces f)).sub ⟨here⟩ = .ok ⟨arc - here⟩ := by
    rw [sub_eq, (harc.sub hhere).toGrid_eq]
  have hahead : ¬ (⟨arc - here⟩ : Distance (FourPlaces f)) ≤ Distance.zero := by
    intro hle
    have hle : arc - here ≤ 0 := metres_zero (f := f) ▸ hle
    linarith
  simp only [entries, velocityAt_eq, hsub, timeAfter_eq hmin, bind, Except.bind, if_neg hahead]
  rfl

/-- **From one entry to the next**, time and distance grow. -/
def Grows (e e' : Duration (FourPlaces f) × Distance (FourPlaces f)) : Prop :=
  e.1 < e'.1 ∧ e.2 < e'.2

/-- **Every row of waypoints makes its entries**, which grow and end where the waypoints do. -/
lemma exists_entries (hmin : 0 < a.minimumVelocity.metresPerSecond)
    (origin : Distance (FourPlaces f)) (stopped : Bool) (time before here : FourPlaces f)
    (hgrid : ∀ x ∈ here :: rest.map (·.2.metres), OnGrid x)
    (hrows : (here :: rest.map (·.2.metres)).Pairwise (· ≤ ·)) :
    ∃ es, a.entries origin stopped ⟨time⟩ ⟨before⟩ ⟨here⟩ rest = .ok es ∧
      ((⟨time⟩, ⟨here⟩) :: es).IsChain Grows ∧
      (here :: es.map (·.2.metres)).getLast? = (here :: rest.map (·.2.metres)).getLast? := by
  induction rest generalizing stopped time before here with
  | nil => exact ⟨[], rfl, List.isChain_singleton _, rfl⟩
  | cons row rest ih =>
      obtain ⟨w, ⟨arc⟩⟩ := row
      rw [List.map_cons, List.forall_mem_cons] at hgrid
      rw [List.map_cons, List.pairwise_cons] at hrows
      let after := a.speedAt origin.metres (stopped || a.isStop w) w arc
      rcases (hrows.1 arc List.mem_cons_self).eq_or_lt with rfl | hahead
      · obtain ⟨es, hes, hchain, hlast⟩ :=
          ih (stopped || a.isStop w) time after here hgrid.2 hrows.2
        refine ⟨es, entries_stay.trans hes, hchain, ?_⟩
        rw [hlast, List.map_cons, List.getLast?_cons_cons]
      · let next := a.nextTime time before after (arc - here)
        obtain ⟨es, hes, hchain, hlast⟩ :=
          ih (stopped || a.isStop w) next after arc hgrid.2 hrows.2
        refine ⟨(⟨next⟩, ⟨arc⟩) :: es, ?_, .cons_cons ⟨lt_laterBy _ _, hahead⟩ hchain, ?_⟩
        · rw [entries_move hmin hgrid.1 (hgrid.2 arc List.mem_cons_self) hahead]
          exact congrArg (((⟨next⟩, ⟨arc⟩) :: ·) <$> ·) hes
        · rw [List.map_cons, List.map_cons, List.getLast?_cons_cons, List.getLast?_cons_cons, hlast]

end Entries

/-! ## The whole profile -/

section Window

variable {α : Type} {xs : List α} {x : α} {i : ℕ}

/-- The last element of a window that begins with the element at an index, and ends with the one at
another index or at the end of the list. -/
lemma getLast?_window (h : xs[i]? = some x) (j : ℕ) :
    (x :: (xs.take (j + 1)).drop (i + 1)).getLast? = xs[max i (min j (xs.length - 1))]? := by
  obtain ⟨hi, -⟩ := List.getElem?_eq_some_iff.mp h
  rw [List.getLast?_eq_getElem?]
  by_cases hij : i < min j (xs.length - 1)
  · have hlength : (x :: (xs.take (j + 1)).drop (i + 1)).length - 1 =
        (min j (xs.length - 1) - i - 1) + 1 := by
      simp only [List.length_cons, List.length_drop, List.length_take]
      omega
    rw [hlength, List.getElem?_cons_succ, List.getElem?_drop, List.getElem?_take_of_lt (by omega)]
    congr 1
    omega
  · have hlength : (x :: (xs.take (j + 1)).drop (i + 1)).length - 1 = 0 := by
      simp only [List.length_cons, List.length_drop, List.length_take]
      omega
    rw [hlength, List.getElem?_cons_zero, ← h]
    congr 1
    omega

lemma window_sublist (h : xs[i]? = some x) (j : ℕ) :
    (x :: (xs.take (j + 1)).drop (i + 1)).Sublist xs := by
  obtain ⟨hi, rfl⟩ := List.getElem?_eq_some_iff.mp h
  have hdrop : (xs.drop i).Sublist xs := List.drop_sublist i xs
  rw [List.drop_eq_getElem_cons hi] at hdrop
  rw [List.drop_take]
  exact ((List.take_sublist _ _).cons_cons _).trans hdrop

end Window

section Profile

variable {a} {path : Path (FourPlaces f)} {closest : ℕ} {w : Waypoint (FourPlaces f)}
  {origin : FourPlaces f}

/-- The waypoints with how far along the path they lie. -/
def rows (path : Path (FourPlaces f)) : List (Waypoint (FourPlaces f) × Distance (FourPlaces f)) :=
  path.points.zip ((arcs path).map Distance.mk)

/-- The rows behind one index up to another. -/
def window (path : Path (FourPlaces f)) (closest last : ℕ) :
    List (Waypoint (FourPlaces f) × Distance (FourPlaces f)) :=
  ((rows path).take (last + 1)).drop (closest + 1)

lemma map_rows (path : Path (FourPlaces f)) : (rows path).map (·.2.metres) = arcs path := by
  have hsnd : (rows path).map Prod.snd = (arcs path).map Distance.mk :=
    List.map_snd_zip (by rw [List.length_map, length_arcs]; exact le_rfl)
  have hmetres := congrArg (List.map Distance.metres) hsnd
  simpa [List.map_map, Function.comp_def] using hmetres

lemma map_window (path : Path (FourPlaces f)) (closest last : ℕ) :
    (window path closest last).map (·.2.metres) =
      ((arcs path).take (last + 1)).drop (closest + 1) := by
  rw [window, List.map_drop, List.map_take, map_rows]

lemma exists_row (h : closest < path.size) : ∃ w origin,
    (rows path)[closest]? = some (w, ⟨origin⟩) := by
  have hlength : closest < (rows path).length := by
    rwa [← List.length_map (fun row => row.2.metres), map_rows, length_arcs]
  exact ⟨_, _, List.getElem?_eq_getElem hlength⟩

section Row

variable (h : (rows path)[closest]? = some (w, ⟨origin⟩))
include h

lemma arc_of_row : (arcs path)[closest]? = some origin := by
  rw [← map_rows, List.getElem?_map, h, Option.map_some]

lemma window_sublist_arcs (last : ℕ) :
    (origin :: (window path closest last).map (·.2.metres)).Sublist (arcs path) := by
  rw [map_window]
  exact window_sublist (arc_of_row h) last

lemma onGrid_window (last : ℕ) :
    ∀ x ∈ origin :: (window path closest last).map (·.2.metres), OnGrid x :=
  fun x hx => onGrid_of_mem_arcs x ((window_sublist_arcs h last).subset hx)

lemma pairwise_window (hf : f.HasRoot) (last : ℕ) :
    (origin :: (window path closest last).map (·.2.metres)).Pairwise (· ≤ ·) :=
  (pairwise_arcs hf path).sublist (window_sublist_arcs h last)

/-- A profile is the entry at the waypoint that it begins with, and those behind. -/
lemma profile_eq (last : ℕ) :
    a.profile path closest last = ((a.startDelay, ⟨origin⟩) :: ·) <$>
      a.entries ⟨origin⟩ false a.startDelay ⟨a.speedAt origin false w origin⟩ ⟨origin⟩
        (window path closest last) := by
  have hrows : path.points.zip ((arcs path).map Distance.mk) = rows path := rfl
  simp only [profile, arcLengths_eq, bind, Except.bind, hrows, h, window]
  rw [← List.tail_drop]
  cases hwindow : ((rows path).take (last + 1)).drop closest with
  | nil => rfl
  | cons row later =>
      -- what the window begins with is the row at its index
      have hhead : row = (w, ⟨origin⟩) := by
        have htake : ((rows path).take (last + 1))[closest]? = some row := by
          rw [← List.head?_drop, hwindow, List.head?_cons]
        rw [List.getElem?_take] at htake
        split at htake
        · exact Option.some.inj (htake.symm.trans h)
        · cases htake
      subst hhead
      cases later with
      | nil => rfl
      | cons next rest =>
          simp only [List.isEmpty_cons, velocityAt_eq]
          rfl

end Row

/-- **A profile begins where the vehicle is and ends where it is to go, and grows from entry to
entry.**  It begins with the start delay at the waypoint closest to the vehicle.  It ends at the
last waypoint asked for, at the end of the path when that comes before, and where it begins when
that comes after.  Both the times and the distances of its entries increase strictly, whatever the
velocities and the acceleration are, as long as there is a least velocity. -/
theorem profile_grows (hf : f.HasRoot) (hmin : Speed.zero < a.minimumVelocity)
    (hclosest : closest < path.size) (last : ℕ) :
    ∃ distances entries, path.arcLengths = .ok distances ∧ distances.length = path.size ∧
      a.profile path closest last = .ok entries ∧
      entries.head? = distances[closest]?.map (a.startDelay, ·) ∧
      entries.getLast?.map Prod.snd = distances[max closest (min last (path.size - 1))]? ∧
      entries.IsChain fun e e' => e.1 < e'.1 ∧ e.2 < e'.2 := by
  have hmin : 0 < a.minimumVelocity.metresPerSecond := zero_eq (f := f) ▸ hmin
  obtain ⟨w, origin, hrow⟩ := exists_row hclosest
  have horigin := arc_of_row hrow
  obtain ⟨es, hes, hchain, hlast⟩ := exists_entries hmin ⟨origin⟩ false a.startDelay.seconds
    (a.speedAt origin false w origin) origin (onGrid_window hrow last)
    (pairwise_window hrow hf last)
  refine ⟨_, (a.startDelay, ⟨origin⟩) :: es, arcLengths_eq path, ?_, ?_, ?_, ?_, hchain⟩
  · rw [List.length_map, length_arcs]
  · rw [profile_eq hrow]
    exact congrArg (((a.startDelay, ⟨origin⟩) :: ·) <$> ·) hes
  · rw [List.getElem?_map, horigin]
    rfl
  · rw [map_window, getLast?_window horigin, length_arcs] at hlast
    rw [List.getElem?_map, ← hlast, ← List.getLast?_map, ← List.getLast?_map]
    simp [Function.comp_def]

end Profile

/-! ## A stop on the way

A vehicle that has been told to stop at the second waypoint, which the path lists twice.  The way
after it is so short that no time passes on it to four places.
-/

def stopRoute : Path (FourPlaces rationals) :=
  ⟨[⟨⟨⟨0.0, 0.0⟩, ⟨0.0⟩⟩, ⟨5.0⟩, []⟩, ⟨⟨⟨3.0, 4.0⟩, ⟨0.0⟩⟩, ⟨-2.0⟩, []⟩,
    ⟨⟨⟨3.0, 4.0⟩, ⟨0.0⟩⟩, ⟨1.0⟩, []⟩, ⟨⟨⟨3.0001, 4.0⟩, ⟨0.0⟩⟩, ⟨100.0⟩, []⟩,
    ⟨⟨⟨3.0001, 4.0⟩, ⟨0.0⟩⟩, ⟨3.0⟩, []⟩]⟩

def stopPassing : PassingTime (FourPlaces rationals) where
  startDelay := ⟨1.0⟩
  currentVelocity := ⟨-3.0⟩
  crossingVelocity := ⟨0.0⟩
  minimumVelocity := ⟨2.0⟩
  rampAcceleration := -1.0
  useCommanded := true
  minimumCommanded := ⟨15.0⟩

/-- Five waypoints make three entries, the last one the smallest time after the one before. -/
theorem profile_grows_stop :
    Speed.zero < stopPassing.minimumVelocity ∧ 0 < stopRoute.size ∧
      ∃ entries, stopPassing.profile stopRoute 0 9 = .ok entries ∧
        entries = [(⟨1.0⟩, ⟨0.0⟩), (⟨1.5⟩, ⟨5.0⟩), (⟨1.5001⟩, ⟨5.0001⟩)] ∧
        entries.IsChain fun e e' => e.1 < e'.1 ∧ e.2 < e'.2 := by
  have hmin : Speed.zero < stopPassing.minimumVelocity := by decide +kernel
  have hsize : 0 < stopRoute.size := by decide
  obtain ⟨-, entries, -, -, hentries, -, -, hchain⟩ :=
    profile_grows hasRoot_rationals hmin hsize 9
  have hvalue : stopPassing.profile stopRoute 0 9 =
      .ok [(⟨1.0⟩, ⟨0.0⟩), (⟨1.5⟩, ⟨5.0⟩), (⟨1.5001⟩, ⟨5.0001⟩)] := by decide +kernel
  exact ⟨hmin, hsize, entries, hentries, Except.ok.inj (hentries.symm.trans hvalue), hchain⟩

end PassingTime

end Crossing
