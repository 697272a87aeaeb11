import Mathlib.Data.List.Forall2
import Crossing.Proofs.PassingTime

/-!
# Driving faster

Two vehicles with the same way ahead, of which one is assumed to be at least as fast in every
respect (`PassingTime.Faster`), are compared entry by entry.

**The faster vehicle is nowhere slower.**  Its ramp is never below the other one (`ramped_mono`).
When one of the two rises and the other one falls, the faster present velocity lies between them;
that is where the root has to give back what was squared.  So every stretch is driven at least as
fast (`stretchSpeed_mono`).

**A shorter time does not make a later clock** (`laterBy_mono`).  That is not plain: a stretch that
takes no time to four places is given a ten-thousandth.  But times are on the grid, and one above
zero is a ten-thousandth at least.  The clocks both begin with the start delay, which need not be
on the grid; after the first entry they are.
-/

namespace Crossing

/-- **Faster assumptions**: at least as fast at present, inside the intersection and at the least,
and the same in all else. -/
structure PassingTime.Faster {K : Type} [Scalar K] (b a : PassingTime K) : Prop where
  current : a.currentVelocity.abs ≤ b.currentVelocity.abs
  crossing : a.crossingVelocity ≤ b.crossingVelocity
  minimum : a.minimumVelocity ≤ b.minimumVelocity
  startDelay : b.startDelay = a.startDelay
  rampAcceleration : b.rampAcceleration = a.rampAcceleration
  useCommanded : b.useCommanded = a.useCommanded
  minimumCommanded : b.minimumCommanded = a.minimumCommanded

variable {F : Type} [Field F] [LinearOrder F] [FloorRing F] [IsStrictOrderedRing F]
  {f : Functions F}

open FourPlaces

namespace PassingTime

variable {a b : PassingTime (FourPlaces f)}

/-! ## Velocities -/

/-- **The faster ramp is never below the slower one**, also where one of them falls and the other
rises. -/
lemma ramped_mono (hf : f.HasRoot) {now now' goal goal' gain : FourPlaces f} (hzero : 0 ≤ now)
    (hnow : now ≤ now') (hgrid : OnGrid now') (hgoal : goal ≤ goal') (hgain : 0 ≤ gain) :
    ramped now goal gain ≤ ramped now' goal' gain := by
  have hsquare : now * now ≤ now' * now' := mul_self_le_mul_self hzero hnow
  -- the faster present velocity, as a root
  have hroot : toGrid (Scalar.sqrt (now' * now')) = now' := by
    rw [sqrt_mul_self hf hgrid (hzero.trans hnow), hgrid.toGrid_eq]
  unfold ramped
  split <;> split
  · -- both rise
    have hrise : Scalar.sqrt (now * now + gain) ≤ Scalar.sqrt (now' * now' + gain) :=
      sqrt_mono hf (add_nonneg (mul_self_nonneg _) hgain) (by linarith)
    exact min_le_min (toGrid_mono hrise) hgoal
  · -- the slower one rises to its goal at most, the faster one falls to its own at most
    exact (min_le_right _ _).trans (hgoal.trans (le_max_right _ _))
  · -- the slower one falls, and the faster one rises: the faster present velocity is between them
    next hfalls hrises =>
    have hbelow : toGrid (Scalar.sqrt (max (now * now - gain) 0)) ≤ now' := by
      rw [← hroot]
      refine toGrid_mono (sqrt_mono hf (le_max_right _ _) (max_le (by linarith) ?_))
      exact mul_self_nonneg now'
    have habove : now' ≤ toGrid (Scalar.sqrt (now' * now' + gain)) := by
      nth_rewrite 1 [← hroot]
      exact toGrid_mono (sqrt_mono hf (mul_self_nonneg _) (by linarith))
    have hgoalNow : goal ≤ now' := (not_lt.mp hfalls).trans hnow
    exact max_le (le_min (hbelow.trans habove) (hbelow.trans hrises.le))
      (le_min (hgoalNow.trans habove) hgoal)
  · -- both fall
    refine max_le_max (toGrid_mono (sqrt_mono hf (le_max_right _ _) ?_)) hgoal
    exact max_le_max (by linarith) le_rfl

section Velocities

variable (hf : f.HasRoot) (h : b.Faster a) (hgrid : OnGrid b.currentVelocity.metresPerSecond)
include hf h hgrid

lemma rampAt_mono {d : FourPlaces f} (hd : 0 ≤ d) : a.rampAt d ≤ b.rampAt d := by
  unfold rampAt
  rw [h.rampAcceleration]
  by_cases hjump : a.rampAcceleration ≤ 0
  · rw [if_pos hjump, if_pos hjump]
    exact h.crossing
  · rw [if_neg hjump, if_neg hjump]
    refine ramped_mono hf (abs_nonneg _) ?_ hgrid.abs h.crossing ?_
    · rw [← abs_metresPerSecond, ← abs_metresPerSecond]
      exact h.current
    · rw [two_eq]
      exact mul_nonneg (mul_nonneg zero_le_two (not_le.mp hjump).le) hd

lemma speedAt_mono {origin arc : FourPlaces f} (harc : origin ≤ arc) (stopped : Bool)
    (w : Waypoint (FourPlaces f)) :
    a.speedAt origin stopped w arc ≤ b.speedAt origin stopped w arc := by
  unfold speedAt
  rw [h.useCommanded, h.minimumCommanded]
  split
  · exact le_rfl
  · exact rampAt_mono hf h hgrid (toGrid_nonneg (sub_nonneg.mpr harc))

end Velocities

/-! ## Times -/

lemma onGrid_laterBy (d time : FourPlaces f) : OnGrid (laterBy d time) := by
  unfold laterBy
  split
  · exact onGrid_toGrid _
  · exact onGrid_toGrid _

/-- The time of a longer stretch is later, if the clocks agree or the later one shows a time on the
grid. -/
lemma laterBy_mono {d d' time time' : FourPlaces f} (hzero : 0 ≤ d') (hd : d' ≤ d)
    (hgrid : OnGrid d) (htime : time' ≤ time) (hsame : OnGrid time ∨ time' = time) :
    laterBy d' time' ≤ laterBy d time := by
  unfold laterBy
  split <;> split
  · exact toGrid_mono (by linarith)
  · -- the smallest time there is passes at the least, unless no time passes in either
    next hshort hlong =>
    rcases (hzero.trans hd).eq_or_lt with rfl | hpos
    · obtain rfl : d' = 0 := le_antisymm hd hzero
      rw [add_zero] at hshort hlong
      rcases hsame with hon | rfl
      · exact absurd hon.toGrid_eq.le hlong
      · exact absurd hshort hlong
    · have htick := hgrid.le_of_pos hpos
      exact toGrid_mono (by linarith)
  · next hshort =>
    have hless : toGrid (time' + d') ≤ toGrid (time + d) := toGrid_mono (by linarith)
    exact hless.trans (hshort.trans (lt_afterEpsilon time).le)
  · exact toGrid_mono (by linarith)

lemma stretchSpeed_mono (h : b.Faster a) {before before' after after' : FourPlaces f}
    (hbefore : before ≤ before') (hafter : after ≤ after') :
    a.stretchSpeed before after ≤ b.stretchSpeed before' after' := by
  have hmean : toGrid (before + after) ≤ toGrid (before' + after') := toGrid_mono (by linarith)
  exact max_le_max (toGrid_mono (by linarith)) h.minimum

section Entries

variable (hf : f.HasRoot) (h : b.Faster a) (hgrid : OnGrid b.currentVelocity.metresPerSecond)
  (hmin : 0 < a.minimumVelocity.metresPerSecond)

include h hmin in
/-- The faster vehicle is not later at the end of a stretch. -/
lemma nextTime_mono {time time' before before' after after' stretch : FourPlaces f}
    (hstretch : 0 < stretch) (htime : time' ≤ time) (hsame : OnGrid time ∨ time' = time)
    (hbefore : before ≤ before') (hafter : after ≤ after') :
    b.nextTime time' before' after' stretch ≤ a.nextTime time before after stretch := by
  have hpos : 0 < a.stretchSpeed before after := lt_max_of_lt_right hmin
  have hspeed := stretchSpeed_mono h hbefore hafter
  refine laterBy_mono (toGrid_nonneg (div_nonneg hstretch.le (hpos.le.trans hspeed))) ?_
    (onGrid_toGrid _) htime hsame
  exact toGrid_mono (div_le_div_of_nonneg_left hstretch.le hpos hspeed)

include hf h hgrid hmin in
/-- Entry by entry the faster vehicle is at the same place and not later. -/
lemma entries_mono {origin : FourPlaces f}
    {rest : List (Waypoint (FourPlaces f) × Distance (FourPlaces f))} (stopped : Bool)
    {time time' before before' here : FourPlaces f}
    (hon : ∀ x ∈ here :: rest.map (·.2.metres), OnGrid x)
    (hrows : (origin :: here :: rest.map (·.2.metres)).Pairwise (· ≤ ·))
    (htime : time' ≤ time) (hsame : OnGrid time ∨ time' = time) (hbefore : before ≤ before') :
    ∃ es es', a.entries ⟨origin⟩ stopped ⟨time⟩ ⟨before⟩ ⟨here⟩ rest = .ok es ∧
      b.entries ⟨origin⟩ stopped ⟨time'⟩ ⟨before'⟩ ⟨here⟩ rest = .ok es' ∧
      List.Forall₂ (fun e e' => e'.2 = e.2 ∧ e'.1 ≤ e.1) es es' := by
  induction rest generalizing stopped time time' before before' here with
  | nil => exact ⟨[], [], rfl, rfl, .nil⟩
  | cons row rest ih =>
      obtain ⟨w, ⟨arc⟩⟩ := row
      rw [List.map_cons, List.forall_mem_cons] at hon
      rw [List.map_cons, List.pairwise_cons, List.forall_mem_cons, List.pairwise_cons] at hrows
      obtain ⟨⟨-, horigin⟩, hhere, hrows⟩ := hrows
      have hlater := List.pairwise_cons.mpr ⟨horigin, hrows⟩
      have hstop : b.isStop w = a.isStop w := by rw [isStop, isStop, h.useCommanded]
      have hafter := speedAt_mono hf h hgrid (horigin arc List.mem_cons_self)
        (stopped || a.isStop w) w
      rcases (hhere arc List.mem_cons_self).eq_or_lt with rfl | hahead
      · obtain ⟨es, es', hes, hes', hrel⟩ :=
          ih (stopped || a.isStop w) hon.2 hlater htime hsame hafter
        refine ⟨es, es', entries_stay.trans hes, ?_, hrel⟩
        rw [entries_stay, hstop]
        exact hes'
      · let next := a.nextTime time before
          (a.speedAt origin (stopped || a.isStop w) w arc) (arc - here)
        let next' := b.nextTime time' before'
          (b.speedAt origin (stopped || a.isStop w) w arc) (arc - here)
        have hnext : next' ≤ next :=
          nextTime_mono h hmin (sub_pos.mpr hahead) htime hsame hbefore hafter
        obtain ⟨es, es', hes, hes', hrel⟩ := ih (stopped || a.isStop w) hon.2 hlater hnext
          (Or.inl (onGrid_laterBy _ _)) hafter
        have harc := hon.2 arc List.mem_cons_self
        refine ⟨(⟨next⟩, ⟨arc⟩) :: es, (⟨next'⟩, ⟨arc⟩) :: es', ?_, ?_, .cons ⟨rfl, hnext⟩ hrel⟩
        · rw [entries_move hmin hon.1 harc hahead]
          exact congrArg (((⟨next⟩, ⟨arc⟩) :: ·) <$> ·) hes
        · rw [entries_move (hmin.trans_le h.minimum) hon.1 harc hahead, hstop]
          exact congrArg (((⟨next'⟩, ⟨arc⟩) :: ·) <$> ·) hes'

end Entries

/-- **Who drives faster is nowhere later.**  Two profiles along the same path, the second one with
faster assumptions, list the same distances, and the second has no later time at any of them.  The
faster present velocity is on the grid, as all velocities are that are stored. -/
theorem profile_mono (hf : f.HasRoot) (h : b.Faster a)
    (hgrid : OnGrid b.currentVelocity.metresPerSecond) (hmin : Speed.zero < a.minimumVelocity)
    {path : Path (FourPlaces f)} {closest : ℕ} (hclosest : closest < path.size) (last : ℕ) :
    ∃ entries entries', a.profile path closest last = .ok entries ∧
      b.profile path closest last = .ok entries' ∧
      List.Forall₂ (fun e e' => e'.2 = e.2 ∧ e'.1 ≤ e.1) entries entries' := by
  have hmin : 0 < a.minimumVelocity.metresPerSecond := zero_eq (f := f) ▸ hmin
  obtain ⟨w, origin, hrow⟩ := exists_row hclosest
  have hrows := pairwise_window hrow hf last
  have hrel : List.Pairwise (· ≤ ·)
      (origin :: origin :: (window path closest last).map (·.2.metres)) := by
    refine List.pairwise_cons.mpr ⟨?_, hrows⟩
    exact List.forall_mem_cons.mpr ⟨le_rfl, fun _ => List.rel_of_pairwise_cons hrows⟩
  obtain ⟨es, es', hes, hes', hrel⟩ := entries_mono hf h hgrid hmin false
    (onGrid_window hrow last) hrel le_rfl (Or.inr rfl) (speedAt_mono hf h hgrid le_rfl false w)
  refine ⟨(a.startDelay, ⟨origin⟩) :: es, (a.startDelay, ⟨origin⟩) :: es', ?_, ?_,
    .cons ⟨rfl, le_refl (α := FourPlaces f) _⟩ hrel⟩
  · rw [profile_eq hrow]
    exact congrArg (_ <$> ·) hes
  · rw [profile_eq hrow, h.startDelay]
    exact congrArg (_ <$> ·) hes'

/-! ## Two vehicles on one way

The slower vehicle, which drives backwards for the moment, falls to the velocity of the
intersection; the faster one rises to it.
-/

def slowPassing : PassingTime (FourPlaces rationals) where
  startDelay := ⟨1.0⟩
  currentVelocity := ⟨-5.0⟩
  crossingVelocity := ⟨3.0⟩
  minimumVelocity := ⟨1.0⟩
  rampAcceleration := 1.0
  useCommanded := false
  minimumCommanded := ⟨0.0⟩

def fastPassing : PassingTime (FourPlaces rationals) :=
  { slowPassing with
    currentVelocity := ⟨6.0⟩, crossingVelocity := ⟨8.0⟩, minimumVelocity := ⟨2.0⟩ }

lemma faster_fastPassing : fastPassing.Faster slowPassing where
  current := by decide +kernel
  crossing := by decide +kernel
  minimum := by decide +kernel
  startDelay := rfl
  rampAcceleration := rfl
  useCommanded := rfl
  minimumCommanded := rfl

/-- Five metres take the slower vehicle 1.127 seconds and the faster one 0.7823. -/
theorem profile_mono_ramps :
    OnGrid fastPassing.currentVelocity.metresPerSecond ∧
      Speed.zero < slowPassing.minimumVelocity ∧ 0 < stopRoute.size ∧
      ∃ entries entries', slowPassing.profile stopRoute 0 1 = .ok entries ∧
        fastPassing.profile stopRoute 0 1 = .ok entries' ∧
        entries = [(⟨1.0⟩, ⟨0.0⟩), (⟨2.127⟩, ⟨5.0⟩)] ∧
        entries' = [(⟨1.0⟩, ⟨0.0⟩), (⟨1.7823⟩, ⟨5.0⟩)] ∧
        List.Forall₂ (fun e e' => e'.2 = e.2 ∧ e'.1 ≤ e.1) entries entries' := by
  have hgrid : OnGrid fastPassing.currentVelocity.metresPerSecond := ⟨60000, by decide +kernel⟩
  have hmin : Speed.zero < slowPassing.minimumVelocity := by decide +kernel
  have hsize : 0 < stopRoute.size := by decide
  obtain ⟨entries, entries', hslow, hfast, hrel⟩ :=
    profile_mono hasRoot_rationals faster_fastPassing hgrid hmin hsize 1
  have hslowValue : slowPassing.profile stopRoute 0 1 =
      .ok [(⟨1.0⟩, ⟨0.0⟩), (⟨2.127⟩, ⟨5.0⟩)] := by decide +kernel
  have hfastValue : fastPassing.profile stopRoute 0 1 =
      .ok [(⟨1.0⟩, ⟨0.0⟩), (⟨1.7823⟩, ⟨5.0⟩)] := by decide +kernel
  exact ⟨hgrid, hmin, hsize, entries, entries', hslow, hfast,
    Except.ok.inj (hslow.symm.trans hslowValue), Except.ok.inj (hfast.symm.trans hfastValue), hrel⟩

end PassingTime

end Crossing
