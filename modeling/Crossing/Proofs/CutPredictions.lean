import Mathlib.Data.List.TakeWhile
import Crossing.Proofs.FourPlaces
import Crossing.Proofs.Outcome
import Crossing.Object

/-!
# Predictions up to a time

Each pose of a prediction is tested by its number alone, and what is kept of a list by a test need
not be its beginning.  Here it is: later poses are not expected earlier, so behind the first one
that fails all others do (`filter_zipIdx_eq_takeWhile`).  What is left is the prediction **up to a
limit**, the longest beginning that is expected before it (`Prediction.upTo`).

**Cutting twice** numbers the poses anew.  Because they are a beginning they keep their numbers
(`zipIdx_takeWhile_zipIdx`), so of two limits the lesser counts, in either order
(`Perception.cut_eq_upTo`).

Times are exact: those that are stored lie on the grid, and sums and whole multiples stay there.
-/

namespace Crossing

/-! ## Tests of places -/

section Places

variable {α : Type}

/-- If nothing passes behind a place that fails, the places that pass are a beginning. -/
lemma filter_zipIdx_eq_takeWhile {p : α × ℕ → Bool}
    (hp : ∀ x y, x.2 ≤ y.2 → p y = true → p x = true) (xs : List α) (k : ℕ) :
    (xs.zipIdx k).filter p = (xs.zipIdx k).takeWhile p := by
  induction xs generalizing k with
  | nil => rfl
  | cons x xs ih =>
      rw [List.zipIdx_cons]
      by_cases hpass : p (x, k) = true
      · rw [List.filter_cons_of_pos hpass, List.takeWhile_cons_of_pos hpass, ih]
      · rw [List.takeWhile_cons_of_neg hpass, List.filter_eq_nil_iff]
        intro y hy hlater
        have hplace : k ≤ y.2 := List.le_snd_of_mem_zipIdx (by rwa [List.zipIdx_cons])
        exact hpass (hp (x, k) y hplace hlater)

/-- A beginning keeps its numbers. -/
lemma zipIdx_takeWhile_zipIdx (p : α × ℕ → Bool) (xs : List α) (k : ℕ) :
    (((xs.zipIdx k).takeWhile p).map Prod.fst).zipIdx k = (xs.zipIdx k).takeWhile p := by
  induction xs generalizing k with
  | nil => rfl
  | cons x xs ih =>
      rw [List.zipIdx_cons]
      by_cases hp : p (x, k) = true
      · rw [List.takeWhile_cons_of_pos hp, List.map_cons, List.zipIdx_cons, ih]
      · rw [List.takeWhile_cons_of_neg hp]
        rfl

/-- How long the beginning is whose places pass. -/
lemma le_length_takeWhile_zipIdx {b : ℕ → Bool} {xs : List α} {n : ℕ} (hn : n ≤ xs.length)
    (k : ℕ) :
    n ≤ ((xs.zipIdx k).takeWhile fun x => b x.2).length ↔ ∀ i < n, b (k + i) = true := by
  induction xs generalizing n k with
  | nil =>
      obtain rfl : n = 0 := Nat.le_zero.mp hn
      exact iff_of_true le_rfl nofun
  | cons x xs ih =>
      cases n with
      | zero => exact iff_of_true (Nat.zero_le _) nofun
      | succ n =>
          have hrest := ih (Nat.le_of_succ_le_succ hn) (k + 1)
          rw [List.zipIdx_cons, Nat.forall_lt_succ_left]
          by_cases hk : b k = true
          · rw [List.takeWhile_cons_of_pos (p := fun x : α × ℕ => b x.2) hk, List.length_cons,
              Nat.succ_le_succ_iff, hrest]
            simp only [add_zero, hk, true_and, add_assoc, add_comm 1]
          · rw [List.takeWhile_cons_of_neg (p := fun x : α × ℕ => b x.2) hk]
            exact iff_of_false (Nat.not_succ_le_zero n) fun h => hk h.1

end Places

/-! ## One prediction -/

variable {F : Type} [Field F] [LinearOrder F] [FloorRing F] [IsStrictOrderedRing F]
  {f : Functions F}

namespace Prediction

/-- When pose number `i` of a prediction is expected. -/
def timeAt (g : Prediction (FourPlaces f)) (stamp : Duration (FourPlaces f)) (i : ℕ) :
    FourPlaces f :=
  stamp.seconds + i * g.step.seconds

/-- **A prediction up to a limit**: the longest beginning that is expected before it. -/
def upTo (stamp : Duration (FourPlaces f)) (limit : FourPlaces f)
    (g : Prediction (FourPlaces f)) : Prediction (FourPlaces f) :=
  { g with
    poses := (g.poses.zipIdx.takeWhile fun pose => g.timeAt stamp pose.2 < limit).map Prod.fst }

variable {g : Prediction (FourPlaces f)} {stamp now horizon : Duration (FourPlaces f)}
  {limit limit' : FourPlaces f}

lemma timeAt_mono (hstep : 0 ≤ g.step.seconds) : Monotone (g.timeAt stamp) := by
  intro i j h
  have hcast : (i : FourPlaces f) ≤ j := by exact_mod_cast h
  exact add_le_add_right (mul_le_mul_of_nonneg_right hcast hstep) _

/-- Each pose is tested by when it is expected. -/
lemma isWithin_eq (hstamp : OnGrid stamp.seconds) (hnow : OnGrid now.seconds)
    (hstep : OnGrid g.step.seconds) (i : ℕ) :
    Perception.isWithin stamp now horizon g.step i =
      .ok (decide (g.timeAt stamp i < now.seconds + horizon.seconds)) := by
  have hsteps := hstep.mul_natCast i
  have hahead : toGrid (toGrid (stamp.seconds + toGrid (g.step.seconds * i)) - now.seconds) =
      g.timeAt stamp i - now.seconds := by
    rw [hsteps.toGrid_eq, (hstamp.add hsteps).toGrid_eq, ((hstamp.add hsteps).sub hnow).toGrid_eq,
      timeAt, mul_comm]
  have hwithin : Perception.isWithin stamp now horizon g.step i = .ok (decide
      (toGrid (toGrid (stamp.seconds + toGrid (g.step.seconds * i)) - now.seconds) <
        horizon.seconds)) := rfl
  rw [hwithin, hahead]
  simp only [sub_lt_iff_lt_add']

lemma cutPrediction_eq (hstamp : OnGrid stamp.seconds) (hnow : OnGrid now.seconds)
    (hstep : OnGrid g.step.seconds) (hforward : 0 ≤ g.step.seconds) :
    Perception.cutPrediction stamp now horizon g =
      .ok (g.upTo stamp (now.seconds + horizon.seconds)) := by
  have htests : ∀ pose ∈ g.poses.zipIdx, Perception.isWithin stamp now horizon g.step pose.2 =
      .ok (decide (g.timeAt stamp pose.2 < now.seconds + horizon.seconds)) :=
    fun pose _ => isWithin_eq hstamp hnow hstep pose.2
  have hlater (x y : Pose (FourPlaces f) × ℕ) (h : x.2 ≤ y.2) :
      decide (g.timeAt stamp y.2 < now.seconds + horizon.seconds) = true →
        decide (g.timeAt stamp x.2 < now.seconds + horizon.seconds) = true := by
    simp only [decide_eq_true_eq]
    exact (timeAt_mono hforward h).trans_lt
  rw [Perception.cutPrediction, Outcome.filterM_eq_filter htests,
    filter_zipIdx_eq_takeWhile hlater]
  rfl

/-- What is left up to a limit is a beginning. -/
lemma isPrefix_upTo : (g.upTo stamp limit).poses <+: g.poses := by
  have hbeginning := (List.takeWhile_prefix (l := g.poses.zipIdx)
    fun pose => decide (g.timeAt stamp pose.2 < limit)).map Prod.fst
  rwa [List.zipIdx_map_fst] at hbeginning

/-- It is the longest one of which all poses are expected before the limit. -/
lemma le_length_upTo_iff {n : ℕ} (hn : n ≤ g.poses.length) :
    n ≤ (g.upTo stamp limit).poses.length ↔ ∀ i < n, g.timeAt stamp i < limit := by
  have hlength := le_length_takeWhile_zipIdx
    (b := fun i => decide (g.timeAt stamp i < limit)) hn 0
  simp only [zero_add, decide_eq_true_eq] at hlength
  rw [← hlength, upTo, List.length_map]

/-- Of two limits the lesser counts. -/
lemma upTo_upTo : (g.upTo stamp limit).upTo stamp limit' = g.upTo stamp (min limit limit') := by
  have hnumbered : (g.upTo stamp limit).poses.zipIdx =
      g.poses.zipIdx.takeWhile fun pose => g.timeAt stamp pose.2 < limit :=
    zipIdx_takeWhile_zipIdx _ _ _
  have hposes : ((g.upTo stamp limit).poses.zipIdx.takeWhile fun pose =>
      g.timeAt stamp pose.2 < limit').map Prod.fst = (g.upTo stamp (min limit limit')).poses := by
    rw [hnumbered, List.takeWhile_takeWhile, upTo]
    refine congrArg (fun test => (List.takeWhile test _).map Prod.fst) (funext fun pose => ?_)
    rw [decide_eq_decide, decide_eq_true_eq, decide_eq_true_eq, lt_min_iff, and_comm]
  exact congrArg (fun poses => { g with poses }) hposes

end Prediction

/-! ## All predictions -/

namespace Perception

/-- **The objects with their predictions up to a limit.** -/
def upTo (limit : FourPlaces f) (p : Perception (FourPlaces f)) : Perception (FourPlaces f) :=
  { p with
    objects := p.objects.map fun o =>
      { o with predictions := o.predictions.map (Prediction.upTo p.stamp limit) } }

/-- **Times are stored ones, and no prediction goes back in time.** -/
structure IsTimed (p : Perception (FourPlaces f)) : Prop where
  stamp : OnGrid p.stamp.seconds
  step : ∀ o ∈ p.objects, ∀ g ∈ o.predictions, OnGrid g.step.seconds ∧ 0 ≤ g.step.seconds

variable {p : Perception (FourPlaces f)} {now now' : Duration (FourPlaces f)}
  {limit limit' : FourPlaces f}

lemma IsTimed.upTo (hp : p.IsTimed) (limit : FourPlaces f) : (p.upTo limit).IsTimed := by
  refine ⟨hp.stamp, ?_⟩
  intro o' ho' g' hg'
  obtain ⟨o, ho, rfl⟩ := List.mem_map.mp ho'
  obtain ⟨g, hg, rfl⟩ := List.mem_map.mp hg'
  exact hp.step o ho g hg

lemma upTo_upTo : (p.upTo limit).upTo limit' = p.upTo (min limit limit') := by
  simp only [upTo, List.map_map, Function.comp_def, Prediction.upTo_upTo]

lemma cut_eq (hp : p.IsTimed) (hnow : OnGrid now.seconds) (horizon : Duration (FourPlaces f)) :
    p.cut now horizon = .ok (p.upTo (now.seconds + horizon.seconds)) := by
  have hobjects : p.objects.mapM (fun o => do
      return { o with predictions := ← o.predictions.mapM (cutPrediction p.stamp now horizon) }) =
        (.ok (p.upTo (now.seconds + horizon.seconds)).objects : Outcome (FourPlaces f) _) := by
    rw [Outcome.mapM_eq_ok, upTo, List.forall₂_map_right_iff, List.forall₂_same]
    intro o ho
    have hpredictions : o.predictions.mapM (cutPrediction p.stamp now horizon) =
        .ok (o.predictions.map (Prediction.upTo p.stamp (now.seconds + horizon.seconds))) := by
      rw [Outcome.mapM_eq_ok, List.forall₂_map_right_iff, List.forall₂_same]
      intro g hg
      obtain ⟨hgrid, hforward⟩ := hp.step o ho g hg
      exact Prediction.cutPrediction_eq hp.stamp hnow hgrid hforward
    rw [hpredictions]
    rfl
  rw [cut, hobjects]
  rfl

lemma cut_cut (hp : p.IsTimed) (hnow : OnGrid now.seconds) (hnow' : OnGrid now'.seconds)
    (horizon horizon' : Duration (FourPlaces f)) :
    (do (← p.cut now horizon).cut now' horizon') =
      .ok (p.upTo (min (now.seconds + horizon.seconds) (now'.seconds + horizon'.seconds))) := by
  rw [cut_eq hp hnow]
  show (p.upTo _).cut now' horizon' = _
  rw [cut_eq (hp.upTo _) hnow', upTo_upTo]

/-- **Cutting leaves the predictions up to a limit**, the sum of the two times, and all else as it
was.  Up to a limit is the longest beginning of each prediction that is expected before it.  Cutting
twice is cutting once at the lesser sum; so it does not matter in which order, and to cut again in
the same way changes nothing. -/
theorem cut_eq_upTo (hp : p.IsTimed) (hnow : OnGrid now.seconds) (hnow' : OnGrid now'.seconds)
    (horizon horizon' : Duration (FourPlaces f)) :
    p.cut now horizon = .ok (p.upTo (now.seconds + horizon.seconds)) ∧
    (∀ o ∈ p.objects, ∀ g ∈ o.predictions, ∀ limit : FourPlaces f,
      (g.upTo p.stamp limit).poses <+: g.poses ∧
      ∀ n ≤ g.poses.length, n ≤ (g.upTo p.stamp limit).poses.length ↔
        ∀ i < n, p.stamp.seconds + i * g.step.seconds < limit) ∧
    (∀ least leastHorizon : Duration (FourPlaces f), OnGrid least.seconds →
      least.seconds + leastHorizon.seconds =
        min (now.seconds + horizon.seconds) (now'.seconds + horizon'.seconds) →
      (do (← p.cut now horizon).cut now' horizon') = p.cut least leastHorizon) ∧
    (do (← p.cut now horizon).cut now' horizon') = (do (← p.cut now' horizon').cut now horizon) ∧
    (do (← p.cut now horizon).cut now horizon) = p.cut now horizon := by
  refine ⟨cut_eq hp hnow horizon, ?_, ?_, ?_, ?_⟩
  · exact fun o _ g _ limit => ⟨Prediction.isPrefix_upTo, fun n => Prediction.le_length_upTo_iff⟩
  · intro least leastHorizon hleast hsum
    rw [cut_cut hp hnow hnow', cut_eq hp hleast, hsum]
  · rw [cut_cut hp hnow hnow', cut_cut hp hnow' hnow, min_comm]
  · rw [cut_cut hp hnow hnow, min_self, cut_eq hp hnow]

/-! ## A car that passes by -/

/-- A car seen at ten seconds, with one prediction of five poses, half a second apart, and another
whose poses are all expected at once. -/
def passingCar : Perception (FourPlaces rationals) :=
  let here : Pose (FourPlaces rationals) := ⟨⟨0.0, 0.0⟩, ⟨0.0⟩⟩
  ⟨⟨10.0⟩, [{
    id := ⟨1⟩
    kind := .car
    pose := here
    velocity := ⟨5.0⟩
    shape := .box ⟨4.0⟩ ⟨2.0⟩
    predictions := [⟨List.replicate 5 here, ⟨0.5⟩, 0.75⟩, ⟨List.replicate 2 here, ⟨0.0⟩, 0.25⟩] }]⟩

/-- Two seconds from 9.5 on end at 11.5, when the fourth pose is expected; what is left before it
is not cut by five seconds from 11 on. -/
theorem cut_eq_upTo_passingCar :
    passingCar.IsTimed ∧ OnGrid (9.5 : FourPlaces rationals) ∧
      OnGrid (11.0 : FourPlaces rationals) ∧
      (do (← passingCar.cut ⟨9.5⟩ ⟨2.0⟩).cut ⟨11.0⟩ ⟨5.0⟩) = passingCar.cut ⟨9.5⟩ ⟨2.0⟩ ∧
      (passingCar.cut ⟨9.5⟩ ⟨2.0⟩).map (fun q =>
        q.objects.map fun o => o.predictions.map fun g => g.poses.length) = .ok [[3, 2]] := by
  have htimed : passingCar.IsTimed := by
    refine ⟨⟨100000, by decide +kernel⟩, ?_⟩
    intro o ho g hg
    obtain rfl := List.mem_singleton.mp ho
    rcases List.mem_pair.mp hg with rfl | rfl
    · exact ⟨⟨5000, by decide +kernel⟩, by decide +kernel⟩
    · exact ⟨⟨0, by decide +kernel⟩, by decide +kernel⟩
  have hnow : OnGrid (⟨9.5⟩ : Duration (FourPlaces rationals)).seconds := ⟨95000, by decide +kernel⟩
  have hnow' : OnGrid (⟨11.0⟩ : Duration (FourPlaces rationals)).seconds :=
    ⟨110000, by decide +kernel⟩
  obtain ⟨-, -, htwice, -⟩ := cut_eq_upTo htimed hnow hnow' ⟨2.0⟩ ⟨5.0⟩
  exact ⟨htimed, hnow, hnow', htwice ⟨9.5⟩ ⟨2.0⟩ hnow (by decide +kernel), by decide +kernel⟩

end Perception

end Crossing
