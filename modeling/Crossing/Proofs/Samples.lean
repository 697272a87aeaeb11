import Crossing.Proofs.Outcome
import Crossing.SampledPath

/-!
# Laying samples

What holds of samples whatever the numbers are.  A stretch is passed when the one after it begins no
later than a distance (`advance_pass`, `advance_stay`), and stretches that have been passed are
never needed again (`advance_advance`).  A sample has the lanelets of the waypoint that its stretch
begins with (`lanes_of_sampleOn`).  That laying samples comes to an end shows in the fuel: once the
samples reach the end of the path, more fuel gives no more of them (`samplesFrom_of_le`).  A closed
row of samples ends with the last waypoint of the planned path, whether the sample before it stays
or goes (`close_eq_ok`).
-/

namespace Crossing.SampledPath

variable {K : Type} [Scalar K] {d d' : Distance K}

/-- A stretch is not passed when the one after it begins later. -/
lemma advance_stay {s : Stretch K} {later : List (Stretch K)}
    (h : ∀ next rest, later = next :: rest → ¬ next.along ≤ d) :
    advance d (s :: later) = s :: later := by
  cases later with
  | nil => rfl
  | cons next rest => rw [advance, if_neg (h next rest rfl)]

/-- A stretch is passed when the one after it, if there is one, begins no later. -/
lemma advance_pass {s t : Stretch K} {later rest' : List (Stretch K)}
    (h : ∀ next rest, later = next :: rest → next.along ≤ d)
    (hlater : advance d later = t :: rest') : advance d (s :: later) = t :: rest' := by
  cases later with
  | nil => cases hlater
  | cons next rest => rw [advance, if_pos (h next rest rfl), hlater]

/-- Stretches that have been passed are not needed again. -/
lemma advance_advance (h : ∀ along, along ≤ d → along ≤ d') (ways : List (Stretch K)) :
    advance d' (advance d ways) = advance d' ways := by
  induction ways with
  | nil => rfl
  | cons s ways ih =>
      cases ways with
      | nil => rfl
      | cons next rest =>
          rw [advance]
          split
          · next hpassed => rw [ih, advance.eq_1, if_pos (h _ hpassed)]
          · rfl

/-- A sample lies at a part of its stretch, which it has its heading from; it has its velocity and
its lanelets from the waypoint that the stretch begins with. -/
lemma sampleOn_eq_ok {s : Stretch K} {sample : Waypoint K} (h : sampleOn s d = .ok sample) :
    ∃ since part, d.sub s.along = .ok since ∧ since.ratio s.length = .ok part ∧
      s.start.position.lerp s.finish.position part = .ok sample.position ∧
      s.start.position.direction s.finish.position = .ok sample.pose.yaw ∧
      sample.velocity = s.start.velocity ∧ sample.lanes = s.start.lanes := by
  obtain ⟨since, hsince, h⟩ := Outcome.bind_eq_ok.mp h
  obtain ⟨part, hpart, h⟩ := Outcome.bind_eq_ok.mp h
  obtain ⟨position, hposition, h⟩ := Outcome.bind_eq_ok.mp h
  obtain ⟨yaw, hyaw, h⟩ := Outcome.bind_eq_ok.mp h
  cases h
  exact ⟨since, part, hsince, hpart, hposition, hyaw, rfl, rfl⟩

lemma lanes_of_sampleOn {s : Stretch K} {sample : Waypoint K} (h : sampleOn s d = .ok sample) :
    sample.lanes = s.start.lanes := by
  obtain ⟨_, _, _, _, _, _, _, hlanes⟩ := sampleOn_eq_ok h
  exact hlanes

/-- When samples reach the end there are no more of them, however much fuel there is. -/
lemma samplesFrom_of_le {spacing total beyond : Distance K} {fuel more k : ℕ}
    {remaining : List (Stretch K)} {samples : List (Waypoint K)}
    (h : samplesFrom spacing total fuel k remaining = .ok samples)
    (hbeyond : spacing.scale (Scalar.ofNat (k + samples.length)) = .ok beyond)
    (hend : total ≤ beyond) (hfuel : fuel ≤ more) :
    samplesFrom spacing total more k remaining = .ok samples := by
  induction fuel generalizing more k remaining samples with
  | zero =>
      cases h
      cases more with
      | zero => rfl
      | succ more =>
          rw [List.length_nil, Nat.add_zero] at hbeyond
          rw [samplesFrom, hbeyond]
          simp only [bind, Except.bind, if_pos hend]
          rfl
  | succ fuel ih =>
      obtain ⟨more, rfl⟩ := Nat.exists_eq_add_one_of_ne_zero (by omega : more ≠ 0)
      rw [samplesFrom] at h ⊢
      obtain ⟨d, hd, h⟩ := Outcome.bind_eq_ok.mp h
      refine Outcome.bind_eq_ok.mpr ⟨d, hd, ?_⟩
      split at h
      · next hreached => rwa [if_pos hreached]
      · next hbefore =>
        rw [if_neg hbefore]
        split at h
        · cases h
        · obtain ⟨sample, hsample, h⟩ := Outcome.bind_eq_ok.mp h
          obtain ⟨others, hothers, h⟩ := Outcome.bind_eq_ok.mp h
          cases h
          rw [List.length_cons, ← Nat.add_assoc, Nat.add_right_comm] at hbeyond
          refine Outcome.bind_eq_ok.mpr ⟨sample, hsample, Outcome.bind_eq_ok.mpr ⟨others, ?_, rfl⟩⟩
          exact ih hothers hbeyond (Nat.le_of_succ_le_succ hfuel)

/-- A closed row of samples ends at the last waypoint; of the samples at most one goes. -/
lemma close_eq_ok {samples closed : List (Waypoint K)} {last : Waypoint K}
    (h : close samples last = .ok closed) : ∃ kept final, closed = kept ++ [final] ∧
      kept <+: samples ∧ samples.length ≤ kept.length + 1 ∧ final.position = last.position ∧
      final.lanes = last.lanes := by
  unfold close at h
  cases hlast : samples.getLast? with
  | none =>
      rw [List.getLast?_eq_none_iff] at hlast
      subst hlast
      cases h
      exact ⟨[], last, rfl, List.nil_prefix, Nat.zero_le _, rfl, rfl⟩
  | some before =>
      simp only [hlast] at h
      obtain ⟨same, -, h⟩ := Outcome.bind_eq_ok.mp h
      split at h
      · cases h
        refine ⟨_, _, rfl, List.dropLast_prefix samples, ?_, rfl, rfl⟩
        rw [List.length_dropLast]
        omega
      · cases h
        exact ⟨_, _, rfl, List.prefix_refl samples, Nat.le_succ _, rfl, rfl⟩

end Crossing.SampledPath
