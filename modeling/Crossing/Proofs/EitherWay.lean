import Crossing.Proofs.Headings

/-!
# Along a lane or against it

Going against a lane is not asked by turning a pose around: what is tested is how much of half a
turn the deviation of the heading leaves.  With exact angles that is the same thing
(`Pose.isEither_isAlongLane`): however many turns the headings have, and at both ends of the range,
a pose goes against a lane exactly if the pose that faces the other way goes along it.

**Several lanelets** are tested one after the other until one passes, so the test for both ways may
stop before a lanelet that one of the tests for a single way still looks at.  What a lanelet is
tested with has nothing to do with the way, though, so where a test fails the other two fail as well
(`Outcome.IsEither`), and the answers agree without any demand on the lanelets
(`Pose.isAlong_eitherWay`).
-/

namespace Crossing

/-! ## Two tests at once -/

namespace Outcome

variable {K α : Type} {p q r : α → Outcome K Bool} {xs : List α}

/-- **The first test is the other two at once**: it passes if one of them does, and if they have no
answer they all end in the same fault. -/
def IsEither (x y z : Outcome K Bool) : Prop :=
  (∃ a b, y = .ok a ∧ z = .ok b ∧ x = .ok (a || b)) ∨
    ∃ e, x = .error e ∧ y = .error e ∧ z = .error e

/-- A search with both tests finds something exactly if a search with one of them does. -/
lemma anyM_eq_true_of_isEither (h : ∀ x ∈ xs, IsEither (p x) (q x) (r x)) :
    xs.anyM p = .ok true ↔ xs.anyM q = .ok true ∨ xs.anyM r = .ok true := by
  induction xs with
  | nil => simp [List.anyM]
  | cons x xs ih =>
      rw [List.forall_mem_cons] at h
      obtain ⟨hx, hxs⟩ := h
      rw [List.anyM, List.anyM, List.anyM]
      rcases hx with ⟨a, b, hq, hr, hp⟩ | ⟨e, hp, hq, hr⟩
      · rw [hp, hq, hr]
        cases a with
        | true => exact iff_of_true rfl (Or.inl rfl)
        | false =>
            cases b with
            | true => exact iff_of_true rfl (Or.inr rfl)
            | false => exact ih hxs
      · simp [hp, hq, hr, bind, Except.bind]

/-- It finds nothing exactly if neither search does. -/
lemma anyM_eq_false_of_isEither (h : ∀ x ∈ xs, IsEither (p x) (q x) (r x)) :
    xs.anyM p = .ok false ↔ xs.anyM q = .ok false ∧ xs.anyM r = .ok false := by
  rw [anyM_eq_false, anyM_eq_false, anyM_eq_false, ← forall₂_and]
  refine forall₂_congr fun x hx => ?_
  rcases h x hx with ⟨a, b, hq, hr, hp⟩ | ⟨e, hp, hq, hr⟩
  · rw [hp, hq, hr, Except.ok.injEq, Except.ok.injEq, Except.ok.injEq, Bool.or_eq_false_iff]
  · rw [hp, hq, hr]
    exact iff_of_false nofun fun h => nomatch h.1

end Outcome

/-! ## One lanelet -/

/-- **Either way along one lanelet** is along it for the pose or for its opposite. -/
lemma Pose.isEither_isAlongLane {K : Type} [Scalar K] (h : Angle.HalfTurns K) (pose : Pose K)
    (limit : K) (margin : Distance K) (l : Lanelet K) :
    Outcome.IsEither (pose.isAlongLane limit true margin l)
      (pose.isAlongLane limit false margin l) (pose.reversed.isAlongLane limit false margin l) := by
  have hposition : pose.reversed.position = pose.position := rfl
  have hyaw : pose.reversed.yaw = pose.yaw.opposite := rfl
  unfold isAlongLane
  simp only [hposition, hyaw, h.deviation_opposite]
  cases l.contains pose.position margin with
  | error e => exact Or.inr ⟨e, rfl, rfl, rfl⟩
  | ok near =>
      cases near with
      | false => exact Or.inl ⟨false, false, rfl, rfl, rfl⟩
      | true =>
          cases l.directionAt pose.position with
          | error e => exact Or.inr ⟨e, rfl, rfl, rfl⟩
          | ok direction =>
              refine Or.inl ⟨_, _, rfl, rfl, ?_⟩
              simp only [Bool.true_and, Bool.false_and, Bool.or_false]
              rfl

/-! ## Several lanelets -/

section EitherWay

variable {F : Type} [Field F] [LinearOrder F] [FloorRing F] [IsStrictOrderedRing F]
  {f : Functions F}

/-- **Either way along some lanelets is along them, for the pose or for its opposite.**  That holds
of being accepted and of being rejected, and a pose is one or the other if the lanelets have been
made. -/
theorem Pose.isAlong_eitherWay (hpi : (0 : FourPlaces f) < Scalar.pi) (pose : Pose (FourPlaces f))
    (lanelets : List (Lanelet (FourPlaces f))) (threshold : Angle (FourPlaces f))
    (margin : Distance (FourPlaces f)) :
    (pose.isAlong lanelets threshold true margin = .ok true ↔
      pose.isAlong lanelets threshold false margin = .ok true ∨
        pose.reversed.isAlong lanelets threshold false margin = .ok true) ∧
    (pose.isAlong lanelets threshold true margin = .ok false ↔
      pose.isAlong lanelets threshold false margin = .ok false ∧
        pose.reversed.isAlong lanelets threshold false margin = .ok false) ∧
    (f.HasRoot → (∀ l ∈ lanelets, l.centerline.IsMade) →
      ∃ along, pose.isAlong lanelets threshold true margin = .ok along) := by
  have heither (l : Lanelet (FourPlaces f)) (_ : l ∈ lanelets) :=
    isEither_isAlongLane (FourPlaces.halfTurns hpi) pose threshold.normalized margin l
  refine ⟨Outcome.anyM_eq_true_of_isEither heither, Outcome.anyM_eq_false_of_isEither heither, ?_⟩
  intro hf hmade
  refine Outcome.exists_anyM fun l hl => ?_
  obtain ⟨along, halong, -⟩ := FourPlaces.exists_isAlongLane hf (hmade l hl)
  exact ⟨along, halong⟩

end EitherWay

/-! ## A car that goes against a lane -/

/-- Facing west after one and a half turns. -/
def Pose.westward : Pose (FourPlaces rationals) := ⟨⟨5.0, 0.0⟩, ⟨3.0 * Scalar.pi⟩⟩

/-- A car that faces west goes against a lane to the east, because it would go along it if it were
turned around; it does not go along it as it is. -/
theorem Pose.isAlong_eitherWay_westward :
    (0 : FourPlaces rationals) < Scalar.pi ∧
      westward.isAlong [Perception.eastLane] ⟨1.0⟩ false Distance.zero = .ok false ∧
      westward.isAlong [Perception.eastLane] ⟨1.0⟩ true Distance.zero = .ok true := by
  have hpi : (0 : FourPlaces rationals) < Scalar.pi := by decide +kernel
  have hturned : westward.reversed.isAlong [Perception.eastLane] ⟨1.0⟩ false Distance.zero =
      .ok true := by decide +kernel
  obtain ⟨haccepts, -⟩ := isAlong_eitherWay hpi westward [Perception.eastLane] ⟨1.0⟩ Distance.zero
  exact ⟨hpi, by decide +kernel, haccepts.mpr (Or.inr hturned)⟩

end Crossing
