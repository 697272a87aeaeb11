import Crossing.Occlusion
import Crossing.Proofs.Polylines

/-!
# What only overflow ends

Numbers can become too large to be finite, and what would be made of them is a breach then.  A
computation that has no other reason to end early computes (`Outcome.Computes`): it has a value
unless a number overflows, and with numbers that are always finite it has one.

The looks at places that the search for hidden ones is made of are such computations.  So is
projecting onto a polyline that has been made (`Polyline.IsMade.computes_project`), which demands
that there be a closest place: there is one because there are segments.
-/

namespace Crossing

variable {K : Type} [Scalar K]

/-- A number was to be made a quantity or a coordinate, and is not finite. -/
def Fault.IsOverflow : Fault K → Prop
  | .broken (.notFinite _ x) => Scalar.isFinite x = false
  | .broken (.pointNotFinite x y) => (Scalar.isFinite x && Scalar.isFinite y) = false
  | _ => False

namespace Outcome

variable {α β : Type} {x : Outcome K α}

/-- **The computation ends early only where a number overflows.** -/
abbrev Computes (x : Outcome K α) : Prop := x.Avoids fun e => ¬ e.IsOverflow

lemma Computes.isOverflow (h : x.Computes) {e : Fault K} (he : x = .error e) : e.IsOverflow :=
  not_not.mp fun hother => h e hother he

lemma Computes.exists_ok_or_overflow (h : x.Computes) :
    (∃ a, x = .ok a) ∨ ∃ e, x = .error e ∧ e.IsOverflow := by
  cases x with
  | ok a => exact Or.inl ⟨a, rfl⟩
  | error e => exact Or.inr ⟨e, rfl, h.isOverflow rfl⟩

/-- What is refused is tolerated, so only breaches matter. -/
lemma computes_tolerate (h : ∀ why, x = .error (.broken why) → (Fault.broken why).IsOverflow) :
    x.tolerate.Computes := by
  match x with
  | .ok a => exact avoids_ok (some a)
  | .error (.refused why activities) => exact avoids_ok none
  | .error (.broken why) => exact avoids_error.mpr (not_not.mpr (h why rfl))

end Outcome

namespace FourPlaces

variable {F : Type} [Field F] [LinearOrder F] [FloorRing F] [IsStrictOrderedRing F]
  {f : Functions F}

lemma not_isOverflow (e : Fault (FourPlaces f)) : ¬ e.IsOverflow := by
  intro h
  unfold Fault.IsOverflow at h
  split at h
  · cases h
  · cases h
  · exact h

/-- What only overflow ends has a value, as exact numbers are always finite. -/
lemma exists_of_computes {α : Type} {x : Outcome (FourPlaces f) α} (h : x.Computes) :
    ∃ a, x = .ok a :=
  h.exists_ok_or_overflow.resolve_right fun ⟨e, _, hoverflow⟩ => not_isOverflow e hoverflow

end FourPlaces

/-! ## Points and segments -/

section Shapes

variable (a b : Distance K) (k x y : K) (p q : Point K) (s : Segment K)

@[simp] lemma Distance.computes_ofMetres : (Distance.ofMetres x).Computes := by
  simp [Distance.ofMetres, Outcome.breach, Fault.IsOverflow]

@[simp] lemma Distance.computes_add : (a.add b).Computes := Distance.computes_ofMetres _

@[simp] lemma Point.computes_ofCoordinates : (Point.ofCoordinates x y).Computes := by
  simp [Point.ofCoordinates, Outcome.breach, Fault.IsOverflow]

@[simp] lemma Point.computes_distance : (p.distance q).Computes := Distance.computes_ofMetres _

@[simp] lemma Point.computes_isSame : (p.isSame q).Computes := by
  simp [Point.isSame, Point.isNear]

@[simp] lemma Segment.computes_length : s.length.Computes := Point.computes_distance _ _

@[simp] lemma Segment.computes_closest : (s.closest p).Computes := Point.computes_ofCoordinates _ _

@[simp] lemma Segment.computes_distanceTo : (s.distanceTo p).Computes := by
  simp [Segment.distanceTo]

@[simp] lemma Segment.computes_tolerate_between : (Segment.between p q).tolerate.Computes := by
  refine Outcome.computes_tolerate fun why h => ?_
  rcases Outcome.bind_eq_error.mp h with h | ⟨d, -, h⟩
  · exact (Point.computes_distance p q).isOverflow h
  · split at h <;> cases h

end Shapes

/-! ## Regions and polylines -/

section Lines

variable (r : Region K) (p : Point K)

@[simp] lemma Region.computes_borderDistance : (r.borderDistance p).Computes := by
  simp [Region.borderDistance, Region.edges]

@[simp] lemma Region.computes_contains : (r.contains p).Computes := by
  simp [Region.contains]

@[simp] lemma Region.computes_distanceTo : (r.distanceTo p).Computes := by
  simp [Region.distanceTo]

namespace Polyline

@[simp] lemma computes_wayLength (points : List (Point K)) : (wayLength points).Computes := by
  simp [wayLength]

@[simp] lemma computes_closestAmong (segments : List (Segment K)) (sofar : Distance K)
    (best : Option (Closest K)) : (closestAmong p segments sofar best).Computes := by
  induction segments generalizing sofar best with
  | nil => exact Outcome.avoids_ok best
  | cons s rest ih => simp [closestAmong, ih]

variable {p}

/-- After a segment there is a closest place: the one before, or one on the segment, whose distance
is a sum. -/
lemma closestAmong_cons {s : Segment K} {rest : List (Segment K)} {sofar : Distance K}
    {best found : Option (Closest K)} (h : closestAmong p (s :: rest) sofar best = .ok found) :
    ∃ c length next, s.length = .ok length ∧ sofar.add length = .ok next ∧
      closestAmong p rest next (some c) = .ok found ∧
      (best = some c ∨ ∃ hit d, s.closest p = .ok hit ∧ s.start.distance hit = .ok d ∧
        sofar.add d = .ok c.along) := by
  rw [closestAmong] at h
  obtain ⟨hit, hhit, h⟩ := Outcome.bind_eq_ok.mp h
  obtain ⟨off, -, h⟩ := Outcome.bind_eq_ok.mp h
  dsimp only at h
  split at h
  · obtain ⟨d, hd, h⟩ := Outcome.bind_eq_ok.mp h
    obtain ⟨along, halong, h⟩ := Outcome.bind_eq_ok.mp h
    obtain ⟨_, ⟨⟩, h⟩ := Outcome.bind_eq_ok.mp h
    obtain ⟨length, hlength, h⟩ := Outcome.bind_eq_ok.mp h
    obtain ⟨next, hnext, h⟩ := Outcome.bind_eq_ok.mp h
    exact ⟨_, length, next, hlength, hnext, h, Or.inr ⟨hit, d, hhit, hd, halong⟩⟩
  · next hbetter =>
    cases best with
    | none => exact absurd rfl hbetter
    | some c =>
        obtain ⟨_, ⟨⟩, h⟩ := Outcome.bind_eq_ok.mp h
        obtain ⟨length, hlength, h⟩ := Outcome.bind_eq_ok.mp h
        obtain ⟨next, hnext, h⟩ := Outcome.bind_eq_ok.mp h
        exact ⟨c, length, next, hlength, hnext, h, Or.inl rfl⟩

/-- Where there is a segment there is a closest place. -/
lemma isSome_of_closestAmong {segments : List (Segment K)} {sofar : Distance K}
    {best found : Option (Closest K)} (h : closestAmong p segments sofar best = .ok found)
    (hany : best.isSome ∨ segments ≠ []) : found.isSome := by
  induction segments generalizing sofar best with
  | nil =>
      cases h
      exact hany.resolve_right fun h => h rfl
  | cons s rest ih =>
      obtain ⟨c, length, next, -, -, h, -⟩ := closestAmong_cons h
      exact ih h (Or.inl rfl)

/-- **Projecting onto a polyline that has been made** ends early only where a number overflows. -/
lemma IsMade.computes_project (hle : ∀ a b : Distance K, a < b → a ≤ b) {line : Polyline K}
    (hline : line.IsMade) (p : Point K) : (line.project p).Computes := by
  rw [project, hline.segments_eq hle]
  simp only [Outcome.avoids_bind, Outcome.avoids_ok, computes_closestAmong, true_and]
  rintro _ ⟨⟩
  refine fun found hfound => ⟨?_, fun _ _ => Outcome.avoids_ok _⟩
  have hfound := isSome_of_closestAmong hfound (Or.inr hline.segments_ne_nil)
  obtain ⟨c, rfl⟩ := Option.isSome_iff_exists.mp hfound
  exact Outcome.avoids_ok c

end Polyline

end Lines

end Crossing
