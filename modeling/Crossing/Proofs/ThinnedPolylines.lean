import Crossing.Proofs.Outlines
import Crossing.Proofs.Overflow

/-!
# Polylines of thinned points

A polyline of thinned points is refused only if nothing is far enough from the first point
(`Polyline.ofThinned_spec`).  Three tests have to agree for that.  Thinning drops points that are at
most an epsilon away, making a polyline refuses points that follow each other at no more, and making
a segment refuses only those at less; so behind thinning nothing is too close for a polyline, and in
a polyline nothing is too close for a segment.  Thinning measures from the later point to the
earlier one and the polyline the other way round, which is why distances have to be the same both
ways (`Distance.Lawful`).
-/

namespace Crossing

variable {K : Type} [Scalar K]

namespace Polyline

variable {points kept : List (Point K)} {pl : Polyline K} {first : Point K}

/-- **The points leave their start**: one of them does not count as the same as the first. -/
def LeavesStart (points : List (Point K)) : Prop :=
  ∃ first rest, points = first :: rest ∧ ∃ p ∈ rest, first.isSame p = .ok false

lemma not_leavesStart_nil : ¬ LeavesStart ([] : List (Point K)) := by
  rintro ⟨first, rest, h, -⟩
  cases h

lemma leavesStart_cons {rest : List (Point K)} :
    LeavesStart (first :: rest) ↔ ∃ p ∈ rest, first.isSame p = .ok false := by
  constructor
  · rintro ⟨first, rest, ⟨⟩, h⟩
    exact h
  · intro h
    exact ⟨first, rest, rfl, h⟩

/-- Points that are kept are apart, measured from the earlier to the later. -/
lemma apart_of_thin (hd : Distance.Lawful K) (h : Chain.thin Point.isSame points = .ok kept) :
    Apart kept := by
  intro way hway
  rw [hd.isSame_comm]
  exact Chain.apart_of_thin h way hway

/-- **More than the first point is kept exactly if the points leave their start.**  The second point
that is kept is one that leaves it. -/
lemma two_le_length_iff (hd : Distance.Lawful K) (h : Chain.thin Point.isSame points = .ok kept) :
    2 ≤ kept.length ↔ LeavesStart points := by
  obtain ⟨groups, hthins, rfl, rfl⟩ := Chain.thin_eq_ok.mp h
  cases groups with
  | nil => exact iff_of_false (by simp) not_leavesStart_nil
  | cons g groups =>
      obtain ⟨hdropped, hnext, -⟩ := Chain.thins_cons.mp hthins
      rw [Chain.members_cons, leavesStart_cons]
      cases groups with
      | nil =>
          refine iff_of_false (by simp) ?_
          rintro ⟨p, hp, hfar⟩
          have hnear := hdropped p (by simpa [Chain.members] using hp)
          rw [hd.isSame_comm, hfar] at hnear
          cases hnear
      | cons second groups =>
          refine iff_of_true (by simp) ⟨second.1, by simp, ?_⟩
          rw [hd.isSame_comm]
          exact hnext second rfl

/-- A polyline of thinned points has the points that are kept. -/
lemma ofThinned_eq_ok : ofThinned points = .ok pl ↔
    Chain.thin Point.isSame points = .ok pl.points ∧ ofPoints pl.points = .ok pl := by
  rw [ofThinned, Outcome.bind_eq_ok]
  constructor
  · rintro ⟨kept, hkept, h⟩
    obtain ⟨-, -, -, rfl⟩ := ofPoints_eq_ok.mp h
    exact ⟨hkept, h⟩
  · rintro ⟨hkept, h⟩
    exact ⟨pl.points, hkept, h⟩

/-- Nothing is dropped from points that a polyline can be made of. -/
lemma ofThinned_of_ofPoints (hd : Distance.Lawful K) (h : ofPoints points = .ok pl) :
    ofThinned points = .ok pl := by
  obtain ⟨-, hapart, -, rfl⟩ := ofPoints_eq_ok.mp h
  refine ofThinned_eq_ok.mpr ⟨Chain.thin_of_apart fun way hway => ?_, h⟩
  rw [hd.isSame_comm]
  exact hapart way hway

/-- **When a polyline can be made of points that are thinned.**  Only too few points are a reason to
refuse them, never points that follow each other too closely. -/
lemma ofThinned_cases (hd : Distance.Lawful K) (points : List (Point K)) :
    (∃ e, ofThinned points = .error e ∧ e.IsOverflow) ∨
      (LeavesStart points ∧ ∃ pl, ofThinned points = .ok pl) ∨
      (¬ LeavesStart points ∧ ofThinned points = Outcome.refuse .fewPoints) := by
  have hthin : (Chain.thin Point.isSame points).Computes := Chain.avoids_thin Point.computes_isSame
  rcases hthin.exists_ok_or_overflow with ⟨kept, hkept⟩ | ⟨e, he, hoverflow⟩
  · have hthinned : ofThinned points = ofPoints kept := by
      rw [ofThinned, hkept]
      rfl
    have hcount := two_le_length_iff hd hkept
    rw [hthinned]
    by_cases hfew : kept.length < 2
    · refine Or.inr (Or.inr ⟨fun hleaves => ?_, if_pos hfew⟩)
      exact absurd (hcount.mpr hleaves) (by omega)
    · have htwo : 2 ≤ kept.length := by omega
      rcases (computes_wayLength kept).exists_ok_or_overflow with
        ⟨length, hlength⟩ | ⟨e, he, hoverflow⟩
      · refine Or.inr (Or.inl ⟨hcount.mp htwo, ⟨kept, length⟩, ?_⟩)
        exact ofPoints_eq_ok.mpr ⟨htwo, apart_of_thin hd hkept, hlength, rfl⟩
      · refine Or.inl ⟨e, ?_, hoverflow⟩
        rw [ofPoints, if_neg hfew, he]
        rfl
  · refine Or.inl ⟨e, ?_, hoverflow⟩
    rw [ofThinned, he]
    rfl

/-- **Polylines of thinned points.**  Unless a number overflows, there is one exactly if the points
leave their start, and otherwise there are too few points.  The points that it has are those that
the groups begin with that its points fall into, so they come in the order in which they were given
and from the same first point; they are apart from one to the next, so that it has all its segments;
and thinned again they make the same polyline.  Points that make a polyline as they are make the
same one when they are thinned. -/
theorem ofThinned_spec (hd : Distance.Lawful K) (points : List (Point K)) :
    ((∃ e, ofThinned points = .error e ∧ e.IsOverflow) ∨
      ((∃ pl, ofThinned points = .ok pl) ↔ LeavesStart points) ∧
        (¬ LeavesStart points → ofThinned points = Outcome.refuse .fewPoints)) ∧
    (∀ pl, ofThinned points = .ok pl →
      (∃ groups, Chain.Thins Point.isSame groups ∧ Chain.members groups = points ∧
        groups.map Prod.fst = pl.points) ∧
      pl.points.Sublist points ∧ pl.points.head? = points.head? ∧ Apart pl.points ∧
      pl.segments = .ok ((Chain.links pl.points).map fun way => ⟨way.1, way.2⟩) ∧
      ofThinned pl.points = .ok pl) ∧
    ∀ pl, ofPoints points = .ok pl → ofThinned points = .ok pl := by
  refine ⟨?_, fun pl hpl => ?_, fun pl => ofThinned_of_ofPoints hd⟩
  · rcases ofThinned_cases hd points with hoverflow | ⟨hleaves, hpl⟩ | ⟨hleaves, hfew⟩
    · exact Or.inl hoverflow
    · exact Or.inr ⟨iff_of_true hpl hleaves, fun hstays => absurd hleaves hstays⟩
    · refine Or.inr ⟨iff_of_false ?_ hleaves, fun _ => hfew⟩
      rintro ⟨pl, hpl⟩
      rw [hfew] at hpl
      cases hpl
  · obtain ⟨hkept, hmade⟩ := ofThinned_eq_ok.mp hpl
    exact ⟨Chain.thin_eq_ok.mp hkept, Chain.sublist_of_thin hkept, Chain.head?_of_thin hkept,
      apart_of_thin hd hkept, IsMade.segments_eq ⟨pl.points, hmade⟩ hd.le_of_lt,
      ofThinned_of_ofPoints hd hmade⟩

/-- A row that moves on by a few millimetres at a time behind its second point. -/
def creepingRow : List (Point (FourPlaces rationals)) :=
  [⟨0.0, 0.0⟩, ⟨0.02, 0.0⟩, ⟨0.026, 0.0⟩, ⟨0.03, 0.0⟩, ⟨0.036, 0.0⟩, ⟨1.0, 0.0⟩]

/-- The fifth point of the creeping row is kept although it is close to the fourth: it is far enough
from the second, which was kept last. -/
theorem ofThinned_spec_creepingRow :
    Distance.Lawful (FourPlaces rationals) ∧
      ∃ pl, ofThinned creepingRow = .ok pl ∧
        pl.points = [⟨0.0, 0.0⟩, ⟨0.02, 0.0⟩, ⟨0.036, 0.0⟩, ⟨1.0, 0.0⟩] ∧
        pl.points.Sublist creepingRow ∧ ofThinned pl.points = .ok pl := by
  have hmade : (ofThinned creepingRow).map Polyline.points =
      .ok [⟨0.0, 0.0⟩, ⟨0.02, 0.0⟩, ⟨0.036, 0.0⟩, ⟨1.0, 0.0⟩] := by decide +kernel
  obtain ⟨pl, hpl, hpoints⟩ := Outcome.map_eq_ok.mp hmade
  obtain ⟨-, hlaw, -⟩ := ofThinned_spec FourPlaces.lawful_distance creepingRow
  obtain ⟨-, hsublist, -, -, -, hagain⟩ := hlaw pl hpl
  exact ⟨FourPlaces.lawful_distance, pl, hpl, hpoints, hsublist, hagain⟩

end Polyline

end Crossing
