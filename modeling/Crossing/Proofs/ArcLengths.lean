import Crossing.Proofs.FourPlaces
import Crossing.Proofs.Outcome

/-!
# Lengths along a path

`Path.arcLengths` adds up the steps from the start of the path on, and `Path.arcBetween` those
between two indices, to which it then gives the sign of the direction.  With exact numbers the two
agree: the way from one index to another is the difference of their distances from the start,
whichever of them comes first (`FourPlaces.arcBetween_eq_sub`).  So turning round changes the sign
of a way, and ways that follow each other add up, whatever turns are made in between
(`Path.arcBetween_spec`).
-/

namespace Crossing

namespace Path

variable {K : Type} [Scalar K]

/-- The way back is computed as the way there, and gets its sign last. -/
lemma arcBetween_of_lt {path : Path K} {i j : ℕ} (h : j < i) :
    path.arcBetween i j = path.arcBetween j i >>= Distance.neg := by
  unfold arcBetween
  simp only [min_eq_right h.le, max_eq_left h.le, min_eq_left h.le, max_eq_right h.le,
    if_neg (not_le.mpr h), if_pos h.le]
  split
  · rfl
  · simp only [bind_assoc, pure_bind]

end Path

namespace FourPlaces

variable {F : Type} [Field F] [LinearOrder F] [FloorRing F] [IsStrictOrderedRing F]
  {f : Functions F} {path : Path (FourPlaces f)} {i j : ℕ}

/-! ## The way from one waypoint to another -/

/-- Sums of distances on the grid are exact. -/
lemma sum_eq {ds : List (Distance (FourPlaces f))} (hds : ∀ d ∈ ds, OnGrid d.metres) :
    Distance.sum ds = .ok ⟨(ds.map Distance.metres).sum⟩ := by
  have hfrom : ∀ start : Distance (FourPlaces f), OnGrid start.metres →
      ds.foldlM Distance.add start = .ok ⟨start.metres + (ds.map Distance.metres).sum⟩ := by
    induction ds with
    | nil =>
        intro start _
        rw [List.map_nil, List.sum_nil, add_zero]
        rfl
    | cons d ds ih =>
        intro start hstart
        rw [List.forall_mem_cons] at hds
        have hnext := hstart.add hds.1
        rw [List.foldlM_cons, add_eq, hnext.toGrid_eq, List.map_cons, List.sum_cons, ← add_assoc]
        exact ih hds.2 _ hnext
  rw [Distance.sum, hfrom _ (metres_zero (f := f) ▸ onGrid_zero), metres_zero, zero_add]

/-- The steps of a piece of a path make up the difference of the distances of its ends. -/
lemma sum_links (hj : i + j < path.size) :
    ((Chain.links ((path.points.drop i).take (j + 1))).map fun way => gap way.1 way.2).sum =
      arcAt path (i + j) - arcAt path i := by
  induction j generalizing i with
  | zero =>
      rw [List.drop_eq_getElem_cons (show i < path.points.length from hj), add_zero, sub_self]
      rfl
  | succ j ih =>
      have hi : i < path.points.length := lt_of_le_of_lt (Nat.le_add_right i (j + 1)) hj
      have hnext : i + 1 < path.points.length := lt_of_le_of_lt (by omega) hj
      have hrest := ih (i := i + 1) (lt_of_eq_of_lt (by omega) hj)
      have hstep := arcAt_succ (List.getElem?_eq_getElem hi) (List.getElem?_eq_getElem hnext)
      rw [List.drop_eq_getElem_cons hnext, List.take_succ_cons] at hrest
      rw [List.drop_eq_getElem_cons hi, List.drop_eq_getElem_cons hnext, List.take_succ_cons,
        List.take_succ_cons, Chain.links, List.map_cons, List.sum_cons, hrest, hstep,
        show i + (j + 1) = i + 1 + j by omega]
      ring

/-- **The way from one waypoint to a later one.** -/
lemma arcBetween_eq (hij : i ≤ j) (hj : j < path.size) :
    path.arcBetween i j = .ok ⟨arcAt path j - arcAt path i⟩ := by
  obtain ⟨n, rfl⟩ := Nat.exists_eq_add_of_le hij
  have hsteps : ((Chain.links ((path.points.drop i).take (n + 1))).mapM fun (a, b) =>
      Path.step a b) = .ok ((Chain.links ((path.points.drop i).take (n + 1))).map fun way =>
        ⟨gap way.1 way.2⟩) := by
    rw [Outcome.mapM_eq_ok, List.forall₂_map_right_iff, List.forall₂_same]
    exact fun _ _ => rfl
  have hcount : i + n + 1 - i = n + 1 := by omega
  unfold Path.arcBetween
  simp only [min_eq_left hij, max_eq_right hij, if_neg (not_le.mpr hj), if_pos hij, hcount, hsteps,
    bind, Except.bind]
  rw [sum_eq, List.map_map]
  · rw [← sum_links hj]
    rfl
  · intro d hd
    obtain ⟨way, -, rfl⟩ := List.mem_map.mp hd
    exact onGrid_gap _ _

/-- **The way from one waypoint to another**, whichever comes first. -/
lemma arcBetween_eq_sub (hi : i < path.size) (hj : j < path.size) :
    path.arcBetween i j = .ok ⟨arcAt path j - arcAt path i⟩ := by
  rcases le_or_gt i j with hij | hji
  · exact arcBetween_eq hij hj
  · have hgrid : OnGrid (arcAt path i - arcAt path j) :=
      (onGrid_arcAt path i).sub (onGrid_arcAt path j)
    rw [Path.arcBetween_of_lt hji, arcBetween_eq hji.le hi, ← neg_sub (arcAt path i)]
    exact neg_eq hgrid

/-- The way along a path begins with nothing. -/
lemma arcAt_zero (path : Path (FourPlaces f)) : arcAt path 0 = 0 := by
  obtain ⟨_ | ⟨w, rest⟩⟩ := path
  · rfl
  · rfl

end FourPlaces

namespace Path

open FourPlaces

variable {F : Type} [Field F] [LinearOrder F] [FloorRing F] [IsStrictOrderedRing F]
  {f : Functions F}

/-- **Lengths along a path.**  Every waypoint has a distance from the start, the first zero, and the
distances do not decrease.  The way from one index to another is the difference of their distances;
the way back is its negative, and it adds up with the way from there to a third index. -/
theorem arcBetween_spec (hf : f.HasRoot) (path : Path (FourPlaces f)) :
    ∃ arcs, path.arcLengths = .ok arcs ∧ arcs.length = path.size ∧
      (∀ first ∈ arcs.head?, first = Distance.zero) ∧ arcs.Pairwise (· ≤ ·) ∧
      ∀ i j k, i < path.size → j < path.size → k < path.size →
        ∃ a b d e, arcs[i]? = some a ∧ arcs[j]? = some b ∧
          path.arcBetween i j = .ok d ∧ path.arcBetween j k = .ok e ∧
          d.metres = b.metres - a.metres ∧
          path.arcBetween j i = .ok ⟨-d.metres⟩ ∧
          path.arcBetween i k = .ok ⟨d.metres + e.metres⟩ := by
  refine ⟨_, arcLengths_eq_arcAt path, by simp, ?_, ?_, fun i j k hi hj hk => ?_⟩
  · intro first hfirst
    rw [List.head?_map, Option.mem_map] at hfirst
    obtain ⟨i, hi, rfl⟩ := hfirst
    have hzero : i = 0 := by
      rw [List.head?_range] at hi
      split at hi
      · cases hi
      · exact (Option.some.inj hi).symm
    rw [hzero, arcAt_zero, distance_zero]
  · rw [List.pairwise_map]
    refine List.pairwise_lt_range.imp_of_mem fun {i j} _ hj hij => ?_
    exact arcAt_mono hf hij.le (List.mem_range.mp hj)
  · refine ⟨⟨arcAt path i⟩, ⟨arcAt path j⟩, _, _, ?_, ?_, arcBetween_eq_sub hi hj,
      arcBetween_eq_sub hj hk, rfl, ?_, ?_⟩
    · rw [List.getElem?_map, List.getElem?_range hi]
      rfl
    · rw [List.getElem?_map, List.getElem?_range hj]
      rfl
    · rw [arcBetween_eq_sub hj hi, neg_sub]
    · rw [arcBetween_eq_sub hi hk, sub_add_sub_cancel']

/-- A path that goes three metres and then four, with a turn in between. -/
def cornerPath : Path (FourPlaces rationals) :=
  ⟨[⟨⟨⟨0.0, 0.0⟩, ⟨0.0⟩⟩, ⟨5.0⟩, [⟨1⟩]⟩, ⟨⟨⟨3.0, 0.0⟩, ⟨0.0⟩⟩, ⟨5.0⟩, [⟨1⟩]⟩,
    ⟨⟨⟨3.0, 4.0⟩, ⟨0.0⟩⟩, ⟨5.0⟩, [⟨1⟩]⟩]⟩

/-- From its end the start is seven metres back, and the corner four. -/
theorem arcBetween_spec_cornerPath :
    rationals.HasRoot ∧ cornerPath.arcLengths = .ok [⟨0⟩, ⟨3⟩, ⟨7⟩] ∧
      cornerPath.arcBetween 2 0 = .ok ⟨-7⟩ ∧
      ∃ d e, cornerPath.arcBetween 2 1 = .ok d ∧ cornerPath.arcBetween 1 0 = .ok e ∧
        d.metres + e.metres = -7 := by
  have harcs : cornerPath.arcLengths = .ok [⟨0⟩, ⟨3⟩, ⟨7⟩] := by decide +kernel
  have hback : cornerPath.arcBetween 2 0 = .ok ⟨-7⟩ := by decide +kernel
  obtain ⟨arcs, -, -, -, -, h⟩ := arcBetween_spec hasRoot_rationals cornerPath
  obtain ⟨a, b, d, e, -, -, hd, he, -, -, hsum⟩ :=
    h 2 1 0 (by decide) (by decide) (by decide)
  rw [hback, Except.ok.injEq, Distance.mk.injEq] at hsum
  exact ⟨hasRoot_rationals, harcs, hback, d, e, hd, he, hsum.symm⟩

end Path

end Crossing
