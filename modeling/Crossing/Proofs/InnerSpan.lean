import Crossing.Proofs.ArcLengths
import Crossing.Proofs.Polylines
import Crossing.Lanelet.Span

/-!
# A range within a row of lanelets

The area along a row of lanelets is put together from the pieces of all lanelets, with the distance
travelled carried along.  What a lanelet contributes is told by where the range begins and ends as
seen from the start of that lanelet (`FourPlaces.spanBounds_cons`), so it does not matter what row
the lanelet stands in.

**Lanelets outside the range contribute nothing.**  Behind those that end before the range begins
the way goes on from their end (`FourPlaces.spanBounds_skip`), and those that begin where the range
has ended leave the bounds as they are (`FourPlaces.spanBounds_past`).  A lanelet whose border is
where the range begins or ends is outside, on either side.  So the area of a range within a row is
the area of the range along the lanelets that it reaches (`Lanelet.span_inner`).

Lengths of centre lines that have been made are stored distances, and sums of those are exact.
-/

namespace Crossing

/-! ## One lanelet of the row -/

section Pieces

variable {K : Type} [Scalar K]

/-- The bounds that a lanelet of the row contributes, before those of the later ones, if the range
begins and ends at these distances from its start. -/
def Lanelet.withPiece (l : Lanelet K) (entry exit : Distance K)
    (later : Outcome K (List (Point K) × List (Point K))) :
    Outcome K (List (Point K) × List (Point K)) := do
  let first := (max entry Distance.zero).fractionOf l.length
  let last := (min exit l.length).fractionOf l.length
  let left ← boundaryPiece l.left first last
  let right ← boundaryPiece l.right first last
  let (lefts, rights) ← later
  return (left ++ lefts, right ++ rights)

/-- The area along a row between two distances that lie within it. -/
def Lanelet.spanWithin (lanelets : List (Lanelet K)) (low high : Distance K) :
    Outcome K (Option (Region K)) := do
  if high ≤ low then return none
  else
    let (lefts, rights) ← spanBounds low high lanelets Distance.zero
    Outcome.tolerate do
      Region.ofBounds (← Polyline.ofThinned lefts) (← Polyline.ofThinned rights)

end Pieces

namespace FourPlaces

section Length

variable {F : Type} [Field F] {f : Functions F}

/-- How long a row of lanelets is along its centre lines. -/
def rowLength (lanelets : List (Lanelet (FourPlaces f))) : FourPlaces f :=
  (lanelets.map fun l => l.length.metres).sum

lemma rowLength_cons (l : Lanelet (FourPlaces f)) (lanelets : List (Lanelet (FourPlaces f))) :
    rowLength (l :: lanelets) = l.length.metres + rowLength lanelets := List.sum_cons

lemma rowLength_append (ls ls' : List (Lanelet (FourPlaces f))) :
    rowLength (ls ++ ls') = rowLength ls + rowLength ls' := by
  rw [rowLength, List.map_append, List.sum_append]
  rfl

end Length

variable {F : Type} [Field F] [LinearOrder F] [FloorRing F] [IsStrictOrderedRing F]
  {f : Functions F} {l : Lanelet (FourPlaces f)}
  {before middle after lanelets : List (Lanelet (FourPlaces f))}
  {start finish : Distance (FourPlaces f)} {travelled : FourPlaces f}

lemma length_lawful (hf : f.HasRoot) (h : l.centerline.IsMade) :
    0 ≤ l.length.metres ∧ OnGrid l.length.metres :=
  wayLength_lawful hf h.wayLength_eq

lemma rowLength_lawful (hf : f.HasRoot) (h : ∀ l ∈ lanelets, l.centerline.IsMade) :
    0 ≤ rowLength lanelets ∧ OnGrid (rowLength lanelets) := by
  induction lanelets with
  | nil => exact ⟨le_rfl, onGrid_zero⟩
  | cons l lanelets ih =>
      rw [List.forall_mem_cons] at h
      obtain ⟨hnonneg, hgrid⟩ := length_lawful hf h.1
      obtain ⟨hrest, hrestGrid⟩ := ih h.2
      rw [rowLength_cons]
      exact ⟨add_nonneg hnonneg hrest, hgrid.add hrestGrid⟩

lemma sum_length (hf : f.HasRoot) (h : ∀ l ∈ lanelets, l.centerline.IsMade) :
    Distance.sum (lanelets.map Lanelet.length) = .ok ⟨rowLength lanelets⟩ := by
  rw [sum_eq, List.map_map]
  · rfl
  · intro d hd
    obtain ⟨l, hl, rfl⟩ := List.mem_map.mp hd
    exact (length_lawful hf (h l hl)).2

/-- **What a lanelet contributes** depends on the range as seen from its start. -/
lemma spanBounds_cons (hstart : OnGrid start.metres) (hfinish : OnGrid finish.metres)
    (htravelled : OnGrid travelled) (hl : OnGrid l.length.metres) :
    Lanelet.spanBounds start finish (l :: lanelets) ⟨travelled⟩ =
      if finish.metres ≤ travelled ∨ travelled + l.length.metres ≤ start.metres then
        Lanelet.spanBounds start finish lanelets ⟨travelled + l.length.metres⟩
      else l.withPiece ⟨start.metres - travelled⟩ ⟨finish.metres - travelled⟩
        (Lanelet.spanBounds start finish lanelets ⟨travelled + l.length.metres⟩) := by
  have houtside : ((⟨finish.metres - travelled⟩ : Distance (FourPlaces f)) ≤ Distance.zero ∨
      l.length ≤ ⟨start.metres - travelled⟩) ↔
        (finish.metres ≤ travelled ∨ travelled + l.length.metres ≤ start.metres) := by
    rw [distance_zero]
    exact or_congr sub_nonpos le_sub_iff_add_le'
  rw [Lanelet.spanBounds, sub_eq, sub_eq, add_eq, (hstart.sub htravelled).toGrid_eq,
    (hfinish.sub htravelled).toGrid_eq, (htravelled.add hl).toGrid_eq]
  simp only [bind, Except.bind]
  simp only [Bool.or_eq_true, decide_eq_true_eq, houtside]
  rfl

/-! ## Lanelets outside the range -/

section Outside

variable (hf : f.HasRoot) (hstart : OnGrid start.metres) (hfinish : OnGrid finish.metres)
include hf hstart hfinish

/-- Lanelets that end before the range begins contribute nothing. -/
lemma spanBounds_skip (hmade : ∀ l ∈ before, l.centerline.IsMade) (htravelled : OnGrid travelled)
    (h : travelled + rowLength before ≤ start.metres) :
    Lanelet.spanBounds start finish (before ++ lanelets) ⟨travelled⟩ =
      Lanelet.spanBounds start finish lanelets ⟨travelled + rowLength before⟩ := by
  induction before generalizing travelled with
  | nil => rw [List.nil_append, rowLength, List.map_nil, List.sum_nil, add_zero]
  | cons l before ih =>
      rw [List.forall_mem_cons] at hmade
      have hl := (length_lawful hf hmade.1).2
      have hrest := (rowLength_lawful hf hmade.2).1
      rw [rowLength_cons, ← add_assoc] at h ⊢
      have hends : travelled + l.length.metres ≤ start.metres :=
        (le_add_of_nonneg_right hrest).trans h
      rw [List.cons_append, spanBounds_cons hstart hfinish htravelled hl, if_pos (Or.inr hends),
        ih hmade.2 (htravelled.add hl) h]

/-- Lanelets that begin where the range has ended contribute nothing. -/
lemma spanBounds_past (hmade : ∀ l ∈ after, l.centerline.IsMade) (htravelled : OnGrid travelled)
    (h : finish.metres ≤ travelled) :
    Lanelet.spanBounds start finish after ⟨travelled⟩ = .ok ([], []) := by
  induction after generalizing travelled with
  | nil => rfl
  | cons l after ih =>
      rw [List.forall_mem_cons] at hmade
      obtain ⟨hnonneg, hl⟩ := length_lawful hf hmade.1
      have hlater : finish.metres ≤ travelled + l.length.metres :=
        h.trans (le_add_of_nonneg_right hnonneg)
      rw [spanBounds_cons hstart hfinish htravelled hl, if_pos (Or.inl h),
        ih hmade.2 (htravelled.add hl) hlater]

/-- **Lanelets that the range reaches contribute the same** wherever the row began before them. -/
lemma spanBounds_shift {a : FourPlaces f} (ha : OnGrid a)
    (hmiddle : ∀ l ∈ middle, l.centerline.IsMade) (hafter : ∀ l ∈ after, l.centerline.IsMade)
    (htravelled : OnGrid travelled) (h : finish.metres ≤ a + travelled + rowLength middle) :
    Lanelet.spanBounds start finish (middle ++ after) ⟨a + travelled⟩ =
      Lanelet.spanBounds ⟨start.metres - a⟩ ⟨finish.metres - a⟩ middle ⟨travelled⟩ := by
  induction middle generalizing travelled with
  | nil =>
      rw [rowLength, List.map_nil, List.sum_nil, add_zero] at h
      rw [List.nil_append, spanBounds_past hf hstart hfinish hafter (ha.add htravelled) h]
      rfl
  | cons l middle ih =>
      rw [List.forall_mem_cons] at hmiddle
      have hl := (length_lawful hf hmiddle.1).2
      have hrest := ih hmiddle.2 (htravelled.add hl)
        (by rwa [rowLength_cons, ← add_assoc, add_assoc a] at h)
      have houtside : (finish.metres ≤ a + travelled ∨
          a + travelled + l.length.metres ≤ start.metres) ↔
            (finish.metres - a ≤ travelled ∨
              travelled + l.length.metres ≤ start.metres - a) := by
        rw [sub_le_iff_le_add', le_sub_iff_add_le', add_assoc]
      rw [List.cons_append, spanBounds_cons hstart hfinish (ha.add htravelled) hl,
        spanBounds_cons (hstart.sub ha) (hfinish.sub ha) htravelled hl, add_assoc a, hrest,
        sub_sub, sub_sub]
      simp only [← add_assoc, houtside]

end Outside

/-! ## Ranges within the row -/

/-- The area of a range that begins and ends along the middle one of three rows. -/
lemma spanWithin_inner (hf : f.HasRoot) (hstart : OnGrid start.metres)
    (hfinish : OnGrid finish.metres) (hbefore : ∀ l ∈ before, l.centerline.IsMade)
    (hmiddle : ∀ l ∈ middle, l.centerline.IsMade) (hafter : ∀ l ∈ after, l.centerline.IsMade)
    (hfrom : rowLength before ≤ start.metres)
    (hto : finish.metres ≤ rowLength before + rowLength middle) :
    Lanelet.spanWithin (before ++ middle ++ after) start finish =
      Lanelet.spanWithin middle ⟨start.metres - rowLength before⟩
        ⟨finish.metres - rowLength before⟩ := by
  have hgrid := (rowLength_lawful hf hbefore).2
  have hbounds : Lanelet.spanBounds start finish (before ++ middle ++ after) Distance.zero =
      Lanelet.spanBounds ⟨start.metres - rowLength before⟩ ⟨finish.metres - rowLength before⟩ middle
        Distance.zero := by
    rw [distance_zero, List.append_assoc, spanBounds_skip hf hstart hfinish hbefore onGrid_zero
      (by rwa [zero_add]), add_comm]
    exact spanBounds_shift hf hstart hfinish hgrid hmiddle hafter onGrid_zero (by rwa [add_zero])
  have hempty : finish ≤ start ↔ (⟨finish.metres - rowLength before⟩ : Distance (FourPlaces f)) ≤
      ⟨start.metres - rowLength before⟩ :=
    (sub_le_sub_iff_right (α := FourPlaces f) (rowLength before)).symm
  rw [Lanelet.spanWithin, Lanelet.spanWithin, hbounds]
  simp only [hempty]

lemma max_zero_eq (h : 0 ≤ start.metres) : max start Distance.zero = start := by
  rw [distance_zero]
  rcases h.eq_or_lt with hzero | hpos
  · have hstart : start = ⟨0⟩ := congrArg Distance.mk hzero.symm
    rw [hstart]
    exact if_neg (lt_irrefl (0 : FourPlaces f))
  · exact if_pos hpos

lemma min_eq_of_le {d : Distance (FourPlaces f)} (h : finish.metres ≤ d.metres) :
    min finish d = finish :=
  if_neg (not_lt.mpr h : ¬ d.metres < finish.metres)

/-- A range within the row is not moved. -/
lemma span_eq (hf : f.HasRoot) (hmade : ∀ l ∈ lanelets, l.centerline.IsMade)
    (hfrom : 0 ≤ start.metres) (hto : finish.metres ≤ rowLength lanelets) :
    Lanelet.span lanelets start finish = Lanelet.spanWithin lanelets start finish := by
  have hlow := max_zero_eq hfrom
  have hhigh : min finish ⟨rowLength lanelets⟩ = finish := min_eq_of_le hto
  rw [Lanelet.span, sum_length hf hmade]
  simp only [bind, Except.bind, hlow, hhigh]
  rfl

end FourPlaces

open FourPlaces

section Inner

variable {F : Type} [Field F] [LinearOrder F] [FloorRing F] [IsStrictOrderedRing F]
  {f : Functions F}

/-- **Lanelets outside a range never influence its area.**  The lengths of rows of lanelets can be
added up, and the area of a range that lies along the middle one of three rows is that of the same
range measured from where the middle row begins. -/
theorem Lanelet.span_inner (hf : f.HasRoot) {before middle after : List (Lanelet (FourPlaces f))}
    (hmade : ∀ l ∈ before ++ middle ++ after, l.centerline.IsMade) :
    ∃ a b, Distance.sum (before.map length) = .ok a ∧ Distance.sum (middle.map length) = .ok b ∧
      ∀ start finish : Distance (FourPlaces f), OnGrid start.metres → OnGrid finish.metres →
        a ≤ start → finish.metres ≤ a.metres + b.metres →
          span (before ++ middle ++ after) start finish =
            (do span middle (← start.sub a) (← finish.sub a)) := by
  have hparts := hmade
  simp only [List.forall_mem_append] at hparts
  obtain ⟨⟨hbefore, hmiddle⟩, hafter⟩ := hparts
  refine ⟨⟨rowLength before⟩, ⟨rowLength middle⟩, sum_length hf hbefore, sum_length hf hmiddle, ?_⟩
  intro start finish hstart hfinish hfrom hto
  obtain ⟨hnonneg, hgrid⟩ := rowLength_lawful hf hbefore
  have hfrom : rowLength before ≤ start.metres := hfrom
  have hto : finish.metres ≤ rowLength before + rowLength middle := hto
  have hwhole : finish.metres ≤ rowLength (before ++ middle ++ after) := by
    rw [rowLength_append, rowLength_append]
    exact hto.trans (le_add_of_nonneg_right (rowLength_lawful hf hafter).1)
  rw [span_eq hf hmade (hnonneg.trans hfrom) hwhole,
    spanWithin_inner hf hstart hfinish hbefore hmiddle hafter hfrom hto, sub_eq, sub_eq,
    (hstart.sub hgrid).toGrid_eq, (hfinish.sub hgrid).toGrid_eq]
  exact (span_eq hf hmiddle (sub_nonneg.mpr hfrom) (sub_le_iff_le_add'.mpr hto)).symm

end Inner

/-! ## Three lanelets in a row -/

namespace Lanelet

/-- A straight lanelet of two metres, two metres wide. -/
def shortTrial (n : ℤ) (x : FourPlaces rationals) :
    Outcome (FourPlaces rationals) (Lanelet (FourPlaces rationals)) := do
  let left ← Polyline.ofPoints [⟨x, 1.0⟩, ⟨x + 2.0, 1.0⟩]
  let right ← Polyline.ofPoints [⟨x, -1.0⟩, ⟨x + 2.0, -1.0⟩]
  ofBounds ⟨n⟩ left right

def firstShort : Lanelet (FourPlaces rationals) :=
  (shortTrial 1 0.0).toOption.get (by decide +kernel)

def secondShort : Lanelet (FourPlaces rationals) :=
  (shortTrial 2 2.0).toOption.get (by decide +kernel)

def thirdShort : Lanelet (FourPlaces rationals) :=
  (shortTrial 3 4.0).toOption.get (by decide +kernel)

lemma isMade_shorts :
    ∀ l ∈ [firstShort] ++ [secondShort] ++ [thirdShort], l.centerline.IsMade := by
  have hmade (n : ℤ) (x : FourPlaces rationals) (h : (shortTrial n x).toOption.isSome) :
      ((shortTrial n x).toOption.get h).centerline.IsMade :=
    isMade_centerline_of_points (show shortTrial n x = .ok _ from Outcome.eq_ok_get h)
  simp only [List.forall_mem_append, List.forall_mem_singleton]
  exact ⟨⟨hmade 1 0.0 _, hmade 2 2.0 _⟩, hmade 3 4.0 _⟩

/-- The area from the border of the second of three lanelets to its middle is that of its first
half. -/
theorem span_inner_shorts :
    (∀ l ∈ [firstShort] ++ [secondShort] ++ [thirdShort], l.centerline.IsMade) ∧
      OnGrid (2.0 : FourPlaces rationals) ∧ OnGrid (3.0 : FourPlaces rationals) ∧
      span ([firstShort] ++ [secondShort] ++ [thirdShort]) ⟨2.0⟩ ⟨3.0⟩ =
        span [secondShort] ⟨0.0⟩ ⟨1.0⟩ ∧
      (span [secondShort] ⟨0.0⟩ ⟨1.0⟩).toOption.join.map (fun r => r.ring.length) = some 5 := by
  have hstart : OnGrid (2.0 : FourPlaces rationals) := ⟨20000, by decide +kernel⟩
  have hfinish : OnGrid (3.0 : FourPlaces rationals) := ⟨30000, by decide +kernel⟩
  obtain ⟨a, b, ha, hb, hspan⟩ := span_inner hasRoot_rationals isMade_shorts
  have hlength : Distance.sum ([firstShort].map length) = .ok ⟨2.0⟩ := by decide +kernel
  have hlength' : Distance.sum ([secondShort].map length) = .ok ⟨2.0⟩ := by decide +kernel
  obtain rfl := Except.ok.inj (ha.symm.trans hlength)
  obtain rfl := Except.ok.inj (hb.symm.trans hlength')
  refine ⟨isMade_shorts, hstart, hfinish, ?_, by decide +kernel⟩
  have hlow : (⟨2.0⟩ : Distance (FourPlaces rationals)).sub ⟨2.0⟩ = .ok ⟨0.0⟩ := by decide +kernel
  have hhigh : (⟨3.0⟩ : Distance (FourPlaces rationals)).sub ⟨2.0⟩ = .ok ⟨1.0⟩ := by decide +kernel
  rw [hspan ⟨2.0⟩ ⟨3.0⟩ hstart hfinish (by decide +kernel) (by decide +kernel), hlow, hhigh]
  rfl

end Lanelet

end Crossing
