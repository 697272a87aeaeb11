import Mathlib.Data.Rat.Floor
import Crossing.CrossSection
import Crossing.Proofs.FlowOrder
import Crossing.Proofs.RoadMap
import Crossing.Proofs.ThinnedPolylines

/-!
# Which lanelets cannot be cut across

A cross section where the lane has no width is left out, and a lanelet with fewer than two cross
sections is refused, and with it all lanelets that are cut across.  The width that counts as none is
one below `Distance.epsilon`.  The points of a cross section are thinned, however, and thinning
takes points for the same that are `Distance.epsilon` apart.  So a cross section of exactly that
width is not left out, and has a single point when it is thinned; a line of one point is refused.

**Lanelets are refused exactly if one of them spoils it** (`SlicedLane.ofMap_refusedIff`): it has a
cross section of exactly that width, or fewer than two that are at least as wide.  Otherwise each
has the cross sections that are.  Numbers are exact and distances have four places, and the map is
one that has been accepted, of lanelets between polylines.
-/

namespace Crossing

/-! ## Refused exactly when -/

namespace Outcome

variable {K α β : Type} {x : Outcome K α} {P Q : Prop}

/-- **The computation is refused exactly if** something holds, and has a value otherwise. -/
def RefusedIff (P : Prop) (x : Outcome K α) : Prop :=
  (P ∧ ∃ why, x = refuse why) ∨ (¬ P ∧ ∃ a, x = .ok a)

namespace RefusedIff

lemma of_iff (h : x.RefusedIff P) (hiff : P ↔ Q) : x.RefusedIff Q := by
  rwa [hiff] at h

lemma refused (h : P) (why : Refusal K) : (refuse why : Outcome K α).RefusedIff P :=
  Or.inl ⟨h, why, rfl⟩

lemma ok (h : ¬ P) (a : α) : RefusedIff P (.ok a : Outcome K α) := Or.inr ⟨h, a, rfl⟩

/-- A first step is refused, or a second one that is taken with its value. -/
lemma bind (h : x.RefusedIff P) {f : α → Outcome K β} (hf : ∀ a, x = .ok a → (f a).RefusedIff Q) :
    (x >>= f).RefusedIff (P ∨ Q) := by
  obtain ⟨hP, why, rfl⟩ | ⟨hP, a, rfl⟩ := h
  · exact Or.inl ⟨Or.inl hP, why, rfl⟩
  · exact (hf a rfl).of_iff (or_iff_right hP).symm

/-- Working through a list is refused exactly if one of its elements is. -/
lemma mapM {f : α → Outcome K β} {bad : α → Prop} {xs : List α}
    (h : ∀ x ∈ xs, (f x).RefusedIff (bad x)) : (xs.mapM f).RefusedIff (∃ x ∈ xs, bad x) := by
  induction xs with
  | nil => exact ok (fun h => by cases h.choose_spec.1) []
  | cons x xs ih =>
      rw [List.forall_mem_cons] at h
      rw [List.mapM_cons]
      refine (h.1.bind fun y _ => (ih h.2).bind fun ys _ => ok not_false (y :: ys)).of_iff ?_
      rw [or_false, List.exists_mem_cons_iff]

end RefusedIff

end Outcome

/-! ## How wide lanelets are -/

namespace Lanelet

variable {K : Type} [Scalar K]

/-- How wide a lanelet is at a distance along it. -/
def widthAt (l : Lanelet K) (d : Distance K) : Outcome K (Distance K) := do
  let (left, right) ← l.crossSection d
  left.distance right

/-- How wide a lanelet is where it is cut across at distances `resolution` apart. -/
def widths (l : Lanelet K) (resolution : Distance K) : Outcome K (List (Distance K)) := do
  (← l.centerline.strideDistances resolution).mapM l.widthAt

/-- The lanelet lies between polylines that have been made. -/
def IsBounded (l : Lanelet K) : Prop := l.left.IsMade ∧ l.right.IsMade

/-- How many cross sections are at least as wide as two points have to be apart. -/
def wideCount (widths : List (Distance K)) : ℕ := (widths.filter (Distance.epsilon ≤ ·)).length

/-- **The lanelet cannot be cut across**: one of its cross sections is just as wide as points are
apart that count as the same, or too few are at least as wide. -/
def Spoils (l : Lanelet K) (resolution : Distance K) : Prop :=
  ∃ widths, l.widths resolution = .ok widths ∧ (Distance.epsilon ∈ widths ∨ wideCount widths < 2)

end Lanelet

/-! ## Lines across -/

namespace FourPlaces

variable {F : Type} [Field F] [LinearOrder F] [FloorRing F] [IsStrictOrderedRing F]
  {f : Functions F}

/-- Points can be thinned into a polyline unless all are close to the first. -/
lemma refusedIff_ofThinned (p : Point (FourPlaces f)) (ps : List (Point (FourPlaces f))) :
    (Polyline.ofThinned (p :: ps)).RefusedIff (∀ q ∈ ps, pointGap q p ≤ 1 / 100) := by
  have hleaves : Polyline.LeavesStart (p :: ps) ↔ ¬ ∀ q ∈ ps, pointGap q p ≤ 1 / 100 := by
    simp [Polyline.leavesStart_cons, isSame_eq, pointGap_comm p]
  rcases Polyline.ofThinned_cases lawful_distance (p :: ps) with
    ⟨e, -, hoverflow⟩ | ⟨hleave, pl, hpl⟩ | ⟨hstay, hfew⟩
  · exact absurd hoverflow (not_isOverflow e)
  · rw [hpl]
    exact .ok (hleaves.mp hleave) pl
  · rw [hfew]
    exact .refused (not_not.mp (mt hleaves.mpr hstay)) .fewPoints

/-- Points laid evenly from one point to another can be thinned into a polyline unless the two are
close. -/
lemma refusedIff_ofThinned_even (hf : f.HasRoot) (p q : Point (FourPlaces f)) {n : ℕ} (hn : n ≠ 0) :
    (Polyline.ofThinned ((List.range (n + 1)).map fun i : ℕ =>
      pointOnWay p q (i / n))).RefusedIff (pointGap p q ≤ 1 / 100) := by
  have hpos : (0 : FourPlaces f) < n := by exact_mod_cast Nat.pos_of_ne_zero hn
  rw [List.range_succ_eq_map, List.map_cons, Nat.cast_zero, zero_div, pointOnWay_zero]
  refine (refusedIff_ofThinned _ _).of_iff ⟨fun h => ?_, fun h => ?_⟩
  · -- the last point is the one that the way leads to
    have hlast : q ∈ ((List.range n).map Nat.succ).map fun i : ℕ => pointOnWay p q (i / n) := by
      refine List.mem_map.mpr ⟨n, List.mem_map.mpr ⟨n - 1, ?_, ?_⟩, ?_⟩
      · rw [List.mem_range]
        omega
      · omega
      · rw [div_self hpos.ne', pointOnWay_one]
    rw [pointGap_comm]
    exact h q hlast
  · intro r hr
    rw [List.map_map, List.mem_map] at hr
    obtain ⟨i, hi, rfl⟩ := hr
    refine (pointGap_pointOnWay_le hf (div_nonneg (Nat.cast_nonneg _) hpos.le) ?_).trans h
    rw [div_le_one hpos]
    exact_mod_cast List.mem_range.mp hi

/-- The points at a part of the lengths of both boundaries. -/
lemma exists_boundaryPoint (hf : f.HasRoot) {pl : Polyline (FourPlaces f)} (h : pl.IsMade)
    {part : FourPlaces f} (h₀ : 0 ≤ part) (h₁ : part ≤ 1) :
    ∃ p, Lanelet.boundaryPoint pl part = .ok p := by
  obtain ⟨hlength, hgrid⟩ := wayLength_lawful hf h.wayLength_eq
  have hto : toGrid (pl.length.metres * part) ≤ pl.length.metres := by
    have hmono := toGrid_mono (mul_le_of_le_one_right hlength h₁)
    rwa [hgrid.toGrid_eq] at hmono
  obtain ⟨place, hplace⟩ := exists_pointAt hf h (toGrid_nonneg (mul_nonneg hlength h₀)) hto
  have hscale : pl.length.scale part = .ok ⟨toGrid (pl.length.metres * part)⟩ := rfl
  refine ⟨place.1, ?_⟩
  rw [Lanelet.boundaryPoint, hscale]
  simp only [bind, Except.bind, hplace]
  rfl

section Lanelets

variable (hf : f.HasRoot) {l : Lanelet (FourPlaces f)} (hl : l.IsBounded)
include hf hl

lemma exists_crossSection (d : Distance (FourPlaces f)) :
    ∃ left right, l.crossSection d = .ok (left, right) := by
  obtain ⟨h₀, h₁⟩ := clamp_mem (d.fractionOf l.length)
  obtain ⟨left, hleft⟩ := exists_boundaryPoint hf hl.1 h₀ h₁
  obtain ⟨right, hright⟩ := exists_boundaryPoint hf hl.2 h₀ h₁
  refine ⟨left, right, ?_⟩
  rw [Lanelet.crossSection]
  simp only [bind, Except.bind, hleft, hright]
  rfl

variable {resolution : Distance (FourPlaces f)} (hresolution : 0 < resolution.metres)
include hresolution

/-- **A cross section is refused exactly if it is an epsilon wide.**  It is left out if it is
narrower, and a line if it is wider. -/
lemma exists_division (d : Distance (FourPlaces f)) :
    ∃ width, l.widthAt d = .ok width ∧
      (SlicedLane.division l resolution d).RefusedIff (width = Distance.epsilon) ∧
      ∀ cut, SlicedLane.division l resolution d = .ok cut →
        cut.isSome = decide (Distance.epsilon ≤ width) := by
  obtain ⟨left, right, hsection⟩ := exists_crossSection hf hl d
  have hwidth : l.widthAt d = .ok ⟨pointGap left right⟩ := by
    rw [Lanelet.widthAt, hsection]
    rfl
  refine ⟨_, hwidth, ?_⟩
  rw [SlicedLane.division, hsection]
  simp only [bind, Except.bind, distance_eq]
  split
  · next hnarrow =>
    refine ⟨.ok (fun h => ?_) none, ?_⟩
    · rw [h] at hnarrow
      exact lt_irrefl (α := FourPlaces f) _ hnarrow
    · rintro _ ⟨⟩
      have hless : ¬ Distance.epsilon ≤ (⟨pointGap left right⟩ : Distance (FourPlaces f)) :=
        not_le.mpr hnarrow
      exact (decide_eq_false hless).symm
  · next hwide =>
    have hzero : ¬ resolution.isZero = true := fun h => hresolution.ne' ((isZero_iff _).mp h)
    have hpoints (n : ℕ) : ((List.range (n + 1)).mapM fun i =>
        left.lerp right (Scalar.ofNat i / Scalar.ofNat n)) =
          .ok ((List.range (n + 1)).map fun i : ℕ => pointOnWay left right (i / n)) := by
      rw [Outcome.mapM_eq_ok, List.forall₂_map_right_iff, List.forall₂_same]
      exact fun i _ => lerp_eq left right _
    have hleast : Distance.epsilon ≤ (⟨pointGap left right⟩ : Distance (FourPlaces f)) :=
      not_lt.mp hwide
    have hsteps (n : ℕ) : max n 1 ≠ 0 := by omega
    simp only [Distance.ratio, if_neg hzero, hpoints]
    constructor
    · refine ((refusedIff_ofThinned_even hf left right (hsteps _)).bind fun pl _ =>
        .ok not_false (some pl)).of_iff ?_
      rw [or_false, ← metres_epsilon]
      constructor
      · exact fun h => congrArg Distance.mk (le_antisymm h hleast)
      · exact fun h => (congrArg Distance.metres h).le
    · intro cut hcut
      obtain ⟨pl, -, hcut⟩ := Outcome.bind_eq_ok.mp hcut
      cases hcut
      exact (decide_eq_true hleast).symm

omit hf hl in
lemma exists_strideDistances (pl : Polyline (FourPlaces f)) :
    ∃ ds, pl.strideDistances resolution = .ok ds := by
  have hstrides (fuel : ℕ) (d : Distance (FourPlaces f)) :
      ∃ ds, pl.strides resolution fuel d = .ok ds := by
    induction fuel generalizing d with
    | zero => exact ⟨[], rfl⟩
    | succ fuel ih =>
        rw [Polyline.strides, sub_eq, add_eq]
        simp only [bind, Except.bind]
        split
        · obtain ⟨ds, hds⟩ := ih ⟨toGrid (d.metres + resolution.metres)⟩
          rw [hds]
          exact ⟨_, rfl⟩
        · exact ⟨[], rfl⟩
  have hpositive : Distance.zero < resolution := by
    rw [distance_zero]
    exact hresolution
  obtain ⟨ds, hds⟩ := hstrides (pl.strideBound resolution) Distance.zero
  rw [Polyline.strideDistances, if_pos hpositive, hds]
  exact ⟨_, rfl⟩

/-- The cross sections of a lanelet are refused exactly if one is an epsilon wide, and otherwise
those are left that are at least as wide. -/
lemma exists_divisions (ds : List (Distance (FourPlaces f))) :
    ∃ widths, ds.mapM l.widthAt = .ok widths ∧
      (ds.mapM (SlicedLane.division l resolution)).RefusedIff (Distance.epsilon ∈ widths) ∧
      ∀ cuts, ds.mapM (SlicedLane.division l resolution) = .ok cuts →
        (cuts.filterMap fun cut => cut).length = Lanelet.wideCount widths := by
  induction ds with
  | nil =>
      refine ⟨[], rfl, .ok List.not_mem_nil [], ?_⟩
      rintro _ ⟨⟩
      rfl
  | cons d ds ih =>
      obtain ⟨width, hwidth, hcut, hsome⟩ := exists_division hf hl hresolution d
      obtain ⟨widths, hwidths, hcuts, hcount⟩ := ih
      refine ⟨width :: widths, ?_, ?_, ?_⟩
      · rw [List.mapM_cons, hwidth, hwidths]
        rfl
      · rw [List.mapM_cons]
        refine (hcut.bind fun cut _ => hcuts.bind fun cuts _ =>
          .ok not_false (cut :: cuts)).of_iff ?_
        rw [or_false, List.mem_cons, eq_comm]
      · intro cuts h
        rw [List.mapM_cons] at h
        obtain ⟨cut, hfirst, h⟩ := Outcome.bind_eq_ok.mp h
        obtain ⟨later, hlater, h⟩ := Outcome.bind_eq_ok.mp h
        cases h
        rw [Lanelet.wideCount, List.filter_cons, ← hsome cut hfirst]
        cases cut with
        | none => exact hcount later hlater
        | some pl => exact congrArg Nat.succ (hcount later hlater)

/-- **A lanelet is refused exactly if it spoils its cross sections.** -/
lemma refusedIff_ofLanelet :
    (SlicedLane.ofLanelet l resolution).RefusedIff (l.Spoils resolution) := by
  obtain ⟨ds, hds⟩ := exists_strideDistances hresolution l.centerline
  obtain ⟨widths, hwidths, hcuts, hcount⟩ := exists_divisions hf hl hresolution ds
  have hall : l.widths resolution = .ok widths := by
    rw [Lanelet.widths, hds]
    exact hwidths
  have hspoils : Distance.epsilon ∈ widths ∨ Lanelet.wideCount widths < 2 ↔
      l.Spoils resolution := by
    constructor
    · exact fun h => ⟨widths, hall, h⟩
    · rintro ⟨widths', hwidths', h⟩
      cases hall.symm.trans hwidths'
      exact h
  rw [SlicedLane.ofLanelet, hds]
  refine (hcuts.bind fun cuts h => ?_).of_iff hspoils
  dsimp only
  rw [hcount cuts h]
  split
  · next hfew => exact .refused hfew _
  · next henough => exact .ok henough _

/-- A lanelet that has been cut across has the cross sections that are wide enough. -/
lemma length_of_ofLanelet {s : SlicedLane (FourPlaces f)}
    (h : SlicedLane.ofLanelet l resolution = .ok s) : s.lane = l.id ∧
      ∃ widths, l.widths resolution = .ok widths ∧
        s.divisions.length = Lanelet.wideCount widths := by
  obtain ⟨ds, hds, h⟩ := Outcome.bind_eq_ok.mp h
  obtain ⟨cuts, hcuts, h⟩ := Outcome.bind_eq_ok.mp h
  obtain ⟨widths, hwidths, -, hcount⟩ := exists_divisions hf hl hresolution ds
  dsimp only at h
  split at h
  · cases h
  · cases h
    refine ⟨rfl, widths, ?_, hcount cuts hcuts⟩
    rw [Lanelet.widths, hds]
    exact hwidths

end Lanelets

end FourPlaces

/-! ## All lanelets -/

namespace SlicedLane

section Maps

variable {K : Type} [Scalar K] {lanelets : List (Lanelet K)} {areas : List (AreaId × Region K)}
  {map : RoadMap K} (hmap : RoadMap.ofLanelets lanelets areas = .ok map)
include hmap

lemma lanelet?_eq {l : Lanelet K} (hl : l ∈ map.lanelets) : map.lanelet? l.id = some l :=
  RoadMap.find_id (RoadMap.nodup_of_ascending (RoadMap.ascending_of_ofLaneletsBy hmap)) hl

/-- The lanelets that go straight on are those that do not turn. -/
lemma exists_straight {ids : List LaneletId} (hids : ∀ id ∈ ids, id ∈ map.ids) :
    ∃ straight, ids.filterM (goesStraight map) = .ok straight ∧
      ∀ id, id ∈ straight ↔ ∃ l ∈ map.lanelets, l.id = id ∧ id ∈ ids ∧ l.isTurning = false := by
  let keep (id : LaneletId) : Bool := ((map.lanelet? id).map fun l => !l.isTurning).getD false
  have hkeep {l : Lanelet K} (hl : l ∈ map.lanelets) : keep l.id = !l.isTurning := by
    simp only [keep, lanelet?_eq hmap hl, Option.map_some, Option.getD_some]
  refine ⟨ids.filter keep, Outcome.filterM_eq_filter fun id hid => ?_, fun id => ?_⟩
  · obtain ⟨l, hl, rfl⟩ := List.mem_map.mp (hids id hid)
    rw [goesStraight, lanelet?_eq hmap hl, hkeep hl]
  · rw [List.mem_filter]
    constructor
    · rintro ⟨hid, hstraight⟩
      obtain ⟨l, hl, rfl⟩ := List.mem_map.mp (hids id hid)
      rw [hkeep hl, Bool.not_eq_true'] at hstraight
      exact ⟨l, hl, rfl, hid, hstraight⟩
    · rintro ⟨l, hl, rfl, hid, hstraight⟩
      exact ⟨hid, by rw [hkeep hl, hstraight, Bool.not_false]⟩

end Maps

section Exact

variable {F : Type} [Field F] [LinearOrder F] [FloorRing F] [IsStrictOrderedRing F]
  {f : Functions F}

/-- **When lanelets are refused to be cut across**: exactly if one of them, of those that do not
turn, has a cross section that is just an epsilon wide or fewer than two that are at least as wide.
Otherwise there is a value, and each lanelet has the cross sections that are at least as wide. -/
theorem ofMap_refusedIff (hf : f.HasRoot) {lanelets : List (Lanelet (FourPlaces f))}
    {areas : List (AreaId × Region (FourPlaces f))} {map : RoadMap (FourPlaces f)}
    (hmap : RoadMap.ofLanelets lanelets areas = .ok map) (hbounded : ∀ l ∈ lanelets, l.IsBounded)
    {ids : List LaneletId} (hids : ∀ id ∈ ids, id ∈ map.ids)
    {resolution : Distance (FourPlaces f)} (hresolution : ⟨0.0001⟩ ≤ resolution) :
    (ofMap map ids resolution).RefusedIff (∃ l ∈ map.lanelets,
      l.id ∈ ids ∧ l.isTurning = false ∧ l.Spoils resolution) ∧
    ∀ lanes, ofMap map ids resolution = .ok lanes → ∀ s ∈ lanes, ∃ l ∈ map.lanelets,
      s.lane = l.id ∧ ∃ widths, l.widths resolution = .ok widths ∧
        s.divisions.length = Lanelet.wideCount widths := by
  have hpos := FourPlaces.pos_of_tick_le hresolution
  have hguard : ¬ resolution ≤ Distance.zero := by
    rw [FourPlaces.distance_zero]
    exact not_le.mpr hpos
  have hmade {l : Lanelet (FourPlaces f)} (hl : l ∈ map.lanelets) : l.IsBounded := by
    obtain ⟨-, hsorted, -⟩ := RoadMap.ofLaneletsBy_eq_ok hmap
    rw [hsorted, Sorting.mem_sort] at hl
    exact hbounded l hl
  have hlookup {l : Lanelet (FourPlaces f)} (hl : l ∈ map.lanelets) :
      map.lanelet l.id = .ok l := by
    rw [RoadMap.lanelet, lanelet?_eq hmap hl]
    rfl
  have hunique {l l' : Lanelet (FourPlaces f)} (hl : l ∈ map.lanelets) (hl' : l' ∈ map.lanelets)
      (hid : l.id = l'.id) : l = l' :=
    List.inj_on_of_nodup_map
      (RoadMap.nodup_of_ascending (RoadMap.ascending_of_ofLaneletsBy hmap)) hl hl' hid
  obtain ⟨straight, hstraight, hmem⟩ := exists_straight hmap hids
  have hofMap : ofMap map ids resolution = (map.routing.flowOrder straight).mapM
      (fun id => do ofLanelet (← map.lanelet id) resolution) := by
    rw [ofMap, if_neg hguard, hstraight]
    rfl
  rw [hofMap]
  constructor
  · have hrefused (id : LaneletId) (hid : id ∈ map.routing.flowOrder straight) :
        Outcome.RefusedIff (∃ l ∈ map.lanelets, l.id = id ∧ l.Spoils resolution)
          (do ofLanelet (← map.lanelet id) resolution) := by
      obtain ⟨l, hl, rfl, -⟩ := (hmem id).mp (Routing.mem_flowOrder.mp hid)
      rw [hlookup hl]
      refine (FourPlaces.refusedIff_ofLanelet hf (hmade hl) hpos).of_iff
        ⟨fun hspoils => ⟨l, hl, rfl, hspoils⟩, ?_⟩
      rintro ⟨l', hl', hid', hspoils⟩
      rwa [← hunique hl' hl hid']
    refine (Outcome.RefusedIff.mapM hrefused).of_iff ?_
    constructor
    · rintro ⟨id, hid, l, hl, rfl, hspoils⟩
      obtain ⟨l', hl', hid', hmember, hnot⟩ := (hmem _).mp (Routing.mem_flowOrder.mp hid)
      obtain rfl := hunique hl' hl hid'
      exact ⟨l', hl, hmember, hnot, hspoils⟩
    · rintro ⟨l, hl, hid, hnot, hspoils⟩
      exact ⟨l.id, Routing.mem_flowOrder.mpr ((hmem _).mpr ⟨l, hl, rfl, hid, hnot⟩), l, hl, rfl,
        hspoils⟩
  · intro lanes hlanes s hs
    obtain ⟨id, hid, h⟩ := Outcome.exists_mem_of_mapM hlanes hs
    obtain ⟨l, hl, rfl, -⟩ := (hmem id).mp (Routing.mem_flowOrder.mp hid)
    rw [hlookup hl] at h
    exact ⟨l, hl, FourPlaces.length_of_ofLanelet hf (hmade hl) hpos h⟩

end Exact

/-! ### A lanelet that narrows to a centimetre -/

/-- A lanelet of four metres that is a centimetre wide at its end. -/
def taper : Lanelet (FourPlaces rationals) where
  id := ⟨1⟩
  left := ⟨[⟨-1.0, -2.0⟩, ⟨2.0, 2.0⟩], ⟨5.0⟩⟩
  right := ⟨[⟨5.01, -2.0⟩, ⟨2.01, 2.0⟩], ⟨5.0⟩⟩
  centerline := ⟨[⟨2.005, -2.0⟩, ⟨2.005, -1.2⟩, ⟨2.005, -0.4⟩, ⟨2.005, 0.4⟩,
    ⟨2.005, 1.2⟩, ⟨2.005, 2.0⟩], ⟨4.0⟩⟩
  turn := .elsewhere
  light := none
  stopLine := none
  area := none
  yields := IdSet.empty
  region := ⟨[⟨-1.0, -2.0⟩, ⟨2.0, 2.0⟩, ⟨5.01, -2.0⟩, ⟨-1.0, -2.0⟩]⟩

def taperMap : RoadMap (FourPlaces rationals) :=
  (RoadMap.ofLanelets [taper] []).toOption.getD ⟨[], [], default⟩

/-- What is evaluated about the lanelet: it is what its boundaries make it, there is a map of it
alone, all its cross sections are wide enough, and it is refused. -/
lemma taper_evaluated :
    (Lanelet.ofBounds ⟨1⟩ taper.left taper.right = .ok taper ∧ (∀ l ∈ [taper], l.IsBounded) ∧
      RoadMap.ofLanelets [taper] [] = .ok taperMap) ∧
    ((⟨0.0001⟩ : Distance (FourPlaces rationals)) ≤ ⟨2.0⟩ ∧
      taper.widths ⟨2.0⟩ = .ok [⟨6.01⟩, ⟨3.01⟩, Distance.epsilon] ∧
      Lanelet.wideCount [(⟨6.01⟩ : Distance (FourPlaces rationals)), ⟨3.01⟩, Distance.epsilon] = 3 ∧
      ofMap taperMap [⟨1⟩] ⟨2.0⟩ = Outcome.refuse .fewPoints) := by
  rw [List.forall_mem_singleton]
  refine ⟨⟨?_, ⟨⟨taper.left.points, ?_⟩, ⟨taper.right.points, ?_⟩⟩, Outcome.eq_ok_getD ?_ _⟩, ?_⟩
  all_goals decide +kernel

lemma lanelets_taperMap : taperMap.lanelets = [taper] := by
  obtain ⟨-, hsorted, -⟩ := RoadMap.ofLaneletsBy_eq_ok taper_evaluated.1.2.2
  exact hsorted

lemma mem_ids_taperMap : ∀ id ∈ [(⟨1⟩ : LaneletId)], id ∈ taperMap.ids := by
  rw [RoadMap.ids, lanelets_taperMap]
  exact fun id hid => hid

/-- The lanelet is refused for its end. -/
theorem ofMap_refusedIff_taper :
    RoadMap.ofLanelets [taper] [] = .ok taperMap ∧ (∀ l ∈ [taper], l.IsBounded) ∧
      (∀ id ∈ [(⟨1⟩ : LaneletId)], id ∈ taperMap.ids) ∧
      (⟨0.0001⟩ : Distance (FourPlaces rationals)) ≤ ⟨2.0⟩ ∧
      ∃ why, ofMap taperMap [⟨1⟩] ⟨2.0⟩ = Outcome.refuse why := by
  obtain ⟨⟨-, hbounded, hmap⟩, hresolution, hwidths, -⟩ := taper_evaluated
  have hspoils : ∃ l ∈ taperMap.lanelets, l.id ∈ [(⟨1⟩ : LaneletId)] ∧ l.isTurning = false ∧
      l.Spoils ⟨2.0⟩ := by
    refine ⟨taper, ?_, List.mem_cons_self, rfl, _, hwidths, Or.inl (by simp)⟩
    rw [lanelets_taperMap]
    exact List.mem_cons_self
  refine ⟨hmap, hbounded, mem_ids_taperMap, hresolution, ?_⟩
  obtain ⟨⟨-, hrefused⟩ | ⟨hnot, -⟩, -⟩ :=
    ofMap_refusedIff hasRoot_rationals hmap hbounded mem_ids_taperMap hresolution
  · exact hrefused
  · exact absurd hspoils hnot

/-- **A lanelet is not only refused for having few cross sections that are wide enough.**  This one
has two of them, and the third is not left out. -/
theorem not_forall_wideCount_lt :
    ¬ ∀ (lanelets : List (Lanelet (FourPlaces rationals)))
      (areas : List (AreaId × Region (FourPlaces rationals))) (map : RoadMap (FourPlaces rationals))
      (ids : List LaneletId) (resolution : Distance (FourPlaces rationals)),
        RoadMap.ofLanelets lanelets areas = .ok map → (∀ l ∈ lanelets, l.IsBounded) →
        (∀ id ∈ ids, id ∈ map.ids) → ⟨0.0001⟩ ≤ resolution →
        ∀ why, ofMap map ids resolution = Outcome.refuse why →
          ∃ l ∈ map.lanelets, l.id ∈ ids ∧ l.isTurning = false ∧
            ∃ widths, l.widths resolution = .ok widths ∧ Lanelet.wideCount widths < 2 := by
  intro h
  obtain ⟨⟨-, hbounded, hmap⟩, hresolution, hwidths, hcount, hrefused⟩ := taper_evaluated
  obtain ⟨l, hl, -, -, widths, hwidths', hfew⟩ :=
    h [taper] [] taperMap [⟨1⟩] ⟨2.0⟩ hmap hbounded mem_ids_taperMap hresolution .fewPoints hrefused
  rw [lanelets_taperMap, List.mem_singleton] at hl
  subst hl
  cases hwidths.symm.trans hwidths'
  rw [hcount] at hfew
  omega

end SlicedLane

end Crossing
