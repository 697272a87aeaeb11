import Mathlib.Algebra.Order.Floor.Semiring
import Mathlib.Data.List.GetD
import Mathlib.Data.Rat.Floor
import Mathlib.Order.Interval.Set.Defs
import Mathlib.Order.Monotone.Defs
import Mathlib.Tactic.Linarith
import Mathlib.Tactic.NormNum
import Mathlib.Tactic.Positivity
import Crossing.Path
import Crossing.Proofs.Rational

/-!
# Exact numbers with quantities to four places

Distances, durations and speeds are kept to four decimal places.  With doubles there is a second
rounding in every operation; `FourPlaces` is the arithmetic with the first one alone.  Its numbers
are those of any ordered field with whole parts, where sums, products and quotients are exact, and
its stored quantities are rounded to the grid of ten-thousandths.

**The grid.**  `toGrid` rounds to the nearest multiple of a ten-thousandth, halves away from zero.
It keeps the order (`toGrid_mono`) and leaves alone what lies on the grid (`OnGrid.toGrid_eq`),
which sums and differences do not leave (`OnGrid.add`, `OnGrid.sub`).  So sums of distances are
exact.

**Roots and directions** are not to be had in every field, and are parameters (`Functions`).  Of the
root it matters that it keeps the order and that it undoes squares of numbers on the grid
(`Functions.HasRoot`); of directions nothing matters here.

**Along a path** the distances of the waypoints are sums of steps (`arcs`).  They begin with zero,
do not decrease and lie on the grid.  The one at an index is `arcAt`.
-/

namespace Crossing

/-! ## The grid -/

section Grid

variable {K : Type} [Field K]

/-- Multiples of a ten-thousandth. -/
def OnGrid (x : K) : Prop := ∃ n : ℤ, x = n / 10000

variable {x y : K}

lemma onGrid_zero : OnGrid (0 : K) := ⟨0, by simp⟩

lemma OnGrid.add (hx : OnGrid x) (hy : OnGrid y) : OnGrid (x + y) := by
  obtain ⟨m, rfl⟩ := hx
  obtain ⟨n, rfl⟩ := hy
  exact ⟨m + n, by push_cast; ring⟩

lemma OnGrid.sub (hx : OnGrid x) (hy : OnGrid y) : OnGrid (x - y) := by
  obtain ⟨m, rfl⟩ := hx
  obtain ⟨n, rfl⟩ := hy
  exact ⟨m - n, by push_cast; ring⟩

lemma OnGrid.mul_natCast (hx : OnGrid x) (n : ℕ) : OnGrid (x * n) := by
  obtain ⟨m, rfl⟩ := hx
  exact ⟨m * n, by push_cast; ring⟩

variable [LinearOrder K]

lemma OnGrid.abs (hx : OnGrid x) : OnGrid |x| := by
  rcases abs_choice x with h | h
  · rwa [h]
  · rw [h, ← zero_sub]
    exact onGrid_zero.sub hx

variable [FloorRing K]

/-- The whole number nearest to a number; halves go away from zero. -/
def nearestInt (x : K) : ℤ := if 0 ≤ x then ⌊x + 1 / 2⌋ else ⌈x - 1 / 2⌉

/-- **The nearest multiple of a ten-thousandth.** -/
def toGrid (x : K) : K := nearestInt (x * 10000) / 10000

lemma onGrid_toGrid (x : K) : OnGrid (toGrid x) := ⟨_, rfl⟩

variable [IsStrictOrderedRing K]

lemma nearestInt_mono (h : x ≤ y) : nearestInt x ≤ nearestInt y := by
  unfold nearestInt
  split <;> split
  · exact Int.floor_mono (by linarith)
  · linarith
  · -- a number below zero is rounded to zero at most, and one above it to zero at least
    have hbelow : ⌈x - 1 / 2⌉ ≤ 0 := Int.ceil_le.mpr (by push_cast; linarith)
    have habove : 0 ≤ ⌊y + 1 / 2⌋ := Int.floor_nonneg.mpr (by linarith)
    exact hbelow.trans habove
  · exact Int.ceil_mono (by linarith)

lemma nearestInt_intCast (n : ℤ) : nearestInt (n : K) = n := by
  unfold nearestInt
  split
  · exact Int.floor_eq_iff.mpr ⟨by linarith, by linarith⟩
  · exact Int.ceil_eq_iff.mpr ⟨by linarith, by linarith⟩

lemma sub_half_le_nearestInt (x : K) : x - 1 / 2 ≤ nearestInt x := by
  unfold nearestInt
  split
  · have := Int.lt_floor_add_one (x + 1 / 2)
    linarith
  · exact Int.le_ceil _

lemma toGrid_mono (h : x ≤ y) : toGrid x ≤ toGrid y := by
  have hround : nearestInt (x * 10000) ≤ nearestInt (y * 10000) := nearestInt_mono (by linarith)
  have hcast : (nearestInt (x * 10000) : K) ≤ nearestInt (y * 10000) := by exact_mod_cast hround
  unfold toGrid
  linarith

/-- What lies on the grid is not rounded. -/
lemma OnGrid.toGrid_eq (hx : OnGrid x) : toGrid x = x := by
  obtain ⟨n, rfl⟩ := hx
  rw [toGrid, div_mul_cancel₀ _ (by norm_num), nearestInt_intCast]

lemma toGrid_nonneg (h : 0 ≤ x) : 0 ≤ toGrid x := by
  have hmono := toGrid_mono h
  rwa [onGrid_zero.toGrid_eq] at hmono

/-- A number on the grid above zero is at least a ten-thousandth. -/
lemma OnGrid.le_of_pos (hx : OnGrid x) (h : 0 < x) : 1 / 10000 ≤ x := by
  obtain ⟨n, rfl⟩ := hx
  have hn : (0 : K) < n := by linarith
  have hone : (1 : K) ≤ n := by exact_mod_cast hn
  linarith

/-- Rounding lessens a number by half a ten-thousandth at most, so a ten-thousandth more is more
even when it is rounded. -/
lemma lt_toGrid_tick (x : K) : x < toGrid (x + 1 / 10000) := by
  have := sub_half_le_nearestInt ((x + 1 / 10000) * 10000)
  unfold toGrid
  linarith

end Grid

/-! ## The numbers -/

/-- Functions that a field does not come with. -/
structure Functions (F : Type) where
  root : F → F
  sin : F → F
  cos : F → F
  atan2 : F → F → F
  pi : F

/-- **The root is a root, as far as it matters**: it keeps the order, and it undoes the squares of
numbers on the grid. -/
structure Functions.HasRoot {F : Type} [Field F] [LinearOrder F] (f : Functions F) : Prop where
  monotone : MonotoneOn f.root (Set.Ici 0)
  root_mul_self : ∀ x, OnGrid x → 0 ≤ x → f.root (x * x) = x

/-- **Exact numbers with quantities to four places.** -/
def FourPlaces {F : Type} (_ : Functions F) : Type := F

namespace FourPlaces

variable {F : Type} [Field F] [LinearOrder F] [FloorRing F] {f : Functions F}

instance : Field (FourPlaces f) := inferInstanceAs (Field F)

instance : LinearOrder (FourPlaces f) := inferInstanceAs (LinearOrder F)

instance : FloorRing (FourPlaces f) := inferInstanceAs (FloorRing F)

instance [IsStrictOrderedRing F] : IsStrictOrderedRing (FourPlaces f) :=
  inferInstanceAs (IsStrictOrderedRing F)

instance [IsStrictOrderedRing F] : Scalar (FourPlaces f) where
  decidableLT := inferInstance
  decidableLE := inferInstance
  ofNat n := n
  isFinite _ := true
  quantize := toGrid
  sqrt := f.root
  sin := f.sin
  cos := f.cos
  atan2 := f.atan2
  pi := f.pi
  modulo x m := x - m * ⌊x / m⌋
  ceilNat x := ⌈x⌉₊
  floorNat x := ⌊x⌋₊
  turn := Scalar.exactTurn

variable [IsStrictOrderedRing F]

/-! ## Quantities -/

lemma zero_eq : (0.0 : FourPlaces f) = 0 := by norm_num

lemma two_eq : (2.0 : FourPlaces f) = 2 := by norm_num

lemma tick_eq : (0.0001 : FourPlaces f) = 1 / 10000 := by norm_num

section Quantities

variable (x : FourPlaces f) (a b : Distance (FourPlaces f)) (u v : Speed (FourPlaces f))

@[simp] lemma isZero_iff : Scalar.isZero x = true ↔ x = 0 := by
  have hzero : Scalar.isZero x = (decide (x ≤ 0.0) && decide ((0.0 : FourPlaces f) ≤ x)) := rfl
  rw [hzero, zero_eq, Bool.and_eq_true, decide_eq_true_eq, decide_eq_true_eq, le_antisymm_iff]

lemma metres_zero : (Distance.zero : Distance (FourPlaces f)).metres = 0 := zero_eq

lemma metres_epsilon : (Distance.epsilon : Distance (FourPlaces f)).metres = 1 / 100 := by
  unfold Distance.epsilon
  norm_num

lemma distance_zero : (Distance.zero : Distance (FourPlaces f)) = ⟨0⟩ := by rw [← metres_zero]

lemma clamp_mem (x : FourPlaces f) :
    0 ≤ Scalar.clamp 0.0 1.0 x ∧ Scalar.clamp 0.0 1.0 x ≤ 1 := by
  have hone : (1.0 : FourPlaces f) = 1 := by norm_num
  unfold Scalar.clamp
  rw [zero_eq, hone]
  split
  · exact ⟨le_rfl, zero_le_one⟩
  · next hlow =>
    split
    · exact ⟨zero_le_one, le_rfl⟩
    · next hhigh => exact ⟨not_lt.mp hlow, not_lt.mp hhigh⟩

lemma pos_of_tick_le {a : Distance (FourPlaces f)} (h : ⟨0.0001⟩ ≤ a) : 0 < a.metres := by
  refine lt_of_lt_of_le (b := (0.0001 : FourPlaces f)) ?_ h
  rw [tick_eq]
  positivity

lemma add_eq : a.add b = .ok ⟨toGrid (a.metres + b.metres)⟩ := rfl

lemma sub_eq : a.sub b = .ok ⟨toGrid (a.metres - b.metres)⟩ := rfl

variable {x} in
lemma neg_eq (hx : OnGrid x) : Distance.neg ⟨x⟩ = (.ok ⟨-x⟩ : Outcome (FourPlaces f) _) := by
  have hneg : OnGrid (-x) := by simpa using onGrid_zero.sub hx
  rw [← hneg.toGrid_eq]
  rfl

end Quantities

/-! ## Roots -/

section Roots

variable (hf : f.HasRoot) {x y : FourPlaces f}
include hf

lemma sqrt_mono (hx : 0 ≤ x) (h : x ≤ y) : Scalar.sqrt x ≤ Scalar.sqrt y :=
  hf.monotone (Set.mem_Ici.mpr hx) (Set.mem_Ici.mpr (hx.trans h)) h

lemma sqrt_mul_self (hgrid : OnGrid x) (hx : 0 ≤ x) : Scalar.sqrt (x * x) = x :=
  hf.root_mul_self x hgrid hx

lemma sqrt_nonneg (hx : 0 ≤ x) : 0 ≤ Scalar.sqrt x := by
  have hzero : Scalar.sqrt (0 : FourPlaces f) = 0 := by
    simpa using sqrt_mul_self hf onGrid_zero le_rfl
  calc (0 : FourPlaces f) = Scalar.sqrt 0 := hzero.symm
    _ ≤ Scalar.sqrt x := sqrt_mono hf le_rfl hx

end Roots

/-! ## Along a path -/

/-- How far it is from one waypoint to another. -/
def gap (a b : Waypoint (FourPlaces f)) : FourPlaces f :=
  toGrid (Scalar.sqrt (Scalar.square (a.position.x - b.position.x) +
    Scalar.square (a.position.y - b.position.y)))

lemma step_eq (a b : Waypoint (FourPlaces f)) : Path.step a b = .ok ⟨gap a b⟩ := rfl

lemma onGrid_gap (a b : Waypoint (FourPlaces f)) : OnGrid (gap a b) := onGrid_toGrid _

lemma gap_nonneg (hf : f.HasRoot) (a b : Waypoint (FourPlaces f)) : 0 ≤ gap a b :=
  toGrid_nonneg (sqrt_nonneg hf (add_nonneg (mul_self_nonneg _) (mul_self_nonneg _)))

/-- How far along a path the waypoints after `w` lie, when that lies at `here`. -/
def arcsFrom (w : Waypoint (FourPlaces f)) (here : FourPlaces f) :
    List (Waypoint (FourPlaces f)) → List (FourPlaces f)
  | [] => []
  | next :: rest => (here + gap w next) :: arcsFrom next (here + gap w next) rest

/-- **How far along a path its waypoints lie.** -/
def arcs (path : Path (FourPlaces f)) : List (FourPlaces f) :=
  match path.points with
  | [] => []
  | w :: rest => 0 :: arcsFrom w 0 rest

section Arcs

variable {w : Waypoint (FourPlaces f)} {here : FourPlaces f} {rest : List (Waypoint (FourPlaces f))}

lemma length_arcsFrom : (arcsFrom w here rest).length = rest.length := by
  induction rest generalizing w here with
  | nil => rfl
  | cons next rest ih => rw [arcsFrom, List.length_cons, List.length_cons, ih]

lemma length_arcs (path : Path (FourPlaces f)) : (arcs path).length = path.size := by
  unfold arcs Path.size
  split
  · next h => rw [h, List.length_nil, List.length_nil]
  · next h => rw [h, List.length_cons, List.length_cons, length_arcsFrom]

lemma arcsAfter_eq (hhere : OnGrid here) :
    Path.arcsAfter w ⟨here⟩ rest = .ok ((arcsFrom w here rest).map Distance.mk) := by
  induction rest generalizing w here with
  | nil => rfl
  | cons next rest ih =>
      have hnext := hhere.add (onGrid_gap w next)
      rw [Path.arcsAfter, step_eq]
      simp only [bind, Except.bind, add_eq, hnext.toGrid_eq, ih hnext]
      rfl

/-- Sums of steps are exact. -/
lemma arcLengths_eq (path : Path (FourPlaces f)) :
    path.arcLengths = .ok ((arcs path).map Distance.mk) := by
  rcases path with ⟨_ | ⟨w, rest⟩⟩
  · rfl
  · dsimp only [Path.arcLengths]
    rw [distance_zero, arcsAfter_eq onGrid_zero]
    rfl

lemma onGrid_of_mem_arcsFrom (hhere : OnGrid here) :
    ∀ x ∈ here :: arcsFrom w here rest, OnGrid x := by
  induction rest generalizing w here with
  | nil => simpa [arcsFrom] using hhere
  | cons next rest ih =>
      rw [arcsFrom, List.forall_mem_cons]
      exact ⟨hhere, ih (hhere.add (onGrid_gap w next))⟩

lemma pairwise_arcsFrom (hf : f.HasRoot) : (here :: arcsFrom w here rest).Pairwise (· ≤ ·) := by
  induction rest generalizing w here with
  | nil => exact List.pairwise_singleton _ _
  | cons next rest ih =>
      have hlater : ((here + gap w next) :: arcsFrom next (here + gap w next) rest).Pairwise
        (· ≤ ·) := ih
      have hstep : here ≤ here + gap w next := le_add_of_nonneg_right (gap_nonneg hf w next)
      rw [arcsFrom, List.pairwise_cons]
      refine ⟨?_, hlater⟩
      rw [List.forall_mem_cons]
      exact ⟨hstep, fun x hx => hstep.trans (List.rel_of_pairwise_cons hlater hx)⟩

lemma onGrid_of_mem_arcs {path : Path (FourPlaces f)} : ∀ x ∈ arcs path, OnGrid x := by
  unfold arcs
  split
  · exact fun x hx => by cases hx
  · exact onGrid_of_mem_arcsFrom onGrid_zero

/-- Along a path distances do not decrease. -/
lemma pairwise_arcs (hf : f.HasRoot) (path : Path (FourPlaces f)) :
    (arcs path).Pairwise (· ≤ ·) := by
  unfold arcs
  split
  · exact List.Pairwise.nil
  · exact pairwise_arcsFrom hf

/-- How far along a path the waypoint at an index lies. -/
def arcAt (path : Path (FourPlaces f)) (i : ℕ) : FourPlaces f := (arcs path).getD i 0

section ArcAt

variable {path : Path (FourPlaces f)} {i j : ℕ} {next : Waypoint (FourPlaces f)}

lemma getElem?_arcs (hi : i < path.size) : (arcs path)[i]? = some (arcAt path i) := by
  rw [← length_arcs] at hi
  rw [List.getElem?_eq_getElem hi, arcAt, List.getD_eq_getElem _ _ hi]

lemma arcLengths_eq_arcAt (path : Path (FourPlaces f)) :
    path.arcLengths = .ok ((List.range path.size).map fun i => ⟨arcAt path i⟩) := by
  have harcs : arcs path = (List.range path.size).map (arcAt path) := by
    refine List.ext_getElem (by rw [List.length_map, List.length_range, length_arcs]) ?_
    intro i hi _
    rw [List.getElem_map, List.getElem_range, arcAt, List.getD_eq_getElem _ _ hi]
  rw [arcLengths_eq, harcs, List.map_map]
  rfl

lemma onGrid_arcAt (path : Path (FourPlaces f)) (i : ℕ) : OnGrid (arcAt path i) := by
  unfold arcAt
  rcases lt_or_ge i (arcs path).length with hi | hi
  · rw [List.getD_eq_getElem _ _ hi]
    exact onGrid_of_mem_arcs _ (List.getElem_mem hi)
  · rw [List.getD_eq_default _ _ hi]
    exact onGrid_zero

lemma arcAt_mono (hf : f.HasRoot) (hij : i ≤ j) (hj : j < path.size) :
    arcAt path i ≤ arcAt path j := by
  rcases hij.eq_or_lt with rfl | hlt
  · exact le_rfl
  · obtain ⟨hi, hget⟩ := List.getElem?_eq_some_iff.mp (getElem?_arcs (hlt.trans hj))
    obtain ⟨hj, hget'⟩ := List.getElem?_eq_some_iff.mp (getElem?_arcs hj)
    rw [← hget, ← hget']
    exact List.pairwise_iff_getElem.mp (pairwise_arcs hf path) i j hi hj hlt

/-- From one waypoint to the next the distance along the path grows by the step. -/
lemma arcAt_succ (hw : path.points[i]? = some w) (hnext : path.points[i + 1]? = some next) :
    arcAt path (i + 1) = arcAt path i + gap w next := by
  have hfrom : ∀ (rest : List (Waypoint (FourPlaces f))) (first : Waypoint (FourPlaces f))
      (here : FourPlaces f) (i : ℕ), (first :: rest)[i]? = some w → rest[i]? = some next →
      (arcsFrom first here rest).getD i 0 = (here :: arcsFrom first here rest).getD i 0 +
        gap w next := by
    intro rest
    induction rest with
    | nil =>
        intro first here i _ hnext
        cases hnext
    | cons second rest ih =>
        intro first here i hw hnext
        cases i with
        | zero =>
            cases hw
            cases hnext
            rfl
        | succ i => exact ih second (here + gap first second) i hw hnext
  obtain ⟨_ | ⟨first, rest⟩⟩ := path
  · cases hw
  · exact hfrom rest first 0 i hw hnext

end ArcAt

end Arcs

end FourPlaces

/-! ## Rational numbers -/

/-- The root of a rational number to eight places, rounded down; exact for the squares of numbers on
the grid. -/
def Rational.fineRoot (x : ℚ) : ℚ := (⌊x * 10000000000000000⌋₊.sqrt : ℚ) / 100000000

/-- Functions on the rational numbers, with which closed statements are evaluated. -/
def rationals : Functions ℚ where
  root := Rational.fineRoot
  sin := Rational.sin
  cos x := Rational.sin (x + Rational.pi / 2)
  atan2 := Rational.atan2
  pi := Rational.pi

lemma hasRoot_rationals : rationals.HasRoot where
  monotone := by
    intro x _ y _ h
    have hfloor : ⌊x * 10000000000000000⌋₊ ≤ ⌊y * 10000000000000000⌋₊ :=
      Nat.floor_mono (by linarith)
    have hroot : (⌊x * 10000000000000000⌋₊.sqrt : ℚ) ≤ ⌊y * 10000000000000000⌋₊.sqrt := by
      exact_mod_cast Nat.sqrt_le_sqrt hfloor
    exact div_le_div_of_nonneg_right hroot (by norm_num)
  root_mul_self := by
    rintro _ ⟨n, rfl⟩ h
    have hn : (0 : ℚ) ≤ n := by linarith
    lift n to ℕ using by exact_mod_cast hn
    have hsquare : ((n : ℤ) / 10000 * ((n : ℤ) / 10000) * 10000000000000000 : ℚ) =
        (n * 10000 * (n * 10000) : ℕ) := by
      push_cast
      ring
    show Rational.fineRoot _ = _
    rw [Rational.fineRoot, hsquare, Nat.floor_natCast, Nat.sqrt_eq]
    push_cast
    ring

end Crossing
