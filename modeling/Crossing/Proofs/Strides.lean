import Crossing.Proofs.FourPlaces
import Crossing.Polyline

/-!
# Strides along a polyline

`Polyline.strideDistances` takes strides along a polyline as long as it is more than an epsilon short
of the end, and lists the end last.  How many strides it may take is bounded in advance.
`Polyline.Strides` describes strides without a bound; a list that it gives is one that they come to
by themselves.

With exact numbers they do come to an end, after the least number of strides that leads to an epsilon
from the end or closer (`FourPlaces.strideCount`), and the bound is never met.  What is listed are
the multiples of the stride before that place (`FourPlaces.strideDistances_eq`).  The last of them is
more than an epsilon short of the end, because another stride was taken from it, and that stride
leads to an epsilon from the end or closer.  Everything that is said of the gaps follows from this.
-/

namespace Crossing

namespace Polyline

variable {K : Type} [Scalar K] {pl : Polyline K} {stride d : Distance K} {ds : List (Distance K)}

/-- **The strides taken from a distance on**, however many there are. -/
inductive Strides (pl : Polyline K) (stride : Distance K) :
    Distance K → List (Distance K) → Prop
  | arrive {d short : Distance K} (hshort : pl.length.sub Distance.epsilon = .ok short)
      (h : ¬ d < short) : Strides pl stride d []
  | go {d short next : Distance K} {ds : List (Distance K)}
      (hshort : pl.length.sub Distance.epsilon = .ok short) (h : d < short)
      (hnext : d.add stride = .ok next) (later : Strides pl stride next ds) :
      Strides pl stride d (d :: ds)

/-- A bound that is not met makes no difference. -/
lemma Strides.strides_eq (h : pl.Strides stride d ds) {fuel : ℕ} (hfuel : ds.length < fuel) :
    pl.strides stride fuel d = .ok ds := by
  induction h generalizing fuel with
  | arrive hshort h =>
      obtain ⟨fuel, rfl⟩ := Nat.exists_eq_add_one_of_ne_zero (Nat.ne_zero_of_lt hfuel)
      rw [strides, hshort]
      exact if_neg h
  | go hshort h hnext later ih =>
      obtain ⟨fuel, rfl⟩ := Nat.exists_eq_add_one_of_ne_zero (Nat.ne_zero_of_lt hfuel)
      rw [strides, hshort]
      refine (if_pos h).trans ?_
      rw [hnext]
      simp only [bind, Except.bind]
      rw [ih (Nat.lt_of_succ_lt_succ hfuel)]
      rfl

end Polyline

namespace FourPlaces

/-! ## Multiples of a stride -/

section Multiples

variable {F : Type} [Field F] {f : Functions F} {stride : Distance (FourPlaces f)}
  {first count i : ℕ}

/-- So many multiples of a stride, from one on. -/
def multiples (stride : Distance (FourPlaces f)) (first count : ℕ) :
    List (Distance (FourPlaces f)) :=
  (List.range' first count).map fun k : ℕ => ⟨k * stride.metres⟩

lemma length_multiples : (multiples stride first count).length = count := by
  rw [multiples, List.length_map, List.length_range']

lemma getElem?_multiples (hi : i < count) :
    (multiples stride first count)[i]? = some ⟨(first + i : ℕ) * stride.metres⟩ := by
  rw [multiples, List.getElem?_map, List.getElem?_range' hi, Nat.one_mul]
  rfl

/-- From a multiple it is a stride to the next, and from the last multiple the rest of the way to
the end. -/
lemma next_of_multiples {last a b : Distance (FourPlaces f)}
    (ha : (multiples stride 0 count ++ [last])[i]? = some a)
    (hb : (multiples stride 0 count ++ [last])[i + 1]? = some b) :
    a = ⟨i * stride.metres⟩ ∧
      (i + 1 < count ∧ b = ⟨(i + 1 : ℕ) * stride.metres⟩ ∨ i + 1 = count ∧ b = last) := by
  have hi : i + 1 < (multiples stride 0 count ++ [last]).length :=
    (List.getElem?_eq_some_iff.mp hb).1
  rw [List.length_append, length_multiples, List.length_singleton] at hi
  have hmultiple {j : ℕ} (hj : j < count) :
      (multiples stride 0 count ++ [last])[j]? = some ⟨j * stride.metres⟩ := by
    rw [List.getElem?_append_left (by rwa [length_multiples]), getElem?_multiples hj,
      Nat.zero_add]
  refine ⟨Option.some.inj (ha.symm.trans (hmultiple (by omega))), ?_⟩
  rcases Nat.lt_or_ge (i + 1) count with hmiddle | hend
  · exact Or.inl ⟨hmiddle, Option.some.inj (hb.symm.trans (hmultiple hmiddle))⟩
  · have hcount : i + 1 = count := by omega
    rw [hcount, List.getElem?_append_right length_multiples.le, length_multiples,
      Nat.sub_self] at hb
    exact Or.inr ⟨hcount, (Option.some.inj hb).symm⟩

end Multiples

variable {F : Type} [Field F] [LinearOrder F] [FloorRing F] [IsStrictOrderedRing F]
  {f : Functions F} {pl : Polyline (FourPlaces f)} {stride : Distance (FourPlaces f)}

lemma onGrid_epsilon : OnGrid (Distance.epsilon : Distance (FourPlaces f)).metres :=
  ⟨100, by rw [metres_epsilon]; norm_num⟩

/-! ## How many strides are taken -/

/-- **How many strides are taken**: the least number that leads to an epsilon from the end or
closer. -/
def strideCount (pl : Polyline (FourPlaces f)) (stride : Distance (FourPlaces f)) : ℕ :=
  ⌈(pl.length.metres - Distance.epsilon.metres) / stride.metres⌉₊

section Count

variable (hstride : 0 < stride.metres)
include hstride

lemma lt_strideCount {k : ℕ} : k < strideCount pl stride ↔
    k * stride.metres < pl.length.metres - Distance.epsilon.metres := by
  rw [strideCount, Nat.lt_ceil, lt_div_iff₀ hstride]

/-- The bound on the number of strides is never met. -/
lemma strideCount_lt_strideBound (hgrid : OnGrid stride.metres) :
    strideCount pl stride < pl.strideBound stride := by
  have hshort : pl.length.metres - Distance.epsilon.metres ≤ pl.length.metres := by
    rw [metres_epsilon]
    linarith
  have hcount : strideCount pl stride ≤ ⌈pl.length.metres / stride.metres⌉₊ :=
    Nat.ceil_mono (div_le_div_of_nonneg_right hshort hstride.le)
  have hbound : pl.strideBound stride = 2 * ⌈pl.length.metres / toGrid stride.metres⌉₊ + 2 := rfl
  rw [hbound, hgrid.toGrid_eq]
  omega

/-- From a multiple of the stride on, the multiples before the count are taken. -/
lemma strides_multiples (hlength : OnGrid pl.length.metres) (hgrid : OnGrid stride.metres)
    {first count : ℕ} (hcount : first + count = strideCount pl stride) :
    pl.Strides stride ⟨first * stride.metres⟩ (multiples stride first count) := by
  have hshort : pl.length.sub Distance.epsilon =
      .ok ⟨pl.length.metres - Distance.epsilon.metres⟩ := by
    rw [sub_eq, (hlength.sub onGrid_epsilon).toGrid_eq]
  induction count generalizing first with
  | zero =>
      refine .arrive hshort fun hless => ?_
      have hlt := (lt_strideCount hstride).mpr hless
      omega
  | succ count ih =>
      have hless : first * stride.metres < pl.length.metres - Distance.epsilon.metres :=
        (lt_strideCount hstride).mp (by omega)
      have hsum : first * stride.metres + stride.metres = (first + 1 : ℕ) * stride.metres := by
        push_cast
        ring
      have hmultiple : OnGrid ((first + 1 : ℕ) * stride.metres) := by
        rw [mul_comm]
        exact hgrid.mul_natCast _
      have hnext : Distance.add ⟨first * stride.metres⟩ stride =
          .ok (⟨(first + 1 : ℕ) * stride.metres⟩ : Distance (FourPlaces f)) := by
        rw [add_eq, hsum, hmultiple.toGrid_eq]
      exact .go hshort hless hnext (ih (by omega))

/-- **The distances listed are the multiples of the stride and the length.** -/
lemma strideDistances_eq (hlength : OnGrid pl.length.metres) (hgrid : OnGrid stride.metres) :
    pl.Strides stride Distance.zero (multiples stride 0 (strideCount pl stride)) ∧
      pl.strideDistances stride =
        .ok (multiples stride 0 (strideCount pl stride) ++ [pl.length]) := by
  have hstrides := strides_multiples hstride hlength hgrid (Nat.zero_add (strideCount pl stride))
  rw [Nat.cast_zero, zero_mul, ← distance_zero] at hstrides
  have hbound : (multiples stride 0 (strideCount pl stride)).length < pl.strideBound stride := by
    rw [length_multiples]
    exact strideCount_lt_strideBound hstride hgrid
  have hpositive : Distance.zero < stride := by
    rw [distance_zero]
    exact hstride
  refine ⟨hstrides, ?_⟩
  rw [Polyline.strideDistances, if_pos hpositive, hstrides.strides_eq hbound]
  rfl

/-- Each multiple lies before the next and before the end. -/
lemma pairwise_multiples :
    (multiples stride 0 (strideCount pl stride) ++ [pl.length]).Pairwise (· < ·) := by
  have hmultiples : (multiples stride 0 (strideCount pl stride)).Pairwise (· < ·) := by
    rw [multiples, List.pairwise_map]
    refine (List.pairwise_lt_range' 1 Nat.one_pos).imp fun {i j} hij => ?_
    have hcast : (i : FourPlaces f) < j := by exact_mod_cast hij
    show (i : FourPlaces f) * stride.metres < j * stride.metres
    exact mul_lt_mul_of_pos_right hcast hstride
  have hend : ∀ d ∈ multiples stride 0 (strideCount pl stride), d < pl.length := by
    intro d hd
    obtain ⟨k, hk, rfl⟩ := List.mem_map.mp hd
    have hk : k < strideCount pl stride := by simpa using hk
    have hless := (lt_strideCount hstride).mp hk
    have hepsilon : (0 : FourPlaces f) < Distance.epsilon.metres := by
      rw [metres_epsilon]
      norm_num
    exact lt_trans hless (sub_lt_self _ hepsilon)
  rw [List.pairwise_append]
  refine ⟨hmultiples, List.pairwise_singleton _ _, fun d hd e he => ?_⟩
  rw [List.mem_singleton.mp he]
  exact hend d hd

end Count

end FourPlaces

namespace Polyline

variable {F : Type} [Field F] [LinearOrder F] [FloorRing F] [IsStrictOrderedRing F]
  {f : Functions F} {pl : Polyline (FourPlaces f)} {stride : Distance (FourPlaces f)}

open FourPlaces in
/-- **Strides come to an end, and the distances they give are spread evenly.**  The length and the
stride are any distances on the grid, the length above an epsilon and the stride at least a
ten-thousandth.  The list begins with zero, ends with the length and grows from entry to entry.  It
does so by the stride, except that the last gap is above an epsilon and exceeds the stride by an
epsilon at most. -/
theorem strideDistances_spec (hlength : OnGrid pl.length.metres) (hgrid : OnGrid stride.metres)
    (hlong : Distance.epsilon < pl.length) (hleast : ⟨0.0001⟩ ≤ stride) :
    ∃ taken ds, pl.Strides stride Distance.zero taken ∧ ds = taken ++ [pl.length] ∧
      pl.strideDistances stride = .ok ds ∧
      2 ≤ ds.length ∧ ds.head? = some Distance.zero ∧ ds.getLast? = some pl.length ∧
      ds.Pairwise (· < ·) ∧
      ∀ i a b, ds[i]? = some a → ds[i + 1]? = some b →
        (i + 2 < ds.length → b.metres - a.metres = stride.metres) ∧
        (i + 2 = ds.length → Distance.epsilon.metres < b.metres - a.metres ∧
          b.metres - a.metres ≤ stride.metres + Distance.epsilon.metres) := by
  have hstride : 0 < stride.metres := pos_of_tick_le hleast
  obtain ⟨hstrides, hds⟩ := strideDistances_eq hstride hlength hgrid
  have hcount : 0 < strideCount pl stride := by
    rw [lt_strideCount hstride, Nat.cast_zero, zero_mul]
    exact sub_pos.mpr hlong
  have hsize : (multiples stride 0 (strideCount pl stride) ++ [pl.length]).length =
      strideCount pl stride + 1 := by
    rw [List.length_append, length_multiples, List.length_singleton]
  refine ⟨_, _, hstrides, rfl, hds, by omega, ?_, List.getLast?_concat, pairwise_multiples hstride,
    ?_⟩
  · rw [List.head?_eq_getElem?, List.getElem?_append_left (by rwa [length_multiples]),
      getElem?_multiples hcount, Nat.zero_add, Nat.cast_zero, zero_mul, distance_zero]
  intro i a b ha hb
  obtain ⟨rfl, ⟨hmiddle, rfl⟩ | ⟨hend, rfl⟩⟩ := next_of_multiples ha hb
  · refine ⟨fun _ => ?_, fun h => by omega⟩
    push_cast
    ring
  · -- a stride was taken from the last multiple, and none from the place it leads to
    have hbefore : i < strideCount pl stride := by omega
    have hafter : ¬ i + 1 < strideCount pl stride := by omega
    rw [lt_strideCount hstride] at hbefore hafter
    push_cast at hafter
    exact ⟨fun h => by omega, fun _ => ⟨by linarith, by linarith⟩⟩

/-- A straight way of a centimetre more than six metres. -/
def sixMetres : Polyline (FourPlaces rationals) := ⟨[⟨0, 0⟩, ⟨6.01, 0⟩], ⟨6.01⟩⟩

/-- The second stride of three metres leads to an epsilon from the end, so the last gap is an epsilon
longer than a stride. -/
theorem strideDistances_spec_sixMetres :
    ofPoints sixMetres.points = .ok sixMetres ∧
      sixMetres.strideDistances ⟨3⟩ = .ok [⟨0⟩, ⟨3⟩, ⟨6.01⟩] ∧
      ∃ taken, sixMetres.Strides ⟨3⟩ Distance.zero taken ∧ taken.length = 2 := by
  have hmade : ofPoints sixMetres.points = .ok sixMetres := by decide +kernel
  have hlisted : sixMetres.strideDistances ⟨3⟩ = .ok [⟨0⟩, ⟨3⟩, ⟨6.01⟩] := by decide +kernel
  have hlength : OnGrid sixMetres.length.metres := ⟨60100, by decide +kernel⟩
  have hgrid : OnGrid (⟨3⟩ : Distance (FourPlaces rationals)).metres :=
    ⟨30000, by decide +kernel⟩
  obtain ⟨taken, ds, htaken, rfl, hds, -⟩ :=
    strideDistances_spec hlength hgrid (by decide +kernel) (by decide +kernel)
  have hsize := congrArg List.length (Except.ok.inj (hlisted.symm.trans hds))
  rw [List.length_append, List.length_singleton] at hsize
  exact ⟨hmade, hlisted, taken, htaken, (Nat.succ.inj hsize).symm⟩

end Polyline

end Crossing
