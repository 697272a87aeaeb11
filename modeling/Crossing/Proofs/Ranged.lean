import Crossing.Proofs.FourPlaces

/-!
# Numbers of a limited range

Doubles have a largest finite number, and a result past it is infinite.  `Ranged` is the arithmetic
of rational numbers with this property and no other: up to the largest number sums, products and
quotients are exact.  From an infinity further ones can come, and what has no answer, such as the
difference of two equal ones, is `undefined`; that compares with nothing.  Zero has no sign.

**Rounding to four places** goes through the number ten thousand times as large, as it does for
doubles.  That one is infinite as soon as the number is past a ten-thousandth of the range, the
`limit`, and then so is the rounded number (`quantize_past`).  Up to the limit rounding gives the
nearest multiple of a ten-thousandth (`quantize_number`), which is within the limit too.  A multiple
of a ten-thousandth within the limit is `Trimmed`; quotients of trimmed numbers are finite
(`Trimmed.isFinite_div`).
-/

namespace Crossing

/-- The largest finite number of doubles.  It is not to be computed while types are checked. -/
@[irreducible]
def largest : ℚ := ((Nat.pow 2 53 - 1) * Nat.pow 2 971 : ℕ)

/-- The largest number whose ten-thousandfold is finite. -/
def limit : ℚ := largest / 10000

lemma exists_largest_eq : ∃ n : ℤ, largest = n := by
  rw [largest]
  exact ⟨_, (Int.cast_natCast _).symm⟩

lemma tenThousand_le_largest : |(10000 : ℚ)| ≤ largest := by decide +kernel

lemma largest_nonneg : 0 ≤ largest := (abs_nonneg _).trans tenThousand_le_largest

lemma limit_le_largest : limit ≤ largest := by
  have := largest_nonneg
  rw [limit]
  linarith

lemma onGrid_limit : OnGrid limit := exists_largest_eq.imp fun n hn => by rw [limit, hn]

/-- Rounding to a whole number does not leave the range. -/
lemma abs_nearestInt_le {x : ℚ} (h : |x| ≤ largest) : |(nearestInt x : ℚ)| ≤ largest := by
  obtain ⟨n, hn⟩ := exists_largest_eq
  rw [hn, abs_le] at h ⊢
  have hbelow := nearestInt_mono h.1
  have habove := nearestInt_mono h.2
  rw [← Int.cast_neg, nearestInt_intCast] at hbelow
  rw [nearestInt_intCast] at habove
  exact ⟨by exact_mod_cast hbelow, by exact_mod_cast habove⟩

/-- Rounding to the grid does not leave the limit. -/
lemma abs_toGrid_le {x : ℚ} (h : |x| ≤ limit) : |toGrid x| ≤ limit := by
  rw [abs_le] at h ⊢
  have hneg : OnGrid (-limit) := by simpa using onGrid_zero.sub onGrid_limit
  have hbelow := toGrid_mono h.1
  have habove := toGrid_mono h.2
  rw [hneg.toGrid_eq] at hbelow
  rw [onGrid_limit.toGrid_eq] at habove
  exact ⟨hbelow, habove⟩

/-! ## The numbers -/

/-- **Rational numbers of a limited range**, with the two infinities past it and the result that is
no number. -/
inductive Ranged (f : Functions ℚ) where
  | number (x : ℚ) (h : |x| ≤ largest)
  | infinite (negative : Bool)
  | undefined
  deriving DecidableEq

namespace Ranged

variable {f : Functions ℚ}

/-- A rational number, infinite when it is past the range. -/
def ofRat (x : ℚ) : Ranged f := if h : |x| ≤ largest then .number x h else .infinite (x < 0)

def tenThousand : Ranged f := .number 10000 tenThousand_le_largest

def isFinite : Ranged f → Bool
  | .number _ _ => true
  | .infinite _ | .undefined => false

protected def neg : Ranged f → Ranged f
  | .number x h => .number (-x) ((abs_neg x).trans_le h)
  | .infinite negative => .infinite !negative
  | .undefined => .undefined

protected def add : Ranged f → Ranged f → Ranged f
  | .number x _, .number y _ => ofRat (x + y)
  | .number _ _, .infinite negative | .infinite negative, .number _ _ => .infinite negative
  | .infinite a, .infinite b => if a = b then .infinite a else .undefined
  | .undefined, _ | _, .undefined => .undefined

protected def mul : Ranged f → Ranged f → Ranged f
  | .number x _, .number y _ => ofRat (x * y)
  | .number x _, .infinite negative | .infinite negative, .number x _ =>
    if x = 0 then .undefined else .infinite (negative != decide (x < 0))
  | .infinite a, .infinite b => .infinite (a != b)
  | .undefined, _ | _, .undefined => .undefined

protected def div : Ranged f → Ranged f → Ranged f
  | .number x _, .number y _ =>
    if y = 0 then if x = 0 then .undefined else .infinite (x < 0) else ofRat (x / y)
  | .number _ _, .infinite _ => ofRat 0
  | .infinite negative, .number y _ => .infinite (negative != decide (y < 0))
  | .infinite _, .infinite _ | .undefined, _ | _, .undefined => .undefined

def isLess : Ranged f → Ranged f → Bool
  | .number x _, .number y _ => x < y
  | .number _ _, .infinite negative => !negative
  | .infinite negative, .number _ _ => negative
  | .infinite a, .infinite b => a && !b
  | .undefined, _ | _, .undefined => false

def isAtMost : Ranged f → Ranged f → Bool
  | .number x _, .number y _ => x ≤ y
  | .number _ _, .infinite negative => !negative
  | .infinite negative, .number _ _ => negative
  | .infinite a, .infinite b => a || !b
  | .undefined, _ | _, .undefined => false

/-- The nearest whole number. -/
def whole : Ranged f → Ranged f
  | .number x _ => ofRat (nearestInt x)
  | other => other

/-- Four decimal places. -/
def quantize (x : Ranged f) : Ranged f := (x.mul tenThousand).whole.div tenThousand

/-- A function that is told for finite numbers alone. -/
def apply (g : ℚ → ℚ) : Ranged f → Ranged f
  | .number x _ => ofRat (g x)
  | .infinite _ | .undefined => .undefined

/-- A function of two numbers that is told for finite numbers alone. -/
def apply₂ (g : ℚ → ℚ → ℚ) : Ranged f → Ranged f → Ranged f
  | .number x _, .number y _ => ofRat (g x y)
  | _, _ => .undefined

/-- The root of a number that has one. -/
def sqrt : Ranged f → Ranged f
  | .number x _ => if x < 0 then .undefined else ofRat (f.root x)
  | .infinite negative => if negative then .undefined else .infinite false
  | .undefined => .undefined

/-- A count that is told for finite numbers alone, as far as there are counts. -/
def count (g : ℚ → ℕ) : Ranged f → ℕ
  | .number x _ => min (g x) (2 ^ 64 - 1)
  | .infinite negative => if negative then 0 else 2 ^ 64 - 1
  | .undefined => 0

instance : Sub (Ranged f) := ⟨fun a b => a.add b.neg⟩

instance : Mul (Ranged f) := ⟨Ranged.mul⟩

instance : LT (Ranged f) := ⟨fun a b => a.isLess b = true⟩

instance : DecidableLT (Ranged f) := fun a b => instDecidableEqBool (a.isLess b) true

instance : Scalar (Ranged f) where
  add := Ranged.add
  div := Ranged.div
  neg := Ranged.neg
  le a b := a.isAtMost b = true
  ofScientific mantissa negative exponent :=
    ofRat (OfScientific.ofScientific mantissa negative exponent)
  decidableLT := inferInstance
  decidableLE a b := instDecidableEqBool (a.isAtMost b) true
  ofNat n := ofRat n
  isFinite := isFinite
  quantize := quantize
  sqrt := sqrt
  sin := apply f.sin
  cos := apply f.cos
  atan2 := apply₂ f.atan2
  pi := ofRat f.pi
  modulo := apply₂ fun x m => x - m * ⌊x / m⌋
  ceilNat := count fun x => ⌈x⌉₊
  floorNat := count fun x => ⌊x⌋₊
  turn := Scalar.exactTurn

/-! ## Finite numbers -/

variable {x : ℚ} {a b : Ranged f}

lemma ofRat_of_le (h : |x| ≤ largest) : (ofRat x : Ranged f) = .number x h := dif_pos h

lemma ofRat_of_lt (h : largest < |x|) : (ofRat x : Ranged f) = .infinite (x < 0) :=
  dif_neg h.not_ge

lemma div_number {y : ℚ} (hx : |x| ≤ largest) (hy : |y| ≤ largest) (hzero : y ≠ 0) :
    (.number x hx : Ranged f).div (.number y hy) = ofRat (x / y) := if_neg hzero

lemma isFinite_iff : a.isFinite = true ↔ ∃ x h, a = .number x h := by
  cases a with
  | number x h => exact iff_of_true rfl ⟨x, h, rfl⟩
  | infinite negative => exact iff_of_false nofun nofun
  | undefined => exact iff_of_false nofun nofun

lemma zero_eq : (0.0 : Ranged f) = .number 0 (abs_zero.trans_le largest_nonneg) := by
  have hzero : (0.0 : Ranged f) = ofRat (0.0 : ℚ) := rfl
  have hliteral : (0.0 : ℚ) = 0 := by norm_num
  rw [hzero, hliteral, ofRat_of_le]

lemma isZero_iff {h : |x| ≤ largest} :
    Scalar.isZero (.number x h : Ranged f) = true ↔ x = 0 := by
  rw [Scalar.isZero, zero_eq, le_antisymm_iff (a := x)]
  show (decide (decide (x ≤ 0) = true) && decide (decide (0 ≤ x) = true)) = true ↔ x ≤ 0 ∧ 0 ≤ x
  simp only [Bool.and_eq_true, decide_eq_true_eq]

/-- Any two numbers compare, infinities among them. -/
lemma isAtMost_total (ha : a ≠ .undefined) (hb : b ≠ .undefined) : a ≤ b ∨ b ≤ a := by
  show a.isAtMost b = true ∨ b.isAtMost a = true
  cases a with
  | undefined => exact absurd rfl ha
  | number x _ =>
      cases b with
      | undefined => exact absurd rfl hb
      | number y _ => simpa [isAtMost] using le_total x y
      | infinite negative => cases negative <;> simp [isAtMost]
  | infinite negative =>
      cases b with
      | undefined => exact absurd rfl hb
      | number y _ => cases negative <;> simp [isAtMost]
      | infinite negative' => cases negative <;> cases negative' <;> simp [isAtMost]

lemma neg_ne_undefined (ha : a ≠ .undefined) : -a ≠ .undefined := by
  cases a with
  | number x h => nofun
  | infinite negative => nofun
  | undefined => exact absurd rfl ha

lemma isFinite_neg (ha : a.isFinite = true) : (-a).isFinite = true := by
  obtain ⟨x, h, rfl⟩ := isFinite_iff.mp ha
  rfl

lemma zero_sub_eq : (0.0 : Ranged f) - a = -a := by
  rw [zero_eq]
  cases a with
  | number x h =>
      show ofRat (0 + -x) = .number (-x) _
      rw [zero_add, ofRat_of_le]
  | infinite negative => rfl
  | undefined => rfl

lemma magnitude_eq : Scalar.magnitude a = a ∨ Scalar.magnitude a = -a := by
  unfold Scalar.magnitude
  split
  · exact Or.inr zero_sub_eq
  · exact Or.inl rfl

/-! ## Rounding to four places -/

/-- **Within the limit rounding gives the nearest number on the grid.** -/
lemma quantize_number (hx : |x| ≤ limit) (h : |x| ≤ largest) :
    quantize (.number x h : Ranged f) =
      .number (toGrid x) ((abs_toGrid_le hx).trans limit_le_largest) := by
  have hscaled : |x * 10000| ≤ largest := by
    rw [limit, le_div_iff₀ (by norm_num)] at hx
    rwa [abs_mul, abs_of_pos (by norm_num : (0 : ℚ) < 10000)]
  calc quantize (.number x h : Ranged f) = ((ofRat (x * 10000) : Ranged f).whole).div tenThousand :=
        rfl
    _ = (ofRat (nearestInt (x * 10000)) : Ranged f).div tenThousand := by
        rw [ofRat_of_le hscaled]
        rfl
    _ = ofRat (toGrid x) := by
        rw [ofRat_of_le (abs_nearestInt_le hscaled), tenThousand, div_number _ _ (by norm_num)]
        rfl
    _ = .number (toGrid x) _ := ofRat_of_le _

/-- **Past the limit it gives an infinity.** -/
lemma quantize_past (hx : limit < |x|) (h : |x| ≤ largest) :
    quantize (.number x h : Ranged f) = .infinite (x < 0) := by
  have hscaled : largest < |x * 10000| := by
    rw [limit, div_lt_iff₀ (by norm_num)] at hx
    rwa [abs_mul, abs_of_pos (by norm_num : (0 : ℚ) < 10000)]
  have hsign : x * 10000 < 0 ↔ x < 0 := by
    constructor <;> intro h <;> linarith
  calc quantize (.number x h : Ranged f) = ((ofRat (x * 10000) : Ranged f).whole).div tenThousand :=
        rfl
    _ = (.infinite (x * 10000 < 0) : Ranged f).whole.div tenThousand := by
        rw [ofRat_of_lt hscaled]
    _ = .infinite (decide (x * 10000 < 0) != decide ((10000 : ℚ) < 0)) := rfl
    _ = .infinite (x < 0) := by norm_num [hsign]

/-- The number is finite, and at most so far from zero. -/
def Within (bound : ℚ) : Ranged f → Prop
  | .number x _ => |x| ≤ bound
  | .infinite _ | .undefined => False

/-- **A number is finite after rounding exactly if it was within the limit.** -/
lemma isFinite_quantize (ha : a.isFinite = true) :
    (quantize a).isFinite = true ↔ a.Within limit := by
  obtain ⟨x, h, rfl⟩ := isFinite_iff.mp ha
  rcases le_or_gt |x| limit with hx | hx
  · rw [quantize_number hx]
    exact iff_of_true rfl hx
  · rw [quantize_past hx]
    exact iff_of_false nofun (not_le.mpr hx)

lemma quantize_ne_undefined (ha : a.isFinite = true) : quantize a ≠ .undefined := by
  obtain ⟨x, h, rfl⟩ := isFinite_iff.mp ha
  rcases le_or_gt |x| limit with hx | hx
  · rw [quantize_number hx]
    nofun
  · rw [quantize_past hx]
    nofun

/-! ## Trimmed numbers -/

/-- **The number is a multiple of a ten-thousandth within the limit.** -/
def Trimmed (a : Ranged f) : Prop := ∃ x h, a = .number x h ∧ OnGrid x ∧ |x| ≤ limit

lemma trimmed_number (hgrid : OnGrid x) (hx : |x| ≤ limit) (h : |x| ≤ largest) :
    (.number x h : Ranged f).Trimmed := ⟨x, h, rfl, hgrid, hx⟩

lemma trimmed_zero : (Distance.zero : Distance (Ranged f)).metres.Trimmed := by
  have hzero : |(0 : ℚ)| ≤ limit := by
    rw [abs_zero, limit]
    exact div_nonneg largest_nonneg (by norm_num)
  exact ⟨0, _, zero_eq, onGrid_zero, hzero⟩

lemma trimmed_quantize (ha : a.Within limit) : (quantize a).Trimmed := by
  cases a with
  | number x h =>
      rw [quantize_number ha]
      exact trimmed_number (onGrid_toGrid x) (abs_toGrid_le ha) _
  | infinite negative => cases ha
  | undefined => cases ha

namespace Trimmed

lemma isFinite (ha : a.Trimmed) : a.isFinite = true := by
  obtain ⟨x, h, rfl, -⟩ := ha
  rfl

lemma neg (ha : a.Trimmed) : (-a).Trimmed := by
  obtain ⟨x, h, rfl, hgrid, hx⟩ := ha
  have hgrid : OnGrid (-x) := by simpa using onGrid_zero.sub hgrid
  exact trimmed_number hgrid ((abs_neg x).trans_le hx) _

/-- **The quotient of trimmed numbers is finite.**  A divisor that is not zero is a ten-thousandth at
least, so the quotient is at most ten thousand times the limit. -/
lemma isFinite_div (ha : a.Trimmed) (hb : b.Trimmed) (hzero : ¬ Scalar.isZero b = true) :
    (a / b).isFinite = true := by
  obtain ⟨x, hx, rfl, -, hlimit⟩ := ha
  obtain ⟨y, hy, rfl, hgrid, -⟩ := hb
  rw [isZero_iff] at hzero
  have hleast : 1 / 10000 ≤ |y| := hgrid.abs.le_of_pos (abs_pos.mpr hzero)
  have hquotient : |x / y| ≤ largest := by
    rw [abs_div, div_le_iff₀ (abs_pos.mpr hzero)]
    calc |x| ≤ limit := hlimit
      _ = largest * (1 / 10000) := by rw [limit, mul_one_div]
      _ ≤ largest * |y| := mul_le_mul_of_nonneg_left hleast largest_nonneg
  show ((.number x hx : Ranged f).div (.number y hy)).isFinite = true
  rw [div_number hx hy hzero, ofRat_of_le hquotient]
  rfl

end Trimmed

end Ranged

end Crossing
