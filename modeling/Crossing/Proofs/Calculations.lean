import Crossing.Quantity
import Crossing.Proofs.Outcome
import Crossing.Proofs.Ranged

/-!
# Calculations with quantities

Distances, durations and speeds can be made, added, scaled, divided and taken apart in any order.  A
`Calculation` is what came of doing so: a history of operations that all had a result, each on
amounts that were there before it.  Plain numbers that an operation takes may be any.

`Operates` lists the operations, and with each says which number it came to and how that number was
treated.  Most operations demand that it be finite and round it, in this order (`Operates.rounds`).
Constants are taken on trust.  Absolute values, the numbers inside quantities and quotients are taken
as they come.  A sum of several distances is not in the list, as it is a row of additions
(`Calculation.exists_sum`).

With numbers of a limited range the order of the two steps shows.  A finite number past the limit
passes the demand and is infinite when it has been rounded.  So not all calculations stay finite; the
quantities of one do exactly if no number past the limit was to be rounded (`Calculation.finite_iff`).
Whatever holds of rounded numbers and of constants, and of the opposite of a number with the number,
holds of all quantities (`Calculation.forall_quantity`).  That they are finite within the limit is
such a property, and so is that they are trimmed.  That they are not undefined is one with or without
the limit, so any two compare.
-/

namespace Crossing

/-- **What an operation gives**: a quantity or a plain number. -/
inductive Amount (K : Type) where
  | distance (d : Distance K)
  | duration (t : Duration K)
  | speed (v : Speed K)
  | plain (x : K)

namespace Amount

variable {K : Type}

def number : Amount K → K
  | distance d => d.metres
  | duration t => t.seconds
  | speed v => v.metresPerSecond
  | plain x => x

def isPlain : Amount K → Bool
  | distance _ | duration _ | speed _ => false
  | plain _ => true

end Amount

/-- How an operation treats the number that it comes to. -/
inductive Treatment where
  /-- The number has to be finite, and is rounded. -/
  | rounded
  /-- The number is that of a constant, which is not looked at. -/
  | trusted
  /-- The number comes from amounts that were there, and is kept as it is. -/
  | kept
  deriving DecidableEq

section Operations

variable {K : Type} [Scalar K]

/-- **The operations on quantities**, each with how it treats the number that it comes to, with that
number and with the amount that it gives.  Quantities that it works on are among those given. -/
inductive Operates (given : List (Amount K)) : Treatment → K → Amount K → Prop
  | ofMetres {x d} (h : Distance.ofMetres x = .ok d) : Operates given .rounded x (.distance d)
  | ofSeconds {x t} (h : Duration.ofSeconds x = .ok t) : Operates given .rounded x (.duration t)
  | ofMetresPerSecond {x v} (h : Speed.ofMetresPerSecond x = .ok v) :
      Operates given .rounded x (.speed v)
  | ofKilometresPerHour {x v} (h : Speed.ofKilometresPerHour x = .ok v) :
      Operates given .rounded (0.277778 * x) (.speed v)
  | constantDistance (d) : Operates given .trusted d.metres (.distance d)
  | constantDuration (t) : Operates given .trusted t.seconds (.duration t)
  | constantSpeed (v) : Operates given .trusted v.metresPerSecond (.speed v)
  | addDistances {a b d} (ha : .distance a ∈ given) (hb : .distance b ∈ given)
      (h : a.add b = .ok d) : Operates given .rounded (a.metres + b.metres) (.distance d)
  | addDurations {a b t} (ha : .duration a ∈ given) (hb : .duration b ∈ given)
      (h : a.add b = .ok t) : Operates given .rounded (a.seconds + b.seconds) (.duration t)
  | addSpeeds {a b v} (ha : .speed a ∈ given) (hb : .speed b ∈ given) (h : a.add b = .ok v) :
      Operates given .rounded (a.metresPerSecond + b.metresPerSecond) (.speed v)
  | subDistances {a b d} (ha : .distance a ∈ given) (hb : .distance b ∈ given)
      (h : a.sub b = .ok d) : Operates given .rounded (a.metres - b.metres) (.distance d)
  | subDurations {a b t} (ha : .duration a ∈ given) (hb : .duration b ∈ given)
      (h : a.sub b = .ok t) : Operates given .rounded (a.seconds - b.seconds) (.duration t)
  | subSpeeds {a b v} (ha : .speed a ∈ given) (hb : .speed b ∈ given) (h : a.sub b = .ok v) :
      Operates given .rounded (a.metresPerSecond - b.metresPerSecond) (.speed v)
  | negDistance {a d} (ha : .distance a ∈ given) (h : a.neg = .ok d) :
      Operates given .rounded (-a.metres) (.distance d)
  | negSpeed {a v} (ha : .speed a ∈ given) (h : a.neg = .ok v) :
      Operates given .rounded (-a.metresPerSecond) (.speed v)
  | scaleDistance {a d} (k : K) (ha : .distance a ∈ given) (h : a.scale k = .ok d) :
      Operates given .rounded (a.metres * k) (.distance d)
  | scaleDuration {a t} (k : K) (ha : .duration a ∈ given) (h : a.scale k = .ok t) :
      Operates given .rounded (a.seconds * k) (.duration t)
  | scaleSpeed {a v} (k : K) (ha : .speed a ∈ given) (h : a.scale k = .ok v) :
      Operates given .rounded (a.metresPerSecond * k) (.speed v)
  | shrinkDistance {a d} (k : K) (ha : .distance a ∈ given) (h : a.shrink k = .ok d) :
      Operates given .rounded (a.metres / k) (.distance d)
  | shrinkSpeed {a v} (k : K) (ha : .speed a ∈ given) (h : a.shrink k = .ok v) :
      Operates given .rounded (a.metresPerSecond / k) (.speed v)
  | during {v t d} (hv : .speed v ∈ given) (ht : .duration t ∈ given) (h : v.during t = .ok d) :
      Operates given .rounded (v.metresPerSecond * t.seconds) (.distance d)
  | timeFor {v d t} (hv : .speed v ∈ given) (hd : .distance d ∈ given) (h : v.timeFor d = .ok t) :
      Operates given .rounded (d.metres / v.metresPerSecond) (.duration t)
  | absDistance {a} (ha : .distance a ∈ given) : Operates given .kept a.abs.metres (.distance a.abs)
  | absSpeed {a} (ha : .speed a ∈ given) : Operates given .kept a.abs.metresPerSecond (.speed a.abs)
  | metres {a} (ha : .distance a ∈ given) : Operates given .kept a.metres (.plain a.metres)
  | seconds {a} (ha : .duration a ∈ given) : Operates given .kept a.seconds (.plain a.seconds)
  | metresPerSecond {a} (ha : .speed a ∈ given) :
      Operates given .kept a.metresPerSecond (.plain a.metresPerSecond)
  | ratioOfDistances {a b x} (ha : .distance a ∈ given) (hb : .distance b ∈ given)
      (h : a.ratio b = .ok x) : Operates given .kept x (.plain x)
  | ratioOfDurations {a b x} (ha : .duration a ∈ given) (hb : .duration b ∈ given)
      (h : a.ratio b = .ok x) : Operates given .kept x (.plain x)
  | fractionOf {a b} (ha : .distance a ∈ given) (hb : .distance b ∈ given) :
      Operates given .kept (a.fractionOf b) (.plain (a.fractionOf b))

/-- What is remembered of an operation. -/
structure Entry (K : Type) where
  treatment : Treatment
  number : K
  amount : Amount K

/-- **A sequence of operations that all had a result**, the last one first. -/
inductive Calculation : List (Entry K) → Prop
  | start : Calculation []
  | next {history : List (Entry K)} {treatment : Treatment} {x : K} {a : Amount K}
      (before : Calculation history) (h : Operates (history.map Entry.amount) treatment x a) :
      Calculation (⟨treatment, x, a⟩ :: history)

/-! ## Rounding -/

section Rounding

variable {x : K}

lemma Distance.rounds_of_ofMetres {d : Distance K} (h : ofMetres x = .ok d) :
    Scalar.isFinite x = true ∧ d.metres = Scalar.quantize x :=
  (Outcome.of_condition h).imp_right (congrArg metres)

lemma Duration.rounds_of_ofSeconds {t : Duration K} (h : ofSeconds x = .ok t) :
    Scalar.isFinite x = true ∧ t.seconds = Scalar.quantize x :=
  (Outcome.of_condition h).imp_right (congrArg seconds)

lemma Speed.rounds_of_ofMetresPerSecond {v : Speed K} (h : ofMetresPerSecond x = .ok v) :
    Scalar.isFinite x = true ∧ v.metresPerSecond = Scalar.quantize x :=
  (Outcome.of_condition h).imp_right (congrArg metresPerSecond)

end Rounding

variable {given : List (Amount K)} {treatment : Treatment} {x : K} {a : Amount K}

/-- **A number is rounded only if it is finite.** -/
lemma Operates.rounds (h : Operates given .rounded x a) :
    Scalar.isFinite x = true ∧ a.number = Scalar.quantize x := by
  cases h with
  | ofMetres h | addDistances _ _ h | subDistances _ _ h | negDistance _ h | scaleDistance _ _ h
  | during _ _ h => exact Distance.rounds_of_ofMetres h
  | ofSeconds h | addDurations _ _ h | subDurations _ _ h | scaleDuration _ _ h =>
      exact Duration.rounds_of_ofSeconds h
  | ofMetresPerSecond h | ofKilometresPerHour h | addSpeeds _ _ h | subSpeeds _ _ h | negSpeed _ h
  | scaleSpeed _ _ h => exact Speed.rounds_of_ofMetresPerSecond h
  | shrinkDistance _ _ h => exact Distance.rounds_of_ofMetres (Outcome.of_guard h).2
  | shrinkSpeed _ _ h => exact Speed.rounds_of_ofMetresPerSecond (Outcome.of_guard h).2
  | timeFor _ _ h => exact Duration.rounds_of_ofSeconds (Outcome.of_guard h).2

/-- Constants are stored as they are. -/
lemma Operates.number_eq (h : Operates given .trusted x a) : a.number = x := by
  cases h <;> rfl

/-- Plain numbers are not rounded. -/
lemma Operates.isPlain_rounded (h : Operates given .rounded x a) : a.isPlain = false := by
  cases h <;> rfl

/-! ## Sums -/

variable {history : List (Entry K)}

/-- Distances that are there are added to another one by additions. -/
lemma Calculation.exists_additions {ds : List (Distance K)} {d total : Distance K}
    (h : Calculation history) (hd : .distance d ∈ history.map Entry.amount)
    (hds : ∀ e ∈ ds, .distance e ∈ history.map Entry.amount)
    (hsum : ds.foldlM Distance.add d = .ok total) :
    ∃ more, Calculation (more ++ history) ∧ (∀ e ∈ more, e.treatment = .rounded) ∧
      .distance total ∈ (more ++ history).map Entry.amount := by
  induction ds generalizing d history with
  | nil =>
      cases hsum
      exact ⟨[], h, nofun, hd⟩
  | cons e ds ih =>
      rw [List.foldlM_cons] at hsum
      obtain ⟨next, hadd, hsum⟩ := Outcome.bind_eq_ok.mp hsum
      rw [List.forall_mem_cons] at hds
      have hnext := Calculation.next h (.addDistances hd hds.1 hadd)
      obtain ⟨more, hmore, hrounded, htotal⟩ := ih hnext List.mem_cons_self
        (fun e he => List.mem_cons_of_mem _ (hds.2 e he)) hsum
      refine ⟨more ++ [⟨.rounded, d.metres + e.metres, .distance next⟩], ?_, ?_, ?_⟩
      · rwa [List.append_assoc]
      · rw [List.forall_mem_append, List.forall_mem_singleton]
        exact ⟨hrounded, rfl⟩
      · rwa [List.append_assoc]

/-- **A sum is a row of additions** that begins with the distance zero. -/
lemma Calculation.exists_sum {ds : List (Distance K)} {total : Distance K}
    (h : Calculation history) (hds : ∀ d ∈ ds, .distance d ∈ history.map Entry.amount)
    (hsum : Distance.sum ds = .ok total) :
    ∃ more, Calculation (more ++ history) ∧
      (∀ e ∈ more, e.treatment = .rounded ∨ e.number = (Distance.zero : Distance K).metres) ∧
      .distance total ∈ (more ++ history).map Entry.amount := by
  have hzero := Calculation.next h (.constantDistance Distance.zero)
  obtain ⟨more, hmore, hrounded, htotal⟩ := hzero.exists_additions List.mem_cons_self
    (fun d hd => List.mem_cons_of_mem _ (hds d hd)) hsum
  refine ⟨more ++ [⟨.trusted, Distance.zero.metres, .distance Distance.zero⟩], ?_, ?_, ?_⟩
  · rwa [List.append_assoc]
  · rw [List.forall_mem_append, List.forall_mem_singleton]
    exact ⟨fun e he => Or.inl (hrounded e he), Or.inr rfl⟩
  · rwa [List.append_assoc]

/-! ## Entries -/

/-- An entry remembers an operation. -/
lemma Calculation.exists_operates (h : Calculation history) {e : Entry K} (he : e ∈ history) :
    ∃ given, Operates given e.treatment e.number e.amount := by
  induction h with
  | start => cases he
  | next before hoperates ih =>
      rcases List.mem_cons.mp he with rfl | he
      · exact ⟨_, hoperates⟩
      · exact ih he

/-- A number that was rounded was finite, and became that of a quantity. -/
lemma Calculation.rounds (h : Calculation history) {e : Entry K} (he : e ∈ history)
    (htreatment : e.treatment = .rounded) :
    Scalar.isFinite e.number = true ∧ e.amount.number = Scalar.quantize e.number ∧
      e.amount.isPlain = false := by
  obtain ⟨given, hoperates⟩ := h.exists_operates he
  rw [htreatment] at hoperates
  exact ⟨hoperates.rounds.1, hoperates.rounds.2, hoperates.isPlain_rounded⟩

end Operations

/-! ## Numbers of a limited range -/

section Range

open Ranged

variable {f : Functions ℚ} {given : List (Amount (Ranged f))} {treatment : Treatment} {x : Ranged f}
  {a : Amount (Ranged f)} {history : List (Entry (Ranged f))}

lemma Distance.abs_metres (d : Distance (Ranged f)) :
    d.abs.metres = d.metres ∨ d.abs.metres = -d.metres := by
  unfold Distance.abs
  split
  · exact Or.inl rfl
  · exact Or.inr rfl

/-- A quantity that is kept is one that was given, or its opposite. -/
lemma Operates.exists_given (h : Operates given .kept x a) (hplain : a.isPlain = false) :
    ∃ b ∈ given, b.isPlain = false ∧ (a.number = b.number ∨ a.number = -b.number) := by
  cases h with
  | absDistance ha => exact ⟨_, ha, rfl, Distance.abs_metres _⟩
  | absSpeed ha => exact ⟨_, ha, rfl, magnitude_eq⟩
  | metres _ | seconds _ | metresPerSecond _ | ratioOfDistances _ _ _ | ratioOfDurations _ _ _
  | fractionOf _ _ => cases hplain

/-- **Plain numbers come from quantities**, as their numbers and quotients. -/
lemma Operates.isFinite_of_plain (h : Operates given treatment x a) (hplain : a.isPlain = true)
    (hgiven : ∀ b ∈ given, b.isPlain = false → b.number.Trimmed) : a.number.isFinite = true := by
  cases h with
  | metres ha | seconds ha | metresPerSecond ha => exact (hgiven _ ha rfl).isFinite
  | ratioOfDistances ha hb h | ratioOfDurations ha hb h =>
      obtain ⟨hzero, hx⟩ := Outcome.of_guard h
      cases hx
      exact (hgiven _ ha rfl).isFinite_div (hgiven _ hb rfl) hzero
  | @fractionOf d e ha hb =>
      show (d.fractionOf e).isFinite = true
      unfold Distance.fractionOf
      split
      · rw [zero_eq]
        rfl
      · next hzero => exact (hgiven _ ha rfl).isFinite_div (hgiven _ hb rfl) hzero
  | _ => cases hplain

namespace Calculation

/-- **What holds of rounded numbers, of constants and of opposites holds of all quantities.** -/
lemma forall_quantity (p : Ranged f → Prop) (hneg : ∀ y, p y → p (-y)) (h : Calculation history)
    (hrounded : ∀ e ∈ history, e.treatment = .rounded → p (quantize e.number))
    (htrusted : ∀ e ∈ history, e.treatment = .trusted → p e.number) :
    ∀ e ∈ history, e.amount.isPlain = false → p e.amount.number := by
  induction h with
  | start => nofun
  | @next history treatment x a before h ih =>
      rw [List.forall_mem_cons] at hrounded htrusted
      have hgiven := ih hrounded.2 htrusted.2
      rw [List.forall_mem_cons]
      refine ⟨fun hplain => ?_, hgiven⟩
      cases treatment with
      | rounded =>
          rw [h.rounds.2]
          exact hrounded.1 rfl
      | trusted =>
          rw [h.number_eq]
          exact htrusted.1 rfl
      | kept =>
          obtain ⟨b, hb, hplain, heq⟩ := h.exists_given hplain
          obtain ⟨e, he, rfl⟩ := List.mem_map.mp hb
          have hp := hgiven e he hplain
          rcases heq with heq | heq
          · rwa [heq]
          · rw [heq]
            exact hneg _ hp

/-- The constants of the calculation are finite. -/
def TrustsFinite (history : List (Entry (Ranged f))) : Prop :=
  ∀ e ∈ history, e.treatment = .trusted → e.number.isFinite = true

/-- The constants of the calculation are trimmed. -/
def TrustsTrimmed (history : List (Entry (Ranged f))) : Prop :=
  ∀ e ∈ history, e.treatment = .trusted → e.number.Trimmed

/-- The calculation rounds no number past the limit. -/
def StaysWithin (history : List (Entry (Ranged f))) : Prop :=
  ∀ e ∈ history, e.treatment = .rounded → e.number.Within limit

/-- Within the limit quantities are finite. -/
lemma isFinite_quantity (h : Calculation history) (htrusted : TrustsFinite history)
    (hwithin : StaysWithin history) :
    ∀ e ∈ history, e.amount.isPlain = false → e.amount.number.isFinite = true :=
  h.forall_quantity (fun y => y.isFinite = true) (fun _ => isFinite_neg)
    (fun e he htreatment =>
      (isFinite_quantize (h.rounds he htreatment).1).mpr (hwithin e he htreatment))
    htrusted

/-- Within the limit quantities are trimmed if constants are. -/
lemma trimmed_quantity (h : Calculation history) (htrusted : TrustsTrimmed history)
    (hwithin : StaysWithin history) :
    ∀ e ∈ history, e.amount.isPlain = false → e.amount.number.Trimmed :=
  h.forall_quantity Trimmed (fun _ => Trimmed.neg)
    (fun e he htreatment => trimmed_quantize (hwithin e he htreatment)) htrusted

/-- **No quantity is undefined**, whatever is rounded. -/
lemma defined_quantity (h : Calculation history) (htrusted : TrustsFinite history) :
    ∀ e ∈ history, e.amount.isPlain = false → e.amount.number ≠ .undefined := by
  refine h.forall_quantity (fun y => y ≠ .undefined) (fun _ => neg_ne_undefined)
    (fun e he htreatment => quantize_ne_undefined (h.rounds he htreatment).1)
    fun e he htreatment => ?_
  obtain ⟨x, hx, heq⟩ := isFinite_iff.mp (htrusted e he htreatment)
  rw [heq]
  nofun

/-- Numbers taken from trimmed quantities are finite. -/
lemma isFinite_plain (h : Calculation history)
    (htrimmed : ∀ e ∈ history, e.amount.isPlain = false → e.amount.number.Trimmed) :
    ∀ e ∈ history, e.amount.isPlain = true → e.amount.number.isFinite = true := by
  induction h with
  | start => nofun
  | next before h ih =>
      rw [List.forall_mem_cons] at htrimmed ⊢
      exact ⟨fun hplain => h.isFinite_of_plain hplain (List.forall_mem_map.mpr htrimmed.2),
        ih htrimmed.2⟩

/-- **When calculations stay finite.**  Constants are finite; everything else may be any.

The quantities of a calculation are all finite exactly if no number past the limit was to be rounded.
What was to be rounded was finite every time: up to the limit it became the nearest number on the
grid, and past it an infinity.  No quantity became worse than infinite, so any two compare.  In a
calculation that stays within the limit and has trimmed constants, all quantities are trimmed, and
so the numbers and quotients taken from them are finite too.

The sum of several distances is made by additions with which the calculation goes on. -/
theorem finite_iff (h : Calculation history) (htrusted : TrustsFinite history) :
    ((∀ e ∈ history, e.amount.isPlain = false → e.amount.number.isFinite = true) ↔
        StaysWithin history) ∧
      (∀ e ∈ history, e.treatment = .rounded → ∃ x hx, e.number = .number x hx ∧
        (|x| ≤ limit → ∃ hgrid, e.amount.number = .number (toGrid x) hgrid) ∧
        (limit < |x| → e.amount.number = .infinite (x < 0))) ∧
      (∀ d ∈ history, ∀ e ∈ history, d.amount.isPlain = false → e.amount.isPlain = false →
        d.amount.number ≤ e.amount.number ∨ e.amount.number ≤ d.amount.number) ∧
      (TrustsTrimmed history → StaysWithin history → ∀ e ∈ history,
        (e.amount.isPlain = false → e.amount.number.Trimmed) ∧
        (e.amount.isPlain = true → e.amount.number.isFinite = true)) ∧
      ∀ ds total, (∀ d ∈ ds, .distance d ∈ history.map Entry.amount) →
        Distance.sum ds = .ok total →
        ∃ more, Calculation (more ++ history) ∧ TrustsTrimmed more ∧
          .distance total ∈ (more ++ history).map Entry.amount := by
  refine ⟨⟨fun hfinite e he htreatment => ?_, h.isFinite_quantity htrusted⟩, ?_, ?_, ?_, ?_⟩
  · obtain ⟨hnumber, hamount, hplain⟩ := h.rounds he htreatment
    have hrounded := hfinite e he hplain
    rw [hamount] at hrounded
    exact (isFinite_quantize hnumber).mp hrounded
  · intro e he htreatment
    obtain ⟨hnumber, hamount, -⟩ := h.rounds he htreatment
    obtain ⟨x, hx, heq⟩ := isFinite_iff.mp hnumber
    rw [heq] at hamount
    exact ⟨x, hx, heq, fun hin => ⟨_, hamount.trans (quantize_number hin hx)⟩,
      fun hpast => hamount.trans (quantize_past hpast hx)⟩
  · intro d hd e he hdplain heplain
    exact isAtMost_total (h.defined_quantity htrusted d hd hdplain)
      (h.defined_quantity htrusted e he heplain)
  · intro htrimmed hwithin e he
    have hquantity := h.trimmed_quantity htrimmed hwithin
    exact ⟨hquantity e he, h.isFinite_plain hquantity e he⟩
  · intro ds total hds hsum
    obtain ⟨more, hmore, hadded, htotal⟩ := h.exists_sum hds hsum
    refine ⟨more, hmore, fun e he htreatment => ?_, htotal⟩
    rcases hadded e he with hrounded | hzero
    · cases hrounded.symm.trans htreatment
    · rw [hzero]
      exact trimmed_zero

/-! ### Past the limit -/

/-- A distance within the limit, twice which is past it. -/
def far : Distance (Ranged rationals) := ⟨ofRat (17 * Nat.pow 10 303 : ℕ)⟩

/-- An epsilon, the distance, twice the distance, and how many times the epsilon goes into it. -/
def doubling : List (Entry (Ranged rationals)) :=
  [⟨.kept, far.metres / Distance.epsilon.metres, .plain (far.metres / Distance.epsilon.metres)⟩,
    ⟨.rounded, far.metres + far.metres, .distance ⟨.infinite false⟩⟩,
    ⟨.rounded, far.metres, .distance far⟩,
    ⟨.trusted, Distance.epsilon.metres, .distance Distance.epsilon⟩]

lemma calculation_doubling : Calculation doubling := by
  have hfar : Distance.ofMetres far.metres = .ok far := by decide +kernel
  have hdouble : far.add far = .ok ⟨.infinite false⟩ := by decide +kernel
  have hratio : far.ratio Distance.epsilon =
      .ok (far.metres / Distance.epsilon.metres) := by decide +kernel
  refine .next (.next (.next (.next .start (.constantDistance _)) (.ofMetres hfar))
    (.addDistances ?_ ?_ hdouble)) (.ratioOfDistances ?_ ?_ hratio)
  all_goals simp

lemma trustsFinite_doubling : TrustsFinite doubling := by
  have hepsilon : (Distance.epsilon : Distance (Ranged rationals)).metres.isFinite = true := by
    decide +kernel
  simp only [TrustsFinite, doubling, List.forall_mem_cons]
  exact ⟨nofun, nofun, nofun, fun _ => hepsilon, nofun⟩

/-- Twice the distance is a finite number past the limit, and the calculation does not stay finite. -/
theorem finite_iff_doubling :
    Calculation doubling ∧ TrustsFinite doubling ∧ ¬ StaysWithin doubling ∧
      ∃ x hx, far.metres + far.metres = .number x hx ∧ limit < |x| ∧
        far.add far = .ok ⟨.infinite (x < 0)⟩ := by
  obtain ⟨hiff, hrounds, -⟩ := finite_iff calculation_doubling trustsFinite_doubling
  have hsum : ⟨.rounded, far.metres + far.metres, .distance ⟨.infinite false⟩⟩ ∈ doubling := by
    simp [doubling]
  have hout : ¬ StaysWithin doubling := fun hwithin => nomatch hiff.mpr hwithin _ hsum rfl
  obtain ⟨x, hx, heq, hin, hpast⟩ := hrounds _ hsum rfl
  have hlimit : limit < |x| := by
    by_contra hle
    obtain ⟨hgrid, h⟩ := hin (not_lt.mp hle)
    cases h
  refine ⟨calculation_doubling, trustsFinite_doubling, hout, x, hx, heq, hlimit, ?_⟩
  rw [← hpast hlimit]
  decide +kernel

/-- A number of metres that is finite, and past the limit. -/
def tooFar : Ranged rationals := ofRat (Nat.pow 10 305 : ℕ)

/-- **Not all calculations stay finite**, even without constants. -/
theorem not_forall_isFinite : ¬ ∀ history : List (Entry (Ranged rationals)),
    Calculation history → (∀ e ∈ history, e.treatment ≠ .trusted) →
      ∀ e ∈ history, e.amount.number.isFinite = true := by
  intro hall
  have hpast : Distance.ofMetres tooFar = .ok ⟨.infinite false⟩ := by decide +kernel
  have hfinite := hall _ (.next .start (.ofMetres hpast)) (by simp)
  cases hfinite _ List.mem_cons_self

end Calculation

end Range

end Crossing
