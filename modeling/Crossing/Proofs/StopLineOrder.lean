import Crossing.Proofs.Rational
import Crossing.Proofs.StopLines

/-!
# The order of the stop lines

The four lines are meant to be in order wherever they exist: stuck, default, first attention,
peeking (`StopLines.InOrder`).

**Which pairs are always in order.**  The stuck line is moved to before the place where the
watched area is entered, whether or not there is a first attention line, and the default line is
moved to behind the stuck line and to before the first attention line.  The peeking line is
never before the entry, because the entry itself is inside the area and so limits how far back
the last sample inside can be.  So all pairs but one are in order in every plan.

**Which pair is not.**  Nothing but the first attention line holds the default line back.  When
the watched area is entered so close to the start of the path that the margin does not fit before
it, there is no first attention line, and the default line can come to lie behind the peeking
line.  `Overrun` lists what it takes, from the areas, the map's line and the settings alone;
`plan_inOrder_iff` says that a plan is out of order exactly then, and `not_forall_inOrder` that it
happens.
-/

namespace Crossing.StopLines

variable {K : Type} [Scalar K]

/-! ## The order -/

/-- The first of two lines does not lie behind the second, if both exist. -/
def Before : Option Nat → Option Nat → Prop
  | some i, some j => i ≤ j
  | _, _ => True

@[simp] lemma before_some (i j : Nat) : Before (some i) (some j) ↔ i ≤ j := Iff.rfl

@[simp] lemma before_none (a : Option Nat) : Before a none := by cases a <;> trivial

@[simp] lemma none_before (a : Option Nat) : Before none a := trivial

instance (a b : Option Nat) : Decidable (Before a b) := by
  cases a <;> cases b <;> unfold Before <;> infer_instance

lemma before_of_forall {a b : Option Nat} (h : ∀ i j, a = some i → b = some j → i ≤ j) :
    Before a b := by
  cases a with
  | none => exact none_before b
  | some i =>
      cases b with
      | none => exact before_none (some i)
      | some j => exact h i j rfl rfl

/-- **The lines are in the order that they are meant to be in**, those that exist. -/
def InOrder (lines : StopLines) : Prop :=
  [lines.stuck, lines.default, lines.firstAttention, lines.peeking].Pairwise Before

instance (lines : StopLines) : Decidable lines.InOrder :=
  inferInstanceAs (Decidable (List.Pairwise _ _))

/-- **What it takes for the default line to overrun the peeking line.**  The watched area is
entered with no room for the margin before it, and the default line, which nothing holds back
then, is placed behind the peeking line: by the map's line, or by the conflicting area when the
map's line is missing or would be before the stuck line. -/
structure Overrun (s : SampledPath K) (conflicting attention : Option (Inside K))
    (mapLine : Option Nat) (c : Config K) where
  /-- The watched area. -/
  area : Inside K
  /-- The first sample inside it. -/
  entry : Nat
  /-- The last sample inside it. -/
  last : Nat
  /-- The sample that the interval begins with. -/
  start : Waypoint K
  /-- The margin in samples. -/
  margin : Nat
  /-- The front of the vehicle in samples. -/
  front : Nat
  /-- How many samples to peek into the area. -/
  offset : Nat
  attention_eq : attention = some area
  entry_eq : s.path.firstInside s.interval area true = .ok (some entry)
  last_eq : s.path.firstInside s.interval area false = .ok (some last)
  start_eq : s.path.point s.interval.1 = .ok start
  outside : area start.position = .ok false
  margin_eq : s.stepsUp c.common.stopMargin = .ok margin
  front_eq : s.stepsUp c.vehicle.front = .ok front
  offset_eq : s.stepsDown c.occlusion.peekingOffset = .ok offset
  noRoom : entry < margin
  past : (∃ m, mapLine = some m ∧ min (entry + offset) last + front < m) ∨
    ∃ other e, conflicting = some other ∧
      s.path.firstInside s.interval other true = .ok (some e) ∧
      min (entry + offset) last + (margin + front) < e ∧
      ∀ m, mapLine = some m →
        m < front + if c.common.stopAtLaneStart then s.interval.1 else entry

namespace Placement

variable {s : SampledPath K} {conflicting attention : Option (Inside K)} {mapLine : Option Nat}
  {closest : Nat} {c : Config K} {lines : StopLines}
  (P : Placement s conflicting attention mapLine closest c lines)
include P

/-- The stuck line is before the first attention line, or before the entry if there is none. -/
lemma stuck_le {i limit : Nat} (hi : lines.stuck = some i)
    (hlimit : lines.firstAttention.or P.attentionEntry = some limit) : i ≤ limit := by
  rw [P.stuck, Option.map_eq_some_iff] at hi
  obtain ⟨entry, -, rfl⟩ := hi
  exact atMost_le_limit hlimit

lemma firstAttention_le {f : Nat} (hf : lines.firstAttention = some f) :
    ∃ entry, P.attentionEntry = some entry ∧ f ≤ entry := by
  rw [P.firstAttention, Option.bind_eq_some_iff] at hf
  obtain ⟨entry, hentry, hf⟩ := hf
  obtain ⟨-, rfl⟩ := earlier_eq_some.mp hf
  exact ⟨entry, hentry, Nat.sub_le entry P.marginSteps⟩

lemma exists_area {entry : Nat} (hentry : P.attentionEntry = some entry) :
    ∃ area, attention = some area ∧
      s.path.firstInside s.interval area true = .ok (some entry) :=
  P.watched.exists_area hentry

lemma exists_conflicting {entry : Nat} (hentry : P.conflictEntry = some entry) :
    ∃ area, conflicting = some area ∧
      s.path.firstInside s.interval area true = .ok (some entry) :=
  P.conflict.exists_area hentry

lemma peeking_eq_some {p : Nat} (hp : lines.peeking = some p) :
    ∃ area entry, attention = some area ∧ P.attentionEntry = some entry ∧
      s.path.firstInside s.interval area true = .ok (some entry) ∧
      peekingLine s area entry c.occlusion.peekingOffset = .ok (some p) := by
  cases hentry : P.attentionEntry with
  | none =>
      rw [P.noPeeking hentry] at hp
      simp at hp
  | some entry =>
      obtain ⟨area, harea, hforward⟩ := P.exists_area hentry
      exact ⟨area, entry, harea, rfl, hforward, hp ▸ P.peeking area entry harea hentry⟩

/-- The peeking line is not before the entry: the entry itself is inside, so the last sample
inside is not before it. -/
lemma le_peeking {p : Nat} (hp : lines.peeking = some p) :
    ∃ entry, P.attentionEntry = some entry ∧ entry ≤ p := by
  obtain ⟨area, entry, -, hentry, hforward, hline⟩ := P.peeking_eq_some hp
  obtain ⟨start, last, steps, -, -, hback, -, -, rfl⟩ := peekingLine_eq_some hforward hline
  have hle := Path.ge_of_backward hback (Path.insideAt_of_firstInside hforward)
  exact ⟨entry, hentry, by omega⟩

/-- A default line is held back and held up by the other two. -/
lemma default_eq_some {d : Nat} (hd : lines.default = some d) :
    ∃ i, d = atMost (atLeast i lines.stuck) lines.firstAttention := by
  obtain ⟨-, hline⟩ := defaultLine_eq_ok.mp P.default
  rw [← hline, Option.map_eq_some_iff] at hd
  obtain ⟨i, -, rfl⟩ := hd
  exact ⟨i, rfl⟩

lemma stuck_before_default : Before lines.stuck lines.default := by
  refine before_of_forall fun i d hi hd => ?_
  obtain ⟨raw, rfl⟩ := P.default_eq_some hd
  rw [hi, atLeast_some]
  cases hf : lines.firstAttention with
  | none => exact Nat.le_max_right raw i
  | some f =>
      have hif : i ≤ f := P.stuck_le hi (by rw [hf]; rfl)
      rw [atMost_some]
      omega

lemma stuck_before_firstAttention : Before lines.stuck lines.firstAttention :=
  before_of_forall fun _ _ hi hf => P.stuck_le hi (by rw [hf]; rfl)

lemma default_before_firstAttention : Before lines.default lines.firstAttention := by
  refine before_of_forall fun d f hd hf => ?_
  obtain ⟨raw, rfl⟩ := P.default_eq_some hd
  exact atMost_le_limit hf

lemma firstAttention_before_peeking : Before lines.firstAttention lines.peeking := by
  refine before_of_forall fun f p hf hp => ?_
  obtain ⟨entry, hentry, hle⟩ := P.firstAttention_le hf
  obtain ⟨entry', hentry', hle'⟩ := P.le_peeking hp
  cases hentry.symm.trans hentry'
  exact Nat.le_trans hle hle'

lemma stuck_le_peeking {p : Nat} (hp : lines.peeking = some p) :
    ∀ i, lines.stuck = some i → i ≤ p := by
  intro i hi
  obtain ⟨entry, hentry, hle⟩ := P.le_peeking hp
  cases hf : lines.firstAttention with
  | none => exact Nat.le_trans (P.stuck_le hi (by rw [hf]; exact hentry)) hle
  | some f =>
      have hif : i ≤ f := P.stuck_le hi (by rw [hf]; rfl)
      have hfp := P.firstAttention_before_peeking
      rw [hf, hp, before_some] at hfp
      exact Nat.le_trans hif hfp

lemma stuck_before_peeking : Before lines.stuck lines.peeking :=
  before_of_forall fun i _ hi hp => P.stuck_le_peeking hp i hi

lemma firstAttention_eq_none_iff {entry : Nat} (hentry : P.attentionEntry = some entry) :
    lines.firstAttention = none ↔ entry < P.marginSteps := by
  rw [P.firstAttention, hentry, Option.bind_some, earlier_eq_none]

/-- Without a first attention line, the stuck line is at the start of the interval or at the
entry of the watched area as soon as the path enters the conflicting area behind the entry, by
both offsets. -/
lemma stuck_eq {entry e : Nat} (hentry : P.attentionEntry = some entry)
    (hnone : lines.firstAttention = none) (he : P.conflictEntry = some e)
    (hfar : entry + (P.marginSteps + P.frontSteps) ≤ e) (hstart : s.interval.1 ≤ entry) :
    lines.stuck = some (if c.common.stopAtLaneStart then s.interval.1 else entry) := by
  rw [P.stuck, he, hnone, hentry, Option.map_some, Option.none_or, atMost_some]
  split
  · rw [Nat.min_eq_left hstart]
  · rw [Nat.min_eq_right (by omega)]

lemma overrun_of_lt {d p : Nat} (hd : lines.default = some d) (hp : lines.peeking = some p)
    (hlt : p < d) : Nonempty (Overrun s conflicting attention mapLine c) := by
  obtain ⟨area, entry, harea, hentry, hforward, hline⟩ := P.peeking_eq_some hp
  obtain ⟨start, last, offset, hstart, houtside, hback, hoffset, -, rfl⟩ :=
    peekingLine_eq_some hforward hline
  have hlast := Path.ge_of_backward hback (Path.insideAt_of_firstInside hforward)
  have hlow := (Path.insideAt_of_firstInside hforward).first_le
  -- the first attention line would have held the default line back
  have hnone : lines.firstAttention = none := by
    cases hf : lines.firstAttention with
    | none => rfl
    | some f =>
        have hdf := P.default_before_firstAttention
        have hfp := P.firstAttention_before_peeking
        rw [hd, hf, before_some] at hdf
        rw [hf, hp, before_some] at hfp
        omega
  have hstuck := P.stuck_le_peeking hp
  have hdefault := P.default
  rw [hd, hnone] at hdefault
  refine ⟨⟨area, entry, last, start, P.marginSteps, P.frontSteps, offset, harea, hforward, hback,
    hstart, houtside, P.margin, P.front, hoffset, (P.firstAttention_eq_none_iff hentry).mp hnone,
    ?_⟩⟩
  refine ((lt_defaultLine_iff hdefault hstuck).mp ⟨d, rfl, hlt⟩).imp_right ?_
  rintro ⟨e, he, hfar, hmap⟩
  obtain ⟨other, hother, hentered⟩ := P.exists_conflicting he
  refine ⟨other, e, hother, hentered, hfar, fun m hm => ?_⟩
  rw [P.stuck_eq hentry hnone he (by omega) hlow] at hmap
  by_cases hfront : P.frontSteps ≤ m
  · obtain ⟨i, hi, hlt'⟩ := hmap m hm hfront
    cases hi
    omega
  · omega

lemma lt_of_overrun (O : Overrun s conflicting attention mapLine c) :
    ∃ d p, lines.default = some d ∧ lines.peeking = some p ∧ p < d := by
  have hmargin : P.marginSteps = O.margin := Except.ok.inj (P.margin.symm.trans O.margin_eq)
  have hfront : P.frontSteps = O.front := Except.ok.inj (P.front.symm.trans O.front_eq)
  have hentry : P.attentionEntry = some O.entry :=
    Except.ok.inj ((P.watched.firstInside O.attention_eq).symm.trans O.entry_eq)
  have hnone : lines.firstAttention = none :=
    (P.firstAttention_eq_none_iff hentry).mpr (hmargin ▸ O.noRoom)
  have hp : lines.peeking = some (min (O.entry + O.offset) O.last) := by
    obtain ⟨start, hstart, ⟨hinside, -⟩ | ⟨-, last, steps, hback, hsteps, -, hline⟩⟩ :=
      (peekingLine_eq_ok O.entry_eq).mp (P.peeking O.area O.entry O.attention_eq hentry)
    · cases hstart.symm.trans O.start_eq
      cases hinside.symm.trans O.outside
    · cases hback.symm.trans O.last_eq
      cases hsteps.symm.trans O.offset_eq
      exact hline
  have hlast := Path.ge_of_backward O.last_eq (Path.insideAt_of_firstInside O.entry_eq)
  have hlow := (Path.insideAt_of_firstInside O.entry_eq).first_le
  have hstuck := P.stuck_le_peeking hp
  have hdefault := P.default
  rw [hnone, hmargin, hfront] at hdefault
  suffices hpast : ∃ d, lines.default = some d ∧ min (O.entry + O.offset) O.last < d by
    obtain ⟨d, hd, hlt⟩ := hpast
    exact ⟨d, _, hd, hp, hlt⟩
  rw [lt_defaultLine_iff hdefault hstuck]
  refine O.past.imp_right ?_
  rintro ⟨other, e, hother, hentered, hfar, hmap⟩
  have he : P.conflictEntry = some e :=
    Except.ok.inj ((P.conflict.firstInside hother).symm.trans hentered)
  refine ⟨e, he, hfar, fun m hm hle => ⟨_, P.stuck_eq hentry hnone he (by omega) hlow, ?_⟩⟩
  have hlt := hmap m hm
  omega

end Placement

/-- **When the stop lines are in order.**  Whatever the areas, the map's line and the settings:
without the peeking line they always are, and without the default line they always are.  All four
are, unless the default line overruns the peeking line. -/
theorem plan_inOrder_iff {s : SampledPath K} {conflicting attention : Option (Inside K)}
    {mapLine : Option Nat} {closest : Nat} {c : Config K} {lines : StopLines}
    (h : plan s conflicting attention mapLine closest c = .ok lines) :
    [lines.stuck, lines.default, lines.firstAttention].Pairwise Before ∧
      [lines.stuck, lines.firstAttention, lines.peeking].Pairwise Before ∧
      (lines.InOrder ↔ IsEmpty (Overrun s conflicting attention mapLine c)) := by
  obtain ⟨P⟩ := placement_of_plan h
  have hsd := P.stuck_before_default
  have hsf := P.stuck_before_firstAttention
  have hsp := P.stuck_before_peeking
  have hdf := P.default_before_firstAttention
  have hfp := P.firstAttention_before_peeking
  refine ⟨by simp [hsd, hsf, hdf], by simp [hsf, hsp, hfp], ?_⟩
  have hpair : lines.InOrder ↔ Before lines.default lines.peeking := by
    simp [InOrder, hsd, hsf, hsp, hdf, hfp]
  rw [hpair]
  constructor
  · refine fun hdp => ⟨fun O => ?_⟩
    obtain ⟨d, p, hd, hp, hlt⟩ := P.lt_of_overrun O
    rw [hd, hp, before_some] at hdp
    omega
  · intro hno
    refine before_of_forall fun d p hd hp => ?_
    by_contra hle
    obtain ⟨O⟩ := P.overrun_of_lt hd hp (Nat.lt_of_not_le hle)
    exact hno.false O

/-! ## A plan that is out of order

A straight path of twenty metres with a sample each metre, which is inside the watched area two
metres after its start and inside the conflicting area fifteen metres after it.
-/

/-- What lies in front of the start between two distances. -/
def ahead (near far : Rat) : Inside Rat :=
  Region.contains ⟨[⟨near, -5⟩, ⟨far, -5⟩, ⟨far, 5⟩, ⟨near, 5⟩, ⟨near, -5⟩]⟩

def shortPath : SampledPath Rat where
  path := ⟨(List.range 21).map fun i => ⟨⟨⟨i, 0⟩, ⟨0⟩⟩, ⟨5⟩, [⟨if i = 0 then 1 else 2⟩]⟩⟩
  spacing := ⟨1⟩
  lane := ⟨2⟩
  associated := IdSet.ofList [⟨2⟩]
  interval := (0, 20)

/-- The lines of the plan: the default line is five samples behind the peeking line. -/
def shortLines : StopLines where
  closest := 0
  stuck := some 0
  default := some 8
  firstAttention := none
  peeking := some 3
  passJudge := 0

lemma plan_shortPath : plan shortPath (some (ahead 14.5 18)) (some (ahead 1.5 8)) none 0
    Config.default = .ok shortLines := by decide +kernel

/-- The plan of the short path is out of order, and so there is an overrun. -/
theorem plan_inOrder_iff_shortPath :
    plan shortPath (some (ahead 14.5 18)) (some (ahead 1.5 8)) none 0 Config.default =
        .ok shortLines ∧
      ¬ shortLines.InOrder ∧
      Nonempty (Overrun shortPath (some (ahead 14.5 18)) (some (ahead 1.5 8)) none
        Config.default) := by
  have hiff := (plan_inOrder_iff plan_shortPath).2.2
  have hout : ¬ shortLines.InOrder := by decide
  exact ⟨plan_shortPath, hout, by_contra fun h => hout (hiff.mpr ⟨fun O => h ⟨O⟩⟩)⟩

/-- **Not every plan is in order**, not even with valid settings, with an interval on the path
and with a map's line on the path if there is one. -/
theorem not_forall_inOrder :
    ¬ ∀ (s : SampledPath Rat) (conflicting attention : Option (Inside Rat))
      (mapLine : Option Nat) (closest : Nat) (c : Config Rat) (lines : StopLines),
      s.interval.1 < s.interval.2 → s.interval.2 < s.path.size →
      (∀ i, mapLine = some i → i < s.path.size) → c.validate = .ok () →
      plan s conflicting attention mapLine closest c = .ok lines → lines.InOrder := by
  intro h
  have hvalid : Config.validate (Config.default : Config Rat) = .ok () := by decide +kernel
  have hordered := h shortPath (some (ahead 14.5 18)) (some (ahead 1.5 8)) none 0 Config.default
    shortLines (by decide) (by decide) (by simp) hvalid plan_shortPath
  exact absurd hordered (by decide)

end Crossing.StopLines
