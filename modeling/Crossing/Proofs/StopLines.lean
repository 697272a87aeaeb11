import Crossing.Proofs.FirstInside
import Crossing.StopLine

/-!
# What a plan of stop lines is made of

`StopLines.plan` asks where the path enters two areas and then places each line by its own rule.
`Placement` has the answers to those questions and the rules, and `placement_of_plan` says that
every plan that is made has one.  From then on the lines are a matter of indices: where an area is
entered is told by `Path.Enters` and `Path.InsideAt`, and the rules only add, subtract and limit.

The rules that are more than an equation are described beside that: when the stuck line exists
(`Placement.stuck_isSome_iff`), where the default line is when no first attention line holds it
back (`lt_defaultLine_iff`), and where the peeking line is (`peekingLine_eq_ok`).

Three of the rules add two counts.  A plan that is made had no sum past the largest count.
-/

namespace Crossing

/-! ## Limits that may be missing -/

@[simp] lemma atMost_none (i : Nat) : atMost i none = i := rfl

@[simp] lemma atMost_some (i limit : Nat) : atMost i (some limit) = min i limit := rfl

@[simp] lemma atLeast_none (i : Nat) : atLeast i none = i := rfl

@[simp] lemma atLeast_some (i limit : Nat) : atLeast i (some limit) = max i limit := rfl

lemma atMost_le_limit {i l : Nat} {limit : Option Nat} (h : limit = some l) :
    atMost i limit ≤ l := by
  subst h
  exact Nat.min_le_right i l

lemma earlier_eq_some {i steps j : Nat} :
    earlier? i steps = some j ↔ steps ≤ i ∧ i - steps = j := by
  unfold earlier?
  split
  · simp_all
  · simpa using fun h => absurd h ‹_›

lemma earlier_eq_none {i steps : Nat} : earlier? i steps = none ↔ i < steps := by
  unfold earlier?
  split <;> simp_all

namespace StopLines

variable {K : Type} [Scalar K]

/-! ## What a plan consists of -/

/-- Where the path enters an area that may be missing. -/
def EntryOf (s : SampledPath K) (area : Option (Inside K)) (entry : Option Nat) : Prop :=
  match area with
  | none => entry = none
  | some inside => s.path.firstInside s.interval inside true = .ok entry

omit [Scalar K] in
lemma EntryOf.firstInside {s : SampledPath K} {area : Option (Inside K)} {entry : Option Nat}
    (h : EntryOf s area entry) {inside : Inside K} (harea : area = some inside) :
    s.path.firstInside s.interval inside true = .ok entry := by
  subst harea
  exact h

omit [Scalar K] in
lemma EntryOf.exists_area {s : SampledPath K} {area : Option (Inside K)} {entry : Option Nat}
    (h : EntryOf s area entry) {i : Nat} (hi : entry = some i) :
    ∃ inside, area = some inside ∧
      s.path.firstInside s.interval inside true = .ok (some i) := by
  subst hi
  cases area with
  | none => simp [EntryOf] at h
  | some inside => exact ⟨inside, rfl, h⟩

omit [Scalar K] in
/-- There is an entry exactly when there is an area that the path enters. -/
lemma EntryOf.isSome_iff {s : SampledPath K} {area : Option (Inside K)} {entry : Option Nat}
    (h : EntryOf s area entry) : entry.isSome = true ↔
      ∃ inside, area = some inside ∧ s.path.Enters s.interval inside := by
  cases area with
  | none =>
      cases h
      simp
  | some inside => simpa using Path.isSome_iff_enters h

/-- **What is asked before lines are placed**: the two offsets in samples, and where the path enters
the two areas. -/
structure Survey (s : SampledPath K) (conflicting attention : Option (Inside K))
    (c : Config K) where
  /-- The margin in samples. -/
  marginSteps : Nat
  /-- The front of the vehicle in samples. -/
  frontSteps : Nat
  /-- Where the path enters the conflicting area. -/
  conflictEntry : Option Nat
  /-- Where the path enters the watched area. -/
  attentionEntry : Option Nat
  margin : s.stepsUp c.common.stopMargin = .ok marginSteps
  front : s.stepsUp c.vehicle.front = .ok frontSteps
  conflict : EntryOf s conflicting conflictEntry
  watched : EntryOf s attention attentionEntry

/-- **What the lines of a plan are made of**: the answers to what was asked, and the rule of each
line. -/
structure Placement (s : SampledPath K) (conflicting attention : Option (Inside K))
    (mapLine : Option Nat) (closest : Nat) (c : Config K) (lines : StopLines) extends
    Survey s conflicting attention c where
  closest_eq : lines.closest = closest
  firstAttention : lines.firstAttention = attentionEntry.bind fun i => earlier? i marginSteps
  stuck : lines.stuck = conflictEntry.map fun i =>
    atMost (if c.common.stopAtLaneStart then s.interval.1 else i - (marginSteps + frontSteps))
      (lines.firstAttention.or attentionEntry)
  stuckSteps_le : c.common.stopAtLaneStart = false → conflictEntry ≠ none →
    marginSteps + frontSteps ≤ maxCount
  default : defaultLine mapLine conflictEntry lines.stuck lines.firstAttention marginSteps
    frontSteps = (.ok lines.default : Outcome K _)
  peeking : ∀ area entry, attention = some area → attentionEntry = some entry →
    peekingLine s area entry c.occlusion.peekingOffset = .ok lines.peeking
  noPeeking : attentionEntry = none → lines.peeking = none
  passJudge : lines.passJudge = passJudgeLine lines.stuck lines.firstAttention

omit [Scalar K] in
lemma entryOf_of_mapM {s : SampledPath K} {area : Option (Inside K)} {found : Option (Option Nat)}
    (h : area.mapM (fun inside => s.path.firstInside s.interval inside true) = .ok found) :
    EntryOf s area found.join := by
  cases area with
  | none =>
      cases h
      rfl
  | some inside =>
      obtain ⟨entry, hentry, rfl⟩ := Outcome.map_eq_ok.mp h
      exact hentry

/-- A stuck line is at the start of the interval, or before the entry by both offsets if these have
a sum. -/
lemma stuckLine_eq_ok {s : SampledPath K} {entry : Nat} {margin front : Distance K}
    {atLaneStart : Bool} {marginSteps frontSteps i : Nat}
    (hmargin : s.stepsUp margin = .ok marginSteps) (hfront : s.stepsUp front = .ok frontSteps) :
    stuckLine s entry margin front atLaneStart = .ok i ↔
      (atLaneStart = false → marginSteps + frontSteps ≤ maxCount) ∧
        (if atLaneStart then s.interval.1 else entry - (marginSteps + frontSteps)) = i := by
  unfold stuckLine
  cases atLaneStart with
  | true => simp
  | false => simp [hmargin, hfront, Outcome.bind_eq_ok, Outcome.addCounts_eq_ok, and_assoc]

omit [Scalar K] in
/-- A default line comes from the map's line if that counts, and otherwise from the conflicting
area; only then the two offsets have to have a sum. -/
lemma defaultLine_eq_ok {mapLine conflictEntry stuck firstAttention line : Option Nat}
    {margin front : Nat} :
    defaultLine mapLine conflictEntry stuck firstAttention margin front =
        (.ok line : Outcome K _) ↔
      (atMapLine mapLine stuck front = none → conflictEntry ≠ none → margin + front ≤ maxCount) ∧
        (((atMapLine mapLine stuck front).or
          (conflictEntry.bind fun i => earlier? i (margin + front))).map fun i =>
            atMost (atLeast i stuck) firstAttention) = line := by
  unfold defaultLine
  cases atMapLine mapLine stuck front with
  | some i => simp [bind, Except.bind]
  | none =>
      cases conflictEntry with
      | none => simp [bind, Except.bind]
      | some i => simp [Outcome.bind_eq_ok, Outcome.addCounts_eq_ok, and_assoc]

lemma placement_of_plan {s : SampledPath K} {conflicting attention : Option (Inside K)}
    {mapLine : Option Nat} {closest : Nat} {c : Config K} {lines : StopLines}
    (h : plan s conflicting attention mapLine closest c = .ok lines) :
    Nonempty (Placement s conflicting attention mapLine closest c lines) := by
  unfold plan at h
  obtain ⟨marginSteps, hmargin, h⟩ := Outcome.bind_eq_ok.mp h
  obtain ⟨frontSteps, hfront, h⟩ := Outcome.bind_eq_ok.mp h
  obtain ⟨conflictFound, hconflict, h⟩ := Outcome.bind_eq_ok.mp h
  obtain ⟨attentionFound, hattention, h⟩ := Outcome.bind_eq_ok.mp h
  obtain ⟨stuck, hstuck, h⟩ := Outcome.bind_eq_ok.mp h
  obtain ⟨default, hdefault, h⟩ := Outcome.bind_eq_ok.mp h
  -- whether there is a peeking line to be placed or not, what follows is the same record
  obtain ⟨peeking, hpeeking, hnone, h⟩ : ∃ peeking,
      (∀ area entry, attention = some area → attentionFound.join = some entry →
        peekingLine s area entry c.occlusion.peekingOffset = .ok peeking) ∧
      (attentionFound.join = none → peeking = none) ∧
      lines = StopLines.mk closest stuck default
        (attentionFound.join.bind fun i => earlier? i marginSteps) peeking
        (passJudgeLine stuck (attentionFound.join.bind fun i => earlier? i marginSteps)) := by
    cases hentry : attentionFound.join with
    | none =>
        simp only [hentry] at h
        cases h
        exact ⟨none, by simp, fun _ => rfl, rfl⟩
    | some entry =>
        simp only [hentry] at h
        cases attention with
        | none =>
            cases h
            exact ⟨none, by simp, fun _ => rfl, rfl⟩
        | some area =>
            obtain ⟨peeking, hpeeking, h⟩ := Outcome.bind_eq_ok.mp h
            cases h
            refine ⟨peeking, ?_, by simp, rfl⟩
            rintro _ _ ⟨⟩ ⟨⟩
            exact hpeeking
  subst h
  -- the stuck line is placed by its rule, if there is an entry
  have hline : (c.common.stopAtLaneStart = false → conflictFound.join ≠ none →
      marginSteps + frontSteps ≤ maxCount) ∧ stuck = conflictFound.join.map fun i =>
        atMost (if c.common.stopAtLaneStart then s.interval.1 else i - (marginSteps + frontSteps))
          ((attentionFound.join.bind fun i => earlier? i marginSteps).or attentionFound.join) := by
    cases hentry : conflictFound.join with
    | none =>
        rw [hentry] at hstuck
        cases hstuck
        exact ⟨fun _ hno => absurd rfl hno, rfl⟩
    | some entry =>
        rw [hentry] at hstuck
        obtain ⟨i, hi, rfl⟩ := Outcome.map_eq_ok.mp hstuck
        obtain ⟨line, hline, hi⟩ := Outcome.bind_eq_ok.mp hi
        cases hi
        obtain ⟨hfits, rfl⟩ := (stuckLine_eq_ok hmargin hfront).mp hline
        exact ⟨fun hstart _ => hfits hstart, rfl⟩
  exact ⟨{
    marginSteps, frontSteps
    conflictEntry := conflictFound.join
    attentionEntry := attentionFound.join
    margin := hmargin
    front := hfront
    conflict := entryOf_of_mapM hconflict
    watched := entryOf_of_mapM hattention
    closest_eq := rfl
    firstAttention := rfl
    stuck := hline.2
    stuckSteps_le := hline.1
    default := hdefault
    peeking := hpeeking
    noPeeking := hnone
    passJudge := rfl }⟩

/-! ## The default line when nothing holds it back -/

omit [Scalar K] in
/-- The map's line is where the default line is, unless that is before the stuck line. -/
lemma default_of_map {mapLine conflictEntry stuck line : Option Nat} {margin front m : Nat}
    (h : defaultLine mapLine conflictEntry stuck none margin front = (.ok line : Outcome K _))
    (hm : mapLine = some m) (hfront : front ≤ m) (hstuck : ∀ i, stuck = some i → i ≤ m - front) :
    line = some (m - front) := by
  have hline : earlier? m front = some (m - front) := earlier_eq_some.mpr ⟨hfront, rfl⟩
  obtain ⟨-, rfl⟩ := defaultLine_eq_ok.mp h
  subst hm
  cases stuck with
  | none => simp [atMapLine, hline]
  | some i => simp [atMapLine, hline, hstuck i rfl, Option.filter]

omit [Scalar K] in
/-- Otherwise the conflicting area decides. -/
lemma default_of_area {mapLine conflictEntry stuck line : Option Nat} {margin front : Nat}
    (h : defaultLine mapLine conflictEntry stuck none margin front = (.ok line : Outcome K _))
    (hmap : ∀ m, mapLine = some m → front ≤ m → ∃ i, stuck = some i ∧ m - front < i) :
    line =
      (conflictEntry.bind fun e => earlier? e (margin + front)).map fun i => atLeast i stuck := by
  obtain ⟨-, rfl⟩ := defaultLine_eq_ok.mp h
  cases mapLine with
  | none => simp [atMapLine]
  | some m =>
      by_cases hfront : front ≤ m
      · obtain ⟨i, rfl, hi⟩ := hmap m rfl hfront
        have hline : earlier? m front = some (m - front) := earlier_eq_some.mpr ⟨hfront, rfl⟩
        have hno : ¬ i ≤ m - front := by omega
        simp [atMapLine, hline, hno, Option.filter]
      · have hline : earlier? m front = none := earlier_eq_none.mpr (by omega)
        simp [atMapLine, hline]

lemma lt_atLeast_iff {p i : Nat} {stuck : Option Nat} (hstuck : ∀ j, stuck = some j → j ≤ p) :
    p < atLeast i stuck ↔ p < i := by
  cases stuck with
  | none => rfl
  | some j =>
      have hj := hstuck j rfl
      rw [atLeast_some]
      omega

omit [Scalar K] in
/-- When nothing holds it back, the default line lies behind an index that the stuck line does not
lie behind in one of two ways: the map's line does, or the line before the conflicting area does
and the map's line does not count. -/
lemma lt_defaultLine_iff {mapLine conflictEntry stuck line : Option Nat} {margin front p : Nat}
    (h : defaultLine mapLine conflictEntry stuck none margin front = (.ok line : Outcome K _))
    (hstuck : ∀ i, stuck = some i → i ≤ p) :
    (∃ d, line = some d ∧ p < d) ↔
      (∃ m, mapLine = some m ∧ p + front < m) ∨
      ∃ e, conflictEntry = some e ∧ p + (margin + front) < e ∧
        ∀ m, mapLine = some m → front ≤ m → ∃ i, stuck = some i ∧ m - front < i := by
  by_cases hline : ∃ m, mapLine = some m ∧ front ≤ m ∧ ∀ i, stuck = some i → i ≤ m - front
  · obtain ⟨m, hm, hfront, hle⟩ := hline
    rw [default_of_map h hm hfront hle]
    constructor
    · rintro ⟨d, ⟨⟩, hlt⟩
      exact Or.inl ⟨m, hm, by omega⟩
    · rintro (⟨m', hm', hlt⟩ | ⟨e, -, -, hmap⟩)
      · cases hm.symm.trans hm'
        exact ⟨_, rfl, by omega⟩
      · obtain ⟨i, hi, hlt⟩ := hmap m hm hfront
        have hip := hle i hi
        omega
  · have hmap : ∀ m, mapLine = some m → front ≤ m → ∃ i, stuck = some i ∧ m - front < i := by
      intro m hm hfront
      by_contra hno
      exact hline ⟨m, hm, hfront, fun i hi => Nat.le_of_not_lt fun hlt => hno ⟨i, hi, hlt⟩⟩
    rw [default_of_area h hmap]
    constructor
    · rintro ⟨d, hd, hlt⟩
      simp only [Option.map_eq_some_iff, Option.bind_eq_some_iff, earlier_eq_some] at hd
      obtain ⟨_, ⟨e, rfl, hsteps, rfl⟩, rfl⟩ := hd
      rw [lt_atLeast_iff hstuck] at hlt
      exact Or.inr ⟨e, rfl, by omega, hmap⟩
    · rintro (⟨m, hm, hlt⟩ | ⟨e, rfl, hlt, -⟩)
      · obtain ⟨i, hi, hlt'⟩ := hmap m hm (by omega)
        have hip := hstuck i hi
        omega
      · have hentry : earlier? e (margin + front) = some (e - (margin + front)) :=
          earlier_eq_some.mpr ⟨by omega, rfl⟩
        refine ⟨_, by rw [Option.bind_some, hentry, Option.map_some], ?_⟩
        rw [lt_atLeast_iff hstuck]
        omega

/-! ## The peeking line -/

/-- There is no peeking line when the interval begins inside.  Otherwise it lies so many samples
behind the entry, if these have a sum, but not behind the last sample inside. -/
lemma peekingLine_eq_ok {s : SampledPath K} {area : Inside K} {entry : Nat} {offset : Distance K}
    {line : Option Nat} (hentry : s.path.firstInside s.interval area true = .ok (some entry)) :
    peekingLine s area entry offset = .ok line ↔ ∃ start, s.path.point s.interval.1 = .ok start ∧
      (area start.position = .ok true ∧ line = none ∨
        area start.position = .ok false ∧ ∃ last steps,
          s.path.firstInside s.interval area false = .ok (some last) ∧
          s.stepsDown offset = .ok steps ∧ entry + steps ≤ maxCount ∧
          line = some (min (entry + steps) last)) := by
  unfold peekingLine
  constructor
  · intro h
    obtain ⟨start, hstart, h⟩ := Outcome.bind_eq_ok.mp h
    obtain ⟨starts, hstarts, h⟩ := Outcome.bind_eq_ok.mp h
    refine ⟨start, hstart, ?_⟩
    cases starts with
    | true => exact Or.inl ⟨hstarts, (Except.ok.inj h).symm⟩
    | false =>
        obtain ⟨found, hback, h⟩ := Outcome.bind_eq_ok.mp h
        obtain ⟨steps, hsteps, h⟩ := Outcome.bind_eq_ok.mp h
        obtain ⟨sum, hsum, h⟩ := Outcome.bind_eq_ok.mp h
        obtain ⟨hle, rfl⟩ := Outcome.addCounts_eq_ok.mp hsum
        obtain ⟨last, rfl, -⟩ := Path.exists_backward_ge hentry hback
        exact Or.inr ⟨hstarts, last, steps, hback, hsteps, hle, (Except.ok.inj h).symm⟩
  · rintro ⟨start, hstart, ⟨hstarts, rfl⟩ | ⟨hstarts, last, steps, hback, hsteps, hle, rfl⟩⟩
    · simp [hstart, hstarts, bind, Except.bind]
    · simp [hstart, hstarts, hback, hsteps, Outcome.addCounts_eq_ok.mpr ⟨hle, rfl⟩, bind,
        Except.bind]

lemma peekingLine_eq_some {s : SampledPath K} {area : Inside K} {entry p : Nat}
    {offset : Distance K} (hentry : s.path.firstInside s.interval area true = .ok (some entry))
    (h : peekingLine s area entry offset = .ok (some p)) : ∃ start last steps,
      s.path.point s.interval.1 = .ok start ∧ area start.position = .ok false ∧
      s.path.firstInside s.interval area false = .ok (some last) ∧
      s.stepsDown offset = .ok steps ∧ entry + steps ≤ maxCount ∧ min (entry + steps) last = p := by
  obtain ⟨start, hstart, ⟨-, hnone⟩ | ⟨hstarts, last, steps, hback, hsteps, hle, hp⟩⟩ :=
    (peekingLine_eq_ok hentry).mp h
  · cases hnone
  · exact ⟨start, last, steps, hstart, hstarts, hback, hsteps, hle, (Option.some.inj hp).symm⟩

namespace Placement

variable {s : SampledPath K} {conflicting attention : Option (Inside K)} {mapLine : Option Nat}
  {closest : Nat} {c : Config K} {lines : StopLines}
  (P : Placement s conflicting attention mapLine closest c lines)
include P

lemma stuck_isSome_iff : lines.stuck.isSome = true ↔
    ∃ inside, conflicting = some inside ∧ s.path.Enters s.interval inside := by
  rw [P.stuck, Option.isSome_map, P.conflict.isSome_iff]

end Placement

end StopLines

end Crossing
