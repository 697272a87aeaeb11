import Crossing.Proofs.StopLines

/-!
# Sums of counts

Offsets of stop lines are counts of samples, and no setting is too large for one: what cannot be
counted becomes the largest count.  A plan adds counts in three places, though.  The margin and the
front of the vehicle are added for a line before the conflicting area, by the stuck line and by the
default line, and the offset of the peeking line is added to the entry of the watched area.  The
limits that follow, to the start of the path or to the last sample inside, come too late for a sum
past the largest count.

`Survey.Overflow` says of the answers to what a plan asks when there is such a sum.  A plan that is
made has none (`Placement.not_overflow`), and nothing else can go wrong once all that is asked has
an answer (`avoids_plan`); so a plan is made exactly when there is no such sum (`plan_of_decides`).
-/

namespace Crossing

variable {K : Type}

/-- The fault is a sum of counts past the largest one. -/
def Fault.IsCountOverflow (e : Fault K) : Prop :=
  ∃ a b, maxCount < a + b ∧ e = .broken (.countOverflow a b)

lemma Outcome.avoids_addCounts {bad : Fault K → Prop} {a b : Nat} :
    (addCounts a b).Avoids bad ↔ (maxCount < a + b → ¬ bad (.broken (.countOverflow a b))) := by
  unfold addCounts
  split
  · next hle => simp [Nat.not_lt.mpr hle]
  · next hlt => simp [breach, Nat.not_le.mp hlt]

/-- What avoids every fault has a value. -/
lemma Outcome.exists_of_avoids {α : Type} {x : Outcome K α} (h : x.Avoids fun _ => True) :
    ∃ a, x = .ok a := by
  cases x with
  | ok a => exact ⟨a, rfl⟩
  | error e => exact absurd rfl (h e trivial)

variable [Scalar K] {s : SampledPath K}

/-! ## What a plan asks -/

lemma Distance.exists_ratio {a b : Distance K} (h : ¬ b ≤ Distance.zero) :
    ∃ x, a.ratio b = .ok x := by
  have hzero : b.isZero = false := Bool.and_eq_false_iff.mpr (Or.inl (decide_eq_false h))
  exact ⟨_, if_neg (by rw [hzero]; exact Bool.false_ne_true)⟩

/-- Where samples are some distance apart, every offset has a count. -/
lemma SampledPath.exists_stepsUp (h : ¬ s.spacing ≤ Distance.zero) (d : Distance K) :
    ∃ steps, s.stepsUp d = .ok steps := by
  obtain ⟨x, hx⟩ := Distance.exists_ratio (a := d) h
  exact ⟨_, Outcome.bind_eq_ok.mpr ⟨x, hx, rfl⟩⟩

lemma SampledPath.exists_stepsDown (h : ¬ s.spacing ≤ Distance.zero) (d : Distance K) :
    ∃ steps, s.stepsDown d = .ok steps := by
  obtain ⟨x, hx⟩ := Distance.exists_ratio (a := d) h
  exact ⟨_, Outcome.bind_eq_ok.mpr ⟨x, hx, rfl⟩⟩

namespace StopLines

variable {conflicting attention : Option (Inside K)} {mapLine : Option Nat} {closest : Nat}
  {c : Config K} {lines : StopLines}

omit [Scalar K] in
lemma exists_entryOf {area : Option (Inside K)} (h : ∀ a, area = some a → s.path.Decides a) :
    ∃ entry, EntryOf s area entry := by
  cases area with
  | none => exact ⟨none, rfl⟩
  | some inside => exact Path.exists_firstInside (h inside rfl) s.interval true

omit [Scalar K] in
lemma EntryOf.exists_mapM {area : Option (Inside K)} {entry : Option Nat}
    (h : EntryOf s area entry) : ∃ found,
      area.mapM (fun inside => s.path.firstInside s.interval inside true) = .ok found ∧
        found.join = entry := by
  cases area with
  | none =>
      cases h
      exact ⟨none, rfl, rfl⟩
  | some inside => exact ⟨some entry, Outcome.map_eq_ok.mpr ⟨entry, h, rfl⟩, rfl⟩

/-- What is asked before lines are placed has an answer, if every sample is found to be inside the
areas or outside of them. -/
lemma exists_survey (hspacing : ¬ s.spacing ≤ Distance.zero)
    (hconflicting : ∀ a, conflicting = some a → s.path.Decides a)
    (hattention : ∀ a, attention = some a → s.path.Decides a) (c : Config K) :
    Nonempty (Survey s conflicting attention c) := by
  obtain ⟨marginSteps, hmargin⟩ := SampledPath.exists_stepsUp hspacing c.common.stopMargin
  obtain ⟨frontSteps, hfront⟩ := SampledPath.exists_stepsUp hspacing c.vehicle.front
  obtain ⟨conflictEntry, hconflict⟩ := exists_entryOf hconflicting
  obtain ⟨attentionEntry, hwatched⟩ := exists_entryOf hattention
  exact ⟨⟨marginSteps, frontSteps, conflictEntry, attentionEntry, hmargin, hfront, hconflict,
    hwatched⟩⟩

omit [Scalar K] in
lemma EntryOf.unique {area : Option (Inside K)} {entry other : Option Nat}
    (h : EntryOf s area entry) (hother : EntryOf s area other) : entry = other := by
  cases area with
  | none => exact Eq.trans h (Eq.symm hother)
  | some inside => exact Except.ok.inj (Eq.trans (Eq.symm h) hother)

/-- What is asked has one answer. -/
instance : Subsingleton (Survey s conflicting attention c) where
  allEq S T := by
    have hmargin := Except.ok.inj (S.margin.symm.trans T.margin)
    have hfront := Except.ok.inj (S.front.symm.trans T.front)
    have hconflict := S.conflict.unique T.conflict
    have hwatched := S.watched.unique T.watched
    cases S
    cases T
    congr

/-! ## Plans with a sum past the largest count -/

namespace Survey

/-- Where the stuck line is when it is at the start of the interval. -/
def stuckAtStart (S : Survey s conflicting attention c) : Nat :=
  atMost s.interval.1
    ((S.attentionEntry.bind fun i => earlier? i S.marginSteps).or S.attentionEntry)

/-- **A plan needs a sum past the largest count.** -/
inductive Overflow (S : Survey s conflicting attention c) (mapLine : Option Nat) : Prop
  /-- The offsets of a line before the conflicting area.  The stuck line needs their sum unless it
  is at the start of the interval, and the default line unless the map's line counts. -/
  | offsets (entered : S.conflictEntry ≠ none) (past : maxCount < S.marginSteps + S.frontSteps)
      (added : c.common.stopAtLaneStart = true →
        atMapLine mapLine (some S.stuckAtStart) S.frontSteps = none)
  /-- The entry of the watched area and the offset of the peeking line, which there is when the
  interval begins outside. -/
  | peeking {area entry start steps} (watched : attention = some area)
      (entered : S.attentionEntry = some entry) (begins : s.path.point s.interval.1 = .ok start)
      (outside : area start.position = .ok false)
      (offset : s.stepsDown c.occlusion.peekingOffset = .ok steps)
      (past : maxCount < entry + steps)

end Survey

/-- The stuck line is at the start of the interval, if it is asked to be there. -/
lemma Placement.stuck_at_start (P : Placement s conflicting attention mapLine closest c lines)
    (hstart : c.common.stopAtLaneStart = true) (hentered : P.conflictEntry ≠ none) :
    lines.stuck = some P.toSurvey.stuckAtStart := by
  obtain ⟨e, he⟩ := Option.ne_none_iff_exists'.mp hentered
  rw [P.stuck, he, P.firstAttention, hstart]
  rfl

/-- A plan that is made needs no sum past the largest count. -/
lemma Placement.not_overflow (P : Placement s conflicting attention mapLine closest c lines) :
    ¬ P.toSurvey.Overflow mapLine := by
  rintro (⟨hentered, hpast, hadded⟩ | ⟨harea, hentry, hstart, houtside, hoffset, hpast⟩)
  · have hle : P.marginSteps + P.frontSteps ≤ maxCount := by
      cases hlane : c.common.stopAtLaneStart with
      | false => exact P.stuckSteps_le hlane hentered
      | true =>
          refine (defaultLine_eq_ok.mp P.default).1 ?_ hentered
          rw [P.stuck_at_start hlane hentered]
          exact hadded hlane
    omega
  · have hforward := P.watched.firstInside harea
    rw [hentry] at hforward
    obtain ⟨start, hbegins, ⟨hinside, -⟩ | ⟨-, last, steps, -, hsteps, hle, -⟩⟩ :=
      (peekingLine_eq_ok hforward).mp (P.peeking _ _ harea hentry)
    · cases hbegins.symm.trans hstart
      cases hinside.symm.trans houtside
    · cases hsteps.symm.trans hoffset
      omega

/-! ### Nothing else goes wrong

If what is asked has answers, the only faults that can be left are sums past the largest count.  The
rule of each line avoids every fault that such a sum is not.
-/

section Avoids

variable {bad : Fault K → Prop} (S : Survey s conflicting attention c)

lemma avoids_stuckLine {entry : Nat}
    (hsum : c.common.stopAtLaneStart = false → maxCount < S.marginSteps + S.frontSteps →
      ¬ bad (.broken (.countOverflow S.marginSteps S.frontSteps))) :
    (stuckLine s entry c.common.stopMargin c.vehicle.front c.common.stopAtLaneStart).Avoids
      bad := by
  unfold stuckLine
  cases hlane : c.common.stopAtLaneStart with
  | true => exact Outcome.avoids_ok _
  | false =>
      simp only [S.margin, S.front, Outcome.avoids_bind, Outcome.avoids_ok, Except.ok.injEq,
        Bool.false_eq_true, if_false, Outcome.pure_eq_ok, true_and, forall_eq', implies_true,
        and_true]
      exact Outcome.avoids_addCounts.mpr (hsum hlane)

omit [Scalar K] in
lemma avoids_defaultLine {mapLine conflictEntry stuck firstAttention : Option Nat}
    {margin front : Nat}
    (hsum : conflictEntry ≠ none → atMapLine mapLine stuck front = none →
      maxCount < margin + front → ¬ bad (.broken (.countOverflow margin front))) :
    (defaultLine mapLine conflictEntry stuck firstAttention margin front).Avoids bad := by
  unfold defaultLine
  cases hline : atMapLine mapLine stuck front with
  | some i => exact Outcome.avoids_ok _
  | none =>
      cases conflictEntry with
      | none => exact Outcome.avoids_ok _
      | some i => simpa [Outcome.avoids_addCounts] using hsum (Option.some_ne_none i) hline

lemma avoids_peekingLine {area : Inside K} {entry : Nat} {offset : Distance K}
    (hspacing : ¬ s.spacing ≤ Distance.zero) (hstart : s.interval.1 < s.path.size)
    (harea : s.path.Decides area)
    (hsum : ∀ start steps, s.path.point s.interval.1 = .ok start →
      area start.position = .ok false → s.stepsDown offset = .ok steps →
        maxCount < entry + steps → ¬ bad (.broken (.countOverflow entry steps))) :
    (peekingLine s area entry offset).Avoids bad := by
  obtain ⟨start, hbegins⟩ := Path.exists_point hstart
  obtain ⟨inside, hinside⟩ := harea start (Path.mem_of_point hbegins)
  obtain ⟨last, hlast⟩ := Path.exists_firstInside harea s.interval false
  obtain ⟨steps, hsteps⟩ := SampledPath.exists_stepsDown hspacing offset
  unfold peekingLine
  cases inside with
  | true => simp [hbegins, hinside, bind, Except.bind]
  | false =>
      simpa [hbegins, hinside, hlast, hsteps, Outcome.avoids_addCounts] using
        hsum start steps hbegins hinside hsteps

/-- What is asked has answers, so a plan avoids every fault that a sum past the largest count is
not. -/
lemma avoids_plan (hspacing : ¬ s.spacing ≤ Distance.zero) (hstart : s.interval.1 < s.path.size)
    (hattention : ∀ a, attention = some a → s.path.Decides a)
    (hsum : S.Overflow mapLine →
      ∀ a b, maxCount < a + b → ¬ bad (.broken (.countOverflow a b))) :
    (plan s conflicting attention mapLine closest c).Avoids bad := by
  obtain ⟨conflictFound, hconflict, hconflictEntry⟩ := S.conflict.exists_mapM
  obtain ⟨attentionFound, hwatched, hattentionEntry⟩ := S.watched.exists_mapM
  simp only [plan, S.margin, S.front, hconflict, hwatched, hconflictEntry, hattentionEntry,
    Outcome.avoids_bind, Outcome.avoids_ok, Except.ok.injEq, true_and, forall_eq']
  refine ⟨Outcome.avoids_optionMapM fun i hi => ?_, fun stuck hstuck => ⟨?_, fun default _ => ?_⟩⟩
  · refine Outcome.avoids_bind.mpr ⟨avoids_stuckLine S fun hlane hlt => ?_, fun _ _ => ?_⟩
    · exact hsum (.offsets (by simp [hi]) hlt (by simp [hlane])) _ _ hlt
    · exact Outcome.avoids_ok _
  · refine avoids_defaultLine fun hentered hline hlt => ?_
    refine hsum (.offsets hentered hlt fun hlane => ?_) _ _ hlt
    -- the stuck line that the map's line was compared with is the one at the start
    obtain ⟨i, hi⟩ := Option.ne_none_iff_exists'.mp hentered
    rw [hi, hlane] at hstuck
    cases hstuck
    exact hline
  · split
    · next area entry _ hentered =>
      have harea := hattention area rfl
      simp only [Outcome.avoids_bind, Outcome.pure_eq_ok, Outcome.avoids_ok, implies_true, and_true]
      refine avoids_peekingLine hspacing hstart harea fun _ _ hbegins houtside hsteps hlt => ?_
      exact hsum (.peeking rfl hentered hbegins houtside hsteps hlt) _ _ hlt
    · exact Outcome.avoids_ok _

end Avoids

/-- **When a plan is made.**  Let every sample be found to be inside the areas or outside of them.
Then what a plan asks has answers, and it is made unless it needs a sum past the largest count; if
it does, it breaks off for that reason. -/
theorem plan_of_decides (hspacing : ¬ s.spacing ≤ Distance.zero)
    (hstart : s.interval.1 < s.path.size)
    (hconflicting : ∀ a, conflicting = some a → s.path.Decides a)
    (hattention : ∀ a, attention = some a → s.path.Decides a) (mapLine : Option Nat)
    (closest : Nat) (c : Config K) : ∃ S : Survey s conflicting attention c,
      (¬ S.Overflow mapLine → ∃ lines,
        plan s conflicting attention mapLine closest c = .ok lines) ∧
      (S.Overflow mapLine → ∃ e,
        plan s conflicting attention mapLine closest c = .error e ∧ e.IsCountOverflow) := by
  obtain ⟨S⟩ := exists_survey hspacing hconflicting hattention c
  refine ⟨S, fun hno => ?_, fun hover => ?_⟩
  · exact Outcome.exists_of_avoids
      (avoids_plan S hspacing hstart hattention fun h => absurd h hno)
  · have havoids : (plan s conflicting attention mapLine closest c).Avoids
        fun e => ¬ e.IsCountOverflow :=
      avoids_plan S hspacing hstart hattention fun _ a b hlt hno => hno ⟨a, b, hlt, rfl⟩
    cases hplan : plan s conflicting attention mapLine closest c with
    | ok lines =>
        obtain ⟨P⟩ := placement_of_plan hplan
        rw [Subsingleton.elim S P.toSurvey] at hover
        exact absurd hover P.not_overflow
    | error e => exact ⟨e, rfl, by_contra fun hno => havoids e hno hplan⟩

end StopLines

end Crossing
