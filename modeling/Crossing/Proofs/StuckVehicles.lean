import Crossing.Proofs.HalfTurns
import Crossing.Proofs.Settled

/-!
# Which vehicles are stuck

A vehicle is stuck in an area (`RoadUser.StuckIn`) if it is slow, goes along one of the lanelets and
has an outline that meets the area.  `Perception.checkStuck` finds exactly those vehicles, draws
them in the order in which they are listed and changes nothing else in the drawing.  It gives
no answer only where the heading of a slow vehicle has none.

**A vehicle goes along a lane the way it moves.**  One that reverses is turned around before its
heading is looked at, and so is one that stands and whose velocity is just below zero.  Unless going
against a lane counts, such a vehicle is not stuck although it faces along the lane
(`not_forall_stuck_of_pose`).  If it does count, the sign of a velocity makes no difference.
-/

namespace Crossing

variable {K : Type} [Scalar K] {p : Perception K} {area : Region K} {limit : Speed K}
  {lanelets : List (Lanelet K)} {c : Config K} {sketch : Sketch K} {o o' : RoadUser K}

/-! ## One vehicle -/

namespace RoadUser

/-- A vehicle of the kinds that count, and no faster than a limit. -/
def IsSlow (o : RoadUser K) (limit : Speed K) : Prop :=
  o.kind.isTarget = true ∧ ¬ limit < o.velocity.abs

/-- **A vehicle that is stuck in an area**: a slow one that goes along one of the lanelets the way
it moves, and has an outline that meets the area. -/
structure StuckIn (o : RoadUser K) (area : Region K) (limit : Speed K)
    (lanelets : List (Lanelet K)) (c : Config K) : Prop where
  slow : o.IsSlow limit
  along : o.isAlong lanelets c = .ok true
  meets : ∃ outline, o.footprint = .ok (some outline) ∧ outline.intersects area = true

/-- If going against a lane counts, it does not matter which way a vehicle moves. -/
lemma isAlong_of_wrongDirection (hexact : Angle.HalfTurns K)
    (hwrong : c.common.wrongDirection = true) :
    o.isAlong lanelets c =
      o.pose.isAlong lanelets c.common.attentionAngle true c.common.attentionMargin := by
  rw [isAlong, facing, hwrong]
  split
  · exact o.pose.isAlong_reversed hexact lanelets _ _
  · rfl

/-- The same vehicle, but for the sign of its velocity. -/
structure SameButSign (o o' : RoadUser K) : Prop where
  rest : { o with velocity := o'.velocity } = o'
  speed : o'.velocity.abs = o.velocity.abs

end RoadUser

namespace Perception

lemma isStuck_of_not_slow (h : ¬ o.IsSlow limit) : isStuck area limit lanelets c o = .ok false := by
  refine if_pos ?_
  rw [RoadUser.IsSlow, not_and_or, not_not] at h
  simpa using h

lemma isStuck_of_slow (h : o.IsSlow limit) :
    isStuck area limit lanelets c o = do
      if ← o.isAlong lanelets c then
        return ((← o.footprint).map fun outline => outline.intersects area).getD false
      else return false := by
  have hslow : ¬ (!o.kind.isTarget || limit < o.velocity.abs) = true := by
    simpa [RoadUser.IsSlow] using h
  unfold isStuck
  rw [if_neg hslow]
  refine bind_congr fun along => ?_
  cases along with
  | false => rfl
  | true => exact bind_congr fun outline => by cases outline <;> rfl

/-- **The test of one vehicle**, if it has an outline or has none. -/
lemma isStuck_eq_ok_iff (hfoot : ∃ outline, o.footprint = .ok outline) :
    isStuck area limit lanelets c o = .ok true ↔ o.StuckIn area limit lanelets c := by
  obtain ⟨outline, hfoot⟩ := hfoot
  by_cases hslow : o.IsSlow limit
  · rw [isStuck_of_slow hslow]
    constructor
    · intro h
      obtain ⟨along, halong, h⟩ := Outcome.bind_eq_ok.mp h
      cases along with
      | false => cases h
      | true =>
          rw [if_pos rfl, hfoot] at h
          cases outline with
          | none => cases h
          | some outline => exact ⟨hslow, halong, outline, hfoot, Except.ok.inj h⟩
    · rintro ⟨-, halong, outline, hfoot, hmeets⟩
      rw [halong, hfoot]
      exact congrArg Except.ok hmeets
  · rw [isStuck_of_not_slow hslow]
    exact iff_of_false nofun fun h => hslow h.slow

/-- The test of a vehicle fails only where its heading is tested. -/
lemma isAlong_of_isStuck_error (hfoot : ∃ outline, o.footprint = .ok outline) {f : Fault K}
    (h : isStuck area limit lanelets c o = .error f) :
    o.IsSlow limit ∧ o.isAlong lanelets c = .error f := by
  obtain ⟨outline, hfoot⟩ := hfoot
  by_cases hslow : o.IsSlow limit
  · rw [isStuck_of_slow hslow] at h
    rcases Outcome.bind_eq_error.mp h with h | ⟨along, -, h⟩
    · exact ⟨hslow, h⟩
    · rw [hfoot] at h
      cases along <;> cases h
  · rw [isStuck_of_not_slow hslow] at h
    cases h

lemma isStuck_congr (hexact : Angle.HalfTurns K) (hwrong : c.common.wrongDirection = true)
    (h : o.SameButSign o') :
    isStuck area limit lanelets c o = isStuck area limit lanelets c o' := by
  obtain ⟨hrest, hspeed⟩ := h
  have halong : o'.isAlong lanelets c = o.isAlong lanelets c := by
    rw [RoadUser.isAlong_of_wrongDirection hexact hwrong,
      RoadUser.isAlong_of_wrongDirection hexact hwrong, ← hrest]
  have hkind : o'.kind = o.kind := by rw [← hrest]
  have hfoot : o'.footprint = o.footprint := by
    rw [← hrest]
    rfl
  rw [isStuck, isStuck, halong, hkind, hfoot, hspeed]

/-! ## All vehicles -/

/-- A check is what it finds, drawn. -/
lemma checkStuck_eq_map : p.checkStuck area limit lanelets c sketch =
    (fun ids => (!ids.isEmpty, { sketch with stuckTargets := sketch.stuckTargets ++ ids })) <$>
      List.map RoadUser.id <$> p.objects.filterM (isStuck area limit lanelets c) := by
  unfold checkStuck
  cases p.objects.filterM (isStuck area limit lanelets c) with
  | error f => rfl
  | ok stuck =>
      have hempty : stuck.isEmpty = (stuck.map RoadUser.id).isEmpty := by simp
      show Except.ok _ = Except.ok _
      rw [hempty]

open Classical in
/-- **Which vehicles are found stuck.**  Let every object have an outline or none.  Then those found
are exactly the vehicles that are stuck in the area: there is an answer whether there are any, and
they are drawn in their order behind what was drawn before.  Only where the heading of a slow
vehicle cannot be tested there is no answer.  If going against a lane counts, and angles are exact,
the signs of the velocities make no difference. -/
theorem checkStuck_spec (p : Perception K) (area : Region K) (limit : Speed K)
    (lanelets : List (Lanelet K)) (c : Config K) (sketch : Sketch K)
    (hfoot : ∀ o ∈ p.objects, ∃ outline, o.footprint = .ok outline) :
    ((∃ found, p.checkStuck area limit lanelets c sketch = .ok (found, { sketch with
          stuckTargets := sketch.stuckTargets ++
            (p.objects.filter fun o => o.StuckIn area limit lanelets c).map RoadUser.id }) ∧
        (found = true ↔ ∃ o ∈ p.objects, o.StuckIn area limit lanelets c)) ∨
      ∃ why, p.checkStuck area limit lanelets c sketch = .error (.broken why) ∧
        ∃ o ∈ p.objects, o.IsSlow limit ∧ o.isAlong lanelets c = .error (.broken why)) ∧
    (Angle.HalfTurns K → c.common.wrongDirection = true → ∀ q : Perception K,
      List.Forall₂ RoadUser.SameButSign p.objects q.objects →
        q.checkStuck area limit lanelets c sketch = p.checkStuck area limit lanelets c sketch) := by
  constructor
  · rw [checkStuck_eq_map]
    cases hstuck : p.objects.filterM (isStuck area limit lanelets c) with
    | error f =>
        right
        obtain ⟨o, ho, herror⟩ := Outcome.filterM_eq_error hstuck
        obtain ⟨hslow, halong⟩ := isAlong_of_isStuck_error (hfoot o ho) herror
        obtain ⟨why, rfl⟩ := (RoadUser.settled_isAlong o lanelets c).exists_broken halong
        exact ⟨why, rfl, o, ho, hslow, halong⟩
    | ok stuck =>
        left
        have hkeep : ∀ o ∈ p.objects, isStuck area limit lanelets c o =
            .ok (decide (o.StuckIn area limit lanelets c)) := by
          intro o ho
          obtain ⟨keep, hkeep⟩ := Outcome.exists_of_filterM hstuck o ho
          have hiff : keep = true ↔ o.StuckIn area limit lanelets c := by
            rw [← isStuck_eq_ok_iff (hfoot o ho), hkeep, Except.ok.injEq]
          rw [hkeep, Bool.eq_iff_iff.mpr (hiff.trans decide_eq_true_iff.symm)]
        rw [Outcome.filterM_eq_filter hkeep] at hstuck
        cases hstuck
        refine ⟨_, rfl, ?_⟩
        simp [List.filter_eq_nil_iff]
  · intro hexact hwrong q hq
    rw [checkStuck_eq_map, checkStuck_eq_map]
    congr 1
    refine (Outcome.map_filterM_congr (hq.imp fun o o' h => ?_)).symm
    exact ⟨isStuck_congr hexact hwrong h, by rw [← h.rest]⟩

/-! ## A car that creeps backwards

It stands across the area to be kept free, in the middle of a straight lanelet and along it, and
moves by a metre per second one way or the other.
-/

def eastTrial : Outcome (FourPlaces rationals) (Lanelet (FourPlaces rationals)) := do
  let left ← Polyline.ofPoints [⟨0, 1⟩, ⟨Scalar.ofNat 10, 1⟩]
  let right ← Polyline.ofPoints [⟨0, -1⟩, ⟨Scalar.ofNat 10, -1⟩]
  Lanelet.ofBounds ⟨1⟩ left right

def eastLane : Lanelet (FourPlaces rationals) := eastTrial.toOption.get (by decide +kernel)

def creepingCar (v : FourPlaces rationals) : RoadUser (FourPlaces rationals) where
  id := ⟨1⟩
  kind := .car
  pose := ⟨⟨Scalar.ofNat 5, 0⟩, ⟨0⟩⟩
  velocity := ⟨v⟩
  shape := .box ⟨Scalar.ofNat 4⟩ ⟨Scalar.ofNat 2⟩
  predictions := []

def clearArea : Region (FourPlaces rationals) :=
  let near := Scalar.ofNat 3
  let far := Scalar.ofNat 7
  ⟨[⟨near, -1⟩, ⟨far, -1⟩, ⟨far, 1⟩, ⟨near, 1⟩, ⟨near, -1⟩]⟩

def eitherWay (wrongDirection : Bool) : Config (FourPlaces rationals) :=
  { Config.default with common := { Config.defaultCommon with wrongDirection } }

def creeping (v : FourPlaces rationals) (wrongDirection : Bool) :
    Outcome (FourPlaces rationals) (Bool × Sketch (FourPlaces rationals)) :=
  checkStuck ⟨⟨0⟩, [creepingCar v]⟩ clearArea ⟨1⟩ [eastLane] (eitherWay wrongDirection) Sketch.empty

lemma exists_footprint_creepingCar (v : FourPlaces rationals) :
    ∀ o ∈ [creepingCar v], ∃ outline, o.footprint = .ok outline := by
  intro o ho
  cases List.mem_singleton.mp ho
  have hsame : (creepingCar v).footprint = (creepingCar 0).footprint := rfl
  rw [hsame]
  exact ⟨_, Outcome.eq_ok_getD (by decide +kernel) none⟩

/-- A car that creeps forwards is stuck; if going against a lane counts, it is the same with one
that creeps backwards. -/
theorem checkStuck_spec_creepingCar :
    (creepingCar 1).StuckIn clearArea ⟨1⟩ [eastLane] (eitherWay false) ∧
      creeping (-1) true = creeping 1 true := by
  have hpi : (0 : FourPlaces rationals) < Scalar.pi := by decide +kernel
  constructor
  · obtain ⟨hforwards, -⟩ := checkStuck_spec ⟨⟨0⟩, [creepingCar 1]⟩ clearArea ⟨1⟩ [eastLane]
      (eitherWay false) Sketch.empty (exists_footprint_creepingCar _)
    have htrue : (creeping 1 false).toOption.map Prod.fst = some true := by decide +kernel
    rcases hforwards with ⟨found, hok, hfound⟩ | ⟨why, herror, -⟩
    · rw [creeping, hok] at htrue
      obtain ⟨o, ho, hstuck⟩ := hfound.mp (Option.some.inj htrue)
      cases List.mem_singleton.mp ho
      exact hstuck
    · rw [creeping, herror] at htrue
      cases htrue
  · have hsame : (creepingCar 1).SameButSign (creepingCar (-1)) :=
      ⟨rfl, by decide +kernel⟩
    obtain ⟨-, hsign⟩ := checkStuck_spec ⟨⟨0⟩, [creepingCar 1]⟩ clearArea ⟨1⟩ [eastLane]
      (eitherWay true) Sketch.empty (exists_footprint_creepingCar _)
    exact hsign (FourPlaces.halfTurns hpi) rfl ⟨⟨0⟩, [creepingCar (-1)]⟩ (.cons hsame .nil)

/-- **A slow vehicle that faces along a lanelet need not be found**, if it creeps backwards. -/
theorem not_forall_stuck_of_pose :
    ¬ ∀ (p : Perception (FourPlaces rationals)) (area : Region (FourPlaces rationals))
      (limit : Speed (FourPlaces rationals)) (lanelets : List (Lanelet (FourPlaces rationals)))
      (c : Config (FourPlaces rationals)) (sketch : Sketch (FourPlaces rationals)),
      Speed.zero ≤ limit → (∀ o ∈ p.objects, ∃ outline, o.footprint = .ok outline) →
      ∃ found sketch', p.checkStuck area limit lanelets c sketch = .ok (found, sketch') ∧
        (found = true ↔ ∃ o ∈ p.objects, o.IsSlow limit ∧
          o.pose.isAlong lanelets c.common.attentionAngle c.common.wrongDirection
            c.common.attentionMargin = .ok true ∧
          ∃ outline, o.footprint = .ok (some outline) ∧ outline.intersects area = true) := by
  intro h
  obtain ⟨found, sketch', hok, hfound⟩ := h ⟨⟨0⟩, [creepingCar (-1)]⟩ clearArea ⟨1⟩ [eastLane]
    (eitherWay false) Sketch.empty (by decide +kernel) (exists_footprint_creepingCar _)
  have hfalse : (creeping (-1) false).toOption.map Prod.fst = some false := by decide +kernel
  rw [creeping, hok] at hfalse
  cases Option.some.inj hfalse
  have hmeets : (creepingCar (-1)).footprint.toOption.join.map
      (fun outline => outline.intersects clearArea) = some true := by decide +kernel
  obtain ⟨outline, hfoot, hmeets⟩ := Outcome.exists_of_toOption hmeets
  refine Bool.false_ne_true (hfound.mpr ⟨_, List.mem_cons_self, ⟨rfl, by decide +kernel⟩, ?_,
    outline, hfoot, hmeets⟩)
  decide +kernel

end Perception

end Crossing
