import Mathlib.Data.List.Nodup
import Crossing.Format.Config
import Crossing.Proofs.Rational

/-!
# Configurations of which parts are left out

A written configuration only has to list what it changes.  So if members are left out of the
written form of a configuration, whole sections or members of sections, it still reads, and what is
left out has its default: `Config.decode_prune`.

**Leaving out.**  An `Omission` names sections and members of sections.  It can be applied to a
written value (`Json.prune`), which only drops members, and to a configuration (`Config.without`),
which puts defaults in the place of what is left out.  Reading turns the one into the other.

**Reading what is left.**  Dropping members does not make any of them stand twice, and looking one
up gives what it gave before, or nothing (`sparseMembers?_without`).  So a member that is left out
has its default and any other member reads as it did (`withDefault_without`).  A section is a record
of numbers and flags, which read back as long as the numbers are finite, and a configuration is a
record of sections.
-/

namespace Crossing

variable {K : Type}

/-! ## Leaving members out of records -/

/-- **Which members are left out** of a record of records. -/
structure Omission where
  /-- Is the section of this name left out? -/
  sections : String → Bool
  /-- Is the member of the second name left out of the section of the first? -/
  members : String → String → Bool

/-- The omission of nothing. -/
def Omission.nothing : Omission := ⟨fun _ => false, fun _ _ => false⟩

namespace Json

/-- A record without the members of some names. -/
def without (left : String → Bool) : Json K → Json K
  | .record ms => .record (ms.filter fun m => !left m.1)
  | v => v

/-- **A record of records without what an omission names.** -/
def prune (o : Omission) : Json K → Json K
  | .record ms => (record (ms.map fun m => (m.1, m.2.without (o.members m.1)))).without o.sections
  | v => v

@[simp] lemma without_nothing (v : Json K) : v.without (fun _ => false) = v := by
  cases v <;> simp [without]

@[simp] lemma prune_nothing (v : Json K) : v.prune .nothing = v := by
  cases v <;> simp [prune, Omission.nothing]

end Json

namespace Format

variable {α : Type} {names : List String} {ms : List (String × Json K)} {left : String → Bool}

lemma lookup_filter (left : String → Bool) (name : String) : ∀ ms : List (String × Json K),
    (ms.filter fun m => !left m.1).lookup name = if left name then none else ms.lookup name
  | [] => by simp
  | (other, v) :: ms => by
      rw [List.filter_cons]
      by_cases hname : name = other
      · subst hname
        cases hleft : left name <;> simp [hleft, lookup_filter left name ms]
      · have hne : (name == other) = false := beq_eq_false_iff_ne.mpr hname
        cases hleft : left other <;> simp [List.lookup_cons, hne, lookup_filter left name ms]

lemma isUnambiguous_of_nodup (h : (ms.map Prod.fst).Nodup) : isUnambiguous names ms = true := by
  rw [isUnambiguous, List.all_eq_true]
  intro name _
  have hcount := List.nodup_iff_count_le_one.mp h name
  rw [List.count, List.countP_map] at hcount
  exact decide_eq_true hcount

/-- What is left of a record gives what the record gave, or nothing. -/
lemma sparseMembers?_without (h : (ms.map Prod.fst).Nodup) :
    sparseMembers? names ((Json.record ms).without left) =
      some fun name => if left name then none else ms.lookup name := by
  have hleft : ((ms.filter fun m => !left m.1).map Prod.fst).Nodup :=
    h.sublist (List.filter_sublist.map Prod.fst)
  rw [Json.without, sparseMembers?, isUnambiguous_of_nodup hleft]
  simp only [if_true, lookup_filter]

/-- **A member that is left out has its default**, and any other one reads as it did. -/
lemma withDefault_without [Format K α] {name : String} {v : Json K} {own default : α}
    (hlookup : ms.lookup name = some v) (hread : decode? v = some own) :
    withDefault (fun name => if left name then none else ms.lookup name) name default =
      some (if left name then default else own) := by
  rw [withDefault]
  cases left name with
  | true => rfl
  | false =>
      simp only [Bool.false_eq_true, if_false, hlookup]
      exact hread

/-! ## What reads back -/

/-- **What is written reads back** as it was. -/
def ReadsBack (K : Type) {α : Type} [Format K α] (a : α) : Prop :=
  decode? (encode a : Json K) = some a

lemma readsBack_flag (b : Bool) : ReadsBack K b := rfl

variable [Scalar K]

lemma readsBack_number {x : K} (h : Scalar.isFinite x = true) : ReadsBack K x :=
  Option.filter_eq_some_iff.mpr ⟨rfl, h⟩

lemma readsBack_distance {d : Distance K} (h : Scalar.isFinite d.metres = true) : ReadsBack K d :=
  congrArg (Option.map Distance.mk) (readsBack_number h)

lemma readsBack_duration {t : Duration K} (h : Scalar.isFinite t.seconds = true) : ReadsBack K t :=
  congrArg (Option.map Duration.mk) (readsBack_number h)

lemma readsBack_speed {v : Speed K} (h : Scalar.isFinite v.metresPerSecond = true) :
    ReadsBack K v :=
  congrArg (Option.map Speed.mk) (readsBack_number h)

lemma readsBack_angle {a : Angle K} (h : Scalar.isFinite a.radians = true) : ReadsBack K a :=
  congrArg (Option.map Angle.mk) (readsBack_number h)

end Format

/-! ## Sections

Of every section, its numbers, and what it is without the members of some names: those have their
defaults.
-/

namespace CommonConfig

def numbers (c : CommonConfig K) : List K :=
  [c.pathSpacing.metres, c.stopMargin.metres, c.attentionLength.metres,
    c.attentionMargin.metres, c.attentionAngle.radians]

variable [Scalar K]

def without (left : String → Bool) (c : CommonConfig K) : CommonConfig K :=
  let d : CommonConfig K := Config.defaultCommon
  { pathSpacing := if left "path_interpolation_ds" then d.pathSpacing else c.pathSpacing
    stopMargin := if left "stop_line_margin" then d.stopMargin else c.stopMargin
    attentionLength := if left "attention_area_length" then d.attentionLength else c.attentionLength
    attentionMargin := if left "attention_area_margin" then d.attentionMargin else c.attentionMargin
    attentionAngle :=
      if left "attention_area_angle_threshold" then d.attentionAngle else c.attentionAngle
    wrongDirection :=
      if left "consider_wrong_direction_vehicle" then d.wrongDirection else c.wrongDirection
    stopAtLaneStart := if left "use_stuck_stopline" then d.stopAtLaneStart else c.stopAtLaneStart }

lemma decode_without {c : CommonConfig K} (h : ∀ x ∈ c.numbers, Scalar.isFinite x = true)
    (left : String → Bool) :
    Format.decode? ((Format.encode c : Json K).without left) = some (c.without left) := by
  simp only [numbers, List.forall_mem_cons] at h
  obtain ⟨hspacing, hstop, hlength, hmargin, hangle, -⟩ := h
  simp only [Format.decode?, Format.encode]
  rw [Format.sparseMembers?_without (by simp)]
  simp only [bind, Option.bind]
  rw [Format.withDefault_without rfl (Format.readsBack_distance hspacing),
    Format.withDefault_without rfl (Format.readsBack_distance hstop),
    Format.withDefault_without rfl (Format.readsBack_distance hlength),
    Format.withDefault_without rfl (Format.readsBack_distance hmargin),
    Format.withDefault_without rfl (Format.readsBack_angle hangle),
    Format.withDefault_without rfl (Format.readsBack_flag c.wrongDirection),
    Format.withDefault_without rfl (Format.readsBack_flag c.stopAtLaneStart)]
  rfl

end CommonConfig

namespace StuckConfig

def numbers (c : StuckConfig K) : List K := [c.reach.metres, c.speedLimit.metresPerSecond]

variable [Scalar K]

def without (left : String → Bool) (c : StuckConfig K) : StuckConfig K :=
  let d : StuckConfig K := Config.defaultStuck
  { reach := if left "stuck_vehicle_detect_dist" then d.reach else c.reach
    speedLimit := if left "stuck_vehicle_velocity_threshold" then d.speedLimit else c.speedLimit }

lemma decode_without {c : StuckConfig K} (h : ∀ x ∈ c.numbers, Scalar.isFinite x = true)
    (left : String → Bool) :
    Format.decode? ((Format.encode c : Json K).without left) = some (c.without left) := by
  simp only [numbers, List.forall_mem_cons] at h
  obtain ⟨hreach, hlimit, -⟩ := h
  simp only [Format.decode?, Format.encode]
  rw [Format.sparseMembers?_without (by simp)]
  simp only [bind, Option.bind]
  rw [Format.withDefault_without rfl (Format.readsBack_distance hreach),
    Format.withDefault_without rfl (Format.readsBack_speed hlimit)]
  rfl

end StuckConfig

namespace OcclusionConfig

def numbers (c : OcclusionConfig K) : List K :=
  [c.attentionLength.metres, c.peekingOffset.metres, c.resolution.metres, c.sensingRange.metres]

variable [Scalar K]

def without (left : String → Bool) (c : OcclusionConfig K) : OcclusionConfig K :=
  let d : OcclusionConfig K := Config.defaultOcclusion
  { enabled := if left "enable" then d.enabled else c.enabled
    attentionLength :=
      if left "occlusion_attention_area_length" then d.attentionLength else c.attentionLength
    peekingOffset := if left "peeking_offset" then d.peekingOffset else c.peekingOffset
    resolution := if left "resolution" then d.resolution else c.resolution
    sensingRange := if left "sensing_range" then d.sensingRange else c.sensingRange }

lemma decode_without {c : OcclusionConfig K} (h : ∀ x ∈ c.numbers, Scalar.isFinite x = true)
    (left : String → Bool) :
    Format.decode? ((Format.encode c : Json K).without left) = some (c.without left) := by
  simp only [numbers, List.forall_mem_cons] at h
  obtain ⟨hlength, hpeeking, hresolution, hrange, -⟩ := h
  simp only [Format.decode?, Format.encode]
  rw [Format.sparseMembers?_without (by simp)]
  simp only [bind, Option.bind]
  rw [Format.withDefault_without rfl (Format.readsBack_flag c.enabled),
    Format.withDefault_without rfl (Format.readsBack_distance hlength),
    Format.withDefault_without rfl (Format.readsBack_distance hpeeking),
    Format.withDefault_without rfl (Format.readsBack_distance hresolution),
    Format.withDefault_without rfl (Format.readsBack_distance hrange)]
  rfl

end OcclusionConfig

namespace CollisionConfig

def numbers (c : CollisionConfig K) : List K :=
  [c.startDelay.seconds, c.crossingVelocity.metresPerSecond, c.minimumVelocity.metresPerSecond,
    c.minimumCommanded.metresPerSecond, c.rampAcceleration, c.horizon.seconds]

variable [Scalar K]

def without (left : String → Bool) (c : CollisionConfig K) : CollisionConfig K :=
  let d : CollisionConfig K := Config.defaultCollision
  { startDelay := if left "start_delay" then d.startDelay else c.startDelay
    crossingVelocity :=
      if left "intersection_velocity" then d.crossingVelocity else c.crossingVelocity
    minimumVelocity := if left "minimum_ego_velocity" then d.minimumVelocity else c.minimumVelocity
    useCommanded := if left "use_upstream_velocity" then d.useCommanded else c.useCommanded
    minimumCommanded :=
      if left "minimum_upstream_velocity" then d.minimumCommanded else c.minimumCommanded
    rampAcceleration := if left "ramp_acceleration" then d.rampAcceleration else c.rampAcceleration
    horizon := if left "predicted_path_horizon" then d.horizon else c.horizon }

lemma decode_without {c : CollisionConfig K} (h : ∀ x ∈ c.numbers, Scalar.isFinite x = true)
    (left : String → Bool) :
    Format.decode? ((Format.encode c : Json K).without left) = some (c.without left) := by
  simp only [numbers, List.forall_mem_cons] at h
  obtain ⟨hdelay, hcrossing, hminimum, hcommanded, hramp, hhorizon, -⟩ := h
  simp only [Format.decode?, Format.encode]
  rw [Format.sparseMembers?_without (by simp)]
  simp only [bind, Option.bind]
  rw [Format.withDefault_without rfl (Format.readsBack_duration hdelay),
    Format.withDefault_without rfl (Format.readsBack_speed hcrossing),
    Format.withDefault_without rfl (Format.readsBack_speed hminimum),
    Format.withDefault_without rfl (Format.readsBack_flag c.useCommanded),
    Format.withDefault_without rfl (Format.readsBack_speed hcommanded),
    Format.withDefault_without rfl (Format.readsBack_number hramp),
    Format.withDefault_without rfl (Format.readsBack_duration hhorizon)]
  rfl

end CollisionConfig

namespace VehicleConfig

def numbers (c : VehicleConfig K) : List K := [c.front.metres, c.width.metres]

variable [Scalar K]

def without (left : String → Bool) (c : VehicleConfig K) : VehicleConfig K :=
  let d : VehicleConfig K := Config.defaultVehicle
  { front := if left "base_link_to_front" then d.front else c.front
    width := if left "vehicle_width" then d.width else c.width }

lemma decode_without {c : VehicleConfig K} (h : ∀ x ∈ c.numbers, Scalar.isFinite x = true)
    (left : String → Bool) :
    Format.decode? ((Format.encode c : Json K).without left) = some (c.without left) := by
  simp only [numbers, List.forall_mem_cons] at h
  obtain ⟨hfront, hwidth, -⟩ := h
  simp only [Format.decode?, Format.encode]
  rw [Format.sparseMembers?_without (by simp)]
  simp only [bind, Option.bind]
  rw [Format.withDefault_without rfl (Format.readsBack_distance hfront),
    Format.withDefault_without rfl (Format.readsBack_distance hwidth)]
  rfl

end VehicleConfig

/-! ## Configurations -/

namespace Config

/-- The numbers of a configuration. -/
def numbers (c : Config K) : List K :=
  c.common.numbers ++ c.stuck.numbers ++ c.occlusion.numbers ++ c.collision.numbers ++
    c.vehicle.numbers

variable [Scalar K]

/-- **A configuration with defaults in the place of what an omission names.** -/
def without (o : Omission) (c : Config K) : Config K where
  common := if o.sections "common" then defaultCommon else c.common.without (o.members "common")
  stuck := if o.sections "stuck_vehicle" then defaultStuck
    else c.stuck.without (o.members "stuck_vehicle")
  occlusion := if o.sections "occlusion" then defaultOcclusion
    else c.occlusion.without (o.members "occlusion")
  collision := if o.sections "collision_detection" then defaultCollision
    else c.collision.without (o.members "collision_detection")
  vehicle := if o.sections "vehicle" then defaultVehicle
    else c.vehicle.without (o.members "vehicle")

@[simp] lemma without_nothing (c : Config K) : c.without .nothing = c := rfl

/-- The sections that are left, each with the members that are left. -/
lemma prune_encode (c : Config K) (o : Omission) :
    (Format.encode c : Json K).prune o = (Json.record [
      ("common", (Format.encode c.common).without (o.members "common")),
      ("stuck_vehicle", (Format.encode c.stuck).without (o.members "stuck_vehicle")),
      ("occlusion", (Format.encode c.occlusion).without (o.members "occlusion")),
      ("collision_detection",
        (Format.encode c.collision).without (o.members "collision_detection")),
      ("vehicle", (Format.encode c.vehicle).without (o.members "vehicle"))]).without
        o.sections := rfl

/-- **What is left out has its default.**  Whatever is left out of the written form of a
configuration with finite numbers, be it sections or members of sections, what remains reads as the
configuration with the defaults of what is left out.  If nothing is, it reads as it was. -/
theorem decode_prune (c : Config K) (h : ∀ x ∈ c.numbers, Scalar.isFinite x = true) :
    (∀ o : Omission,
      Format.decode? ((Format.encode c : Json K).prune o) = some (c.without o)) ∧
    Format.decode? (Format.encode c : Json K) = some c := by
  simp only [numbers, List.forall_mem_append] at h
  obtain ⟨⟨⟨⟨hcommon, hstuck⟩, hocclusion⟩, hcollision⟩, hvehicle⟩ := h
  have hprune (o : Omission) :
      Format.decode? ((Format.encode c : Json K).prune o) = some (c.without o) := by
    rw [prune_encode]
    simp only [Format.decode?]
    rw [Format.sparseMembers?_without (by simp)]
    simp only [bind, Option.bind]
    rw [Format.withDefault_without rfl (CommonConfig.decode_without hcommon _),
      Format.withDefault_without rfl (StuckConfig.decode_without hstuck _),
      Format.withDefault_without rfl (OcclusionConfig.decode_without hocclusion _),
      Format.withDefault_without rfl (CollisionConfig.decode_without hcollision _),
      Format.withDefault_without rfl (VehicleConfig.decode_without hvehicle _)]
    rfl
  refine ⟨hprune, ?_⟩
  simpa using hprune .nothing

/-! ### Two members of two sections -/

/-- A configuration with no default in it. -/
def unusual : Config Rat where
  common := ⟨⟨1.5⟩, ⟨1.5⟩, ⟨1.5⟩, ⟨1.5⟩, ⟨1.5⟩, true, false⟩
  stuck := ⟨⟨1.5⟩, ⟨1.5⟩⟩
  occlusion := ⟨false, ⟨1.5⟩, ⟨1.5⟩, ⟨1.5⟩, ⟨1.5⟩⟩
  collision := ⟨⟨1.5⟩, ⟨1.5⟩, ⟨1.5⟩, true, ⟨1.5⟩, 1.5, ⟨1.5⟩⟩
  vehicle := ⟨⟨1.5⟩, ⟨1.5⟩⟩

/-- The omission of everything but the stop margin and the flag for what is hidden. -/
def mostOf : Omission where
  sections name := name ≠ "common" && name ≠ "occlusion"
  members _ name := name ≠ "stop_line_margin" && name ≠ "enable"

theorem decode_prune_unusual :
    Format.decode? (Json.record [("common", .record [("stop_line_margin", .real 1.5)]),
      ("occlusion", .record [("enable", .bool false)])] : Json Rat) =
        some ({ default with
          common := { defaultCommon with stopMargin := ⟨1.5⟩ }
          occlusion := { defaultOcclusion with enabled := false } } : Config Rat) :=
  (decode_prune unusual fun _ _ => rfl).1 mostOf

end Config

end Crossing
