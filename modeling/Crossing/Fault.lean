import Crossing.Measure
import Crossing.IdSet

/-!
# Why an answer can be missing

Two things end a computation early, and callers treat them differently.

* A **refusal** says that the input does not meet a demand that inputs may well fail to meet: a
  line that is too short, a lanelet that the map does not have.  A caller may go on without the
  part that was refused (`Outcome.tolerate`), and may say what it was doing (`Outcome.within`).
* A **breach** says that a value was asked for that cannot exist: a distance that is no finite
  number, a quotient by zero, a sum past the largest count, a place past the end of a path.  Nothing
  recovers from a breach.

Both name their cause by a constructor with the data of the case.  The wording of messages is
in one place, `Fault.message`; a breach that is nobody's intention has no message.
-/

namespace Crossing

/-- The kinds of number that have to be finite. -/
inductive Quantity where
  | distance
  | duration
  | speed
  | angle
  deriving DecidableEq

/-- Settings of the planner that have to be positive. -/
inductive Setting where
  | pathSpacing
  | occlusionResolution
  | minimumVelocity
  | crossingVelocity
  | vehicleWidth
  deriving DecidableEq

/-- **Demands on inputs that were not met.** -/
inductive Refusal (K : Type) where
  | shortSegment (start finish : Point K)
  | fewPoints
  | crowdedPoints
  | fewCorners (count : Nat)
  | beforeStart (position : Distance K)
  | pastEnd (position length : Distance K)
  | noSuchSlice (start finish length : Distance K)
  | definedTwice (id : LaneletId)
  | yieldsMissing (id missing : LaneletId)
  | areaMissing (id : LaneletId) (missing : AreaId)
  | notInMap (id : LaneletId)
  | assignedNotInMap (id : LaneletId)
  | detectionNotInMap (id : LaneletId)
  | badPathSpacing (spacing : Distance K)
  | badResolution (resolution : Distance K)
  | fewCrossSections (id : LaneletId) (count : Nat) (resolution : Distance K)
  | emptyPath (id : LaneletId)
  | notAssociated (current wanted : LaneletId) (associated : IdSet)
  | unreadableConfig
  | lengthNotPositive (setting : Setting) (value : Distance K)
  | speedNotPositive (setting : Setting) (value : Speed K)
  | negativeRamp (acceleration : K)
  | negativeClearance
  deriving DecidableEq

/-- What was being done when a demand was not met. -/
inductive Activity where
  | centerlineOf (id : LaneletId)
  | outlineOf (id : LaneletId)
  | configuring (id : LaneletId)
  | discretizing (id : LaneletId)
  deriving DecidableEq

/-- **Values that cannot exist.** -/
inductive Breach (K : Type) where
  | notFinite (quantity : Quantity) (value : K)
  | pointNotFinite (x y : K)
  | distanceByZero (dividend divisor : Distance K)
  | distanceByZeroFactor (dividend : Distance K) (divisor : K)
  | distanceByStandstill (dividend : Distance K)
  | durationByZero (dividend divisor : Duration K)
  | speedByZeroFactor (dividend : Speed K) (divisor : K)
  | strideNotPositive
  | countOverflow (a b : Nat)
  | unmetDemand (demand : Refusal K)
  | outsidePath (index : Nat)
  | laneletMissing (id : LaneletId)
  | nothingToChoose
  deriving DecidableEq

/-- Why a computation ended early; activities are listed from the outermost. -/
inductive Fault (K : Type) where
  | refused (why : Refusal K) (activities : List Activity)
  | broken (why : Breach K)
  deriving DecidableEq

/-- The value of a computation, or why there is none. -/
abbrev Outcome (K α : Type) := Except (Fault K) α

namespace Outcome

variable {K α : Type}

/-- The computation that ends in a refusal. -/
def refuse (why : Refusal K) : Outcome K α := .error (.refused why [])

/-- The computation that ends in a breach. -/
def breach (why : Breach K) : Outcome K α := .error (.broken why)

/-- Says in a refusal what was being done. -/
def within (activity : Activity) : Outcome K α → Outcome K α
  | .error (.refused why activities) => .error (.refused why (activity :: activities))
  | result => result

/-- Goes on without a value that was refused; a breach stays one. -/
def tolerate : Outcome K α → Outcome K (Option α)
  | .ok a => .ok (some a)
  | .error (.refused _ _) => .ok none
  | .error (.broken why) => .error (.broken why)

/-- Insists on a value: a refusal becomes a breach. -/
def insist : Outcome K α → Outcome K α
  | .error (.refused why _) => .error (.broken (.unmetDemand why))
  | result => result

/-- The value of an option that has to be there; `why` is the breach when it is not. -/
def demand (why : Breach K) : Option α → Outcome K α
  | some a => .ok a
  | none => breach why

/-- The sum of two counts; it is a breach when it is past the largest count. -/
def addCounts (a b : Nat) : Outcome K Nat :=
  if a + b ≤ maxCount then .ok (a + b) else breach (.countOverflow a b)

end Outcome

/-! ## Wording -/

/-- The name of a kind of number. -/
def Quantity.text : Quantity → String
  | .distance => "Distance"
  | .duration => "Duration"
  | .speed => "Speed"
  | .angle => "Angle"

/-- The name of a setting. -/
def Setting.text : Setting → String
  | .pathSpacing => "path_interpolation_ds"
  | .occlusionResolution => "occlusion resolution"
  | .minimumVelocity => "minimum_ego_velocity"
  | .crossingVelocity => "intersection_velocity"
  | .vehicleWidth => "vehicle_width"

/-- A set of lanelets as messages list it. -/
def IdSet.text (s : IdSet) : String :=
  let members := s.toList.map fun id => s!"LaneletID({id.value})"
  "\x7b" ++ ", ".intercalate members ++ "\x7d"

section Message

variable {K : Type} [Numeral K]

/-- The wording of a refusal. -/
def Refusal.message : Refusal K → String
  | .shortSegment a b => "Line from " ++ a.text ++ " to " ++ b.text ++ " too small"
  | .fewPoints => "Need at least two points for a PolyLine"
  | .crowdedPoints => "PolyLine has ~dupe adjacent pts"
  | .fewCorners n => s!"Polygon needs at least 3 distinct points, got {n}"
  | .beforeStart d => "dist_along " ++ d.text ++ " is negative"
  | .pastEnd d length => "dist_along " ++ d.text ++ " is longer than " ++ length.text
  | .noSuchSlice a b length =>
    "Can't get a polyline slice [" ++ a.text ++ ", " ++ b.text ++ "] of length " ++ length.text
  | .definedTwice id => id.text ++ " is defined twice"
  | .yieldsMissing id other =>
    id.text ++ " has right-of-way over " ++ other.text ++ ", which doesn't exist"
  | .areaMissing id area => id.text ++ " belongs to " ++ area.text ++ ", which doesn't exist"
  | .notInMap id => id.text ++ " isn't in the map"
  | .assignedNotInMap id => "assigned " ++ id.text ++ " isn't in the map"
  | .detectionNotInMap id => "detection lanelet " ++ id.text ++ " isn't in the map"
  | .badPathSpacing d => "Can't interpolate a path with step " ++ d.text
  | .badResolution d => "Can't discretize lanes with resolution " ++ d.text
  | .fewCrossSections id n d =>
    id.text ++ s!" only has {n} cross-sections at resolution " ++ d.text
  | .emptyPath id => "interpolated path for " ++ id.text ++ " is empty"
  | .notAssociated id wanted ids =>
    "Can't reassign the intersection at " ++ id.text ++ " to " ++ wanted.text ++
      "; it's not one of " ++ ids.text
  | .unreadableConfig => "parsing IntersectionConfig"
  | .lengthNotPositive s d => s.text ++ " must be positive, not " ++ d.text
  | .speedNotPositive s v => s.text ++ " must be positive, not " ++ v.text
  | .negativeRamp a => "ramp_acceleration can't be negative, got " ++ Numeral.text a
  | .negativeClearance =>
    "stop_line_margin, base_link_to_front, and peeking_offset can't be negative"

/-- The wording of an activity. -/
def Activity.message : Activity → String
  | .centerlineOf id => "centerline of " ++ id.text
  | .outlineOf id => "polygon of " ++ id.text
  | .configuring id => "bad config for the intersection at " ++ id.text
  | .discretizing id => "discretizing the attention lanes of " ++ id.text

/-- The wording of a breach, for those that have one. -/
def Breach.message : Breach K → Option String
  | .notFinite q value => some ("Bad " ++ q.text ++ " " ++ Numeral.text value)
  | .pointNotFinite x y => some ("Bad Pt2D " ++ Numeral.text x ++ ", " ++ Numeral.text y)
  | .distanceByZero a b => some ("Can't divide " ++ a.text ++ " / " ++ b.text)
  | .distanceByZeroFactor a k => some ("Can't divide " ++ a.text ++ " / " ++ Numeral.text k)
  | .distanceByStandstill a => some ("Can't divide " ++ a.text ++ " / 0 m/s")
  | .durationByZero a b => some ("Can't divide " ++ a.text ++ " / " ++ b.text)
  | .speedByZeroFactor a k => some ("Can't divide " ++ a.text ++ " / " ++ Numeral.text k)
  | .strideNotPositive => some "step_distances needs a positive step"
  | .countOverflow _ _ | .unmetDemand _ | .outsidePath _ | .laneletMissing _
  | .nothingToChoose => none

/-- **The message of a fault**: what was being done, from the outside in, and then the cause. -/
def Fault.message : Fault K → Option String
  | .refused why activities =>
    some (": ".intercalate (activities.map Activity.message ++ [why.message]))
  | .broken why => why.message

end Message

end Crossing
