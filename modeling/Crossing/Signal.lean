import Crossing.Lanelet

/-!
# Traffic lights

What a traffic light shows decides how much the vehicle may rely on its right of way.  The
judgement is about the light that controls the vehicle's own lanelet: when it is red or shows an
arrow, traffic that conflicts is taken to be stopped, and when it is amber, some may still be
clearing the intersection.  Whatever is missing, or describes another light, gives no right of
way, and amber weighs more than everything else that is lit.
-/

namespace Crossing

inductive SignalColor where
  | red
  | amber
  | green
  | white
  | unknown
  deriving DecidableEq

inductive SignalShape where
  | circle
  | leftArrow
  | rightArrow
  | upArrow
  | downArrow
  | cross
  | unknown
  deriving DecidableEq

def SignalShape.isArrow : SignalShape → Bool
  | .leftArrow | .rightArrow | .upArrow | .downArrow => true
  | .circle | .cross | .unknown => false

/-- One lamp that is lit. -/
structure SignalElement (K : Type) where
  color : SignalColor
  shape : SignalShape
  /-- How sure the recognition is. -/
  confidence : K
  deriving DecidableEq

/-- What a traffic light shows. -/
structure TrafficSignal (K : Type) where
  light : LightId
  elements : List (SignalElement K)
  deriving DecidableEq

/-- What a traffic light showed at a time. -/
structure StampedSignal (K : Type) where
  stamp : Duration K
  signal : TrafficSignal K
  deriving DecidableEq

/-- The latest state of each light; of two for one light the later one counts. -/
abbrev Signals (K : Type) := List (LightId × StampedSignal K)

/-- How far conflicting traffic is stopped. -/
inductive Priority where
  /-- It is stopped. -/
  | fully
  /-- Some of it may still be clearing. -/
  | partially
  /-- Nothing is known to stop it. -/
  | not
  deriving DecidableEq

namespace Priority

variable {K : Type}

/-- The judgement by the lamps that are lit. -/
def ofElements (elements : List (SignalElement K)) : Priority :=
  if elements.any (·.color = .amber) then .partially
  else if elements.any fun e => e.color = .red || e.shape.isArrow then .fully
  else .not

/-- **How far conflicting traffic is stopped** before a lanelet. -/
def ofLanelet (l : Lanelet K) (signals : Signals K) : Priority :=
  match l.light with
  | none => .not
  | some light =>
    match signals.reverse.lookup light with
    | none => .not
    | some stamped =>
      if stamped.signal.light = light then ofElements stamped.signal.elements else .not

end Priority

end Crossing
