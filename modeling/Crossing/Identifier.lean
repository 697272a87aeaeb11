/-!
# What the map and the perception of objects call things

Lanelets, traffic lights and intersection areas are named by numbers of the map, which may be
negative; perceived objects are named by counts.  Each kind of name is a type of its own, so that
a traffic light is never looked up among the lanelets.
-/

namespace Crossing

/-- The name of a lanelet. -/
structure LaneletId where
  /-- The map's number for it. -/
  value : Int
  deriving DecidableEq, Inhabited

/-- The name of a traffic light. -/
structure LightId where
  /-- The map's number for it. -/
  value : Int
  deriving DecidableEq, Inhabited

/-- The name of an area that covers a whole intersection. -/
structure AreaId where
  /-- The map's number for it. -/
  value : Int
  deriving DecidableEq, Inhabited

/-- The name of a perceived object. -/
structure ObjectId where
  /-- The perception's number for it. -/
  value : Nat
  deriving DecidableEq, Inhabited

/-- How messages speak of a lanelet. -/
def LaneletId.text (id : LaneletId) : String := s!"Lanelet #{id.value}"

/-- How messages speak of a traffic light. -/
def LightId.text (id : LightId) : String := s!"TrafficLight #{id.value}"

/-- How messages speak of an area. -/
def AreaId.text (id : AreaId) : String := s!"Area #{id.value}"

/-- How messages speak of an object. -/
def ObjectId.text (id : ObjectId) : String := s!"Object #{id.value}"

end Crossing
