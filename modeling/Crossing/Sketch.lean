import Crossing.Region
import Crossing.IdSet

/-!
# What a drawing of one cycle shows

`Sketch` collects what somebody who looks at a cycle wants to see: the areas that were watched,
the places to stop, and the objects and obstacles that mattered.  No decision ever reads it.
-/

namespace Crossing

/-- Everything worth drawing about one planning cycle. -/
structure Sketch (K : Type) where
  /-- The stop for conflicting traffic. -/
  collisionWall : Option (Pose K) := none
  /-- The stop before the first watched area. -/
  firstAttentionWall : Option (Pose K) := none
  /-- The stop to peek from. -/
  peekingWall : Option (Pose K) := none
  /-- The stop for a stuck vehicle, when there is one. -/
  stuckWall : Option (Pose K) := none
  /-- Where it has to be decided whether to stop. -/
  passJudgeWall : Option (Pose K) := none
  attentionAreas : Option (List (Region K)) := none
  /-- The areas watched for hidden traffic. -/
  occlusionAreas : Option (List (Region K)) := none
  /-- The neighbouring lanes. -/
  adjacentAreas : Option (List (Region K)) := none
  /-- The first watched area on the path. -/
  firstAttentionArea : Option (Region K) := none
  /-- The area of the whole intersection. -/
  intersectionArea : Option (Region K) := none
  /-- Where stuck vehicles are looked for. -/
  stuckArea : Option (Region K) := none
  /-- The lane of the vehicle through the intersection. -/
  egoLane : Option (Region K) := none
  /-- The objects that may collide with the vehicle. -/
  conflictingTargets : List ObjectId := []
  /-- The vehicles that are stuck. -/
  stuckTargets : List ObjectId := []
  /-- The obstacles that hide something. -/
  blockingObstacles : List (Region K) := []
  /-- The nearest hidden point, and where the path is closest to it. -/
  nearestOcclusion : Option (Point K × Point K) := none
  deriving DecidableEq

def Sketch.empty {K : Type} : Sketch K := {}

end Crossing
