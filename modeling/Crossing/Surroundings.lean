import Crossing.RoadMap.WaysInto
import Crossing.SampledPath
import Crossing.StopLine
import Crossing.Signal
import Crossing.Lanelet.Span

/-!
# The lanelets around the vehicle

`Surroundings` sorts the lanelets around an intersection by what they are to the vehicle's
assigned lanelet.

* The vehicle's **own** lanelets are those before the assigned one, all that go on from those,
  and all on its path.
* The **conflicting** lanelets overlap the assigned one, without the own ones.
* The **detection** lanelets are the conflicting ones that have to be watched.  Lanelets that
  must yield are not watched, and none is watched when the vehicle goes straight on under a
  traffic light.  When vehicles in the wrong direction count, the lanelets before and after are
  candidates too, own or not.
* The **attention** lanelets are those and what leads into them.
* The **adjacent** lanelets are the other lanelets of the intersection and the neighbours, as
  long as they do not overlap the assigned one.
-/

namespace Crossing

/-- Some lanelets, and the areas that are looked at for their sake.  An area may cover a lanelet
together with those that lead into it, so there may be more areas than lanelets. -/
structure LaneGroup (K : Type) where
  ids : List LaneletId
  areas : List (Region K)
  deriving DecidableEq, Inhabited

/-- Which of the watched lanelets matter in a cycle. -/
inductive AttentionView where
  /-- All, with what leads into them. -/
  | all
  /-- Only those that conflict themselves: what is still on its way to them will stop. -/
  | nonPreceding
  deriving DecidableEq

/-- Only when conflicting traffic is fully stopped does what leads into the watched lanelets not
matter. -/
def AttentionView.ofPriority (p : Priority) : AttentionView :=
  if p = .fully then .nonPreceding else .all

/-- The lanelets around an intersection, by what they are to the assigned one. -/
structure Surroundings (K : Type) where
  /-- The watched lanelets with what leads into them. -/
  attention : LaneGroup K
  /-- The watched lanelets alone. -/
  attentionNonPreceding : LaneGroup K
  conflicting : LaneGroup K
  /-- The neighbours that are not in conflict. -/
  adjacent : LaneGroup K
  /-- The watched lanelets with what leads into them, as far as hidden traffic matters. -/
  occlusion : LaneGroup K
  /-- The conflicting area that the path enters first. -/
  firstConflicting : Option (Region K)
  /-- The watched area that the path enters first. -/
  firstAttention : Option (Region K)
  deriving DecidableEq

namespace LaneGroup

variable {K : Type} [Scalar K]

def empty : LaneGroup K := ⟨[], []⟩

def lanelets (g : LaneGroup K) (map : RoadMap K) : Outcome K (List (Lanelet K)) :=
  g.ids.mapM map.lanelet

/-- Some lanelets with their own areas. -/
def ofIds (map : RoadMap K) (ids : List LaneletId) : Outcome K (LaneGroup K) := do
  return ⟨ids, (← ids.mapM map.lanelet).map Lanelet.region⟩

/-- A group with a chain of lanelets, the last of which is to be watched from `length` before it
on. -/
def addChain (length : Distance K) (g : LaneGroup K) (chain : List (Lanelet K))
    (watched : Lanelet K) : Outcome K (LaneGroup K) := do
  let row := chain ++ [watched]
  let ids := row.foldl (fun ids l => if l.id ∈ ids then ids else ids ++ [l.id]) g.ids
  let total ← Distance.sum (row.map Lanelet.length)
  let start ← (← total.sub watched.length).sub length
  let area := (← Lanelet.span row start total).getD watched.region
  return ⟨ids, g.areas ++ [area]⟩

/-- A group with a lanelet and every way into it. -/
def addWays (map : RoadMap K) (length : Distance K) (exclude : List LaneletId)
    (g : LaneGroup K) (id : LaneletId) : Outcome K (LaneGroup K) := do
  let ways ← map.waysInto id length exclude
  (if ways.isEmpty then [[]] else ways).foldlM (fun g way => do
    addChain length g (← way.reverse.mapM map.lanelet) (← map.lanelet id)) g

/-- **Some lanelets with everything that leads into them** over a length. -/
def withWays (map : RoadMap K) (detection : List LaneletId) (length : Distance K)
    (exclude : List LaneletId) : Outcome K (LaneGroup K) :=
  detection.foldlM (addWays map length exclude) empty

end LaneGroup

namespace Surroundings

variable {K : Type} [Scalar K]

/-! ## Sorting lanelets -/

/-- The lanelets that must yield to the assigned one, with those before them. -/
def yielding (g : Routing) (assigned : Lanelet K) : List LaneletId :=
  assigned.yields.toList.flatMap fun id => id :: g.previous id

/-- The vehicle's own lanelets. -/
def own (g : Routing) (assigned : LaneletId) (onPath : List LaneletId) : List LaneletId :=
  ((g.previous assigned).flatMap fun p => p :: g.following p) ++ assigned :: onPath

/-- The conflicting lanelets, without the vehicle's own. -/
def conflicts (g : Routing) (assigned : LaneletId) (onPath : List LaneletId) : List LaneletId :=
  (g.conflicting assigned).filter (· ∉ own g assigned onPath)

/-- Names without those that stand further left already. -/
def unrepeated (ids : List LaneletId) : List LaneletId :=
  ids.foldl (fun seen id => if id ∈ seen then seen else seen ++ [id]) []

/-- The lanelets to watch. -/
def detection (g : Routing) (assigned : Lanelet K) (onPath : List LaneletId)
    (wrongDirection : Bool) : List LaneletId :=
  let yielding := yielding g assigned
  if assigned.turn = .straight && assigned.light.isSome then []
  else if wrongDirection then
    unrepeated <| ((g.conflicting assigned.id).flatMap fun id =>
      id :: g.following id ++ g.previous id).filter fun id => id ≠ assigned.id && id ∉ yielding
  else (conflicts g assigned.id onPath).filter (· ∉ yielding)

/-- The neighbours that are not in conflict. -/
def adjacents (map : RoadMap K) (assigned : LaneletId) (associated : IdSet) : List LaneletId :=
  unrepeated <| (associated.toList ++ map.routing.besides assigned).filter fun id =>
    id ≠ assigned && id ∉ map.routing.conflicting assigned && (map.lanelet? id).isSome

/-- **The lanelets around an intersection**, sorted for the assigned one. -/
def classify (map : RoadMap K) (assigned : LaneletId) (onPath : List LaneletId)
    (associated : IdSet) (length occlusionLength : Distance K) (wrongDirection : Bool) :
    Outcome K (Surroundings K) := do
  match map.lanelet? assigned with
  | none => Outcome.refuse (.notInMap assigned)
  | some l =>
    let g := map.routing
    let watched := detection g l onPath wrongDirection
    let own := own g assigned onPath
    return {
      attention := ← LaneGroup.withWays map watched length own
      occlusion := ← LaneGroup.withWays map watched occlusionLength own
      attentionNonPreceding := ← LaneGroup.ofIds map watched
      conflicting := ← LaneGroup.ofIds map (conflicts g assigned onPath)
      adjacent := ← LaneGroup.ofIds map (adjacents map assigned associated)
      firstConflicting := none
      firstAttention := none }

/-! ## What a view shows -/

/-- The watched lanelets in a view. -/
def attentionIn (s : Surroundings K) : AttentionView → LaneGroup K
  | .all => s.attention
  | .nonPreceding => s.attentionNonPreceding

/-- The lanelets watched for hidden traffic in a view. -/
def occlusionIn (s : Surroundings K) : AttentionView → LaneGroup K
  | .all => s.occlusion
  | .nonPreceding => s.attentionNonPreceding

/-! ## The areas that the path enters first -/

/-- The one of some areas that the path enters first. -/
def firstAlong (areas : List (Region K)) (s : SampledPath K) : Outcome K (Option (Region K)) := do
  match ← s.path.firstInsideAny s.interval (areas.map Region.contains) true with
  | some (_, j) => return areas[j]?
  | none => return none

/-- What is known already, or else what is found. -/
def orFind (known : Option (Region K)) (areas : List (Region K)) (s : SampledPath K) :
    Outcome K (Option (Region K)) :=
  match known with
  | some r => .ok (some r)
  | none => firstAlong areas s

/-- The surroundings with their first areas, as far as those are not known already. -/
def update (u : Surroundings K) (s : SampledPath K) : Outcome K (Surroundings K) := do
  let firstConflicting ← orFind u.firstConflicting u.conflicting.areas s
  let firstAttention ← orFind u.firstAttention u.attentionNonPreceding.areas s
  return { u with firstConflicting, firstAttention }

end Surroundings

end Crossing
