import Crossing.Lanelet
import Crossing.Routing
import Crossing.Region.Overlap

/-!
# The map

`RoadMap` holds the lanelets around the vehicle in ascending order of their names, the areas of
intersections, and how the lanelets relate.  `RoadMap.ofLanelets` refuses a name that is given
twice and a reference to something that is not there, so that whoever walks along references
afterwards always arrives somewhere.

Whether lanelets touch is decided by the ends of their boundaries, whether they overlap by the area
they share, of which a tenth of a square metre does not count.  Both are asked of a `Gauge`, and
relations follow from its answers alone.  For the map itself (`Gauge.metric`), ends within ten
centimetres are the same map point, and the shared area is the exact one.
-/

namespace Crossing

/-! ## What touches and what overlaps -/

/-- **What is asked about the shapes of lanelets** before they are related. -/
structure Gauge (K : Type) where
  /-- Are two ends of boundaries the same map point? -/
  sameEnd : Point K → Point K → Outcome K Bool
  /-- The area that two regions share. -/
  sharedArea : Region K → Region K → K

namespace Gauge

variable {K : Type} [Scalar K]

/-- Ends of boundaries this close are the same map point. -/
def connectThreshold : Distance K := ⟨0.1⟩

/-- Overlaps of no more than so many square metres do not count. -/
def overlapThreshold : K := 0.1

/-- The gauge of the map. -/
def metric : Gauge K := ⟨fun a b => a.isNear b connectThreshold, Region.overlapArea⟩

/-- Are two ends the same map point, of boundaries that may be without ends? -/
def sameEnds (gauge : Gauge K) (a b : Outcome K (Point K)) : Outcome K Bool := do
  gauge.sameEnd (← a) (← b)

/-- Two tests of which the second is only made when the first succeeds. -/
def both (a b : Outcome K Bool) : Outcome K Bool := do if ← a then b else return false

/-- How the second of two lanelets touches the first. -/
def contact (gauge : Gauge K) (a b : Lanelet K) : Outcome K (Option Contact) := do
  if ← both (gauge.sameEnds a.left.last b.left.first)
      (gauge.sameEnds a.right.last b.right.first) then
    return some .follows
  else if ← both (gauge.sameEnds a.left.first b.right.first)
      (gauge.sameEnds a.left.last b.right.last) then
    return some .beside
  else return none

/-- Do two lanelets share more area than does not count? -/
def overlaps (gauge : Gauge K) (a b : Lanelet K) : Bool :=
  overlapThreshold < gauge.sharedArea a.region b.region

end Gauge

/-! ## Maps -/

/-- The lanelets and areas around the vehicle. -/
structure RoadMap (K : Type) where
  /-- The lanelets in ascending order of their names. -/
  lanelets : List (Lanelet K)
  /-- The areas of intersections; of two with one name the later one counts. -/
  areas : List (AreaId × Region K)
  routing : Routing

namespace RoadMap

variable {K : Type} [Scalar K]

/-- The ordered pairs of lanelets of different names. -/
def pairs (lanelets : List (Lanelet K)) : List (Lanelet K × Lanelet K) :=
  lanelets.flatMap fun a => (lanelets.filter fun b => a.id ≠ b.id).map fun b => (a, b)

/-- How lanelets listed in ascending order relate. -/
def routes (gauge : Gauge K) (lanelets : List (Lanelet K)) : Outcome K Routing := do
  let contacts ← (pairs lanelets).mapM fun (a, b) => return ((a.id, b.id), ← gauge.contact a b)
  let find (id : LaneletId) := lanelets.find? fun l => l.id = id
  return Routing.derive (lanelets.map Lanelet.id)
    (fun a b => (contacts.lookup (a, b)).join)
    (fun a b => match find a, find b with
      | some a, some b => gauge.overlaps a b
      | _, _ => false)

/-! ## Making one -/

/-- The first name that was given before. -/
def firstRepeated : (seen : List LaneletId) → List (Lanelet K) → Option LaneletId
  | _, [] => none
  | seen, l :: rest => if l.id ∈ seen then some l.id else firstRepeated (l.id :: seen) rest

/-- Refuses a lanelet that refers to something that is not there. -/
def checkReferences (ids : List LaneletId) (areas : List AreaId) (l : Lanelet K) :
    Outcome K Unit := do
  match l.yields.toList.find? (· ∉ ids) with
  | some other => Outcome.refuse (.yieldsMissing l.id other)
  | none =>
    match l.area.filter (· ∉ areas) with
    | some area => Outcome.refuse (.areaMissing l.id area)
    | none => return ()

/-- The map of some lanelets and areas, related by the answers of a gauge. -/
def ofLaneletsBy (gauge : Gauge K) (lanelets : List (Lanelet K))
    (areas : List (AreaId × Region K)) : Outcome K (RoadMap K) := do
  match firstRepeated [] lanelets with
  | some id => Outcome.refuse (.definedTwice id)
  | none =>
    let sorted := Sorting.sort (fun a b => a.id.value ≤ b.id.value) lanelets
    sorted.forM (checkReferences (sorted.map Lanelet.id) (areas.map Prod.fst))
    return ⟨sorted, areas, ← routes gauge sorted⟩

/-- **The map of some lanelets and areas.** -/
def ofLanelets (lanelets : List (Lanelet K)) (areas : List (AreaId × Region K)) :
    Outcome K (RoadMap K) :=
  ofLaneletsBy Gauge.metric lanelets areas

/-! ## Asking one -/

/-- The lanelet of a name, if it is in the map. -/
def lanelet? (map : RoadMap K) (id : LaneletId) : Option (Lanelet K) :=
  map.lanelets.find? fun l => l.id = id

/-- The lanelet of a name that has to be in the map. -/
def lanelet (map : RoadMap K) (id : LaneletId) : Outcome K (Lanelet K) :=
  Outcome.demand (.laneletMissing id) (map.lanelet? id)

/-- The area of a name, if it is in the map. -/
def area? (map : RoadMap K) (id : AreaId) : Option (Region K) := map.areas.reverse.lookup id

/-- The area of the intersection that a lanelet belongs to. -/
def intersectionArea (map : RoadMap K) (l : Lanelet K) : Option (Region K) := l.area.bind map.area?

end RoadMap

end Crossing
