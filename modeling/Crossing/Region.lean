import Crossing.Polyline

/-!
# Regions

A region is what a closed ring of points encloses.  Inside is decided by the even-odd rule: a ray
from the point crosses the ring an odd number of times.  Every question comes down to the
orientation of three points (`Scalar.turn`), which is exact as far as `K` goes; nothing is
computed that would have to be rounded.  A point on an edge is not inside by that rule, so
`Region.contains` adds a border: everything less than an epsilon away from an edge counts as
contained.

The ring may cross itself; nothing here needs it to be simple.
-/

namespace Crossing

/-- What a closed ring encloses. -/
structure Region (K : Type) where
  /-- The corners in order; the last is the first again. -/
  ring : List (Point K)
  deriving DecidableEq, Inhabited

namespace Region

variable {K : Type} [Scalar K]

/-! ## Making one -/

/-- A list without its last element, when that counts as the same as the first. -/
def openRing : List (Point K) → Outcome K (List (Point K))
  | first :: rest => do
    match rest.getLast? with
    | some last => return if ← first.isSame last then first :: rest.dropLast else first :: rest
    | none => return [first]
  | [] => .ok []

/-- The region with this outline; the ring is closed if it is not, and corners that count as the
same as the one before are dropped. -/
def ofOutline (points : List (Point K)) : Outcome K (Region K) := do
  let corners ← openRing (← Chain.thin Point.isSame points)
  match corners with
  | first :: _ :: _ :: _ => return ⟨corners ++ [first]⟩
  | _ => Outcome.refuse (.fewCorners corners.length)

/-- The region between two lines that run the same way, like the two boundaries of a lane. -/
def ofBounds (left right : Polyline K) : Outcome K (Region K) :=
  ofOutline (left.points ++ right.points.reverse)

/-- A rectangle around a pose, `length` along its heading and `width` across. -/
def rectangle (centre : Pose K) (length width : Distance K) : Outcome K (Region K) := do
  let l ← length.half
  let w ← width.half
  let corners := [
    ← centre.toWorld l w,
    ← centre.toWorld (← l.neg) w,
    ← centre.toWorld (← l.neg) (← w.neg),
    ← centre.toWorld l (← w.neg)]
  (ofOutline corners).insist

/-! ## The border -/

def sides (r : Region K) : List (Point K × Point K) := Chain.links r.ring

def edges (r : Region K) : Outcome K (List (Segment K)) := do
  return (← r.sides.mapM fun (a, b) => (Segment.between a b).tolerate).filterMap id

/-- The least of some distances, the first of equal ones. -/
def least : List (Distance K) → Option (Distance K)
  | [] => none
  | d :: rest => some (rest.foldl min d)

/-- The distance from a point to the closest edge. -/
def borderDistance (r : Region K) (p : Point K) : Outcome K (Distance K) := do
  return (least (← (← r.edges).mapM fun e => e.distanceTo p)).getD Distance.zero

/-! ## Sides -/

/-- Is a coordinate between two others, both included and in either order? -/
def isBetween (a b x : K) : Bool := (a ≤ x && x ≤ b) || (b ≤ x && x ≤ a)

/-- Is a point in the upright box that has two others at opposite corners? -/
def inBox (p a b : Point K) : Bool := isBetween a.x b.x p.x && isBetween a.y b.y p.y

/-- Do all points of one list lie beyond all points of another, in one direction along an axis?
Their boxes then have no point in common. -/
def areApart (ps qs : List (Point K)) : Bool :=
  let before (axis : Point K → K) (ps qs : List (Point K)) : Bool :=
    ps.all fun p => qs.all fun q => axis p < axis q
  before Point.x ps qs || before Point.x qs ps || before Point.y ps qs || before Point.y qs ps

def turn (a b c : Point K) : Ordering := Scalar.turn a.x a.y b.x b.y c.x c.y

/-- Does a point lie on the side between two corners? -/
def onSide (p a b : Point K) : Bool := inBox p a b && turn a b p == .eq

/-- Do the side from `a` to `b` and the side from `c` to `d` share a point?  They do if each has its
ends on different sides of the other, and, when both are on one line, if one has an end within
the other. -/
def sidesMeet (a b c d : Point K) : Bool :=
  if Scalar.same a.x b.x && Scalar.same a.y b.y then onSide a c d
  else
    let start := turn a b c
    if start != turn a b d then turn c d a != turn c d b
    else start == .eq && (inBox c a b || inBox d a b || inBox b c d)

/-! ## Inside -/

/-- Does the ray from a point along the first axis cross the side between two corners?  Level
sides do not count, and a side owns its lower end and not its upper one.  The ray need not reach
further than the side does. -/
def rayCrosses (p a b : Point K) : Bool :=
  let reach := if a.x < b.x then b.x else a.x
  !(reach < p.x) && !Scalar.same a.y b.y &&
    !(Scalar.same a.y p.y && b.y < p.y) && !(Scalar.same b.y p.y && a.y < p.y) &&
    sidesMeet p ⟨reach, p.y⟩ a b

def onBorder (r : Region K) (p : Point K) : Bool := r.sides.any fun (a, b) => onSide p a b

/-- Is the number of sides that the ray from a point crosses odd? -/
def isOdd (r : Region K) (p : Point K) : Bool :=
  (r.sides.countP fun (a, b) => rayCrosses p a b) % 2 == 1

/-- Is a point inside by the even-odd rule?  Points on a side are not. -/
def encloses (r : Region K) (p : Point K) : Bool := !r.onBorder p && r.isOdd p

/-! ## Containment and distance -/

/-- Is a point inside, or less than an epsilon away from an edge? -/
def contains (r : Region K) (p : Point K) : Outcome K Bool := do
  if r.encloses p then return true
  else return (← r.borderDistance p) < Distance.epsilon

/-- No distance from points contained, and the distance to the closest edge from all others. -/
def distanceTo (r : Region K) (p : Point K) : Outcome K (Distance K) := do
  if ← r.contains p then return Distance.zero else r.borderDistance p

/-! ## Regions that meet -/

/-- Does a region, with its border, share a point with the side between `c` and `d`? -/
def meetsSide (r : Region K) (c d : Point K) : Bool :=
  let crosses := !areApart r.ring [c, d] && r.sides.any fun (a, b) => sidesMeet a b c d
  let covers (p : Point K) : Bool := r.onBorder p || r.isOdd p
  crosses || covers c || covers d

/-- Do two regions, with their borders, share a point? -/
def intersects (r other : Region K) : Bool :=
  !areApart r.ring other.ring &&
    ((other.sides.any fun (c, d) => r.meetsSide c d) ||
      r.sides.any fun (a, b) => other.meetsSide a b)

def text [Numeral K] (r : Region K) : String :=
  s!"Polygon with {r.ring.length} points\n" ++
    String.join (r.ring.zipIdx.map fun (p, i) => s!"  {i}: " ++ p.text ++ "\n")

end Region

end Crossing
