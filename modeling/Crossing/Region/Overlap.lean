import Crossing.Region
import Crossing.Sorting

/-!
# The area that two regions share

The plane is cut into vertical slabs at every corner and at every point where two sides cross.
Inside a slab no two sides cross, so a vertical line through its middle shows the whole slab: the
heights at which it meets the sides of a region, in ascending order, are by turns where the
region begins and where it ends (the even-odd rule again), and the slab's share of the area is
its width times the common height on that line.

Regions that do not even touch share nothing, and neither do regions that only touch: the middle
line of every slab then has no common height.
-/

namespace Crossing.Region

variable {K : Type} [Scalar K]

/-- The first coordinate of the point where two sides cross, if they do. -/
def crossingX (a b c d : Point K) : Option K :=
  (Segment.crossingPart ⟨a, b⟩ ⟨c, d⟩).map fun t => a.x + t * (b.x - a.x)

/-- Where the sides of a list cross each other. -/
def crossingXs : List (Point K × Point K) → List K
  | [] => []
  | (a, b) :: rest =>
    (rest.filterMap fun (c, d) => crossingX a b c d) ++ crossingXs rest

/-- The borders between slabs, in ascending order. -/
def slabBorders (r other : Region K) : List K :=
  Sorting.sort (fun a b => a ≤ b)
    ((r.ring ++ other.ring).map Point.x ++ crossingXs (r.sides ++ other.sides))

/-- The heights at which a vertical line meets the sides, in ascending order. -/
def heights (r : Region K) (x : K) : List K :=
  Sorting.sort (fun a b => a ≤ b) (r.sides.filterMap fun (a, b) =>
    if (a.x < x && x < b.x) || (b.x < x && x < a.x) then
      some (a.y + (x - a.x) / (b.x - a.x) * (b.y - a.y))
    else none)

/-- Consecutive numbers taken as the two ends of intervals. -/
def intervals : List K → List (K × K)
  | a :: b :: rest => (a, b) :: intervals rest
  | _ => []

/-- The length that two intervals share. -/
def sharedLength (i j : K × K) : K :=
  let low := if i.1 < j.1 then j.1 else i.1
  let high := if i.2 < j.2 then i.2 else j.2
  if low < high then high - low else 0.0

def total (xs : List K) : K := xs.foldl (· + ·) 0.0

/-- The height on a vertical line that two regions share. -/
def sharedHeight (r other : Region K) (x : K) : K :=
  total ((intervals (r.heights x)).map fun i =>
    total ((intervals (other.heights x)).map fun j => sharedLength i j))

/-- **The area that two regions share.** -/
def overlapArea (r other : Region K) : K :=
  if r.intersects other then
    total ((Chain.links (slabBorders r other)).map fun (a, b) =>
      if a < b then (b - a) * sharedHeight r other ((a + b) / 2.0) else 0.0)
  else 0.0

end Crossing.Region
