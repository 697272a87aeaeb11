import Crossing.Polyline

/-!
# Pieces of a polyline

`Polyline.slice` cuts out the piece between two distances.  The piece begins on the first
segment that reaches its start and ends on the first that reaches its end; the points between
are those of the polyline.
-/

namespace Crossing.Polyline

variable {K : Type} [Scalar K]

/-- The points of the piece between two distances that the given segments hold.  `sofar` is the
distance at which the segments begin, `inside` says whether the piece has begun before them, and
`last` is the end of the polyline. -/
def slicePoints (start finish : Distance K) (last : Point K) :
    List (Segment K) → (sofar : Distance K) → (inside : Bool) → Outcome K (List (Point K))
  | [], _, _ => .ok [last]
  | s :: rest, sofar, inside => do
    let reach ← sofar.add (← s.length)
    let enters := !inside && start ≤ reach
    let entry ← if enters then pure [← s.atDistance (← start.sub sofar)] else pure []
    if finish ≤ reach then return entry ++ [← s.atDistance (← finish.sub sofar)]
    else
      let inside := inside || enters
      let corner := if inside then [s.finish] else []
      return entry ++ corner ++ (← slicePoints start finish last rest reach inside)

/-- The piece between two distances; an epsilon past the end is tolerated. -/
def slice (pl : Polyline K) (start finish : Distance K) : Outcome K (Polyline K) := do
  let refusal := Outcome.refuse (.noSuchSlice start finish pl.length)
  if start < Distance.zero then refusal
  else if (← pl.length.add Distance.epsilon) < finish || finish ≤ start then refusal
  else ofThinned (← slicePoints start finish (← pl.last) (← pl.segments) Distance.zero false)

end Crossing.Polyline
