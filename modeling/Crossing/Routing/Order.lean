import Crossing.Routing

/-!
# Flow order

`Routing.flowOrder` lists some lanelets so that each comes before those that go on from it.
There may be several such orders; the one given comes from a depth-first search.  The search
begins at each lanelet in turn, goes to followers with high names before those with low ones,
and puts a lanelet in front of the order when all its followers are in it.

Lanelets that form a circle have no such order.  The result of the search then breaks the
promise somewhere (`respects` is false), and the lanelets are listed as they were given.
-/

namespace Crossing.Routing

/-- A depth-first search under way. -/
structure Traversal where
  /-- The lanelets that the search has come to. -/
  seen : List LaneletId
  /-- The lanelets whose followers have all been placed, the last one placed first. -/
  order : List LaneletId

/-- Comes to a lanelet and everything that can be reached from it, unless the search has been
there.  `depth` bounds the length of the way from the beginning of the search. -/
def Traversal.visit (next : LaneletId → List LaneletId) :
    (depth : Nat) → Traversal → LaneletId → Traversal
  | 0, t, _ => t
  | depth + 1, t, id =>
    if id ∈ t.seen then t
    else
      let after := (next id).reverse.foldl (visit next depth) ⟨id :: t.seen, t.order⟩
      ⟨after.seen, id :: after.order⟩

/-- The order in which a depth-first search leaves lanelets behind, the last one first. -/
def searchOrder (next : LaneletId → List LaneletId) (ids : List LaneletId) : List LaneletId :=
  (ids.foldl (Traversal.visit next (ids.length + 1)) ⟨[], []⟩).order

/-- Does no lanelet come after one that goes on from it, and does none go on from itself? -/
def respects (next : LaneletId → List LaneletId) : List LaneletId → Bool
  | [] => true
  | id :: rest => (id :: rest).all (fun later => id ∉ next later) && respects next rest

/-- The followers of a lanelet that are among some lanelets. -/
def followingAmong (g : Routing) (ids : List LaneletId) (id : LaneletId) : List LaneletId :=
  (g.following id).filter (· ∈ ids)

/-- **Some lanelets, each before its followers**; just as given when they form a circle. -/
def flowOrder (g : Routing) (ids : List LaneletId) : List LaneletId :=
  let next := g.followingAmong ids
  let order := searchOrder next ids
  if respects next order then order else ids

end Crossing.Routing
