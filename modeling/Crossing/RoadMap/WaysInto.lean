import Crossing.RoadMap

/-!
# What leads into a lanelet

`RoadMap.waysInto` lists the ways on which traffic can come to a lanelet: sequences of lanelets,
the closest first, that go back until they are long enough or nothing leads into them any more.

The search keeps a stack of sequences that may still have to be continued.  A sequence is taken
from the stack and either finished or replaced by all its continuations by one lanelet.  No
sequence has a lanelet twice, so none has more lanelets than the map, and `pending` bounds what
is left to do: the number of sequences that can ever come out of those on the stack.
-/

namespace Crossing.RoadMap

variable {K : Type} [Scalar K]

/-- A way into a lanelet. -/
structure Trail (K : Type) where
  /-- The lanelets on the way, the closest first. -/
  lanelets : List LaneletId
  /-- The length of them all. -/
  covered : Distance K

/-- What a search for ways into a lanelet looks for. -/
structure Quest (K : Type) where
  /-- The lanelet to lead into. -/
  goal : LaneletId
  /-- How long a way has to be. -/
  length : Distance K
  /-- The lanelets that ways keep clear of. -/
  exclude : List LaneletId

/-- The lanelets by which a way can be continued. -/
def continuations (map : RoadMap K) (q : Quest K) (t : Trail K) : List LaneletId :=
  (map.routing.previous (t.lanelets.getLast?.getD q.goal)).filter fun p =>
    p ≠ q.goal && p ∉ q.exclude && p ∉ t.lanelets

/-- The continuations of a way by one lanelet; `none` when the way ends here. -/
def extend (map : RoadMap K) (q : Quest K) (t : Trail K) : Outcome K (Option (List (Trail K))) :=
  let next := map.continuations q t
  if q.length ≤ t.covered || next.isEmpty then .ok none
  else some <$> next.mapM fun p => do
    return ⟨t.lanelets ++ [p], ← t.covered.add (← map.lanelet p).length⟩

/-- The number of sequences that come out of one that can be continued `depth` times by one of
`width` lanelets each. -/
def treeSize (width : Nat) : (depth : Nat) → Nat
  | 0 => 1
  | depth + 1 => 1 + width * treeSize width depth

/-- How many sequences can come out of those on a stack, in a map of `n` lanelets. -/
def pending (n : Nat) : (stack : List (Trail K)) → Nat
  | [] => 0
  | t :: stack => treeSize n (n - t.lanelets.length) + pending n stack

/-- Works off a stack of ways; `done` holds the ways finished so far. -/
def explore (map : RoadMap K) (q : Quest K) :
    (fuel : Nat) → (stack : List (Trail K)) → (done : List (List LaneletId)) →
      Outcome K (List (List LaneletId))
  | _, [], done => .ok done
  | 0, _, done => .ok done
  | fuel + 1, t :: stack, done => do
    match ← map.extend q t with
    | some longer => explore map q fuel (longer ++ stack) done
    | none =>
      explore map q fuel stack (if t.lanelets.isEmpty then done else t.lanelets :: done)

/-- Is a sequence of names not after another in the order of dictionaries? -/
def notAfter : List LaneletId → List LaneletId → Bool
  | [], _ => true
  | _ :: _, [] => false
  | a :: as, b :: bs => a.value < b.value || (a.value = b.value && notAfter as bs)

/-- **The ways into a lanelet**, in the order of dictionaries.  Each goes back until it covers
the length or nothing leads into it, and keeps clear of the lanelet itself, of what is excluded
and of its own lanelets. -/
def waysInto (map : RoadMap K) (goal : LaneletId) (length : Distance K)
    (exclude : List LaneletId) : Outcome K (List (List LaneletId)) := do
  let stack : List (Trail K) := [⟨[], Distance.zero⟩]
  let ways ← map.explore ⟨goal, length, exclude⟩ (pending map.lanelets.length stack) stack []
  return Sorting.sort notAfter ways

end Crossing.RoadMap
