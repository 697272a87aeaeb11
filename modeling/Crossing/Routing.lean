import Crossing.IdSet
import Crossing.Sorting

/-!
# How lanelets relate

Two lanelets can touch in two ways (`Contact`): one goes on where the other ends, or they lie
side by side.  Lanelets that overlap without touching so are in each other's way.  `Routing`
keeps, for each ordered pair of lanelets, at most one `Relation` that follows from this.

**Two passes.**  `Routing.derive` first goes through the ordered pairs of lanelets and notes how
the second touches the first (`touch`).  A left neighbour also makes a right neighbour, so a pair
may be written to twice, and the relation written later replaces the earlier one.  Then it goes
through the pairs once more, each in one order only, and those that have no relation in either
direction are in conflict if they overlap (`cross`).

The tests of touching and overlapping are parameters of `Routing.derive`, so nothing here is
about geometry.
-/

namespace Crossing

/-- How the second of two lanelets touches the first. -/
inductive Contact where
  /-- It begins where the first ends. -/
  | follows
  /-- Its right boundary is the first one's left boundary. -/
  | beside
  deriving DecidableEq

/-- What the second of two lanelets is to the first. -/
inductive Relation where
  | successor
  | left
  | right
  | conflicting
  deriving DecidableEq

/-- One lanelet's relation to another. -/
structure Link where
  source : LaneletId
  target : LaneletId
  /-- What the second is to the first. -/
  relation : Relation
  deriving DecidableEq

/-- Does a link lead from `a` to `b`? -/
def Link.joins (l : Link) (a b : LaneletId) : Bool := l.source = a && l.target = b

theorem Link.joins_iff {l : Link} {a b : LaneletId} :
    l.joins a b = true ↔ l.source = a ∧ l.target = b := by
  simp [joins]

/-- The relations between some lanelets. -/
structure Routing where
  /-- The links, the latest first. -/
  links : List Link
  /-- An ordered pair has one relation at most. -/
  single : links.Pairwise fun l m => ¬ (l.source = m.source ∧ l.target = m.target)
  deriving DecidableEq

namespace Routing

/-! ## Writing relations down -/

/-- No relations. -/
def empty : Routing := ⟨[], List.Pairwise.nil⟩

instance : Inhabited Routing := ⟨empty⟩

/-- What `b` is to `a`. -/
def relation? (g : Routing) (a b : LaneletId) : Option Relation :=
  (g.links.find? (·.joins a b)).map Link.relation

/-- The routing in which `b` is `r` to `a`, whatever it was before. -/
def link (g : Routing) (a b : LaneletId) (r : Relation) : Routing where
  links := ⟨a, b, r⟩ :: g.links.filter fun l => !l.joins a b
  single := by
    refine List.pairwise_cons.2 ⟨fun l hl heq => ?_, g.single.filter _⟩
    have h := (List.mem_filter.1 hl).2
    simp [Link.joins_iff.2 ⟨heq.1.symm, heq.2.symm⟩] at h

/-- The routing after `b` has been found to touch `a`. -/
def touch (g : Routing) (a b : LaneletId) : Option Contact → Routing
  | none => g
  | some .follows => g.link a b .successor
  | some .beside => (g.link a b .left).link b a .right

/-- The routing after `a` and `b` have been looked at for a conflict; lanelets that have a relation
are in none. -/
def cross (overlaps : LaneletId → LaneletId → Bool) (g : Routing) (a b : LaneletId) : Routing :=
  if (g.relation? a b).isSome || (g.relation? b a).isSome then g
  else if overlaps a b then (g.link a b .conflicting).link b a .conflicting
  else g

/-! ## The two passes -/

/-- The ordered pairs of different names, in the order of the first and then of the second. -/
def orderedPairs (ids : List LaneletId) : List (LaneletId × LaneletId) :=
  ids.flatMap fun a => (ids.filter (a ≠ ·)).map fun b => (a, b)

/-- The pairs of a name and a later one. -/
def laterPairs : (ids : List LaneletId) → List (LaneletId × LaneletId)
  | [] => []
  | a :: rest => rest.map (fun b => (a, b)) ++ laterPairs rest

/-- The relations by touch. -/
def touchAll (ids : List LaneletId) (contact : LaneletId → LaneletId → Option Contact) : Routing :=
  (orderedPairs ids).foldl (fun g (a, b) => g.touch a b (contact a b)) empty

/-- **The relations between lanelets listed in ascending order.**  `overlaps` is only asked about
pairs in ascending order. -/
def derive (ids : List LaneletId) (contact : LaneletId → LaneletId → Option Contact)
    (overlaps : LaneletId → LaneletId → Bool) : Routing :=
  (laterPairs ids).foldl (fun g (a, b) => g.cross overlaps a b) (touchAll ids contact)

/-! ## Asking for relatives -/

/-- Names in ascending order. -/
def ascending (ids : List LaneletId) : List LaneletId :=
  Sorting.sort (fun a b => a.value ≤ b.value) ids

/-- The lanelets that have a relation to `id`, in ascending order. -/
def targets (g : Routing) (id : LaneletId) (relation : Relation) : List LaneletId :=
  ascending <| g.links.filterMap fun l =>
    if l.source = id ∧ l.relation = relation then some l.target else none

/-- The lanelets that `id` has a relation to, in ascending order. -/
def sources (g : Routing) (id : LaneletId) (relation : Relation) : List LaneletId :=
  ascending <| g.links.filterMap fun l =>
    if l.target = id ∧ l.relation = relation then some l.source else none

/-- The lanelets that go on where `id` ends. -/
def following (g : Routing) (id : LaneletId) : List LaneletId := g.targets id .successor

/-- The lanelets that `id` goes on from. -/
def previous (g : Routing) (id : LaneletId) : List LaneletId := g.sources id .successor

/-- The lanelets that overlap `id` without touching it. -/
def conflicting (g : Routing) (id : LaneletId) : List LaneletId := g.targets id .conflicting

/-- The left neighbour; of several, the one with the highest name. -/
def left? (g : Routing) (id : LaneletId) : Option LaneletId := (g.targets id .left).getLast?

/-- The right neighbour; of several, the one with the highest name. -/
def right? (g : Routing) (id : LaneletId) : Option LaneletId := (g.targets id .right).getLast?

/-- The neighbours on both sides, the left one first. -/
def besides (g : Routing) (id : LaneletId) : List LaneletId :=
  (g.left? id).toList ++ (g.right? id).toList

end Routing

end Crossing
