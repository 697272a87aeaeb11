import Mathlib.Order.Bounds.Basic
import Crossing.Proofs.StopLineOrder

/-!
# One search for several areas

Some questions search a path for one area at a time (`Path.firstInside`), others for several at once
(`Path.firstInsideAny`).  The second search tries all areas at one waypoint before it goes on to the
next, while searches for the single areas each go along the whole interval.  They agree: the search
for several areas finds the waypoint that comes first among those that the single searches find
(`Path.singleFinds`), and the first area that holds it (`Path.holders`).  It finds nothing exactly
when none of them does.

All searches look at the same window of the path, whatever interval they are given, so nothing is
asked of the interval.
-/

namespace Crossing.Path

variable {K : Type} {path : Path K} {interval : Nat × Nat} {areas : List (Inside K)}
  {inside : Inside K} {forward : Bool} {i j : Nat}

/-- What the searches for the single areas find. -/
def singleFinds (path : Path K) (interval : Nat × Nat) (areas : List (Inside K))
    (forward : Bool) : Set Nat :=
  {i | ∃ inside ∈ areas, path.firstInside interval inside forward = .ok (some i)}

/-- The areas that the waypoint at an index is inside of, by their places in the list. -/
def holders (path : Path K) (areas : List (Inside K)) (i : Nat) : Set Nat :=
  {j | ∃ inside w, areas[j]? = some inside ∧ path.points[i]? = some w ∧
    inside w.position = .ok true}

/-- **The first of some indices** for a search: the least one when it looks forward, and the
greatest one when it looks backward. -/
def IsFirst (forward : Bool) (found : Set Nat) (i : Nat) : Prop :=
  if forward then IsLeast found i else IsGreatest found i

lemma IsFirst.mem {found : Set Nat} (h : IsFirst forward found i) : i ∈ found := by
  cases forward with
  | true => exact (show IsLeast found i from h).1
  | false => exact (show IsGreatest found i from h).1

lemma IsFirst.unique {found : Set Nat} {k : Nat} (h : IsFirst forward found i)
    (hk : IsFirst forward found k) : i = k := by
  cases forward with
  | true => exact IsLeast.unique h hk
  | false => exact IsGreatest.unique h hk

/-! ## What a single search finds -/

lemma insideAt_of_mem_singleFinds (h : i ∈ path.singleFinds interval areas forward) :
    ∃ inside ∈ areas, path.InsideAt interval inside i := by
  obtain ⟨inside, hinside, hi⟩ := h
  exact ⟨inside, hinside, insideAt_of_firstInside hi⟩

/-- A search for an area that the path enters finds something. -/
lemma exists_find (hdecides : path.Decides inside) (h : path.InsideAt interval inside i)
    (forward : Bool) : ∃ k, path.firstInside interval inside forward = .ok (some k) := by
  obtain ⟨found, hfound⟩ := exists_firstInside hdecides interval forward
  cases found with
  | none => exact absurd h (firstInside_eq_none hfound i)
  | some k => exact ⟨k, hfound⟩

/-! ## What the search for several areas finds -/

/-- The waypoint found comes first among those found for the single areas. -/
lemma isFirst_of_any (hareas : ∀ inside ∈ areas, path.Decides inside)
    (h : path.firstInsideAny interval areas forward = .ok (some (i, j))) :
    IsFirst forward (path.singleFinds interval areas forward) i := by
  obtain ⟨inside, harea, hi⟩ := insideAt_of_any h
  have hinside := List.mem_of_getElem? harea
  -- the search for the area that holds the waypoint ends there: not later, and not earlier either,
  -- as then the search for all areas would have ended earlier
  obtain ⟨k, hk⟩ := exists_find (hareas inside hinside) hi forward
  have hkat := insideAt_of_firstInside hk
  cases forward with
  | true =>
      have heq : k = i := Nat.le_antisymm (le_of_forward hk hi) (le_of_any_forward h hinside hkat)
      refine ⟨⟨inside, hinside, heq ▸ hk⟩, fun m hm => ?_⟩
      obtain ⟨other, hother, hat⟩ := insideAt_of_mem_singleFinds hm
      exact le_of_any_forward h hother hat
  | false =>
      have heq : k = i := Nat.le_antisymm (ge_of_any_backward h hinside hkat) (ge_of_backward hk hi)
      refine ⟨⟨inside, hinside, heq ▸ hk⟩, fun m hm => ?_⟩
      obtain ⟨other, hother, hat⟩ := insideAt_of_mem_singleFinds hm
      exact ge_of_any_backward h hother hat

/-- The area found is the first that holds that waypoint. -/
lemma isLeast_holders_of_any
    (h : path.firstInsideAny interval areas forward = .ok (some (i, j))) :
    IsLeast (path.holders areas i) j := by
  obtain ⟨w, hw, hholding⟩ := firstHolding_of_any h
  have hpoint := (mem_window.mp hw).1
  obtain ⟨inside, harea, htrue⟩ := firstHolding_eq_some hholding
  refine ⟨⟨inside, w, harea, hpoint, htrue⟩, ?_⟩
  rintro k ⟨other, w', hother, hpoint', htrue'⟩
  cases hpoint.symm.trans hpoint'
  exact firstHolding_le hholding hother htrue'

/-- **A search for several areas agrees with the searches for the single ones.**  Let it be decided
for every waypoint whether it is inside an area.  Then all searches have answers, whatever the
interval is and in both directions.  The search for several areas finds a waypoint and an area
exactly if the waypoint comes first among those found for the single areas, and the area is the
first one that holds it.  It finds nothing exactly if no single search does.  For one area a search
from the front and one from behind find something or nothing alike, and the first find is not behind
the last. -/
theorem firstInsideAny_spec (path : Path K) (interval : Nat × Nat) (areas : List (Inside K))
    (hareas : ∀ inside ∈ areas, path.Decides inside) (forward : Bool) :
    ∃ found, path.firstInsideAny interval areas forward = .ok found ∧
      (∀ i j, found = some (i, j) ↔
        IsFirst forward (path.singleFinds interval areas forward) i ∧
          IsLeast (path.holders areas i) j) ∧
      (found = none ↔
        ∀ inside ∈ areas, path.firstInside interval inside forward = .ok none) ∧
      ∀ inside ∈ areas, ∃ first last, path.firstInside interval inside true = .ok first ∧
        path.firstInside interval inside false = .ok last ∧
        (first.isSome = true ↔ last.isSome = true) ∧ ∀ i ∈ first, ∀ k ∈ last, i ≤ k := by
  obtain ⟨found, hfound⟩ := exists_firstInsideAny hareas interval forward
  refine ⟨found, hfound, ?_, ?_, ?_⟩
  · intro i j
    constructor
    · rintro rfl
      exact ⟨isFirst_of_any hareas hfound, isLeast_holders_of_any hfound⟩
    · rintro ⟨hi, hj⟩
      obtain ⟨inside, hinside, hat⟩ := insideAt_of_mem_singleFinds hi.mem
      cases found with
      | none => exact absurd ⟨i, hat⟩ (not_enters_of_any hfound inside hinside)
      | some place =>
          obtain ⟨i', j'⟩ := place
          obtain rfl : i' = i := (isFirst_of_any hareas hfound).unique hi
          obtain rfl : j' = j := (isLeast_holders_of_any hfound).unique hj
          rfl
  · constructor
    · rintro rfl inside hinside
      obtain ⟨single, hsingle⟩ := exists_firstInside (hareas inside hinside) interval forward
      cases single with
      | none => exact hsingle
      | some k =>
          exact absurd ⟨k, insideAt_of_firstInside hsingle⟩
            (not_enters_of_any hfound inside hinside)
    · intro hnone
      cases found with
      | none => rfl
      | some place =>
          obtain ⟨inside, hinside, hsome⟩ := (isFirst_of_any hareas hfound).mem
          cases (hnone inside hinside).symm.trans hsome
  · intro inside hinside
    obtain ⟨first, hfirst⟩ := exists_firstInside (hareas inside hinside) interval true
    obtain ⟨last, hlast⟩ := exists_firstInside (hareas inside hinside) interval false
    refine ⟨first, last, hfirst, hlast,
      (isSome_iff_enters hfirst).trans (isSome_iff_enters hlast).symm, ?_⟩
    rintro i rfl k rfl
    exact le_of_forward hfirst (insideAt_of_firstInside hlast)

/-! ## Three areas that overlap

A straight path with a sample each metre.  Two areas lie near its start and share some samples, and
one lies near its end.  The interval reaches past the end.
-/

def threeAreas : List (Inside Rat) :=
  [StopLines.ahead 14.5 18, StopLines.ahead 1.5 8, StopLines.ahead 0.5 3]

/-- From the front the third area is found one metre after the start, and from behind the first one
eighteen metres after it. -/
theorem firstInsideAny_spec_threeAreas :
    (∀ inside ∈ threeAreas, StopLines.shortPath.path.Decides inside) ∧
      StopLines.shortPath.path.firstInsideAny (1, 40) threeAreas true = .ok (some (1, 2)) ∧
      IsFirst true (StopLines.shortPath.path.singleFinds (1, 40) threeAreas true) 1 ∧
      IsLeast (StopLines.shortPath.path.holders threeAreas 1) 2 ∧
      StopLines.shortPath.path.firstInsideAny (1, 40) threeAreas false = .ok (some (18, 0)) ∧
      IsFirst false (StopLines.shortPath.path.singleFinds (1, 40) threeAreas false) 18 := by
  have hanswers : ∀ inside ∈ threeAreas, ∀ w ∈ StopLines.shortPath.path.points,
      (inside w.position).isOk = true := by decide +kernel
  have hareas : ∀ inside ∈ threeAreas, StopLines.shortPath.path.Decides inside :=
    fun inside hinside w hw => ⟨_, Outcome.eq_ok_getD (hanswers inside hinside w hw) false⟩
  have hfront : StopLines.shortPath.path.firstInsideAny (1, 40) threeAreas true =
      .ok (some (1, 2)) := by decide +kernel
  have hback : StopLines.shortPath.path.firstInsideAny (1, 40) threeAreas false =
      .ok (some (18, 0)) := by decide +kernel
  obtain ⟨found, hfound, hfirst, -⟩ := firstInsideAny_spec StopLines.shortPath.path (1, 40)
    threeAreas hareas true
  obtain ⟨found', hfound', hlast, -⟩ := firstInsideAny_spec StopLines.shortPath.path (1, 40)
    threeAreas hareas false
  cases hfront.symm.trans hfound
  cases hback.symm.trans hfound'
  obtain ⟨hone, htwo⟩ := (hfirst 1 2).mp rfl
  exact ⟨hareas, hfront, hone, htwo, hback, ((hlast 18 0).mp rfl).1⟩

end Crossing.Path
