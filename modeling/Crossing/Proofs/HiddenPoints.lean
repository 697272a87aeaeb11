import Mathlib.Order.Bounds.Basic
import Crossing.Proofs.FourPlaces
import Crossing.Proofs.Overflow

/-!
# The nearest hidden point

The search for hidden points looks at one cross section after the other, stops on each at the first
point that is hidden, and keeps the best so far.  What it finds is described without a search.

**What is hidden.**  A point is hidden when it is out of range or when an obstacle contains it
(`View.IsHidden`); the first hidden point of a cross section is its hit (`View.firstHidden`).  An
obstacle blocks the view when it is the first that contains a hit in range (`View.Blocks`).

**What is found.**  The search finds something exactly if there is a hit.  It then finds the one
whose projection comes first along the path, and of equal ones the earliest (`View.IsNearest`).  All
obstacles that block the view go into the drawing, also those of hits that are not the nearest.
There is always an answer unless a number overflows (`View.find_spec`).

A best so far is the best of all only if comparisons can be trusted.  `Distance.Ordered` says as
much of distances as is true with numbers that may be undefined.
-/

namespace Crossing

variable {K : Type} [Scalar K]

/-! ## The first of the least -/

/-- A distance that has been made: rounded, and of a finite number. -/
def Distance.IsMade (d : Distance K) : Prop := ∃ x, Distance.ofMetres x = .ok d

/-- **Distances are in order**, and one that has been made is not out of it. -/
structure Distance.Ordered (K : Type) [Scalar K] : Prop where
  le_of_lt : ∀ a b : Distance K, a < b → a ≤ b
  asymm : ∀ a b : Distance K, a < b → ¬ b < a
  between : ∀ a b c : Distance K, a < b → c.IsMade → a < c ∨ c < b

/-- Exact numbers are in order. -/
lemma FourPlaces.ordered {F : Type} [Field F] [LinearOrder F] [FloorRing F]
    [IsStrictOrderedRing F] (f : Functions F) : Distance.Ordered (FourPlaces f) where
  le_of_lt _ _ h := le_of_lt (α := FourPlaces f) h
  asymm _ _ h := lt_asymm (α := FourPlaces f) h
  between _ _ c h _ := LT.lt.gt_or_lt (α := FourPlaces f) h c.metres

/-- The winner is the first of those with the least key. -/
def FirstLeast {α : Type} (key : α → Distance K) (xs : List α) (winner : α) : Prop :=
  ∃ before after, xs = before ++ winner :: after ∧ (∀ x ∈ before, key winner < key x) ∧
    ∀ x ∈ after, ¬ key x < key winner

namespace FirstLeast

variable {α : Type} {key : α → Distance K} {xs : List α} {best : α}

/-- One more element wins if it has less than the winner so far. -/
lemma concat (hK : Distance.Ordered K) (hmade : ∀ x ∈ xs, (key x).IsMade)
    (h : FirstLeast key xs best) (x : α) :
    FirstLeast key (xs ++ [x]) (if key x < key best then x else best) := by
  obtain ⟨before, after, rfl, hbefore, hafter⟩ := h
  split
  · next hless =>
    refine ⟨before ++ best :: after, [], rfl, fun y hy => ?_, nofun⟩
    refine (hK.between _ _ _ hless (hmade y hy)).resolve_right ?_
    rcases List.mem_append.mp hy with hy | hy
    · exact hK.asymm _ _ (hbefore y hy)
    · rcases List.mem_cons.mp hy with rfl | hy
      · exact fun hself => hK.asymm _ _ hself hself
      · exact hafter y hy
  · next hless =>
    refine ⟨before, after ++ [x], by simp, hbefore, ?_⟩
    rw [List.forall_mem_append, List.forall_mem_singleton]
    exact ⟨hafter, hless⟩

/-- Keeping the best so far finds the first of the least. -/
lemma foldl (hK : Distance.Ordered K) {rest : List α} (hmade : ∀ x ∈ xs ++ rest, (key x).IsMade)
    (h : FirstLeast key xs best) : FirstLeast key (xs ++ rest)
      (rest.foldl (fun best x => if key x < key best then x else best) best) := by
  induction rest generalizing xs best with
  | nil => rwa [List.append_nil]
  | cons x rest ih =>
      rw [List.append_cons] at hmade ⊢
      refine ih hmade (h.concat hK (fun y hy => hmade y ?_) x)
      exact List.mem_append_left _ (List.mem_append_left _ hy)

end FirstLeast

namespace Polyline

variable {p : Point K}

lemma isMade_of_closestAmong {segments : List (Segment K)} {sofar : Distance K}
    {best : Option (Closest K)} {c : Closest K}
    (h : closestAmong p segments sofar best = .ok (some c))
    (hbest : ∀ c, best = some c → c.along.IsMade) : c.along.IsMade := by
  induction segments generalizing sofar best with
  | nil =>
      cases h
      exact hbest c rfl
  | cons s rest ih =>
      obtain ⟨c', length, next, -, -, h, hsame | ⟨hit, d, -, -, hsum⟩⟩ := closestAmong_cons h
      · exact ih h fun c'' hc'' => hbest c'' (hsame.trans hc'')
      · refine ih h fun c'' hc'' => ?_
        cases hc''
        exact ⟨_, hsum⟩

/-- How far along a polyline a projection lies is a sum of distances. -/
lemma isMade_of_project {path : Polyline K} {along : Distance K} {place : Point K}
    (h : path.project p = .ok (along, place)) : along.IsMade := by
  obtain ⟨segments, -, h⟩ := Outcome.bind_eq_ok.mp h
  obtain ⟨found, hfound, h⟩ := Outcome.bind_eq_ok.mp h
  obtain ⟨c, hc, h⟩ := Outcome.bind_eq_ok.mp h
  cases h
  cases found with
  | none => cases hc
  | some c' =>
      cases hc
      exact isMade_of_closestAmong hfound nofun

end Polyline

namespace Occlusion

lemma nearest_eq_none {places : List (Occlusion K)} : nearest places = none ↔ places = [] := by
  cases places <;> simp [nearest]

lemma firstLeast_of_nearest (hK : Distance.Ordered K) {places : List (Occlusion K)}
    (hmade : ∀ o ∈ places, o.along.IsMade) {best : Occlusion K} (h : nearest places = some best) :
    FirstLeast along places best := by
  cases places with
  | nil => cases h
  | cons o rest =>
      cases h
      have hfirst : FirstLeast along [o] o := ⟨[], [], rfl, nofun, nofun⟩
      exact hfirst.foldl hK hmade

/-! ## What is hidden -/

/-- Where is looked from, how far, and past what. -/
structure View (K : Type) where
  obstacles : List (Region K)
  ego : Point K
  range : Distance K

namespace View

variable (view : View K) (p : Point K)

def OutOfRange : Prop := ∃ d, p.distance view.ego = .ok d ∧ view.range < d

/-- Obstacle `i` is the first that contains the point. -/
def HeldBy (i : ℕ) : Prop :=
  IsLeast { j | ∃ o, view.obstacles[j]? = some o ∧ o.contains p = .ok true } i

def IsHidden : Prop := view.OutOfRange p ∨ ∃ o ∈ view.obstacles, o.contains p = .ok true

open Classical in
/-- **The hit of a cross section**: its first point from the left that is hidden. -/
noncomputable def firstHidden (division : Polyline K) : Option (Point K) :=
  division.points.find? fun p => view.IsHidden p

lemma firstHidden_eq_none_iff {view : View K} {division : Polyline K} :
    view.firstHidden division = none ↔ ∀ p ∈ division.points, ¬ view.IsHidden p := by
  simp [firstHidden]

lemma firstHidden_eq_some_iff {view : View K} {division : Polyline K} {p : Point K} :
    view.firstHidden division = some p ↔ view.IsHidden p ∧
      ∃ before after, division.points = before ++ p :: after ∧
        ∀ q ∈ before, ¬ view.IsHidden q := by
  simp [firstHidden, List.find?_eq_some_iff_append]

/-- Obstacle `i` is the first that contains some hit in range. -/
def Blocks (divisions : List (Polyline K)) (i : ℕ) : Prop :=
  ∃ division ∈ divisions, ∃ p, view.firstHidden division = some p ∧ ¬ view.OutOfRange p ∧
    view.HeldBy p i

/-- **The hit that the vehicle comes to first**: no hit projects to less along the path, and no
earlier one to as much. -/
def IsNearest (divisions : List (Polyline K)) (path : Polyline K) (best : Occlusion K) : Prop :=
  ∃ before division after, divisions = before ++ division :: after ∧
    view.firstHidden division = some best.occluded ∧
    path.project best.occluded = .ok (best.along, best.projection) ∧
    (∀ earlier ∈ before, ∀ p along place, view.firstHidden earlier = some p →
      path.project p = .ok (along, place) → best.along < along) ∧
    ∀ later ∈ after, ∀ p along place, view.firstHidden later = some p →
      path.project p = .ok (along, place) → ¬ along < best.along

/-! ## What is found -/

variable {view p} {path division : Polyline K}

/-- A search by index finds the first obstacle that contains the point. -/
lemma heldBy_of_findM {o : Region K} {i : ℕ}
    (h : view.obstacles.zipIdx.findM? (fun (o, _) => o.contains p) = .ok (some (o, i))) :
    view.HeldBy p i := by
  obtain ⟨before, after, hsplit, htrue, hfalse⟩ := Outcome.findM_eq_some.mp h
  have hmem (j : ℕ) (o' : Region K) :
      view.obstacles[j]? = some o' ↔ (o', j) ∈ before ++ (o, i) :: after := by
    rw [← hsplit, List.mk_mem_zipIdx_iff_getElem?]
  have hsorted := Outcome.pairwise_zipIdx view.obstacles
  rw [hsplit, List.pairwise_append, List.pairwise_cons] at hsorted
  refine ⟨⟨o, (hmem i o).mpr (by simp), htrue⟩, ?_⟩
  rintro j ⟨o', hj, ho'⟩
  rcases List.mem_append.mp ((hmem j o').mp hj) with hj | hj
  · -- an obstacle before the one found was tried and does not contain the point
    cases ho'.symm.trans (hfalse _ hj)
  · rcases List.mem_cons.mp hj with heq | hj
    · exact Nat.le_of_eq (Prod.mk.inj heq).2.symm
    · exact Nat.le_of_lt (hsorted.2.1.1 _ hj)

lemma not_isHidden_of_hitAt (h : hitAt view.obstacles view.ego view.range p = .ok none) :
    ¬ view.IsHidden p := by
  obtain ⟨d, hd, h⟩ := Outcome.bind_eq_ok.mp h
  split at h
  · cases h
  · next hnear =>
    obtain ⟨found, hfound, h⟩ := Outcome.bind_eq_ok.mp h
    obtain rfl := Option.map_eq_none_iff.mp (Except.ok.inj h)
    rintro (⟨d', hd', hfar⟩ | ⟨o, ho, hholds⟩)
    · cases hd.symm.trans hd'
      exact hnear hfar
    · obtain ⟨i, hi⟩ := List.mem_iff_getElem?.mp ho
      have hfalse := Outcome.findM_eq_none.mp hfound (o, i) (List.mk_mem_zipIdx_iff_getElem?.mpr hi)
      cases hholds.symm.trans hfalse

/-- What hides a point: the first obstacle that contains it, when it is in range. -/
lemma isHidden_of_hitAt {hit : Hit K}
    (h : hitAt view.obstacles view.ego view.range p = .ok (some hit)) :
    hit.point = p ∧ view.IsHidden p ∧
      ∀ i, hit.obstacle = some i ↔ ¬ view.OutOfRange p ∧ view.HeldBy p i := by
  obtain ⟨d, hd, h⟩ := Outcome.bind_eq_ok.mp h
  split at h
  · next hfar =>
    cases h
    have hout : view.OutOfRange p := ⟨d, hd, hfar⟩
    exact ⟨rfl, Or.inl hout, fun i => iff_of_false nofun fun h => h.1 hout⟩
  · next hnear =>
    obtain ⟨found, hfound, h⟩ := Outcome.bind_eq_ok.mp h
    obtain ⟨⟨o, j⟩, rfl, rfl⟩ := Option.map_eq_some_iff.mp (Except.ok.inj h)
    have hheld := heldBy_of_findM hfound
    have hin : ¬ view.OutOfRange p := by
      rintro ⟨d', hd', hfar⟩
      cases hd.symm.trans hd'
      exact hnear hfar
    refine ⟨rfl, ?_, fun i => ?_⟩
    · obtain ⟨o', hj, ho'⟩ := hheld.1
      exact Or.inr ⟨o', List.mem_of_getElem? hj, ho'⟩
    · rw [Option.some.injEq]
      constructor
      · rintro rfl
        exact ⟨hin, hheld⟩
      · exact fun h => hheld.unique h.2

lemma firstHidden_eq_none
    (h : ofDivision view.obstacles view.ego view.range path division = .ok none) :
    view.firstHidden division = none := by
  obtain ⟨found, hfound, h⟩ := Outcome.bind_eq_ok.mp h
  cases found with
  | none =>
      exact firstHidden_eq_none_iff.mpr fun p hp =>
        not_isHidden_of_hitAt (Outcome.findSomeM_eq_none.mp hfound p hp)
  | some hit =>
      obtain ⟨place, -, h⟩ := Outcome.bind_eq_ok.mp h
      cases h

/-- **The hit of a cross section is found**, with its projection and the obstacle that hides it. -/
lemma firstHidden_eq_some {hit : Hit K} {o : Occlusion K}
    (h : ofDivision view.obstacles view.ego view.range path division = .ok (some (hit, o))) :
    view.firstHidden division = some o.occluded ∧
      path.project o.occluded = .ok (o.along, o.projection) ∧
      ∀ i, hit.obstacle = some i ↔ ¬ view.OutOfRange o.occluded ∧ view.HeldBy o.occluded i := by
  obtain ⟨found, hfound, h⟩ := Outcome.bind_eq_ok.mp h
  cases found with
  | none => cases h
  | some hit' =>
      obtain ⟨⟨along, projection⟩, hproject, h⟩ := Outcome.bind_eq_ok.mp h
      cases h
      obtain ⟨before, p, after, hsplit, hp, hbefore⟩ := Outcome.findSomeM_eq_some.mp hfound
      obtain ⟨rfl, hhidden, hobstacle⟩ := isHidden_of_hitAt hp
      have hfirst := firstHidden_eq_some_iff.mpr ⟨hhidden, before, after, hsplit, fun q hq =>
        not_isHidden_of_hitAt (hbefore q hq)⟩
      exact ⟨hfirst, hproject, hobstacle⟩

end View

/-! ## All cross sections -/

section Find

variable {view : View K} {path : Polyline K}

/-- What the search finds on a cross section, if it finds something. -/
def found (view : View K) (path division : Polyline K) : Option (Hit K × Occlusion K) :=
  (ofDivision view.obstacles view.ego view.range path division).toOption.join

variable {divisions : List (Polyline K)} (hfound : ∀ division ∈ divisions,
  ofDivision view.obstacles view.ego view.range path division = .ok (found view path division))
include hfound

lemma found_cases {division : Polyline K} (hdivision : division ∈ divisions) :
    (found view path division = none ∧ view.firstHidden division = none) ∨
      ∃ hit o, found view path division = some (hit, o) ∧
        view.firstHidden division = some o.occluded ∧
        path.project o.occluded = .ok (o.along, o.projection) ∧
        ∀ i, hit.obstacle = some i ↔ ¬ view.OutOfRange o.occluded ∧ view.HeldBy o.occluded i := by
  have h := hfound division hdivision
  cases hseen : found view path division with
  | none =>
      rw [hseen] at h
      exact Or.inl ⟨rfl, View.firstHidden_eq_none h⟩
  | some seen =>
      rw [hseen] at h
      exact Or.inr ⟨seen.1, seen.2, rfl, View.firstHidden_eq_some h⟩

/-- The obstacles that are found are those that block the view. -/
lemma mem_blocking_iff {i : ℕ} :
    i ∈ (divisions.filterMap (found view path)).filterMap (fun hit => hit.1.obstacle) ↔
      view.Blocks divisions i := by
  simp only [List.mem_filterMap]
  constructor
  · rintro ⟨_, ⟨division, hdivision, hseen⟩, hobstacle⟩
    obtain ⟨hnone, -⟩ | ⟨hit, o, hsome, hfirst, -, hholds⟩ := found_cases hfound hdivision
    · cases hnone.symm.trans hseen
    · obtain rfl := Option.some.inj (hsome.symm.trans hseen)
      exact ⟨division, hdivision, o.occluded, hfirst, (hholds i).mp hobstacle⟩
  · rintro ⟨division, hdivision, p, hp, hblocks⟩
    obtain ⟨-, hnone⟩ | ⟨hit, o, hsome, hfirst, -, hholds⟩ := found_cases hfound hdivision
    · cases hnone.symm.trans hp
    · obtain rfl := Option.some.inj (hfirst.symm.trans hp)
      exact ⟨(hit, o), ⟨division, hdivision, hsome⟩, (hholds i).mpr hblocks⟩

lemma nearest_found_eq_none :
    nearest ((divisions.filterMap (found view path)).map Prod.snd) = none ↔
      ∀ division ∈ divisions, view.firstHidden division = none := by
  rw [nearest_eq_none, List.map_eq_nil_iff, List.filterMap_eq_nil_iff]
  refine forall₂_congr fun division hdivision => ?_
  obtain ⟨hnone, hfirst⟩ | ⟨hit, o, hsome, hfirst, -⟩ := found_cases hfound hdivision
  · exact iff_of_true hnone hfirst
  · exact iff_of_false (fun h => by cases hsome.symm.trans h) fun h => by cases hfirst.symm.trans h

/-- What is found is the hit with its projection. -/
lemma map_found_eq_some {division : Polyline K} (hdivision : division ∈ divisions)
    {o : Occlusion K} : (found view path division).map Prod.snd = some o ↔
      view.firstHidden division = some o.occluded ∧
        path.project o.occluded = .ok (o.along, o.projection) := by
  obtain ⟨hnone, hfirst⟩ | ⟨hit, o', hsome, hfirst, hproject, -⟩ := found_cases hfound hdivision
  · rw [hnone, hfirst]
    exact iff_of_false nofun nofun
  · rw [hsome, hfirst, Option.map_some, Option.some.injEq, Option.some.injEq]
    constructor
    · rintro rfl
      exact ⟨rfl, hproject⟩
    · rintro ⟨hpoint, h⟩
      rw [← hpoint, hproject] at h
      cases o
      cases o'
      cases h
      cases hpoint
      rfl

/-- **The best so far is the nearest hit.** -/
lemma isNearest_of_nearest (hK : Distance.Ordered K) {best : Occlusion K}
    (h : nearest ((divisions.filterMap (found view path)).map Prod.snd) = some best) :
    view.IsNearest divisions path best := by
  rw [List.map_filterMap] at h
  have hmade : ∀ o ∈ divisions.filterMap fun division => (found view path division).map Prod.snd,
      o.along.IsMade := by
    intro o ho
    obtain ⟨division, hdivision, hseen⟩ := List.mem_filterMap.mp ho
    exact Polyline.isMade_of_project ((map_found_eq_some hfound hdivision).mp hseen).2
  obtain ⟨before, after, hsplit, hbefore, hafter⟩ := firstLeast_of_nearest hK hmade h
  -- between the hits before the winner and the winner there can be cross sections without a hit
  obtain ⟨passed, rest, rfl, rfl, hrest⟩ := List.filterMap_eq_append_iff.mp hsplit
  obtain ⟨bare, division, later, rfl, hbare, hwinner, rfl⟩ := List.filterMap_eq_cons_iff.mp hrest
  obtain ⟨hfirst, hproject⟩ := (map_found_eq_some hfound (by simp)).mp hwinner
  refine ⟨passed ++ bare, division, later, by simp, hfirst, hproject, ?_, ?_⟩
  · intro earlier hearlier p along place hp hplace
    have hdivision : earlier ∈ passed ++ (bare ++ division :: later) := by
      rw [← List.append_assoc]
      exact List.mem_append_left _ hearlier
    have hseen := (map_found_eq_some (o := ⟨p, place, along⟩) hfound hdivision).mpr ⟨hp, hplace⟩
    rcases List.mem_append.mp hearlier with hearlier | hearlier
    · exact hbefore _ (List.mem_filterMap.mpr ⟨earlier, hearlier, hseen⟩)
    · cases (hbare earlier hearlier).symm.trans hseen
  · intro behind hbehind p along place hp hplace
    have hseen := (map_found_eq_some (o := ⟨p, place, along⟩) hfound (by simp [hbehind])).mpr
      ⟨hp, hplace⟩
    exact hafter _ (List.mem_filterMap.mpr ⟨behind, hbehind, hseen⟩)

end Find

section Spec

variable (view : View K) (path : Polyline K) (sketch : Sketch K)

lemma computes_find (hK : Distance.Ordered K) {path : Polyline K} (hpath : path.IsMade)
    (lanes : List (SlicedLane K)) :
    (find lanes view.obstacles view.ego view.range path sketch).Computes := by
  have hproject := hpath.computes_project hK.le_of_lt
  have hhit (p : Point K) : (hitAt view.obstacles view.ego view.range p).Computes := by
    simp [hitAt]
  have hdivision (division : Polyline K) :
      (ofDivision view.obstacles view.ego view.range path division).Computes := by
    simp [ofDivision, hhit, hproject, Option.forall]
  simp [find, hdivision]

open Classical in
/-- **What the search for hidden points finds.**  Unless a number overflows, it finds nothing if no
cross section has a hit, and otherwise the hit that the vehicle comes to first.  The obstacles that
block the view go into the drawing in their order, each once, and what has been found with them. -/
theorem find_spec (hK : Distance.Ordered K) {path : Polyline K} (hpath : path.IsMade)
    (lanes : List (SlicedLane K)) :
    (∃ best, find lanes view.obstacles view.ego view.range path sketch = .ok (best, { sketch with
        blockingObstacles := sketch.blockingObstacles ++ (view.obstacles.zipIdx.filter fun x =>
          view.Blocks (lanes.flatMap SlicedLane.divisions) x.2).map Prod.fst
        nearestOcclusion := best.map fun b => (b.occluded, b.projection) }) ∧
      (best = none ↔ ∀ division ∈ lanes.flatMap SlicedLane.divisions,
        view.firstHidden division = none) ∧
      ∀ b, best = some b → view.IsNearest (lanes.flatMap SlicedLane.divisions) path b) ∨
    ∃ fault, find lanes view.obstacles view.ego view.range path sketch = .error fault ∧
      fault.IsOverflow := by
  refine (computes_find view sketch hK hpath lanes).exists_ok_or_overflow.imp_left ?_
  rintro ⟨answer, hanswer⟩
  obtain ⟨hits, hhits, h⟩ := Outcome.bind_eq_ok.mp hanswer
  obtain ⟨hfound, rfl⟩ := Outcome.eq_ok_join_of_mapM hhits
  obtain rfl := Except.ok.inj h
  have hblocking : (view.obstacles.zipIdx.filterMap fun (o, i) =>
      if i ∈ ((lanes.flatMap SlicedLane.divisions).filterMap (found view path)).filterMap
        (fun hit => hit.1.obstacle) then some o else none) =
      (view.obstacles.zipIdx.filter fun x =>
        view.Blocks (lanes.flatMap SlicedLane.divisions) x.2).map Prod.fst := by
    rw [← List.filterMap_eq_map, List.filterMap_filter]
    simp only [mem_blocking_iff hfound, decide_eq_true_eq]
    rfl
  rw [List.filterMap_map] at hanswer
  refine ⟨_, hanswer.trans ?_, nearest_found_eq_none hfound, fun b => isNearest_of_nearest hfound hK⟩
  rw [← hblocking]
  rfl

end Spec

/-! ## A parked car -/

/-- Ten metres of street. -/
def street : Polyline (FourPlaces rationals) := ⟨[⟨0.0, 0.0⟩, ⟨10.0, 0.0⟩], ⟨10.0⟩⟩

/-- A car beside the street, seen from its start. -/
def parkedCar : View (FourPlaces rationals) where
  obstacles := [⟨[⟨5.0, 1.0⟩, ⟨7.0, 1.0⟩, ⟨7.0, 3.0⟩, ⟨5.0, 3.0⟩, ⟨5.0, 1.0⟩]⟩]
  ego := ⟨0.0, 0.0⟩
  range := ⟨20.0⟩

/-- The view of the first cross section ends out of range, and that of the others behind the car. -/
def sideStreet : SlicedLane (FourPlaces rationals) where
  lane := ⟨1⟩
  divisions := [⟨[⟨30.0, 4.0⟩, ⟨30.0, 2.0⟩], ⟨2.0⟩⟩, ⟨[⟨6.0, 4.0⟩, ⟨6.0, 2.0⟩], ⟨2.0⟩⟩,
    ⟨[⟨6.0, 5.0⟩, ⟨6.0, 2.5⟩], ⟨2.5⟩⟩]

/-- Two cross sections have a hit six metres along the street, and the earlier one counts. -/
theorem find_spec_parkedCar :
    Distance.Ordered (FourPlaces rationals) ∧ street.IsMade ∧
      ∃ drawn, find [sideStreet] parkedCar.obstacles parkedCar.ego parkedCar.range street
          Sketch.empty = .ok (some ⟨⟨6.0, 2.0⟩, ⟨6.0, 0.0⟩, ⟨6.0⟩⟩, drawn) ∧
        parkedCar.IsNearest sideStreet.divisions street ⟨⟨6.0, 2.0⟩, ⟨6.0, 0.0⟩, ⟨6.0⟩⟩ ∧
        drawn.blockingObstacles = parkedCar.obstacles := by
  have hstreet : street.IsMade := ⟨street.points, by decide +kernel⟩
  have hfind : (find [sideStreet] parkedCar.obstacles parkedCar.ego parkedCar.range street
      Sketch.empty).map (fun answer => (answer.1, answer.2.blockingObstacles)) =
        .ok (some ⟨⟨6.0, 2.0⟩, ⟨6.0, 0.0⟩, ⟨6.0⟩⟩, parkedCar.obstacles) := by decide +kernel
  obtain ⟨best, hbest, -, hnearest⟩ | ⟨fault, hfault, -⟩ := find_spec parkedCar Sketch.empty
    (FourPlaces.ordered rationals) hstreet [sideStreet]
  · rw [hbest] at hfind
    obtain ⟨rfl, hblocking⟩ := Prod.mk.inj (Except.ok.inj hfind)
    exact ⟨FourPlaces.ordered rationals, hstreet, _, hbest, hnearest _ rfl, hblocking⟩
  · rw [hfault] at hfind
    cases hfind

end Occlusion

end Crossing
