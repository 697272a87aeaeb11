import Crossing.Proofs.Polylines

/-!
# The ring that an outline makes

Corners that count as the same as the last one kept are dropped, so the sides from corner to corner
of a region are never short.  One side is not made that way: the **joint**, from the last corner
back to the first.  An outline that ends where it began has its last corner dropped for that, once.

**Being the same is not transitive.**  The last two corners that are kept are apart from each other,
and both may count as the same as the first (`Region.ComesBackTwice`): the second of them is
dropped, the first of them stays, and the joint from there is short.  That is the only way to a
short joint (`Region.ofOutline_ring`), and a joint that is short enough is left out of the edges
without a word.

What is used of distances is that they are the same both ways, and that what is less is at most as
much (`Distance.Lawful`).
-/

namespace Crossing

/-! ## Links of a list and its end -/

namespace Chain

variable {α : Type}

/-- The links of two lists that share an element. -/
lemma links_append (as : List α) (b : α) (bs : List α) :
    links (as ++ b :: bs) = links (as ++ [b]) ++ links (b :: bs) := by
  induction as with
  | nil => rfl
  | cons a as ih =>
      cases as with
      | nil => rfl
      | cons a' as => exact congrArg ((a, a') :: ·) ih

end Chain

/-! ## Distances -/

section Distances

variable {K : Type} [Scalar K]

/-- **What is used of distances.**  It is so for all numbers here. -/
structure Distance.Lawful (K : Type) [Scalar K] : Prop where
  comm : ∀ p q : Point K, p.distance q = q.distance p
  le_of_lt : ∀ a b : Distance K, a < b → a ≤ b

lemma Distance.Lawful.isSame_comm (hd : Distance.Lawful K) (p q : Point K) :
    p.isSame q = q.isSame p := by
  rw [Point.isSame, Point.isNear, hd.comm]
  rfl

/-- A side is left out of the edges exactly if its ends are closer than an epsilon. -/
lemma Segment.tolerate_between (a b : Point K) :
    (between a b).tolerate = (do
      let d ← a.distance b
      return if d < Distance.epsilon then none else some ⟨a, b⟩) := by
  rw [between]
  cases hd : a.distance b with
  | ok d =>
      simp only [bind, Except.bind]
      split <;> rfl
  | error e =>
      rw [Point.distance, Distance.ofMetres] at hd
      split at hd
      · cases hd
      · cases hd
        rfl

end Distances

namespace Region

variable {K : Type} [Scalar K] {points kept middle : List (Point K)} {first last : Point K}
  {r : Region K}

/-! ## The corners of a ring -/

/-- A list ends before its last element if that counts as the same as the first. -/
lemma openRing_concat (first : Point K) (rest : List (Point K)) (last : Point K) :
    openRing (first :: (rest ++ [last])) = (do
      return if ← first.isSame last then first :: rest else first :: (rest ++ [last])) := by
  simp only [openRing, List.getLast?_concat, List.dropLast_concat]

/-- Where the corners of a ring come from: nothing is dropped at the end, or one point is. -/
lemma openRing_cases (h : openRing kept = .ok (first :: (middle ++ [last]))) :
    kept = first :: (middle ++ [last]) ∧ first.isSame last = .ok false ∨
      ∃ dropped, kept = first :: (middle ++ [last] ++ [dropped]) ∧
        first.isSame dropped = .ok true := by
  cases kept with
  | nil => cases h
  | cons start rest =>
      obtain rfl | ⟨rest, final, rfl⟩ := List.eq_nil_or_concat' rest
      · rw [openRing, List.getLast?_nil, Outcome.pure_eq_ok, Except.ok.injEq, List.cons.injEq] at h
        exact absurd h.2.symm (List.concat_ne_nil _ _)
      rw [openRing_concat] at h
      obtain ⟨same, hsame, h⟩ := Outcome.bind_eq_ok.mp h
      cases same with
      | true =>
          cases h
          exact Or.inr ⟨final, rfl, hsame⟩
      | false =>
          rw [if_neg Bool.false_ne_true, Outcome.pure_eq_ok, Except.ok.injEq, List.cons.injEq] at h
          obtain ⟨rfl, hrest⟩ := h
          obtain ⟨rfl, hfinal⟩ := List.append_inj' hrest rfl
          cases hfinal
          exact Or.inl ⟨rfl, hsame⟩

/-- **Where a region comes from**: three corners or more of the points that are kept. -/
lemma ofOutline_cases (h : ofOutline points = .ok r) :
    ∃ kept first middle last, Chain.thin Point.isSame points = .ok kept ∧
      openRing kept = .ok (first :: (middle ++ [last])) ∧ middle ≠ [] ∧
      r.ring = first :: (middle ++ [last]) ++ [first] := by
  obtain ⟨kept, hkept, h⟩ := Outcome.bind_eq_ok.mp h
  obtain ⟨corners, hcorners, h⟩ := Outcome.bind_eq_ok.mp h
  split at h
  · next first second third rest =>
    cases h
    obtain hnil | ⟨middle, last, hrest⟩ := List.eq_nil_or_concat' (second :: third :: rest)
    · cases hnil
    rw [hrest] at hcorners ⊢
    refine ⟨kept, first, middle, last, hkept, hcorners, ?_, rfl⟩
    rintro rfl
    cases hrest
  · cases h

/-! ## The sides -/

/-- **A ring with its joint**: a closed ring, and all sides but the one from the last corner to the
first are between points that do not count as the same. -/
structure ClosesWith (r : Region K) (front : List (Point K × Point K)) (last first : Point K) :
    Prop where
  closed : r.ring.head? = r.ring.getLast?
  four_le : 4 ≤ r.ring.length
  sides_eq : r.sides = front ++ [(last, first)]
  apart : ∀ way ∈ front, way.1.isSame way.2 = .ok false

namespace ClosesWith

variable {front : List (Point K × Point K)} (h : r.ClosesWith front last first)
include h

/-- The corners are all apart exactly if the joint is. -/
lemma apart_iff : Polyline.Apart r.ring ↔ last.isSame first = .ok false := by
  rw [Polyline.Apart, ← sides, h.sides_eq, List.forall_mem_append, List.forall_mem_singleton]
  exact and_iff_right h.apart

/-- **Only the joint can be left out of the edges**, which depends on how long it is. -/
lemma edges_eq (hd : Distance.Lawful K) :
    r.edges = (do
      let d ← last.distance first
      return (if d < Distance.epsilon then front else r.sides).map
        fun way => ⟨way.1, way.2⟩) := by
  have hfront : front.mapM (fun way => (Segment.between way.1 way.2).tolerate) =
      .ok (front.map fun way => some ⟨way.1, way.2⟩) := by
    rw [Outcome.mapM_eq_ok, List.forall₂_map_right_iff, List.forall₂_same]
    intro way hway
    rw [Segment.between_eq_ok hd.le_of_lt (h.apart way hway)]
    rfl
  have hedges : r.edges = (do
      return (← r.sides.mapM fun way => (Segment.between way.1 way.2).tolerate).filterMap id) := rfl
  rw [hedges, h.sides_eq, List.mapM_append, hfront, List.mapM_cons, List.mapM_nil,
    Segment.tolerate_between]
  cases last.distance first with
  | error e => rfl
  | ok d =>
      by_cases hshort : d < Distance.epsilon
      · simp [bind, Except.bind, hshort]
      · simp [bind, Except.bind, hshort]

end ClosesWith

/-- **The points come back twice**: of those that are kept, the last two both count as the same as
the first. -/
def ComesBackTwice (points : List (Point K)) : Prop :=
  ∃ first middle last dropped,
    Chain.thin Point.isSame points = .ok (first :: (middle ++ [last] ++ [dropped])) ∧
      first.isSame last = .ok true ∧ first.isSame dropped = .ok true

/-- Of points that are kept, the corners are apart from one to the next. -/
lemma apart_of_openRing (hd : Distance.Lawful K) (hkept : Chain.thin Point.isSame points = .ok kept)
    (hopen : openRing kept = .ok (first :: (middle ++ [last]))) :
    Polyline.Apart (first :: (middle ++ [last])) := by
  have hapart : Polyline.Apart kept := by
    intro way hway
    rw [hd.isSame_comm]
    exact Chain.apart_of_thin hkept way hway
  obtain ⟨rfl, -⟩ | ⟨dropped, rfl, -⟩ := openRing_cases hopen
  · exact hapart
  · intro way hway
    rw [List.append_assoc] at hapart
    refine hapart way (?_ : way ∈ Chain.links (first :: middle ++ last :: [dropped]))
    rw [Chain.links_append]
    exact List.mem_append_left _ hway

/-- The last corner counts as the same as the first only if the point that came after it does so
too, and has been dropped. -/
lemma isSame_iff_comesBackTwice (hd : Distance.Lawful K)
    (hkept : Chain.thin Point.isSame points = .ok kept)
    (hopen : openRing kept = .ok (first :: (middle ++ [last]))) :
    last.isSame first = .ok true ↔ ComesBackTwice points := by
  rw [hd.isSame_comm]
  obtain ⟨rfl, hfar⟩ | ⟨dropped, rfl, hdropped⟩ := openRing_cases hopen
  · -- Nothing was dropped: the last point kept is the last corner, and not the same as the first.
    rw [hfar]
    refine iff_of_false nofun ?_
    rintro ⟨first', middle', last', dropped, hthin, -, hdropped⟩
    rw [hkept, Except.ok.injEq, List.cons.injEq] at hthin
    obtain ⟨rfl, hrest⟩ := hthin
    obtain ⟨-, ⟨⟩⟩ := List.append_inj' hrest rfl
    cases hfar.symm.trans hdropped
  · -- The last point kept was dropped, so the last corner is the one before it.
    constructor
    · exact fun hsame => ⟨first, middle, last, dropped, hkept, hsame, hdropped⟩
    · rintro ⟨first', middle', last', dropped', hthin, hsame, -⟩
      rw [hkept, Except.ok.injEq, List.cons.injEq] at hthin
      obtain ⟨rfl, hrest⟩ := hthin
      obtain ⟨hrest, -⟩ := List.append_inj' hrest rfl
      obtain ⟨-, ⟨⟩⟩ := List.append_inj' hrest rfl
      exact hsame

/-- The ring that an outline makes, with its joint. -/
lemma exists_closesWith (hd : Distance.Lawful K) (h : ofOutline points = .ok r) :
    ∃ front last first, r.ClosesWith front last first ∧
      (last.isSame first = .ok true ↔ ComesBackTwice points) := by
  obtain ⟨kept, first, middle, last, hkept, hopen, hmiddle, hring⟩ := ofOutline_cases h
  refine ⟨Chain.links (first :: (middle ++ [last])), last, first, ⟨?_, ?_, ?_, ?_⟩,
    isSame_iff_comesBackTwice hd hkept hopen⟩
  · rw [hring, List.getLast?_concat]
    rfl
  · have := List.length_pos_iff.mpr hmiddle
    simp only [hring, List.length_cons, List.length_append, List.length_nil]
    omega
  · rw [sides, hring, List.cons_append, List.append_assoc]
    exact Chain.links_append (first :: middle) last [first]
  · exact apart_of_openRing hd hkept hopen

/-- **The ring that an outline makes** is closed, has at least three corners, and no side from a
corner to the next is short.  The joint is short exactly if the points come back twice; if they do
not, there is an edge for every side. -/
theorem ofOutline_ring (hd : Distance.Lawful K) (h : ofOutline points = .ok r) :
    ∃ front last first, r.ClosesWith front last first ∧
      (last.isSame first = .ok true ↔ ComesBackTwice points) ∧
      r.edges = (do
        let d ← last.distance first
        return (if d < Distance.epsilon then front else r.sides).map fun way => ⟨way.1, way.2⟩) ∧
      ∀ d, last.distance first = .ok d →
        (Polyline.Apart r.ring ↔ ¬ ComesBackTwice points) ∧
        (¬ ComesBackTwice points → r.edges = .ok (r.sides.map fun way => ⟨way.1, way.2⟩)) := by
  obtain ⟨front, last, first, hcloses, hsame⟩ := exists_closesWith hd h
  have hedges := hcloses.edges_eq hd
  refine ⟨front, last, first, hcloses, hsame, hedges, fun d hjoint => ?_⟩
  have hjoined := Point.isSame_eq_ok.mpr ⟨d, hjoint, rfl⟩
  have hapart : Polyline.Apart r.ring ↔ ¬ ComesBackTwice points := by
    rw [hcloses.apart_iff, ← hsame, hjoined, Except.ok.injEq, Except.ok.injEq, Bool.not_eq_true]
  refine ⟨hapart, fun honce => ?_⟩
  have hfar := hcloses.apart_iff.mp (hapart.mpr honce)
  rw [hjoined, Except.ok.injEq, decide_eq_false_iff_not] at hfar
  have hlong : ¬ d < Distance.epsilon := fun hshort => hfar (hd.le_of_lt _ _ hshort)
  rw [hedges, hjoint]
  simp only [bind, Except.bind, if_neg hlong]
  rfl

end Region

/-! ## With exact numbers -/

lemma FourPlaces.lawful_distance {F : Type} [Field F] [LinearOrder F] [FloorRing F]
    [IsStrictOrderedRing F] {f : Functions F} : Distance.Lawful (FourPlaces f) where
  comm p q := by rw [distance_eq, distance_eq, pointGap_comm]
  le_of_lt := distance_le_of_lt

namespace Region

def tile : List (Point (FourPlaces rationals)) :=
  [⟨0.0, 0.0⟩, ⟨10.0, 0.0⟩, ⟨10.0, 10.0⟩, ⟨0.0, 10.0⟩]

lemma not_comesBackTwice_tile : ¬ ComesBackTwice tile := by
  rintro ⟨first, middle, last, dropped, hthin, -, hdropped⟩
  have hkept : Chain.thin Point.isSame tile = .ok tile := by decide +kernel
  rw [hkept, Except.ok.injEq] at hthin
  cases congrArg List.head? hthin
  have hlast := congrArg List.getLast? hthin
  rw [← List.cons_append, List.getLast?_concat] at hlast
  cases hlast
  exact absurd hdropped (by decide +kernel)

/-- A square has its four edges. -/
theorem ofOutline_ring_tile :
    Distance.Lawful (FourPlaces rationals) ∧ ofOutline tile = .ok ⟨tile ++ [⟨0.0, 0.0⟩]⟩ ∧
      ∃ edges, Region.edges ⟨tile ++ [⟨0.0, 0.0⟩]⟩ = .ok edges ∧ edges.length = 4 := by
  have hmade : ofOutline tile = .ok ⟨tile ++ [⟨0.0, 0.0⟩]⟩ := by decide +kernel
  obtain ⟨front, last, first, -, -, -, h⟩ := ofOutline_ring FourPlaces.lawful_distance hmade
  obtain ⟨-, hedges⟩ := h _ (FourPlaces.distance_eq last first)
  exact ⟨FourPlaces.lawful_distance, hmade, _, hedges not_comesBackTwice_tile, rfl⟩

/-- An outline whose last two points lie on either side of the first, and close to it. -/
def frayed : List (Point (FourPlaces rationals)) :=
  [⟨0.0, 0.0⟩, ⟨10.0, 0.0⟩, ⟨10.0, 10.0⟩, ⟨0.008, 0.0⟩, ⟨-0.008, 0.0⟩]

/-- **A ring can have a short joint**, and no edge there. -/
theorem not_forall_ring_apart :
    ¬ ∀ (points : List (Point (FourPlaces rationals))) (r : Region (FourPlaces rationals)),
      ofOutline points = .ok r →
        (r.ring.head? = r.ring.getLast? ∧ 4 ≤ r.ring.length) ∧ Polyline.Apart r.ring ∧
          r.edges = .ok (r.sides.map fun way => ⟨way.1, way.2⟩) := by
  intro h
  have hmade : ofOutline frayed =
      .ok ⟨[⟨0.0, 0.0⟩, ⟨10.0, 0.0⟩, ⟨10.0, 10.0⟩, ⟨0.008, 0.0⟩, ⟨0.0, 0.0⟩]⟩ := by decide +kernel
  obtain ⟨-, -, hedges⟩ := h frayed _ hmade
  exact absurd hedges (by decide +kernel)

end Region

end Crossing
