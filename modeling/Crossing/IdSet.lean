import Crossing.Identifier

/-!
# Sets of lanelets

An intersection is driven through on any of several lanelets, and those form a set.  `IdSet`
keeps the names in ascending order without repetition, so two sets with the same members are
equal, and a set is listed in one way only.

**The order is part of the type.**  `insert` is the one operation that has to keep it, and
everything else is built from `insert`.  The view is `toList`, with membership in
`mem_insert` and `mem_ofList`.
-/

namespace Crossing

/-- A name in its place among ascending names; nothing changes when it is there already. -/
def placeAscending (id : LaneletId) : List LaneletId → List LaneletId
  | [] => [id]
  | x :: rest =>
    if id.value < x.value then id :: x :: rest
    else if id.value = x.value then x :: rest
    else x :: placeAscending id rest

/-- Placing a name adds exactly that name. -/
theorem mem_placeAscending {id x : LaneletId} :
    ∀ {ids : List LaneletId}, x ∈ placeAscending id ids ↔ x = id ∨ x ∈ ids
  | [] => by simp [placeAscending]
  | y :: rest => by
    unfold placeAscending
    split
    · simp
    · split
      · next h =>
        have hy : id = y := by cases id; cases y; simp_all
        subst hy
        simp
      · simp only [List.mem_cons, @mem_placeAscending id x rest]
        grind

/-- Placing a name keeps the order strict. -/
theorem pairwise_placeAscending (id : LaneletId) :
    ∀ {ids : List LaneletId}, ids.Pairwise (·.value < ·.value) →
      (placeAscending id ids).Pairwise (·.value < ·.value)
  | [], _ => by simp [placeAscending]
  | y :: rest, h => by
    rw [List.pairwise_cons] at h
    unfold placeAscending
    split
    · next hlt =>
      refine List.pairwise_cons.2 ⟨?_, List.pairwise_cons.2 h⟩
      intro z hz
      rcases List.mem_cons.1 hz with rfl | hz
      · exact hlt
      · exact Int.lt_trans hlt (h.1 z hz)
    · split
      · exact List.pairwise_cons.2 h
      · refine List.pairwise_cons.2 ⟨?_, pairwise_placeAscending id h.2⟩
        intro z hz
        rcases mem_placeAscending.1 hz with rfl | hz
        · omega
        · exact h.1 z hz

/-- A finite set of lanelet names. -/
structure IdSet where
  /-- The members in ascending order. -/
  toList : List LaneletId
  /-- No member stands twice, and smaller ones stand first. -/
  ascending : toList.Pairwise (·.value < ·.value)
  deriving DecidableEq

namespace IdSet

/-- The set without members. -/
def empty : IdSet := ⟨[], List.Pairwise.nil⟩

instance : Inhabited IdSet := ⟨empty⟩

/-- The set with one more member. -/
def insert (s : IdSet) (id : LaneletId) : IdSet :=
  ⟨placeAscending id s.toList, pairwise_placeAscending id s.ascending⟩

/-- The set with more members. -/
def insertAll (s : IdSet) (ids : List LaneletId) : IdSet := ids.foldl insert s

/-- The set of the names in a list. -/
def ofList (ids : List LaneletId) : IdSet := empty.insertAll ids

instance : Membership LaneletId IdSet := ⟨fun s id => id ∈ s.toList⟩

instance (id : LaneletId) (s : IdSet) : Decidable (id ∈ s) :=
  inferInstanceAs (Decidable (id ∈ s.toList))

theorem mem_toList {s : IdSet} {id : LaneletId} : id ∈ s.toList ↔ id ∈ s := Iff.rfl

/-- Inserting adds exactly one name. -/
theorem mem_insert {s : IdSet} {id x : LaneletId} : x ∈ s.insert id ↔ x = id ∨ x ∈ s :=
  mem_placeAscending

/-- Inserting several adds exactly those. -/
theorem mem_insertAll {x : LaneletId} :
    ∀ {ids : List LaneletId} {s : IdSet}, x ∈ s.insertAll ids ↔ x ∈ ids ∨ x ∈ s
  | [], s => by simp [insertAll]
  | id :: rest, s => by
    have h : s.insertAll (id :: rest) = (s.insert id).insertAll rest := rfl
    rw [h, mem_insertAll, mem_insert, List.mem_cons]
    grind

/-- The set of a list has the list's names. -/
theorem mem_ofList {x : LaneletId} {ids : List LaneletId} : x ∈ ofList ids ↔ x ∈ ids := by
  rw [ofList, mem_insertAll]
  exact or_iff_left List.not_mem_nil

end IdSet

end Crossing
