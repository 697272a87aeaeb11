import Crossing.Surroundings

/-!
# Remembering the first areas

Which lanelets are watched changes from cycle to cycle, and with it the area that the path
enters first.  Stop lines must not jump around because of that, so a first area that has been
found for a set of lanelets stays.  `FirstAreaCache` remembers two of them for each set: the
first conflicting one and the first watched one.

`FirstAreaCache.apply` gives back the cache whatever happens: a set that has come up once has an
entry from then on, even if the search for its areas ends in a breach.
-/

namespace Crossing

/-- The first areas that are known for a set of lanelets. -/
structure FirstAreas (K : Type) where
  conflicting : Option (Region K)
  attention : Option (Region K)
  deriving DecidableEq

/-- The first areas for each set of lanelets that has come up. -/
structure FirstAreaCache (K : Type) where
  /-- The entries, at most one for each set. -/
  entries : List (IdSet × FirstAreas K)
  deriving DecidableEq

namespace FirstAreaCache

variable {K : Type}

/-- The cache before anything has come up. -/
def empty : FirstAreaCache K := ⟨[]⟩

/-- What is known for a set. -/
def get? (c : FirstAreaCache K) (ids : IdSet) : Option (FirstAreas K) := c.entries.lookup ids

/-- The cache with another entry for a set. -/
def set (c : FirstAreaCache K) (ids : IdSet) (areas : FirstAreas K) : FirstAreaCache K :=
  ⟨(ids, areas) :: c.entries.filter (·.1 ≠ ids)⟩

/-- What has been set for a set is what is known for it. -/
theorem get?_set_self (c : FirstAreaCache K) (ids : IdSet) (areas : FirstAreas K) :
    (c.set ids areas).get? ids = some areas := by
  simp [get?, set]

/-- The surroundings with what is known in the place of what they had. -/
def restore (known : FirstAreas K) (u : Surroundings K) : Surroundings K :=
  { u with
    firstConflicting := known.conflicting.or u.firstConflicting
    firstAttention := known.attention.or u.firstAttention }

variable [Scalar K]

/-- **The surroundings with their first areas**: those remembered for the lanelets of the
intersection, and the others as they are found now.  What is found is remembered. -/
def apply (c : FirstAreaCache K) (u : Surroundings K) (s : SampledPath K) :
    Outcome K (Surroundings K) × FirstAreaCache K :=
  let known := (c.get? s.associated).getD ⟨none, none⟩
  match (restore known u).update s with
  | .ok u => (.ok u, c.set s.associated ⟨u.firstConflicting, u.firstAttention⟩)
  | .error f => (.error f, c.set s.associated known)

end FirstAreaCache

end Crossing
