import Crossing.Proofs.LaneRuns
import Crossing.Proofs.Outcome
import Crossing.StopLine

/-!
# Where a path is inside an area

Stop lines, ego lanes and remembered areas all ask the same question: at which sample of an
interval is the path first, or last, inside an area?  `Path.InsideAt` says what it means for one
sample to be inside, and `Path.Enters` that some sample is; neither mentions a search.  The
searches are then described by them alone.

* `firstInside` finds a sample that is inside (`insideAt_of_firstInside`), the first one when it
  looks forward (`le_of_forward`) and the last one when it looks backward (`ge_of_backward`).  It
  finds one exactly when the path enters the area (`isSome_iff_enters`).
* `firstInsideAny` finds a sample that is inside one of several areas, with that area
  (`insideAt_of_any`), and nothing only when the path enters none of them (`not_enters_of_any`).  It
  too finds the first sample inside any of the areas when it looks forward (`le_of_any_forward`),
  and the last one when it looks backward (`ge_of_any_backward`).

Nothing is assumed about areas.  The test may fail for a point, but then there is no answer, so
an answer says that every sample looked at was decided.
-/

namespace Crossing.Path

variable {K : Type}

/-- **A sample of an interval is inside an area.** -/
def InsideAt (path : Path K) (interval : Nat × Nat) (inside : Inside K) (i : Nat) : Prop :=
  ∃ w, path.points[i]? = some w ∧ interval.1 ≤ i ∧ i ≤ interval.2 ∧ inside w.position = .ok true

/-- **The path enters an area** within an interval. -/
def Enters (path : Path K) (interval : Nat × Nat) (inside : Inside K) : Prop :=
  ∃ i, path.InsideAt interval inside i

lemma InsideAt.first_le {path : Path K} {interval : Nat × Nat} {inside : Inside K} {i : Nat}
    (h : path.InsideAt interval inside i) : interval.1 ≤ i := by
  obtain ⟨w, -, hfirst, -, -⟩ := h
  exact hfirst

lemma InsideAt.le_last {path : Path K} {interval : Nat × Nat} {inside : Inside K} {i : Nat}
    (h : path.InsideAt interval inside i) : i ≤ interval.2 := by
  obtain ⟨w, -, -, hlast, -⟩ := h
  exact hlast

lemma InsideAt.lt_size {path : Path K} {interval : Nat × Nat} {inside : Inside K} {i : Nat}
    (h : path.InsideAt interval inside i) : i < path.size := by
  obtain ⟨w, hw, -⟩ := h
  exact lt_size_of_getElem? hw

/-- The waypoint at an index of the path is there. -/
lemma exists_point {path : Path K} {i : Nat} (h : i < path.size) : ∃ w, path.point i = .ok w :=
  ⟨path.points[i], Outcome.demand_eq_ok.mpr (List.getElem?_eq_getElem h)⟩

lemma mem_of_point {path : Path K} {i : Nat} {w : Waypoint K} (h : path.point i = .ok w) :
    w ∈ path.points :=
  List.mem_of_getElem? (Outcome.demand_eq_ok.mp h)

/-- **Every waypoint of the path is found to be inside an area or outside of it.** -/
def Decides (path : Path K) (inside : Inside K) : Prop :=
  ∀ w ∈ path.points, ∃ b, inside w.position = .ok b

/-! ## The window of an interval -/

/-- The window has the waypoints of the interval, each with its own index. -/
lemma mem_window {path : Path K} {interval : Nat × Nat} {forward : Bool} {w : Waypoint K}
    {i : Nat} : (w, i) ∈ path.window interval forward ↔
      path.points[i]? = some w ∧ interval.1 ≤ i ∧ i ≤ interval.2 := by
  have hmem : (w, i) ∈ path.window interval forward ↔
      (w, i) ∈ (path.points.zipIdx.drop interval.1).take (interval.2 + 1 - interval.1) := by
    cases forward <;> simp [window]
  rw [hmem, List.mem_iff_getElem?]
  simp only [List.getElem?_take, List.getElem?_drop, List.getElem?_zipIdx]
  constructor
  · rintro ⟨j, hj⟩
    split at hj
    · obtain ⟨w', hw', h⟩ := Option.map_eq_some_iff.mp hj
      obtain ⟨rfl, rfl⟩ := Prod.mk.inj h
      refine ⟨by simpa using hw', by omega, by omega⟩
    · simp at hj
  · rintro ⟨hw, hlow, hhigh⟩
    refine ⟨i - interval.1, ?_⟩
    rw [if_pos (by omega), show interval.1 + (i - interval.1) = i by omega, hw]
    simp

lemma pairwise_window (path : Path K) (interval : Nat × Nat) :
    (path.window interval true).Pairwise fun a b => a.2 < b.2 :=
  (Outcome.pairwise_zipIdx path.points).sublist
    ((List.take_sublist _ _).trans (List.drop_sublist _ _))

lemma window_backward (path : Path K) (interval : Nat × Nat) :
    path.window interval false = (path.window interval true).reverse := rfl

lemma insideAt_iff_mem_window {path : Path K} {interval : Nat × Nat} (forward : Bool)
    {inside : Inside K} {i : Nat} : path.InsideAt interval inside i ↔
      ∃ w, (w, i) ∈ path.window interval forward ∧ inside w.position = .ok true := by
  simp only [InsideAt, mem_window, and_assoc]

/-! ## One area -/

variable {path : Path K} {interval : Nat × Nat} {inside : Inside K} {i : Nat}

lemma firstInside_eq_some {forward : Bool} :
    path.firstInside interval inside forward = .ok (some i) →
      ∃ before w after, path.window interval forward = before ++ (w, i) :: after ∧
        inside w.position = .ok true ∧ ∀ b ∈ before, inside b.1.position = .ok false := by
  intro h
  obtain ⟨found, hfound, h⟩ := Outcome.bind_eq_ok.mp h
  simp only [Outcome.pure_eq_ok, Except.ok.injEq, Option.map_eq_some_iff] at h
  obtain ⟨⟨w, j⟩, rfl, rfl⟩ := h
  obtain ⟨before, after, hsplit, hw, hbefore⟩ := Outcome.findM_eq_some.mp hfound
  exact ⟨before, w, after, hsplit, hw, hbefore⟩

lemma firstInside_eq_none {forward : Bool}
    (h : path.firstInside interval inside forward = .ok none) (i : Nat) :
    ¬ path.InsideAt interval inside i := by
  obtain ⟨found, hfound, h⟩ := Outcome.bind_eq_ok.mp h
  simp only [Outcome.pure_eq_ok, Except.ok.injEq, Option.map_eq_none_iff] at h
  subst h
  rw [insideAt_iff_mem_window forward]
  rintro ⟨w, hw, htrue⟩
  have hfalse := Outcome.findM_eq_none.mp hfound (w, i) hw
  simp [htrue] at hfalse

lemma insideAt_of_firstInside {forward : Bool}
    (h : path.firstInside interval inside forward = .ok (some i)) :
    path.InsideAt interval inside i := by
  obtain ⟨before, w, after, hsplit, hw, -⟩ := firstInside_eq_some h
  exact (insideAt_iff_mem_window forward).mpr ⟨w, by rw [hsplit]; simp, hw⟩

/-- What comes before the sample found was tried and is not inside, so every sample inside is the
one found or comes behind it in the window. -/
lemma eq_or_mem_after {forward : Bool}
    (h : path.firstInside interval inside forward = .ok (some i)) {j : Nat}
    (hj : path.InsideAt interval inside j) :
    ∃ before w after, path.window interval forward = before ++ (w, i) :: after ∧
      (j = i ∨ ∃ v, (v, j) ∈ after) := by
  obtain ⟨before, w, after, hsplit, -, hbefore⟩ := firstInside_eq_some h
  obtain ⟨v, hv, htrue⟩ := (insideAt_iff_mem_window forward).mp hj
  refine ⟨before, w, after, hsplit, ?_⟩
  rw [hsplit] at hv
  rcases List.mem_append.mp hv with hv | hv
  · have hfalse := hbefore _ hv
    simp [htrue] at hfalse
  · rcases List.mem_cons.mp hv with hv | hv
    · exact Or.inl (Prod.mk.inj hv).2
    · exact Or.inr ⟨v, hv⟩

/-- Looking forward, what comes behind the sample found has a higher index. -/
lemma le_of_behind {before after : List (Waypoint K × Nat)} {w : Waypoint K} {j : Nat}
    (hsplit : path.window interval true = before ++ (w, i) :: after)
    (hj : j = i ∨ ∃ v, (v, j) ∈ after) : i ≤ j := by
  have hsorted := pairwise_window path interval
  rw [hsplit, List.pairwise_append, List.pairwise_cons] at hsorted
  rcases hj with rfl | ⟨v, hv⟩
  · exact Nat.le_refl j
  · exact Nat.le_of_lt (hsorted.2.1.1 _ hv)

/-- Looking backward, it has a lower one. -/
lemma ge_of_behind {before after : List (Waypoint K × Nat)} {w : Waypoint K} {j : Nat}
    (hsplit : path.window interval false = before ++ (w, i) :: after)
    (hj : j = i ∨ ∃ v, (v, j) ∈ after) : j ≤ i := by
  have hsorted : (path.window interval false).Pairwise fun a b => b.2 < a.2 := by
    rw [window_backward, List.pairwise_reverse]
    exact pairwise_window path interval
  rw [hsplit, List.pairwise_append, List.pairwise_cons] at hsorted
  rcases hj with rfl | ⟨v, hv⟩
  · exact Nat.le_refl j
  · exact Nat.le_of_lt (hsorted.2.1.1 _ hv)

lemma le_of_forward (h : path.firstInside interval inside true = .ok (some i)) {j : Nat}
    (hj : path.InsideAt interval inside j) : i ≤ j := by
  obtain ⟨before, w, after, hsplit, hbehind⟩ := eq_or_mem_after h hj
  exact le_of_behind hsplit hbehind

lemma ge_of_backward (h : path.firstInside interval inside false = .ok (some i)) {j : Nat}
    (hj : path.InsideAt interval inside j) : j ≤ i := by
  obtain ⟨before, w, after, hsplit, hbehind⟩ := eq_or_mem_after h hj
  exact ge_of_behind hsplit hbehind

lemma exists_firstInside (h : path.Decides inside) (interval : Nat × Nat) (forward : Bool) :
    ∃ found, path.firstInside interval inside forward = .ok found := by
  obtain ⟨found, hfound⟩ : ∃ found, ((path.window interval forward).findM?
      fun p => inside p.1.position) = .ok found :=
    Outcome.exists_findM fun p hp => h p.1 (List.mem_of_getElem? (mem_window.mp hp).1)
  exact ⟨found.map Prod.snd, Outcome.bind_eq_ok.mpr ⟨found, hfound, rfl⟩⟩

/-- Whatever the direction, there is an answer exactly when the path enters the area. -/
lemma isSome_iff_enters {forward : Bool} {found : Option Nat}
    (h : path.firstInside interval inside forward = .ok found) :
    found.isSome = true ↔ path.Enters interval inside := by
  cases found with
  | none => simpa [Enters] using firstInside_eq_none h
  | some i => simpa using ⟨i, insideAt_of_firstInside h⟩

/-- The sample found from behind is not before the one found from the front. -/
lemma exists_backward_ge (h : path.firstInside interval inside true = .ok (some i))
    {found : Option Nat} (hback : path.firstInside interval inside false = .ok found) :
    ∃ last, found = some last ∧ i ≤ last := by
  have hi := insideAt_of_firstInside h
  cases found with
  | none => exact absurd hi (firstInside_eq_none hback i)
  | some last => exact ⟨last, rfl, ge_of_backward hback hi⟩

/-! ## Several areas -/

variable {areas : List (Inside K)} {p : Point K} {j : Nat}

lemma firstHolding_eq_some (h : firstHolding areas p = .ok (some j)) :
    ∃ inside, areas[j]? = some inside ∧ inside p = .ok true := by
  obtain ⟨found, hfound, h⟩ := Outcome.bind_eq_ok.mp h
  simp only [Outcome.pure_eq_ok, Except.ok.injEq, Option.map_eq_some_iff] at h
  obtain ⟨⟨inside, k⟩, rfl, rfl⟩ := h
  obtain ⟨before, after, hsplit, htrue, -⟩ := Outcome.findM_eq_some.mp hfound
  have hmem : (inside, k) ∈ areas.zipIdx := by rw [hsplit]; simp
  exact ⟨inside, List.mk_mem_zipIdx_iff_getElem?.mp hmem, htrue⟩

/-- No area before the one found holds the point. -/
lemma firstHolding_le (h : firstHolding areas p = .ok (some j)) {k : Nat}
    (harea : areas[k]? = some inside) (htrue : inside p = .ok true) : j ≤ k := by
  obtain ⟨found, hfound, h⟩ := Outcome.bind_eq_ok.mp h
  simp only [Outcome.pure_eq_ok, Except.ok.injEq, Option.map_eq_some_iff] at h
  obtain ⟨⟨first, l⟩, rfl, rfl⟩ := h
  obtain ⟨before, after, hsplit, -, hbefore⟩ := Outcome.findM_eq_some.mp hfound
  have hsorted := Outcome.pairwise_zipIdx areas
  have hmem := List.mk_mem_zipIdx_iff_getElem?.mpr harea
  rw [hsplit, List.pairwise_append, List.pairwise_cons] at hsorted
  rw [hsplit] at hmem
  rcases List.mem_append.mp hmem with hmem | hmem
  · have hfalse := hbefore _ hmem
    simp [htrue] at hfalse
  · rcases List.mem_cons.mp hmem with heq | hmem
    · exact Nat.le_of_eq (Prod.mk.inj heq).2.symm
    · exact Nat.le_of_lt (hsorted.2.1.1 _ hmem)

lemma firstHolding_eq_none (h : firstHolding areas p = .ok none) :
    ∀ inside ∈ areas, inside p = .ok false := by
  intro inside hinside
  obtain ⟨found, hfound, h⟩ := Outcome.bind_eq_ok.mp h
  simp only [Outcome.pure_eq_ok, Except.ok.injEq, Option.map_eq_none_iff] at h
  subst h
  obtain ⟨k, hk⟩ := List.mem_iff_getElem?.mp hinside
  exact Outcome.findM_eq_none.mp hfound (inside, k) (List.mk_mem_zipIdx_iff_getElem?.mpr hk)

/-- The area that is found is the first that holds the waypoint that is found. -/
lemma firstHolding_of_any {forward : Bool}
    (h : path.firstInsideAny interval areas forward = .ok (some (i, j))) :
    ∃ w, (w, i) ∈ path.window interval forward ∧ firstHolding areas w.position = .ok (some j) := by
  obtain ⟨before, ⟨w, k⟩, after, hsplit, hfound, -⟩ := Outcome.findSomeM_eq_some.mp h
  obtain ⟨holding, hholding, hfound⟩ := Outcome.bind_eq_ok.mp hfound
  simp only [Outcome.pure_eq_ok, Except.ok.injEq, Option.map_eq_some_iff] at hfound
  obtain ⟨j', rfl, h⟩ := hfound
  cases h
  exact ⟨w, by rw [hsplit]; simp, hholding⟩

lemma insideAt_of_any {forward : Bool}
    (h : path.firstInsideAny interval areas forward = .ok (some (i, j))) :
    ∃ inside, areas[j]? = some inside ∧ path.InsideAt interval inside i := by
  obtain ⟨w, hw, hholding⟩ := firstHolding_of_any h
  obtain ⟨inside, harea, htrue⟩ := firstHolding_eq_some hholding
  exact ⟨inside, harea, (insideAt_iff_mem_window forward).mpr ⟨w, hw, htrue⟩⟩

lemma not_enters_of_any {forward : Bool}
    (h : path.firstInsideAny interval areas forward = .ok none) :
    ∀ inside ∈ areas, ¬ path.Enters interval inside := by
  rintro inside hinside ⟨i, hi⟩
  obtain ⟨w, hw, htrue⟩ := (insideAt_iff_mem_window forward).mp hi
  have hnone := Outcome.findSomeM_eq_none.mp h (w, i) hw
  obtain ⟨holding, hholding, hnone⟩ := Outcome.bind_eq_ok.mp hnone
  simp only [Outcome.pure_eq_ok, Except.ok.injEq, Option.map_eq_none_iff] at hnone
  subst hnone
  have hfalse := firstHolding_eq_none hholding inside hinside
  simp [htrue] at hfalse

lemma exists_firstInsideAny (h : ∀ inside ∈ areas, path.Decides inside) (interval : Nat × Nat)
    (forward : Bool) : ∃ found, path.firstInsideAny interval areas forward = .ok found := by
  refine Outcome.exists_findSomeM fun ⟨w, i⟩ hw => ?_
  obtain ⟨found, hfound⟩ : ∃ found, (areas.zipIdx.findM?
      fun p => p.1 w.position) = .ok found :=
    Outcome.exists_findM fun p hp =>
      h p.1 (List.mem_of_getElem? (List.mk_mem_zipIdx_iff_getElem?.mp hp)) w
        (List.mem_of_getElem? (mem_window.mp hw).1)
  exact ⟨(found.map Prod.snd).map fun j => (i, j), by
    simp [firstHolding, hfound, bind, Except.bind]⟩

/-- What comes before the sample found was tried and is in none of the areas. -/
lemma eq_or_mem_after_any {forward : Bool}
    (h : path.firstInsideAny interval areas forward = .ok (some (i, j))) (hinside : inside ∈ areas)
    {k : Nat} (hk : path.InsideAt interval inside k) :
    ∃ before w after, path.window interval forward = before ++ (w, i) :: after ∧
      (k = i ∨ ∃ v, (v, k) ∈ after) := by
  obtain ⟨before, ⟨w, l⟩, after, hsplit, hfound, hbefore⟩ := Outcome.findSomeM_eq_some.mp h
  obtain ⟨holding, -, hfound⟩ := Outcome.bind_eq_ok.mp hfound
  simp only [Outcome.pure_eq_ok, Except.ok.injEq, Option.map_eq_some_iff, Prod.mk.injEq] at hfound
  obtain ⟨-, -, rfl, -⟩ := hfound
  obtain ⟨v, hv, htrue⟩ := (insideAt_iff_mem_window forward).mp hk
  refine ⟨before, w, after, hsplit, ?_⟩
  rw [hsplit] at hv
  rcases List.mem_append.mp hv with hv | hv
  · obtain ⟨holding, hholding, hnone⟩ := Outcome.bind_eq_ok.mp (hbefore _ hv)
    simp only [Outcome.pure_eq_ok, Except.ok.injEq, Option.map_eq_none_iff] at hnone
    subst hnone
    have hfalse := firstHolding_eq_none hholding inside hinside
    simp [htrue] at hfalse
  · rcases List.mem_cons.mp hv with hv | hv
    · exact Or.inl (Prod.mk.inj hv).2
    · exact Or.inr ⟨v, hv⟩

/-- What is found from the front is not behind any sample that is inside one of the areas. -/
lemma le_of_any_forward (h : path.firstInsideAny interval areas true = .ok (some (i, j)))
    (hinside : inside ∈ areas) {k : Nat} (hk : path.InsideAt interval inside k) : i ≤ k := by
  obtain ⟨before, w, after, hsplit, hbehind⟩ := eq_or_mem_after_any h hinside hk
  exact le_of_behind hsplit hbehind

/-- What is found from behind is not before any sample that is inside one of the areas. -/
lemma ge_of_any_backward (h : path.firstInsideAny interval areas false = .ok (some (i, j)))
    (hinside : inside ∈ areas) {k : Nat} (hk : path.InsideAt interval inside k) : k ≤ i := by
  obtain ⟨before, w, after, hsplit, hbehind⟩ := eq_or_mem_after_any h hinside hk
  exact ge_of_behind hsplit hbehind

end Crossing.Path
