import Crossing.Proofs.Run

/-!
# The same snapshot again

A cycle may be worked out again, with nothing new to look at.  The second time goes another way
than the first: an area that was found is remembered now, and one that was not is looked for once
more.

**Nothing new is found.**  What a search gave is what it gives again, whether it is taken from the
cache or searched for (`orFind_or_found`), so surroundings that were completed once are completed in
the same way (`update_restore_of_ok`), and a use of the cache that is repeated writes the entry that
is there (`apply_apply`).  A search that ended in a breach ends in it again, since it left its entry
as it was.

**Nothing else of a planner depends on the cache**: what it sees (`look_with`) and what it works out
from its surroundings (`work_with`) are the same with any cache.  `plan_plan` joins the two.
-/

namespace Crossing

variable {K : Type}

namespace FirstAreaCache

/-- Of two entries for the same set the later one counts. -/
lemma set_set (c : FirstAreaCache K) (ids : IdSet) (earlier later : FirstAreas K) :
    (c.set ids earlier).set ids later = c.set ids later := by
  simp [set, List.filter_filter]

lemma known_set_self (c : FirstAreaCache K) (ids : IdSet) (areas : FirstAreas K) :
    (c.set ids areas).known ids = areas := known_eq (c.get?_set_self ids areas)

end FirstAreaCache

variable [Scalar K]

/-! ## A use that is repeated -/

/-- **What was found is found again.**  An area that was found is known now; when none was found,
none was known either, and the search is the same. -/
lemma Surroundings.orFind_or_found {known own found : Option (Region K)} {areas : List (Region K)}
    {s : SampledPath K} (h : orFind (known.or own) areas s = .ok found) :
    orFind (found.or own) areas s = .ok found := by
  cases found with
  | some r => rfl
  | none =>
      cases hknown : known.or own with
      | some r =>
          rw [hknown] at h
          cases h
      | none =>
          rw [hknown] at h
          rw [Option.none_or, (Option.or_eq_none_iff.mp hknown).2]
          exact h

namespace FirstAreaCache

/-- Surroundings that are given back the first areas that they were completed with are completed
in the same way. -/
lemma update_restore_of_ok {known : FirstAreas K} {u v : Surroundings K} {s : SampledPath K}
    (h : (restore known u).update s = .ok v) :
    (restore ⟨v.firstConflicting, v.firstAttention⟩ u).update s = .ok v := by
  obtain ⟨conflicting, attention, hc, ha, rfl⟩ := Surroundings.update_eq_ok.mp h
  refine Surroundings.update_eq_ok.mpr ⟨conflicting, attention, ?_, ?_, rfl⟩
  · exact Surroundings.orFind_or_found hc
  · exact Surroundings.orFind_or_found ha

/-- A use of the cache, by what its search for the missing areas gives. -/
lemma apply_eq (c : FirstAreaCache K) (u : Surroundings K) (s : SampledPath K) :
    c.apply u s = match (restore (c.known s.associated) u).update s with
      | .ok v => (.ok v, c.set s.associated ⟨v.firstConflicting, v.firstAttention⟩)
      | .error f => (.error f, c.set s.associated (c.known s.associated)) := rfl

/-- **A use that is repeated** gives the same and leaves the same cache. -/
lemma apply_apply (c : FirstAreaCache K) (u : Surroundings K) (s : SampledPath K) :
    (c.apply u s).2.apply u s = c.apply u s := by
  rw [apply_eq c]
  cases hupdate : (restore (c.known s.associated) u).update s with
  | ok v => simp only [apply_eq, known_set_self, update_restore_of_ok hupdate, set_set]
  | error f => simp only [apply_eq, known_set_self, hupdate, set_set]

end FirstAreaCache

/-! ## A cycle that is repeated -/

namespace Planner

lemma look_with (p : Planner K) (s : Snapshot K) (c : FirstAreaCache K) :
    { p with firstAreas := c }.look s = p.look s := rfl

lemma work_with (p : Planner K) (s : Snapshot K) (c : FirstAreaCache K) (scene : Scene K)
    (around : Surroundings K) :
    { p with firstAreas := c }.work s scene around = p.work s scene around := rfl

/-- A planner with a scene to plan for, whatever it remembers. -/
lemma plan_with_of_look {p : Planner K} {s : Snapshot K} {scene : Scene K}
    (hlook : p.look s = .ok (some scene)) (c : FirstAreaCache K) :
    { p with firstAreas := c }.plan s =
      ((c.apply scene.surroundings scene.sampled).1 >>= fun around =>
          some <$> p.work s scene around,
        { p with firstAreas := (c.apply scene.surroundings scene.sampled).2 }) := by
  simp only [plan, look_with, hlook, work_with]
  rfl

/-- **Planning the same snapshot again gives the same result and leaves the planner as it is**,
whatever the planner knew before, and whether the first cycle gave a result, found that the path
does not come to the intersection, or ended early. -/
theorem plan_plan (p : Planner K) (s : Snapshot K) : (p.plan s).2.plan s = p.plan s := by
  cases hlook : p.look s with
  | error f =>
      have hplan : p.plan s = (.error f, p) := by simp only [plan, hlook]
      rw [hplan, hplan]
  | ok found =>
      cases found with
      | none =>
          have hplan : p.plan s = (.ok none, p) := by simp only [plan, hlook]
          rw [hplan, hplan]
      | some scene =>
          have hplan := plan_with_of_look hlook
          rw [show p.plan s = _ from hplan p.firstAreas, hplan, FirstAreaCache.apply_apply]

end Planner

end Crossing
