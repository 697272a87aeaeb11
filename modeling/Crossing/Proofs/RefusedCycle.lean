import Crossing.Proofs.IndexRange
import Crossing.Proofs.Settled

/-!
# What a refused cycle leaves behind

A cycle can be refused early or late.  Early it is refused because of what it looks at, and then the
planner is as it was; it is also as it was when the path does not come to the intersection.

Late there is a single place where a cycle can still be refused, the search for what is hidden
(`HiddenRefused`): a lanelet may have no width along most of its length and so too few cross
sections, and all samples of a path may be so close together that they make no way.  Everything else
in a cycle is settled (`refused_of_work`).  By then the first areas of the cycle have been written
down, where they stay, just as they do when a cycle comes to a result (`plan_trace`).  So a refused
cycle can leave a trace (`not_forall_traceless`).
-/

namespace Crossing

variable {K : Type}

namespace Outcome

variable {α β : Type} {x : Outcome K α} {f : α → Outcome K β} {why : Refusal K}
  {activities : List Activity}

lemma Settled.not_refused (hx : x.Settled) : x ≠ .error (.refused why activities) :=
  hx why activities

/-- A computation that is refused behind a settled step goes on from what that step gives. -/
lemma Settled.refused_bind (hx : x.Settled) (h : x >>= f = .error (.refused why activities)) :
    ∃ a, x = .ok a ∧ f a = .error (.refused why activities) := by
  rcases bind_eq_error.mp h with h | h
  · exact absurd h hx.not_refused
  · exact h

lemma refused_of_within {activity : Activity}
    (h : x.within activity = .error (.refused why activities)) :
    ∃ inner, x = .error (.refused why inner) ∧ activities = activity :: inner := by
  match x with
  | .ok a => cases h
  | .error (.broken b) => cases h
  | .error (.refused w inner) =>
      cases h
      exact ⟨inner, rfl, rfl⟩

end Outcome

variable [Scalar K]

namespace Surroundings

variable {u v : Surroundings K} {s : SampledPath K}

lemma settled_firstAlong (areas : List (Region K)) : (firstAlong areas s).Settled := by
  have hareas : ∀ inside ∈ areas.map Region.contains, ∀ p, (inside p).Settled := by
    intro inside hinside
    obtain ⟨r, -, rfl⟩ := List.mem_map.mp hinside
    exact Region.settled_contains r
  simp [firstAlong, Path.settled_firstInsideAny _ _ hareas, Option.forall]

lemma settled_orFind (known : Option (Region K)) (areas : List (Region K)) :
    (orFind known areas s).Settled := by
  cases known with
  | none => exact settled_firstAlong areas
  | some r => exact Outcome.settled_ok _

lemma settled_update : (u.update s).Settled := by simp [update, settled_orFind]

end Surroundings

namespace FirstAreaCache

variable {c : FirstAreaCache K} {u v : Surroundings K} {s : SampledPath K}

lemma settled_apply : (c.apply u s).1.Settled := by
  unfold apply
  dsimp only
  split
  · exact Outcome.settled_ok _
  · next hupdate =>
    rw [← hupdate]
    exact Surroundings.settled_update

/-- Finding the first areas changes nothing else in the surroundings. -/
lemma occlusion_of_apply (h : (c.apply u s).1 = .ok v) : v.occlusion = u.occlusion := by
  obtain ⟨hupdate, -⟩ := apply_eq_ok h
  obtain ⟨conflicting, attention, -, -, rfl⟩ := Surroundings.update_eq_ok.mp hupdate
  rfl

end FirstAreaCache

namespace Planner

variable {p : Planner K} {s : Snapshot K} {scene : Scene K} {around : Surroundings K}
  {why : Refusal K} {activities : List Activity}

/-! ## Where a cycle can be refused late -/

/-- **The search for what is hidden is refused.**  It takes place only when settings ask for it and
traffic is not known to be stopped. -/
structure HiddenRefused (p : Planner K) (s : Snapshot K) (scene : Scene K) (why : Refusal K)
    (activities : List Activity) : Prop where
  enabled : p.config.occlusion.enabled = true
  watching : Priority.ofLanelet scene.assigned s.signals ≠ .fully
  /-- Either the watched lanelets cannot be cut across, or the samples make no way. -/
  cause :
    (∃ inner, SlicedLane.ofMap s.map scene.surroundings.occlusion.ids
        p.config.occlusion.resolution = .error (.refused why inner) ∧
      activities = .discretizing p.lane :: inner) ∨
    scene.sampled.path.polyline = .error (.refused why activities)

lemma refused_of_findOcclusion {perception : Perception K} {watched : LaneGroup K}
    {path : Path K} {sketch : Sketch K}
    (h : p.findOcclusion s perception watched path sketch = .error (.refused why activities)) :
    (∃ inner, SlicedLane.ofMap s.map watched.ids p.config.occlusion.resolution =
        .error (.refused why inner) ∧ activities = .discretizing p.lane :: inner) ∨
      path.polyline = .error (.refused why activities) := by
  rcases Outcome.bind_eq_error.mp h with h | ⟨lanes, -, h⟩
  · exact Or.inl (Outcome.refused_of_within h)
  obtain ⟨obstacles, -, h⟩ := Outcome.Settled.refused_bind (by simp) h
  rcases Outcome.bind_eq_error.mp h with h | ⟨way, -, h⟩
  · exact Or.inr h
  · exact absurd h (Occlusion.settled_find _ _ _ _ _ _ _ _)

@[simp] lemma settled_findStuck (c : Config K) (lane : Option (EgoLane K)) (sketch : Sketch K) :
    (findStuck c s lane sketch).Settled := by
  cases lane <;> simp [findStuck, Option.forall]

omit [Scalar K] in
@[simp] lemma settled_drawWalls (path : Path K) (lines : StopLines) (stuck : Bool)
    (sketch : Sketch K) : (drawWalls path lines stuck sketch).Settled := by
  simp [drawWalls]

/-- **After the first areas are known, only the search for what is hidden is ever refused.** -/
lemma refused_of_work (hlook : p.look s = .ok (some scene))
    (haround : (p.firstAreas.apply scene.surroundings scene.sampled).1 = .ok around)
    (h : p.work s scene around = .error (.refused why activities)) :
    p.HiddenRefused s scene why activities := by
  have hareas : ∀ (r : Option (Region K)) (area : Inside K),
      r.map Region.contains = some area → ∀ p, (area p).Settled := by
    intro r area hr
    obtain ⟨r, -, rfl⟩ := Option.map_eq_some_iff.mp hr
    exact Region.settled_contains r
  unfold work at h
  obtain ⟨nearest, hnearest, h⟩ := Outcome.Settled.refused_bind (by simp) h
  cases nearest with
  | none =>
      -- a path that comes to the intersection has samples
      obtain ⟨-, hsampled, -, -⟩ := look_eq_some hlook
      obtain ⟨-, -, hinterval, -⟩ := SampledPath.ofPath_eq_some hsampled
      obtain ⟨-, hlast⟩ := Path.lt_size_of_laneInterval hinterval
      rw [Path.size, Path.points_of_nearest hnearest] at hlast
      cases hlast
  | some closest =>
      obtain ⟨_, ⟨⟩, h⟩ := Outcome.Settled.refused_bind (by simp) h
      obtain ⟨mapLine, -, h⟩ := Outcome.Settled.refused_bind (by simp) h
      obtain ⟨lines, -, h⟩ := Outcome.Settled.refused_bind
        (StopLines.settled_plan _ (hareas _) (hareas _) _ _ _) h
      obtain ⟨lane, -, h⟩ := Outcome.Settled.refused_bind
        (Outcome.settled_optionMapM fun first hfirst => EgoLane.settled_ofPath _ _
          (hareas _ first hfirst) (by simp) (hareas _) (by simp) _ _ _) h
      obtain ⟨⟨stuck, sketch⟩, -, h⟩ := Outcome.Settled.refused_bind (by simp) h
      obtain ⟨perception, -, h⟩ := Outcome.Settled.refused_bind (by simp) h
      obtain ⟨lanelets, -, h⟩ := Outcome.Settled.refused_bind RoadMap.delivers_lanelets.settled h
      obtain ⟨⟨targets, sketch⟩, -, h⟩ := Outcome.Settled.refused_bind (by simp) h
      -- behind the search for what is hidden nothing is refused any more
      dsimp only at h
      split at h
      · next hsearch =>
        rw [Bool.and_eq_true, decide_eq_true_eq] at hsearch
        obtain ⟨henabled, hwatching⟩ := hsearch
        rcases Outcome.bind_eq_error.mp h with h | ⟨⟨occlusion, sketch⟩, -, h⟩
        · have hcause := refused_of_findOcclusion h
          rw [AttentionView.ofPriority, if_neg hwatching, Surroundings.occlusionIn,
            FirstAreaCache.occlusion_of_apply haround] at hcause
          exact ⟨henabled, hwatching, hcause⟩
        · refine absurd h (Outcome.Settled.not_refused ?_)
          simp
      · obtain ⟨⟨occlusion, sketch⟩, -, h⟩ := Outcome.Settled.refused_bind (by simp) h
        refine absurd h (Outcome.Settled.not_refused ?_)
        simp

/-! ## What is left -/

/-- **A cycle is refused early or late**, and then everything in between was computed. -/
lemma refused_of_plan (h : (p.plan s).1 = .error (.refused why activities)) :
    (p.look s = .error (.refused why activities) ∧ (p.plan s).2 = p) ∨
      ∃ scene around, p.look s = .ok (some scene) ∧
        (p.firstAreas.apply scene.surroundings scene.sampled).1 = .ok around ∧
        p.work s scene around = .error (.refused why activities) ∧ (p.plan s).2 =
          { p with firstAreas := (p.firstAreas.apply scene.surroundings scene.sampled).2 } := by
  unfold plan at h ⊢
  cases hlook : p.look s with
  | error f =>
      simp only [hlook] at h
      cases h
      exact Or.inl ⟨rfl, rfl⟩
  | ok found =>
      cases found with
      | none =>
          simp only [hlook] at h
          cases h
      | some scene =>
          simp only [hlook] at h
          obtain ⟨around, haround, h⟩ :=
            Outcome.Settled.refused_bind FirstAreaCache.settled_apply h
          rcases Outcome.bind_eq_error.mp h with hwork | ⟨cycle, -, h⟩
          · exact Or.inr ⟨scene, around, rfl, haround, hwork, rfl⟩
          · cases h

/-- **What a cycle leaves behind that gives no result.**  If the path does not come to the
intersection, the planner is as it was.  If the cycle is refused, it was refused because of what it
looks at, and the planner is as it was, or it was refused in the search for what is hidden.  Then
the first areas of the cycle are known afterwards, which keep what was known before, and nothing
else has changed. -/
theorem plan_trace (p : Planner K) (s : Snapshot K) :
    ((p.plan s).1 = .ok none → (p.plan s).2 = p) ∧
      ∀ why activities, (p.plan s).1 = .error (.refused why activities) →
        (p.look s = .error (.refused why activities) ∧ (p.plan s).2 = p) ∨
        ∃ scene around, p.look s = .ok (some scene) ∧
          (p.firstAreas.apply scene.surroundings scene.sampled).1 = .ok around ∧
          p.HiddenRefused s scene why activities ∧
          let first : FirstAreas K := ⟨around.firstConflicting, around.firstAttention⟩
          (p.plan s).2 = { p with firstAreas := p.firstAreas.set p.associated first } ∧
            (p.plan s).2.knownAreas = some first ∧
            ∀ known, p.knownAreas = some known → first.Extends known := by
  constructor
  · intro h
    rcases p.plan_cases s with hsame | ⟨scene, hlook, -⟩
    · exact hsame
    · -- a cycle that has a scene does not end without a result
      unfold plan at h
      simp only [hlook] at h
      obtain ⟨around, -, h⟩ := Outcome.bind_eq_ok.mp h
      obtain ⟨cycle, -, h⟩ := Outcome.bind_eq_ok.mp h
      cases h
  · intro why activities h
    refine (refused_of_plan h).imp id ?_
    rintro ⟨scene, around, hlook, haround, hwork, hafter⟩
    refine ⟨scene, around, hlook, haround, refused_of_work hlook haround hwork, ?_⟩
    obtain ⟨hupdate, hset⟩ := FirstAreaCache.apply_eq_ok haround
    rw [associated_of_look hlook] at hupdate hset
    rw [hset] at hafter
    refine ⟨hafter, ?_, fun known hknown => ?_⟩
    · rw [hafter]
      exact FirstAreaCache.get?_set_self _ _ _
    · rw [FirstAreaCache.known_eq hknown] at hupdate
      exact FirstAreaCache.extends_of_update hupdate

/-! ## A lane that ends in a point

What crosses the lane of the vehicle here is as wide as the crossing at first and then tapers to a
point, as a lane does that ends.  Between cross sections five metres apart, the second would be
where the lane has no width any more.
-/

def taperLanes : List (Int × (Point Rat × Point Rat) × (Point Rat × Point Rat)) :=
  [(2, (⟨0, 1⟩, ⟨4, 1⟩), (⟨0, -1⟩, ⟨4, -1⟩)),
    (11, (⟨-1, -2⟩, ⟨2, 2⟩), (⟨5, -2⟩, ⟨2, 2⟩))]

def taperMap : RoadMap Rat := (RoadMap.ofStraight taperLanes).toOption.getD ⟨[], [], default⟩

/-- The area of the lane that ends in a point. -/
def taper : Region Rat := ⟨[⟨-1, -2⟩, ⟨2, 2⟩, ⟨5, -2⟩, ⟨-1, -2⟩]⟩

def taperConfig : Config Rat :=
  { crossingConfig with occlusion :=
    { Config.defaultOcclusion with attentionLength := ⟨1⟩, resolution := ⟨5⟩ } }

def taperPlanner : Planner Rat := ⟨⟨2⟩, IdSet.ofList [⟨2⟩], taperConfig, .empty⟩

def towardsTaper : Snapshot Rat := { eastward 2 0 with map := taperMap }

lemma plan_taper : (taperPlanner.plan towardsTaper).1 =
    .error (.refused (.fewCrossSections ⟨11⟩ 1 ⟨5⟩) [.discretizing ⟨2⟩]) :=
  Outcome.eq_error_of_fault? (by decide +kernel)

lemma knownAreas_taper :
    (taperPlanner.plan towardsTaper).2.knownAreas = some ⟨some taper, some taper⟩ := by
  decide +kernel

/-- The cycle is refused because of the cross sections of the lane that ends in a point, and knows
it as the first area afterwards. -/
theorem plan_trace_taper : ∃ scene,
    taperPlanner.look towardsTaper = .ok (some scene) ∧
      taperPlanner.HiddenRefused towardsTaper scene (.fewCrossSections ⟨11⟩ 1 ⟨5⟩)
        [.discretizing ⟨2⟩] ∧
      (taperPlanner.plan towardsTaper).2 = { taperPlanner with
        firstAreas := FirstAreaCache.empty.set (IdSet.ofList [⟨2⟩]) ⟨some taper, some taper⟩ } := by
  rcases (plan_trace taperPlanner towardsTaper).2 _ _ plan_taper with
    ⟨-, hsame⟩ | ⟨scene, around, hlook, -, hrefused, hafter, hknown, -⟩
  · -- nothing was known before
    have hknown := knownAreas_taper
    rw [hsame] at hknown
    cases hknown
  · rw [knownAreas_taper] at hknown
    exact ⟨scene, hlook, hrefused, by rw [hafter, ← Option.some.inj hknown]; rfl⟩

/-- **A refused cycle can leave a trace**, also with an accepted map and accepted settings. -/
theorem not_forall_traceless :
    ¬ ∀ (lane : LaneletId) (associated : IdSet) (config : Config Rat) (p : Planner Rat)
      (lanes : List (Int × (Point Rat × Point Rat) × (Point Rat × Point Rat)))
      (s : Snapshot Rat) (why : Refusal Rat) (activities : List Activity),
      ofConfig lane associated config = .ok p → RoadMap.ofStraight lanes = .ok s.map →
        (p.plan s).1 = .error (.refused why activities) →
          (p.plan s).2.knownAreas = p.knownAreas := by
  intro h
  have hsame := h ⟨2⟩ (IdSet.ofList [⟨2⟩]) taperConfig taperPlanner taperLanes towardsTaper _ _
    (by decide +kernel) (Outcome.eq_ok_getD (by decide +kernel) _) plan_taper
  rw [knownAreas_taper] at hsame
  cases hsame

end Planner

end Crossing
