import Crossing.Proofs.RoadMap

/-!
# Who goes on from whom, and who is in whose way

`Gauge.Follows` and `Gauge.Beside` are the two ways in which lanelets can touch, said by the ends of
their boundaries alone.  Here the relatives that a map gives are described by them, whatever the
gauge answers.

**Conflict.**  Two lanelets are in conflict if neither touches the other in either way and they
share enough area; nothing else is asked, so it does not matter which of the two is asked first
(`conflicting_iff`).

**Succession.**  A lanelet that begins where another ends goes on from it, with one exception: if
the other way round the two lie side by side, the pair is written to twice, and the names decide
what stands in the end (`mem_following_iff`).  A lane that winds outwards like a spiral is of that
kind.  Each of its turns ends where its own right boundary began, so the next turn follows it and
lies at its right; numbered from the inside, no turn goes on from another
(`not_forall_mem_following`).
-/

namespace Crossing

/-! ## Touching, by the ends of boundaries -/

namespace Gauge

variable {K : Type} {gauge : Gauge K} {a b : Lanelet K}

/-- **`b` begins where `a` ends**, on either side. -/
def Follows (gauge : Gauge K) (a b : Lanelet K) : Prop :=
  gauge.sameEnds a.left.last b.left.first = .ok true ∧
    gauge.sameEnds a.right.last b.right.first = .ok true

/-- **`b` lies at the left of `a`**: the right boundary of `b` begins and ends where the left one
of `a` does. -/
def Beside (gauge : Gauge K) (a b : Lanelet K) : Prop :=
  gauge.sameEnds a.left.first b.right.first = .ok true ∧
    gauge.sameEnds a.left.last b.right.last = .ok true

/-- `b` touches `a` in one of the two ways. -/
def Touches (gauge : Gauge K) (a b : Lanelet K) : Prop := gauge.Follows a b ∨ gauge.Beside a b

/-- Two lanelets share more area than does not count, with the lower name first. -/
def SharesArea [Scalar K] (gauge : Gauge K) (a b : Lanelet K) : Prop :=
  if a.id.value < b.id.value then gauge.overlaps a b = true else gauge.overlaps b a = true

lemma both_eq_true {x y : Outcome K Bool} : both x y = .ok true ↔ x = .ok true ∧ y = .ok true := by
  rw [both, Outcome.bind_eq_ok]
  constructor
  · rintro ⟨b, hx, h⟩
    cases b with
    | true => exact ⟨hx, h⟩
    | false => simp at h
  · rintro ⟨hx, hy⟩
    exact ⟨true, hx, hy⟩

/-- The contact that is found says in which way a lanelet touches another. -/
lemma contact_eq_ok {c : Option Contact} (h : gauge.contact a b = .ok c) :
    (c = some .follows ↔ gauge.Follows a b) ∧
      (c = some .beside ↔ gauge.Beside a b ∧ ¬ gauge.Follows a b) ∧
      (c = none ↔ ¬ gauge.Touches a b) := by
  have hfollows : gauge.Follows a b ↔ both (gauge.sameEnds a.left.last b.left.first)
      (gauge.sameEnds a.right.last b.right.first) = .ok true := both_eq_true.symm
  have hbeside : gauge.Beside a b ↔ both (gauge.sameEnds a.left.first b.right.first)
      (gauge.sameEnds a.left.last b.right.last) = .ok true := both_eq_true.symm
  rw [Touches, hfollows, hbeside]
  obtain ⟨follows, hf, h⟩ := Outcome.bind_eq_ok.mp h
  rw [hf]
  cases follows with
  | true =>
      cases h
      simp
  | false =>
      obtain ⟨beside, hb, h⟩ := Outcome.bind_eq_ok.mp h
      rw [hb]
      cases beside <;> cases h <;> simp

end Gauge

namespace RoadMap

variable {K : Type} [Scalar K] {gauge : Gauge K} {lanelets : List (Lanelet K)}
  {areas : List (AreaId × Region K)} {map : RoadMap K} {a b : Lanelet K} {i j : LaneletId}

/-! ## Conflict -/

/-- An accepted map is derived from what the gauge says of its lanelets. -/
lemma exists_tests (h : ofLaneletsBy gauge lanelets areas = .ok map) : ∃ contact overlaps,
    map.routing = Routing.derive map.ids contact overlaps ∧
      ∀ a ∈ map.lanelets, ∀ b ∈ map.lanelets, a.id ≠ b.id →
        gauge.contact a b = .ok (contact a.id b.id) ∧
        overlaps a.id b.id = gauge.overlaps a b := by
  obtain ⟨-, -, -, -, hroutes⟩ := ofLaneletsBy_eq_ok h
  exact routes_eq_ok (nodup_of_ascending (ascending_of_ofLaneletsBy h)) hroutes

lemma mem_conflicting (h : ofLaneletsBy gauge lanelets areas = .ok map) (ha : a ∈ map.lanelets)
    (hb : b ∈ map.lanelets) (hne : a.id ≠ b.id) : b.id ∈ map.routing.conflicting a.id ↔
      ¬ gauge.Touches a b ∧ ¬ gauge.Touches b a ∧ gauge.SharesArea a b := by
  obtain ⟨contact, overlaps, hrouting, htests⟩ := exists_tests h
  obtain ⟨hcontact, hoverlaps⟩ := htests a ha b hb hne
  obtain ⟨hcontact', hoverlaps'⟩ := htests b hb a ha hne.symm
  rw [Routing.conflicting, hrouting, Routing.mem_targets_derive (ascending_of_ofLaneletsBy h),
    Routing.relate_eq_conflicting, (Gauge.contact_eq_ok hcontact).2.2,
    (Gauge.contact_eq_ok hcontact').2.2, Routing.overlap, Gauge.SharesArea, hoverlaps, hoverlaps']
  have hmem : a.id ∈ map.ids ∧ b.id ∈ map.ids := ⟨List.mem_map_of_mem ha, List.mem_map_of_mem hb⟩
  split <;> tauto

omit [Scalar K] in
lemma conflicting_symm (h : map.Coherent) (hj : j ∈ map.routing.conflicting i) :
    i ∈ map.routing.conflicting j := by
  obtain ⟨contact, overlaps, hrouting⟩ := h.routing
  rw [Routing.conflicting, hrouting, Routing.mem_targets_derive h.ascending,
    Routing.relate_eq_conflicting] at hj ⊢
  obtain ⟨hi, hj, hne, hij, hji, hoverlap⟩ := hj
  refine ⟨hj, hi, hne.symm, hji, hij, ?_⟩
  rwa [Routing.overlap_comm hne.symm]

/-- **Conflict.**  Two lanelets of an accepted map are in conflict exactly if neither touches the
other and they share more area than does not count.  So conflict goes both ways, and neither those
that go on from a lanelet, nor those that it goes on from, nor its neighbours are in conflict with
it; and relatives are listed in ascending order, each once. -/
theorem conflicting_iff (h : ofLaneletsBy gauge lanelets areas = .ok map) :
    (∀ a ∈ map.lanelets, ∀ b ∈ map.lanelets, a.id ≠ b.id →
      (b.id ∈ map.routing.conflicting a.id ↔
        ¬ gauge.Touches a b ∧ ¬ gauge.Touches b a ∧ gauge.SharesArea a b)) ∧
    (∀ i j, j ∈ map.routing.conflicting i ↔ i ∈ map.routing.conflicting j) ∧
    (∀ i, ∀ j ∈ map.routing.conflicting i, j ∉ map.routing.following i ∧
      j ∉ map.routing.previous i ∧ j ∉ map.routing.besides i) ∧
    ∀ i, (map.routing.conflicting i).Pairwise (·.value < ·.value) ∧
      (map.routing.following i).Pairwise (·.value < ·.value) ∧
      (map.routing.previous i).Pairwise (·.value < ·.value) := by
  have hmap := coherent_of_ofLanelets h
  refine ⟨fun a ha b hb hne => mem_conflicting h ha hb hne,
    fun i j => ⟨conflicting_symm hmap, conflicting_symm hmap⟩, fun i j hj => ⟨?_, ?_, ?_⟩,
    fun i => ⟨Routing.pairwise_targets, Routing.pairwise_targets, Routing.pairwise_sources⟩⟩
  · exact fun hfollowing => Routing.not_mem_targets hj (by decide) hfollowing
  · -- a lanelet that this one goes on from has a relation to it, so look from there
    intro hprevious
    exact Routing.not_mem_targets (conflicting_symm hmap hj) (by decide)
      (Routing.mem_following_iff_previous.mpr hprevious)
  · intro hbesides
    rcases Routing.mem_besides hbesides with hleft | hright
    · exact Routing.not_mem_targets hj (by decide) hleft
    · exact Routing.not_mem_targets hj (by decide) hright

/-! ### A lanelet across two others

Two lanelets run east, one behind the other, and a third one runs north across the second.
-/

def junctionLanes : List (Int × (Point Rat × Point Rat) × (Point Rat × Point Rat)) :=
  [(1, (⟨0, 1⟩, ⟨4, 1⟩), (⟨0, -1⟩, ⟨4, -1⟩)),
    (2, (⟨4, 1⟩, ⟨8, 1⟩), (⟨4, -1⟩, ⟨8, -1⟩)),
    (3, (⟨5, -4⟩, ⟨5, 4⟩), (⟨7, -4⟩, ⟨7, 4⟩))]

def junction : RoadMap Rat := (ofStraight junctionLanes).toOption.getD ⟨[], [], default⟩

/-- The second lanelet is in conflict with the one across, and so the other way round; the first is
not in conflict with the second, which goes on from it. -/
theorem conflicting_iff_junction :
    ⟨2⟩ ∈ junction.routing.following ⟨1⟩ ∧ ⟨2⟩ ∉ junction.routing.conflicting ⟨1⟩ ∧
      ⟨3⟩ ∈ junction.routing.conflicting ⟨2⟩ ∧ ⟨2⟩ ∈ junction.routing.conflicting ⟨3⟩ := by
  have hstraight : ofStraight junctionLanes = .ok junction :=
    Outcome.eq_ok_getD (by decide +kernel) _
  have hrelatives : ⟨2⟩ ∈ junction.routing.following ⟨1⟩ ∧
      ⟨3⟩ ∈ junction.routing.conflicting ⟨2⟩ := by decide +kernel
  obtain ⟨lanelets, areas, hmap⟩ := exists_ofLanelets hstraight
  obtain ⟨-, hsymm, hfree, -⟩ := conflicting_iff hmap
  refine ⟨hrelatives.1, fun hconflict => ?_, hrelatives.2, (hsymm ⟨2⟩ ⟨3⟩).mp hrelatives.2⟩
  exact (hfree ⟨1⟩ ⟨2⟩ hconflict).1 hrelatives.1

/-! ## Succession -/

/-- **Succession.**  In an accepted map, a lanelet goes on from another exactly if it begins where
that one ends, unless the name of that one is lower and that one lies at its left without beginning
where it ends.  The two lists agree: those that a lanelet goes on from are those it follows. -/
theorem mem_following_iff (h : ofLaneletsBy gauge lanelets areas = .ok map) (ha : a ∈ map.lanelets)
    (hb : b ∈ map.lanelets) (hne : a.id ≠ b.id) :
    (b.id ∈ map.routing.following a.id ↔ a.id ∈ map.routing.previous b.id) ∧
      (b.id ∈ map.routing.following a.id ↔ gauge.Follows a b ∧
        ¬ (a.id.value < b.id.value ∧ gauge.Beside b a ∧ ¬ gauge.Follows b a)) := by
  obtain ⟨contact, overlaps, hrouting, htests⟩ := exists_tests h
  have hcontact := (htests a ha b hb hne).1
  have hcontact' := (htests b hb a ha hne.symm).1
  have hmem : a.id ∈ map.ids ∧ b.id ∈ map.ids := ⟨List.mem_map_of_mem ha, List.mem_map_of_mem hb⟩
  refine ⟨Routing.mem_following_iff_previous, ?_⟩
  rw [Routing.following, hrouting, Routing.mem_targets_derive (ascending_of_ofLaneletsBy h),
    Routing.relate_eq_successor, (Gauge.contact_eq_ok hcontact).1,
    (Gauge.contact_eq_ok hcontact').2.1]
  tauto

/-! ### A lane that winds outwards

Two turns of it, each a metre wide and a full circle to the left.  The second begins where the first
ends, and its left boundary is the right one of the first.
-/

/-- The boundaries of the turns, from the inside. -/
def windings : List (List (Point Rat)) :=
  [[⟨0, 0⟩, ⟨1, 0⟩, ⟨1, 2⟩, ⟨-1, 2⟩, ⟨-1, -1⟩, ⟨0, -1⟩],
    [⟨0, -1⟩, ⟨2, -1⟩, ⟨2, 3⟩, ⟨-2, 3⟩, ⟨-2, -2⟩, ⟨0, -2⟩],
    [⟨0, -2⟩, ⟨3, -2⟩, ⟨3, 4⟩, ⟨-3, 4⟩, ⟨-3, -3⟩, ⟨0, -3⟩]]

/-- The turns, with the given names from the inside. -/
def turns (names : List Int) : Outcome Rat (List (Lanelet Rat)) := do
  let boundaries ← windings.mapM Polyline.ofPoints
  (names.zip (Chain.links boundaries)).mapM fun (name, left, right) =>
    Lanelet.ofBounds ⟨name⟩ left right

def spiral (names : List Int) : RoadMap Rat := ofTrial (turns names)

instance {K : Type} [DecidableEq K] (gauge : Gauge K) (a b : Lanelet K) :
    Decidable (gauge.Follows a b) :=
  inferInstanceAs (Decidable (_ ∧ _))

/-- Numbered from the outside, the inner turn has the outer one as its follower. -/
theorem mem_following_iff_spiral : ∃ a ∈ (spiral [2, 1]).lanelets, ∃ b ∈ (spiral [2, 1]).lanelets,
    a.id ≠ b.id ∧ Gauge.metric.Follows a b ∧ b.id ∈ (spiral [2, 1]).routing.following a.id ∧
      a.id ∈ (spiral [2, 1]).routing.previous b.id := by
  have hturns : ∃ a ∈ (spiral [2, 1]).lanelets, ∃ b ∈ (spiral [2, 1]).lanelets,
      b.id.value < a.id.value ∧ Gauge.metric.Follows a b := by decide +kernel
  obtain ⟨lanelets, hmap⟩ := exists_ofTrial (turns [2, 1]) (by decide +kernel)
  obtain ⟨a, ha, b, hb, hlt, hfollows⟩ := hturns
  have hne : a.id ≠ b.id := fun heq => by
    rw [heq] at hlt
    exact Int.lt_irrefl _ hlt
  obtain ⟨hprevious, hfollowing⟩ := mem_following_iff hmap ha hb hne
  have hmem := hfollowing.mpr ⟨hfollows, fun h => by omega⟩
  exact ⟨a, ha, b, hb, hne, hfollows, hmem, hprevious.mp hmem⟩

/-- **A lanelet that begins where another ends may not go on from it**: numbered from the inside,
the outer turn does not follow the inner one. -/
theorem not_forall_mem_following :
    ¬ ∀ (lanelets : List (Lanelet Rat)) (areas : List (AreaId × Region Rat)) (map : RoadMap Rat),
      ofLanelets lanelets areas = .ok map →
      ∀ a ∈ map.lanelets, ∀ b ∈ map.lanelets, a.id ≠ b.id →
        (b.id ∈ map.routing.following a.id ∧ a.id ∈ map.routing.previous b.id ↔
          Gauge.metric.Follows a b) := by
  intro h
  have hlost : ∃ a ∈ (spiral [1, 2]).lanelets, ∃ b ∈ (spiral [1, 2]).lanelets,
      a.id ≠ b.id ∧ Gauge.metric.Follows a b ∧
        b.id ∉ (spiral [1, 2]).routing.following a.id := by decide +kernel
  obtain ⟨lanelets, hmap⟩ := exists_ofTrial (turns [1, 2]) (by decide +kernel)
  obtain ⟨a, ha, b, hb, hne, hfollows, hnot⟩ := hlost
  exact hnot ((h lanelets [] (spiral [1, 2]) hmap a ha b hb hne).mpr hfollows).1

end RoadMap

end Crossing
