import Crossing.Proofs.Surroundings
import Crossing.Proofs.Thinning

/-!
# Lookups that never miss

`RoadMap.lanelet` is a breach for a name that the map does not have, and it is asked deep inside the
search for ways into a lanelet and wherever groups of lanelets are made.  In an accepted map it
never misses there.

**Where names come from.**  Relatives of a lanelet are lanelets of the map, whatever lanelet is
asked about (`RoadMap.Coherent.mem_ids_of_targets`).  Ways consist of relatives.  Names from outside
are kept away from lookups: those on the path only exclude, those of the intersection are filtered
by whether the map has them, and a lanelet to be assigned is refused if it does not.

**What computations end in.**  `Outcome.Finds` says that a computation does not end in a missed
lookup; it is `Outcome.Avoids` for that fault.  The lemmas about functions that do not look up
anything are simp lemmas, as the rules for stringing computations together are.
-/

namespace Crossing

namespace Outcome

variable {K α : Type} {x : Outcome K α}

/-- **The computation does not look up a lanelet that is not there.** -/
abbrev Finds (x : Outcome K α) : Prop := x.Avoids fun e => ∃ id, e = .broken (.laneletMissing id)

@[simp] lemma finds_refuse (why : Refusal K) : Finds (refuse why : Outcome K α) := by
  simp [refuse]

@[simp] lemma finds_breach {why : Breach K} :
    Finds (breach why : Outcome K α) ↔ ∀ id, why ≠ .laneletMissing id := by
  simp [breach]

@[simp] lemma finds_demand {why : Breach K} {o : Option α} (h : ∀ id, why ≠ .laneletMissing id) :
    (demand why o).Finds := by
  cases o with
  | none => exact finds_breach.mpr h
  | some a => exact avoids_ok a

@[simp] lemma finds_tolerate : x.tolerate.Finds ↔ x.Finds := by
  match x with
  | .ok a => simp [tolerate]
  | .error (.refused _ _) => simp [tolerate]
  | .error (.broken _) => simp [tolerate]

@[simp] lemma finds_insist : x.insist.Finds ↔ x.Finds := by
  match x with
  | .ok a => exact Iff.rfl
  | .error (.refused _ _) => simp [insist]
  | .error (.broken _) => exact Iff.rfl

end Outcome

/-! ## The area along a row of lanelets -/

section Spans

variable {K : Type} [Scalar K]

section Quantities

variable (a b : Distance K) (k x y : K) (p q : Point K) (s : Segment K)

@[simp] lemma Distance.finds_ofMetres : (Distance.ofMetres x).Finds := by
  simp [Distance.ofMetres]

@[simp] lemma Distance.finds_add : (a.add b).Finds := Distance.finds_ofMetres _

@[simp] lemma Distance.finds_sub : (a.sub b).Finds := Distance.finds_ofMetres _

@[simp] lemma Distance.finds_scale : (Distance.scale k a).Finds := Distance.finds_ofMetres _

@[simp] lemma Distance.finds_ratio : (a.ratio b).Finds := by simp [Distance.ratio]

@[simp] lemma Distance.finds_sum (ds : List (Distance K)) : (Distance.sum ds).Finds := by
  simp [Distance.sum]

@[simp] lemma Point.finds_ofCoordinates : (Point.ofCoordinates x y).Finds := by
  simp [Point.ofCoordinates]

@[simp] lemma Point.finds_distance : (p.distance q).Finds := Distance.finds_ofMetres _

@[simp] lemma Point.finds_isSame : (p.isSame q).Finds := by simp [Point.isSame, Point.isNear]

@[simp] lemma Segment.finds_between : (Segment.between p q).Finds := by simp [Segment.between]

@[simp] lemma Segment.finds_length : s.length.Finds := Point.finds_distance _ _

@[simp] lemma Segment.finds_atDistance : (s.atDistance a).Finds := by
  simp [Segment.atDistance, Segment.atPart, Point.lerp]

end Quantities

@[simp] lemma Chain.finds_thin (points : List (Point K)) :
    (Chain.thin Point.isSame points).Finds :=
  Chain.avoids_thin Point.finds_isSame

namespace Polyline

variable (line : Polyline K) (start finish : Distance K)

@[simp] lemma finds_ofThinned (points : List (Point K)) : (ofThinned points).Finds := by
  simp [ofThinned, ofPoints, wayLength]

@[simp] lemma finds_slicePoints (last : Point K) (segments : List (Segment K)) (sofar : Distance K)
    (inside : Bool) : (slicePoints start finish last segments sofar inside).Finds := by
  induction segments generalizing sofar inside with
  | nil => exact Outcome.avoids_ok [last]
  | cons s rest ih => simp [slicePoints, ih]

@[simp] lemma finds_slice : (line.slice start finish).Finds := by
  simp [slice, last, segments]

end Polyline

@[simp] lemma Region.finds_ofBounds (left right : Polyline K) :
    (Region.ofBounds left right).Finds := by
  have hopen : ∀ points : List (Point K), (Region.openRing points).Finds := by
    intro points
    unfold Region.openRing
    split
    · split <;> simp
    · simp
  simp only [Region.ofBounds, Region.ofOutline, Outcome.avoids_bind, Chain.finds_thin, hopen,
    true_and]
  intro _ _ corners _
  split <;> simp

namespace Lanelet

variable (lanelets : List (Lanelet K)) (start finish : Distance K)

@[simp] lemma finds_spanBounds (travelled : Distance K) :
    (spanBounds start finish lanelets travelled).Finds := by
  induction lanelets generalizing travelled with
  | nil => exact Outcome.avoids_ok _
  | cons l rest ih => simp [spanBounds, boundaryPiece, ih]

@[simp] lemma finds_span : (span lanelets start finish).Finds := by simp [span]

end Lanelet

end Spans

/-! ## Relatives and ways -/

namespace RoadMap

variable {K : Type} {map : RoadMap K}

lemma mem_ids_iff {id : LaneletId} : id ∈ map.ids ↔ (map.lanelet? id).isSome = true := by
  simp [ids, lanelet?, List.find?_isSome]

lemma finds_lanelet {id : LaneletId} (h : id ∈ map.ids) : (map.lanelet id).Finds := by
  obtain ⟨l, -, -, hl⟩ := exists_lanelet h
  rw [hl]
  exact Outcome.avoids_ok l

lemma finds_lanelets {ids : List LaneletId} (h : ∀ id ∈ ids, id ∈ map.ids) :
    (ids.mapM map.lanelet).Finds :=
  Outcome.avoids_mapM fun id hid => finds_lanelet (h id hid)

/-- Lanelets of the map can be looked up, all of them. -/
lemma exists_lanelets {ids : List LaneletId} (h : ∀ id ∈ ids, id ∈ map.ids) :
    ∃ ls, ids.mapM map.lanelet = .ok ls ∧ ls.map Lanelet.id = ids := by
  cases hls : ids.mapM map.lanelet with
  | ok ls => exact ⟨ls, rfl, delivers_lanelets.of_eq_ok hls⟩
  | error e =>
      obtain ⟨id, hid, he⟩ := Outcome.mapM_eq_error hls
      obtain ⟨l, -, -, hl⟩ := exists_lanelet (h id hid)
      cases hl.symm.trans he

namespace Coherent

variable (h : map.Coherent) {id other : LaneletId}
include h

lemma mem_ids_of_targets {r : Relation} (hother : other ∈ map.routing.targets id r) :
    other ∈ map.ids := by
  obtain ⟨contact, overlaps, hrouting⟩ := h.routing
  rw [hrouting] at hother
  exact ((Routing.mem_targets_derive h.ascending).mp hother).2.1

lemma mem_ids_of_besides (hother : other ∈ map.routing.besides id) : other ∈ map.ids :=
  (Routing.mem_besides hother).elim h.mem_ids_of_targets h.mem_ids_of_targets

end Coherent

variable [Scalar K] {goal : LaneletId} {length : Distance K} {exclude : List LaneletId}

lemma finds_waysInto (hmap : map.Coherent) : (map.waysInto goal length exclude).Finds := by
  rintro _ ⟨id, rfl⟩ he
  obtain ⟨x, hx⟩ := waysInto_eq_error (q := ⟨goal, length, exclude⟩) hmap he
  cases hx

/-- Ways consist of lanelets of the map. -/
lemma mem_ids_of_waysInto (hmap : map.Coherent) {ways : List (List LaneletId)}
    (h : map.waysInto goal length exclude = .ok ways) :
    ∀ way ∈ ways, ∀ id ∈ way, id ∈ map.ids := by
  intro way hway
  have hways := (delivers_waysInto (q := ⟨goal, length, exclude⟩) hmap).of_eq_ok h
  exact ((hways way).mp hway).toIsTrail.mem_ids hmap

lemma LeadsInto.mem_ids (hmap : map.Coherent) {q : Quest K} {id : LaneletId}
    (h : map.LeadsInto q id) : id ∈ map.ids := by
  obtain ⟨way, hway, hid⟩ := h
  exact hway.toIsTrail.mem_ids hmap id hid

end RoadMap

/-! ## Groups of lanelets -/

namespace LaneGroup

variable {K : Type} [Scalar K] {map : RoadMap K} {length : Distance K} {exclude : List LaneletId}

omit [Scalar K] in
lemma finds_ofIds {ids : List LaneletId} (h : ∀ id ∈ ids, id ∈ map.ids) :
    (ofIds map ids).Finds := by
  simp [ofIds, RoadMap.finds_lanelets h]

lemma finds_addChain (g : LaneGroup K) (chain : List (Lanelet K)) (watched : Lanelet K) :
    (addChain length g chain watched).Finds := by
  simp [addChain]

/-- What leads into lanelets of the map can be looked up with them. -/
lemma finds_withWays (hmap : map.Coherent) {watched : List LaneletId}
    (h : ∀ id ∈ watched, id ∈ map.ids) : (withWays map watched length exclude).Finds := by
  refine Outcome.avoids_foldlM fun d hd g => ?_
  rw [addWays, Outcome.avoids_bind]
  refine ⟨RoadMap.finds_waysInto hmap, fun ways hways => Outcome.avoids_foldlM fun way hway g => ?_⟩
  have hids : ∀ id ∈ way.reverse, id ∈ map.ids := by
    intro id hid
    rw [List.mem_reverse] at hid
    -- if nothing leads into the lanelet, it is added with nothing before it
    cases ways with
    | nil =>
        cases List.mem_singleton.mp hway
        cases hid
    | cons first rest => exact RoadMap.mem_ids_of_waysInto hmap hways way hway id hid
  simp [RoadMap.finds_lanelets hids, RoadMap.finds_lanelet (h d hd), finds_addChain]

end LaneGroup

/-! ## The lanelets around an intersection -/

namespace Surroundings

variable {K : Type} {map : RoadMap K} {l : Lanelet K} {assigned id : LaneletId}
  {onPath : List LaneletId} {associated : IdSet} {length occlusionLength : Distance K}
  {wrongDirection : Bool} {u : Surroundings K} (hmap : map.Coherent)

section Lists

include hmap

lemma mem_ids_of_conflicts (h : id ∈ conflicts map.routing assigned onPath) : id ∈ map.ids :=
  hmap.mem_ids_of_targets (mem_conflicts.mp h).1

/-- What is watched is a lanelet of the map, be it on the path or not. -/
lemma mem_ids_of_detection (h : id ∈ detection map.routing l onPath wrongDirection) :
    id ∈ map.ids := by
  unfold detection at h
  split at h
  · cases h
  · split at h
    · have hmem := (List.mem_filter.mp ((mem_gather.mp h).resolve_left List.not_mem_nil)).1
      obtain ⟨other, hother, hid⟩ := List.mem_flatMap.mp hmem
      simp only [List.cons_append, List.mem_cons, List.mem_append] at hid
      rcases hid with rfl | hid | hid
      · exact hmap.mem_ids_of_targets hother
      · exact hmap.mem_ids_of_targets hid
      · exact hmap.mem_ids_of_previous hid
    · exact mem_ids_of_conflicts hmap (List.mem_filter.mp h).1

end Lists

lemma mem_ids_of_adjacents (h : id ∈ adjacents map assigned associated) : id ∈ map.ids := by
  have hmem := List.mem_filter.mp ((mem_gather.mp h).resolve_left List.not_mem_nil)
  rw [RoadMap.mem_ids_iff]
  simp only [Bool.and_eq_true] at hmem
  exact hmem.2.2

variable [Scalar K]

section Groups

include hmap

/-- Every group lists lanelets of the map. -/
lemma MadeOf.mem_ids (h : u.MadeOf map l onPath associated length occlusionLength wrongDirection) :
    ∀ group ∈ u.groups, ∀ id ∈ group.ids, id ∈ map.ids := by
  have hwatched : ∀ id ∈ u.attentionNonPreceding.ids, id ∈ map.ids := by
    intro id hid
    rw [h.nonPreceding] at hid
    exact mem_ids_of_detection hmap hid
  intro group hgroup id hid
  simp only [groups, List.mem_cons, List.not_mem_nil, or_false] at hgroup
  rcases hgroup with rfl | rfl | rfl | rfl | rfl
  · rcases (h.attention.mem_iff id).mp hid with hid | ⟨d, -, hleads⟩
    · exact hwatched id hid
    · exact hleads.mem_ids hmap
  · exact hwatched id hid
  · rw [h.conflicting] at hid
    exact mem_ids_of_conflicts hmap hid
  · rw [h.adjacent] at hid
    exact mem_ids_of_adjacents hid
  · rcases (h.occlusion.mem_iff id).mp hid with hid | ⟨d, -, hleads⟩
    · exact hwatched id hid
    · exact hleads.mem_ids hmap

lemma finds_classify :
    (classify map assigned onPath associated length occlusionLength wrongDirection).Finds := by
  unfold classify
  split
  · exact Outcome.finds_refuse _
  · next l _ =>
    have hdetection : ∀ id ∈ detection map.routing l onPath wrongDirection, id ∈ map.ids :=
      fun _ => mem_ids_of_detection hmap
    have hconflicts : ∀ id ∈ conflicts map.routing assigned onPath, id ∈ map.ids :=
      fun _ => mem_ids_of_conflicts hmap
    simp [LaneGroup.finds_withWays hmap hdetection, LaneGroup.finds_ofIds hdetection,
      LaneGroup.finds_ofIds hconflicts, LaneGroup.finds_ofIds fun _ => mem_ids_of_adjacents]

/-- Sorting the lanelets around one is refused exactly if the map does not have that one. -/
lemma classify_refused_iff :
    (∃ why activities, classify map assigned onPath associated length occlusionLength
      wrongDirection = .error (.refused why activities)) ↔ assigned ∉ map.ids := by
  rw [RoadMap.mem_ids_iff]
  cases hl : map.lanelet? assigned with
  | none => simp [classify, hl, Outcome.refuse]
  | some l =>
      have hdelivers : (classify map assigned onPath associated length occlusionLength
        wrongDirection).Delivers _ := delivers_classify hmap hl
      constructor
      · rintro ⟨why, activities, hrefused⟩
        rw [hrefused] at hdelivers
        rcases hdelivers with ⟨u, hu, -⟩ | ⟨why, hwhy⟩
        · cases hu
        · cases hwhy
      · simp

end Groups

/-- **No lookup misses.**  In an accepted map the relatives of a lanelet and the lanelets on the
ways into it are lanelets of the map, whatever lanelet is asked about.  Sorting the lanelets around
one is refused exactly if the map does not have that one; otherwise every group lists lanelets of
the map, and they can be looked up.  Neither looking for ways nor sorting asks for a lanelet that is
not there, although names on the path and of the intersection may be any. -/
theorem classify_finds {lanelets : List (Lanelet K)} {areas : List (AreaId × Region K)}
    (h : RoadMap.ofLanelets lanelets areas = .ok map) :
    (∀ id, ∀ other ∈ map.routing.following id ++ map.routing.previous id ++
      map.routing.conflicting id ++ map.routing.besides id, other ∈ map.ids) ∧
    (∀ (goal : LaneletId) (length : Distance K) (exclude : List LaneletId),
      (map.waysInto goal length exclude).Finds ∧
      ∀ ways, map.waysInto goal length exclude = .ok ways →
        ∀ way ∈ ways, ∀ id ∈ way, id ∈ map.ids) ∧
    (∀ (watched : List LaneletId) (length : Distance K) (exclude : List LaneletId),
      (∀ id ∈ watched, id ∈ map.ids) → (LaneGroup.withWays map watched length exclude).Finds) ∧
    ∀ (assigned : LaneletId) (onPath : List LaneletId) (associated : IdSet)
      (length occlusionLength : Distance K) (wrongDirection : Bool),
      (classify map assigned onPath associated length occlusionLength wrongDirection).Finds ∧
      ((∃ why activities, classify map assigned onPath associated length occlusionLength
        wrongDirection = .error (.refused why activities)) ↔ assigned ∉ map.ids) ∧
      ∀ u, classify map assigned onPath associated length occlusionLength wrongDirection = .ok u →
        ∀ group ∈ u.groups, (∀ id ∈ group.ids, id ∈ map.ids) ∧
          ∃ ls, group.lanelets map = .ok ls ∧ ls.map Lanelet.id = group.ids := by
  have hmap := RoadMap.coherent_of_ofLanelets h
  refine ⟨?_, ?_, ?_, ?_⟩
  · intro id other hother
    simp only [List.mem_append] at hother
    rcases hother with ((hother | hother) | hother) | hother
    · exact hmap.mem_ids_of_targets hother
    · exact hmap.mem_ids_of_previous hother
    · exact hmap.mem_ids_of_targets hother
    · exact hmap.mem_ids_of_besides hother
  · intro goal length exclude
    exact ⟨RoadMap.finds_waysInto hmap, fun ways hways => RoadMap.mem_ids_of_waysInto hmap hways⟩
  · intro watched length exclude hwatched
    exact LaneGroup.finds_withWays hmap hwatched
  · intro assigned onPath associated length occlusionLength wrongDirection
    refine ⟨finds_classify hmap, classify_refused_iff hmap, fun u hu => ?_⟩
    cases hl : map.lanelet? assigned with
    | none => simp [classify, hl, Outcome.refuse] at hu
    | some l =>
        have hids := ((delivers_classify hmap hl).of_eq_ok hu).mem_ids hmap
        exact fun group hgroup =>
          ⟨hids group hgroup, RoadMap.exists_lanelets (hids group hgroup)⟩

/-- Names that the map does not have do no harm on the path and among those of the intersection, and
are refused when they are to be assigned. -/
theorem classify_finds_giveWay :
    (∃ u, classify giveWay ⟨1⟩ [⟨1⟩, ⟨99⟩] (IdSet.ofList [⟨1⟩, ⟨77⟩]) ⟨2⟩ ⟨2⟩ true = .ok u ∧
      u.attentionNonPreceding.ids = [⟨3⟩] ∧ ∀ group ∈ u.groups, ∀ id ∈ group.ids,
        id ∈ giveWay.ids) ∧
    ∃ why activities, classify giveWay ⟨99⟩ [⟨1⟩] (IdSet.ofList [⟨77⟩]) ⟨2⟩ ⟨2⟩ true =
      .error (.refused why activities) := by
  obtain ⟨lanelets, hmap⟩ := exists_ofLanelets_giveWay
  obtain ⟨-, -, -, haround⟩ := classify_finds hmap
  constructor
  · have hwatched : (fun u => u.attentionNonPreceding.ids) <$>
        classify giveWay ⟨1⟩ [⟨1⟩, ⟨99⟩] (IdSet.ofList [⟨1⟩, ⟨77⟩]) ⟨2⟩ ⟨2⟩ true = .ok [⟨3⟩] := by
      decide +kernel
    obtain ⟨u, hu, hids⟩ := Outcome.map_eq_ok.mp hwatched
    obtain ⟨-, -, hgroups⟩ := haround ⟨1⟩ [⟨1⟩, ⟨99⟩] (IdSet.ofList [⟨1⟩, ⟨77⟩]) ⟨2⟩ ⟨2⟩ true
    exact ⟨u, hu, hids, fun group hgroup => (hgroups u hu group hgroup).1⟩
  · obtain ⟨-, hrefused, -⟩ := haround ⟨99⟩ [⟨1⟩] (IdSet.ofList [⟨77⟩]) ⟨2⟩ ⟨2⟩ true
    exact hrefused.mpr (by decide +kernel)

end Surroundings

end Crossing
