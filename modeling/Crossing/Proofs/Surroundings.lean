import Crossing.Proofs.Delivery
import Crossing.Proofs.WaysInto
import Crossing.Surroundings

/-!
# What the groups of lanelets around an intersection hold

`Surroundings.classify` builds five groups out of one another.  `delivers_classify` says which
lanelets each of them lists; what is said about their areas is left out here.

**Watched lanelets and what leads into them.**  A group is filled lanelet by lanelet and way by way,
and a name that is there already is not listed again.  So the group of some lanelets with everything
that leads into them lists those lanelets and the lanelets of their ways, each once
(`delivers_withWays`); the invariants of the two loops are the same statement about the part worked
off so far (`Lists`).

**How the groups lie to each other** is then a matter of the lists they are made of
(`classify_lawful`).

**Lanelets that must yield** are never watched themselves.  Ways into a watched lanelet do not keep
clear of them, however, so one of them is attended to exactly if it lies on such a way
(`yielding_attended_iff`).
-/

namespace Crossing

/-! ## The area along a row of lanelets -/

namespace Lanelet

variable {K : Type} [Scalar K] {start finish : Distance K}

lemma delivers_boundaryPiece {boundary : Polyline K} {first last : K} :
    (boundaryPiece boundary first last).Delivers fun _ => True :=
  .bind Distance.delivers_scale fun _ _ => .bind Distance.delivers_scale fun _ _ =>
    .bind .tolerate fun _ _ => .ok trivial

lemma delivers_spanBounds : ∀ {lanelets : List (Lanelet K)} {travelled : Distance K},
    (spanBounds start finish lanelets travelled).Delivers fun _ => True
  | [], _ => .ok trivial
  | l :: rest, travelled => by
      rw [spanBounds]
      refine .bind Distance.delivers_sub fun entry _ => ?_
      refine .bind Distance.delivers_sub fun exit _ => ?_
      refine .bind Distance.delivers_add fun next _ => ?_
      split
      · exact delivers_spanBounds
      · refine .bind delivers_boundaryPiece fun left _ => ?_
        refine .bind delivers_boundaryPiece fun right _ => ?_
        exact .bind delivers_spanBounds fun _ _ => .ok trivial

lemma delivers_span {lanelets : List (Lanelet K)} :
    (span lanelets start finish).Delivers fun _ => True := by
  unfold span
  refine .bind Distance.delivers_sum fun total _ => ?_
  dsimp only
  split
  · exact .ok trivial
  · exact .bind delivers_spanBounds fun _ _ => .tolerate

end Lanelet

/-! ## Names, each listed once -/

/-- Some names and then those of others that are not among them already. -/
def gather (seen ids : List LaneletId) : List LaneletId :=
  ids.foldl (fun seen id => if id ∈ seen then seen else seen ++ [id]) seen

lemma mem_gather {id : LaneletId} : ∀ {ids seen : List LaneletId},
    id ∈ gather seen ids ↔ id ∈ seen ∨ id ∈ ids
  | [], seen => by simp [gather]
  | x :: rest, seen => by
      have h : gather seen (x :: rest) = gather (if x ∈ seen then seen else seen ++ [x]) rest := rfl
      rw [h, mem_gather]
      split
      · next hx =>
        rw [List.mem_cons]
        constructor
        · exact Or.imp_right Or.inr
        · rintro (hid | rfl | hid)
          · exact Or.inl hid
          · exact Or.inl hx
          · exact Or.inr hid
      · simp [or_assoc]

lemma nodup_gather : ∀ {ids seen : List LaneletId}, seen.Nodup → (gather seen ids).Nodup
  | [], seen, h => h
  | x :: rest, seen, h => by
      have hgather : gather seen (x :: rest) =
        gather (if x ∈ seen then seen else seen ++ [x]) rest := rfl
      rw [hgather]
      refine nodup_gather ?_
      split
      · exact h
      · next hx =>
        rw [List.nodup_append_comm]
        exact List.nodup_cons.mpr ⟨hx, h⟩

namespace RoadMap

variable {K : Type} [Scalar K] {map : RoadMap K} {id : LaneletId}

/-- The lanelet lies on a way into the goal. -/
def LeadsInto (map : RoadMap K) (q : Quest K) (id : LaneletId) : Prop :=
  ∃ way, IsWay map q way ∧ id ∈ way

/-- What leads into a lanelet is neither that lanelet nor excluded. -/
lemma LeadsInto.clear {q : Quest K} (h : map.LeadsInto q id) : id ≠ q.goal ∧ id ∉ q.exclude := by
  obtain ⟨way, hway, hid⟩ := h
  exact hway.clear id hid

omit [Scalar K] in
lemma id_of_lanelet? {l : Lanelet K} (h : map.lanelet? id = some l) : l.id = id := by
  simpa using List.find?_some h

omit [Scalar K] in
lemma delivers_lanelet : (map.lanelet id).Delivers fun l => l.id = id :=
  Outcome.Delivers.demand.imp fun _ => id_of_lanelet?

omit [Scalar K] in
lemma delivers_lanelets {ids : List LaneletId} :
    (ids.mapM map.lanelet).Delivers fun ls => ls.map Lanelet.id = ids := by
  refine (Outcome.Delivers.mapM fun id _ => delivers_lanelet).imp fun ls hls => ?_
  induction hls with
  | nil => rfl
  | cons hid _ ih => rw [List.map_cons, hid, ih]

end RoadMap

/-! ## Groups -/

namespace LaneGroup

variable {K : Type} {map : RoadMap K} {g : LaneGroup K} {P : LaneletId → Prop}

/-- **The group lists the lanelets with the property**, each once. -/
structure Lists (g : LaneGroup K) (P : LaneletId → Prop) : Prop where
  nodup : g.ids.Nodup
  mem_iff : ∀ id, id ∈ g.ids ↔ P id

lemma lists_empty : (empty : LaneGroup K).Lists fun _ => False where
  nodup := .nil
  mem_iff _ := by simp [empty]

lemma Lists.congr {P' : LaneletId → Prop} (h : g.Lists P) (hP : ∀ id, P id ↔ P' id) : g.Lists P' :=
  ⟨h.nodup, fun id => (h.mem_iff id).trans (hP id)⟩

variable [Scalar K] {length : Distance K} {exclude : List LaneletId}

lemma delivers_addChain {chain : List (Lanelet K)} {watched : Lanelet K} (h : g.Lists P) :
    (addChain length g chain watched).Delivers fun g' => g'.Lists fun id =>
      P id ∨ id ∈ chain.map Lanelet.id ∨ id = watched.id := by
  refine .bind Distance.delivers_sum fun total _ => ?_
  refine .bind Distance.delivers_sub fun before _ => ?_
  refine .bind Distance.delivers_sub fun start _ => ?_
  refine .bind Lanelet.delivers_span fun area _ => .ok ?_
  have hids : (chain ++ [watched]).foldl (fun ids l => if l.id ∈ ids then ids else ids ++ [l.id])
      g.ids = gather g.ids ((chain ++ [watched]).map Lanelet.id) := by
    rw [gather, List.foldl_map]
  refine ⟨?_, fun id => ?_⟩
  · rw [hids]
    exact nodup_gather h.nodup
  · rw [hids, mem_gather, h.mem_iff, List.map_append, List.mem_append, List.map_singleton,
      List.mem_singleton]

/-- A group with a lanelet and every way into it. -/
lemma delivers_addWays (hmap : map.Coherent) {watched : LaneletId} (h : g.Lists P) :
    (addWays map length exclude g watched).Delivers fun g' => g'.Lists fun id =>
      P id ∨ id = watched ∨ map.LeadsInto ⟨watched, length, exclude⟩ id := by
  unfold addWays
  refine .bind (RoadMap.delivers_waysInto (q := ⟨watched, length, exclude⟩) hmap)
    fun ways hways => ?_
  -- the lanelet itself is listed with each way, so there has to be one, be it empty
  let I (done : List (List LaneletId)) (g : LaneGroup K) : Prop :=
    g.Lists fun id => P id ∨ ∃ way ∈ done, id ∈ way ∨ id = watched
  refine (Outcome.Delivers.foldlM (I := I) (fun done way _ g hg => ?_) ?_).imp fun g' hg' => ?_
  · refine .bind RoadMap.delivers_lanelets fun chain hchain => ?_
    refine .bind RoadMap.delivers_lanelet fun l hl => ?_
    refine (delivers_addChain hg).imp fun g' hg' => hg'.congr fun id => ?_
    rw [hchain, hl, List.mem_reverse]
    simp only [List.mem_append, List.mem_singleton, or_and_right, exists_or, exists_eq_left]
    exact or_assoc
  · exact h.congr fun id => by simp
  · refine hg'.congr fun id => or_congr_right ?_
    have hleads : map.LeadsInto ⟨watched, length, exclude⟩ id ↔ ∃ way ∈ ways, id ∈ way := by
      simp only [RoadMap.LeadsInto, hways]
    rw [hleads]
    cases ways with
    | nil => simp
    | cons first rest =>
        constructor
        · rintro ⟨way, hway, hid | rfl⟩
          · exact Or.inr ⟨way, hway, hid⟩
          · exact Or.inl rfl
        · rintro (rfl | ⟨way, hway, hid⟩)
          · exact ⟨first, List.mem_cons_self, Or.inr rfl⟩
          · exact ⟨way, hway, Or.inl hid⟩

/-- **Some lanelets with everything that leads into them** are those lanelets and the lanelets on
their ways. -/
lemma delivers_withWays (hmap : map.Coherent) {watched : List LaneletId} :
    (withWays map watched length exclude).Delivers fun g => g.Lists fun id =>
      id ∈ watched ∨ ∃ d ∈ watched, map.LeadsInto ⟨d, length, exclude⟩ id := by
  let I (done : List LaneletId) (g : LaneGroup K) : Prop :=
    g.Lists fun id => id ∈ done ∨ ∃ d ∈ done, map.LeadsInto ⟨d, length, exclude⟩ id
  refine Outcome.Delivers.foldlM (I := I) (fun done d _ g hg => ?_) (lists_empty.congr (by simp))
  refine (delivers_addWays hmap hg).imp fun g' hg' => hg'.congr fun id => ?_
  simp only [List.mem_append, List.mem_singleton, or_and_right, exists_or, exists_eq_left]
  exact or_or_or_comm

omit [Scalar K] in
lemma delivers_ofIds {ids : List LaneletId} : (ofIds map ids).Delivers fun g => g.ids = ids :=
  .bind RoadMap.delivers_lanelets fun _ _ => .ok rfl

end LaneGroup

/-! ## The groups around an intersection -/

namespace Surroundings

variable {K : Type} {map : RoadMap K} {l : Lanelet K} {assigned id : LaneletId}
  {onPath : List LaneletId} {associated : IdSet} {length occlusionLength : Distance K}
  {wrongDirection : Bool} {u : Surroundings K} {g : Routing}

/-- **The vehicle's own lanelets**: the assigned one, those that it goes on from with all that go
on from them, and those on the path. -/
def IsOwn (g : Routing) (assigned : LaneletId) (onPath : List LaneletId) (id : LaneletId) : Prop :=
  id = assigned ∨ (∃ p ∈ g.previous assigned, id = p ∨ id ∈ g.following p) ∨ id ∈ onPath

lemma mem_own : id ∈ own g assigned onPath ↔ IsOwn g assigned onPath id := by
  simp only [own, IsOwn, List.mem_append, List.mem_flatMap, List.mem_cons]
  exact or_left_comm

/-! ### The lists that groups are made of -/

lemma mem_conflicts : id ∈ conflicts g assigned onPath ↔
    id ∈ g.conflicting assigned ∧ ¬ IsOwn g assigned onPath id := by
  simp [conflicts, mem_own]

lemma nodup_conflicts : (conflicts g assigned onPath).Nodup :=
  (RoadMap.nodup_of_ascending Routing.pairwise_targets).filter _

/-- What is watched neither is the assigned lanelet nor yields to it. -/
lemma clear_of_mem_detection (h : id ∈ detection g l onPath wrongDirection) :
    id ≠ l.id ∧ id ∉ yielding g l := by
  unfold detection at h
  split at h
  · cases h
  · split at h
    · have hmem := (mem_gather.mp h).resolve_left List.not_mem_nil
      simpa using (List.mem_filter.mp hmem).2
    · obtain ⟨hconflicts, hyielding⟩ := List.mem_filter.mp h
      refine ⟨fun heq => ?_, by simpa using hyielding⟩
      exact (mem_conflicts.mp hconflicts).2 (Or.inl heq)

/-- Unless vehicles in the wrong direction count, only conflicting lanelets are watched. -/
lemma mem_conflicts_of_detection (h : id ∈ detection g l onPath false) :
    id ∈ conflicts g l.id onPath := by
  unfold detection at h
  split at h
  · cases h
  · exact (List.mem_filter.mp h).1

lemma nodup_detection : (detection g l onPath wrongDirection).Nodup := by
  unfold detection
  split
  · exact .nil
  · split
    · exact nodup_gather .nil
    · exact nodup_conflicts.filter _

lemma clear_of_mem_adjacents (h : id ∈ adjacents map assigned associated) :
    id ≠ assigned ∧ id ∉ map.routing.conflicting assigned := by
  have hmem := (mem_gather.mp h).resolve_left List.not_mem_nil
  have hclear := (List.mem_filter.mp hmem).2
  simp only [Bool.and_eq_true, decide_eq_true_eq] at hclear
  exact hclear.1

variable [Scalar K]

/-- **Which lanelets the groups list.** -/
structure MadeOf (u : Surroundings K) (map : RoadMap K) (l : Lanelet K) (onPath : List LaneletId)
    (associated : IdSet) (length occlusionLength : Distance K) (wrongDirection : Bool) : Prop where
  nonPreceding : u.attentionNonPreceding.ids = detection map.routing l onPath wrongDirection
  attention : u.attention.Lists fun id => id ∈ u.attentionNonPreceding.ids ∨
    ∃ d ∈ u.attentionNonPreceding.ids,
      map.LeadsInto ⟨d, length, own map.routing l.id onPath⟩ id
  occlusion : u.occlusion.Lists fun id => id ∈ u.attentionNonPreceding.ids ∨
    ∃ d ∈ u.attentionNonPreceding.ids,
      map.LeadsInto ⟨d, occlusionLength, own map.routing l.id onPath⟩ id
  conflicting : u.conflicting.ids = conflicts map.routing l.id onPath
  adjacent : u.adjacent.ids = adjacents map l.id associated

/-- Sorting the lanelets around one of the map is never refused. -/
lemma delivers_classify (hmap : map.Coherent) (hl : map.lanelet? assigned = some l) :
    (classify map assigned onPath associated length occlusionLength wrongDirection).Delivers
      fun u => u.MadeOf map l onPath associated length occlusionLength wrongDirection := by
  obtain rfl := RoadMap.id_of_lanelet? hl
  unfold classify
  simp only [hl]
  refine .bind (LaneGroup.delivers_withWays hmap) fun attention hattention => ?_
  refine .bind (LaneGroup.delivers_withWays hmap) fun occlusion hocclusion => ?_
  refine .bind LaneGroup.delivers_ofIds fun watched hwatched => ?_
  refine .bind LaneGroup.delivers_ofIds fun conflicting hconflicting => ?_
  refine .bind LaneGroup.delivers_ofIds fun adjacent hadjacent => .ok ?_
  rw [← hwatched] at hattention hocclusion
  exact ⟨hwatched, hattention, hocclusion, hconflicting, hadjacent⟩

/-- **Where the attended lanelets come from**: the same are watched for what can be seen and for
what may be hidden, only back over different lengths. -/
lemma classify_eq_ok
    (h : classify map assigned onPath associated length occlusionLength wrongDirection = .ok u) :
    ∃ l, map.lanelet? assigned = some l ∧
      LaneGroup.withWays map (detection map.routing l onPath wrongDirection) length
        (own map.routing assigned onPath) = .ok u.attention ∧
      LaneGroup.withWays map (detection map.routing l onPath wrongDirection) occlusionLength
        (own map.routing assigned onPath) = .ok u.occlusion ∧
      u.firstConflicting = none := by
  unfold classify at h
  cases hassigned : map.lanelet? assigned with
  | none =>
      simp only [hassigned] at h
      cases h
  | some l =>
      simp only [hassigned] at h
      obtain ⟨attention, hattention, h⟩ := Outcome.bind_eq_ok.mp h
      obtain ⟨occlusion, hocclusion, h⟩ := Outcome.bind_eq_ok.mp h
      obtain ⟨watched, -, h⟩ := Outcome.bind_eq_ok.mp h
      obtain ⟨conflicting, -, h⟩ := Outcome.bind_eq_ok.mp h
      obtain ⟨adjacent, -, h⟩ := Outcome.bind_eq_ok.mp h
      cases h
      exact ⟨l, rfl, hattention, hocclusion, rfl⟩

/-! ### How the groups lie to each other -/

def groups (u : Surroundings K) : List (LaneGroup K) :=
  [u.attention, u.attentionNonPreceding, u.conflicting, u.adjacent, u.occlusion]

/-- **How the groups lie to each other**, around a lanelet that is assigned to a vehicle. -/
structure Lawful (u : Surroundings K) (map : RoadMap K) (assigned : LaneletId)
    (onPath : List LaneletId) (wrongDirection : Bool) : Prop where
  /-- No group lists a lanelet twice. -/
  nodup : ∀ group ∈ u.groups, group.ids.Nodup
  /-- No group lists the assigned lanelet. -/
  clear : ∀ group ∈ u.groups, assigned ∉ group.ids
  conflicting_not_own : ∀ id ∈ u.conflicting.ids, ¬ IsOwn map.routing assigned onPath id
  watched_attended : ∀ id ∈ u.attentionNonPreceding.ids,
    id ∈ u.attention.ids ∧ id ∈ u.occlusion.ids
  /-- What leads into watched lanelets is not the vehicle's own. -/
  own_watched : ∀ id, IsOwn map.routing assigned onPath id →
    id ∈ u.attention.ids ∨ id ∈ u.occlusion.ids → id ∈ u.attentionNonPreceding.ids
  /-- Unless vehicles in the wrong direction count, nothing of the vehicle's own is attended to. -/
  own_unattended : wrongDirection = false → ∀ id, IsOwn map.routing assigned onPath id →
    id ∉ u.attention.ids ∧ id ∉ u.occlusion.ids
  watched_conflicting : wrongDirection = false → ∀ id ∈ u.attentionNonPreceding.ids,
    id ∈ u.conflicting.ids
  adjacent_free : ∀ id ∈ u.adjacent.ids, id ∉ map.routing.conflicting assigned

namespace MadeOf

variable (h : u.MadeOf map l onPath associated length occlusionLength wrongDirection)
include h

lemma clear_of_watched (hid : id ∈ u.attentionNonPreceding.ids) :
    id ≠ l.id ∧ id ∉ yielding map.routing l := by
  rw [h.nonPreceding] at hid
  exact clear_of_mem_detection hid

/-- Nothing of the vehicle's own is attended to but what is watched itself. -/
lemma watched_of_own (hown : IsOwn map.routing l.id onPath id)
    (hid : id ∈ u.attention.ids ∨ id ∈ u.occlusion.ids) : id ∈ u.attentionNonPreceding.ids := by
  rw [h.attention.mem_iff, h.occlusion.mem_iff] at hid
  rcases hid with (hid | ⟨d, -, hleads⟩) | (hid | ⟨d, -, hleads⟩)
  · exact hid
  · exact absurd (mem_own.mpr hown) hleads.clear.2
  · exact hid
  · exact absurd (mem_own.mpr hown) hleads.clear.2

lemma conflicting_of_watched (hforward : wrongDirection = false)
    (hid : id ∈ u.attentionNonPreceding.ids) : id ∈ u.conflicting.ids := by
  subst hforward
  rw [h.nonPreceding] at hid
  rw [h.conflicting]
  exact mem_conflicts_of_detection hid

lemma not_own_of_conflicting (hid : id ∈ u.conflicting.ids) :
    ¬ IsOwn map.routing l.id onPath id := by
  rw [h.conflicting] at hid
  exact (mem_conflicts.mp hid).2

lemma not_mem_groups : ∀ group ∈ u.groups, l.id ∉ group.ids := by
  have hown : IsOwn map.routing l.id onPath l.id := Or.inl rfl
  have hwatched : l.id ∉ u.attentionNonPreceding.ids := fun hid => (h.clear_of_watched hid).1 rfl
  intro group hgroup hid
  simp only [groups, List.mem_cons, List.not_mem_nil, or_false] at hgroup
  rcases hgroup with rfl | rfl | rfl | rfl | rfl
  · exact hwatched (h.watched_of_own hown (Or.inl hid))
  · exact hwatched hid
  · exact h.not_own_of_conflicting hid hown
  · rw [h.adjacent] at hid
    exact (clear_of_mem_adjacents hid).1 rfl
  · exact hwatched (h.watched_of_own hown (Or.inr hid))

lemma nodup_groups : ∀ group ∈ u.groups, group.ids.Nodup := by
  intro group hgroup
  simp only [groups, List.mem_cons, List.not_mem_nil, or_false] at hgroup
  rcases hgroup with rfl | rfl | rfl | rfl | rfl
  · exact h.attention.nodup
  · rw [h.nonPreceding]
    exact nodup_detection
  · rw [h.conflicting]
    exact nodup_conflicts
  · rw [h.adjacent]
    exact nodup_gather .nil
  · exact h.occlusion.nodup

lemma lawful : u.Lawful map l.id onPath wrongDirection where
  nodup := h.nodup_groups
  clear := h.not_mem_groups
  conflicting_not_own _ hid := h.not_own_of_conflicting hid
  watched_attended id hid := by
    rw [h.attention.mem_iff, h.occlusion.mem_iff]
    exact ⟨Or.inl hid, Or.inl hid⟩
  own_watched _ hown hid := h.watched_of_own hown hid
  own_unattended hforward id hown := by
    -- without traffic in the wrong direction, watched lanelets are in conflict, and so not own
    have hwatched : id ∉ u.attentionNonPreceding.ids := fun hid =>
      h.not_own_of_conflicting (h.conflicting_of_watched hforward hid) hown
    exact ⟨fun hid => hwatched (h.watched_of_own hown (Or.inl hid)),
      fun hid => hwatched (h.watched_of_own hown (Or.inr hid))⟩
  watched_conflicting hforward _ hid := h.conflicting_of_watched hforward hid
  adjacent_free id hid := by
    rw [h.adjacent] at hid
    exact (clear_of_mem_adjacents hid).2

end MadeOf

/-- **The groups around an intersection.**  Around a lanelet of an accepted map they lie to each
other as `Lawful` says, whatever the path, the other lanelets of the intersection, the lengths and
the direction of traffic.  Nothing is refused there. -/
theorem classify_lawful {lanelets : List (Lanelet K)} {areas : List (AreaId × Region K)}
    (h : RoadMap.ofLanelets lanelets areas = .ok map) (hl : map.lanelet? assigned = some l)
    (onPath : List LaneletId) (associated : IdSet) (length occlusionLength : Distance K)
    (wrongDirection : Bool) :
    (classify map assigned onPath associated length occlusionLength wrongDirection).Delivers
      fun u => u.Lawful map assigned onPath wrongDirection := by
  obtain rfl := RoadMap.id_of_lanelet? hl
  exact (delivers_classify (RoadMap.coherent_of_ofLanelets h) hl).imp fun _ hu => hu.lawful

/-! ## A lanelet that must yield, upstream of one that need not

A lanelet that runs north crosses the assigned one and goes on into another that crosses it too;
only the first of the two must yield.
-/

def giveWayLanes : Outcome Rat (List (Lanelet Rat)) := do
  let assigned ← RoadMap.straight 1 (⟨0, 1⟩, ⟨4, 1⟩) (⟨0, -1⟩, ⟨4, -1⟩)
  let first ← RoadMap.straight 2 (⟨1, -4⟩, ⟨1, 0⟩) (⟨3, -4⟩, ⟨3, 0⟩)
  let second ← RoadMap.straight 3 (⟨1, 0⟩, ⟨1, 4⟩) (⟨3, 0⟩, ⟨3, 4⟩)
  return [{ assigned with yields := IdSet.ofList [⟨2⟩] }, first, second]

def giveWay : RoadMap Rat := RoadMap.ofTrial giveWayLanes

/-- What is found around the assigned lanelet. -/
def aroundGiveWay : Outcome Rat (Surroundings Rat) :=
  classify giveWay ⟨1⟩ [⟨1⟩] (IdSet.ofList [⟨1⟩]) ⟨2⟩ ⟨2⟩ false

lemma exists_ofLanelets_giveWay : ∃ lanelets, RoadMap.ofLanelets lanelets [] = .ok giveWay :=
  RoadMap.exists_ofTrial giveWayLanes (by decide +kernel)

lemma exists_yields_giveWay : ∃ l, giveWay.lanelet? ⟨1⟩ = some l ∧ ⟨2⟩ ∈ l.yields := by
  have hany : (giveWay.lanelet? ⟨1⟩).any (fun l => ⟨2⟩ ∈ l.yields) = true := by decide +kernel
  simpa [Option.any_eq_true] using hany

lemma exists_aroundGiveWay : ∃ u, aroundGiveWay = .ok u ∧ u.conflicting.ids = [⟨2⟩, ⟨3⟩] ∧
    u.attentionNonPreceding.ids = [⟨3⟩] ∧ u.attention.ids = [⟨2⟩, ⟨3⟩] := by
  have haround : (fun u => (u.conflicting.ids, u.attentionNonPreceding.ids, u.attention.ids)) <$>
      aroundGiveWay = .ok ([⟨2⟩, ⟨3⟩], [⟨3⟩], [⟨2⟩, ⟨3⟩]) := by decide +kernel
  obtain ⟨u, hu, hids⟩ := Outcome.map_eq_ok.mp haround
  simp only [Prod.mk.injEq] at hids
  exact ⟨u, hu, hids⟩

/-- Both lanelets that run north are in conflict with the assigned one; the groups are lawful. -/
theorem classify_lawful_giveWay : ∃ u, aroundGiveWay = .ok u ∧
    u.conflicting.ids = [⟨2⟩, ⟨3⟩] ∧ u.Lawful giveWay ⟨1⟩ [⟨1⟩] false := by
  obtain ⟨lanelets, hmap⟩ := exists_ofLanelets_giveWay
  obtain ⟨l, hl, -⟩ := exists_yields_giveWay
  obtain ⟨u, hu, hconflicting, -⟩ := exists_aroundGiveWay
  have hlawful := classify_lawful hmap hl [⟨1⟩] (IdSet.ofList [⟨1⟩]) ⟨2⟩ ⟨2⟩ false
  exact ⟨u, hu, hconflicting, hlawful.of_eq_ok hu⟩

/-- **When a lanelet that must yield is attended to.**  It is never watched itself; it is among
those attended to, for what can be seen or for what may be hidden, exactly if it lies on a way into
a watched lanelet, as far back as is looked. -/
theorem yielding_attended_iff {lanelets : List (Lanelet K)} {areas : List (AreaId × Region K)}
    (h : RoadMap.ofLanelets lanelets areas = .ok map) (hl : map.lanelet? assigned = some l)
    (onPath : List LaneletId) (associated : IdSet) (length occlusionLength : Distance K)
    (wrongDirection : Bool) :
    (classify map assigned onPath associated length occlusionLength wrongDirection).Delivers
      fun u => ∀ y ∈ l.yields, y ∉ u.attentionNonPreceding.ids ∧
        (y ∈ u.attention.ids ↔ ∃ d ∈ u.attentionNonPreceding.ids,
          map.LeadsInto ⟨d, length, own map.routing assigned onPath⟩ y) ∧
        (y ∈ u.occlusion.ids ↔ ∃ d ∈ u.attentionNonPreceding.ids,
          map.LeadsInto ⟨d, occlusionLength, own map.routing assigned onPath⟩ y) := by
  obtain rfl := RoadMap.id_of_lanelet? hl
  refine (delivers_classify (RoadMap.coherent_of_ofLanelets h) hl).imp fun u hu y hy => ?_
  have hyielding : y ∈ yielding map.routing l :=
    List.mem_flatMap.mpr ⟨y, hy, List.mem_cons_self⟩
  have hwatched : y ∉ u.attentionNonPreceding.ids := fun hid =>
    (hu.clear_of_watched hid).2 hyielding
  refine ⟨hwatched, ?_, ?_⟩
  · rw [hu.attention.mem_iff, or_iff_right hwatched]
  · rw [hu.occlusion.mem_iff, or_iff_right hwatched]

/-- The first of the two lanelets that run north is attended to, as it leads into the second. -/
theorem yielding_attended_iff_giveWay : ∃ u, aroundGiveWay = .ok u ∧ ⟨2⟩ ∈ u.attention.ids ∧
    ∃ d ∈ u.attentionNonPreceding.ids,
      giveWay.LeadsInto ⟨d, ⟨2⟩, own giveWay.routing ⟨1⟩ [⟨1⟩]⟩ ⟨2⟩ := by
  obtain ⟨lanelets, hmap⟩ := exists_ofLanelets_giveWay
  obtain ⟨l, hl, hyields⟩ := exists_yields_giveWay
  obtain ⟨u, hu, -, -, hattention⟩ := exists_aroundGiveWay
  have hattended := yielding_attended_iff hmap hl [⟨1⟩] (IdSet.ofList [⟨1⟩]) ⟨2⟩ ⟨2⟩ false
  have hmem : ⟨2⟩ ∈ u.attention.ids := by
    rw [hattention]
    exact List.mem_cons_self
  exact ⟨u, hu, hmem, ((hattended.of_eq_ok hu) ⟨2⟩ hyields).2.1.mp hmem⟩

/-- **A lanelet that must yield may be attended to.** -/
theorem not_forall_unattended :
    ¬ ∀ (lanelets : List (Lanelet Rat)) (areas : List (AreaId × Region Rat)) (map : RoadMap Rat)
      (assigned : LaneletId) (l : Lanelet Rat) (onPath : List LaneletId) (associated : IdSet)
      (length occlusionLength : Distance Rat) (wrongDirection : Bool) (u : Surroundings Rat),
      RoadMap.ofLanelets lanelets areas = .ok map → map.lanelet? assigned = some l →
      classify map assigned onPath associated length occlusionLength wrongDirection = .ok u →
      ∀ y ∈ l.yields, y ∉ u.attention.ids ∧ y ∉ u.attentionNonPreceding.ids ∧
        y ∉ u.occlusion.ids := by
  intro h
  obtain ⟨lanelets, hmap⟩ := exists_ofLanelets_giveWay
  obtain ⟨l, hl, hyields⟩ := exists_yields_giveWay
  obtain ⟨u, hu, -, -, hattention⟩ := exists_aroundGiveWay
  have hunattended := (h lanelets [] giveWay ⟨1⟩ l [⟨1⟩] (IdSet.ofList [⟨1⟩]) ⟨2⟩ ⟨2⟩ false u
    hmap hl hu ⟨2⟩ hyields).1
  rw [hattention] at hunattended
  exact hunattended List.mem_cons_self

end Surroundings

end Crossing
