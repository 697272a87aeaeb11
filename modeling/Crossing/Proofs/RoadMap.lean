import Crossing.Proofs.Outcome
import Crossing.Proofs.Rational
import Crossing.Proofs.Routing
import Crossing.Proofs.Sorting
import Crossing.RoadMap

/-!
# What a map is when it has been accepted

`RoadMap.ofLaneletsBy` checks names and references, sorts and derives relations from the answers of
a gauge.  `ofLaneletsBy_eq_ok` says that an accepted map consists of what each of these steps gave,
and `routes_eq_ok` that its relations are derived from what the gauge says of each pair of its
lanelets; the table that answers are kept in is not seen any more.

Whoever asks a map for relatives and then for their lanelets needs less: `RoadMap.Coherent` says
that names are ascending and that relations are those of some tests between the lanelets of the
map.  So relatives are in the map (`mem_ids_of_previous`), and asking for their lanelets gives an
answer (`exists_lanelet`).
-/

namespace Crossing.RoadMap

variable {K : Type}

/-! ## Lists of names -/

/-- The names of the lanelets of a map. -/
def ids (map : RoadMap K) : List LaneletId := map.lanelets.map Lanelet.id

lemma firstRepeated_eq_none {seen : List LaneletId} : ∀ {lanelets : List (Lanelet K)},
    firstRepeated seen lanelets = none ↔
      (lanelets.map Lanelet.id).Nodup ∧ ∀ l ∈ lanelets, l.id ∉ seen
  | [] => by simp [firstRepeated]
  | l :: rest => by
      rw [firstRepeated, List.map_cons, List.nodup_cons]
      split
      · next hmem => simp [hmem]
      · next hmem =>
        rw [firstRepeated_eq_none]
        simp only [List.mem_map, List.mem_cons, not_or, not_exists, not_and, forall_eq_or_imp]
        constructor
        · rintro ⟨hnodup, hseen⟩
          exact ⟨⟨fun l' hl' => (hseen l' hl').1, hnodup⟩, hmem, fun l' hl' => (hseen l' hl').2⟩
        · rintro ⟨⟨hne, hnodup⟩, -, hseen⟩
          exact ⟨hnodup, fun l' hl' => ⟨hne l' hl', hseen l' hl'⟩⟩

lemma pairwise_sorted {lanelets : List (Lanelet K)} (h : (lanelets.map Lanelet.id).Nodup) :
    ((Sorting.sort (fun a b => a.id.value ≤ b.id.value) lanelets).map Lanelet.id).Pairwise
      (·.value < ·.value) := by
  rw [List.pairwise_map]
  refine Sorting.pairwise_sort_of_nodup ?_
  have hvalues := h.map fun a b heq => congrArg LaneletId.mk heq
  rwa [List.map_map] at hvalues

lemma nodup_of_ascending {ids : List LaneletId} (h : ids.Pairwise (·.value < ·.value)) :
    ids.Nodup := by
  refine h.imp fun hlt heq => ?_
  exact absurd (heq ▸ hlt) (Int.lt_irrefl _)

lemma find_id {lanelets : List (Lanelet K)} {l : Lanelet K}
    (h : (lanelets.map Lanelet.id).Nodup) (hl : l ∈ lanelets) :
    (lanelets.find? fun l' => l'.id = l.id) = some l := by
  have hsome : (lanelets.find? fun l' => l'.id = l.id).isSome :=
    List.find?_isSome.mpr ⟨l, hl, by simp⟩
  obtain ⟨l', hfind⟩ := Option.isSome_iff_exists.mp hsome
  have hid : l'.id = l.id := by simpa using List.find?_some hfind
  rw [hfind, List.inj_on_of_nodup_map h (List.mem_of_find?_eq_some hfind) hl hid]

/-! ## Accepted maps -/

variable [Scalar K] {gauge : Gauge K} {lanelets : List (Lanelet K)}
  {areas : List (AreaId × Region K)} {map : RoadMap K}

omit [Scalar K] in
lemma mem_pairs {a b : Lanelet K} :
    (a, b) ∈ pairs lanelets ↔ a ∈ lanelets ∧ b ∈ lanelets ∧ a.id ≠ b.id := by
  simp [pairs]

omit [Scalar K] in
/-- What is noted for a pair of lanelets is how the second touches the first. -/
lemma contact_of_mapM {contacts : List ((LaneletId × LaneletId) × Option Contact)}
    (hnodup : (lanelets.map Lanelet.id).Nodup)
    (h : ((pairs lanelets).mapM fun (a, b) => return ((a.id, b.id), ← gauge.contact a b)) =
      .ok contacts) {a b : Lanelet K} (ha : a ∈ lanelets) (hb : b ∈ lanelets) (hne : a.id ≠ b.id) :
    gauge.contact a b = .ok (contacts.lookup (a.id, b.id)).join := by
  have hkeys : contacts.map Prod.fst = (pairs lanelets).map fun p => (p.1.id, p.2.id) := by
    refine Outcome.map_eq_of_mapM h fun p _ entry hentry => ?_
    obtain ⟨c, -, hc⟩ := Outcome.bind_eq_ok.mp hentry
    cases hc
    rfl
  cases hlookup : contacts.lookup (a.id, b.id) with
  | none =>
      -- the table has an entry for every pair, so this does not happen
      have hkey : (a.id, b.id) ∈ contacts.map Prod.fst := by
        rw [hkeys]
        exact List.mem_map.mpr ⟨(a, b), mem_pairs.mpr ⟨ha, hb, hne⟩, rfl⟩
      obtain ⟨entry, hentry, hfst⟩ := List.mem_map.mp hkey
      have hother := List.lookup_eq_none_iff.mp hlookup entry hentry
      simp [hfst] at hother
  | some c =>
      obtain ⟨before, after, rfl, -⟩ := List.lookup_eq_some_iff.mp hlookup
      obtain ⟨⟨a', b'⟩, hpair, hentry⟩ := Outcome.exists_mem_of_mapM h
        (List.mem_append_right before List.mem_cons_self)
      obtain ⟨ha', hb', -⟩ := mem_pairs.mp hpair
      obtain ⟨c', hcontact, hc⟩ := Outcome.bind_eq_ok.mp hentry
      simp only [Outcome.pure_eq_ok, Except.ok.injEq, Prod.mk.injEq] at hc
      obtain ⟨⟨hida, hidb⟩, rfl⟩ := hc
      -- names are different, so the entry was made for these very lanelets
      rw [← List.inj_on_of_nodup_map hnodup ha' ha hida,
        ← List.inj_on_of_nodup_map hnodup hb' hb hidb]
      exact hcontact

/-- **What relations are derived from**: how lanelets touch and whether they overlap. -/
lemma routes_eq_ok {g : Routing} (hnodup : (lanelets.map Lanelet.id).Nodup)
    (h : routes gauge lanelets = .ok g) : ∃ contact overlaps,
      g = Routing.derive (lanelets.map Lanelet.id) contact overlaps ∧
      ∀ a ∈ lanelets, ∀ b ∈ lanelets, a.id ≠ b.id →
        gauge.contact a b = .ok (contact a.id b.id) ∧
        overlaps a.id b.id = gauge.overlaps a b := by
  obtain ⟨contacts, hcontacts, h⟩ := Outcome.bind_eq_ok.mp h
  refine ⟨_, _, (Except.ok.inj h).symm, fun a ha b hb hne => ⟨?_, ?_⟩⟩
  · exact contact_of_mapM hnodup hcontacts ha hb hne
  · simp only [find_id hnodup ha, find_id hnodup hb]

/-- **What an accepted map consists of.** -/
lemma ofLaneletsBy_eq_ok (h : ofLaneletsBy gauge lanelets areas = .ok map) :
    (lanelets.map Lanelet.id).Nodup ∧
      map.lanelets = Sorting.sort (fun a b => a.id.value ≤ b.id.value) lanelets ∧
      map.lanelets.forM (checkReferences map.ids (areas.map Prod.fst)) = .ok () ∧
      map.areas = areas ∧
      routes gauge map.lanelets = .ok map.routing := by
  unfold ofLaneletsBy at h
  cases hrepeated : firstRepeated [] lanelets with
  | some id =>
      simp only [hrepeated] at h
      cases h
  | none =>
      simp only [hrepeated] at h
      obtain ⟨⟨⟩, hreferences, h⟩ := Outcome.bind_eq_ok.mp h
      obtain ⟨routing, hroutes, h⟩ := Outcome.bind_eq_ok.mp h
      cases h
      exact ⟨(firstRepeated_eq_none.mp hrepeated).1, rfl, hreferences, rfl, hroutes⟩

lemma ascending_of_ofLaneletsBy (h : ofLaneletsBy gauge lanelets areas = .ok map) :
    map.ids.Pairwise (·.value < ·.value) := by
  obtain ⟨hnodup, hlanelets, -⟩ := ofLaneletsBy_eq_ok h
  rw [ids, hlanelets]
  exact pairwise_sorted hnodup

/-- **A map that can be walked along**: its names are ascending, and its relations are those of
some tests between its lanelets. -/
structure Coherent (map : RoadMap K) : Prop where
  ascending : map.ids.Pairwise (·.value < ·.value)
  routing : ∃ contact overlaps, map.routing = Routing.derive map.ids contact overlaps

lemma coherent_of_ofLanelets (h : ofLaneletsBy gauge lanelets areas = .ok map) : map.Coherent := by
  have hascending := ascending_of_ofLaneletsBy h
  obtain ⟨-, -, -, -, hroutes⟩ := ofLaneletsBy_eq_ok h
  obtain ⟨contact, overlaps, hrouting, -⟩ := routes_eq_ok (nodup_of_ascending hascending) hroutes
  exact ⟨hascending, contact, overlaps, hrouting⟩

namespace Coherent

variable {id p : LaneletId} (h : map.Coherent)
include h

omit [Scalar K] in
lemma mem_ids_of_previous (hp : p ∈ map.routing.previous id) : p ∈ map.ids := by
  obtain ⟨contact, overlaps, hrouting⟩ := h.routing
  rw [hrouting] at hp
  exact ((Routing.mem_sources_derive h.ascending).mp hp).1

end Coherent

omit [Scalar K] in
lemma nodup_previous {id : LaneletId} : (map.routing.previous id).Nodup :=
  nodup_of_ascending Routing.pairwise_sources

omit [Scalar K] in
lemma exists_lanelet {id : LaneletId} (h : id ∈ map.ids) :
    ∃ l ∈ map.lanelets, l.id = id ∧ map.lanelet id = .ok l := by
  obtain ⟨l, hl, rfl⟩ := List.mem_map.mp h
  cases hfind : map.lanelet? l.id with
  | none =>
      have hne := List.find?_eq_none.mp hfind l hl
      simp at hne
  | some l' =>
      refine ⟨l', List.mem_of_find?_eq_some hfind, ?_, by rw [lanelet, hfind]; rfl⟩
      simpa using List.find?_some hfind

/-! ## Maps to try things on -/

/-- The map of some lanelets that may not exist; an empty one if they or the map are refused. -/
def ofTrial (lanelets : Outcome Rat (List (Lanelet Rat))) : RoadMap Rat :=
  (lanelets >>= fun ls => ofLanelets ls []).toOption.getD ⟨[], [], default⟩

lemma exists_ofTrial (trial : Outcome Rat (List (Lanelet Rat)))
    (h : (trial >>= fun ls => ofLanelets ls []).isOk = true) :
    ∃ lanelets, ofLanelets lanelets [] = .ok (ofTrial trial) := by
  obtain ⟨lanelets, -, hmap⟩ := Outcome.bind_eq_ok.mp (Outcome.eq_ok_getD h ⟨[], [], default⟩)
  exact ⟨lanelets, hmap⟩

/-! ### Straight lanelets

Every lanelet is given by its name and by the ends of its left and of its right boundary.
-/

/-- The lanelet between two straight boundaries. -/
def straight (id : Int) (left right : Point Rat × Point Rat) : Outcome Rat (Lanelet Rat) := do
  let left ← Polyline.ofPoints [left.1, left.2]
  let right ← Polyline.ofPoints [right.1, right.2]
  Lanelet.ofBounds ⟨id⟩ left right

/-- The map of some straight lanelets, or none if it is refused. -/
def ofStraight (lanes : List (Int × (Point Rat × Point Rat) × (Point Rat × Point Rat))) :
    Outcome Rat (RoadMap Rat) := do
  ofLanelets (← lanes.mapM fun (id, left, right) => straight id left right) []

lemma exists_ofLanelets {lanes : List (Int × (Point Rat × Point Rat) × (Point Rat × Point Rat))}
    {map : RoadMap Rat} (h : ofStraight lanes = .ok map) :
    ∃ lanelets areas, ofLanelets lanelets areas = .ok map := by
  obtain ⟨lanelets, -, h⟩ := Outcome.bind_eq_ok.mp h
  exact ⟨lanelets, [], h⟩

end Crossing.RoadMap
