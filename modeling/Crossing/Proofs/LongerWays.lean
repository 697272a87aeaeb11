import Crossing.Proofs.Surroundings

/-!
# Looking further back

The ways into a lanelet are cut where they are long enough, so another length gives other ways.
A way that is cut short is still the beginning of a longer one: as a trail it remains one when more
length is asked for (`IsTrail.of_longer`), and a search that ends has a way for every trail to begin
(`exists_way_of_trail`), however that way comes to its end.

**What is attended to can only grow with the length** that is looked back, then, for what lies on a
shorter way lies on a longer one as well (`LeadsInto.of_longer`).  Since the same lanelets are
watched for what may be hidden, what is attended to for that is attended to anyway, unless hidden
traffic is looked for further back.

Of the numbers it is used only that `≤` is transitive.
-/

namespace Crossing

namespace RoadMap

variable {K : Type} [Scalar K] {map : RoadMap K} {q : Quest K} {ids : List LaneletId}

/-! ## Every trail is the beginning of a way -/

lemma Replaces.exists_longer {t : Trail K} {longer : List (Trail K)} {p : LaneletId}
    (h : Replaces map q longer t) (hp : p ∈ map.continuations q t) :
    ∃ t' ∈ longer, t'.lanelets = t.lanelets ++ [p] := by
  rw [← List.mem_map, h.lanelets]
  exact List.mem_map_of_mem hp

/-- A search that ends gives a way that begins with the trail, if the trail goes on from one on
the stack or comes before one. -/
lemma exists_way_of_explore (hmap : map.Coherent) (hids : IsTrail map q ids) (hne : ids ≠ [])
    {fuel : Nat} {stack : List (Trail K)} {done ways : List (List LaneletId)}
    (hstack : ∀ t ∈ stack, t.Sound map q) (hfuel : pending map.lanelets.length stack ≤ fuel)
    (h : map.explore q fuel stack done = .ok ways)
    (hon : ∃ t ∈ stack, t.lanelets <+: ids ∨ ids <+: t.lanelets) :
    ∃ way, IsWay map q way ∧ ids <+: way := by
  refine explore_induction (q := q) hmap (P := fun stack _ result => (∃ ways, result = .ok ways) →
    (∃ t ∈ stack, t.lanelets <+: ids ∨ ids <+: t.lanelets) → ∃ way, IsWay map q way ∧ ids <+: way)
    ?_ ?_ ?_ ?_ fuel stack done hstack hfuel ⟨ways, h⟩ hon
  · rintro done - ⟨t, ht, -⟩
    cases ht
  · rintro t stack done result ht hfinal ih hresult ⟨t', ht', hon⟩
    rcases List.mem_cons.mp ht' with rfl | ht'
    · -- the trail is finished, so it is the way
      have hbegin : ids <+: t'.lanelets := by
        rcases hon with hon | hon
        · exact (ht.eq_of_final hfinal hon hids).symm ▸ List.prefix_refl _
        · exact hon
      have hnonempty : t'.lanelets ≠ [] := fun hnil => hne (List.prefix_nil.mp (hnil ▸ hbegin))
      exact ⟨t'.lanelets, ht.isWay_iff.mpr ⟨hnonempty, hfinal⟩, hbegin⟩
    · exact ih hresult ⟨t', ht', hon⟩
  · rintro t longer stack done result ht hfinal hreplaces ih hresult ⟨t', ht', hon⟩
    refine ih hresult ?_
    rcases List.mem_cons.mp ht' with rfl | ht'
    · -- the trail is replaced, by one that is further along with `ids` or further past it
      suffices h : ∃ p ∈ map.continuations q t',
          t'.lanelets ++ [p] <+: ids ∨ ids <+: t'.lanelets ++ [p] by
        obtain ⟨p, hp, hon⟩ := h
        obtain ⟨t'', ht'', heq⟩ := hreplaces.exists_longer hp
        exact ⟨t'', List.mem_append_left _ ht'', heq ▸ hon⟩
      obtain ⟨p, hp⟩ : ∃ p, p ∈ map.continuations q t' :=
        List.exists_mem_of_ne_nil _ fun hnone => hfinal (Or.inr hnone)
      rcases hon with ⟨rest, rfl⟩ | hon
      · cases rest with
        | nil => exact ⟨p, hp, Or.inr (by simp)⟩
        | cons p' rest =>
            have hlonger : t'.lanelets ++ [p'] <+: t'.lanelets ++ p' :: rest := ⟨rest, by simp⟩
            exact ⟨p', (ht.isTrail_concat_iff.mp (hids.of_prefix hlonger)).1, Or.inl hlonger⟩
      · exact ⟨p, hp, Or.inr (hon.trans (List.prefix_append _ _))⟩
    · exact ⟨t', List.mem_append_right _ ht', hon⟩
  · rintro t stack done f ids - - ⟨ways, ⟨⟩⟩

/-- **Every trail is the beginning of a way**, if the search for the ways ends. -/
lemma exists_way_of_trail (hmap : map.Coherent) {ways : List (List LaneletId)}
    (h : map.waysInto q.goal q.length q.exclude = .ok ways) (hids : IsTrail map q ids)
    (hne : ids ≠ []) : ∃ way, IsWay map q way ∧ ids <+: way := by
  obtain ⟨found, hexplore, -⟩ := Outcome.bind_eq_ok.mp h
  exact exists_way_of_explore hmap hids hne (sound_start map q) le_rfl hexplore
    ⟨_, List.mem_cons_self, Or.inl List.nil_prefix⟩

/-- If the search for the ways ends, every trail has a length. -/
lemma exists_extent_of_trail (hmap : map.Coherent) {ways : List (List LaneletId)}
    (h : map.waysInto q.goal q.length q.exclude = .ok ways) (hids : IsTrail map q ids) :
    ∃ d, map.extent ids = .ok d := by
  by_cases hne : ids = []
  · subst hne
    exact ⟨_, extent_nil map⟩
  · obtain ⟨way, hway, hbegin⟩ := exists_way_of_trail hmap h hids hne
    by_cases heq : ids = way
    · obtain ⟨d, hd, -⟩ := hway.complete
      exact ⟨d, heq ▸ hd⟩
    · obtain ⟨d, hd, -⟩ := hway.short ids hbegin heq
      exact ⟨d, hd⟩

/-! ## Two lengths -/

variable {goal id : LaneletId} {short long : Distance K} {exclude : List LaneletId}
  (htrans : ∀ x y z : K, x ≤ y → y ≤ z → x ≤ z) (hle : short ≤ long)
include htrans hle

/-- What is not long enough for a length is not long enough for a larger one. -/
lemma IsTrail.of_longer (h : IsTrail map ⟨goal, short, exclude⟩ ids) :
    IsTrail map ⟨goal, long, exclude⟩ ids where
  chain := h.chain
  nodup := h.nodup
  clear := h.clear
  short before hbegin hne := by
    obtain ⟨d, hd, hshort⟩ := h.short before hbegin hne
    exact ⟨d, hd, fun hlong => hshort (htrans _ _ _ hle hlong)⟩

/-- **A way is the beginning of one that is asked to be longer.** -/
lemma IsWay.exists_longer (hmap : map.Coherent) {longer : List (List LaneletId)}
    (hlonger : map.waysInto goal long exclude = .ok longer)
    (h : IsWay map ⟨goal, short, exclude⟩ ids) :
    ∃ way, IsWay map ⟨goal, long, exclude⟩ way ∧ ids <+: way :=
  exists_way_of_trail (q := ⟨goal, long, exclude⟩) hmap hlonger
    (h.toIsTrail.of_longer htrans hle) h.nonempty

lemma LeadsInto.of_longer (hmap : map.Coherent) {longer : List (List LaneletId)}
    (hlonger : map.waysInto goal long exclude = .ok longer)
    (h : map.LeadsInto ⟨goal, short, exclude⟩ id) :
    map.LeadsInto ⟨goal, long, exclude⟩ id := by
  obtain ⟨ids, hids, hid⟩ := h
  obtain ⟨way, hway, hbegin⟩ := hids.exists_longer htrans hle hmap hlonger
  exact ⟨way, hway, hbegin.subset hid⟩

/-- A search for less ends if that for more does: it meets no other lengths. -/
lemma exists_waysInto_of_longer (hmap : map.Coherent) {longer : List (List LaneletId)}
    (hlonger : map.waysInto goal long exclude = .ok longer) :
    ∃ shorter, map.waysInto goal short exclude = .ok shorter := by
  cases hshorter : map.waysInto goal short exclude with
  | ok shorter => exact ⟨shorter, rfl⟩
  | error f =>
      obtain ⟨ids, hids, herror⟩ :=
        exists_trail_of_error (q := ⟨goal, short, exclude⟩) hmap hshorter
      obtain ⟨d, hd⟩ := exists_extent_of_trail (q := ⟨goal, long, exclude⟩) hmap hlonger
        (hids.of_longer htrans hle)
      cases herror.symm.trans hd

lemma waysInto_of_longer (hmap : map.Coherent) {longer : List (List LaneletId)}
    (hlonger : map.waysInto goal long exclude = .ok longer) :
    ∃ shorter, map.waysInto goal short exclude = .ok shorter ∧
      ∀ way ∈ shorter, ∃ way' ∈ longer, way <+: way' := by
  obtain ⟨shorter, hshorter⟩ := exists_waysInto_of_longer htrans hle hmap hlonger
  refine ⟨shorter, hshorter, fun way hway => ?_⟩
  rw [(delivers_waysInto (q := ⟨goal, short, exclude⟩) hmap).of_eq_ok hshorter] at hway
  obtain ⟨way', hway', hbegin⟩ := hway.exists_longer htrans hle hmap hlonger
  exact ⟨way', ((delivers_waysInto (q := ⟨goal, long, exclude⟩) hmap).of_eq_ok hlonger way').mpr
    hway', hbegin⟩

end RoadMap

/-! ## Groups that look further back -/

variable {K : Type} [Scalar K] {map : RoadMap K} {short long : Distance K}
  {exclude watched : List LaneletId}

/-- A group is made of the ways into each of the watched lanelets. -/
lemma LaneGroup.exists_waysInto_of_withWays {length : Distance K} {g : LaneGroup K}
    (h : withWays map watched length exclude = .ok g) :
    ∀ d ∈ watched, ∃ ways, map.waysInto d length exclude = .ok ways := by
  intro d hd
  obtain ⟨before, after, hstep⟩ := Outcome.exists_step_of_foldlM h d hd
  obtain ⟨ways, hways, -⟩ := Outcome.bind_eq_ok.mp hstep
  exact ⟨ways, hways⟩

lemma LaneGroup.withWays_of_longer (htrans : ∀ x y z : K, x ≤ y → y ≤ z → x ≤ z)
    (hmap : map.Coherent) (hle : short ≤ long) {g' : LaneGroup K}
    (hg' : withWays map watched long exclude = .ok g') :
    (withWays map watched short exclude).Delivers fun g => g.ids ⊆ g'.ids := by
  refine (delivers_withWays hmap).imp fun g hg id hid => ?_
  rw [hg.mem_iff] at hid
  rw [((delivers_withWays hmap).of_eq_ok hg').mem_iff]
  refine hid.imp_right ?_
  rintro ⟨d, hd, hleads⟩
  obtain ⟨longer, hlonger⟩ := exists_waysInto_of_withWays hg' d hd
  exact ⟨d, hd, hleads.of_longer htrans hle hmap hlonger⟩

namespace Surroundings

/-- **Looking further back loses nothing.**  In an accepted map, take two lengths, the second not
smaller.  Every way into a lanelet that is cut at the first length is the beginning of one that is
cut at the second.  So some lanelets with everything that leads into them over the first length
are among those over the second.  Around an intersection, then, everything attended to remains so
when it is looked further back; and what is attended to for the sake of hidden traffic is attended
to anyway, as long as hidden traffic is not looked for further back. -/
theorem attended_mono {lanelets : List (Lanelet K)} {areas : List (AreaId × Region K)}
    (htrans : ∀ x y z : K, x ≤ y → y ≤ z → x ≤ z)
    (h : RoadMap.ofLanelets lanelets areas = .ok map) (hle : short ≤ long) :
    (∀ goal exclude longer, map.waysInto goal long exclude = .ok longer →
      ∃ shorter, map.waysInto goal short exclude = .ok shorter ∧
        ∀ way ∈ shorter, ∃ way' ∈ longer, way <+: way') ∧
    (∀ watched exclude g', LaneGroup.withWays map watched long exclude = .ok g' →
      (LaneGroup.withWays map watched short exclude).Delivers fun g => g.ids ⊆ g'.ids) ∧
    (∀ assigned onPath associated occlusionLength occlusionLength' wrongDirection u u',
      classify map assigned onPath associated short occlusionLength wrongDirection = .ok u →
      classify map assigned onPath associated long occlusionLength' wrongDirection = .ok u' →
        u.attention.ids ⊆ u'.attention.ids) ∧
    ∀ assigned onPath associated wrongDirection u,
      classify map assigned onPath associated long short wrongDirection = .ok u →
        u.occlusion.ids ⊆ u.attention.ids := by
  have hmap := RoadMap.coherent_of_ofLanelets h
  refine ⟨fun _ _ _ hlonger => RoadMap.waysInto_of_longer htrans hle hmap hlonger,
    fun _ _ _ hg' => LaneGroup.withWays_of_longer htrans hmap hle hg', ?_, ?_⟩
  · intro _ _ _ _ _ _ u u' hu hu'
    obtain ⟨l, hl, hattention, -, -⟩ := classify_eq_ok hu
    obtain ⟨l', hl', hattention', -, -⟩ := classify_eq_ok hu'
    cases hl.symm.trans hl'
    exact (LaneGroup.withWays_of_longer htrans hmap hle hattention').of_eq_ok hattention
  · intro _ _ _ _ u hu
    obtain ⟨l, -, hattention, hocclusion, -⟩ := classify_eq_ok hu
    exact (LaneGroup.withWays_of_longer htrans hmap hle hattention).of_eq_ok hocclusion

/-- The way into the last lanelet of a row that is cut after its first lanelet is the beginning of
the one that is not. -/
theorem attended_mono_row :
    RoadMap.row.waysInto ⟨3⟩ ⟨2⟩ [] = .ok [[⟨2⟩]] ∧
      RoadMap.row.waysInto ⟨3⟩ ⟨6⟩ [] = .ok [[⟨2⟩, ⟨1⟩]] ∧
      ∃ way' ∈ ([[⟨2⟩, ⟨1⟩]] : List (List LaneletId)), [⟨2⟩] <+: way' := by
  obtain ⟨lanelets, areas, hrow⟩ := RoadMap.exists_ofLanelets RoadMap.ofStraight_rowLanes
  have hlonger : RoadMap.row.waysInto ⟨3⟩ ⟨6⟩ [] = .ok [[⟨2⟩, ⟨1⟩]] := by decide +kernel
  have hshorter : RoadMap.row.waysInto ⟨3⟩ ⟨2⟩ [] = .ok [[⟨2⟩]] := by decide +kernel
  have hle : (⟨2⟩ : Distance Rat) ≤ ⟨6⟩ := by decide +kernel
  obtain ⟨shorter, heq, hbegin⟩ :=
    (attended_mono (fun _ _ _ => Rat.le_trans) hrow hle).1 ⟨3⟩ [] _ hlonger
  cases hshorter.symm.trans heq
  exact ⟨hshorter, hlonger, hbegin _ List.mem_cons_self⟩

end Surroundings

end Crossing
