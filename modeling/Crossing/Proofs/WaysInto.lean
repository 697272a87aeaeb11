import Mathlib.Data.List.Chain
import Mathlib.Data.List.Lex
import Mathlib.Data.List.Perm.Subperm
import Crossing.Proofs.Delivery
import Crossing.Proofs.RoadMap
import Crossing.Proofs.Rational
import Crossing.RoadMap.WaysInto

/-!
# All ways into a lanelet

`RoadMap.IsWay` says what a way into a lanelet is, without a search: each of its lanelets leads
into the one before it, none of them twice and none that is to be kept clear of; it is long enough
or nothing more leads into it; and it was not long enough before its last lanelet.
`waysInto_eq` says that the search gives exactly the ways, each once and in the order of
dictionaries.

**How the search is followed.**  The sequences on the stack are trails: they have everything that
ways have, but need not be complete (`IsTrail`).  A trail that is complete is the only way that
begins with it; the ways that begin with any other trail are those that begin with one of its
continuations.  So what is still to come out of a stack are the ways that begin with a sequence
on it, and no step changes that.  `explore_induction` is the induction along the search, done
once; what comes out (`mem_explore`), that nothing comes out twice (`nodup_explore`) and why there
may be no result (`explore_error`) are three uses of it.

**Why the search ends.**  A trail has no lanelet twice, so it is no longer than the map has
lanelets, and continuing one makes `pending` smaller (`pending_lt_of_extend`).
-/

namespace Crossing.RoadMap

variable {K : Type} [Scalar K]

/-! ## What a way is -/

/-- The length of some lanelets of a map, one added to the other. -/
def extent (map : RoadMap K) (ids : List LaneletId) : Outcome K (Distance K) := do
  Distance.sum ((← ids.mapM map.lanelet).map Lanelet.length)

/-- **A sequence that may become a way**: each lanelet leads into the one before it, and the first
into the goal; none stands twice and none is to be kept clear of; and nothing that it begins with
is long enough. -/
structure IsTrail (map : RoadMap K) (q : Quest K) (ids : List LaneletId) : Prop where
  chain : (q.goal :: ids).IsChain fun a b => b ∈ map.routing.previous a
  nodup : ids.Nodup
  clear : ∀ p ∈ ids, p ≠ q.goal ∧ p ∉ q.exclude
  short : ∀ before, before <+: ids → before ≠ ids →
    ∃ d, map.extent before = .ok d ∧ ¬ q.length ≤ d

/-- **A way into the goal**: a trail that is long enough, or that nothing more leads into that
could be added to it. -/
structure IsWay (map : RoadMap K) (q : Quest K) (ids : List LaneletId) : Prop
    extends IsTrail map q ids where
  nonempty : ids ≠ []
  complete : ∃ d, map.extent ids = .ok d ∧
    (q.length ≤ d ∨ ∀ p ∈ map.routing.previous (ids.getLast?.getD q.goal),
      p = q.goal ∨ p ∈ q.exclude ∨ p ∈ ids)

/-- A trail as the search has it on its stack, with its length. -/
structure Trail.Sound (map : RoadMap K) (q : Quest K) (t : Trail K) : Prop where
  isTrail : IsTrail map q t.lanelets
  covered : map.extent t.lanelets = .ok t.covered

/-! ## Lengths -/

@[simp] lemma extent_nil (map : RoadMap K) : map.extent [] = .ok Distance.zero := rfl

lemma extent_concat {map : RoadMap K} {ids : List LaneletId} {p : LaneletId} {d : Distance K}
    {l : Lanelet K} (hids : map.extent ids = .ok d) (hl : map.lanelet p = .ok l) :
    map.extent (ids ++ [p]) = d.add l.length := by
  obtain ⟨ls, hls, hsum⟩ := Outcome.bind_eq_ok.mp hids
  have hmap : (ids ++ [p]).mapM map.lanelet = .ok (ls ++ [l]) := by
    rw [Outcome.mapM_eq_ok] at hls ⊢
    exact List.rel_append hls (List.Forall₂.cons hl .nil)
  unfold extent
  rw [hmap]
  show Distance.sum ((ls ++ [l]).map Lanelet.length) = _
  rw [Distance.sum] at hsum ⊢
  rw [List.map_append, List.foldlM_append, hsum]
  show (d.add l.length >>= fun e => pure e) = _
  rw [bind_pure]

/-- A sum is missing only because a number on the way to it is not finite. -/
lemma sum_eq_error {ds : List (Distance K)} {d : Distance K} {f : Fault K}
    (h : ds.foldlM Distance.add d = .error f) :
    ∃ x, Scalar.isFinite x = false ∧ f = .broken (.notFinite .distance x) := by
  induction ds generalizing d with
  | nil => simp at h
  | cons e rest ih =>
      rw [List.foldlM_cons] at h
      rcases Outcome.bind_eq_error.mp h with h | ⟨d', -, h⟩
      · unfold Distance.add Distance.ofMetres at h
        split at h
        · cases h
        · next hfinite =>
          cases h
          exact ⟨_, by simpa using hfinite, rfl⟩
      · exact ih h

lemma extent_eq_error {map : RoadMap K} {ids : List LaneletId} (hids : ∀ p ∈ ids, p ∈ map.ids)
    {f : Fault K} (h : map.extent ids = .error f) :
    ∃ x, Scalar.isFinite x = false ∧ f = .broken (.notFinite .distance x) := by
  rcases Outcome.bind_eq_error.mp h with h | ⟨ls, -, h⟩
  · obtain ⟨p, hp, hlanelet⟩ := Outcome.mapM_eq_error h
    obtain ⟨l, -, -, hl⟩ := exists_lanelet (hids p hp)
    rw [hl] at hlanelet
    cases hlanelet
  · exact sum_eq_error h

/-! ## Trails, one lanelet after the other -/

variable {map : RoadMap K} {q : Quest K} {ids : List LaneletId} {p : LaneletId} {t : Trail K}

lemma isTrail_nil (map : RoadMap K) (q : Quest K) : IsTrail map q [] where
  chain := .singleton _
  nodup := .nil
  clear := by simp
  short := by
    intro before hbegin hne
    exact absurd (List.prefix_nil.mp hbegin) hne

/-- **A trail with one lanelet more.** -/
lemma isTrail_concat : IsTrail map q (ids ++ [p]) ↔
    IsTrail map q ids ∧
      (p ∈ map.routing.previous (ids.getLast?.getD q.goal) ∧
        p ≠ q.goal ∧ p ∉ q.exclude ∧ p ∉ ids) ∧
      ∃ d, map.extent ids = .ok d ∧ ¬ q.length ≤ d := by
  have hchain : (q.goal :: (ids ++ [p])).IsChain (fun a b => b ∈ map.routing.previous a) ↔
      (q.goal :: ids).IsChain (fun a b => b ∈ map.routing.previous a) ∧
        p ∈ map.routing.previous (ids.getLast?.getD q.goal) := by
    rw [← List.cons_append, List.isChain_append, List.getLast?_cons]
    simp
  constructor
  · rintro ⟨hc, hnodup, hclear, hshort⟩
    rw [hchain] at hc
    rw [List.nodup_append] at hnodup
    have hp := hclear p (by simp)
    refine ⟨⟨hc.1, hnodup.1, fun p' hp' => hclear p' (by simp [hp']), ?_⟩,
      ⟨hc.2, hp.1, hp.2, fun hmem => hnodup.2.2 p hmem p (by simp) rfl⟩,
      hshort ids (List.prefix_append _ _) (by simp)⟩
    intro before hbegin hne
    refine hshort before (hbegin.trans (List.prefix_append _ _)) fun heq => ?_
    have hle := hbegin.length_le
    rw [heq, List.length_append, List.length_singleton] at hle
    omega
  · rintro ⟨⟨hc, hnodup, hclear, hshort⟩, ⟨hprevious, hgoal, hexclude, hnew⟩, hlast⟩
    refine ⟨hchain.mpr ⟨hc, hprevious⟩, ?_, ?_, ?_⟩
    · rw [List.nodup_append]
      refine ⟨hnodup, List.nodup_singleton p, fun p' hp' p'' hp'' heq => hnew ?_⟩
      rw [List.mem_singleton] at hp''
      rwa [heq, hp''] at hp'
    · intro p' hp'
      rcases List.mem_append.mp hp' with hp' | hp'
      · exact hclear p' hp'
      · rw [List.mem_singleton] at hp'
        subst hp'
        exact ⟨hgoal, hexclude⟩
    · intro before hbegin hne
      rcases List.prefix_concat_iff.mp hbegin with heq | hbegin
      · exact absurd heq hne
      · by_cases heq : before = ids
        · subst heq
          exact hlast
        · exact hshort before hbegin heq

lemma IsTrail.of_prefix {before : List LaneletId} (h : IsTrail map q ids)
    (hbegin : before <+: ids) : IsTrail map q before := by
  obtain ⟨rest, rfl⟩ := hbegin
  induction rest using List.reverseRecOn with
  | nil => simpa using h
  | append_singleton rest p ih =>
      rw [← List.append_assoc, isTrail_concat] at h
      exact ih h.1

lemma IsTrail.mem_ids (h : IsTrail map q ids) (hmap : map.Coherent) : ∀ p ∈ ids, p ∈ map.ids := by
  induction ids using List.reverseRecOn with
  | nil => simp
  | append_singleton ids p ih =>
      obtain ⟨hbefore, ⟨hprevious, -⟩, -⟩ := isTrail_concat.mp h
      intro p' hp'
      rcases List.mem_append.mp hp' with hp' | hp'
      · exact ih hbefore p' hp'
      · rw [List.mem_singleton] at hp'
        subst hp'
        exact hmap.mem_ids_of_previous hprevious

/-! ## One step of the search -/

omit [Scalar K] in
lemma mem_continuations : p ∈ map.continuations q t ↔
    p ∈ map.routing.previous (t.lanelets.getLast?.getD q.goal) ∧
      p ≠ q.goal ∧ p ∉ q.exclude ∧ p ∉ t.lanelets := by
  simp [continuations, and_assoc]

lemma Trail.Sound.isTrail_concat_iff (ht : t.Sound map q) :
    IsTrail map q (t.lanelets ++ [p]) ↔
      p ∈ map.continuations q t ∧ ¬ q.length ≤ t.covered := by
  rw [isTrail_concat, mem_continuations, ht.covered]
  simp [ht.isTrail]

/-- Nothing is to be added to a trail. -/
def Trail.Final (map : RoadMap K) (q : Quest K) (t : Trail K) : Prop :=
  q.length ≤ t.covered ∨ map.continuations q t = []

/-- A trail to which nothing is to be added is a way, unless it has no lanelets. -/
lemma Trail.Sound.isWay_iff (ht : t.Sound map q) :
    IsWay map q t.lanelets ↔ t.lanelets ≠ [] ∧ t.Final map q := by
  have hcomplete : (∃ d, map.extent t.lanelets = .ok d ∧
      (q.length ≤ d ∨ ∀ p ∈ map.routing.previous (t.lanelets.getLast?.getD q.goal),
        p = q.goal ∨ p ∈ q.exclude ∨ p ∈ t.lanelets)) ↔ t.Final map q := by
    rw [ht.covered, Final, List.eq_nil_iff_forall_not_mem]
    simp only [Except.ok.injEq, exists_eq_left', mem_continuations]
    refine or_congr_right (forall_congr' fun p => ?_)
    tauto
  rw [← hcomplete]
  exact ⟨fun h => ⟨h.nonempty, h.complete⟩, fun h => ⟨ht.isTrail, h.1, h.2⟩⟩

/-- A trail to which nothing is to be added is all that begins with it. -/
lemma Trail.Sound.eq_of_final (ht : t.Sound map q) (hfinal : t.Final map q)
    (hbegin : t.lanelets <+: ids) (hids : IsTrail map q ids) : ids = t.lanelets := by
  obtain ⟨rest, rfl⟩ := hbegin
  cases rest with
  | nil => exact List.append_nil _
  | cons p rest =>
      have hlonger : IsTrail map q (t.lanelets ++ [p]) :=
        hids.of_prefix ⟨rest, by simp⟩
      obtain ⟨hp, hshort⟩ := ht.isTrail_concat_iff.mp hlonger
      rcases hfinal with hlong | hnone
      · exact absurd hlong hshort
      · rw [hnone] at hp
        cases hp

def Trail.longer (map : RoadMap K) (t : Trail K) (p : LaneletId) : Outcome K (Trail K) := do
  return ⟨t.lanelets ++ [p], ← t.covered.add (← map.lanelet p).length⟩

/-- **A step finishes a trail** to which nothing is to be added. -/
lemma extend_of_final (h : t.Final map q) : map.extend q t = .ok none := by
  unfold extend
  refine if_pos ?_
  simpa [Trail.Final] using h

/-- **A step replaces any other trail** by the trails that are longer by one of its
continuations. -/
lemma extend_of_not_final (h : ¬ t.Final map q) :
    map.extend q t = some <$> (map.continuations q t).mapM (t.longer map) := by
  unfold extend
  refine if_neg ?_
  simpa [Trail.Final] using h

lemma Trail.not_long_of_not_final (h : ¬ t.Final map q) : ¬ q.length ≤ t.covered :=
  fun hlong => h (Or.inl hlong)

/-- As long as something is to be added to a trail, every continuation makes a longer one. -/
lemma Trail.Sound.isTrail_longer (ht : t.Sound map q) (hfinal : ¬ t.Final map q)
    (hp : p ∈ map.continuations q t) : IsTrail map q (t.lanelets ++ [p]) :=
  ht.isTrail_concat_iff.mpr ⟨hp, not_long_of_not_final hfinal⟩

lemma Trail.Sound.of_longer (ht : t.Sound map q) (hfinal : ¬ t.Final map q)
    (hp : p ∈ map.continuations q t) {t' : Trail K} (h : t.longer map p = .ok t') :
    t'.lanelets = t.lanelets ++ [p] ∧ t'.Sound map q := by
  obtain ⟨l, hl, h⟩ := Outcome.bind_eq_ok.mp h
  obtain ⟨d, hd, h⟩ := Outcome.bind_eq_ok.mp h
  cases h
  exact ⟨rfl, ht.isTrail_longer hfinal hp, (extent_concat ht.covered hl).trans hd⟩

lemma Trail.Sound.extent_of_longer (hmap : map.Coherent) (ht : t.Sound map q)
    (hp : p ∈ map.continuations q t) {f : Fault K} (h : t.longer map p = .error f) :
    map.extent (t.lanelets ++ [p]) = .error f := by
  obtain ⟨l, -, -, hl⟩ := exists_lanelet (hmap.mem_ids_of_previous (mem_continuations.mp hp).1)
  rw [extent_concat ht.covered hl]
  rcases Outcome.bind_eq_error.mp h with h | ⟨l', hl', h⟩
  · rw [hl] at h
    cases h
  · cases hl.symm.trans hl'
    rcases Outcome.bind_eq_error.mp h with h | ⟨d, -, h⟩
    · exact h
    · cases h

/-! ## The induction along the search -/

/-- What a step puts in the place of a trail: a trail for each continuation. -/
structure Replaces (map : RoadMap K) (q : Quest K) (longer : List (Trail K)) (t : Trail K) :
    Prop where
  sound : ∀ t' ∈ longer, t'.Sound map q
  lanelets : longer.map Trail.lanelets = (map.continuations q t).map fun p => t.lanelets ++ [p]

lemma replaces_of_mapM (ht : t.Sound map q) (hfinal : ¬ t.Final map q)
    {longer : List (Trail K)} (h : (map.continuations q t).mapM (t.longer map) = .ok longer) :
    Replaces map q longer t := by
  constructor
  · intro t' ht'
    obtain ⟨p, hp, hlonger⟩ := Outcome.exists_mem_of_mapM h ht'
    exact (ht.of_longer hfinal hp hlonger).2
  · exact Outcome.map_eq_of_mapM h fun p hp t' hlonger => (ht.of_longer hfinal hp hlonger).1

lemma IsTrail.length_le (h : IsTrail map q ids) (hmap : map.Coherent) :
    ids.length ≤ map.lanelets.length := by
  have hle := (h.nodup.subperm (h.mem_ids hmap)).length_le
  rwa [RoadMap.ids, List.length_map] at hle

omit [Scalar K] in
lemma pending_append (n : Nat) (longer stack : List (Trail K)) :
    pending n (longer ++ stack) = pending n longer + pending n stack := by
  induction longer with
  | nil => simp [pending]
  | cons t longer ih =>
      rw [List.cons_append, pending, pending, ih]
      omega

omit [Scalar K] in
lemma pending_eq_mul {n length : Nat} {stack : List (Trail K)}
    (h : ∀ t ∈ stack, t.lanelets.length = length) :
    pending n stack = stack.length * treeSize n (n - length) := by
  induction stack with
  | nil => simp [pending]
  | cons t stack ih =>
      rw [pending, h t List.mem_cons_self, ih fun t' ht' => h t' (List.mem_cons_of_mem _ ht'),
        List.length_cons, Nat.succ_mul]
      omega

lemma treeSize_pos (width : Nat) : ∀ depth, 0 < treeSize width depth
  | 0 => Nat.one_pos
  | depth + 1 => by
      rw [treeSize]
      omega

/-- **A step makes less to do**: there are at most as many continuations as lanelets, and each is
longer by one. -/
lemma pending_lt_of_replaces (hmap : map.Coherent) (ht : t.Sound map q)
    (hfinal : ¬ t.Final map q) {longer : List (Trail K)} (h : Replaces map q longer t) :
    pending map.lanelets.length longer <
      treeSize map.lanelets.length (map.lanelets.length - t.lanelets.length) := by
  -- there is room for one lanelet more, because there is a continuation
  obtain ⟨p, hp⟩ : ∃ p, p ∈ map.continuations q t :=
    List.exists_mem_of_ne_nil _ fun hnone => hfinal (Or.inr hnone)
  have hroom := (ht.isTrail_longer hfinal hp).length_le hmap
  rw [List.length_append, List.length_singleton] at hroom
  obtain ⟨depth, hdepth⟩ : ∃ depth, map.lanelets.length - t.lanelets.length = depth + 1 :=
    ⟨map.lanelets.length - t.lanelets.length - 1, by omega⟩
  have hlength : longer.length ≤ map.lanelets.length := by
    have hnodup : (map.continuations q t).Nodup := nodup_previous.filter _
    have hle := (hnodup.subperm fun p hp =>
      hmap.mem_ids_of_previous (mem_continuations.mp hp).1).length_le
    have heq := congrArg List.length h.lanelets
    rw [List.length_map, List.length_map] at heq
    rwa [RoadMap.ids, List.length_map, ← heq] at hle
  have hlonger : ∀ t' ∈ longer, t'.lanelets.length = t.lanelets.length + 1 := by
    intro t' ht'
    have hmem := List.mem_map_of_mem (f := Trail.lanelets) ht'
    rw [h.lanelets] at hmem
    obtain ⟨p', -, hp'⟩ := List.mem_map.mp hmem
    rw [← hp', List.length_append, List.length_singleton]
  have hless : map.lanelets.length - (t.lanelets.length + 1) = depth := by omega
  rw [pending_eq_mul hlonger, hless, hdepth, treeSize]
  have hmul := Nat.mul_le_mul_right (treeSize map.lanelets.length depth) hlength
  omega

/-- **The induction along the search.**  What holds of an empty stack, and of a stack when it
holds of the stack after one step, holds of every stack of trails and of what the search gives
for it. -/
theorem explore_induction (hmap : map.Coherent)
    {P : List (Trail K) → List (List LaneletId) → Outcome K (List (List LaneletId)) → Prop}
    (empty : ∀ done, P [] done (.ok done))
    (finish : ∀ t stack done result, t.Sound map q → t.Final map q →
      P stack (if t.lanelets.isEmpty then done else t.lanelets :: done) result →
        P (t :: stack) done result)
    (replace : ∀ t longer stack done result, t.Sound map q → ¬ t.Final map q →
      Replaces map q longer t → P (longer ++ stack) done result → P (t :: stack) done result)
    (fail : ∀ t stack done f ids, IsTrail map q ids → map.extent ids = .error f →
      P (t :: stack) done (.error f)) :
    ∀ fuel stack done, (∀ t ∈ stack, t.Sound map q) →
      pending map.lanelets.length stack ≤ fuel → P stack done (map.explore q fuel stack done) := by
  intro fuel
  induction fuel with
  | zero =>
      intro stack done hstack hfuel
      cases stack with
      | nil => exact empty done
      | cons t stack =>
          have hpos := treeSize_pos map.lanelets.length (map.lanelets.length - t.lanelets.length)
          rw [pending] at hfuel
          omega
  | succ fuel ih =>
      intro stack done hstack hfuel
      cases stack with
      | nil => exact empty done
      | cons t stack =>
          have ht := hstack t List.mem_cons_self
          have hrest : ∀ t' ∈ stack, t'.Sound map q :=
            fun t' ht' => hstack t' (List.mem_cons_of_mem _ ht')
          have hpos := treeSize_pos map.lanelets.length (map.lanelets.length - t.lanelets.length)
          rw [pending] at hfuel
          by_cases hfinal : t.Final map q
          · rw [explore, extend_of_final hfinal]
            exact finish t stack done _ ht hfinal (ih stack _ hrest (by omega))
          · rw [explore, extend_of_not_final hfinal]
            cases hnext : (map.continuations q t).mapM (t.longer map) with
            | error f =>
                obtain ⟨p, hp, herror⟩ := Outcome.mapM_eq_error hnext
                exact fail t stack done f _ (ht.isTrail_longer hfinal hp)
                  (ht.extent_of_longer hmap hp herror)
            | ok longer =>
                have hreplaces := replaces_of_mapM ht hfinal hnext
                have hless := pending_lt_of_replaces hmap ht hfinal hreplaces
                refine replace t longer stack done _ ht hfinal hreplaces
                  (ih (longer ++ stack) done ?_ ?_)
                · intro t' ht'
                  rcases List.mem_append.mp ht' with ht' | ht'
                  · exact hreplaces.sound t' ht'
                  · exact hrest t' ht'
                · rw [pending_append]
                  omega

/-! ## What comes out -/

/-- Ways that begin with a trail to which something is to be added begin with what replaces it. -/
lemma Replaces.exists_prefix_iff {longer : List (Trail K)} (h : Replaces map q longer t)
    (ht : t.Sound map q) (hfinal : ¬ t.Final map q) (hids : IsWay map q ids) :
    (∃ t' ∈ longer, t'.lanelets <+: ids) ↔ t.lanelets <+: ids := by
  have hlanelets : (∃ t' ∈ longer, t'.lanelets <+: ids) ↔
      ∃ p ∈ map.continuations q t, t.lanelets ++ [p] <+: ids := by
    have hmap : (∃ before ∈ longer.map Trail.lanelets, before <+: ids) ↔
        ∃ before ∈ (map.continuations q t).map fun p => t.lanelets ++ [p], before <+: ids := by
      rw [h.lanelets]
    simpa using hmap
  rw [hlanelets]
  constructor
  · rintro ⟨p, -, hbegin⟩
    exact (List.prefix_append _ _).trans hbegin
  · intro hbegin
    obtain ⟨rest, rfl⟩ := id hbegin
    cases rest with
    | nil =>
        rw [List.append_nil] at hids
        exact absurd (ht.isWay_iff.mp hids).2 hfinal
    | cons p rest =>
        have hlonger : t.lanelets ++ [p] <+: t.lanelets ++ p :: rest := ⟨rest, by simp⟩
        exact ⟨p, (ht.isTrail_concat_iff.mp (hids.toIsTrail.of_prefix hlonger)).1, hlonger⟩

/-- **What a search gives** are the ways that begin with a trail of the stack, beside what was
done before. -/
lemma mem_explore (ids : List LaneletId) (hmap : map.Coherent) {fuel : Nat} {stack : List (Trail K)}
    {done ways : List (List LaneletId)} (hstack : ∀ t ∈ stack, t.Sound map q)
    (hfuel : pending map.lanelets.length stack ≤ fuel)
    (h : map.explore q fuel stack done = .ok ways) :
    ids ∈ ways ↔ ids ∈ done ∨ IsWay map q ids ∧ ∃ t ∈ stack, t.lanelets <+: ids := by
  refine explore_induction (q := q) hmap (P := fun stack done result => ∀ ways, result = .ok ways →
    (ids ∈ ways ↔ ids ∈ done ∨ IsWay map q ids ∧ ∃ t ∈ stack, t.lanelets <+: ids))
    ?_ ?_ ?_ ?_ fuel stack done hstack hfuel ways h
  · rintro done ways ⟨⟩
    simp
  · intro t stack done result ht hfinal ih ways hways
    have hdone : ids ∈ (if t.lanelets.isEmpty then done else t.lanelets :: done) ↔
        ids ∈ done ∨ IsWay map q ids ∧ t.lanelets <+: ids := by
      have hway : IsWay map q ids ∧ t.lanelets <+: ids ↔ t.lanelets ≠ [] ∧ ids = t.lanelets := by
        constructor
        · rintro ⟨hids, hbegin⟩
          cases ht.eq_of_final hfinal hbegin hids.toIsTrail
          exact ⟨hids.nonempty, rfl⟩
        · rintro ⟨hne, rfl⟩
          exact ⟨ht.isWay_iff.mpr ⟨hne, hfinal⟩, List.prefix_refl _⟩
      rw [hway]
      by_cases hempty : t.lanelets = []
      · simp [hempty]
      · simp [hempty, or_comm]
    rw [ih ways hways, hdone]
    simp only [List.mem_cons, exists_eq_or_imp]
    tauto
  · intro t longer stack done result ht hfinal hreplaces ih ways hways
    rw [ih ways hways]
    refine or_congr_right (and_congr_right fun hids => ?_)
    simp only [List.mem_cons, List.mem_append, or_and_right, exists_or, exists_eq_left]
    rw [hreplaces.exists_prefix_iff ht hfinal hids]
  · rintro t stack done f ids - - ways ⟨⟩

/-- Neither of two sequences begins with the other. -/
def Diverge (as bs : List LaneletId) : Prop := ¬ as <+: bs ∧ ¬ bs <+: as

lemma diverge_concat {as bs : List LaneletId} (h : Diverge as bs) : Diverge (as ++ [p]) bs := by
  constructor
  · exact fun hbegin => h.1 ((List.prefix_append _ _).trans hbegin)
  · intro hbegin
    rcases List.prefix_concat_iff.mp hbegin with rfl | hbegin
    · exact h.1 (List.prefix_append _ _)
    · exact h.2 hbegin

/-- Nothing comes out twice, because the sequences on the stack diverge from each other and what
is done begins with none of them. -/
lemma nodup_explore (hmap : map.Coherent) {fuel : Nat} {stack : List (Trail K)}
    {done ways : List (List LaneletId)} (hstack : ∀ t ∈ stack, t.Sound map q)
    (hfuel : pending map.lanelets.length stack ≤ fuel)
    (hdone : done.Nodup) (hold : ∀ ids ∈ done, ∀ t ∈ stack, ¬ t.lanelets <+: ids)
    (hdiverge : (stack.map Trail.lanelets).Pairwise Diverge)
    (h : map.explore q fuel stack done = .ok ways) : ways.Nodup := by
  refine explore_induction (q := q) hmap (P := fun stack done result => done.Nodup →
    (∀ ids ∈ done, ∀ t ∈ stack, ¬ t.lanelets <+: ids) →
    (stack.map Trail.lanelets).Pairwise Diverge → ∀ ways, result = .ok ways → ways.Nodup)
    ?_ ?_ ?_ ?_ fuel stack done hstack hfuel hdone hold hdiverge ways h
  · rintro done hdone - - ways ⟨⟩
    exact hdone
  · intro t stack done result ht hfinal ih hdone hold hdiverge
    rw [List.map_cons, List.pairwise_cons] at hdiverge
    have hrest : ∀ ids ∈ done, ∀ t' ∈ stack, ¬ t'.lanelets <+: ids :=
      fun ids hids t' ht' => hold ids hids t' (List.mem_cons_of_mem _ ht')
    refine ih ?_ ?_ hdiverge.2
    · split
      · exact hdone
      · refine List.nodup_cons.mpr ⟨fun hmem => ?_, hdone⟩
        exact hold _ hmem t List.mem_cons_self (List.prefix_refl _)
    · split
      · exact hrest
      · intro ids hids t' ht'
        rcases List.mem_cons.mp hids with rfl | hids
        · exact (hdiverge.1 _ (List.mem_map_of_mem ht')).2
        · exact hrest ids hids t' ht'
  · intro t longer stack done result ht hfinal hreplaces ih hdone hold hdiverge
    rw [List.map_cons, List.pairwise_cons] at hdiverge
    -- every sequence in the place of `t` is `t` with one lanelet more
    have hlonger : ∀ before ∈ longer.map Trail.lanelets, ∃ p, before = t.lanelets ++ [p] := by
      intro before hbefore
      rw [hreplaces.lanelets] at hbefore
      obtain ⟨p, -, rfl⟩ := List.mem_map.mp hbefore
      exact ⟨p, rfl⟩
    refine ih hdone ?_ ?_
    · intro ids hids t' ht' hbegin
      rcases List.mem_append.mp ht' with ht' | ht'
      · obtain ⟨p, hp⟩ := hlonger _ (List.mem_map_of_mem ht')
        rw [hp] at hbegin
        exact hold ids hids t List.mem_cons_self ((List.prefix_append _ _).trans hbegin)
      · exact hold ids hids t' (List.mem_cons_of_mem _ ht') hbegin
    · rw [List.map_append, List.pairwise_append]
      refine ⟨?_, hdiverge.2, fun before hbefore other hother => ?_⟩
      · rw [hreplaces.lanelets, List.pairwise_map]
        refine (nodup_previous.filter _).imp fun hne => ?_
        simp [Diverge, hne, hne.symm]
      · obtain ⟨p, rfl⟩ := hlonger before hbefore
        exact diverge_concat (hdiverge.1 other hother)
  · rintro t stack done f ids - - - - - ways ⟨⟩

lemma explore_error (hmap : map.Coherent) {fuel : Nat} {stack : List (Trail K)}
    {done : List (List LaneletId)} (hstack : ∀ t ∈ stack, t.Sound map q)
    (hfuel : pending map.lanelets.length stack ≤ fuel) {f : Fault K}
    (h : map.explore q fuel stack done = .error f) :
    ∃ ids, IsTrail map q ids ∧ map.extent ids = .error f := by
  refine explore_induction (q := q) hmap (P := fun _ _ result => ∀ f, result = .error f →
    ∃ ids, IsTrail map q ids ∧ map.extent ids = .error f)
    ?_ ?_ ?_ ?_ fuel stack done hstack hfuel f h
  · rintro done f ⟨⟩
  · intro t stack done result ht hfinal ih
    exact ih
  · intro t longer stack done result ht hfinal hreplaces ih
    exact ih
  · rintro t stack done f ids hids herror f' ⟨⟩
    exact ⟨ids, hids, herror⟩

/-! ## In the order of dictionaries -/

lemma notAfter_iff : ∀ {as bs : List LaneletId},
    notAfter as bs = true ↔ ¬ bs.map LaneletId.value < as.map LaneletId.value
  | [], bs => by simp [notAfter]
  | a :: as, [] => by simp [notAfter]
  | a :: as, b :: bs => by
      rw [notAfter, List.map_cons, List.map_cons, List.cons_lt_cons_iff]
      simp only [Bool.or_eq_true, Bool.and_eq_true, decide_eq_true_eq, @notAfter_iff as bs,
        not_or, not_and, not_lt]
      constructor
      · rintro (hlt | ⟨heq, hle⟩)
        · exact ⟨hlt.le, fun heq => absurd heq hlt.ne'⟩
        · exact ⟨heq.le, fun _ => hle⟩
      · rintro ⟨hle, htail⟩
        rcases hle.lt_or_eq with hlt | heq
        · exact Or.inl hlt
        · exact Or.inr ⟨heq, htail heq.symm⟩

lemma pairwise_sort_notAfter {ways : List (List LaneletId)} (h : ways.Nodup) :
    (Sorting.sort notAfter ways).Pairwise fun as bs =>
      as.map LaneletId.value < bs.map LaneletId.value := by
  have hle := Sorting.pairwise_sort notAfter
    (fun as bs => by
      rw [notAfter_iff, notAfter_iff, not_lt, not_lt]
      exact le_total _ _)
    (fun as bs cs => by
      rw [notAfter_iff, notAfter_iff, notAfter_iff, not_lt, not_lt, not_lt]
      exact le_trans) ways
  have hinjective : Function.Injective LaneletId.value := fun a b h => congrArg LaneletId.mk h
  refine hle.imp₂ (fun as bs hle hne => ?_) ((Sorting.sort_perm notAfter ways).nodup_iff.mpr h)
  rw [notAfter_iff, not_lt] at hle
  exact lt_of_le_of_ne hle fun heq => hne (List.map_injective_iff.mpr hinjective heq)

/-- A search begins with the trail of no lanelets. -/
lemma sound_start (map : RoadMap K) (q : Quest K) :
    ∀ t ∈ [(⟨[], Distance.zero⟩ : Trail K)], t.Sound map q := by
  intro t ht
  cases List.mem_singleton.mp ht
  exact ⟨isTrail_nil map _, extent_nil map⟩

/-- A search fails only because some trail has no length. -/
lemma exists_trail_of_error (hmap : map.Coherent) {f : Fault K}
    (h : map.waysInto q.goal q.length q.exclude = .error f) :
    ∃ ids, IsTrail map q ids ∧ map.extent ids = .error f := by
  rcases Outcome.bind_eq_error.mp h with hexplore | ⟨found, -, hsort⟩
  · exact explore_error hmap (sound_start map q) le_rfl hexplore
  · cases hsort

/-- Only a length that is not a finite number keeps a search from ending. -/
lemma waysInto_eq_error (hmap : map.Coherent) {f : Fault K}
    (h : map.waysInto q.goal q.length q.exclude = .error f) :
    ∃ x, f = .broken (.notFinite .distance x) := by
  obtain ⟨ids, hids, herror⟩ := exists_trail_of_error hmap h
  obtain ⟨x, -, rfl⟩ := extent_eq_error (hids.mem_ids hmap) herror
  exact ⟨x, rfl⟩

/-- What is found to lead into a lanelet are the ways into it; a search is never refused. -/
lemma delivers_waysInto (hmap : map.Coherent) :
    (map.waysInto q.goal q.length q.exclude).Delivers fun ways =>
      ∀ ids, ids ∈ ways ↔ IsWay map q ids := by
  cases hways : map.waysInto q.goal q.length q.exclude with
  | ok ways =>
      obtain ⟨found, hexplore, hsort⟩ := Outcome.bind_eq_ok.mp hways
      cases hsort
      refine .ok fun ids => ?_
      rw [Sorting.mem_sort, mem_explore ids hmap (sound_start map q) le_rfl hexplore]
      simp
  | error f =>
      obtain ⟨x, rfl⟩ := waysInto_eq_error hmap hways
      exact .breach

/-- **All ways into a lanelet.**  In an accepted map, the search for the ways into a lanelet gives
exactly the ways, each once and in the order of dictionaries.  Only one thing can keep it from
that: a trail whose length, summed up, is not a finite number. -/
theorem waysInto_eq {lanelets : List (Lanelet K)} {areas : List (AreaId × Region K)}
    (h : ofLanelets lanelets areas = .ok map) (goal : LaneletId) (length : Distance K)
    (exclude : List LaneletId) :
    (∃ ways, map.waysInto goal length exclude = .ok ways ∧
        (ways.Pairwise fun as bs => as.map LaneletId.value < bs.map LaneletId.value) ∧
        ∀ ids, ids ∈ ways ↔ IsWay map ⟨goal, length, exclude⟩ ids) ∨
      ∃ ids x, IsTrail map ⟨goal, length, exclude⟩ ids ∧ Scalar.isFinite x = false ∧
        map.extent ids = .error (.broken (.notFinite .distance x)) ∧
        map.waysInto goal length exclude = .error (.broken (.notFinite .distance x)) := by
  have hmap := coherent_of_ofLanelets h
  let stack : List (Trail K) := [⟨[], Distance.zero⟩]
  have hstack : ∀ t ∈ stack, t.Sound map ⟨goal, length, exclude⟩ := by
    intro t ht
    rw [List.mem_singleton] at ht
    subst ht
    exact ⟨isTrail_nil map _, extent_nil map⟩
  cases hexplore : map.explore ⟨goal, length, exclude⟩ (pending map.lanelets.length stack)
      stack [] with
  | ok ways =>
      left
      have hmem ids := mem_explore ids hmap hstack le_rfl hexplore
      have hnodup := nodup_explore hmap hstack le_rfl .nil (by simp) (by simp [stack]) hexplore
      refine ⟨Sorting.sort notAfter ways, Outcome.bind_eq_ok.mpr ⟨ways, hexplore, rfl⟩,
        pairwise_sort_notAfter hnodup, fun ids => ?_⟩
      rw [Sorting.mem_sort, hmem]
      simp [stack]
  | error f =>
      right
      obtain ⟨ids, hids, herror⟩ := explore_error hmap hstack le_rfl hexplore
      obtain ⟨x, hx, rfl⟩ := extent_eq_error (hids.mem_ids hmap) herror
      exact ⟨ids, x, hids, hx, herror, Outcome.bind_eq_error.mpr (Or.inl hexplore)⟩

/-! ## The ways along a row

Three lanelets of four metres, one behind the other, of which six metres are looked for.
-/

def rowLanes : List (Int × (Point Rat × Point Rat) × (Point Rat × Point Rat)) :=
  [(1, (⟨0, 1⟩, ⟨4, 1⟩), (⟨0, -1⟩, ⟨4, -1⟩)),
    (2, (⟨4, 1⟩, ⟨8, 1⟩), (⟨4, -1⟩, ⟨8, -1⟩)),
    (3, (⟨8, 1⟩, ⟨12, 1⟩), (⟨8, -1⟩, ⟨12, -1⟩))]

def row : RoadMap Rat := (ofStraight rowLanes).toOption.getD ⟨[], [], default⟩

lemma ofStraight_rowLanes : ofStraight rowLanes = .ok row :=
  Outcome.eq_ok_getD (by decide +kernel) _

/-- The only way into the last lanelet of the row is the one over the other two. -/
theorem waysInto_eq_row :
    row.waysInto ⟨3⟩ ⟨6⟩ [] = .ok [[⟨2⟩, ⟨1⟩]] ∧
      ∀ ids, IsWay row ⟨⟨3⟩, ⟨6⟩, []⟩ ids ↔ ids = [⟨2⟩, ⟨1⟩] := by
  have hways : row.waysInto ⟨3⟩ ⟨6⟩ [] = .ok [[⟨2⟩, ⟨1⟩]] := by decide +kernel
  obtain ⟨lanelets, areas, hrow⟩ := exists_ofLanelets ofStraight_rowLanes
  rcases waysInto_eq hrow ⟨3⟩ ⟨6⟩ [] with ⟨ways, heq, -, hmem⟩ | ⟨ids, x, -, -, -, herror⟩
  · cases hways.symm.trans heq
    exact ⟨hways, fun ids => by rw [← hmem, List.mem_singleton]⟩
  · rw [hways] at herror
    cases herror

end Crossing.RoadMap
