import Crossing.Proofs.WaysInto

/-!
# The search for ways comes to its end

Lanelets may lead into each other in circles, and a way may have to be longer than all lanelets of
the map together.  Neither keeps the search for the ways into a lanelet going.

A turn of the search (`Search.Turn`) takes a sequence from the stack and finishes it or puts its
continuations in its place.  It may take any sequence, so what is said of turns holds for a search
that works off the stack from either end.  Two facts together make the search end: no sequence on
the stack has a lanelet twice, which bounds how long one can get, and as long as that is so, a turn
makes `pending` smaller.  That measure counts, for each sequence on the stack, the tree of all that
could ever come out of it, and the continuations that a turn puts on the stack are the branches of
the tree it takes away, without the root.
-/

namespace Crossing.RoadMap

variable {K : Type}

/-- Where a search for ways stands. -/
structure Search (K : Type) where
  /-- The sequences that may still have to be continued. -/
  stack : List (Trail K)
  /-- The ways finished so far. -/
  done : List (List LaneletId)

variable [Scalar K] {map : RoadMap K} {q : Quest K} {s s' last : Search K}

namespace Search

/-- Every search begins with the sequence of no lanelets. -/
def start : Search K := ⟨[⟨[], Distance.zero⟩], []⟩

/-- **One turn of a search**, at any sequence of the stack: the sequence is finished, or its
continuations take its place. -/
inductive Turn (map : RoadMap K) (q : Quest K) : Search K → Search K → Prop
  | finish (before : List (Trail K)) {t : Trail K} {after : List (Trail K)}
      {done : List (List LaneletId)} (h : map.extend q t = .ok none) :
      Turn map q ⟨before ++ t :: after, done⟩
        ⟨before ++ after, if t.lanelets.isEmpty then done else t.lanelets :: done⟩
  | replace (before : List (Trail K)) {t : Trail K} {longer after : List (Trail K)}
      {done : List (List LaneletId)} (h : map.extend q t = .ok (some longer)) :
      Turn map q ⟨before ++ t :: after, done⟩ ⟨before ++ (longer ++ after), done⟩

/-- A number of turns, one after the other. -/
inductive Turns (map : RoadMap K) (q : Quest K) : Nat → Search K → Search K → Prop
  | stop (s : Search K) : Turns map q 0 s s
  | turn {n : Nat} {s s' last : Search K} (first : Turn map q s s')
      (later : Turns map q n s' last) : Turns map q (n + 1) s last

/-- All sequences on the stack are trails. -/
def Sound (map : RoadMap K) (q : Quest K) (s : Search K) : Prop := ∀ t ∈ s.stack, t.Sound map q

/-! ## One turn -/

/-- Only a trail to which something is to be added is replaced. -/
lemma replaces_of_extend {t : Trail K} {longer : List (Trail K)} (ht : t.Sound map q)
    (h : map.extend q t = .ok (some longer)) : ¬ t.Final map q ∧ Replaces map q longer t := by
  by_cases hfinal : t.Final map q
  · rw [extend_of_final hfinal] at h
    cases h
  · rw [extend_of_not_final hfinal, Outcome.map_eq_ok] at h
    obtain ⟨longer', hlonger, heq⟩ := h
    cases heq
    exact ⟨hfinal, replaces_of_mapM ht hfinal hlonger⟩

/-- A turn leaves nothing but trails on the stack. -/
lemma Turn.sound (h : Turn map q s s') (hs : s.Sound map q) : s'.Sound map q := by
  intro t' ht'
  cases h with
  | finish before hextend =>
      rcases List.mem_append.mp ht' with hbefore | hafter
      · exact hs t' (List.mem_append_left _ hbefore)
      · exact hs t' (List.mem_append_right _ (List.mem_cons_of_mem _ hafter))
  | @replace before t longer after done hextend =>
      have ht : t.Sound map q := hs t (by simp)
      rcases List.mem_append.mp ht' with hbefore | hbehind
      · exact hs t' (List.mem_append_left _ hbefore)
      · rcases List.mem_append.mp hbehind with hlonger | hafter
        · exact (replaces_of_extend ht hextend).2.sound t' hlonger
        · exact hs t' (List.mem_append_right _ (List.mem_cons_of_mem _ hafter))

/-- **A turn makes less to do.** -/
lemma Turn.pending_lt (hmap : map.Coherent) (h : Turn map q s s') (hs : s.Sound map q) :
    pending map.lanelets.length s'.stack < pending map.lanelets.length s.stack := by
  cases h with
  | @finish before t after done hextend =>
      have hpos := treeSize_pos map.lanelets.length (map.lanelets.length - t.lanelets.length)
      simp only [pending_append, pending]
      omega
  | @replace before t longer after done hextend =>
      have ht : t.Sound map q := hs t (by simp)
      obtain ⟨hfinal, hreplaces⟩ := replaces_of_extend ht hextend
      have hless := pending_lt_of_replaces hmap ht hfinal hreplaces
      simp only [pending_append, pending]
      omega

/-! ## Many turns -/

lemma sound_of_start : (start : Search K).Sound map q := sound_start map q

lemma Turns.sound {n : Nat} (h : Turns map q n s last) (hs : s.Sound map q) :
    last.Sound map q := by
  induction h with
  | stop s => exact hs
  | turn first later ih => exact ih (first.sound hs)

/-- No more turns can be made than there was to do. -/
lemma Turns.add_pending_le (hmap : map.Coherent) {n : Nat} (h : Turns map q n s last)
    (hs : s.Sound map q) :
    n + pending map.lanelets.length last.stack ≤ pending map.lanelets.length s.stack := by
  induction h with
  | stop s => omega
  | turn first later ih =>
      have hless := first.pending_lt hmap hs
      have hle := ih (first.sound hs)
      omega

/-- The search makes the turn at the sequence on top of the stack, if there is one. -/
lemma exists_turn_explore {t : Trail K} {next : Option (List (Trail K))}
    (h : map.extend q t = .ok next) (fuel : Nat) (stack : List (Trail K))
    (done : List (List LaneletId)) :
    ∃ s', Turn map q ⟨t :: stack, done⟩ s' ∧
      map.explore q (fuel + 1) (t :: stack) done = map.explore q fuel s'.stack s'.done := by
  cases next with
  | none =>
      refine ⟨_, .finish [] h, ?_⟩
      rw [explore, h]
      rfl
  | some longer =>
      refine ⟨_, .replace [] h, ?_⟩
      rw [explore, h]
      rfl

/-- **What a search gives comes from turns**, made until the stack is empty or a sequence on it
cannot be continued. -/
lemma exists_turns (hmap : map.Coherent) (fuel : Nat) (s : Search K) (hs : s.Sound map q)
    (hfuel : pending map.lanelets.length s.stack ≤ fuel) :
    ∃ n last, Turns map q n s last ∧
      (last.stack = [] ∧ map.explore q fuel s.stack s.done = .ok last.done ∨
        ∃ t ∈ last.stack, ∃ f, map.extend q t = .error f ∧
          map.explore q fuel s.stack s.done = .error f) := by
  induction fuel generalizing s with
  | zero =>
      obtain ⟨stack, done⟩ := s
      cases stack with
      | nil => exact ⟨0, _, .stop _, Or.inl ⟨rfl, rfl⟩⟩
      | cons t stack =>
          have hpos := treeSize_pos map.lanelets.length (map.lanelets.length - t.lanelets.length)
          rw [pending] at hfuel
          omega
  | succ fuel ih =>
      obtain ⟨stack, done⟩ := s
      cases stack with
      | nil => exact ⟨0, _, .stop _, Or.inl ⟨rfl, rfl⟩⟩
      | cons t stack =>
          cases hextend : map.extend q t with
          | error f =>
              refine ⟨0, _, .stop _, Or.inr ⟨t, List.mem_cons_self, f, hextend, ?_⟩⟩
              rw [explore, hextend]
              rfl
          | ok next =>
              obtain ⟨s', first, hexplore⟩ := exists_turn_explore hextend fuel stack done
              have hless := first.pending_lt hmap hs
              obtain ⟨n, last, later, hlast⟩ := ih s' (first.sound hs) (by omega)
              rw [← hexplore] at hlast
              exact ⟨n + 1, last, .turn first later, hlast⟩

end Search

/-- **The search for the ways into a lanelet ends.**  In an accepted map, however its lanelets lead
into each other, and in whatever order the sequences are taken from the stack: no sequence on the
stack has a lanelet twice, so none has more lanelets than the map; every turn makes the measure
smaller; and so there are only so many turns.  The search itself makes turns until nothing is left
on its stack, unless a sequence cannot be continued because its length would not be finite. -/
theorem search_ends {lanelets : List (Lanelet K)} {areas : List (AreaId × Region K)}
    (h : ofLanelets lanelets areas = .ok map) (q : Quest K) :
    (∀ n s, Search.Turns map q n .start s →
      (∀ t ∈ s.stack, t.lanelets.Nodup ∧ t.lanelets.length ≤ map.lanelets.length) ∧
      (∀ s', Search.Turn map q s s' →
        pending map.lanelets.length s'.stack < pending map.lanelets.length s.stack) ∧
      n ≤ treeSize map.lanelets.length map.lanelets.length) ∧
    ∃ n last, Search.Turns map q n .start last ∧
      (last.stack = [] ∧
          map.waysInto q.goal q.length q.exclude = .ok (Sorting.sort notAfter last.done) ∨
        ∃ t ∈ last.stack, ∃ x, map.extend q t = .error (.broken (.notFinite .distance x)) ∧
          map.waysInto q.goal q.length q.exclude =
            .error (.broken (.notFinite .distance x))) := by
  have hmap := coherent_of_ofLanelets h
  constructor
  · intro n s hturns
    have hs := hturns.sound Search.sound_of_start
    refine ⟨fun t ht => ?_, fun s' hturn => hturn.pending_lt hmap hs, ?_⟩
    · have htrail := (hs t ht).isTrail
      exact ⟨htrail.nodup, htrail.length_le hmap⟩
    · have hle := hturns.add_pending_le hmap Search.sound_of_start
      simp only [Search.start, pending, List.length_nil, Nat.sub_zero, Nat.add_zero] at hle
      omega
  · obtain ⟨n, last, hturns, hlast⟩ :=
      Search.exists_turns hmap _ (.start : Search K) Search.sound_of_start le_rfl
    refine ⟨n, last, hturns, ?_⟩
    rcases hlast with ⟨hempty, hexplore⟩ | ⟨t, ht, f, hextend, hexplore⟩
    · exact Or.inl ⟨hempty, Outcome.bind_eq_ok.mpr ⟨last.done, hexplore, rfl⟩⟩
    · have herror : map.waysInto q.goal q.length q.exclude = .error f :=
        Outcome.bind_eq_error.mpr (Or.inl hexplore)
      obtain ⟨x, rfl⟩ := waysInto_eq_error hmap herror
      exact Or.inr ⟨t, ht, x, hextend, herror⟩

/-! ### A circle

Two lanelets that lead into each other, and one that leaves the first where the second goes on from
it.  Far more is looked for than the three are long.
-/

/-- Names, left boundaries and right boundaries. -/
def circleLanes : List (Int × List (Point Rat) × List (Point Rat)) :=
  [(1, [⟨0, 1⟩, ⟨10, 1⟩], [⟨0, -1⟩, ⟨10, -1⟩]),
    (2, [⟨10, 1⟩, ⟨10, 5⟩, ⟨0, 5⟩, ⟨0, 1⟩],
      [⟨10, -1⟩, ⟨12, -1⟩, ⟨12, 7⟩, ⟨-2, 7⟩, ⟨-2, -1⟩, ⟨0, -1⟩]),
    (3, [⟨10, 1⟩, ⟨20, 1⟩], [⟨10, -1⟩, ⟨20, -1⟩])]

def circleTrial : Outcome Rat (List (Lanelet Rat)) :=
  circleLanes.mapM fun (name, left, right) => do
    Lanelet.ofBounds ⟨name⟩ (← Polyline.ofPoints left) (← Polyline.ofPoints right)

def circle : RoadMap Rat := ofTrial circleTrial

/-- Around the circle, no search takes more than forty turns, and the one for a kilometre of ways
into the third lanelet finds the circle once. -/
theorem search_ends_circle :
    ⟨1⟩ ∈ circle.routing.previous ⟨2⟩ ∧ ⟨2⟩ ∈ circle.routing.previous ⟨1⟩ ∧
      (∀ n s, Search.Turns circle ⟨⟨3⟩, ⟨1000⟩, []⟩ n .start s → n ≤ 40) ∧
      ∃ n last, Search.Turns circle ⟨⟨3⟩, ⟨1000⟩, []⟩ n .start last ∧ last.stack = [] ∧
        Sorting.sort notAfter last.done = [[⟨1⟩, ⟨2⟩]] := by
  have hcircle : (circleTrial >>= fun ls => ofLanelets ls []).isOk = true ∧
      circle.lanelets.length = 3 ∧ ⟨1⟩ ∈ circle.routing.previous ⟨2⟩ ∧
      ⟨2⟩ ∈ circle.routing.previous ⟨1⟩ ∧
      circle.waysInto ⟨3⟩ ⟨1000⟩ [] = .ok [[⟨1⟩, ⟨2⟩]] := by decide +kernel
  obtain ⟨hok, hlength, hinto, hback, hways⟩ := hcircle
  obtain ⟨lanelets, hmap⟩ := exists_ofTrial circleTrial hok
  obtain ⟨hturns, n, last, hlast, hend⟩ := search_ends hmap ⟨⟨3⟩, ⟨1000⟩, []⟩
  refine ⟨hinto, hback, fun n s hs => ?_, n, last, hlast, ?_⟩
  · have hle := (hturns n s hs).2.2
    rwa [show (ofTrial circleTrial).lanelets.length = 3 from hlength] at hle
  · rcases hend with ⟨hempty, hsort⟩ | ⟨t, -, x, -, herror⟩
    · exact ⟨hempty, (Except.ok.inj (hways.symm.trans hsort)).symm⟩
    · cases hways.symm.trans herror

end Crossing.RoadMap
