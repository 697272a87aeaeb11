import Mathlib.Data.List.Pairwise
import Crossing.Proofs.Sorting
import Crossing.Routing

/-!
# The relations between lanelets, one pair at a time

A routing is seen through `Routing.relation?`: what one lanelet is to another.  Relatives are those
with the relation asked for, in ascending order and none twice, whatever routing is asked
(`mem_targets`, `pairwise_targets`).  Here is what `Routing.derive` leaves behind for one pair.

**What a loop writes.**  A step of the first pass writes to its own pair and perhaps to the reverse
of it (`written`).  What stands for a pair after the pass is what was written to it last
(`relation?_foldl_touch`), and of the two steps that can have written there the order of names says
which came last: that is `linked`.

**What a loop only adds.**  A step of the second pass changes a pair only if nothing stands for it
in either direction, so it never takes back a relation, and a pair that it puts in conflict stays so
(`relation?_foldl_cross`).

Together they say what two lanelets are to each other in terms of the two tests alone: `relate`.
-/

namespace Crossing

/-- The relation that a contact gives to the pair in its own order. -/
def Contact.own : Contact → Relation
  | .follows => .successor
  | .beside => .left

/-- The relation that a contact gives to the pair in the other order. -/
def Contact.reverse : Contact → Option Relation
  | .follows => none
  | .beside => some .right

namespace Routing

variable {ids : List LaneletId} {contact : LaneletId → LaneletId → Option Contact}
  {overlaps : LaneletId → LaneletId → Bool} {g : Routing} {a b c d id : LaneletId} {r : Relation}

/-! ## What stands for a pair -/

/-- Two links of a routing that join the same pair are the same. -/
lemma eq_of_joins {l m : Link} (hl : l ∈ g.links) (hm : m ∈ g.links)
    (hlm : l.source = m.source ∧ l.target = m.target) : l = m := by
  by_contra hne
  have _ : Std.Symm fun l m : Link => ¬ (l.source = m.source ∧ l.target = m.target) :=
    ⟨fun l m h heq => h ⟨heq.1.symm, heq.2.symm⟩⟩
  exact g.single.forall hl hm hne hlm

lemma relation?_eq_some : g.relation? a b = some r ↔ ⟨a, b, r⟩ ∈ g.links := by
  rw [relation?, Option.map_eq_some_iff]
  constructor
  · rintro ⟨⟨a', b', r'⟩, hfind, rfl⟩
    have hjoins : (Link.mk a' b' r').joins a b = true := by simpa using List.find?_some hfind
    obtain ⟨rfl, rfl⟩ := Link.joins_iff.mp hjoins
    exact List.mem_of_find?_eq_some hfind
  · intro hmem
    have hsome : (g.links.find? (·.joins a b)).isSome :=
      List.find?_isSome.mpr ⟨_, hmem, Link.joins_iff.mpr ⟨rfl, rfl⟩⟩
    obtain ⟨m, hfind⟩ := Option.isSome_iff_exists.mp hsome
    have hjoins : m.joins a b = true := by simpa using List.find?_some hfind
    refine ⟨m, hfind, ?_⟩
    rw [eq_of_joins (List.mem_of_find?_eq_some hfind) hmem (Link.joins_iff.mp hjoins)]

@[simp] lemma relation?_empty : empty.relation? a b = none := rfl

/-- Writing a relation down sets the one pair and leaves all others alone. -/
lemma relation?_link : (g.link a b r).relation? c d =
    if a = c ∧ b = d then some r else g.relation? c d := by
  ext s
  rw [relation?_eq_some, link, List.mem_cons, List.mem_filter, Link.mk.injEq, ← relation?_eq_some,
    Bool.not_eq_true', Bool.eq_false_iff, ne_eq, Link.joins_iff]
  split
  · next h =>
    obtain ⟨rfl, rfl⟩ := h
    simp [eq_comm]
  · next h =>
    have hcd : ¬ (c = a ∧ d = b) := fun heq => h ⟨heq.1.symm, heq.2.symm⟩
    constructor
    · rintro (⟨rfl, rfl, -⟩ | ⟨hs, -⟩)
      · exact absurd ⟨rfl, rfl⟩ h
      · exact hs
    · exact fun hs => Or.inr ⟨hs, hcd⟩

/-! ## Relatives -/

lemma mem_targets : b ∈ g.targets a r ↔ g.relation? a b = some r := by
  simp only [targets, ascending, Sorting.mem_sort, List.mem_filterMap,
    Option.ite_none_right_eq_some, Option.some.injEq, relation?_eq_some]
  constructor
  · rintro ⟨l, hl, ⟨rfl, rfl⟩, rfl⟩
    exact hl
  · intro hl
    exact ⟨_, hl, ⟨rfl, rfl⟩, rfl⟩

lemma mem_sources : a ∈ g.sources b r ↔ g.relation? a b = some r := by
  simp only [sources, ascending, Sorting.mem_sort, List.mem_filterMap,
    Option.ite_none_right_eq_some, Option.some.injEq, relation?_eq_some]
  constructor
  · rintro ⟨l, hl, ⟨rfl, rfl⟩, rfl⟩
    exact hl
  · intro hl
    exact ⟨_, hl, ⟨rfl, rfl⟩, rfl⟩

/-- A lanelet is only one thing to another. -/
lemma not_mem_targets {r' : Relation} (h : b ∈ g.targets a r) (hne : r ≠ r') :
    b ∉ g.targets a r' := by
  rw [mem_targets] at h ⊢
  rw [h]
  exact fun heq => hne (Option.some.inj heq)

lemma mem_following_iff_previous : b ∈ g.following a ↔ a ∈ g.previous b := by
  rw [following, previous, mem_targets, mem_sources]

lemma mem_besides (h : b ∈ g.besides a) : b ∈ g.targets a .left ∨ b ∈ g.targets a .right := by
  simp only [besides, left?, right?, List.mem_append, Option.mem_toList] at h
  exact h.imp List.mem_of_getLast? List.mem_of_getLast?

lemma pairwise_ascending (h : ids.Nodup) : (ascending ids).Pairwise (·.value < ·.value) :=
  Sorting.pairwise_sort_of_nodup (h.map fun _ _ heq => congrArg LaneletId.mk heq)

/-- Names picked from links are listed once if no name is picked from two pairs. -/
lemma pairwise_picked {pick : Link → Option LaneletId}
    (h : ∀ l m x, pick l = some x → pick m = some x → l.source = m.source ∧ l.target = m.target) :
    (ascending (g.links.filterMap pick)).Pairwise (·.value < ·.value) := by
  refine pairwise_ascending ?_
  rw [List.Nodup, List.pairwise_filterMap]
  refine g.single.imp fun hlm x hx y hy hxy => ?_
  exact hlm (h _ _ x hx (hxy ▸ hy))

lemma pairwise_targets : (g.targets id r).Pairwise (·.value < ·.value) := by
  refine pairwise_picked fun l m x hl hm => ?_
  simp only [Option.ite_none_right_eq_some, Option.some.injEq] at hl hm
  exact ⟨hl.1.1.trans hm.1.1.symm, hl.2.trans hm.2.symm⟩

lemma pairwise_sources : (g.sources id r).Pairwise (·.value < ·.value) := by
  refine pairwise_picked fun l m x hl hm => ?_
  simp only [Option.ite_none_right_eq_some, Option.some.injEq] at hl hm
  exact ⟨hl.2.trans hm.2.symm, hl.1.1.trans hm.1.1.symm⟩

/-! ## The first pass: what was written last -/

/-- What the step of the pair `p` writes to the pair of `a` and `b`. -/
def written (contact : LaneletId → LaneletId → Option Contact) (a b : LaneletId)
    (p : LaneletId × LaneletId) : Option Relation :=
  if p = (a, b) then (contact a b).map Contact.own
  else if p = (b, a) then (contact b a).bind Contact.reverse
  else none

/-- **A step of the first pass** leaves what it wrote, and otherwise what was there before. -/
lemma relation?_touch (hne : c ≠ d) : (g.touch c d (contact c d)).relation? a b =
    (written contact a b (c, d)).or (g.relation? a b) := by
  have hswap : c = a ∧ d = b → ¬ (c = b ∧ d = a) := by
    rintro ⟨rfl, rfl⟩ ⟨h, -⟩
    exact hne h
  simp only [written, Prod.mk.injEq]
  cases hcontact : contact c d with
  | none => grind [touch]
  | some k => cases k <;> grind [touch, relation?_link, Contact.own, Contact.reverse]

/-- **What stands after some steps of the first pass** is what the last of them wrote that wrote
anything. -/
lemma relation?_foldl_touch {ps : List (LaneletId × LaneletId)} (hne : ∀ p ∈ ps, p.1 ≠ p.2) :
    (ps.foldl (fun g (a, b) => g.touch a b (contact a b)) g).relation? a b =
      (ps.reverse.findSome? (written contact a b)).or (g.relation? a b) := by
  induction ps generalizing g with
  | nil => rfl
  | cons p rest ih =>
      -- the first step counts only if no later one wrote, so it is the last to be asked
      rw [List.foldl_cons, ih fun q hq => hne q (List.mem_cons_of_mem _ hq),
        relation?_touch (hne p List.mem_cons_self), List.reverse_cons, List.findSome?_append,
        ← Option.or_assoc]
      simp

lemma mem_orderedPairs : (a, b) ∈ orderedPairs ids ↔ a ∈ ids ∧ b ∈ ids ∧ a ≠ b := by
  simp [orderedPairs]

/-- The order in which the first pass goes through pairs. -/
def Before (p q : LaneletId × LaneletId) : Prop :=
  p.1.value < q.1.value ∨ p.1.value = q.1.value ∧ p.2.value < q.2.value

lemma pairwise_orderedPairs (h : ids.Pairwise (·.value < ·.value)) :
    (orderedPairs ids).Pairwise Before := by
  rw [orderedPairs, List.pairwise_flatMap]
  constructor
  · intro a ha
    rw [List.pairwise_map]
    exact (h.filter _).imp fun hlt => Or.inr ⟨rfl, hlt⟩
  · refine h.imp fun hlt p hp q hq => ?_
    obtain ⟨-, -, rfl⟩ := List.mem_map.mp hp
    obtain ⟨-, -, rfl⟩ := List.mem_map.mp hq
    exact Or.inl hlt

/-- Where only one element counts, it is what is found. -/
lemma findSome?_of_mem {α β : Type} {f : α → Option β} {q : α} : ∀ {xs : List α}, q ∈ xs →
    (∀ x ∈ xs, x ≠ q → f x = none) → xs.findSome? f = f q
  | x :: rest, hq, hf => by
      rw [List.findSome?_cons]
      by_cases hx : x = q
      · subst hx
        cases hfx : f x with
        | some b => rfl
        | none =>
            rw [List.findSome?_eq_none_iff]
            intro y hy
            by_cases hyx : y = x
            · rw [hyx, hfx]
            · exact hf y (List.mem_cons_of_mem _ hy) hyx
      · rw [hf x List.mem_cons_self hx]
        have hq : q ∈ rest := (List.mem_cons.mp hq).resolve_left fun h => hx h.symm
        exact findSome?_of_mem hq fun y hy => hf y (List.mem_cons_of_mem _ hy)

/-- Where only two elements count, what is found from the end is found at the later one, or else
at the earlier one. -/
lemma findSome?_reverse_of_mem {α β : Type} {R : α → α → Prop} (hR : ∀ x y, R x y → ¬ R y x)
    {f : α → Option β} {p q : α} (hpq : R p q) : ∀ {xs : List α}, xs.Pairwise R → p ∈ xs → q ∈ xs →
      (∀ x ∈ xs, x ≠ p → x ≠ q → f x = none) → xs.reverse.findSome? f = (f q).or (f p)
  | x :: rest, h, hp, hq, hf => by
      rw [List.reverse_cons, List.findSome?_append, List.findSome?_singleton]
      rw [List.pairwise_cons] at h
      have hpq_ne : p ≠ q := fun heq => hR _ _ hpq (heq ▸ hpq)
      rcases List.mem_cons.mp hp with rfl | hp'
      · -- behind the earlier one, only the later one counts
        have hq : q ∈ rest := (List.mem_cons.mp hq).resolve_left fun h => hpq_ne h.symm
        rw [findSome?_of_mem (List.mem_reverse.mpr hq) fun y hy hyq => ?_]
        rw [List.mem_reverse] at hy
        refine hf y (List.mem_cons_of_mem _ hy) (fun hyp => ?_) hyq
        exact hR _ _ (hyp ▸ h.1 y hy) (hyp ▸ h.1 y hy)
      · have hxp : x ≠ p := fun heq => hR _ _ (heq ▸ h.1 p hp') (heq ▸ h.1 p hp')
        rcases List.mem_cons.mp hq with rfl | hq'
        · exact absurd (h.1 p hp') (hR _ _ hpq)
        · have hxq : x ≠ q := fun heq => hR _ _ (heq ▸ h.1 q hq') (heq ▸ h.1 q hq')
          rw [hf x List.mem_cons_self hxp hxq, Option.or_none]
          exact findSome?_reverse_of_mem hR hpq h.2 hp' hq' fun y hy =>
            hf y (List.mem_cons_of_mem _ hy)

/-- The relation of a pair of lanelets by the ways they touch; of two, the one that is written
later. -/
def linked (contact : LaneletId → LaneletId → Option Contact) (a b : LaneletId) :
    Option Relation :=
  let own := (contact a b).map Contact.own
  let reverse := (contact b a).bind Contact.reverse
  if a.value < b.value then reverse.or own else own.or reverse

/-- **What the first pass leaves behind.** -/
lemma relation?_touchAll (h : ids.Pairwise (·.value < ·.value)) :
    (touchAll ids contact).relation? a b =
      if a ∈ ids ∧ b ∈ ids ∧ a ≠ b then linked contact a b else none := by
  have hne : ∀ p ∈ orderedPairs ids, p.1 ≠ p.2 := fun p hp => (mem_orderedPairs.mp hp).2.2
  rw [touchAll, relation?_foldl_touch hne, relation?_empty, Option.or_none]
  split
  · next hmem =>
    obtain ⟨ha, hb, hab⟩ := hmem
    have hpa : (a, b) ∈ orderedPairs ids := mem_orderedPairs.mpr ⟨ha, hb, hab⟩
    have hpb : (b, a) ∈ orderedPairs ids := mem_orderedPairs.mpr ⟨hb, ha, hab.symm⟩
    have hasymm : ∀ p q, Before p q → ¬ Before q p := by
      intro p q
      simp only [Before]
      omega
    have hother : ∀ p ∈ orderedPairs ids, p ≠ (a, b) → p ≠ (b, a) → written contact a b p = none :=
      fun p _ hpab hpba => by rw [written, if_neg hpab, if_neg hpba]
    have hown : written contact a b (a, b) = (contact a b).map Contact.own := if_pos rfl
    have hreverse : written contact a b (b, a) = (contact b a).bind Contact.reverse := by
      simp [written, hab.symm]
    -- the pass comes to both pairs, and to the one that begins with the lower name first
    rw [linked]
    split
    · next hlt =>
      rw [findSome?_reverse_of_mem hasymm (Or.inl hlt) (pairwise_orderedPairs h) hpa hpb hother,
        hown, hreverse]
    · next hlt =>
      have hvalue : a.value ≠ b.value := fun heq => hab (congrArg LaneletId.mk heq)
      have hgt : b.value < a.value := by omega
      rw [findSome?_reverse_of_mem hasymm (Or.inl hgt) (pairwise_orderedPairs h) hpb hpa
        fun p hp hpba hpab => hother p hp hpab hpba, hown, hreverse]
  · next hmem =>
    rw [List.findSome?_eq_none_iff]
    rintro ⟨c, d⟩ hp
    obtain ⟨hc, hd, hcd⟩ := mem_orderedPairs.mp (List.mem_reverse.mp hp)
    have hab : (c, d) ≠ (a, b) := by
      rintro ⟨⟩
      exact hmem ⟨hc, hd, hcd⟩
    have hba : (c, d) ≠ (b, a) := by
      rintro ⟨⟩
      exact hmem ⟨hd, hc, hcd.symm⟩
    rw [written, if_neg hab, if_neg hba]

/-! ## The second pass: what is added -/

/-- Does nothing stand for two lanelets, in either direction? -/
def unlinked (g : Routing) (a b : LaneletId) : Bool :=
  (g.relation? a b).isNone && (g.relation? b a).isNone

/-- Is a conflict of two lanelets found at the pair `p`? -/
def meets (overlaps : LaneletId → LaneletId → Bool) (a b : LaneletId)
    (p : LaneletId × LaneletId) : Bool :=
  (p = (a, b) || p = (b, a)) && overlaps p.1 p.2

lemma unlinked_comm : g.unlinked a b = g.unlinked b a := Bool.and_comm _ _

lemma cross_eq : g.cross overlaps a b =
    if g.unlinked a b && overlaps a b then (g.link a b .conflicting).link b a .conflicting
    else g := by
  unfold cross unlinked
  cases g.relation? a b <;> cases g.relation? b a <;> simp

/-- **A step of the second pass** puts its pair in conflict if nothing stands for it, and leaves
everything else alone. -/
lemma relation?_cross : (g.cross overlaps c d).relation? a b =
    if g.unlinked a b && meets overlaps a b (c, d) then some .conflicting
    else g.relation? a b := by
  have hwrite : ((g.link c d .conflicting).link d c .conflicting).relation? a b =
      if (c, d) = (a, b) ∨ (c, d) = (b, a) then some .conflicting else g.relation? a b := by
    grind [relation?_link]
  rw [cross_eq]
  by_cases hpair : (c, d) = (a, b) ∨ (c, d) = (b, a)
  · have hunlinked : g.unlinked a b = g.unlinked c d := by
      rcases hpair with h | h
      · obtain ⟨rfl, rfl⟩ := Prod.mk.inj h
        rfl
      · obtain ⟨rfl, rfl⟩ := Prod.mk.inj h
        exact unlinked_comm
    have hmeets : meets overlaps a b (c, d) = overlaps c d := by
      rw [meets, ← Bool.decide_or, decide_eq_true hpair, Bool.true_and]
    rw [hunlinked, hmeets]
    split
    · rw [hwrite, if_pos hpair]
    · rfl
  · have hmeets : meets overlaps a b (c, d) = false := by
      rw [meets, ← Bool.decide_or, decide_eq_false hpair, Bool.false_and]
    rw [hmeets, Bool.and_false, if_neg Bool.false_ne_true]
    split
    · rw [hwrite, if_neg hpair]
    · rfl

lemma unlinked_cross : (g.cross overlaps c d).unlinked a b =
    (g.unlinked a b && !meets overlaps a b (c, d)) := by
  have hcomm : meets overlaps b a (c, d) = meets overlaps a b (c, d) := by
    rw [meets, meets, Bool.or_comm]
  rw [unlinked, relation?_cross, relation?_cross, hcomm, g.unlinked_comm (a := b)]
  cases hmeets : meets overlaps a b (c, d) with
  | false => simp [unlinked]
  | true =>
      cases hunlinked : g.unlinked a b with
      | true => simp
      | false => simpa [unlinked] using hunlinked

/-- **What stands after some steps of the second pass**: a pair for which nothing stood is in
conflict if one of the steps found that, and any other pair has what it had. -/
lemma relation?_foldl_cross {ps : List (LaneletId × LaneletId)} :
    (ps.foldl (fun g (a, b) => g.cross overlaps a b) g).relation? a b =
      if g.unlinked a b && ps.any (meets overlaps a b) then some .conflicting
      else g.relation? a b := by
  induction ps generalizing g with
  | nil => simp
  | cons p rest ih =>
      rw [List.foldl_cons, ih, List.any_cons, relation?_cross, unlinked_cross]
      cases g.unlinked a b with
      | false => simp
      | true =>
          -- a conflict found at the first pair is a link, so the rest of the pass leaves it alone
          cases meets overlaps a b p with
          | true => simp
          | false => rfl

lemma mem_laterPairs (h : ids.Pairwise (·.value < ·.value)) :
    (a, b) ∈ laterPairs ids ↔ a ∈ ids ∧ b ∈ ids ∧ a.value < b.value := by
  induction ids with
  | nil => simp [laterPairs]
  | cons c rest ih =>
      rw [List.pairwise_cons] at h
      rw [laterPairs, List.mem_append, ih h.2]
      simp only [List.mem_map, List.mem_cons, Prod.mk.injEq]
      constructor
      · rintro (⟨b, hb, rfl, rfl⟩ | ⟨ha, hb, hlt⟩)
        · exact ⟨Or.inl rfl, Or.inr hb, h.1 b hb⟩
        · exact ⟨Or.inr ha, Or.inr hb, hlt⟩
      · rintro ⟨rfl | ha, rfl | hb, hlt⟩
        · exact absurd hlt (Int.lt_irrefl _)
        · exact Or.inl ⟨b, hb, rfl, rfl⟩
        · exact absurd (Int.lt_trans hlt (h.1 a ha)) (Int.lt_irrefl _)
        · exact Or.inr ⟨ha, hb, hlt⟩

/-! ## What two lanelets are to each other -/

/-- Do two lanelets overlap?  The one with the lower name is named first. -/
def overlap (overlaps : LaneletId → LaneletId → Bool) (a b : LaneletId) : Bool :=
  if a.value < b.value then overlaps a b else overlaps b a

lemma overlap_comm (h : a ≠ b) : overlap overlaps a b = overlap overlaps b a := by
  have hvalue : a.value ≠ b.value := fun heq => h (congrArg LaneletId.mk heq)
  rw [overlap, overlap]
  split
  · rw [if_neg (by omega)]
  · rw [if_pos (by omega)]

/-- The relation of a pair of lanelets: by touch, or else in conflict when they overlap. -/
def relate (contact : LaneletId → LaneletId → Option Contact)
    (overlaps : LaneletId → LaneletId → Bool) (a b : LaneletId) : Option Relation :=
  match linked contact a b, linked contact b a with
  | some r, _ => some r
  | none, some _ => none
  | none, none => if overlap overlaps a b then some .conflicting else none

lemma any_meets (h : ids.Pairwise (·.value < ·.value)) : (laterPairs ids).any (meets overlaps a b) =
    true ↔ a ∈ ids ∧ b ∈ ids ∧ a ≠ b ∧ overlap overlaps a b = true := by
  simp only [List.any_eq_true, meets, Bool.and_eq_true, Bool.or_eq_true, decide_eq_true_eq]
  constructor
  · rintro ⟨p, hp, rfl | rfl, hoverlaps⟩
    · obtain ⟨ha, hb, hlt⟩ := (mem_laterPairs h).mp hp
      exact ⟨ha, hb, fun heq => by subst heq; omega, by rwa [overlap, if_pos hlt]⟩
    · obtain ⟨hb, ha, hlt⟩ := (mem_laterPairs h).mp hp
      exact ⟨ha, hb, fun heq => by subst heq; omega, by rwa [overlap, if_neg (by omega)]⟩
  · rintro ⟨ha, hb, hne, hoverlap⟩
    have hvalue : a.value ≠ b.value := fun heq => hne (congrArg LaneletId.mk heq)
    rw [overlap] at hoverlap
    split at hoverlap
    · next hlt => exact ⟨(a, b), (mem_laterPairs h).mpr ⟨ha, hb, hlt⟩, Or.inl rfl, hoverlap⟩
    · next hlt =>
      exact ⟨(b, a), (mem_laterPairs h).mpr ⟨hb, ha, by omega⟩, Or.inr rfl, hoverlap⟩

/-- **What is derived for a pair of lanelets.** -/
lemma relation?_derive (h : ids.Pairwise (·.value < ·.value)) :
    (derive ids contact overlaps).relation? a b =
      if a ∈ ids ∧ b ∈ ids ∧ a ≠ b then relate contact overlaps a b else none := by
  rw [derive, relation?_foldl_cross, unlinked, relation?_touchAll h, relation?_touchAll h]
  by_cases hmem : a ∈ ids ∧ b ∈ ids ∧ a ≠ b
  · have hmem' : b ∈ ids ∧ a ∈ ids ∧ b ≠ a := ⟨hmem.2.1, hmem.1, hmem.2.2.symm⟩
    have hmeets : (laterPairs ids).any (meets overlaps a b) = overlap overlaps a b := by
      rw [Bool.eq_iff_iff, any_meets h]
      tauto
    rw [if_pos hmem, if_pos hmem', if_pos hmem, hmeets, relate]
    cases linked contact a b <;> cases linked contact b a <;> simp
  · have hmeets : (laterPairs ids).any (meets overlaps a b) = false := by
      rw [Bool.eq_false_iff, ne_eq, any_meets h]
      tauto
    rw [hmeets, Bool.and_false, if_neg Bool.false_ne_true, if_neg hmem, if_neg hmem]

lemma mem_targets_derive (h : ids.Pairwise (·.value < ·.value)) :
    b ∈ (derive ids contact overlaps).targets a r ↔
      a ∈ ids ∧ b ∈ ids ∧ a ≠ b ∧ relate contact overlaps a b = some r := by
  rw [mem_targets, relation?_derive h, Option.ite_none_right_eq_some]
  tauto

lemma mem_sources_derive (h : ids.Pairwise (·.value < ·.value)) :
    a ∈ (derive ids contact overlaps).sources b r ↔
      a ∈ ids ∧ b ∈ ids ∧ a ≠ b ∧ relate contact overlaps a b = some r := by
  rw [mem_sources, ← mem_targets, mem_targets_derive h]

/-- One lanelet goes on from another if it begins where that one ends, unless the other way round
they are side by side and that is written later. -/
lemma relate_eq_successor : relate contact overlaps a b = some .successor ↔
    contact a b = some .follows ∧ ¬ (a.value < b.value ∧ contact b a = some .beside) := by
  unfold relate linked
  rcases contact a b with _ | _ | _ <;> rcases contact b a with _ | _ | _ <;>
    by_cases hlt : a.value < b.value <;> simp [hlt, Contact.own, Contact.reverse]

/-- Lanelets are in conflict if neither touches the other and they overlap. -/
lemma relate_eq_conflicting : relate contact overlaps a b = some .conflicting ↔
    contact a b = none ∧ contact b a = none ∧ overlap overlaps a b = true := by
  unfold relate linked
  rcases contact a b with _ | _ | _ <;> rcases contact b a with _ | _ | _ <;>
    by_cases hlt : a.value < b.value <;> simp [hlt, Contact.own, Contact.reverse]

end Routing

end Crossing
