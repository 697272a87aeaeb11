import Mathlib.Data.List.Chain
import Mathlib.Data.List.Nodup
import Mathlib.Data.List.Pairwise
import Mathlib.Data.List.Perm.Subperm
import Mathlib.Logic.Relation
import Crossing.Routing.Order

/-!
# Every lanelet before its followers

`Routing.flowOrder` lists some lanelets by a depth-first search, and gives the list back as it was
when the order that comes out does not respect the followers.  `flowOrder_spec` says when that is:
exactly if some of the lanelets form a circle (`OnCircle`).  Otherwise each lanelet stands once, and
before its followers.

**A search on its way** (`Traversal.UnderWay`) has a trail: the lanelets that it has come to and
whose followers it is still going through, each a follower of the one before it.  What has been
placed has its followers placed as well, except for those on the trail at that time.  From such a
one the trail leads back to the lanelet that is placed, so it lies on a circle, and nothing has to
be known of circles before the end.

**Depth.**  The trail has no lanelet twice, so it is no longer than the list, and the depth that the
search is given is never used up (`underWay_visit`).
-/

namespace Crossing.Routing

variable {g : Routing} {ids trail : List LaneletId} {a b id : LaneletId} {t : Traversal}

/-! ## Circles -/

/-- One of some lanelets goes on to another of them. -/
def Leads (g : Routing) (ids : List LaneletId) (a b : LaneletId) : Prop :=
  a ∈ ids ∧ b ∈ ids ∧ b ∈ g.following a

/-- **The lanelet lies on a circle** of some lanelets: from follower to follower one comes back to
it. -/
def OnCircle (g : Routing) (ids : List LaneletId) (a : LaneletId) : Prop :=
  Relation.TransGen (g.Leads ids) a a

/-- No lanelet lies on a circle of some lanelets. -/
def Acyclic (g : Routing) (ids : List LaneletId) : Prop := ∀ a, ¬ g.OnCircle ids a

lemma mem_followingAmong : b ∈ g.followingAmong ids a ↔ b ∈ g.following a ∧ b ∈ ids := by
  simp [followingAmong]

/-! ## A search on its way -/

namespace Traversal

/-- **A search on its way**, with the lanelets whose followers it is going through; the one it has
come to last stands first. -/
structure UnderWay (g : Routing) (ids trail : List LaneletId) (t : Traversal) : Prop where
  mem_ids : ∀ a ∈ t.seen, a ∈ ids
  seen_iff : ∀ a, a ∈ t.seen ↔ a ∈ trail ∨ a ∈ t.order
  nodup : (trail ++ t.order).Nodup
  chain : trail.IsChain fun a b => g.Leads ids b a
  /-- What has been placed has its followers placed as well, or they lie on circles. -/
  closed : ∀ a ∈ t.order, ∀ b, g.Leads ids a b → b ∈ t.order ∨ g.OnCircle ids b
  /-- No lanelet that has been placed goes on to one further in front, or that lies on a circle. -/
  ordered : t.order.Pairwise fun a b => g.Leads ids b a → g.OnCircle ids a

lemma underWay_start (g : Routing) (ids : List LaneletId) : UnderWay g ids [] ⟨[], []⟩ where
  mem_ids := by simp
  seen_iff := by simp
  nodup := .nil
  chain := .nil
  closed := by simp
  ordered := .nil

namespace UnderWay

variable (h : t.UnderWay g ids trail)
include h

/-- The search is not deeper than there are lanelets. -/
lemma length_trail_le : trail.length ≤ ids.length := by
  have hnodup : trail.Nodup := h.nodup.of_append_left
  exact (hnodup.subperm fun a ha => h.mem_ids a ((h.seen_iff a).mpr (Or.inl ha))).length_le

/-- The search comes to a follower. -/
lemma enter (hid : id ∈ ids) (hnew : id ∉ t.seen) (hhead : ∀ a ∈ trail.head?, g.Leads ids a id) :
    UnderWay g ids (id :: trail) ⟨id :: t.seen, t.order⟩ where
  mem_ids := by
    intro a ha
    rcases List.mem_cons.mp ha with rfl | ha
    · exact hid
    · exact h.mem_ids a ha
  seen_iff a := by rw [List.mem_cons, List.mem_cons, h.seen_iff a, or_assoc]
  nodup := by
    refine List.nodup_cons.mpr ⟨fun hmem => hnew ?_, h.nodup⟩
    exact (h.seen_iff id).mpr (List.mem_append.mp hmem)
  chain := h.chain.cons hhead
  closed := h.closed
  ordered := h.ordered

omit h in
/-- From every lanelet of the trail the search has come to the first. -/
lemma leads_of_chain (hchain : (id :: trail).IsChain fun a b => g.Leads ids b a) :
    ∀ a ∈ trail, Relation.TransGen (g.Leads ids) a id := by
  induction trail generalizing id with
  | nil => simp
  | cons b trail ih =>
      rw [List.isChain_cons_cons] at hchain
      intro a ha
      rcases List.mem_cons.mp ha with rfl | ha
      · exact .single hchain.1
      · exact (ih hchain.2 a ha).tail hchain.1

end UnderWay

/-- **The search places a lanelet** when it has come to all its followers. -/
lemma UnderWay.leave (h : t.UnderWay g ids (id :: trail))
    (hdone : ∀ b, g.Leads ids id b → b ∈ t.seen) :
    UnderWay g ids trail ⟨t.seen, id :: t.order⟩ where
  mem_ids := h.mem_ids
  seen_iff a := by
    rw [h.seen_iff a, List.mem_cons, List.mem_cons]
    tauto
  nodup := List.perm_middle.nodup_iff.mpr h.nodup
  chain := h.chain.tail
  closed := by
    intro a ha b hab
    rcases List.mem_cons.mp ha with rfl | ha
    · rcases (h.seen_iff b).mp (hdone b hab) with hb | hb
      · -- a follower on the trail, from which the search has come here
        refine Or.inr ?_
        rcases List.mem_cons.mp hb with rfl | hb
        · exact .single hab
        · exact (leads_of_chain h.chain b hb).tail hab
      · exact Or.inl (List.mem_cons_of_mem _ hb)
    · exact (h.closed a ha b hab).imp_left (List.mem_cons_of_mem _)
  ordered := by
    refine List.pairwise_cons.mpr ⟨fun b hb hlead => ?_, h.ordered⟩
    -- `id` is only placed now, so it was not placed with `b`
    refine (h.closed b hb id hlead).resolve_left fun hid => ?_
    exact (List.nodup_cons.mp h.nodup).1 (List.mem_append_right _ hid)

/-- The search has gone on, and has come to some lanelets. -/
structure Passes (g : Routing) (ids trail goals : List LaneletId) (t t' : Traversal) : Prop where
  underWay : t'.UnderWay g ids trail
  seen : ∀ a ∈ t.seen, a ∈ t'.seen
  goals : ∀ a ∈ goals, a ∈ t'.seen

/-- A search that comes to every lanelet comes to all of them, one after the other. -/
lemma passes_foldl {f : Traversal → LaneletId → Traversal} (goals : List LaneletId)
    (hf : ∀ id ∈ goals, ∀ t, t.UnderWay g ids trail → Passes g ids trail [id] t (f t id))
    (h : t.UnderWay g ids trail) : Passes g ids trail goals t (goals.foldl f t) := by
  induction goals generalizing t with
  | nil => exact ⟨h, fun a ha => ha, by simp⟩
  | cons id goals ih =>
      have hfirst := hf id List.mem_cons_self t h
      have hrest := ih (fun id' hid' => hf id' (List.mem_cons_of_mem _ hid')) hfirst.underWay
      refine ⟨hrest.underWay, fun a ha => hrest.seen a (hfirst.seen a ha), fun a ha => ?_⟩
      rcases List.mem_cons.mp ha with rfl | ha
      · exact hrest.seen a (hfirst.goals a List.mem_cons_self)
      · exact hrest.goals a ha

/-- **The search comes to a lanelet**, as long as there is depth for all that are not on the
trail. -/
lemma passes_visit (depth : Nat) (h : t.UnderWay g ids trail) (hid : id ∈ ids)
    (hhead : ∀ a ∈ trail.head?, g.Leads ids a id) (hdepth : ids.length < depth + trail.length) :
    Passes g ids trail [id] t (visit (g.followingAmong ids) depth t id) := by
  induction depth generalizing trail t id with
  | zero =>
      have hle := h.length_trail_le
      omega
  | succ depth ih =>
      rw [visit]
      split
      · next hseen => exact ⟨h, fun a ha => ha, by simpa using hseen⟩
      · next hnew =>
        have hdeeper : ids.length < depth + (id :: trail).length := by
          rw [List.length_cons]
          omega
        have hlead : ∀ b, b ∈ (g.followingAmong ids id).reverse ↔ g.Leads ids id b := by
          intro b
          rw [List.mem_reverse, mem_followingAmong, Leads]
          tauto
        have hafter := passes_foldl (f := visit (g.followingAmong ids) depth)
          (g.followingAmong ids id).reverse
          (fun b hb t' ht' => ih ht' ((hlead b).mp hb).2.1 (by simpa using (hlead b).mp hb) hdeeper)
          (h.enter hid hnew hhead)
        refine ⟨hafter.underWay.leave fun b hb => hafter.goals b ((hlead b).mpr hb), ?_, ?_⟩
        · exact fun a ha => hafter.seen a (List.mem_cons_of_mem _ ha)
        · simpa using hafter.seen id List.mem_cons_self

end Traversal

/-! ## The order that comes out -/

/-- What a search through some lanelets ends with. -/
lemma underWay_search (g : Routing) (ids : List LaneletId) : ∃ seen,
    Traversal.UnderWay g ids [] ⟨seen, searchOrder (g.followingAmong ids) ids⟩ ∧
      ∀ id ∈ ids, id ∈ seen := by
  have hpasses := Traversal.passes_foldl
    (f := Traversal.visit (g.followingAmong ids) (ids.length + 1)) ids
    (fun id hid t ht => Traversal.passes_visit (ids.length + 1) ht hid (by simp) (by simp))
    (Traversal.underWay_start g ids)
  exact ⟨_, hpasses.underWay, hpasses.goals⟩

lemma nodup_searchOrder : (searchOrder (g.followingAmong ids) ids).Nodup := by
  obtain ⟨seen, h, -⟩ := underWay_search g ids
  exact h.nodup

lemma mem_searchOrder : id ∈ searchOrder (g.followingAmong ids) ids ↔ id ∈ ids := by
  obtain ⟨seen, h, hall⟩ := underWay_search g ids
  have hseen := h.seen_iff id
  rw [or_iff_right List.not_mem_nil] at hseen
  exact ⟨fun hid => h.mem_ids id (hseen.mpr hid), fun hid => hseen.mp (hall id hid)⟩

lemma respects_iff {next : LaneletId → List LaneletId} {order : List LaneletId} :
    respects next order = true ↔
      (∀ a ∈ order, a ∉ next a) ∧ order.Pairwise fun a b => a ∉ next b := by
  induction order with
  | nil => simp [respects]
  | cons id rest ih =>
      simp only [respects, List.all_cons, Bool.and_eq_true, List.all_eq_true, decide_eq_true_eq, ih,
        List.forall_mem_cons, List.pairwise_cons]
      tauto

/-- Without circles, the order that comes out respects the followers. -/
lemma respects_searchOrder (h : g.Acyclic ids) :
    respects (g.followingAmong ids) (searchOrder (g.followingAmong ids) ids) = true := by
  obtain ⟨seen, hsearch, -⟩ := underWay_search g ids
  have hleads : ∀ a ∈ searchOrder (g.followingAmong ids) ids, ∀ b,
      b ∈ g.followingAmong ids a → g.Leads ids a b := by
    intro a ha b hb
    obtain ⟨hfollowing, hmem⟩ := mem_followingAmong.mp hb
    exact ⟨mem_searchOrder.mp ha, hmem, hfollowing⟩
  refine respects_iff.mpr ⟨fun a ha hself => h a (.single (hleads a ha a hself)), ?_⟩
  exact hsearch.ordered.imp_of_mem fun {a b} _ hb hordered hmem =>
    h a (hordered (hleads b hb a hmem))

/-- In an order that respects the followers, each lanelet has a lower index than those. -/
lemma idxOf_lt_of_respects {order : List LaneletId}
    (h : respects (g.followingAmong ids) order = true) (hmem : ∀ id, id ∈ order ↔ id ∈ ids)
    (hlead : g.Leads ids a b) : order.idxOf a < order.idxOf b := by
  obtain ⟨hself, hpairwise⟩ := respects_iff.mp h
  obtain ⟨ha, hb, hfollowing⟩ := hlead
  have hnext : b ∈ g.followingAmong ids a := mem_followingAmong.mpr ⟨hfollowing, hb⟩
  have ha' : order.idxOf a < order.length := List.idxOf_lt_length_of_mem ((hmem a).mpr ha)
  have hb' : order.idxOf b < order.length := List.idxOf_lt_length_of_mem ((hmem b).mpr hb)
  rcases Nat.lt_trichotomy (order.idxOf a) (order.idxOf b) with hlt | heq | hgt
  · exact hlt
  · have hab : a = b := by
      rw [← List.getElem_idxOf ha', ← List.getElem_idxOf hb']
      simp only [heq]
    rw [hab] at hnext
    exact absurd hnext (hself b ((hmem b).mpr hb))
  · have hbefore := List.pairwise_iff_getElem.mp hpairwise _ _ hb' ha' hgt
    rw [List.getElem_idxOf, List.getElem_idxOf] at hbefore
    exact absurd hnext hbefore

/-- An order of lanelets on a circle does not respect the followers. -/
lemma acyclic_of_respects {order : List LaneletId}
    (h : respects (g.followingAmong ids) order = true) (hmem : ∀ id, id ∈ order ↔ id ∈ ids) :
    g.Acyclic ids := by
  intro a hcircle
  have hless : ∀ b, Relation.TransGen (g.Leads ids) a b → order.idxOf a < order.idxOf b := by
    intro b hb
    induction hb with
    | single hlead => exact idxOf_lt_of_respects h hmem hlead
    | tail _ hlead ih => exact ih.trans (idxOf_lt_of_respects h hmem hlead)
  exact Nat.lt_irrefl _ (hless a hcircle)

/-- The order is the one of the search as long as there are no circles, and otherwise the list as it
was. -/
lemma flowOrder_eq (g : Routing) (ids : List LaneletId) :
    (g.Acyclic ids → g.flowOrder ids = searchOrder (g.followingAmong ids) ids) ∧
      (¬ g.Acyclic ids → g.flowOrder ids = ids) :=
  ⟨fun h => if_pos (respects_searchOrder h),
    fun h => if_neg fun hrespects => h (acyclic_of_respects hrespects fun _ => mem_searchOrder)⟩

lemma mem_flowOrder : id ∈ g.flowOrder ids ↔ id ∈ ids := by
  by_cases hacyclic : g.Acyclic ids
  · rw [(flowOrder_eq g ids).1 hacyclic, mem_searchOrder]
  · rw [(flowOrder_eq g ids).2 hacyclic]

/-- **Each lanelet before its followers.**  The order lists the same lanelets as were given.
Without circles among them each is listed once, and before every follower that was given as well;
with a circle, the list is the one that was given. -/
theorem flowOrder_spec (g : Routing) (ids : List LaneletId) :
    (∀ id, id ∈ g.flowOrder ids ↔ id ∈ ids) ∧
    (g.Acyclic ids → (g.flowOrder ids).Nodup ∧
      ∀ a ∈ ids, ∀ b ∈ ids, b ∈ g.following a →
        (g.flowOrder ids).idxOf a < (g.flowOrder ids).idxOf b) ∧
    (¬ g.Acyclic ids → g.flowOrder ids = ids) := by
  obtain ⟨hsearch, hgiven⟩ := flowOrder_eq g ids
  refine ⟨fun id => ?_, fun hacyclic => ?_, hgiven⟩
  · by_cases hacyclic : g.Acyclic ids
    · rw [hsearch hacyclic, mem_searchOrder]
    · rw [hgiven hacyclic]
  · rw [hsearch hacyclic]
    refine ⟨nodup_searchOrder, fun a ha b hb hfollowing => ?_⟩
    exact idxOf_lt_of_respects (respects_searchOrder hacyclic) (fun _ => mem_searchOrder)
      ⟨ha, hb, hfollowing⟩

/-- Three lanelets in a row, and three in a circle. -/
example : (derive [⟨1⟩, ⟨2⟩, ⟨3⟩] (fun a b => if b.value = a.value + 1 then some .follows else none)
        fun _ _ => false).flowOrder [⟨3⟩, ⟨1⟩, ⟨2⟩] = [⟨1⟩, ⟨2⟩, ⟨3⟩] ∧
    (derive [⟨1⟩, ⟨2⟩, ⟨3⟩] (fun a b => if b.value = a.value % 3 + 1 then some .follows else none)
        fun _ _ => false).flowOrder [⟨3⟩, ⟨1⟩, ⟨2⟩] = [⟨3⟩, ⟨1⟩, ⟨2⟩] := by
  decide

end Crossing.Routing
