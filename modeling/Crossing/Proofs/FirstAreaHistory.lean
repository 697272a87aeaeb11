import Crossing.Proofs.FirstAreas
import Crossing.Proofs.Rational

/-!
# What a cache of first areas remembers of many uses

A cache is used again and again, for different sets of lanelets in any order, along different
paths, and with surroundings that may bring first areas of their own (`AreaCall`).

**Sets of lanelets do not meet.**  A use reads and writes the entry of its own set only
(`answer_eq`, `get?_after_of_ne`), so the entry of a set is the same as if there had been no uses
for other sets (`get?_applyAll_filter`).

**Each of the two areas is written once.**  A use has an area to offer, the one that its
surroundings bring or else the one that its path enters first, and it is remembered exactly when
none was remembered before (`get?_after_of_ok`).  Run after run, the entry has the first area that
was offered, whether or not the other of the two was found in the same use (`get?_applyAll`).

A search that ends in a breach has nothing to offer, not even the area that it may have found
before the breach; `finished` are the uses that come to an end.
-/

namespace Crossing

variable {K : Type}

/-- One use of a cache: what it is applied to. -/
structure AreaCall (K : Type) where
  around : Surroundings K
  sampled : SampledPath K

namespace AreaCall

/-- The lanelets whose entry the use is about. -/
def key (call : AreaCall K) : IdSet := call.sampled.associated

variable [Scalar K]

/-- The first conflicting area that a use has to offer. -/
def conflicting (call : AreaCall K) : Option (Region K) :=
  call.around.firstConflicting.or
    (Surroundings.firstAlong call.around.conflicting.areas call.sampled).toOption.join

/-- The first watched area that a use has to offer. -/
def attention (call : AreaCall K) : Option (Region K) :=
  call.around.firstAttention.or
    (Surroundings.firstAlong call.around.attentionNonPreceding.areas call.sampled).toOption.join

end AreaCall

namespace Surroundings

variable [Scalar K]

lemma eq_of_orFind {known found : Option (Region K)} {areas : List (Region K)}
    {s : SampledPath K} (h : orFind known areas s = .ok found) :
    found = known.or (firstAlong areas s).toOption.join := by
  cases known with
  | some r => exact (Except.ok.inj h).symm
  | none =>
      have hfound : firstAlong areas s = .ok found := h
      rw [hfound, Option.none_or]
      rfl

end Surroundings

namespace FirstAreaCache

variable [Scalar K]

/-! ## One use -/

/-- What a use gives. -/
def answer (c : FirstAreaCache K) (call : AreaCall K) : Outcome K (Surroundings K) :=
  (c.apply call.around call.sampled).1

/-- The cache after a use. -/
def after (c : FirstAreaCache K) (call : AreaCall K) : FirstAreaCache K :=
  (c.apply call.around call.sampled).2

variable {c c' : FirstAreaCache K} {call : AreaCall K} {ids : IdSet} {v : Surroundings K}

/-- What a use gives depends on the entry of its own set alone. -/
lemma answer_eq (c : FirstAreaCache K) (call : AreaCall K) :
    c.answer call = (restore (c.known call.key) call.around).update call.sampled := by
  unfold answer apply
  rw [← known, ← AreaCall.key]
  dsimp only
  split
  · next hupdate => exact hupdate.symm
  · next hupdate => exact hupdate.symm

/-- A use writes the entry of its own set alone. -/
lemma get?_after_of_ne (h : ids ≠ call.key) : (c.after call).get? ids = c.get? ids := by
  cases hanswer : c.answer call with
  | ok v =>
      rw [after, (apply_eq_ok hanswer).2]
      exact c.get?_set_of_ne _ h
  | error f =>
      rw [after, apply_error hanswer]
      exact c.get?_set_of_ne _ h

/-- **What a use leaves that comes to an end**: for each of the two areas the one that was known
already, or else the one that the use has to offer.  The surroundings are given the same two. -/
lemma get?_after_of_ok (h : c.answer call = .ok v) :
    (c.after call).get? call.key = some ⟨v.firstConflicting, v.firstAttention⟩ ∧
      v.firstConflicting = (c.known call.key).conflicting.or call.conflicting ∧
      v.firstAttention = (c.known call.key).attention.or call.attention := by
  obtain ⟨hupdate, hset⟩ := apply_eq_ok h
  obtain ⟨conflicting, attention, hc, ha, rfl⟩ := Surroundings.update_eq_ok.mp hupdate
  refine ⟨?_, ?_, ?_⟩
  · rw [after, hset]
    exact c.get?_set_self _ _
  · rw [AreaCall.conflicting, ← Option.or_assoc]
    exact Surroundings.eq_of_orFind hc
  · rw [AreaCall.attention, ← Option.or_assoc]
    exact Surroundings.eq_of_orFind ha

lemma get?_after_of_error {f : Fault K} (h : c.answer call = .error f) :
    (c.after call).get? call.key = some (c.known call.key) := by
  rw [after, apply_error h]
  exact c.get?_set_self _ _

/-- Caches with the same entry for a set have the same entry after a use for it. -/
lemma get?_after_congr (h : c.get? call.key = c'.get? call.key) :
    (c.after call).get? call.key = (c'.after call).get? call.key := by
  have hknown : c.known call.key = c'.known call.key := by rw [known, known, h]
  have hanswer : c.answer call = c'.answer call := by rw [answer_eq, answer_eq, hknown]
  cases hc : c.answer call with
  | ok v => rw [(get?_after_of_ok hc).1, (get?_after_of_ok (hanswer.symm.trans hc)).1]
  | error f =>
      rw [get?_after_of_error hc, get?_after_of_error (hanswer.symm.trans hc), hknown]

/-! ## Many uses -/

/-- The cache after some uses. -/
def applyAll (c : FirstAreaCache K) (calls : List (AreaCall K)) : FirstAreaCache K :=
  calls.foldl after c

/-- **The uses that come to an end.** -/
def finished (c : FirstAreaCache K) : List (AreaCall K) → List (AreaCall K)
  | [] => []
  | call :: rest =>
    if (c.answer call).isOk then call :: finished (c.after call) rest
    else finished (c.after call) rest

@[simp] lemma applyAll_nil (c : FirstAreaCache K) : c.applyAll [] = c := rfl

@[simp] lemma applyAll_cons (c : FirstAreaCache K) (call : AreaCall K)
    (calls : List (AreaCall K)) :
    c.applyAll (call :: calls) = (c.after call).applyAll calls := rfl

lemma applyAll_concat (c : FirstAreaCache K) (calls : List (AreaCall K)) (call : AreaCall K) :
    c.applyAll (calls ++ [call]) = (c.applyAll calls).after call :=
  List.foldl_concat after c call calls

/-- Uses for other sets can be left out. -/
lemma get?_applyAll_filter (calls : List (AreaCall K)) (h : c.get? ids = c'.get? ids) :
    (c.applyAll calls).get? ids = (c'.applyAll (calls.filter (·.key = ids))).get? ids := by
  induction calls generalizing c c' with
  | nil => exact h
  | cons call rest ih =>
      by_cases hkey : call.key = ids
      · subst hkey
        rw [List.filter_cons_of_pos (by simp), applyAll_cons, applyAll_cons]
        exact ih (get?_after_congr h)
      · rw [List.filter_cons_of_neg (by simpa using hkey), applyAll_cons]
        exact ih ((get?_after_of_ne (Ne.symm hkey)).trans h)

/-- What is known of a set after uses for it: what was known before, or else what was offered
first. -/
lemma known_applyAll {calls : List (AreaCall K)} (hkeys : ∀ call ∈ calls, call.key = ids) :
    (c.applyAll calls).known ids =
      ⟨(c.known ids).conflicting.or ((c.finished calls).findSome? AreaCall.conflicting),
        (c.known ids).attention.or ((c.finished calls).findSome? AreaCall.attention)⟩ := by
  induction calls generalizing c with
  | nil => simp [finished]
  | cons call rest ih =>
      obtain rfl := hkeys call List.mem_cons_self
      have hrest : ∀ call' ∈ rest, call'.key = call.key :=
        fun call' h => hkeys call' (List.mem_cons_of_mem _ h)
      rw [applyAll_cons, ih hrest, finished]
      cases hanswer : c.answer call with
      | ok v =>
          obtain ⟨hentry, hconflicting, hattention⟩ := get?_after_of_ok hanswer
          rw [known_eq hentry, hconflicting, hattention]
          simp only [Except.isOk, Except.toBool, if_true, List.findSome?_cons, Option.or_assoc]
          cases call.conflicting <;> cases call.attention <;> rfl
      | error f =>
          rw [known_eq (get?_after_of_error hanswer)]
          rfl

lemma extends_applyAll (c : FirstAreaCache K) (calls : List (AreaCall K)) :
    (c.applyAll calls).Extends c := by
  induction calls generalizing c with
  | nil => exact .refl c
  | cons call rest ih => exact (ih (c.after call)).trans (extends_apply c _ _)

/-- The entry of a set after uses for it.  The first of them leaves an entry, whatever comes of
it. -/
lemma get?_applyAll_own {calls : List (AreaCall K)} (hkeys : ∀ call ∈ calls, call.key = ids) :
    (c.applyAll calls).get? ids = if calls.isEmpty then c.get? ids else
      some ⟨(c.known ids).conflicting.or ((c.finished calls).findSome? AreaCall.conflicting),
        (c.known ids).attention.or ((c.finished calls).findSome? AreaCall.attention)⟩ := by
  cases calls with
  | nil => rfl
  | cons call rest =>
      obtain ⟨first, hfirst⟩ : ∃ areas, (c.after call).get? ids = some areas := by
        obtain rfl := hkeys call List.mem_cons_self
        cases hanswer : c.answer call with
        | ok v => exact ⟨_, (get?_after_of_ok hanswer).1⟩
        | error f => exact ⟨_, get?_after_of_error hanswer⟩
      obtain ⟨areas, hareas, -⟩ := extends_applyAll (c.after call) rest ids first hfirst
      rw [← applyAll_cons] at hareas
      rw [← known_applyAll hkeys, known_eq hareas, hareas]
      rfl

/-- **What an entry is after any uses of a cache.**  It is what the uses for its own set have made
of it.  If there are any, each of its two areas is the one that was known at first, or else the first
that one of them had to offer, whatever became of the other area.  And each use that comes to an end
gives its surroundings the two areas that the entry has then. -/
theorem get?_applyAll (c : FirstAreaCache K) (calls : List (AreaCall K)) (ids : IdSet) :
    let own := calls.filter (·.key = ids)
    (c.applyAll calls).get? ids = (c.applyAll own).get? ids ∧
      (c.applyAll calls).get? ids = (if own.isEmpty then c.get? ids else
        some ⟨(c.known ids).conflicting.or ((c.finished own).findSome? AreaCall.conflicting),
          (c.known ids).attention.or ((c.finished own).findSome? AreaCall.attention)⟩) ∧
      ∀ before call later v, calls = before ++ call :: later →
        (c.applyAll before).answer call = .ok v →
        (c.applyAll (before ++ [call])).get? call.key =
          some ⟨v.firstConflicting, v.firstAttention⟩ := by
  intro own
  have hown : (c.applyAll calls).get? ids = (c.applyAll own).get? ids :=
    get?_applyAll_filter calls rfl
  refine ⟨hown, hown.trans ?_, ?_⟩
  · have hkeys : ∀ call ∈ own, call.key = ids := fun call h => by
      simpa using (List.mem_filter.mp h).2
    exact get?_applyAll_own hkeys
  · intro before call later v _ hv
    rw [applyAll_concat]
    exact (get?_after_of_ok hv).1

/-! ## Three uses

A set of lanelets for which the conflicting area is found first, along the same path as another
set, and the watched area only later, when the surroundings bring a conflicting area of their own.
-/

/-- A path of three samples, a metre apart, for some lanelets. -/
def threeSamples (ids : List LaneletId) : SampledPath Rat where
  path := ⟨[0, 1, 2].map fun x => ⟨⟨⟨x, 0⟩, ⟨0⟩⟩, ⟨1⟩, ids⟩⟩
  spacing := ⟨1⟩
  lane := ⟨2⟩
  associated := IdSet.ofList ids
  interval := (0, 2)

/-- What lies around one of the samples. -/
def around (x : Rat) : Region Rat :=
  ⟨[⟨x - 0.5, -1⟩, ⟨x + 0.5, -1⟩, ⟨x + 0.5, 1⟩, ⟨x - 0.5, 1⟩, ⟨x - 0.5, -1⟩]⟩

/-- Surroundings with some conflicting areas, some watched ones, and a first conflicting area that
is set already. -/
def withAreas (conflicting attention : List (Region Rat)) (first : Option (Region Rat)) :
    Surroundings Rat where
  attention := .empty
  attentionNonPreceding := ⟨[], attention⟩
  conflicting := ⟨[], conflicting⟩
  adjacent := .empty
  occlusion := .empty
  firstConflicting := first
  firstAttention := none

def threeCalls : List (AreaCall Rat) :=
  [⟨withAreas [around 2, around 1] [] none, threeSamples [⟨2⟩]⟩,
    ⟨withAreas [around 2] [] none, threeSamples [⟨5⟩]⟩,
    ⟨withAreas [] [around 0] (some (around 2)), threeSamples [⟨2⟩]⟩]

/-- The conflicting area of the first use stays, the watched one of the third joins it, and so the
surroundings of the third use lose the area that they had brought. -/
theorem get?_applyAll_three :
    (empty.applyAll threeCalls).get? (IdSet.ofList [⟨2⟩]) =
        some ⟨some (around 1), some (around 0)⟩ ∧
      ∃ v, (empty.applyAll (threeCalls.take 2)).answer
          ⟨withAreas [] [around 0] (some (around 2)), threeSamples [⟨2⟩]⟩ = .ok v ∧
        v.firstConflicting = some (around 1) ∧ v.firstAttention = some (around 0) := by
  obtain ⟨-, hentry, hgiven⟩ := get?_applyAll empty threeCalls (IdSet.ofList [⟨2⟩])
  have hthree : (empty.applyAll threeCalls).get? (IdSet.ofList [⟨2⟩]) =
      some ⟨some (around 1), some (around 0)⟩ := hentry.trans (by decide +kernel)
  obtain ⟨v, hv⟩ : ∃ v, (empty.applyAll (threeCalls.take 2)).answer
      ⟨withAreas [] [around 0] (some (around 2)), threeSamples [⟨2⟩]⟩ = .ok v :=
    ⟨_, Outcome.eq_ok_getD (by decide +kernel) (withAreas [] [] none)⟩
  have hlast := hgiven (threeCalls.take 2) _ [] v rfl hv
  obtain ⟨hconflicting, hattention⟩ := by
    simpa only [Option.some.injEq, FirstAreas.mk.injEq] using hlast.symm.trans hthree
  exact ⟨hthree, v, hv, hconflicting, hattention⟩

end FirstAreaCache

end Crossing
