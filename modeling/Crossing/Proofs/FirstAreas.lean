import Crossing.Proofs.FirstInside
import Crossing.Surroundings.FirstAreas

/-!
# What the cache of first areas keeps

`FirstAreaCache.apply` takes the entry of one set of lanelets, looks for the areas that are
missing from it, and writes it back, even when the search for the second area ends in a breach.
`apply_eq_ok` and `apply_error` say what comes out in either case.

An entry that is written back has at least what it had before (`FirstAreas.Extends`), each of the
two areas for itself: one of them may be found cycles after the other.  No other entry changes,
so the whole cache only grows (`FirstAreaCache.Extends`, `extends_apply`).

What is found along a path is described by `Path.Enters`: the area found is one of those looked
for and the path enters it, and nothing is found only when the path enters none of them
(`firstAlong_eq_some`, `firstAlong_eq_none`).
-/

namespace Crossing

variable {K : Type}

/-! ## Looking for an area along a path -/

namespace Surroundings

/-- The area found along a path is one of those looked for, and the path enters it. -/
lemma firstAlong_eq_some [Scalar K] {areas : List (Region K)} {s : SampledPath K} {r : Region K}
    (h : firstAlong areas s = .ok (some r)) : r ∈ areas ∧ s.path.Enters s.interval r.contains := by
  obtain ⟨found, hfound, h⟩ := Outcome.bind_eq_ok.mp h
  cases found with
  | none => simp at h
  | some found =>
      obtain ⟨i, j⟩ := found
      simp only [Outcome.pure_eq_ok, Except.ok.injEq] at h
      obtain ⟨inside, harea, hinside⟩ := Path.insideAt_of_any hfound
      rw [List.getElem?_map, h, Option.map_some, Option.some.injEq] at harea
      subst harea
      exact ⟨List.mem_of_getElem? h, i, hinside⟩

/-- When nothing is found along a path, the path enters none of the areas. -/
lemma firstAlong_eq_none [Scalar K] {areas : List (Region K)} {s : SampledPath K}
    (h : firstAlong areas s = .ok none) :
    ∀ r ∈ areas, ¬ s.path.Enters s.interval r.contains := by
  intro r hr
  obtain ⟨found, hfound, h⟩ := Outcome.bind_eq_ok.mp h
  cases found with
  | none => exact Path.not_enters_of_any hfound _ (List.mem_map_of_mem hr)
  | some found =>
      -- an index that was found is one of the areas
      obtain ⟨i, j⟩ := found
      simp only [Outcome.pure_eq_ok, Except.ok.injEq] at h
      obtain ⟨inside, harea, -⟩ := Path.insideAt_of_any hfound
      rw [List.getElem?_map, h] at harea
      simp at harea

variable [Scalar K] {u v : Surroundings K} {s : SampledPath K}

lemma orFind_keeps {known found : Option (Region K)} {areas : List (Region K)}
    (h : orFind known areas s = .ok found) {r : Region K} (hr : known = some r) :
    found = some r := by
  subst hr
  exact (Except.ok.inj h).symm

lemma update_eq_ok : u.update s = .ok v ↔ ∃ conflicting attention,
    orFind u.firstConflicting u.conflicting.areas s = .ok conflicting ∧
    orFind u.firstAttention u.attentionNonPreceding.areas s = .ok attention ∧
    { u with firstConflicting := conflicting, firstAttention := attention } = v := by
  simp only [update, Outcome.bind_eq_ok, Outcome.pure_eq_ok, Except.ok.injEq]
  constructor
  · rintro ⟨conflicting, hc, attention, ha, rfl⟩
    exact ⟨conflicting, attention, hc, ha, rfl⟩
  · rintro ⟨conflicting, attention, hc, ha, rfl⟩
    exact ⟨conflicting, hc, attention, ha, rfl⟩

end Surroundings

/-! ## Knowing at least as much -/

/-- **What is known stays known**, each of the two areas for itself. -/
structure FirstAreas.Extends (later earlier : FirstAreas K) : Prop where
  conflicting : ∀ r, earlier.conflicting = some r → later.conflicting = some r
  attention : ∀ r, earlier.attention = some r → later.attention = some r

lemma FirstAreas.Extends.refl (areas : FirstAreas K) : areas.Extends areas :=
  ⟨fun _ h => h, fun _ h => h⟩

lemma FirstAreas.Extends.trans {a b c : FirstAreas K} (hab : a.Extends b) (hbc : b.Extends c) :
    a.Extends c :=
  ⟨fun r h => hab.conflicting r (hbc.conflicting r h),
    fun r h => hab.attention r (hbc.attention r h)⟩

namespace FirstAreaCache

lemma get?_set_of_ne (c : FirstAreaCache K) {ids other : IdSet} (areas : FirstAreas K)
    (h : other ≠ ids) : (c.set ids areas).get? other = c.get? other := by
  have hkeep : ∀ entries : List (IdSet × FirstAreas K),
      (entries.filter (·.1 ≠ ids)).lookup other = entries.lookup other := by
    intro entries
    induction entries with
    | nil => rfl
    | cons e rest ih =>
        by_cases he : e.1 = ids
        · have hne : (other == e.1) = false := by simpa [he] using h
          rw [List.filter_cons_of_neg (by simpa using he), List.lookup_cons, hne, ih]
        · rw [List.filter_cons_of_pos (by simpa using he), List.lookup_cons, List.lookup_cons, ih]
  have hne : (other == ids) = false := by simpa using h
  simp only [get?, set, List.lookup_cons, hne, hkeep]

/-- **A cache that has grown**: it has every entry, with at least what was known. -/
def Extends (later earlier : FirstAreaCache K) : Prop :=
  ∀ ids known, earlier.get? ids = some known →
    ∃ areas, later.get? ids = some areas ∧ areas.Extends known

lemma Extends.refl (c : FirstAreaCache K) : c.Extends c :=
  fun _ known h => ⟨known, h, .refl known⟩

lemma Extends.trans {a b c : FirstAreaCache K} (hab : a.Extends b) (hbc : b.Extends c) :
    a.Extends c := by
  intro ids known h
  obtain ⟨areas, hareas, hknown⟩ := hbc ids known h
  obtain ⟨areas', hareas', hext⟩ := hab ids areas hareas
  exact ⟨areas', hareas', hext.trans hknown⟩

/-- Writing an entry that has at least what was known there makes the cache grow. -/
lemma extends_set {c : FirstAreaCache K} {ids : IdSet} {areas : FirstAreas K}
    (h : ∀ known, c.get? ids = some known → areas.Extends known) :
    (c.set ids areas).Extends c := by
  intro other known hknown
  by_cases hother : other = ids
  · subst hother
    exact ⟨areas, c.get?_set_self other areas, h known hknown⟩
  · exact ⟨known, by rw [c.get?_set_of_ne areas hother, hknown], .refl known⟩

/-- What is known for a set, which may be nothing. -/
def known (c : FirstAreaCache K) (ids : IdSet) : FirstAreas K := (c.get? ids).getD ⟨none, none⟩

lemma known_eq {c : FirstAreaCache K} {ids : IdSet} {areas : FirstAreas K}
    (h : c.get? ids = some areas) : c.known ids = areas := by
  rw [known, h, Option.getD_some]

variable [Scalar K] {c : FirstAreaCache K} {u v : Surroundings K} {s : SampledPath K}

/-- Applying succeeds when the search for what is missing does, and then what comes out is what
is remembered. -/
lemma apply_eq_ok (h : (c.apply u s).1 = .ok v) :
    (restore (c.known s.associated) u).update s = .ok v ∧
      (c.apply u s).2 = c.set s.associated ⟨v.firstConflicting, v.firstAttention⟩ := by
  unfold apply at h ⊢
  rw [← known] at h ⊢
  cases hupdate : (restore (c.known s.associated) u).update s with
  | ok w =>
      simp only [hupdate] at h ⊢
      cases h
      exact ⟨rfl, rfl⟩
  | error f =>
      simp only [hupdate] at h
      cases h

/-- When the search ends in a breach, the entry is there with what it had. -/
lemma apply_error {f : Fault K} (h : (c.apply u s).1 = .error f) :
    (c.apply u s).2 = c.set s.associated (c.known s.associated) := by
  unfold apply at h ⊢
  rw [← known] at h ⊢
  cases hupdate : (restore (c.known s.associated) u).update s with
  | ok w =>
      simp only [hupdate] at h
      cases h
  | error f => simp only [hupdate]

lemma extends_of_update {areas : FirstAreas K} (h : (restore areas u).update s = .ok v) :
    FirstAreas.Extends ⟨v.firstConflicting, v.firstAttention⟩ areas := by
  obtain ⟨conflicting, attention, hc, ha, rfl⟩ := Surroundings.update_eq_ok.mp h
  constructor
  · intro r hr
    exact Surroundings.orFind_keeps hc (by simp [restore, hr])
  · intro r hr
    exact Surroundings.orFind_keeps ha (by simp [restore, hr])

/-- **Applying the cache makes it grow**, whatever comes of it. -/
lemma extends_apply (c : FirstAreaCache K) (u : Surroundings K) (s : SampledPath K) :
    (c.apply u s).2.Extends c := by
  cases h : (c.apply u s).1 with
  | ok v =>
      obtain ⟨hupdate, hset⟩ := apply_eq_ok h
      rw [hset]
      exact extends_set fun areas hareas => known_eq hareas ▸ extends_of_update hupdate
  | error f =>
      rw [apply_error h]
      exact extends_set fun areas hareas => known_eq hareas ▸ .refl _

end FirstAreaCache

end Crossing
