import Mathlib.Data.List.Forall2
import Crossing.Fault

/-!
# Taking a computation apart

An `Outcome` that is built from steps has a value exactly when every step has one, and otherwise
it ends in the fault of the first step that fails.  The lemmas here say that for the ways in which
the library strings steps together: one after the other (`bind_eq_ok`, `bind_eq_error`), one per
element of a list (`mapM_eq_ok`, `mapM_eq_error`), element after element until one passes a test
(`findM_eq_some`, `findM_eq_none`, `findSomeM_eq_some`, `findSomeM_eq_none`, `anyM_eq_false`), and a
test of each (`filterM_eq_filter`, `filterM_eq_error`).

A search that stops early says nothing about the elements behind the one it found, so the
lemmas about searches split the list there.

Often it only matters that a computation does not end in a fault of some kind (`Avoids`).  For that
it is enough that none of its steps does; the rules that say so are simp lemmas, in the same ways of
stringing steps together.
-/

namespace Crossing.Outcome

variable {K α β : Type}

/-! ## One step after the other -/

@[simp] lemma pure_eq_ok {a : α} : (pure a : Outcome K α) = .ok a := rfl

lemma bind_eq_ok {x : Outcome K α} {f : α → Outcome K β} {b : β} :
    x >>= f = .ok b ↔ ∃ a, x = .ok a ∧ f a = .ok b := by
  cases x <;> simp [bind, Except.bind]

lemma bind_eq_error {x : Outcome K α} {f : α → Outcome K β} {e : Fault K} :
    x >>= f = .error e ↔ x = .error e ∨ ∃ a, x = .ok a ∧ f a = .error e := by
  cases x <;> simp [bind, Except.bind]

lemma map_eq_ok {x : Outcome K α} {f : α → β} {b : β} :
    f <$> x = .ok b ↔ ∃ a, x = .ok a ∧ f a = b := by
  cases x <;> simp [Functor.map, Except.map]

/-- What a computation gives that does give something. -/
lemma eq_ok_getD {x : Outcome K α} (h : x.isOk = true) (a : α) : x = .ok (x.toOption.getD a) := by
  cases x with
  | ok b => rfl
  | error e => cases h

lemma eq_ok_get {x : Outcome K α} (h : x.toOption.isSome) : x = .ok (x.toOption.get h) := by
  cases x with
  | ok a => rfl
  | error e => cases h

/-- The fault that a computation ends in, unless it has a value. -/
def fault? : Outcome K α → Option (Fault K)
  | .ok _ => none
  | .error e => some e

lemma eq_error_of_fault? {x : Outcome K α} {e : Fault K} (h : x.fault? = some e) :
    x = .error e := by
  cases x with
  | ok a => cases h
  | error e' => exact congrArg Except.error (Option.some.inj h)

/-- What is told of the value of a computation that may have none is told of a value. -/
lemma exists_of_toOption {x : Outcome K (Option α)} {f : α → β} {b : β}
    (h : x.toOption.join.map f = some b) : ∃ a, x = .ok (some a) ∧ f a = b := by
  cases x with
  | error e => cases h
  | ok found =>
      obtain ⟨a, rfl, rfl⟩ := Option.map_eq_some_iff.mp h
      exact ⟨a, rfl, rfl⟩

/-- What is tolerated and gives a value was not refused. -/
lemma eq_ok_of_tolerate {x : Outcome K α} {a : α} (h : x.tolerate = .ok (some a)) : x = .ok a := by
  cases x with
  | ok b =>
      cases h
      rfl
  | error e => cases e <;> cases h

/-- To say what was being done changes no value. -/
lemma within_eq_ok {x : Outcome K α} {activity : Activity} {a : α} :
    x.within activity = .ok a ↔ x = .ok a := by
  cases x with
  | ok b => rfl
  | error e => cases e <;> exact iff_of_false nofun nofun

/-- What is guarded against a breach and has a value passed the guard. -/
lemma of_guard {p : Prop} [Decidable p] {why : Breach K} {x : Outcome K α} {a : α}
    (h : (if p then breach why else x) = .ok a) : ¬ p ∧ x = .ok a := by
  split at h
  · cases h
  · next hp => exact ⟨hp, h⟩

/-- A value that there is only on a condition is there because the condition holds. -/
lemma of_condition {p : Prop} [Decidable p] {why : Breach K} {a b : α}
    (h : (if p then .ok b else breach why) = .ok a) : p ∧ a = b := by
  split at h
  · next hp => exact ⟨hp, (Except.ok.inj h).symm⟩
  · cases h

/-- What is demanded has a value exactly if it is there. -/
lemma demand_eq_ok {why : Breach K} {o : Option α} {a : α} :
    demand why o = .ok a ↔ o = some a := by
  cases o with
  | none => exact iff_of_false nofun nofun
  | some b => simp [demand]

/-- Two counts have a sum exactly if it is a count. -/
lemma addCounts_eq_ok {a b n : Nat} :
    (addCounts a b : Outcome K Nat) = .ok n ↔ a + b ≤ maxCount ∧ a + b = n := by
  unfold addCounts
  split
  · simp [*]
  · simp [*, breach]

/-! ## One step per element -/

/-- Working through a list succeeds with the list of what comes out for each element. -/
lemma mapM_eq_ok {f : α → Outcome K β} : ∀ {xs : List α} {ys : List β},
    xs.mapM f = .ok ys ↔ List.Forall₂ (fun x y => f x = .ok y) xs ys
  | [], ys => by cases ys <;> simp [pure, Except.pure]
  | x :: xs, ys => by
      rw [List.mapM_cons, bind_eq_ok]
      cases ys with
      | nil => simp [bind_eq_ok]
      | cons y ys =>
          rw [List.forall₂_cons, ← mapM_eq_ok]
          simp only [bind_eq_ok, pure_eq_ok, Except.ok.injEq, List.cons.injEq]
          constructor
          · rintro ⟨a, ha, as, has, rfl, rfl⟩
            exact ⟨ha, has⟩
          · rintro ⟨ha, has⟩
            exact ⟨y, ha, ys, has, rfl, rfl⟩

lemma exists_mem_of_mapM {f : α → Outcome K β} {y : β} : ∀ {xs : List α} {ys : List β},
    xs.mapM f = .ok ys → y ∈ ys → ∃ x ∈ xs, f x = .ok y
  | xs, ys, h, hy => by
      rw [mapM_eq_ok] at h
      induction h with
      | nil => cases hy
      | @cons x y' xs ys hx _ ih =>
          rcases List.mem_cons.mp hy with rfl | hy
          · exact ⟨x, List.mem_cons_self, hx⟩
          · obtain ⟨x', hx', hy⟩ := ih hy
            exact ⟨x', List.mem_cons_of_mem _ hx', hy⟩

/-- What is known of each thing that comes out is known of the list. -/
lemma map_eq_of_mapM {γ : Type} {f : α → Outcome K β} {g : β → γ} {k : α → γ} :
    ∀ {xs : List α} {ys : List β}, xs.mapM f = .ok ys →
      (∀ x ∈ xs, ∀ y, f x = .ok y → g y = k x) → ys.map g = xs.map k
  | xs, ys, h, hg => by
      rw [mapM_eq_ok] at h
      induction h with
      | nil => rfl
      | @cons x y xs ys hx _ ih =>
          rw [List.map_cons, List.map_cons, hg x List.mem_cons_self y hx,
            ih fun x' hx' => hg x' (List.mem_cons_of_mem _ hx')]

/-- What comes out of a list that has been worked through, when an element may have nothing. -/
lemma eq_ok_join_of_mapM {f : α → Outcome K (Option β)} {xs : List α} {ys : List (Option β)}
    (h : xs.mapM f = .ok ys) :
    (∀ x ∈ xs, f x = .ok (f x).toOption.join) ∧ ys = xs.map fun x => (f x).toOption.join := by
  rw [mapM_eq_ok] at h
  induction h with
  | nil => exact ⟨nofun, rfl⟩
  | @cons x y xs ys hx _ ih =>
      obtain ⟨hxs, rfl⟩ := ih
      rw [List.forall_mem_cons, List.map_cons, hx]
      exact ⟨⟨rfl, hxs⟩, rfl⟩

lemma mapM_eq_error {f : α → Outcome K β} {e : Fault K} : ∀ {xs : List α},
    xs.mapM f = .error e → ∃ x ∈ xs, f x = .error e
  | [], h => by simp [pure, Except.pure] at h
  | x :: xs, h => by
      rw [List.mapM_cons, bind_eq_error] at h
      rcases h with h | ⟨y, -, h⟩
      · exact ⟨x, List.mem_cons_self, h⟩
      · rcases bind_eq_error.mp h with h | ⟨ys, -, h⟩
        · obtain ⟨x', hx', he⟩ := mapM_eq_error h
          exact ⟨x', List.mem_cons_of_mem _ hx', he⟩
        · simp at h

/-- Every element of a list that was worked through had its step. -/
lemma exists_step_of_foldlM {f : β → α → Outcome K β} {xs : List α} {b c : β}
    (h : xs.foldlM f b = .ok c) : ∀ x ∈ xs, ∃ before after, f before x = .ok after := by
  induction xs generalizing b with
  | nil => simp
  | cons x xs ih =>
      rw [List.foldlM_cons] at h
      obtain ⟨b', hx, hrest⟩ := bind_eq_ok.mp h
      intro x' hx'
      rcases List.mem_cons.mp hx' with rfl | hx'
      · exact ⟨b, b', hx⟩
      · exact ih hrest x' hx'

/-! ## Element after element, until one passes -/

lemma findM_cons {p : α → Outcome K Bool} {a : α} {as : List α} {r : Option α} :
    (a :: as).findM? p = .ok r ↔
      (p a = .ok true ∧ r = some a) ∨ (p a = .ok false ∧ as.findM? p = .ok r) := by
  rw [List.findM?, bind_eq_ok]
  constructor
  · rintro ⟨b, hb, h⟩
    cases b with
    | true => exact Or.inl ⟨hb, by simpa [eq_comm] using h⟩
    | false => exact Or.inr ⟨hb, h⟩
  · rintro (⟨hb, rfl⟩ | ⟨hb, h⟩)
    · exact ⟨true, hb, rfl⟩
    · exact ⟨false, hb, h⟩

lemma findM_eq_some {p : α → Outcome K Bool} {a : α} : ∀ {as : List α},
    as.findM? p = .ok (some a) ↔ ∃ before after, as = before ++ a :: after ∧ p a = .ok true ∧
      ∀ b ∈ before, p b = .ok false
  | [] => by simp [List.findM?]
  | c :: as => by
      rw [findM_cons, findM_eq_some]
      constructor
      · rintro (⟨hc, h⟩ | ⟨hc, before, after, rfl, ha, hb⟩)
        · cases h
          exact ⟨[], as, rfl, hc, by simp⟩
        · exact ⟨c :: before, after, rfl, ha, by simpa using ⟨hc, hb⟩⟩
      · rintro ⟨before, after, h, ha, hb⟩
        cases before with
        | nil =>
            cases h
            exact Or.inl ⟨ha, rfl⟩
        | cons b before =>
            cases h
            refine Or.inr ⟨hb c List.mem_cons_self, before, after, rfl, ha, ?_⟩
            exact fun b' hb' => hb b' (List.mem_cons_of_mem _ hb')

lemma findM_eq_none {p : α → Outcome K Bool} : ∀ {as : List α},
    as.findM? p = .ok none ↔ ∀ a ∈ as, p a = .ok false
  | [] => by simp [List.findM?]
  | c :: as => by
      rw [findM_cons, findM_eq_none]
      simp

/-- A search whose tests all have an answer has one. -/
lemma exists_findM {p : α → Outcome K Bool} : ∀ {as : List α},
    (∀ a ∈ as, ∃ b, p a = .ok b) → ∃ found, as.findM? p = .ok found
  | [], _ => ⟨none, rfl⟩
  | a :: as, h => by
      obtain ⟨found, hfound⟩ := exists_findM fun a' ha' => h a' (List.mem_cons_of_mem a ha')
      obtain ⟨b, hb⟩ := h a List.mem_cons_self
      cases b with
      | true => exact ⟨some a, findM_cons.mpr (Or.inl ⟨hb, rfl⟩)⟩
      | false => exact ⟨found, findM_cons.mpr (Or.inr ⟨hb, hfound⟩)⟩

lemma findSomeM_cons {f : α → Outcome K (Option β)} {a : α} {as : List α} {r : Option β} :
    (a :: as).findSomeM? f = .ok r ↔
      (∃ b, f a = .ok (some b) ∧ r = some b) ∨ (f a = .ok none ∧ as.findSomeM? f = .ok r) := by
  rw [List.findSomeM?, bind_eq_ok]
  constructor
  · rintro ⟨b, hb, h⟩
    cases b with
    | some b => exact Or.inl ⟨b, hb, by simpa [eq_comm] using h⟩
    | none => exact Or.inr ⟨hb, h⟩
  · rintro (⟨b, hb, rfl⟩ | ⟨hb, h⟩)
    · exact ⟨some b, hb, rfl⟩
    · exact ⟨none, hb, h⟩

lemma findSomeM_eq_some {f : α → Outcome K (Option β)} {b : β} : ∀ {as : List α},
    as.findSomeM? f = .ok (some b) ↔ ∃ before a after, as = before ++ a :: after ∧
      f a = .ok (some b) ∧ ∀ c ∈ before, f c = .ok none
  | [] => by simp [List.findSomeM?]
  | c :: as => by
      rw [findSomeM_cons, findSomeM_eq_some]
      constructor
      · rintro (⟨b', hc, h⟩ | ⟨hc, before, a, after, rfl, ha, hb⟩)
        · cases h
          exact ⟨[], c, as, rfl, hc, by simp⟩
        · exact ⟨c :: before, a, after, rfl, ha, by simpa using ⟨hc, hb⟩⟩
      · rintro ⟨before, a, after, h, ha, hb⟩
        cases before with
        | nil =>
            cases h
            exact Or.inl ⟨b, ha, rfl⟩
        | cons b' before =>
            cases h
            refine Or.inr ⟨hb c List.mem_cons_self, before, a, after, rfl, ha, ?_⟩
            exact fun b'' hb'' => hb b'' (List.mem_cons_of_mem _ hb'')

lemma findSomeM_eq_none {f : α → Outcome K (Option β)} : ∀ {as : List α},
    as.findSomeM? f = .ok none ↔ ∀ a ∈ as, f a = .ok none
  | [] => by simp [List.findSomeM?]
  | c :: as => by
      rw [findSomeM_cons, findSomeM_eq_none]
      simp

lemma exists_findSomeM {f : α → Outcome K (Option β)} : ∀ {as : List α},
    (∀ a ∈ as, ∃ b, f a = .ok b) → ∃ found, as.findSomeM? f = .ok found
  | [], _ => ⟨none, rfl⟩
  | a :: as, h => by
      obtain ⟨found, hfound⟩ := exists_findSomeM fun a' ha' => h a' (List.mem_cons_of_mem a ha')
      obtain ⟨o, ho⟩ := h a List.mem_cons_self
      cases o with
      | some b => exact ⟨some b, findSomeM_cons.mpr (Or.inl ⟨b, ho, rfl⟩)⟩
      | none => exact ⟨found, findSomeM_cons.mpr (Or.inr ⟨ho, hfound⟩)⟩

/-- Searches that tell the place of what they find go through the places in order. -/
lemma pairwise_zipIdx (xs : List α) : xs.zipIdx.Pairwise fun a b => a.2 < b.2 := by
  rw [← List.pairwise_map (R := (· < ·)), List.zipIdx_map_snd]
  exact List.pairwise_lt_range'

/-- No element passes exactly if each of them is tested, and fails. -/
lemma anyM_eq_false {p : α → Outcome K Bool} {xs : List α} :
    xs.anyM p = .ok false ↔ ∀ x ∈ xs, p x = .ok false := by
  induction xs with
  | nil => exact iff_of_true rfl (List.forall_mem_nil _)
  | cons x xs ih =>
      rw [List.anyM, bind_eq_ok, List.forall_mem_cons, ← ih]
      constructor
      · rintro ⟨found, hx, h⟩
        cases found with
        | true => cases h
        | false => exact ⟨hx, h⟩
      · rintro ⟨hx, h⟩
        exact ⟨false, hx, h⟩

/-- If every test has an answer, some element passes exactly if one is found. -/
lemma anyM_eq_true {p : α → Outcome K Bool} {xs : List α} (h : ∀ x ∈ xs, ∃ b, p x = .ok b) :
    xs.anyM p = .ok true ↔ ∃ x ∈ xs, p x = .ok true := by
  induction xs with
  | nil => exact iff_of_false nofun fun ⟨x, hx, _⟩ => List.not_mem_nil hx
  | cons x xs ih =>
      rw [List.forall_mem_cons] at h
      obtain ⟨⟨found, hx⟩, hxs⟩ := h
      rw [List.anyM, hx, List.exists_mem_cons_iff, ← ih hxs, hx]
      cases found with
      | true => exact iff_of_true rfl (Or.inl rfl)
      | false => exact (or_iff_right nofun).symm

/-- A search for an element that passes has an answer if every test has one. -/
lemma exists_anyM {p : α → Outcome K Bool} {xs : List α} (h : ∀ x ∈ xs, ∃ b, p x = .ok b) :
    ∃ found, xs.anyM p = .ok found := by
  by_cases hfound : ∃ x ∈ xs, p x = .ok true
  · exact ⟨true, (anyM_eq_true h).mpr hfound⟩
  · refine ⟨false, anyM_eq_false.mpr fun x hx => ?_⟩
    obtain ⟨b, hb⟩ := h x hx
    cases b with
    | true => exact absurd ⟨x, hx, hb⟩ hfound
    | false => exact hb

/-! ## The elements that pass -/

lemma filterM_cons {p : α → Outcome K Bool} {x : α} {xs : List α} :
    (x :: xs).filterM p = do
      let keep ← p x
      let kept ← xs.filterM p
      return if keep then x :: kept else kept := by
  have hfrom : ∀ (xs found : List α), List.filterAuxM p xs found =
      List.filterAuxM p xs [] >>= fun kept => pure (kept ++ found) := by
    intro xs
    induction xs with
    | nil => exact fun found => rfl
    | cons x xs ih =>
        intro found
        rw [List.filterAuxM, List.filterAuxM, bind_assoc]
        refine bind_congr fun keep => ?_
        rw [ih, ih (bif keep then [x] else []), bind_assoc]
        refine bind_congr fun kept => ?_
        cases keep <;> simp [bind, Except.bind]
  rw [List.filterM, List.filterAuxM, bind_assoc]
  refine bind_congr fun keep => ?_
  rw [hfrom, List.filterM, bind_assoc, bind_assoc]
  refine bind_congr fun kept => ?_
  cases keep <;> simp [bind, Except.bind]

/-- Where every element is tested with an answer, the ones that pass are what is left. -/
lemma filterM_eq_filter {p : α → Outcome K Bool} {keep : α → Bool} : ∀ {xs : List α},
    (∀ x ∈ xs, p x = .ok (keep x)) → xs.filterM p = .ok (xs.filter keep)
  | [], _ => rfl
  | x :: xs, h => by
      have hrest := filterM_eq_filter fun x' hx' => h x' (List.mem_cons_of_mem x hx')
      rw [filterM_cons, h x List.mem_cons_self, hrest, List.filter_cons]
      rfl

/-- What is left of a list is known only if every element is tested with an answer. -/
lemma exists_of_filterM {p : α → Outcome K Bool} {xs ys : List α} (h : xs.filterM p = .ok ys) :
    ∀ x ∈ xs, ∃ keep, p x = .ok keep := by
  induction xs generalizing ys with
  | nil => simp
  | cons x xs ih =>
      rw [filterM_cons] at h
      obtain ⟨keep, hkeep, h⟩ := bind_eq_ok.mp h
      obtain ⟨kept, hkept, -⟩ := bind_eq_ok.mp h
      exact List.forall_mem_cons.mpr ⟨⟨keep, hkeep⟩, ih hkept⟩

lemma filterM_eq_error {p : α → Outcome K Bool} {e : Fault K} : ∀ {xs : List α},
    xs.filterM p = .error e → ∃ x ∈ xs, p x = .error e
  | [], h => by cases h
  | x :: xs, h => by
      rw [filterM_cons, bind_eq_error] at h
      rcases h with h | ⟨keep, -, h⟩
      · exact ⟨x, List.mem_cons_self, h⟩
      · rcases bind_eq_error.mp h with h | ⟨kept, -, h⟩
        · obtain ⟨x', hx', he⟩ := filterM_eq_error h
          exact ⟨x', List.mem_cons_of_mem x hx', he⟩
        · cases h

/-- Lists whose elements are tested alike and show alike are alike in what is left. -/
lemma map_filterM_congr {p : α → Outcome K Bool} {g : α → β} {xs ys : List α}
    (h : List.Forall₂ (fun x y => p x = p y ∧ g x = g y) xs ys) :
    List.map g <$> xs.filterM p = List.map g <$> ys.filterM p := by
  induction h with
  | nil => rfl
  | @cons x y xs ys hxy _ ih =>
      obtain ⟨hp, hg⟩ := hxy
      have hcons (z : α) (zs : List α) : List.map g <$> (z :: zs).filterM p = do
          let keep ← p z
          let kept ← List.map g <$> zs.filterM p
          return if keep then g z :: kept else kept := by
        rw [filterM_cons, map_bind]
        refine bind_congr fun keep => ?_
        rw [map_bind, bind_map_left]
        refine bind_congr fun kept => ?_
        cases keep <;> rfl
      rw [hcons, hcons, hp, hg, ih]

/-! ## Faults that are avoided -/

/-- **The computation does not end in a fault of a kind.** -/
def Avoids (bad : Fault K → Prop) (x : Outcome K α) : Prop := ∀ e, bad e → x ≠ .error e

section Avoids

variable {bad : Fault K → Prop} {x : Outcome K α}

@[simp] lemma avoids_ok (a : α) : Avoids bad (.ok a : Outcome K α) := fun _ _ h => by cases h

@[simp] lemma avoids_error {e : Fault K} : Avoids bad (.error e : Outcome K α) ↔ ¬ bad e := by
  constructor
  · exact fun h hbad => h e hbad rfl
  · rintro h _ hbad ⟨⟩
    exact h hbad

@[simp] lemma avoids_bind {f : α → Outcome K β} :
    (x >>= f).Avoids bad ↔ x.Avoids bad ∧ ∀ a, x = .ok a → (f a).Avoids bad := by
  cases x <;> simp [bind, Except.bind]

@[simp] lemma avoids_map {f : α → β} : (f <$> x).Avoids bad ↔ x.Avoids bad := by
  cases x <;> simp [Functor.map, Except.map]

@[simp] lemma avoids_ite {p : Prop} [Decidable p] {y : Outcome K α} :
    (if p then x else y).Avoids bad ↔ (p → x.Avoids bad) ∧ (¬ p → y.Avoids bad) := by
  split <;> simp [*]

@[simp] lemma avoids_optionMapM {f : α → Outcome K β} {o : Option α}
    (h : ∀ a, o = some a → (f a).Avoids bad) : (o.mapM f).Avoids bad := by
  cases o with
  | none => exact avoids_ok none
  | some a => exact avoids_map.mpr (h a rfl)

@[simp] lemma avoids_mapM {f : α → Outcome K β} {xs : List α} (h : ∀ a ∈ xs, (f a).Avoids bad) :
    (xs.mapM f).Avoids bad := by
  intro e hbad he
  obtain ⟨a, ha, he⟩ := mapM_eq_error he
  exact h a ha e hbad he

@[simp] lemma avoids_foldlM {f : β → α → Outcome K β} {xs : List α} {b : β}
    (h : ∀ a ∈ xs, ∀ b, (f b a).Avoids bad) : (xs.foldlM f b).Avoids bad := by
  induction xs generalizing b with
  | nil => exact avoids_ok b
  | cons a xs ih =>
      rw [List.forall_mem_cons] at h
      rw [List.foldlM_cons, avoids_bind]
      exact ⟨h.1 b, fun b' _ => ih h.2⟩

@[simp] lemma avoids_findM {p : α → Outcome K Bool} {xs : List α}
    (h : ∀ a ∈ xs, (p a).Avoids bad) : (xs.findM? p).Avoids bad := by
  induction xs with
  | nil => exact avoids_ok none
  | cons a xs ih =>
      rw [List.forall_mem_cons] at h
      rw [List.findM?, avoids_bind]
      refine ⟨h.1, fun found _ => ?_⟩
      cases found with
      | true => exact avoids_ok _
      | false => exact ih h.2

@[simp] lemma avoids_findSomeM {f : α → Outcome K (Option β)} {xs : List α}
    (h : ∀ a ∈ xs, (f a).Avoids bad) : (xs.findSomeM? f).Avoids bad := by
  induction xs with
  | nil => exact avoids_ok none
  | cons a xs ih =>
      rw [List.forall_mem_cons] at h
      rw [List.findSomeM?, avoids_bind]
      refine ⟨h.1, fun found _ => ?_⟩
      cases found with
      | some b => exact avoids_ok _
      | none => exact ih h.2

@[simp] lemma avoids_anyM {p : α → Outcome K Bool} {xs : List α}
    (h : ∀ a ∈ xs, (p a).Avoids bad) : (xs.anyM p).Avoids bad := by
  induction xs with
  | nil => exact avoids_ok false
  | cons a xs ih =>
      rw [List.forall_mem_cons] at h
      rw [List.anyM, avoids_bind]
      refine ⟨h.1, fun found _ => ?_⟩
      cases found with
      | true => exact avoids_ok true
      | false => exact ih h.2

@[simp] lemma avoids_filterM {p : α → Outcome K Bool} {xs : List α}
    (h : ∀ a ∈ xs, (p a).Avoids bad) : (xs.filterM p).Avoids bad := by
  intro e hbad he
  obtain ⟨a, ha, he⟩ := filterM_eq_error he
  exact h a ha e hbad he

end Avoids

end Crossing.Outcome
