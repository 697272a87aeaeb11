import Crossing.Chain
import Crossing.Proofs.Outcome

/-!
# Thinning

Thinning compares each element with the last one kept, so a list falls into groups: an element that
is kept, and behind it the elements that are close to that one.  `Chain.Thins` says what groups
those are without going through the list, and `Chain.thin_eq_ok` that thinning keeps the element
that each of them begins with.  What else is said of what is kept is said of those groups.
-/

namespace Crossing.Chain

variable {K α : Type} {close : α → α → Outcome K Bool} {first : α} {as kept dropped : List α}
  {g : α × List α} {groups : List (α × List α)}

/-! ## Groups of close elements -/

/-- The elements of groups, in order. -/
def members (groups : List (α × List α)) : List α := groups.flatMap fun g => g.1 :: g.2

/-- **Groups as thinning makes them.**  Everything in a group is close to the element that the group
begins with, and no group begins close to where the one before it began. -/
structure Thins (close : α → α → Outcome K Bool) (groups : List (α × List α)) : Prop where
  near : ∀ g ∈ groups, ∀ a ∈ g.2, close a g.1 = .ok true
  apart : ∀ way ∈ links (groups.map Prod.fst), close way.2 way.1 = .ok false

@[simp] lemma members_cons : members (g :: groups) = g.1 :: (g.2 ++ members groups) := rfl

lemma thins_nil : Thins close [] := ⟨nofun, nofun⟩

lemma thins_cons : Thins close ((first, dropped) :: groups) ↔
    (∀ a ∈ dropped, close a first = .ok true) ∧
      (∀ g ∈ groups.head?, close g.1 first = .ok false) ∧ Thins close groups := by
  constructor
  · rintro ⟨hnear, hapart⟩
    rw [List.forall_mem_cons] at hnear
    cases groups with
    | nil => exact ⟨hnear.1, by simp, thins_nil⟩
    | cons g groups =>
        rw [List.map_cons, List.map_cons, links, List.forall_mem_cons] at hapart
        refine ⟨hnear.1, ?_, hnear.2, hapart.2⟩
        rintro _ ⟨⟩
        exact hapart.1
  · rintro ⟨hdropped, hnext, hnear, hapart⟩
    refine ⟨List.forall_mem_cons.mpr ⟨hdropped, hnear⟩, ?_⟩
    cases groups with
    | nil => simp [links]
    | cons g groups =>
        rw [List.map_cons, List.map_cons, links, List.forall_mem_cons]
        exact ⟨hnext g rfl, hapart⟩

/-- Behind an element that is kept come the rest of its group and then the other groups. -/
lemma thinAfter_eq_ok : thinAfter close first as = .ok kept ↔
    ∃ dropped groups, Thins close ((first, dropped) :: groups) ∧
      dropped ++ members groups = as ∧ groups.map Prod.fst = kept := by
  induction as generalizing first kept with
  | nil =>
      constructor
      · rintro ⟨⟩
        exact ⟨[], [], thins_cons.mpr ⟨nofun, nofun, thins_nil⟩, rfl, rfl⟩
      · rintro ⟨dropped, groups, -, hmembers, rfl⟩
        cases groups with
        | nil => rfl
        | cons g groups => simp at hmembers
  | cons a as ih =>
      rw [thinAfter, Outcome.bind_eq_ok]
      constructor
      · rintro ⟨same, hsame, h⟩
        cases same with
        | true =>
            obtain ⟨dropped, groups, hthins, rfl, rfl⟩ := ih.mp h
            obtain ⟨hdropped, hrest⟩ := thins_cons.mp hthins
            exact ⟨a :: dropped, groups,
              thins_cons.mpr ⟨List.forall_mem_cons.mpr ⟨hsame, hdropped⟩, hrest⟩, rfl, rfl⟩
        | false =>
            obtain ⟨later, hlater, ⟨⟩⟩ := Outcome.bind_eq_ok.mp h
            obtain ⟨dropped, groups, hthins, rfl, rfl⟩ := ih.mp hlater
            refine ⟨[], (a, dropped) :: groups, thins_cons.mpr ⟨nofun, ?_, hthins⟩, rfl, rfl⟩
            rintro _ ⟨⟩
            exact hsame
      · rintro ⟨dropped, groups, hthins, hmembers, rfl⟩
        obtain ⟨hdropped, hnext, hrest⟩ := thins_cons.mp hthins
        cases dropped with
        | cons b dropped =>
            -- the element is close to the one kept last
            obtain ⟨rfl, rfl⟩ := List.cons.inj hmembers
            rw [List.forall_mem_cons] at hdropped
            exact ⟨true, hdropped.1,
              ih.mpr ⟨dropped, groups, thins_cons.mpr ⟨hdropped.2, hnext, hrest⟩, rfl, rfl⟩⟩
        | nil =>
            -- the element begins a group of its own
            cases groups with
            | nil => cases hmembers
            | cons g groups =>
                obtain ⟨rfl, rfl⟩ := List.cons.inj hmembers
                exact ⟨false, hnext g rfl, Outcome.bind_eq_ok.mpr
                  ⟨_, ih.mpr ⟨g.2, groups, hrest, rfl, rfl⟩, rfl⟩⟩

/-- **Thinning keeps what the groups of a list begin with.** -/
lemma thin_eq_ok : thin close as = .ok kept ↔
    ∃ groups, Thins close groups ∧ members groups = as ∧ groups.map Prod.fst = kept := by
  cases as with
  | nil =>
      constructor
      · rintro ⟨⟩
        exact ⟨[], thins_nil, rfl, rfl⟩
      · rintro ⟨groups, -, hmembers, rfl⟩
        cases groups with
        | nil => rfl
        | cons g groups => cases hmembers
  | cons a as =>
      rw [thin, Outcome.bind_eq_ok]
      constructor
      · rintro ⟨later, hlater, ⟨⟩⟩
        obtain ⟨dropped, groups, hthins, rfl, rfl⟩ := thinAfter_eq_ok.mp hlater
        exact ⟨(a, dropped) :: groups, hthins, rfl, rfl⟩
      · rintro ⟨groups, hthins, hmembers, rfl⟩
        cases groups with
        | nil => cases hmembers
        | cons g groups =>
            obtain ⟨rfl, rfl⟩ := List.cons.inj hmembers
            exact ⟨_, thinAfter_eq_ok.mpr ⟨g.2, groups, hthins, rfl, rfl⟩, rfl⟩

/-! ## What is kept -/

/-- What is kept is not close to what was kept before it. -/
lemma apart_of_thin (h : thin close as = .ok kept) :
    ∀ way ∈ links kept, close way.2 way.1 = .ok false := by
  obtain ⟨groups, hthins, -, rfl⟩ := thin_eq_ok.mp h
  exact hthins.apart

/-- What groups begin with comes from the list that falls into them, in the same order. -/
lemma sublist_members (groups : List (α × List α)) :
    (groups.map Prod.fst).Sublist (members groups) := by
  induction groups with
  | nil => exact .slnil
  | cons g groups ih => exact (ih.trans (List.sublist_append_right g.2 _)).cons_cons g.1

/-- **What is kept stands in the list in the same order.** -/
lemma sublist_of_thin (h : thin close as = .ok kept) : kept.Sublist as := by
  obtain ⟨groups, -, rfl, rfl⟩ := thin_eq_ok.mp h
  exact sublist_members groups

/-- The first element is always kept. -/
lemma head?_of_thin (h : thin close as = .ok kept) : kept.head? = as.head? := by
  obtain ⟨groups, -, rfl, rfl⟩ := thin_eq_ok.mp h
  cases groups with
  | nil => rfl
  | cons g groups => rfl

/-- Nothing is dropped from a list whose elements are not close to the one before them. -/
lemma thin_of_apart (h : ∀ way ∈ links as, close way.2 way.1 = .ok false) :
    thin close as = .ok as := by
  have hfst : (as.map fun a => (a, ([] : List α))).map Prod.fst = as := by
    rw [List.map_map]
    exact List.map_id as
  refine thin_eq_ok.mpr ⟨as.map fun a => (a, []), ⟨?_, by rwa [hfst]⟩, ?_, hfst⟩
  · rintro _ hg a ha
    obtain ⟨b, -, rfl⟩ := List.mem_map.mp hg
    cases ha
  · rw [members, List.flatMap_map]
    exact List.flatMap_singleton' as

/-- Thinning ends early only if saying what is close does. -/
@[simp] lemma avoids_thin {bad : Fault K → Prop} (h : ∀ a b, (close a b).Avoids bad) :
    (thin close as).Avoids bad := by
  have hafter (as : List α) (kept : α) : (thinAfter close kept as).Avoids bad := by
    induction as generalizing kept with
    | nil => exact Outcome.avoids_ok []
    | cons a as ih => simp [thinAfter, h, ih]
  cases as with
  | nil => exact Outcome.avoids_ok []
  | cons a as => simp [thin, hafter]

end Crossing.Chain
