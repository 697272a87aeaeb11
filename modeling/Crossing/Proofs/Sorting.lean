import Mathlib.Data.List.Sort
import Crossing.Sorting

/-!
# Sorted lists

`Sorting.sort` is insertion sort, so what the library knows about that carries over: it has the
same elements as before (`sort_perm`), and they are in order as soon as the comparison is total
and transitive (`pairwise_sort`).  Elements that are compared by a number of theirs, and of which
no two have the same, come out in strict order (`pairwise_sort_of_nodup`).
-/

namespace Crossing.Sorting

variable {α : Type} {le : α → α → Bool}

lemma place_eq_orderedInsert (le : α → α → Bool) (a : α) : ∀ xs : List α,
    place le a xs = xs.orderedInsert (fun a b => le a b = true) a
  | [] => rfl
  | b :: rest => by
      rw [place, List.orderedInsert, place_eq_orderedInsert le a rest]

lemma sort_eq_insertionSort (le : α → α → Bool) : ∀ xs : List α,
    sort le xs = xs.insertionSort fun a b => le a b = true
  | [] => rfl
  | a :: rest => by
      rw [sort, sort_eq_insertionSort le rest, place_eq_orderedInsert, List.insertionSort_cons]

lemma sort_perm (le : α → α → Bool) (xs : List α) : (sort le xs).Perm xs := by
  rw [sort_eq_insertionSort]
  exact List.perm_insertionSort _ xs

@[simp] lemma mem_sort {a : α} {xs : List α} : a ∈ sort le xs ↔ a ∈ xs :=
  (sort_perm le xs).mem_iff

lemma pairwise_sort (le : α → α → Bool) (total : ∀ a b, le a b = true ∨ le b a = true)
    (trans : ∀ a b c, le a b = true → le b c = true → le a c = true) (xs : List α) :
    (sort le xs).Pairwise fun a b => le a b = true := by
  have _ : Std.Total fun a b => le a b = true := ⟨total⟩
  have _ : IsTrans α fun a b => le a b = true := ⟨trans⟩
  rw [sort_eq_insertionSort]
  exact List.pairwise_insertionSort _ xs

lemma pairwise_sort_of_nodup {key : α → Int} {xs : List α} (h : (xs.map key).Nodup) :
    (sort (fun a b => key a ≤ key b) xs).Pairwise fun a b => key a < key b := by
  let le (a b : α) : Bool := key a ≤ key b
  have hle := pairwise_sort le
    (fun a b => by simpa [le] using Int.le_total (key a) (key b))
    (fun a b c => by simpa [le] using Int.le_trans) xs
  have hne := ((sort_perm le xs).map key).nodup_iff.mpr h
  rw [List.Nodup, List.pairwise_map] at hne
  refine hle.imp₂ (fun a b hab hne => ?_) hne
  have hab : key a ≤ key b := by simpa [le] using hab
  omega

end Crossing.Sorting
