/-!
# Lists in order

`Sorting.sort` puts a list in the order of a comparison, one element after the other: each is
placed before the first of the later ones that it does not come after.  Elements that compare as
equal keep the order that they had.

Both functions follow the list, so a sorted list of known elements can be computed in a proof.
-/

namespace Crossing.Sorting

variable {α : Type}

/-- A list with one more element, before the first that it does not come after. -/
def place (le : α → α → Bool) (a : α) : List α → List α
  | [] => [a]
  | b :: rest => if le a b then a :: b :: rest else b :: place le a rest

/-- A list in the order of `le`. -/
def sort (le : α → α → Bool) : List α → List α
  | [] => []
  | a :: rest => place le a (sort le rest)

end Crossing.Sorting
