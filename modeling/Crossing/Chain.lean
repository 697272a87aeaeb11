import Crossing.Fault

/-!
# Chains: consecutive pairs and thinning

Boundaries, centre lines and paths are lists that are read two neighbours at a time.  `links`
lists those neighbours.  `thin` drops every element that is close to the last one kept before it,
so what is kept depends on the order: being close is not transitive, and a long row of close
elements keeps one as soon as it has moved away from the last one kept.

Closeness is a parameter, and testing it may fail.
-/

namespace Crossing.Chain

variable {K α β : Type}

/-- Neighbours in a list: `links [a, b, c] = [(a, b), (b, c)]`. -/
def links : List α → List (α × α)
  | a :: b :: rest => (a, b) :: links (b :: rest)
  | _ => []

/-- A list of `n + 1` elements has `n` links. -/
theorem length_links : ∀ as : List α, (links as).length = as.length - 1
  | [] => rfl
  | [_] => rfl
  | _ :: b :: rest => by
    rw [links, List.length_cons, length_links (b :: rest)]
    rfl

/-- What is kept after `kept` once the elements close to the last one kept are dropped. -/
def thinAfter (close : α → α → Outcome K Bool) (kept : α) : List α → Outcome K (List α)
  | [] => .ok []
  | a :: rest => do
    if ← close a kept then thinAfter close kept rest
    else return a :: (← thinAfter close a rest)

/-- A list without the elements that are close to the last one kept before them. -/
def thin (close : α → α → Outcome K Bool) : List α → Outcome K (List α)
  | [] => .ok []
  | a :: rest => return a :: (← thinAfter close a rest)

end Crossing.Chain
