import Crossing.Proofs.Outcome
import Crossing.Quantity

/-!
# Computations that are not refused

Some inputs meet every demand, and then a computation can only end with its value or in a breach,
which nothing recovers from.  `Outcome.Delivers` says this together with what is known of the value,
so it serves as the postcondition of a computation.

The rules follow the ways in which computations are strung together.  The one for `foldlM` is an
induction over the list, with an invariant that speaks of the elements worked off so far.
Arithmetic of distances is never refused; neither is anything whose refusals are tolerated.
-/

namespace Crossing

namespace Outcome

variable {K α β : Type} {P P' : α → Prop} {Q : β → Prop} {x : Outcome K α} {a : α}

/-- **The computation ends with a value that has the property, or in a breach.** -/
def Delivers (x : Outcome K α) (P : α → Prop) : Prop :=
  (∃ a, x = .ok a ∧ P a) ∨ ∃ why, x = .error (.broken why)

namespace Delivers

lemma ok (h : P a) : Delivers (.ok a : Outcome K α) P := Or.inl ⟨a, rfl, h⟩

lemma breach {why : Breach K} : Delivers (Outcome.breach why) P := Or.inr ⟨why, rfl⟩

lemma imp (hx : x.Delivers P) (h : ∀ a, P a → P' a) : x.Delivers P' := by
  rcases hx with ⟨a, ha, hP⟩ | hwhy
  · exact Or.inl ⟨a, ha, h a hP⟩
  · exact Or.inr hwhy

/-- A value that comes out has the property. -/
lemma of_eq_ok (hx : x.Delivers P) (h : x = .ok a) : P a := by
  rcases hx with ⟨a', ha', hP⟩ | ⟨why, hwhy⟩
  · cases h.symm.trans ha'
    exact hP
  · cases h.symm.trans hwhy

lemma bind {f : α → Outcome K β} (hx : x.Delivers P) (hf : ∀ a, P a → (f a).Delivers Q) :
    (x >>= f).Delivers Q := by
  rcases hx with ⟨a, rfl, hP⟩ | ⟨why, rfl⟩
  · exact hf a hP
  · exact Or.inr ⟨why, rfl⟩

lemma mapM {f : α → Outcome K β} {R : α → β → Prop} : ∀ {xs : List α},
    (∀ a ∈ xs, (f a).Delivers (R a)) → (xs.mapM f).Delivers (List.Forall₂ R xs)
  | [], _ => ok .nil
  | a :: xs, hf => by
      rw [List.mapM_cons]
      refine bind (hf a List.mem_cons_self) fun b hb => ?_
      refine bind (mapM fun a' ha' => hf a' (List.mem_cons_of_mem _ ha')) fun bs hbs => ?_
      exact ok (.cons hb hbs)

/-- What holds at first, and goes on to hold with each element that is worked off, holds in the
end.  `done` are the elements worked off so far. -/
lemma foldlM {f : β → α → Outcome K β} {I : List α → β → Prop} {xs : List α} {b : β}
    (hf : ∀ done, ∀ a ∈ xs, ∀ b, I done b → (f b a).Delivers (I (done ++ [a]))) (hb : I [] b) :
    (xs.foldlM f b).Delivers (I xs) := by
  have hfrom : ∀ (rest done : List α) (b : β), (∀ a ∈ rest, a ∈ xs) → I done b →
      (rest.foldlM f b).Delivers (I (done ++ rest)) := by
    intro rest
    induction rest with
    | nil =>
        intro done b _ hb
        rw [List.append_nil]
        exact ok hb
    | cons a rest ih =>
        intro done b hrest hb
        rw [List.foldlM_cons]
        refine bind (hf done a (hrest a List.mem_cons_self) b hb) fun b' hb' => ?_
        have hdone := ih (done ++ [a]) b' (fun a' ha' => hrest a' (List.mem_cons_of_mem _ ha')) hb'
        rwa [List.append_assoc] at hdone
  exact hfrom xs [] b (fun _ ha => ha) hb

/-- What is tolerated is not refused. -/
lemma tolerate : (Outcome.tolerate x).Delivers fun _ => True := by
  cases x with
  | ok a => exact ok trivial
  | error f =>
      cases f with
      | refused why activities => exact ok trivial
      | broken why => exact Or.inr ⟨why, rfl⟩

lemma demand {why : Breach K} {o : Option α} :
    (Outcome.demand why o).Delivers fun a => o = some a := by
  cases o with
  | none => exact breach
  | some a => exact ok rfl

end Delivers

end Outcome

/-! ## Distances -/

namespace Distance

variable {K : Type} [Scalar K] {x : K} {a b : Distance K} {ds : List (Distance K)}

lemma delivers_ofMetres : (ofMetres x).Delivers fun _ => True := by
  unfold ofMetres
  split
  · exact .ok trivial
  · exact .breach

lemma delivers_add : (a.add b).Delivers fun _ => True := delivers_ofMetres

lemma delivers_sub : (a.sub b).Delivers fun _ => True := delivers_ofMetres

lemma delivers_scale : (scale x a).Delivers fun _ => True := delivers_ofMetres

lemma delivers_sum : (sum ds).Delivers fun _ => True := by
  unfold sum
  exact .foldlM (I := fun _ _ => True) (fun _ _ _ _ _ => delivers_add) trivial

end Distance

end Crossing
