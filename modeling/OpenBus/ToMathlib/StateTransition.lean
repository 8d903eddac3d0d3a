import Mathlib.Computability.StateTransition

/-! # Recurrent states of a transition function

A set of states is recurrent if from each of them, one or more steps lead to another one of the
set. A computation that enters such a set never completes. This belongs beside
`StateTransition.reaches_eval` upstream.
-/

namespace StateTransition

variable {σ : Type*} {f : σ → Option σ} {a b : σ}

/-- A computation that comes to a recurrent set diverges. -/
theorem not_dom_eval_of_recurrent {S : Set σ} (recurrent : ∀ a ∈ S, ∃ b ∈ S, Reaches₁ f a b)
    (reaches : Reaches f a b) (mem : b ∈ S) : ¬ (eval f a).Dom := by
  intro completes
  obtain ⟨last, found⟩ := Part.dom_iff_mem.mp completes
  suffices never : ∀ b, Reaches f a b → b ∉ S from never b reaches mem
  refine evalInduction found fun a _ ih b reaches mem => ?_
  obtain ⟨c, memC, again⟩ := recurrent b mem
  -- The first step towards `c` is the one which the computation takes.
  obtain ⟨next, first, rest⟩ := Relation.TransGen.head'_iff.mp (again.trans_right reaches)
  exact ih next first c rest memC

end StateTransition
