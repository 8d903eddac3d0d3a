import OpenBus.Machine.Action
import OpenBus.Machine.Run

/-! # Actions that follow a machine

A machine has the sections of a program as its steps, and an action composes such sections. From a
state, the action follows the machine if its execution is a run: from the state of a run it ends,
also by an exception, in the state of a longer one. The rules compose actions as the monad does, so
what holds along every run of the machine holds after every execution. The action may work on more
than the machine does; `view` is the part of its state that the machine has. `Leads` is the relation
of the states before and after.
-/

namespace Machine

/-- Every run to the first state goes on to the second one. -/
def Leads {σ Event : Type} (m : Labeled σ Event) (s t : σ) : Prop :=
  ∀ history, Run m history s → ∃ more, Run m (more ++ history) t

namespace Leads

variable {σ Event : Type} {m : Labeled σ Event} {s t u : σ}

theorem refl (s : σ) : Leads m s s := fun _ run => ⟨[], run⟩

theorem of_step {e : Event} (step : m.Step s e t) : Leads m s t :=
  fun _ run => ⟨[e], run.step step⟩

theorem trans (first : Leads m s t) (second : Leads m t u) : Leads m s u := by
  intro history run
  obtain ⟨more, reached⟩ := first history run
  obtain ⟨last, done⟩ := second _ reached
  exact ⟨last ++ more, by rwa [List.append_assoc]⟩

end Leads

namespace Action

variable {σ τ ε α β Event : Type} {m : Labeled σ Event} {view : τ → σ} {t : τ}

def Follows (m : Labeled σ Event) (view : τ → σ) (x : Action τ ε α) (t : τ) : Prop :=
  ∀ history, Run m history (view t) → ∃ more, Run m (more ++ history) (view (x t).2)

namespace Follows

/-- One step leads to the state that the action leaves behind. -/
theorem of_step {x : Action τ ε α} {e : Event} (step : m.Step (view t) e (view (x t).2)) :
    Follows m view x t :=
  fun _ run => ⟨[e], run.step step⟩

/-- The action does not touch what the machine has. -/
theorem of_same {x : Action τ ε α} (same : view (x t).2 = view t) : Follows m view x t := by
  intro history run
  refine ⟨[], ?_⟩
  rw [same]
  exact run

theorem pure (a : α) : Follows m view (Pure.pure a : Action τ ε α) t := of_same rfl

theorem throw (e : ε) : Follows m view (MonadExcept.throw e : Action τ ε α) t := of_same rfl

theorem ofExcept (result : Except ε α) :
    Follows m view (Action.ofExcept result : Action τ ε α) t := of_same rfl

/-- The second part starts where the first one has ended. -/
theorem bind {x : Action τ ε α} {f : α → Action τ ε β} (left : Follows m view x t)
    (right : ∀ a u, x t = (.ok a, u) → Follows m view (f a) u) : Follows m view (x >>= f) t := by
  intro history run
  obtain ⟨first, after⟩ := left history run
  rcases ran : x t with ⟨e | a, u⟩ <;> rw [ran] at after
  · rw [bind_apply_error ran]
    exact ⟨first, after⟩
  · rw [bind_apply_ok ran]
    obtain ⟨second, done⟩ := right a u ran _ after
    exact ⟨second ++ first, by rwa [List.append_assoc]⟩

theorem modify {f : τ → τ} (leads : Leads m (view t) (view (f t))) :
    Follows m view (modify f : Action τ ε PUnit) t := leads

theorem get_bind {f : τ → Action τ ε β} (rest : Follows m view (f t) t) :
    Follows m view (MonadState.get >>= f) t := rest

theorem tryCatch {x : Action τ ε α} {f : ε → Action τ ε α} (body : Follows m view x t)
    (handler : ∀ e u, x t = (.error e, u) → Follows m view (f e) u) :
    Follows m view (MonadExcept.tryCatch x f) t := by
  intro history run
  obtain ⟨first, after⟩ := body history run
  rcases ran : x t with ⟨e | a, u⟩ <;> rw [ran] at after <;> rw [tryCatch_apply, ran]
  · obtain ⟨second, done⟩ := handler e u ran _ after
    exact ⟨second ++ first, by rwa [List.append_assoc]⟩
  · exact ⟨first, after⟩

theorem attempt {x : Action τ ε α} (follows : Follows m view x t) :
    Follows m view (attempt x) t := follows

theorem ite {p : Prop} [Decidable p] {x y : Action τ ε α} (left : p → Follows m view x t)
    (right : ¬ p → Follows m view y t) : Follows m view (if p then x else y) t := by
  split
  · next holds => exact left holds
  · next fails => exact right fails

end Follows

end Action

end Machine
