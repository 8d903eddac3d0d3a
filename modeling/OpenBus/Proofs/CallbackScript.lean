import OpenBus.Model.CallbackScript
import OpenBus.Proofs.LoginCallback
import OpenBus.ToMathlib.StateTransition

/-! # How a script runs

Every execution of a script is a run of its thread, whose callbacks are left open there. What a body
does depends on the connection only by what has become of the login, so a scan of the body tells how
it ends, or that it comes to a request which is not refused at once.
-/

namespace OpenBus

open Machine StateTransition

namespace LoginCallback

open ConnectionThreads (currentLogin)

variable {script : Script} {conn : Connection} {used : List Identifier} {c d : Execution}
  {below : List (Frame (List Deed))} {invalid : LoginInfo}

/-- An action that calls nothing back is an operation of the thread. -/
theorem Act.operation {act : Act} (served : act = .request → (currentLogin conn).id ≠ []) :
    Operation (conn, used) (act.perform script conn used).event
      ((act.perform script conn used).conn, (act.perform script conn used).used) := by
  cases act with
  | login facets =>
    dsimp only [Act.perform]
    split
    · exact .other rfl
    · next free => exact .login facets _ (script.fresh used).1 (script.fresh used).2 free
  | refusedLogin facets =>
    dsimp only [Act.perform]
    split <;> exact .other rfl
  | logout => exact .logout
  | invalidated =>
    dsimp only [Act.perform]
    split
    · exact .other rfl
    · next current => exact .invalidated current
  | setCallback registered => exact .setCallback registered
  | request => exact .answered (served rfl)
  | raise => exact .other rfl

/-- Only the innermost call of `get_login` is not in its callback. -/
def Stacked (frames : List (Frame (List Deed))) : Prop :=
  ∀ frame ∈ frames.tail, ∃ invalid rest, frame = .running invalid rest

theorem acting_resume {frame : Frame (List Deed)} (stacked : Stacked (frame :: below))
    (login : LoginInfo) : Acting below (resume login below) ∧ Stacked (resume login below) := by
  cases below with
  | nil => exact ⟨.outside, stacked⟩
  | cons next others =>
    obtain ⟨invalid, rest, rfl⟩ := stacked next List.mem_cons_self
    have deeper : ∀ frame ∈ others, ∃ invalid rest, frame = .running invalid rest :=
      fun frame mem => stacked frame (List.mem_cons_of_mem _ mem)
    cases rest with
    | nil => exact ⟨.inside [], deeper⟩
    | cons deed rest => exact ⟨.inside _, deeper⟩

/-- A step of an execution is a step of its thread. -/
theorem Execution.step_run
    (run : Run (callbackMachine (List Deed)) c.trace c.thread) (stacked : Stacked c.thread.frames)
    (stepped : c.step script = some d) :
    Run (callbackMachine (List Deed)) d.trace d.thread ∧ Stacked d.thread.frames := by
  obtain ⟨⟨conn, frames, used⟩, trace⟩ := c
  rcases frames with _ | ⟨⟨login, invalid⟩ | invalid | ⟨invalid, _ | ⟨deed, rest⟩⟩ | login, below⟩
  · cases stepped
  · dsimp only [Execution.step] at stepped
    split at stepped
    · next set =>
      cases stepped
      exact ⟨run.step (.heard rfl set), stacked⟩
    · next unset =>
      cases stepped
      exact ⟨run.step (.unheard rfl (by simpa using unset)), stacked⟩
  · cases stepped
    exact ⟨run.step (.call _ rfl), stacked⟩
  · cases stepped
    exact ⟨run.step (.finish rfl), stacked⟩
  · dsimp only [Execution.step] at stepped
    split at stepped
    · next asks =>
      cases stepped
      refine ⟨run.step (.enter (.inside _) asks.2), ?_⟩
      exact List.forall_mem_cons.mpr ⟨⟨invalid, _, rfl⟩, stacked⟩
    · next served =>
      cases stepped
      refine ⟨run.step (.operate (.inside _) (Act.operation fun request => ?_)), stacked⟩
      exact fun absent => served ⟨request, absent⟩
  · cases stepped
    obtain ⟨acting, after⟩ := acting_resume stacked login
    exact ⟨run.step (.leave rfl acting), after⟩

/-- Every execution is a run. -/
theorem Execution.run_of_reaches
    (run : Run (callbackMachine (List Deed)) c.trace c.thread) (stacked : Stacked c.thread.frames)
    (reaches : Reaches (Execution.step script) c d) :
    Run (callbackMachine (List Deed)) d.trace d.thread ∧ Stacked d.thread.frames := by
  induction reaches with
  | refl => exact ⟨run, stacked⟩
  | tail _ stepped ih => exact Execution.step_run ih.1 ih.2 stepped

theorem Execution.start_run (sound : Sound conn used) :
    Run (callbackMachine (List Deed)) (Execution.start conn used).trace
        (Execution.start conn used).thread ∧
      Stacked (Execution.start conn used).thread.frames := by
  have outside : Run (callbackMachine (List Deed)) [] ⟨conn, [], used⟩ := .start ⟨sound, rfl⟩
  unfold Execution.start
  split
  · next found => exact ⟨outside.step (.operate .outside (.answered found)), by simp [Stacked]⟩
  · next absent =>
    exact ⟨outside.step (.enter .outside (not_not.mp absent)), by simp [Stacked]⟩

end LoginCallback

end OpenBus
