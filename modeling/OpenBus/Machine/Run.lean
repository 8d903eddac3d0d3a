import Mathlib.Data.List.Infix

/-! # Finite runs of a labeled machine and their histories

A run is recorded by its history, the labels of its steps with the newest first, so that a
condition on the order of events is a recursion on the history and the past of a step is the
tail of the list. `Run.invariant` packages the induction once: a property of the history and
the state that holds at the start and survives each step holds of every run. `Always` states
a schedule condition, that each step of a history meets a guard on its past, and
`Run.invariant_of_always` is the same induction along the runs which respect it.
-/

namespace Machine

/-- A labeled transition relation with its initial states. -/
structure Labeled (State Event : Type*) where
  Init : State → Prop
  Step : State → Event → State → Prop

variable {State Event : Type*} {m : Labeled State Event}

/-- A finite run from an initial state, with the history of its labels, newest first. -/
inductive Run (m : Labeled State Event) : List Event → State → Prop
  | start {s : State} (init : m.Init s) : Run m [] s
  | step {past : List Event} {s t : State} {e : Event} (run : Run m past s)
      (step : m.Step s e t) : Run m (e :: past) t

/-- A finite run recorded with the state before each step, newest first. -/
inductive Recorded (m : Labeled State Event) : List (State × Event) → State → Prop
  | start {s : State} (init : m.Init s) : Recorded m [] s
  | step {past : List (State × Event)} {s t : State} {e : Event} (recorded : Recorded m past s)
      (step : m.Step s e t) : Recorded m ((s, e) :: past) t

/-- Each step of the record was taken in a state which the run had reached. -/
theorem Recorded.step_of_mem {steps : List (State × Event)} {s u : State} {e : Event}
    (recorded : Recorded m steps s) (taken : (u, e) ∈ steps) : ∃ t, m.Step u e t := by
  induction recorded with
  | start => cases taken
  | step _ step ih =>
    rcases List.mem_cons.mp taken with same | earlier
    · cases same
      exact ⟨_, step⟩
    · exact ih earlier

/-- The same machine, started in a given state. -/
def Labeled.resume (m : Labeled State Event) (s : State) : Labeled State Event where
  Init := Eq s
  Step := m.Step

/-- Every step of the history meets the guard, which may inspect the past of the step. -/
def Always (guard : List Event → Event → Prop) : List Event → Prop
  | [] => True
  | e :: past => guard past e ∧ Always guard past

theorem Always.mono {guard other : List Event → Event → Prop}
    (weaken : ∀ past e, guard past e → other past e) {history : List Event}
    (always : Always guard history) : Always other history := by
  induction history with
  | nil => trivial
  | cons e past ih => exact ⟨weaken _ _ always.1, ih always.2⟩

theorem Always.of_suffix {guard : List Event → Event → Prop} {history past : List Event}
    (always : Always guard history) (suffix : past <:+ history) : Always guard past := by
  induction history with
  | nil =>
    obtain rfl := List.suffix_nil.mp suffix
    trivial
  | cons e rest ih =>
    rcases List.suffix_cons_iff.mp suffix with rfl | earlier
    · exact always
    · exact ih always.2 earlier

/-- A guard that looks only at the label holds of each label of the history. -/
theorem always_iff_forall_mem (guard : Event → Prop) (history : List Event) :
    Always (fun _ => guard) history ↔ ∀ e ∈ history, guard e := by
  induction history with
  | nil => simp [Always]
  | cons e past ih => simp [Always, ih]

namespace Run

variable {history past : List Event} {s t : State}

/-- A property of history and state that each step preserves holds along every run. -/
theorem invariant (I : List Event → State → Prop) (init : ∀ s, m.Init s → I [] s)
    (preserved : ∀ past s e t, Run m past s → I past s → m.Step s e t → I (e :: past) t)
    (run : Run m history s) : I history s := by
  induction run with
  | start initial => exact init _ initial
  | step run step ih => exact preserved _ _ _ _ run ih step

/-- The same induction along runs whose every step meets a guard on its past. -/
theorem invariant_of_always {guard : List Event → Event → Prop}
    (I : List Event → State → Prop) (init : ∀ s, m.Init s → I [] s)
    (preserved : ∀ past s e t, Run m past s → I past s → guard past e → m.Step s e t →
      I (e :: past) t)
    (run : Run m history s) (always : Always guard history) : I history s := by
  induction run with
  | start initial => exact init _ initial
  | step run step ih => exact preserved _ _ _ _ run (ih always.2) always.1 step

/-- What every step says about its label holds of each label of the history. -/
theorem forall_mem {P : Event → Prop} (holds : ∀ s e t, m.Step s e t → P e)
    (run : Run m history s) : ∀ e ∈ history, P e := by
  induction run with
  | start init => simp
  | step run step ih => exact List.forall_mem_cons.mpr ⟨holds _ _ _ step, ih⟩

/-- A suffix of the history is the history of an earlier point of the same run. -/
theorem of_suffix (run : Run m history t) (suffix : past <:+ history) : ∃ s, Run m past s := by
  induction run with
  | start initial =>
    obtain rfl := List.suffix_nil.mp suffix
    exact ⟨_, .start initial⟩
  | step run step ih =>
    rcases List.suffix_cons_iff.mp suffix with rfl | earlier
    · exact ⟨_, .step run step⟩
    · exact ih earlier

/-- A run goes on from the state it has reached. -/
theorem append {later : List Event} (run : Run m history s) (continued : Run (m.resume s) later t) :
    Run m (later ++ history) t := by
  induction continued with
  | start init =>
    cases init
    exact run
  | step _ step ih => exact ih.step step

end Run

end Machine
