import Mathlib.Logic.Function.Basic
import Mathlib.Logic.Relation
import OpenBus.Machine.Run

/-! # Programs whose steps are single accesses

A program on a shared state ends with a result, or goes on with one access, which reads or writes.
`run` is what it does alone. Threads interleave the accesses of their programs, each of which
carries out a task. If nobody accesses the state while the program of another is between its first
and its last access, the threads do what the programs do alone, one after the other.
-/

namespace Machine

inductive Access (State Result : Type) where
  | done (result : Result)
  | read (next : State → Access State Result)
  | write (update : State → State) (next : Access State Result)

namespace Access

variable {State Result Other : Type}

def bind : Access State Other → (Other → Access State Result) → Access State Result
  | done value, f => f value
  | read next, f => read fun s => (next s).bind f
  | write update next, f => write update (next.bind f)

instance : Monad (Access State) where
  pure := done
  bind := bind

/-- Read a part of the state. -/
def load (part : State → Result) : Access State Result := read fun s => done (part s)

def store (update : State → State) : Access State Unit := write update (done ())

/-- What a program does if nobody else accesses the state. -/
def run : Access State Result → State → Result × State
  | done result, s => (result, s)
  | read next, s => (next s).run s
  | write update next, s => next.run (update s)

@[simp] theorem run_pure (result : Result) (s : State) :
    (Pure.pure result : Access State Result).run s = (result, s) := rfl

@[simp] theorem run_load (part : State → Result) (s : State) :
    (load part).run s = (part s, s) := rfl

@[simp] theorem run_bind (program : Access State Other) (f : Other → Access State Result)
    (s : State) : (program >>= f).run s = (f (program.run s).1).run (program.run s).2 := by
  change (program.bind f).run s = _
  induction program generalizing s with
  | done value => rfl
  | read next ih => exact ih s s
  | write update next ih => exact ih (update s)

@[simp] theorem run_map (f : Other → Result) (program : Access State Other) (s : State) :
    (f <$> program).run s = (f (program.run s).1, (program.run s).2) :=
  run_bind program (fun value => Pure.pure (f value)) s

/-- The next access, unless the program has ended. -/
def step : Access State Result → State → Option (Access State Result × State)
  | done _, _ => none
  | read next, s => some (next s, s)
  | write update next, s => some (next, update s)

/-- The result of a program that has ended. -/
def ended : Access State Result → Option Result
  | done result => some result
  | _ => none

theorem run_of_step {program next : Access State Result} {s t : State}
    (stepped : program.step s = some (next, t)) : next.run t = program.run s := by
  cases program with
  | done => cases stepped
  | read => cases stepped; rfl
  | write => cases stepped; rfl

theorem run_of_ended {program : Access State Result} {result : Result}
    (finished : program.ended = some result) (s : State) : program.run s = (result, s) := by
  cases program with
  | done => cases finished; rfl
  | read => cases finished
  | write => cases finished

end Access

variable {Thread Task State Result : Type}

/-- The state, and what each thread still has to do for its task. -/
structure Threads (Thread Task State Result : Type) where
  state : State
  running : Thread → Option (Task × Access State Result)

inductive AccessEvent (Thread Task Result : Type) where
  | begun (thread : Thread) (task : Task)
  /-- An access, with the result of the task if it is the last one. -/
  | accessed (thread : Thread) (task : Task) (result : Option Result)

inductive AccessStep [DecidableEq Thread] (program : Task → Access State Result) :
    Threads Thread Task State Result → AccessEvent Thread Task Result →
    Threads Thread Task State Result → Prop
  | begun {s : Threads Thread Task State Result} {thread : Thread} (idle : s.running thread = none)
      (task : Task) :
      AccessStep program s (.begun thread task)
        { s with running := Function.update s.running thread (some (task, program task)) }
  | accessed {s : Threads Thread Task State Result} {thread : Thread} {task : Task}
      {rest next : Access State Result} {t : State}
      (running : s.running thread = some (task, rest))
      (stepped : rest.step s.state = some (next, t)) :
      AccessStep program s (.accessed thread task next.ended)
        ⟨t, Function.update s.running thread
          (if next.ended.isSome then none else some (task, next))⟩

def accessMachine [DecidableEq Thread] (program : Task → Access State Result) (start : State) :
    Labeled (Threads Thread Task State Result) (AccessEvent Thread Task Result) where
  Init s := s = ⟨start, fun _ => none⟩
  Step := AccessStep program

/-- The machine of which each step carries out a whole task. -/
def wholeMachine (program : Task → Access State Result) (start : State) :
    Labeled State (Task × Result) where
  Init s := s = start
  Step s e t := (program e.1).run s = (e.2, t)

/-- What a thread has to do after one of the threads goes on. -/
theorem running_cases [DecidableEq Thread] {Entry : Type} {running : Thread → Option Entry}
    {thread other : Thread} {now : Option Entry} {entry : Entry}
    (runs : Function.update running thread now other = some entry) :
    (other = thread ∧ now = some entry) ∨ (other ≠ thread ∧ running other = some entry) := by
  by_cases same : other = thread
  · rw [same, Function.update_self] at runs
    exact .inl ⟨same, runs⟩
  · rw [Function.update_of_ne same] at runs
    exact .inr ⟨same, runs⟩

namespace AccessEvent

/-- The task that an access completes. -/
def completed : AccessEvent Thread Task Result → Option (Task × Result)
  | .accessed _ task (some result) => some (task, result)
  | _ => none

/-- A thread is between the first and the last access of its task. -/
def Amid (thread : Thread) : List (AccessEvent Thread Task Result) → Prop
  | [] => False
  | .begun _ _ :: past => Amid thread past
  | .accessed other _ result :: past =>
      (other = thread ∧ result.isNone) ∨ (other ≠ thread ∧ Amid thread past)

/-- Nobody accesses the state amid the task of another. -/
def Serial (past : List (AccessEvent Thread Task Result)) : AccessEvent Thread Task Result → Prop
  | .begun _ _ => True
  | .accessed thread _ _ => ∀ other, other ≠ thread → ¬ Amid other past

end AccessEvent

open AccessEvent

section Serial

variable [DecidableEq Thread] {program : Task → Access State Result} {start : State}
  {history past : List (AccessEvent Thread Task Result)} {s : Threads Thread Task State Result}

/-- What is known while nobody interferes, after the tasks completed so far have led to a base. -/
structure Undivided (program : Task → Access State Result)
    (history : List (AccessEvent Thread Task Result)) (s : Threads Thread Task State Result)
    (base : State) : Prop where
  fresh : ∀ thread task rest, s.running thread = some (task, rest) → ¬ Amid thread history →
    rest = program task
  amid : ∀ thread task rest, s.running thread = some (task, rest) → Amid thread history →
    rest.run s.state = (program task).run base
  runs : ∀ thread, Amid thread history → s.running thread ≠ none
  quiet : (∀ thread, ¬ Amid thread history) → base = s.state

theorem Undivided.begun {base : State} (undivided : Undivided program past s base) {thread : Thread}
    (idle : s.running thread = none) (task : Task) :
    Undivided program (.begun thread task :: past)
      { s with running := Function.update s.running thread (some (task, program task)) } base where
  fresh other task' rest running still := by
    rcases running_cases running with ⟨rfl, begins⟩ | ⟨-, running⟩
    · cases begins
      rfl
    · exact undivided.fresh other task' rest running still
  amid other task' rest running amid := by
    rcases running_cases running with ⟨rfl, -⟩ | ⟨-, running⟩
    · exact (undivided.runs other amid idle).elim
    · exact undivided.amid other task' rest running amid
  runs other amid := by
    change Function.update s.running thread _ other ≠ none
    have different : other ≠ thread := by
      rintro rfl
      exact undivided.runs other amid idle
    rw [Function.update_of_ne different]
    exact undivided.runs other amid
  quiet := undivided.quiet

/-- The rest of a program does what is left of its task, if nobody else is amid one. -/
theorem Undivided.rest {base : State} (undivided : Undivided program past s base) {thread : Thread}
    {task : Task} {rest : Access State Result} (running : s.running thread = some (task, rest))
    (serial : ∀ other, other ≠ thread → ¬ Amid other past) :
    rest.run s.state = (program task).run base := by
  by_cases amid : Amid thread past
  · exact undivided.amid thread task rest running amid
  · have nobody (other : Thread) : ¬ Amid other past := by
      by_cases same : other = thread
      · rwa [same]
      · exact serial other same
    rw [undivided.fresh thread task rest running amid, undivided.quiet nobody]

omit [DecidableEq Thread] in
theorem not_amid_of_ne {thread other : Thread} {task : Task} {result : Option Result}
    (different : other ≠ thread) (not : ¬ Amid other past) :
    ¬ Amid other (.accessed thread task result :: past) := by
  rintro (⟨same, -⟩ | ⟨-, amid⟩)
  · exact different same.symm
  · exact not amid

theorem Undivided.completes {base t : State} (undivided : Undivided program past s base)
    {thread : Thread} {task : Task} {result : Result}
    (serial : ∀ other, other ≠ thread → ¬ Amid other past) :
    Undivided program (.accessed thread task (some result) :: past)
      ⟨t, Function.update s.running thread none⟩ t := by
  have nobody (other : Thread) : ¬ Amid other (.accessed thread task (some result) :: past) := by
    by_cases same : other = thread
    · rintro (⟨-, none⟩ | ⟨different, -⟩)
      · cases none
      · exact different same.symm
    · exact not_amid_of_ne same (serial other same)
  refine ⟨fun other task' rest running _ => ?_, fun other _ _ _ amid => (nobody other amid).elim,
    fun other amid => (nobody other amid).elim, fun _ => rfl⟩
  rcases running_cases running with ⟨-, none⟩ | ⟨different, running⟩
  · cases none
  · exact undivided.fresh other task' rest running (serial other different)

theorem Undivided.proceeds {base t : State} (undivided : Undivided program past s base)
    {thread : Thread} {task : Task} {next : Access State Result}
    (serial : ∀ other, other ≠ thread → ¬ Amid other past)
    (rest : next.run t = (program task).run base) :
    Undivided program (.accessed thread task none :: past)
      ⟨t, Function.update s.running thread (some (task, next))⟩ base := by
  have amidst : Amid thread (.accessed thread task (none : Option Result) :: past) :=
    .inl ⟨rfl, rfl⟩
  have others {other : Thread} (different : other ≠ thread) :
      ¬ Amid other (.accessed thread task (none : Option Result) :: past) :=
    not_amid_of_ne different (serial other different)
  refine ⟨fun other task' rest' running still => ?_, fun other task' rest' running amid => ?_,
    fun other amid => ?_, fun nobody => (nobody thread amidst).elim⟩
  · rcases running_cases running with ⟨rfl, -⟩ | ⟨different, running⟩
    · exact (still amidst).elim
    · exact undivided.fresh other task' rest' running (serial other different)
  · rcases running_cases running with ⟨-, goes⟩ | ⟨different, -⟩
    · cases goes
      exact rest
    · exact (others different amid).elim
  · by_cases same : other = thread
    · rw [same]
      simp
    · exact (others same amid).elim

/-- The threads do what the programs do alone, in the order in which they end. -/
theorem exists_undivided (run : Run (accessMachine program start) history s)
    (serial : Always Serial history) :
    ∃ base, Run (wholeMachine program start) (history.filterMap completed) base ∧
      Undivided program history s base := by
  induction run with
  | start init =>
    cases init
    exact ⟨start, .start rfl, nofun, nofun, nofun, fun _ => rfl⟩
  | step run step ih =>
    obtain ⟨base, whole, undivided⟩ := ih serial.2
    cases step with
    | begun idle task => exact ⟨base, whole, undivided.begun idle task⟩
    | @accessed thread task rest next t running stepped =>
      have alone := serial.1
      have result := (Access.run_of_step stepped).trans (undivided.rest running alone)
      cases finished : next.ended with
      | none =>
        rw [finished] at alone
        exact ⟨base, whole, undivided.proceeds alone result⟩
      | some value =>
        rw [finished] at alone
        rw [Access.run_of_ended finished] at result
        exact ⟨t, whole.step result.symm, undivided.completes alone⟩

end Serial

namespace Access

/-- Alone, a program comes to a point at which the rest is still to be done. -/
inductive Reaches (program : Access State Result) (s : State) :
    Access State Result → State → Prop
  | start : Reaches program s program s
  | step {rest next : Access State Result} {t u : State} (reaches : Reaches program s rest t)
      (stepped : rest.step t = some (next, u)) : Reaches program s next u

theorem Reaches.trans {first second third : Access State Result} {s t u : State}
    (reaches : Reaches first s second t) (continues : Reaches second t third u) :
    Reaches first s third u := by
  induction continues with
  | start => exact reaches
  | step _ stepped ih => exact ih.step stepped

theorem Reaches.bind {Other : Type} {program rest : Access State Other} {s t : State}
    (reaches : Reaches program s rest t) (f : Other → Access State Result) :
    Reaches (program >>= f) s (rest >>= f) t := by
  induction reaches with
  | start => exact .start
  | @step rest next _ _ _ stepped ih =>
    refine ih.step ?_
    cases rest with
    | done => cases stepped
    | read => cases stepped; rfl
    | write => cases stepped; rfl

theorem reaches_load {Part : Type} (part : State → Part) (f : Part → Access State Result)
    (s : State) : Reaches (load part >>= f) s (f (part s)) s := .step .start rfl

theorem reaches_run (program : Access State Result) (s : State) :
    Reaches program s (done (program.run s).1) (program.run s).2 := by
  induction program generalizing s with
  | done => exact .start
  | read next ih => exact Reaches.trans (.step .start rfl) (ih s s)
  | write update next ih => exact Reaches.trans (.step .start rfl) (ih (update s))

/-- A program that only reads, in a state in which it comes to a result. -/
inductive Settled (s : State) (result : Result) : Access State Result → Prop
  | done : Settled s result (done result)
  | read {next : State → Access State Result} (settled : Settled s result (next s)) :
      Settled s result (read next)

theorem Settled.step {program next : Access State Result} {s t : State} {result : Result}
    (settled : Settled s result program) (stepped : program.step s = some (next, t)) :
    t = s ∧ Settled s result next := by
  cases settled with
  | done => cases stepped
  | read settled =>
    cases stepped
    exact ⟨rfl, settled⟩

theorem Settled.ended {program : Access State Result} {s : State} {result value : Result}
    (settled : Settled s result program) (finished : program.ended = some value) :
    value = result := by
  cases settled with
  | done => exact (Option.some.inj finished).symm
  | read => cases finished

theorem settled_load {Part : Type} (part : State → Part) (s : State) :
    Settled s (part s) (load part) := .read .done

theorem Settled.bind {Other : Type} {program : Access State Other} {s : State} {value : Other}
    {result : Result} (settled : Settled s value program) {f : Other → Access State Result}
    (rest : Settled s result (f value)) : Settled s result (program >>= f) := by
  induction settled with
  | done => exact rest
  | read _ ih => exact .read ih

end Access

section Schedules

variable [DecidableEq Thread] {program : Task → Access State Result} {start : State}
  {history : List (AccessEvent Thread Task Result)} {s : Threads Thread Task State Result}

/-- A thread goes on alone until its program has come to a point. -/
theorem exists_run_of_reaches (run : Run (accessMachine program start) history s) {thread : Thread}
    {task : Task} {rest next : Access State Result} {t : State}
    (running : s.running thread = some (task, rest)) (unended : rest.ended = none)
    (reaches : rest.Reaches s.state next t) :
    ∃ later : List (AccessEvent Thread Task Result),
      Run (accessMachine program start) (later ++ history)
        ⟨t, Function.update s.running thread
          (if next.ended.isSome then none else some (task, next))⟩ ∧
      (later.filterMap completed = (next.ended.map fun result => (task, result)).toList) ∧
      ∀ other task', .begun other task' ∉ later := by
  induction reaches with
  | start =>
    refine ⟨[], ?_, by simp [unended], by simp⟩
    rw [unended]
    have same : Function.update s.running thread (some (task, rest)) = s.running := by
      rw [← running, Function.update_eq_self]
    simpa [same] using run
  | @step rest' next t u reaches stepped ih =>
    have going : rest'.ended = none := by
      cases rest' with
      | done => cases stepped
      | _ => rfl
    obtain ⟨later, run, none, begun⟩ := ih
    simp only [going, Option.isSome_none, Bool.false_eq_true, if_false] at run
    have step := run.step (.accessed (Function.update_self ..) stepped)
    rw [Function.update_idem] at step
    refine ⟨.accessed thread task next.ended :: later, step, ?_, by simpa using begun⟩
    rw [going] at none
    cases next.ended with
    | none => exact none
    | some result => exact congrArg _ none

theorem run_begun (run : Run (accessMachine program start) history s) (thread : Thread)
    (idle : s.running thread = none) (task : Task) :
    Run (accessMachine program start) (.begun thread task :: history)
      { s with running := Function.update s.running thread (some (task, program task)) } :=
  run.step (.begun idle task)

/-- A thread pauses at a point that it has come to alone. -/
theorem exists_run_paused (run : Run (accessMachine program start) history s) (thread : Thread)
    {task : Task} {rest next : Access State Result} {t : State}
    (running : s.running thread = some (task, rest)) (unended : rest.ended = none)
    (reaches : rest.Reaches s.state next t) (paused : next.ended = none) :
    ∃ later : List (AccessEvent Thread Task Result),
      Run (accessMachine program start) (later ++ history)
        ⟨t, Function.update s.running thread (some (task, next))⟩ ∧
      later.filterMap completed = [] ∧ ∀ other task', .begun other task' ∉ later := by
  have reached := exists_run_of_reaches run running unended reaches
  rwa [paused] at reached

/-- A thread completes its task alone. -/
theorem exists_run_completed (run : Run (accessMachine program start) history s) (thread : Thread)
    (task : Task) (rest : Access State Result) (running : s.running thread = some (task, rest))
    (unended : rest.ended = none) :
    ∃ later : List (AccessEvent Thread Task Result),
      Run (accessMachine program start) (later ++ history)
        ⟨(rest.run s.state).2, Function.update s.running thread none⟩ ∧
      later.filterMap completed = [(task, (rest.run s.state).1)] ∧
      ∀ other task', .begun other task' ∉ later :=
  exists_run_of_reaches run running unended (Access.reaches_run rest s.state)

variable (program) in
/-- A thread pauses, and another one that begins there comes to a point without changing the state.
Then both go on to their ends. -/
theorem exists_run_overlapping {one other : Thread} (distinct : one ≠ other) (task : Task)
    {first second : Access State Result} {t : State} (begins : (program task).ended = none)
    (reaches : (program task).Reaches start first t) (paused : first.ended = none)
    (reaches' : (program task).Reaches t second t) (paused' : second.ended = none) :
    ∃ (history : List (AccessEvent Thread Task Result)) (s : Threads Thread Task State Result),
      Run (accessMachine program start) history s ∧
      (∀ thread task', .begun thread task' ∈ history → task' = task) ∧
      history.filterMap completed =
        [(task, (second.run (first.run t).2).1), (task, (first.run t).1)] := by
  have idle : Run (accessMachine program start) [] ⟨start, fun _ : Thread => none⟩ := .start rfl
  have begun := run_begun idle one rfl task
  obtain ⟨h₁, run₁, none₁, only₁⟩ :=
    exists_run_paused begun one (Function.update_self ..) begins reaches paused
  have both := run_begun run₁ other (by simp [distinct.symm]) task
  obtain ⟨h₂, run₂, none₂, only₂⟩ :=
    exists_run_paused both other (Function.update_self ..) begins reaches' paused'
  obtain ⟨h₃, run₃, ended₃, only₃⟩ :=
    exists_run_completed run₂ one task first (by simp [distinct]) paused
  obtain ⟨h₄, run₄, ended₄, only₄⟩ :=
    exists_run_completed run₃ other task second (by simp [distinct.symm]) paused'
  refine ⟨_, _, run₄, ?_, ?_⟩
  · intro thread task' mem
    simp only [List.mem_append, List.mem_cons, only₁, only₂, only₃, only₄, false_or,
      AccessEvent.begun.injEq, List.not_mem_nil, or_false] at mem
    tauto
  · simp only [List.filterMap_append, List.filterMap_cons, none₁, none₂, ended₃, ended₄]
    rfl

end Schedules

end Machine
