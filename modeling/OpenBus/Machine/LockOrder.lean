import Mathlib.Algebra.BigOperators.Group.Finset.Piecewise
import Mathlib.Algebra.Order.BigOperators.Group.Finset
import Mathlib.Data.Set.Finite.Lattice
import Mathlib.Data.Set.Finite.Lemmas
import Mathlib.Logic.Relation
import OpenBus.Machine.Run

/-! # Mutexes locked in an order

Threads run programs of which nothing is left but the regions that hold a mutex. A region is left
through its end or by an exception, and its mutex is unlocked either way. If each program locks a
mutex only while the ones it holds rank lower, and waits for nothing else meanwhile, then the
threads that hold mutexes come to the ends of their regions by themselves. The thread that holds
the highest mutex can always go on, because a mutex it asks for is higher still.
-/

namespace Machine

/-- What a thread does with mutexes, without the data that its choices depend on. -/
inductive LockProgram (Mutex : Type*) where
  | skip
  | locked (mutex : Mutex) (region : LockProgram Mutex)
  /-- A call that takes any time, and may never return. -/
  | outside
  | seq (first second : LockProgram Mutex)
  | either (first second : LockProgram Mutex)
  | loop (body : LockProgram Mutex)

/-- What a thread has still to do, on its stack. -/
inductive LockFrame (Mutex : Type*) where
  | run (program : LockProgram Mutex)
  | unlock (mutex : Mutex)

variable {Mutex Thread Operation : Type*}

namespace LockProgram

/-- A region in which no other mutex is locked. -/
def region (mutex : Mutex) : LockProgram Mutex := .locked mutex .skip

/-- One program after the other. -/
def inOrder : List (LockProgram Mutex) → LockProgram Mutex
  | [] => .skip
  | first :: rest => .seq first (inOrder rest)

/-- A program that runs or does not. -/
def maybe (program : LockProgram Mutex) : LockProgram Mutex := .either program .skip

/-- Each mutex is locked above those that are held, and nothing is waited for in a region. -/
def Ordered (rank : Mutex → ℕ) : List Mutex → LockProgram Mutex → Prop
  | _, .skip => True
  | held, .locked mutex region =>
      (∀ other ∈ held, rank other < rank mutex) ∧ region.Ordered rank (mutex :: held)
  | held, .outside => held = []
  | held, .seq first second => first.Ordered rank held ∧ second.Ordered rank held
  | held, .either first second => first.Ordered rank held ∧ second.Ordered rank held
  | held, .loop body => held = [] ∧ body.Ordered rank held

/-- The steps a program without loops takes at most. -/
def size : LockProgram Mutex → ℕ
  | .skip => 1
  | .locked _ region => region.size + 2
  | .outside => 1
  | .seq first second => first.size + second.size + 1
  | .either first second => first.size + second.size + 1
  | .loop _ => 1

theorem size_pos (program : LockProgram Mutex) : 0 < program.size := by
  cases program <;> simp [size]

@[simp] theorem ordered_inOrder {rank : Mutex → ℕ} {held : List Mutex}
    {programs : List (LockProgram Mutex)} :
    (inOrder programs).Ordered rank held ↔ ∀ program ∈ programs, program.Ordered rank held := by
  induction programs with
  | nil => simp [inOrder, Ordered]
  | cons first rest ih => simp [inOrder, Ordered, ih]

@[simp] theorem ordered_region {rank : Mutex → ℕ} {held : List Mutex} {mutex : Mutex} :
    (region mutex).Ordered rank held ↔ ∀ other ∈ held, rank other < rank mutex :=
  and_iff_left trivial

@[simp] theorem ordered_maybe {rank : Mutex → ℕ} {held : List Mutex} {program : LockProgram Mutex} :
    (maybe program).Ordered rank held ↔ program.Ordered rank held :=
  and_iff_left trivial

end LockProgram

namespace LockStack

open LockProgram (Ordered)

/-- The mutexes that a thread holds, the one locked last first. -/
def held : List (LockFrame Mutex) → List Mutex
  | [] => []
  | .run _ :: rest => held rest
  | .unlock mutex :: rest => mutex :: held rest

/-- A step which a thread takes by itself, with the mutex that it locks. -/
inductive Advance : List (LockFrame Mutex) → Option Mutex → List (LockFrame Mutex) → Prop
  | skip {rest : List (LockFrame Mutex)} : Advance (.run .skip :: rest) none rest
  | lock {mutex : Mutex} {region : LockProgram Mutex} {rest : List (LockFrame Mutex)} :
      Advance (.run (.locked mutex region) :: rest) (some mutex)
        (.run region :: .unlock mutex :: rest)
  | unlock {mutex : Mutex} {rest : List (LockFrame Mutex)} :
      Advance (.unlock mutex :: rest) none rest
  | seq {first second : LockProgram Mutex} {rest : List (LockFrame Mutex)} :
      Advance (.run (.seq first second) :: rest) none (.run first :: .run second :: rest)
  | first {first second : LockProgram Mutex} {rest : List (LockFrame Mutex)} :
      Advance (.run (.either first second) :: rest) none (.run first :: rest)
  | second {first second : LockProgram Mutex} {rest : List (LockFrame Mutex)} :
      Advance (.run (.either first second) :: rest) none (.run second :: rest)
  | again {body : LockProgram Mutex} {rest : List (LockFrame Mutex)} :
      Advance (.run (.loop body) :: rest) none (.run body :: .run (.loop body) :: rest)
  | leave {body : LockProgram Mutex} {rest : List (LockFrame Mutex)} :
      Advance (.run (.loop body) :: rest) none rest

/-- The rest of each program is ordered, above the mutexes held below it. -/
def Sorted (rank : Mutex → ℕ) : List (LockFrame Mutex) → Prop
  | [] => True
  | .run program :: rest => program.Ordered rank (held rest) ∧ Sorted rank rest
  | .unlock mutex :: rest => (∀ other ∈ held rest, rank other < rank mutex) ∧ Sorted rank rest

def frameSize : LockFrame Mutex → ℕ
  | .run program => program.size
  | .unlock _ => 1

/-- The steps a thread takes at most before it holds no mutex. -/
def ahead : List (LockFrame Mutex) → ℕ
  | [] => 0
  | frame :: rest => if held (frame :: rest) = [] then 0 else frameSize frame + ahead rest

variable {rank : Mutex → ℕ} {stack next rest : List (LockFrame Mutex)} {locks : Option Mutex}

theorem ahead_of_held (holds : held stack ≠ []) {frame : LockFrame Mutex}
    (same : stack = frame :: rest) : ahead stack = frameSize frame + ahead rest := by
  subst same
  rw [ahead, if_neg holds]

theorem Sorted.advance (sorted : Sorted rank stack) (step : Advance stack locks next) :
    Sorted rank next ∧ ∀ mutex ∈ locks, ∀ other ∈ held stack, rank other < rank mutex := by
  cases step with
  | skip => exact ⟨sorted.2, nofun⟩
  | lock =>
    obtain ⟨⟨above, region⟩, below⟩ := sorted
    refine ⟨⟨region, above, below⟩, ?_⟩
    rintro mutex ⟨⟩
    exact above
  | unlock => exact ⟨sorted.2, nofun⟩
  | seq =>
    obtain ⟨⟨first, second⟩, below⟩ := sorted
    exact ⟨⟨first, second, below⟩, nofun⟩
  | first =>
    obtain ⟨⟨first, -⟩, below⟩ := sorted
    exact ⟨⟨first, below⟩, nofun⟩
  | second =>
    obtain ⟨⟨-, second⟩, below⟩ := sorted
    exact ⟨⟨second, below⟩, nofun⟩
  | again =>
    obtain ⟨⟨free, body⟩, below⟩ := sorted
    exact ⟨⟨body, ⟨free, body⟩, below⟩, nofun⟩
  | leave => exact ⟨sorted.2, nofun⟩

/-- A program that begins while its thread holds nothing. -/
theorem Sorted.begin {program : LockProgram Mutex} (sorted : Sorted rank stack)
    (ordered : program.Ordered rank []) (free : held stack = []) :
    Sorted rank (.run program :: stack) := by
  refine ⟨?_, sorted⟩
  rw [free]
  exact ordered

/-- In a region, each step comes nearer to its end. -/
theorem ahead_advance (sorted : Sorted rank stack) (holds : held stack ≠ [])
    (step : Advance stack locks next) : ahead next < ahead stack := by
  have drop (frame : LockFrame Mutex) (rest : List (LockFrame Mutex)) (same : stack = frame :: rest) :
      frameSize frame + ahead rest = ahead stack := (ahead_of_held holds same).symm
  have under (frame : LockFrame Mutex) (rest : List (LockFrame Mutex)) :
      ahead (frame :: rest) ≤ frameSize frame + ahead rest := by
    rw [ahead]
    split <;> omega
  cases step with
  | skip => exact (drop _ _ rfl) ▸ by simp [frameSize, LockProgram.size]
  | unlock => exact (drop _ _ rfl) ▸ by simp [frameSize]
  | @lock mutex region rest =>
    have whole := drop _ _ rfl
    have inner := under (.run region) (.unlock mutex :: rest)
    have outer := under (.unlock mutex) rest
    simp only [frameSize, LockProgram.size] at whole inner outer
    omega
  | @seq first second rest =>
    have whole := drop _ _ rfl
    have inner := under (.run first) (.run second :: rest)
    have outer := under (.run second) rest
    simp only [frameSize, LockProgram.size] at whole inner outer
    omega
  | @first first second rest =>
    have whole := drop _ _ rfl
    have inner := under (.run first) rest
    simp only [frameSize, LockProgram.size] at whole inner
    omega
  | @second first second rest =>
    have whole := drop _ _ rfl
    have inner := under (.run second) rest
    simp only [frameSize, LockProgram.size] at whole inner
    omega
  | again => exact absurd sorted.1.1 holds
  | leave => exact absurd sorted.1.1 holds

/-- A thread in a region has a step, though it may have to wait for a mutex. -/
theorem exists_advance (sorted : Sorted rank stack) (holds : held stack ≠ []) :
    ∃ locks next, Advance stack locks next := by
  cases stack with
  | nil => exact absurd rfl holds
  | cons frame rest =>
    cases frame with
    | unlock mutex => exact ⟨_, _, .unlock⟩
    | run program =>
      cases program with
      | skip => exact ⟨_, _, .skip⟩
      | locked mutex region => exact ⟨_, _, .lock⟩
      | outside => exact absurd sorted.1 holds
      | seq first second => exact ⟨_, _, .seq⟩
      | either first second => exact ⟨_, _, .first⟩
      | loop body => exact ⟨_, _, .leave⟩

end LockStack

/-- What happens to the threads. An exception drops what its thread was about to run. -/
inductive LockEvent (Thread Operation : Type*) where
  | began (thread : Thread) (operation : Operation)
  | moved (thread : Thread)
  | returned (thread : Thread)
  | raised (thread : Thread)

open LockStack

section LockMachine

variable [DecidableEq Thread] (program : Operation → LockProgram Mutex)

inductive LockStep : (Thread → List (LockFrame Mutex)) → LockEvent Thread Operation →
    (Thread → List (LockFrame Mutex)) → Prop
  /-- Wherever a thread holds no mutex it may begin another operation, and come back to the one it
  is about: in a callback, in a call that waits, or to destroy what it has released. -/
  | began {s : Thread → List (LockFrame Mutex)} {thread : Thread} (operation : Operation)
      (ready : held (s thread) = []) :
      LockStep s (.began thread operation)
        (Function.update s thread (.run (program operation) :: s thread))
  /-- A mutex is locked if no thread holds it. -/
  | moved {s : Thread → List (LockFrame Mutex)} {thread : Thread} {locks : Option Mutex}
      {next : List (LockFrame Mutex)} (step : Advance (s thread) locks next)
      (free : ∀ mutex ∈ locks, ∀ other, mutex ∉ held (s other)) :
      LockStep s (.moved thread) (Function.update s thread next)
  | returned {s : Thread → List (LockFrame Mutex)} {thread : Thread} {rest : List (LockFrame Mutex)}
      (here : s thread = .run .outside :: rest) :
      LockStep s (.returned thread) (Function.update s thread rest)
  | raised {s : Thread → List (LockFrame Mutex)} {thread : Thread} {rest : List (LockFrame Mutex)}
      {dropped : LockProgram Mutex} (here : s thread = .run dropped :: rest) :
      LockStep s (.raised thread) (Function.update s thread rest)

/-- Any number of threads, none of which has begun. -/
def lockMachine : Labeled (Thread → List (LockFrame Mutex)) (LockEvent Thread Operation) where
  Init s := ∀ thread, s thread = []
  Step := LockStep program

/-- A step that a thread which holds a mutex takes by itself. -/
def InRegion (s : Thread → List (LockFrame Mutex)) : LockEvent Thread Operation → Prop
  | .began _ _ | .returned _ => False
  | .moved thread | .raised thread => held (s thread) ≠ []

/-- The threads that hold mutexes go on, and no others. -/
def regionMachine (s : Thread → List (LockFrame Mutex)) :
    Labeled (Thread → List (LockFrame Mutex)) (LockEvent Thread Operation) where
  Init := Eq s
  Step t e u := LockStep program t e u ∧ InRegion t e

/-- The threads that hold mutexes come to the ends of their regions by themselves, however they are
scheduled: the number of their steps is bounded, and one of them can go on as long as a mutex is
held. -/
def RegionsEnd (s : Thread → List (LockFrame Mutex)) : Prop :=
  ∃ bound, ∀ later t, Run (regionMachine program s) later t → later.length ≤ bound ∧
    ((∀ thread, held (t thread) = []) ∨
      ∃ thread u, held (t thread) ≠ [] ∧ LockStep program t (.moved thread) u)

end LockMachine

/-- Finitely many threads run, and each keeps to the order. -/
structure LocksInOrder (rank : Mutex → ℕ) (s : Thread → List (LockFrame Mutex)) : Prop where
  sorted : ∀ thread, Sorted rank (s thread)
  finite : {thread | s thread ≠ []}.Finite

namespace LocksInOrder

variable [DecidableEq Thread] {program : Operation → LockProgram Mutex} {rank : Mutex → ℕ}
  {history later : List (LockEvent Thread Operation)} {e : LockEvent Thread Operation}
  {s t : Thread → List (LockFrame Mutex)}

theorem update (inOrder : LocksInOrder rank s) {thread : Thread} {next : List (LockFrame Mutex)}
    (sorted : Sorted rank next) : LocksInOrder rank (Function.update s thread next) := by
  refine ⟨fun other => ?_, (inOrder.finite.insert thread).subset fun other busy => ?_⟩
  · by_cases same : other = thread
    · rw [same, Function.update_self]
      exact sorted
    · rw [Function.update_of_ne same]
      exact inOrder.sorted other
  · by_cases same : other = thread
    · exact .inl same
    · rw [Set.mem_ofPred, Function.update_of_ne same] at busy
      exact .inr busy

theorem step (inOrder : LocksInOrder rank s) (step : LockStep program s e t)
    (ordered : ∀ thread operation, .began thread operation = e →
      (program operation).Ordered rank []) : LocksInOrder rank t := by
  cases step with
  | @began thread operation ready =>
    exact inOrder.update ((inOrder.sorted thread).begin (ordered thread operation rfl) ready)
  | @moved thread locks next step free => exact inOrder.update ((inOrder.sorted thread).advance step).1
  | @returned thread rest here | @raised thread rest dropped here =>
    have sorted := inOrder.sorted thread
    rw [here] at sorted
    exact inOrder.update sorted.2

theorem of_run (run : Run (lockMachine program) history s)
    (ordered : ∀ thread operation, .began thread operation ∈ history →
      (program operation).Ordered rank []) : LocksInOrder rank s := by
  induction run with
  | start idle =>
    refine ⟨fun thread => ?_, Set.Finite.subset Set.finite_empty fun thread busy => ?_⟩
    · rw [idle thread]
      trivial
    · exact busy (idle thread)
  | step run step ih =>
    refine (ih fun thread operation mem => ordered thread operation (.tail _ mem)).step step ?_
    rintro thread operation rfl
    exact ordered thread operation (.head _)

/-- A step in a region brings its thread nearer to the end of it, and no other thread begins. -/
theorem sum_ahead_lt (inOrder : LocksInOrder rank s) {running : Finset Thread}
    (counted : ∀ thread, s thread ≠ [] → thread ∈ running) (step : LockStep program s e t)
    (inside : InRegion s e) : (∀ thread, t thread ≠ [] → thread ∈ running) ∧
      ∑ thread ∈ running, ahead (t thread) < ∑ thread ∈ running, ahead (s thread) := by
  have less {thread : Thread} {next : List (LockFrame Mutex)} (holds : held (s thread) ≠ [])
      (fewer : ahead next < ahead (s thread)) :
      (∀ other, Function.update s thread next other ≠ [] → other ∈ running) ∧
        ∑ other ∈ running, ahead (Function.update s thread next other) <
          ∑ other ∈ running, ahead (s other) := by
    have here : thread ∈ running := counted thread fun idle => holds (by rw [idle, held])
    refine ⟨fun other busy => ?_, Finset.sum_lt_sum (fun other _ => ?_) ⟨thread, here, ?_⟩⟩
    · by_cases same : other = thread
      · rwa [same]
      · rw [Function.update_of_ne same] at busy
        exact counted other busy
    · by_cases same : other = thread
      · rw [same, Function.update_self]
        exact fewer.le
      · rw [Function.update_of_ne same]
    · rwa [Function.update_self]
  cases step with
  | began operation ready => exact inside.elim
  | returned here => exact inside.elim
  | moved step free => exact less inside (ahead_advance (inOrder.sorted _) inside step)
  | @raised thread rest dropped here =>
    apply less inside
    rw [ahead_of_held inside here]
    exact Nat.lt_add_of_pos_left dropped.size_pos

/-- The thread that holds the highest mutex need not wait. -/
theorem exists_moved (inOrder : LocksInOrder rank s) {thread : Thread} (holds : held (s thread) ≠ []) :
    ∃ thread t, held (s thread) ≠ [] ∧ LockStep program s (.moved thread) t := by
  have finite : {mutex | ∃ thread, mutex ∈ held (s thread)}.Finite := by
    apply (Set.Finite.biUnion inOrder.finite fun thread _ => (held (s thread)).finite_toSet).subset
    rintro mutex ⟨thread, mem⟩
    refine Set.mem_biUnion (fun idle => ?_) mem
    rw [idle] at mem
    cases mem
  obtain ⟨some, mem⟩ := List.exists_mem_of_ne_nil _ holds
  obtain ⟨highest, ⟨owner, owned⟩, above⟩ := Set.exists_max_image _ rank finite ⟨some, thread, mem⟩
  have holds := List.ne_nil_of_mem owned
  obtain ⟨locks, next, step⟩ := exists_advance (inOrder.sorted owner) holds
  refine ⟨owner, _, holds, .moved step fun mutex asked other taken => ?_⟩
  have higher := ((inOrder.sorted owner).advance step).2 mutex asked highest owned
  exact absurd (above mutex ⟨other, taken⟩) (not_le.mpr higher)

/-- A run in regions is not longer than what has been ahead. -/
theorem length_add_sum_ahead_le (inOrder : LocksInOrder rank s) {running : Finset Thread}
    (counted : ∀ thread, s thread ≠ [] → thread ∈ running)
    (continued : Run (regionMachine program s) later t) :
    LocksInOrder rank t ∧ (∀ thread, t thread ≠ [] → thread ∈ running) ∧
      later.length + ∑ thread ∈ running, ahead (t thread) ≤ ∑ thread ∈ running, ahead (s thread) := by
  induction continued with
  | start init =>
    cases init
    exact ⟨inOrder, counted, by simp⟩
  | @step past t u e continued step ih =>
    obtain ⟨between, counted, bound⟩ := ih
    obtain ⟨step, inside⟩ := step
    obtain ⟨counted, less⟩ := between.sum_ahead_lt counted step inside
    refine ⟨between.step step ?_, counted, ?_⟩
    · rintro thread operation rfl
      exact inside.elim
    · rw [List.length_cons]
      omega

end LocksInOrder

/-- If each operation keeps to the order, the regions that have begun come to their ends. -/
theorem regionsEnd_of_ordered [DecidableEq Thread] {program : Operation → LockProgram Mutex}
    {rank : Mutex → ℕ} {history : List (LockEvent Thread Operation)}
    {s : Thread → List (LockFrame Mutex)} (run : Run (lockMachine program) history s)
    (ordered : ∀ thread operation, .began thread operation ∈ history →
      (program operation).Ordered rank []) : RegionsEnd program s := by
  have inOrder := LocksInOrder.of_run run ordered
  have counted (thread : Thread) (busy : s thread ≠ []) : thread ∈ inOrder.finite.toFinset :=
    inOrder.finite.mem_toFinset.mpr busy
  refine ⟨∑ thread ∈ inOrder.finite.toFinset, ahead (s thread), fun later t continued => ?_⟩
  obtain ⟨after, -, bound⟩ := inOrder.length_add_sum_ahead_le counted continued
  refine ⟨by omega, ?_⟩
  by_cases free : ∀ thread, held (t thread) = []
  · exact .inl free
  · obtain ⟨thread, holds⟩ := not_forall.mp free
    exact .inr (after.exists_moved holds)

/-! ### A thread that runs alone -/

section Alone

variable [DecidableEq Thread] {program : Operation → LockProgram Mutex} {thread : Thread}
  {history : List (LockEvent Thread Operation)} {stack next : List (LockFrame Mutex)}

def alone (thread : Thread) (stack : List (LockFrame Mutex)) : Thread → List (LockFrame Mutex) :=
  Function.update (fun _ => []) thread stack

@[simp] theorem alone_self : alone thread stack thread = stack := Function.update_self ..

theorem update_alone : Function.update (alone thread stack) thread next = alone thread next :=
  Function.update_idem ..

theorem mem_held_alone {mutex : Mutex} {other : Thread} (taken : mutex ∈ held (alone thread stack other)) :
    mutex ∈ held stack := by
  by_cases same : other = thread
  · rwa [same, alone_self] at taken
  · rw [alone, Function.update_of_ne same] at taken
    cases taken

/-- A step of a thread while no other one runs. -/
def Solo (stack next : List (LockFrame Mutex)) : Prop :=
  ∃ locks, Advance stack locks next ∧ ∀ mutex ∈ locks, mutex ∉ held stack

theorem run_alone (thread : Thread) (operation : Operation)
    (solo : Relation.ReflTransGen Solo [.run (program operation)] stack) :
    ∃ history, Run (lockMachine program) history (alone thread stack) ∧
      ∀ other begun, .began other begun ∈ history → begun = operation := by
  induction solo with
  | refl =>
    have idle : Run (lockMachine program) [] (alone thread []) :=
      .start fun other => by rw [alone, Function.update_eq_self]
    refine ⟨[.began thread operation], ?_, by simp⟩
    have begun := idle.step (.began operation (congrArg held alone_self))
    rwa [update_alone, alone_self] at begun
  | @tail stack next _ step ih =>
    obtain ⟨history, run, only⟩ := ih
    obtain ⟨locks, step, free⟩ := step
    have moved : LockStep program (alone thread stack) (.moved thread)
        (Function.update (alone thread stack) thread next) :=
      .moved (by rwa [alone_self]) fun mutex asked other taken =>
        free mutex asked (mem_held_alone taken)
    rw [update_alone] at moved
    exact ⟨_, run.step moved, by simpa using only⟩

/-- A region from which its thread cannot go on does not come to its end. -/
theorem not_regionsEnd_of_stuck (holds : held stack ≠ []) (stuck : ∀ next, ¬ Solo stack next) :
    ¬ RegionsEnd program (alone thread stack) := by
  rintro ⟨bound, ends⟩
  rcases (ends [] _ (.start rfl)).2 with free | ⟨other, t, inside, step⟩
  · exact holds (by simpa using free thread)
  · obtain rfl : other = thread := by
      by_contra different
      apply inside
      rw [alone, Function.update_of_ne different, held]
    cases step with
    | moved step free =>
      rw [alone_self] at step
      exact stuck _ ⟨_, step, fun mutex asked => by simpa using free mutex asked other⟩

end Alone

end Machine
