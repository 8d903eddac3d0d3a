import Mathlib.Data.List.Nodup
import Mathlib.Data.Set.Function
import Mathlib.Logic.Function.Iterate
import OpenBus.Machine.Run

/-! # Updates that are not atomic

Threads replace a shared value by its successor. Each of them loads the value, and later stores the
successor of what it has loaded, whatever has been stored meanwhile. As long as nobody stores
between the load and the store of another, the values stored are the successors one after the other.
The first store that comes between makes the later one store a value once more.
-/

namespace Machine

variable {Thread Value : Type*} [DecidableEq Thread]

/-- The value, and what each thread has loaded and not stored yet. -/
structure Shared (Thread Value : Type*) where
  value : Value
  loaded : Thread → Option Value

inductive Update (Thread Value : Type*) where
  | load (thread : Thread)
  | store (thread : Thread) (value : Value)

inductive UpdateStep (next : Value → Value) :
    Shared Thread Value → Update Thread Value → Shared Thread Value → Prop
  | load {s : Shared Thread Value} (thread : Thread) :
      UpdateStep next s (.load thread)
        { s with loaded := Function.update s.loaded thread (some s.value) }
  | store {s : Shared Thread Value} {thread : Thread} {value : Value}
      (loaded : s.loaded thread = some value) :
      UpdateStep next s (.store thread (next value))
        ⟨next value, Function.update s.loaded thread none⟩

def updateMachine (next : Value → Value) (start : Value) :
    Labeled (Shared Thread Value) (Update Thread Value) where
  Init s := s = ⟨start, fun _ => none⟩
  Step := UpdateStep next

namespace Update

omit [DecidableEq Thread] in
def stored : Update Thread Value → Option Value
  | .load _ => none
  | .store _ value => some value

/-- How often has been stored since a thread has loaded last. -/
def storesSince (thread : Thread) : List (Update Thread Value) → ℕ
  | [] => 0
  | .load other :: past => if other = thread then 0 else storesSince thread past
  | .store _ _ :: past => storesSince thread past + 1

/-- Nobody has stored since the thread that stores has loaded. -/
def Undisturbed (past : List (Update Thread Value)) : Update Thread Value → Prop
  | .load _ => True
  | .store thread _ => storesSince thread past = 0

end Update

open Update

variable {next : Value → Value} {start : Value} {history : List (Update Thread Value)}
  {s : Shared Thread Value}

/-- What is known after updates that are not disturbed. -/
structure InTurn (next : Value → Value) (start : Value) (history : List (Update Thread Value))
    (s : Shared Thread Value) : Prop where
  values : history.filterMap stored =
    ((List.range (history.filterMap stored).length).map fun n => next^[n + 1] start).reverse
  current : s.value = next^[(history.filterMap stored).length] start
  loaded : ∀ thread value, s.loaded thread = some value →
    storesSince thread history ≤ (history.filterMap stored).length ∧
      value = next^[(history.filterMap stored).length - storesSince thread history] start

theorem InTurn.step {past : List (Update Thread Value)} {e : Update Thread Value}
    {t : Shared Thread Value} (inTurn : InTurn next start past s) (undisturbed : Undisturbed past e)
    (step : UpdateStep next s e t) : InTurn next start (e :: past) t := by
  cases step with
  | load thread =>
    refine ⟨inTurn.values, inTurn.current, fun other value found => ?_⟩
    change Function.update s.loaded thread (some s.value) other = some value at found
    by_cases same : other = thread
    · subst same
      rw [Function.update_self, Option.some.injEq] at found
      have since : storesSince other (.load other :: past) = 0 := if_pos rfl
      rw [since, ← found]
      exact ⟨Nat.zero_le _, inTurn.current⟩
    · rw [Function.update_of_ne same] at found
      have since : storesSince other (.load thread :: past) = storesSince other past :=
        if_neg (Ne.symm same)
      rw [since]
      exact inTurn.loaded other value found
  | @store thread value held =>
    obtain ⟨-, latest⟩ := inTurn.loaded thread value held
    rw [show storesSince thread past = 0 from undisturbed, Nat.sub_zero] at latest
    have stored : next value = next^[(past.filterMap stored).length + 1] start := by
      rw [Function.iterate_succ_apply', ← latest]
    have counted : ((Update.store thread (next value) :: past).filterMap Update.stored).length =
        (past.filterMap Update.stored).length + 1 := rfl
    refine ⟨?_, stored, fun other loaded found => ?_⟩
    · rw [counted, List.range_succ, List.map_append, List.reverse_append, ← inTurn.values]
      exact congrArg (· :: _) stored
    · change Function.update s.loaded thread none other = some loaded at found
      by_cases same : other = thread
      · rw [same, Function.update_self] at found
        cases found
      · rw [Function.update_of_ne same] at found
        rw [counted, storesSince, Nat.add_sub_add_right]
        exact (inTurn.loaded other loaded found).imp_left Nat.succ_le_succ

/-- As long as no update is disturbed, the values are stored in turn. -/
theorem inTurn_of_run (run : Run (updateMachine next start) history s)
    (undisturbed : Always Undisturbed history) : InTurn next start history s := by
  refine run.invariant_of_always (InTurn next start) ?_ ?_ undisturbed
  · rintro s rfl
    exact ⟨rfl, rfl, nofun⟩
  · intro past s e t _ inTurn undisturbed step
    exact inTurn.step undisturbed step

/-- The store of an update that is disturbed repeats a value. -/
theorem InTurn.repeated (inTurn : InTurn next start history s) {thread : Thread} {value : Value}
    (held : s.loaded thread = some value) (disturbed : storesSince thread history ≠ 0) :
    next value ∈ history.filterMap stored := by
  obtain ⟨bound, earlier⟩ := inTurn.loaded thread value held
  rw [inTurn.values, List.mem_reverse, List.mem_map]
  refine ⟨(history.filterMap stored).length - storesSince thread history, ?_, ?_⟩
  · rw [List.mem_range]
    omega
  · rw [Function.iterate_succ_apply', ← earlier]

/-- Before its successors come round again, the values stored are pairwise different if and only if
no update has been disturbed. -/
theorem nodup_stored_iff (run : Run (updateMachine next start) history s)
    (distinct : Set.InjOn (fun n => next^[n + 1] start)
      {n | n < (history.filterMap stored).length}) :
    (history.filterMap stored).Nodup ↔ Always Undisturbed history := by
  constructor
  · intro nodup
    clear distinct
    induction run with
    | start => trivial
    | @step past s t e run step ih =>
      have sublist := (List.sublist_cons_self e past).filterMap stored
      have before := ih (nodup.sublist sublist)
      refine ⟨?_, before⟩
      cases step with
      | load => trivial
      | @store thread value held =>
        by_contra disturbed
        exact (List.nodup_cons.mp nodup).1
          ((inTurn_of_run run before).repeated held disturbed)
  · intro undisturbed
    rw [(inTurn_of_run run undisturbed).values, List.nodup_reverse]
    refine List.Nodup.map_on ?_ List.nodup_range
    simp only [List.mem_range]
    exact fun m less n less' same => distinct less less' same

end Machine
