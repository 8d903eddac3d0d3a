import OpenBus.Model.TicketAccesses
import OpenBus.Soundness.NoReplay
import OpenBus.Soundness.TicketWindow

/-! # Ticket checks in several threads

The tickets of a session are checked without a lock. As long as no thread accesses the history while
another is amid a check, the window is what it is for one check after the other, and no ticket is
accepted twice. Without this it is not: every ticket that a history would accept once it accepts
twice, if two threads that check it both come to its flag, or to the base, before either writes.
-/

namespace OpenBus

open Machine

namespace TicketsHistory

open AccessEvent

/-- The check of `handle_credential`, on a platform whose words have 64 bits. -/
def check (fuel : ℕ) (ticket : ULong) : Access (TicketsHistory 64) (Option Bool) :=
  Accesses.ticketsCheck (fuel + 2) (ticket.setWidth 64)

/-- Any number of threads, each of which checks tickets of one session. -/
def checkMachine (fuel : ℕ) (start : TicketsHistory 64) :
    Labeled (Threads ℕ ULong (TicketsHistory 64) (Option Bool))
      (AccessEvent ℕ ULong (Option Bool)) :=
  accessMachine (check fuel) start

/-- The tickets that have been accepted, as `tickets_check` has told, the newest first. -/
def acceptedOf (verdicts : List (ULong × Option Bool)) : List ℕ :=
  verdicts.filterMap fun
    | (ticket, some true) => some ticket.toNat
    | _ => none

theorem acceptedOf_cons (ticket : ULong) (verdict : Bool) (past : List (ULong × Option Bool)) :
    acceptedOf ((ticket, some verdict) :: past) =
      if verdict then ticket.toNat :: acceptedOf past else acceptedOf past := by
  cases verdict <;> rfl

variable {fuel : ℕ}

def initial : TicketsHistory 64 := ticketsInit (Nat.zero_lt_succ 63)

/-- One check after the other remembers what has been accepted. -/
structure Kept (verdicts : List (ULong × Option Bool)) (h : TicketsHistory 64) : Prop where
  remembers : Checked.Remembers ⟨h, acceptedOf verdicts⟩
  once : (acceptedOf verdicts).Nodup
  told : ∀ ticket verdict past, (ticket, verdict) :: past <:+ verdicts →
    verdict = some (decide (Fresh 64 (acceptedOf past) ticket.toNat))

theorem kept_whole {verdicts : List (ULong × Option Bool)} {h : TicketsHistory 64}
    (run : Run (wholeMachine (check fuel) initial) verdicts h) : Kept verdicts h := by
  induction run with
  | start init =>
    cases init
    exact ⟨remembers_init _, List.nodup_nil, fun ticket verdict past suffix => by simp at suffix⟩
  | @step past h after e run step ih =>
    obtain ⟨ticket, verdict⟩ := e
    have checked : (verdict, after) = _ :=
      Eq.trans (Eq.symm step) (Accesses.run_ticketsCheck fuel (ticket.setWidth 64) h)
    obtain ⟨rfl, rfl⟩ := Prod.mk.inj checked
    have fresh := ih.remembers.verdict (ticket.setWidth 64)
    have next := ih.remembers.check (h.leaves_of_room (ServerInterceptor.ticket_room ticket))
    rw [ServerInterceptor.toNat_setWidth_ticket] at fresh
    rw [Checked.check, ServerInterceptor.toNat_setWidth_ticket] at next
    refine ⟨?_, ?_, fun ticket' verdict' past' suffix => ?_⟩
    · rw [acceptedOf_cons]
      exact next
    · rw [acceptedOf_cons]
      split
      · next accepted => exact List.nodup_cons.mpr ⟨(fresh.mp accepted).1, ih.once⟩
      · exact ih.once
    · rcases List.suffix_cons_iff.mp suffix with same | before
      · cases same
        rw [Option.some.injEq, Bool.eq_iff_iff, decide_eq_true_iff]
        exact fresh
      · exact ih.told ticket' verdict' past' before

/-- While nobody accesses the history amid the check of another, each check accepts exactly what is
fresh when it ends, and no ticket is accepted twice. -/
theorem serial_checks {history : List (AccessEvent ℕ ULong (Option Bool))}
    {s : Threads ℕ ULong (TicketsHistory 64) (Option Bool)}
    (run : Run (checkMachine fuel initial) history s) (serial : Always Serial history) :
    (acceptedOf (history.filterMap completed)).Nodup ∧ ∀ thread ticket verdict past,
      .accessed thread ticket (some verdict) :: past <:+ history → verdict =
        some (decide (Fresh 64 (acceptedOf (past.filterMap completed)) ticket.toNat)) := by
  obtain ⟨base, whole, -⟩ := exists_undivided run serial
  have kept := kept_whole whole
  exact ⟨kept.once, fun thread ticket verdict past suffix =>
    kept.told ticket verdict _ (suffix.filterMap completed)⟩

theorem serial_checks_replayed :
    let history : List (AccessEvent ℕ ULong (Option Bool)) :=
      [.accessed 1 0 (some (some false)), .begun 1 0, .accessed 0 0 (some (some true)),
        .accessed 0 0 none, .accessed 0 0 none, .accessed 0 0 none, .accessed 0 0 none, .begun 0 0]
    (∃ s, Run (checkMachine 0 initial) history s) ∧ Always Serial history ∧
      (acceptedOf (history.filterMap completed)).Nodup ∧ ∀ thread ticket verdict past,
        .accessed thread ticket (some verdict) :: past <:+ history → verdict =
          some (decide (Fresh 64 (acceptedOf (past.filterMap completed)) ticket.toNat)) := by
  intro history
  have serial : Always Serial history := by
    simp [history, Always, Serial, Amid]
    omega
  have begun : Run (checkMachine 0 initial) _ _ := run_begun (.start rfl) 0 rfl 0
  have compared := begun.step (.accessed (Function.update_self ..) rfl)
  have atBase := compared.step (.accessed (Function.update_self ..) rfl)
  have loaded := atBase.step (.accessed (Function.update_self ..) rfl)
  have advanced := loaded.step (.accessed (Function.update_self ..) rfl)
  have accepted := advanced.step (.accessed (Function.update_self ..) rfl)
  have replayed := run_begun accepted 1 rfl 0
  have refused := replayed.step (.accessed (Function.update_self ..) rfl)
  have run : Run (checkMachine 0 initial) history _ := refused
  exact ⟨⟨_, run⟩, serial, serial_checks run serial⟩

namespace Accesses

open Access

/-- Where a program accepts whatever the others have done meanwhile. -/
def Poised {w : ℕ} (rest : Access (TicketsHistory w) (Option Bool)) : Prop :=
  rest.ended = none ∧ ∀ h, (rest.run h).1 = some true

variable {w : ℕ} {h : TicketsHistory w} {id : BitVec w}

theorem checkFlag_reaches {shift : ℕ} (unset : h.flag shift = false) :
    (checkFlag shift).Reaches h
      (do set ((h.index + shift) % w); return true : Access (TicketsHistory w) Bool) h := by
  have index : (checkFlag shift).Reaches h _ h := reaches_load TicketsHistory.index _ h
  have bits := index.trans (reaches_load TicketsHistory.bits _ h)
  rwa [if_neg (by simpa [flag] using unset)] at bits

/-- A free ticket that is not beyond the window is found free before anything is written. -/
theorem exists_poised (fuel : ℕ) (free : ¬ h.Taken id.toNat)
    (near : ¬ id < h.base → id ≠ h.base → (id - h.base - 1).toNat < w) :
    ∃ rest, (ticketsCheck (fuel + 1) id).Reaches h rest h ∧ Poised rest := by
  have notBelow : ¬ id < h.base := fun below => free (.inl (BitVec.lt_def.mp below))
  have first : (ticketsCheck (fuel + 1) id).Reaches h _ h := reaches_load TicketsHistory.base _ h
  rw [if_neg notBelow] at first
  have second := first.trans (reaches_load TicketsHistory.base _ h)
  by_cases same : id = h.base
  · rw [if_pos same] at second
    exact ⟨_, second, rfl, fun t => by simp⟩
  · have above := lt_toNat_of_not notBelow same
    have inside := near notBelow same
    have unset : h.flag (id - h.base - 1).toNat = false := by
      rw [toNat_shift above] at inside ⊢
      rw [Bool.eq_false_iff]
      exact fun set => free (.inr ⟨above, inside, set⟩)
    rw [if_neg same] at second
    have third := second.trans (reaches_load TicketsHistory.base _ h)
    dsimp only at third
    rw [if_pos inside] at third
    exact ⟨_, third.trans ((checkFlag_reaches unset).bind fun a => pure (some a)), rfl,
      fun t => by simp⟩

/-- A check of a ticket beyond the window has the window jump, and begins anew. -/
theorem reaches_jump (fuel : ℕ) (notBelow : ¬ id < h.base) (differ : id ≠ h.base)
    (far : ¬ (id - h.base - 1).toNat < w) :
    (ticketsCheck (fuel + 1) id).Reaches h (ticketsCheck fuel id)
      (h.jump (id - h.base - 1 - BitVec.ofNat w w)) := by
  have first : (ticketsCheck (fuel + 1) id).Reaches h _ h := reaches_load TicketsHistory.base _ h
  rw [if_neg notBelow] at first
  have second := first.trans (reaches_load TicketsHistory.base _ h)
  rw [if_neg differ] at second
  have third := second.trans (reaches_load TicketsHistory.base _ h)
  dsimp only at third
  rw [if_neg far] at third
  have jumped := reaches_run (jump (id - h.base - 1 - BitVec.ofNat w w)) h
  rw [run_jump] at jumped
  exact third.trans (jumped.bind fun _ => ticketsCheck fuel id)

/-- A check of a free ticket comes to a point from which on it accepts; there another one that is
begun comes to such a point too, and neither has written since. -/
theorem exists_poised_both (fuel : ℕ) (free : ¬ h.Taken id.toNat) :
    ∃ t first second, (ticketsCheck (fuel + 2) id).Reaches h first t ∧ Poised first ∧
      (ticketsCheck (fuel + 2) id).Reaches t second t ∧ Poised second := by
  by_cases near : ¬ id < h.base → id ≠ h.base → (id - h.base - 1).toNat < w
  · obtain ⟨rest, reaches, poised⟩ := exists_poised (fuel + 1) free near
    exact ⟨h, rest, rest, reaches, poised, reaches, poised⟩
  · simp only [Classical.not_imp] at near
    obtain ⟨notBelow, differ, far⟩ := near
    have distance := toNat_extra far (lt_toNat_of_not notBelow differ)
    have still : ¬ (h.jump (id - h.base - 1 - BitVec.ofNat w w)).Taken id.toNat := by
      have := id.isLt
      rw [(jump_spec h _ (by omega)).1, not_or]
      exact ⟨by omega, free⟩
    have near := near_jump notBelow differ far rfl
    obtain ⟨first, reaches, poised⟩ := exists_poised fuel still near
    obtain ⟨second, reaches', poised'⟩ := exists_poised (fuel + 1) still near
    exact ⟨_, first, second, (reaches_jump (fuel + 1) notBelow differ far).trans reaches, poised,
      reaches', poised'⟩

/-- The check of a ticket that is taken does not write. -/
theorem settled_of_taken (fuel : ℕ) (taken : h.Taken id.toNat) :
    Settled h (some false) (ticketsCheck (fuel + 1) id) := by
  refine (settled_load TicketsHistory.base h).bind ?_
  rcases taken with below | ⟨above, inside, set⟩
  · rw [if_pos (BitVec.lt_def.mpr below)]
    exact .done
  · have notBelow : ¬ id < h.base := fun below => by
      have := BitVec.lt_def.mp below
      omega
    have differ : id ≠ h.base := by
      rintro rfl
      omega
    rw [← toNat_shift above] at inside set
    rw [if_neg notBelow]
    refine (settled_load TicketsHistory.base h).bind ?_
    rw [if_neg differ]
    refine (settled_load TicketsHistory.base h).bind ?_
    dsimp only
    rw [if_pos inside]
    have flagged : Settled h false (checkFlag (id - h.base - 1).toNat) := by
      refine (settled_load TicketsHistory.index h).bind
        ((settled_load TicketsHistory.bits h).bind ?_)
      rw [if_pos (by simpa [flag] using set)]
      exact .done
    exact flagged.bind .done

end Accesses

open Accesses Access

variable {start : TicketsHistory 64} {history : List (AccessEvent ℕ ULong (Option Bool))}
  {s : Threads ℕ ULong (TicketsHistory 64) (Option Bool)}

/-- Checks of a taken ticket alone leave it taken, and refuse it. -/
theorem refused_of_taken {ticket : ULong} (taken : start.Taken ticket.toNat)
    (run : Run (checkMachine fuel start) history s)
    (only : ∀ thread other, .begun thread other ∈ history → other = ticket) :
    s.state = start ∧
      (∀ thread other rest, s.running thread = some (other, rest) →
        Settled start (some false) rest) ∧
      ∀ verdict ∈ history.filterMap completed, verdict.2 = some false := by
  induction run with
  | start init =>
    cases init
    exact ⟨rfl, nofun, by simp⟩
  | @step past s t e run step ih =>
    obtain ⟨state, settled, refused⟩ := ih fun thread other mem => only thread other (.tail _ mem)
    cases step with
    | @begun thread idle task =>
      refine ⟨state, fun other task' rest running => ?_, refused⟩
      rcases running_cases running with ⟨rfl, begins⟩ | ⟨-, running⟩
      · cases begins
        obtain rfl := only other task List.mem_cons_self
        refine settled_of_taken (fuel + 1) ?_
        rwa [ServerInterceptor.toNat_setWidth_ticket]
      · exact settled other task' rest running
    | @accessed thread task rest next t running stepped =>
      rw [state] at stepped
      obtain ⟨same, goes⟩ := (settled thread task rest running).step stepped
      refine ⟨same, fun other task' rest' running' => ?_, ?_⟩
      · rcases running_cases running' with ⟨-, left⟩ | ⟨-, running'⟩
        · split at left
          · cases left
          · cases left
            exact goes
        · exact settled other task' rest' running'
      · rw [List.filterMap_cons]
        cases finished : next.ended with
        | none => exact refused
        | some verdict =>
          have verdict := goes.ended finished
          exact List.forall_mem_cons.mpr ⟨verdict, refused⟩

/-- What a history would accept once it can be made to accept twice: threads that check one ticket
get it accepted twice in some order of their accesses if and only if the ticket is not taken. -/
theorem accepted_twice_iff (fuel : ℕ) (start : TicketsHistory 64) (ticket : ULong) :
    (∃ history s, Run (checkMachine fuel start) history s ∧
      (∀ thread other, .begun thread other ∈ history → other = ticket) ∧
      history.filterMap completed = [(ticket, some true), (ticket, some true)]) ↔
    ¬ start.Taken ticket.toNat := by
  constructor
  · rintro ⟨history, s, run, only, accepted⟩ taken
    obtain ⟨-, -, refused⟩ := refused_of_taken taken run only
    rw [accepted] at refused
    cases refused _ List.mem_cons_self
  · intro free
    rw [← ServerInterceptor.toNat_setWidth_ticket] at free
    obtain ⟨t, first, second, reaches, poised, reaches', poised'⟩ := exists_poised_both fuel free
    obtain ⟨history, s, run, only, ended⟩ :=
      exists_run_overlapping (check fuel) Nat.zero_ne_one ticket rfl reaches poised.1 reaches'
        poised'.1
    refine ⟨history, s, run, only, ?_⟩
    rw [ended, poised.2, poised'.2]

end TicketsHistory

end OpenBus
