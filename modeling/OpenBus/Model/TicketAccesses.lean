import OpenBus.Machine.Access
import OpenBus.Model.Ticket

/-! # The accesses of a ticket check

`handle_credential` looks the session up under the mutex of the interceptor, and checks the ticket
after it has left it. Several threads may therefore be in `tickets_check` for one history. Here each
read and each write of a member is an access of its own; alone they do what `ticketsCheck` does.
-/

namespace OpenBus

open Machine

namespace TicketsHistory

variable {w : ℕ}

def storeBase (base : BitVec w) : Access (TicketsHistory w) Unit := .store fun h => { h with base }

def storeBits (bits : BitVec w) : Access (TicketsHistory w) Unit := .store fun h => { h with bits }

def storeIndex (index : ℕ) : Access (TicketsHistory w) Unit :=
  .store fun h =>
    { h with
      index := index % w
      index_lt := Nat.mod_lt _ (Nat.zero_lt_of_lt h.index_lt) }

namespace Accesses

/-- `h->base += n` -/
def advance (n : BitVec w) : Access (TicketsHistory w) Unit := do
  let base ← .load TicketsHistory.base
  storeBase (base + n)

/-- `h->index = (h->index + 1) % TICKETS_SIZE` -/
def rotate : Access (TicketsHistory w) Unit := do
  let index ← .load TicketsHistory.index
  storeIndex (index + 1)

/-- `FLAG(h->bits, h->index)` -/
def frontFlag : Access (TicketsHistory w) Bool := do
  let bits ← .load TicketsHistory.bits
  let index ← .load TicketsHistory.index
  return bits.getLsbD index

/-- `CLEAR(h->bits, h->index)`, and the index moves on. -/
def skip : Access (TicketsHistory w) Unit := do
  let bits ← .load TicketsHistory.bits
  let index ← .load TicketsHistory.index
  storeBits (bits &&& ~~~(1#w <<< index))
  rotate

def discardLoop : ℕ → Access (TicketsHistory w) Unit
  | 0 => return ()
  | n + 1 => do
      let flag ← frontFlag
      if flag then
        skip
        advance 1
        discardLoop n
      else return ()

def discardBase : Access (TicketsHistory w) Unit := do
  advance 1
  let bits ← .load TicketsHistory.bits
  if bits ≠ 0 then
    discardLoop w
    rotate
  else return ()

/-- The loop that clears the flags which the window leaves behind. -/
def skips : ℕ → Access (TicketsHistory w) Unit
  | 0 => return ()
  | n + 1 => do
      skip
      skips n

def reset : Access (TicketsHistory w) Unit := do
  storeBits 0
  storeIndex 0

def jump (extra : BitVec w) : Access (TicketsHistory w) Unit := do
  if extra.toNat < w then skips extra.toNat else reset
  advance extra
  discardBase

/-- `SET(h->bits, place)` -/
def set (place : ℕ) : Access (TicketsHistory w) Unit := do
  let bits ← .load TicketsHistory.bits
  storeBits (bits ||| 1#w <<< place)

/-- A ticket within the window. -/
def checkFlag (shift : ℕ) : Access (TicketsHistory w) Bool := do
  let index ← .load TicketsHistory.index
  let bits ← .load TicketsHistory.bits
  if bits.getLsbD ((index + shift) % w) then return false
  else
    set ((index + shift) % w)
    return true

/-- `tickets_check`, which calls itself again after a jump of the window. Other threads can make it
do so any number of times, so that the number is bounded here; alone it does so once. -/
def ticketsCheck : ℕ → BitVec w → Access (TicketsHistory w) (Option Bool)
  | 0, _ => return none
  | fuel + 1, id => do
      let base ← .load TicketsHistory.base
      if id < base then return some false
      else
        let base ← .load TicketsHistory.base
        if id = base then
          discardBase
          return some true
        else
          let base ← .load TicketsHistory.base
          let shift := id - base - 1
          if shift.toNat < w then some <$> checkFlag shift.toNat
          else
            jump (shift - BitVec.ofNat w w)
            ticketsCheck fuel id

@[simp] theorem run_advance (n : BitVec w) (h : TicketsHistory w) :
    (advance n).run h = ((), h.advance n) := rfl

@[simp] theorem run_rotate (h : TicketsHistory w) : rotate.run h = ((), h.rotate) := rfl

theorem run_frontFlag (h : TicketsHistory w) : frontFlag.run h = (h.flag 0, h) := by
  simp [frontFlag, flag, Nat.mod_eq_of_lt h.index_lt]

@[simp] theorem run_skip (h : TicketsHistory w) : skip.run h = ((), h.skip) := rfl

@[simp] theorem run_discardLoop (n : ℕ) (h : TicketsHistory w) :
    (discardLoop n).run h = ((), h.discardLoop n) := by
  induction n generalizing h with
  | zero => rfl
  | succ n ih =>
    rw [discardLoop, Access.run_bind, run_frontFlag, TicketsHistory.discardLoop]
    by_cases set : h.flag 0 = true
    · simp only [set, if_true, Access.run_bind, run_skip, run_advance, ih]
    · simp only [set, Bool.false_eq_true, if_false, Access.run_pure]

@[simp] theorem run_discardBase (h : TicketsHistory w) :
    discardBase.run h = ((), h.discardBase) := by
  have kept (n : BitVec w) : (h.advance n).bits = h.bits := rfl
  by_cases empty : h.bits = 0
  · simp [discardBase, TicketsHistory.discardBase, kept, empty]
  · have some : h.bits ≠ 0#w := empty
    simp [discardBase, TicketsHistory.discardBase, kept, some]

theorem run_skips (n : ℕ) (h : TicketsHistory w) :
    (skips n).run h = ((), TicketsHistory.skip^[n] h) := by
  induction n generalizing h with
  | zero => rfl
  | succ n ih => rw [skips, Access.run_bind, run_skip, ih, Function.iterate_succ_apply]

@[simp] theorem run_jump (extra : BitVec w) (h : TicketsHistory w) :
    (jump extra).run h = ((), h.jump extra) := by
  by_cases near : extra.toNat < w
  · simp [jump, TicketsHistory.jump, near, run_skips]
  · have emptied : (reset (w := w)).run h = ((), h.reset) := rfl
    simp [jump, TicketsHistory.jump, near, emptied]

theorem run_checkFlag (shift : ℕ) (h : TicketsHistory w) :
    (checkFlag shift).run h = if h.flag shift then (false, h) else (true, h.set shift) := by
  by_cases taken : h.bits.getLsbD ((h.index + shift) % w) = true
  · simp [checkFlag, flag, taken]
  · simp [checkFlag, flag, taken]
    rfl

theorem run_ticketsCheck_succ (fuel : ℕ) (id : BitVec w) (h : TicketsHistory w) :
    (ticketsCheck (fuel + 1) id).run h =
      if id < h.base then (some false, h)
      else if id = h.base then (some true, h.discardBase)
      else if (id - h.base - 1).toNat < w then
        if h.flag (id - h.base - 1).toNat then (some false, h)
        else (some true, h.set (id - h.base - 1).toNat)
      else (ticketsCheck fuel id).run (h.jump (id - h.base - 1 - BitVec.ofNat w w)) := by
  rw [ticketsCheck, Access.run_bind, Access.run_load]
  by_cases below : id < h.base
  · simp only [below, if_true, Access.run_pure]
  simp only [below, if_false, Access.run_bind, Access.run_load]
  by_cases same : id = h.base
  · simp only [same, if_true, Access.run_bind, run_discardBase, Access.run_pure]
  simp only [same, if_false, Access.run_bind, Access.run_load]
  by_cases near : (id - h.base - 1).toNat < w
  · simp only [near, if_true, Access.run_map, run_checkFlag]
    split
    · rfl
    · rfl
  · simp only [near, if_false, Access.run_bind, run_jump]

/-- A ticket that is not beyond the window is judged at once. -/
theorem run_ticketsCheck_near (fuel : ℕ) {id : BitVec w} {h : TicketsHistory w}
    (near : ¬ id < h.base → id ≠ h.base → (id - h.base - 1).toNat < w) :
    (ticketsCheck (fuel + 1) id).run h = (some (h.ticketsCheck id).1, (h.ticketsCheck id).2) := by
  rw [run_ticketsCheck_succ, TicketsHistory.ticketsCheck]
  by_cases below : id < h.base
  · simp only [below, if_true]
  by_cases same : id = h.base
  · rw [if_neg below, if_neg below, if_pos same, if_pos same]
  simp only [below, same, near below same, if_true, if_false]
  split
  · rfl
  · rfl

/-- The jump brings the ticket into the window, or onto its base. -/
theorem near_jump {id : BitVec w} {h : TicketsHistory w} (notBelow : ¬ id < h.base)
    (differ : id ≠ h.base) (far : ¬ (id - h.base - 1).toNat < w) {next : TicketsHistory w}
    (jumped : next = h.jump (id - h.base - 1 - BitVec.ofNat w w)) (still : ¬ id < next.base)
    (other : id ≠ next.base) : (id - next.base - 1).toNat < w := by
  have distance := toNat_extra far (lt_toNat_of_not notBelow differ)
  have moved := (jump_spec h (id - h.base - 1 - BitVec.ofNat w w) (by
    have := id.isLt
    omega)).2
  rw [← jumped] at moved
  have above := lt_toNat_of_not still other
  rw [toNat_shift above]
  omega

/-- Nobody else accessing the history, the accesses are those of a check. -/
theorem run_ticketsCheck (fuel : ℕ) (id : BitVec w) (h : TicketsHistory w) :
    (ticketsCheck (fuel + 2) id).run h = (some (h.ticketsCheck id).1, (h.ticketsCheck id).2) := by
  by_cases near : ¬ id < h.base → id ≠ h.base → (id - h.base - 1).toNat < w
  · exact run_ticketsCheck_near (fuel + 1) near
  · simp only [Classical.not_imp] at near
    obtain ⟨notBelow, differ, far⟩ := near
    rw [run_ticketsCheck_succ, if_neg notBelow, if_neg differ, if_neg far,
      run_ticketsCheck_near fuel (near_jump notBelow differ far rfl)]
    have again : h.ticketsCheck id =
        (h.jump (id - h.base - 1 - BitVec.ofNat w w)).ticketsCheck id := by
      rw [TicketsHistory.ticketsCheck, if_neg notBelow, if_neg differ]
      exact if_neg far
    rw [again]

end Accesses

end TicketsHistory

end OpenBus
