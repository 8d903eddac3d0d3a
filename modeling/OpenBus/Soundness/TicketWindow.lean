import OpenBus.Model.Ticket
import OpenBus.Model.Idl
import Mathlib.Data.List.Induction

/-! # A history of tickets remembers what it has accepted

A checker could keep the list of all tickets it has accepted, and refuse a ticket that is on the
list or lies further behind one of them than the window is wide. `tickets_check` decides the same
from one machine word: the two give the same verdicts along every sequence of tickets that leaves
out one of those at the end of the range.
-/

namespace OpenBus

namespace TicketsHistory

variable {w : ℕ}

/-- A ticket that is not on the list of accepted ones, nor too far behind any of them. -/
def Fresh (w : ℕ) (accepted : List ℕ) (id : ℕ) : Prop :=
  id ∉ accepted ∧ ∀ other ∈ accepted, ¬ id + w < other

instance (w : ℕ) (accepted : List ℕ) (id : ℕ) : Decidable (Fresh w accepted id) :=
  inferInstanceAs (Decidable (_ ∧ _))

/-- The checker that remembers every accepted ticket. -/
def remember (w : ℕ) (accepted : List ℕ) (id : ℕ) : List ℕ :=
  if Fresh w accepted id then id :: accepted else accepted

/-- A history, and the tickets on which its checks have returned 1, the latest first. -/
structure Checked (w : ℕ) where
  history : TicketsHistory w
  accepted : List ℕ

def Checked.check (checked : Checked w) (id : BitVec w) : Checked w where
  history := (checked.history.ticketsCheck id).2
  accepted :=
    if (checked.history.ticketsCheck id).1 then id.toNat :: checked.accepted else checked.accepted

/-- The history takes the tickets which the list tells not to be fresh. -/
def Checked.Remembers (checked : Checked w) : Prop :=
  ∀ t, checked.history.Taken t ↔ ¬ Fresh w checked.accepted t

theorem fresh_cons {accepted : List ℕ} {id t : ℕ} :
    Fresh w (id :: accepted) t ↔ Fresh w accepted t ∧ t ≠ id ∧ ¬ t + w < id := by
  simp only [Fresh, List.mem_cons, not_or, forall_eq_or_imp]
  tauto

theorem Checked.Remembers.verdict {checked : Checked w} (remembers : checked.Remembers)
    (id : BitVec w) :
    (checked.history.ticketsCheck id).1 = true ↔ Fresh w checked.accepted id.toNat := by
  rw [ticketsCheck_accepts, remembers, not_not]

theorem Checked.Remembers.accepted_check {checked : Checked w} (remembers : checked.Remembers)
    (id : BitVec w) : (checked.check id).accepted = remember w checked.accepted id.toNat := by
  unfold Checked.check remember
  by_cases fresh : Fresh w checked.accepted id.toNat
  · rw [if_pos fresh]
    exact if_pos ((remembers.verdict id).mpr fresh)
  · rw [if_neg fresh]
    exact if_neg fun accepted => fresh ((remembers.verdict id).mp accepted)

/-- One check takes the ticket it accepts, and the tickets that fall out of the window. -/
theorem Checked.Remembers.check {checked : Checked w} (remembers : checked.Remembers)
    {id : BitVec w} (leaves : checked.history.Leaves id) : (checked.check id).Remembers := by
  intro t
  have taken := ticketsCheck_spec checked.history id leaves t
  change (checked.history.ticketsCheck id).2.Taken t ↔ _
  rw [remembers.accepted_check id, remember]
  by_cases fresh : Fresh w checked.accepted id.toNat
  · have accepted := (remembers.verdict id).mpr fresh
    rw [taken, remembers t, if_pos fresh, fresh_cons]
    tauto
  · have refused : ¬ (checked.history.ticketsCheck id).1 = true :=
      fun accepted => fresh ((remembers.verdict id).mp accepted)
    rw [taken, remembers t, if_neg fresh]
    tauto

/-- A new history, to which a sequence of tickets is presented. -/
def present (positive : 0 < w) (ids : List (BitVec w)) : Checked w :=
  ids.foldl Checked.check ⟨ticketsInit positive, []⟩

theorem present_append (positive : 0 < w) (before : List (BitVec w)) (id : BitVec w) :
    present positive (before ++ [id]) = (present positive before).check id :=
  List.foldl_append

/-- One of the last tickets, which no window ever leaves behind. -/
def Late (ticket : BitVec w) : Prop := 2 ^ w ≤ ticket.toNat + w + 1

/-- What holds of a new history as long as a late ticket is not presented. -/
structure Checked.Follows (checked : Checked w) (ids : List (BitVec w)) : Prop where
  remembers : checked.Remembers
  accepted_eq : checked.accepted = (ids.map BitVec.toNat).foldl (remember w) []
  presented : ∀ t ∈ checked.accepted, ∃ id ∈ ids, id.toNat = t

theorem Checked.Follows.leaves {checked : Checked w} {ids : List (BitVec w)}
    (follows : checked.Follows ids) {spare id : BitVec w} (late : Late spare)
    (absent : spare ∉ ids) (differ : spare ≠ id) : checked.history.Leaves id := by
  refine ⟨spare.toNat, spare.isLt, mt BitVec.eq_of_toNat_eq differ, ?_, ?_⟩
  · rw [follows.remembers, not_not]
    constructor
    · intro mem
      obtain ⟨earlier, presented, same⟩ := follows.presented _ mem
      exact absent (BitVec.eq_of_toNat_eq same ▸ presented)
    · intro other mem
      obtain ⟨earlier, -, rfl⟩ := follows.presented _ mem
      have := earlier.isLt
      unfold Late at late
      omega
  · have := id.isLt
    unfold Late at late
    omega

theorem Checked.Follows.check {checked : Checked w} {ids : List (BitVec w)}
    (follows : checked.Follows ids) {id : BitVec w} (leaves : checked.history.Leaves id) :
    (checked.check id).Follows (ids ++ [id]) where
  remembers := follows.remembers.check leaves
  accepted_eq := by
    rw [follows.remembers.accepted_check, follows.accepted_eq, List.map_append, List.foldl_append]
    rfl
  presented := by
    intro t mem
    rw [follows.remembers.accepted_check, remember] at mem
    have extended (earlier : t ∈ checked.accepted) : ∃ other ∈ ids ++ [id], other.toNat = t := by
      obtain ⟨other, presented, same⟩ := follows.presented t earlier
      exact ⟨other, List.mem_append_left _ presented, same⟩
    split at mem
    · rcases List.mem_cons.mp mem with same | earlier
      · exact ⟨id, by simp, same.symm⟩
      · exact extended earlier
    · exact extended mem

theorem remembers_init (positive : 0 < w) : Checked.Remembers ⟨ticketsInit positive, []⟩ := by
  intro t
  apply iff_of_false (not_taken_ticketsInit positive t)
  simp [Fresh]

/-- As long as a late ticket is not presented, the history remembers what it has accepted. -/
theorem present_follows (positive : 0 < w) {spare : BitVec w} (late : Late spare)
    (ids : List (BitVec w)) (absent : spare ∉ ids) : (present positive ids).Follows ids := by
  induction ids using List.reverseRecOn with
  | nil => exact ⟨remembers_init positive, rfl, by simp [present]⟩
  | append_singleton before id ih =>
    rw [List.mem_append, List.mem_singleton, not_or] at absent
    have follows := ih absent.1
    rw [present_append]
    exact follows.check (follows.leaves late absent.1 absent.2)

/-- The tickets of the protocol have 32 bits, and words have 64: after every sequence of tickets
the history has accepted those which the checker with the list has, and accepts the next one
exactly if it is fresh. -/
theorem ticketsCheck_eq_remember (before : List ULong) (ticket : ULong) :
    let checked : Checked 64 := present (by decide) (before.map (·.setWidth 64))
    let accepted := (before.map BitVec.toNat).foldl (remember 64) []
    checked.accepted = accepted ∧
      ((checked.history.ticketsCheck (ticket.setWidth 64)).1 = true ↔
        ticket.toNat ∉ accepted ∧ ∀ other ∈ accepted, ¬ other > ticket.toNat + 64) := by
  intro checked accepted
  have widened (id : ULong) : (id.setWidth 64).toNat = id.toNat := by
    rw [BitVec.toNat_setWidth, Nat.mod_eq_of_lt]
    exact id.isLt.trans (by decide)
  have tickets : (before.map (·.setWidth 64)).map BitVec.toNat = before.map BitVec.toNat := by
    rw [List.map_map]
    exact List.map_congr_left fun id _ => widened id
  -- The last ticket of 64 bits is not among those of 32.
  have absent : BitVec.allOnes 64 ∉ before.map (·.setWidth 64) := by
    intro mem
    obtain ⟨original, -, same⟩ := List.mem_map.mp mem
    have value := widened original
    have := original.isLt
    rw [same, BitVec.toNat_allOnes] at value
    omega
  have late : Late (BitVec.allOnes 64) := by
    rw [Late, BitVec.toNat_allOnes]
    omega
  have follows : checked.Follows (before.map (·.setWidth 64)) :=
    present_follows (by decide) late _ absent
  have same : checked.accepted = accepted := by
    have along := follows.accepted_eq
    rwa [tickets] at along
  refine ⟨same, ?_⟩
  rw [follows.remembers.verdict, same, widened]
  exact Iff.rfl

end TicketsHistory

end OpenBus
