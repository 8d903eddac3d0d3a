import Mathlib.Algebra.Group.Nat.Defs
import Mathlib.Logic.Function.Iterate

/-! # The ticket window

A history accepts each ticket at most once. Below `base` everything counts as taken, and the
circular bitmap of one machine word, read from `index` on, tells which of the next tickets
are. The word size is a parameter, since `unsigned long` differs between platforms. `Taken` is
the set of tickets a history refuses, and `ticketsCheck_spec` describes a check by this set
alone, unless the check leaves no ticket to be taken: the bitmap, the index and the branch for a
jump of the window do not occur in it.
-/

namespace OpenBus

/-- `tickets_History`; the index is always reduced modulo the number of bits. -/
structure TicketsHistory (w : ℕ) where
  base : BitVec w
  bits : BitVec w
  index : ℕ
  index_lt : index < w
deriving DecidableEq

namespace TicketsHistory

variable {w : ℕ}

/-- Whether the flag `i` places after the index is set. -/
def flag (h : TicketsHistory w) (i : ℕ) : Bool := h.bits.getLsbD ((h.index + i) % w)

/-- `SET` of the flag `i` places after the index. -/
def set (h : TicketsHistory w) (i : ℕ) : TicketsHistory w :=
  { h with bits := h.bits ||| 1#w <<< ((h.index + i) % w) }

/-- `CLEAR` the flag at the index and move the index one place on. -/
def skip (h : TicketsHistory w) : TicketsHistory w :=
  { h with
    bits := h.bits &&& ~~~(1#w <<< h.index)
    index := (h.index + 1) % w
    index_lt := Nat.mod_lt _ (Nat.zero_lt_of_lt h.index_lt) }

/-- Move the index one place on. -/
def rotate (h : TicketsHistory w) : TicketsHistory w :=
  { h with
    index := (h.index + 1) % w
    index_lt := Nat.mod_lt _ (Nat.zero_lt_of_lt h.index_lt) }

/-- `base += n`. -/
def advance (h : TicketsHistory w) (n : BitVec w) : TicketsHistory w :=
  { h with base := h.base + n }

/-- The loop of `discardBase`: consume the flags of consecutive tickets, at most `n` of them. -/
def discardLoop : ℕ → TicketsHistory w → TicketsHistory w
  | 0, h => h
  | n + 1, h => if h.flag 0 then discardLoop n (h.skip.advance 1) else h

def discardBase (h : TicketsHistory w) : TicketsHistory w :=
  if h.bits ≠ 0 then (discardLoop w (h.advance 1)).rotate else h.advance 1

def ticketsInit (positive : 0 < w) : TicketsHistory w := ⟨0, 0, 0, positive⟩

/-- Clear all flags and move the index to the start. -/
def reset (h : TicketsHistory w) : TicketsHistory w :=
  { h with bits := 0, index := 0, index_lt := Nat.zero_lt_of_lt h.index_lt }

/-- The part of `tickets_check` for a ticket beyond the window: the flags the window leaves
behind are cleared, all of them when it moves by a whole word or more. -/
def jump (h : TicketsHistory w) (extra : BitVec w) : TicketsHistory w :=
  let cleared := if extra.toNat < w then skip^[extra.toNat] h else h.reset
  discardBase (cleared.advance extra)

/-- An offset within the word wraps around at most once. -/
private theorem wrap {index i : ℕ} (hindex : index < w) (hi : i < w) :
    (index + i) % w = if index + i < w then index + i else index + i - w := by
  split
  · next inside => exact Nat.mod_eq_of_lt inside
  · next outside =>
    rw [Nat.mod_eq_sub_mod (by omega)]
    exact Nat.mod_eq_of_lt (by omega)

private theorem getLsbD_one_shiftLeft {i j : ℕ} (hj : j < w) :
    (1#w <<< i).getLsbD j = decide (j = i) := by
  rw [← BitVec.twoPow_eq, BitVec.getLsbD_twoPow]
  grind

theorem flag_set (h : TicketsHistory w) {i j : ℕ} (hi : i < w) (hj : j < w) :
    (h.set i).flag j = (h.flag j || decide (j = i)) := by
  have bound := h.index_lt
  have place : (h.index + j) % w = (h.index + i) % w ↔ j = i := by
    rw [wrap bound hi, wrap bound hj]
    grind
  have within : (h.index + j) % w < w := Nat.mod_lt _ (by omega)
  change (h.bits ||| 1#w <<< ((h.index + i) % w)).getLsbD ((h.index + j) % w) = _
  simp only [flag, BitVec.getLsbD_or, getLsbD_one_shiftLeft within, place]

/-- Skipping clears the flag in front, which becomes the last one of the window. -/
theorem flag_skip (h : TicketsHistory w) {i : ℕ} (hi : i < w) :
    h.skip.flag i = (decide (i + 1 < w) && h.flag (i + 1)) := by
  have bound := h.index_lt
  have inside : (h.index + 1) % w < w := Nat.mod_lt _ (by omega)
  have position : ((h.index + 1) % w + i) % w = (h.index + (i + 1)) % w := by
    rw [Nat.mod_add_mod, Nat.add_assoc, Nat.add_comm 1 i]
  have front : (h.index + (i + 1)) % w = h.index ↔ ¬ i + 1 < w := by
    by_cases last : i + 1 < w
    · rw [wrap bound last]
      grind
    · have : i + 1 = w := by omega
      rw [this, Nat.add_mod_right, Nat.mod_eq_of_lt bound]
      simp
  have within : (h.index + (i + 1)) % w < w := Nat.mod_lt _ (by omega)
  simp only [flag, skip, BitVec.getLsbD_and, BitVec.getLsbD_not, position,
    getLsbD_one_shiftLeft within, front, within, decide_true, Bool.true_and, decide_not,
    Bool.not_not]
  exact Bool.and_comm _ _

/-- Moving on from a clear flag is skipping it. -/
theorem flag_rotate (h : TicketsHistory w) (clear : h.flag 0 = false) {i : ℕ} (hi : i < w) :
    h.rotate.flag i = (decide (i + 1 < w) && h.flag (i + 1)) := by
  have bound := h.index_lt
  have position : ((h.index + 1) % w + i) % w = (h.index + (i + 1)) % w := by
    rw [Nat.mod_add_mod, Nat.add_assoc, Nat.add_comm 1 i]
  change h.bits.getLsbD (((h.index + 1) % w + i) % w) = _
  rw [position]
  by_cases last : i + 1 < w
  · simp only [last, decide_true, Bool.true_and, flag]
  · have full : i + 1 = w := by omega
    simp only [flag, Nat.add_zero, Nat.mod_eq_of_lt bound] at clear
    simp only [full, Nat.add_mod_right, Nat.mod_eq_of_lt bound, clear, Nat.lt_irrefl, decide_false,
      Bool.false_and]

@[simp] theorem flag_advance (h : TicketsHistory w) (n : BitVec w) (i : ℕ) :
    (h.advance n).flag i = h.flag i := rfl

theorem toNat_base_advance (h : TicketsHistory w) (n : BitVec w)
    (room : h.base.toNat + n.toNat < 2 ^ w) :
    (h.advance n).base.toNat = h.base.toNat + n.toNat := by
  rw [advance, BitVec.toNat_add, Nat.mod_eq_of_lt room]

theorem toNat_base_advance_one (h : TicketsHistory w) (room : h.base.toNat + 1 < 2 ^ w) :
    (h.advance 1).base.toNat = h.base.toNat + 1 := by
  have one : (1#w).toNat = 1 := BitVec.toNat_one (Nat.zero_lt_of_lt h.index_lt)
  have advanced := toNat_base_advance h 1#w (by omega)
  rwa [one] at advanced

/-- The tickets a history refuses. -/
def Taken (h : TicketsHistory w) (t : ℕ) : Prop :=
  t < h.base.toNat ∨
    (h.base.toNat < t ∧ t - h.base.toNat - 1 < w ∧ h.flag (t - h.base.toNat - 1) = true)

/-- The tickets taken while the flag at the index still belongs to the base itself. -/
def Pending (h : TicketsHistory w) (t : ℕ) : Prop :=
  t < h.base.toNat ∨ (h.base.toNat ≤ t ∧ t - h.base.toNat < w ∧ h.flag (t - h.base.toNat) = true)

/-- Consuming the flag of the base and advancing the base leaves the taken tickets as they are. -/
theorem pending_consume (h : TicketsHistory w) (set : h.flag 0 = true)
    (room : h.base.toNat + 1 < 2 ^ w) (t : ℕ) : Pending (h.skip.advance 1) t ↔ Pending h t := by
  have positive := h.index_lt
  have next : (h.skip.advance 1).base.toNat = h.base.toNat + 1 :=
    toNat_base_advance_one h.skip room
  simp only [Pending, next, flag_advance]
  rcases Nat.lt_trichotomy t h.base.toNat with below | same | above
  · simp [below, Nat.lt_succ_of_lt below]
  · subst same
    simp [set]
    omega
  · have offset : t - (h.base.toNat + 1) + 1 = t - h.base.toNat := by omega
    by_cases inside : t - h.base.toNat < w
    · have range : t - (h.base.toNat + 1) < w := by omega
      rw [flag_skip h range, offset, decide_eq_true inside]
      grind
    · by_cases range : t - (h.base.toNat + 1) < w
      · rw [flag_skip h range, offset, decide_eq_false inside]
        grind
      · grind

/-- The loop ends before the base wraps around, if there is a ticket that it does not find set. -/
theorem discardLoop_spec (n : ℕ) (h : TicketsHistory w) (free : ∃ u < 2 ^ w, ¬ Pending h u)
    (t : ℕ) : Pending (discardLoop n h) t ↔ Pending h t := by
  induction n generalizing h with
  | zero => exact Iff.rfl
  | succ n ih =>
    rw [discardLoop]
    split
    · next set =>
      obtain ⟨u, bound, unset⟩ := free
      have room : h.base.toNat + 1 < 2 ^ w := by
        have positive := h.index_lt
        have pending : Pending h h.base.toNat := by simp [Pending, set, Nat.zero_lt_of_lt positive]
        have differ : u ≠ h.base.toNat := fun same => unset (same ▸ pending)
        have above : ¬ u < h.base.toNat := fun below => unset (.inl below)
        omega
      have consumed := pending_consume h set room
      exact (ih (h.skip.advance 1) ⟨u, bound, mt (consumed u).mp unset⟩).trans (consumed t)
    · exact Iff.rfl

/-- After a whole turn every flag is clear, and before it the loop stops at a clear one. -/
theorem flag_discardLoop (n : ℕ) (h : TicketsHistory w)
    (clear : ∀ i, n ≤ i → i < w → h.flag i = false) : (discardLoop n h).flag 0 = false := by
  induction n generalizing h with
  | zero => exact clear 0 (Nat.le_refl 0) (Nat.zero_lt_of_lt h.index_lt)
  | succ n ih =>
    rw [discardLoop]
    split
    · apply ih
      intro i le lt
      rw [flag_advance, flag_skip h lt]
      by_cases last : i + 1 < w
      · simp [clear (i + 1) (by omega) last]
      · simp [last]
    · next unset => simpa using unset

/-- Moving the index past the base turns pending tickets into taken ones. -/
theorem taken_rotate (h : TicketsHistory w) (clear : h.flag 0 = false) (t : ℕ) :
    Taken h.rotate t ↔ Pending h t := by
  have base : h.rotate.base = h.base := rfl
  simp only [Taken, Pending, base]
  rcases Nat.lt_trichotomy t h.base.toNat with below | same | above
  · simp [below]
  · subst same
    simp [clear]
  · have offset : t - h.base.toNat - 1 + 1 = t - h.base.toNat := by omega
    by_cases inside : t - h.base.toNat < w
    · have range : t - h.base.toNat - 1 < w := by omega
      rw [flag_rotate h clear range, offset, decide_eq_true inside]
      grind
    · by_cases range : t - h.base.toNat - 1 < w
      · rw [flag_rotate h clear range, offset, decide_eq_false inside]
        grind
      · grind

theorem flag_of_bits_zero {h : TicketsHistory w} (zero : h.bits = 0) (i : ℕ) :
    h.flag i = false := by
  rw [flag, zero]
  exact BitVec.getLsbD_zero

theorem not_taken_base (h : TicketsHistory w) : ¬ h.Taken h.base.toNat := by
  simp [Taken]

/-- The base is the first ticket which is not taken. -/
theorem base_le_of_not_taken {h : TicketsHistory w} {t : ℕ} (free : ¬ h.Taken t) :
    h.base.toNat ≤ t :=
  Nat.le_of_not_lt fun below => free (.inl below)

/-- Advancing the base by one leaves its flag pending. -/
theorem pending_advance (h : TicketsHistory w) (room : h.base.toNat + 1 < 2 ^ w) (t : ℕ) :
    Pending (h.advance 1) t ↔ t = h.base.toNat ∨ h.Taken t := by
  have next : (h.advance 1).base.toNat = h.base.toNat + 1 := toNat_base_advance_one h room
  simp only [Pending, Taken, next, flag_advance, Nat.sub_add_eq]
  grind

/-- Discarding the base takes the base and nothing else, unless all other tickets are taken. -/
theorem discardBase_spec (h : TicketsHistory w)
    (free : ∃ u < 2 ^ w, u ≠ h.base.toNat ∧ ¬ h.Taken u) (t : ℕ) :
    h.discardBase.Taken t ↔ t = h.base.toNat ∨ h.Taken t := by
  obtain ⟨u, bound, differ, untaken⟩ := free
  have room : h.base.toNat + 1 < 2 ^ w := by
    have := base_le_of_not_taken untaken
    omega
  have advanced := pending_advance h room
  unfold discardBase
  split
  · have unset : ¬ Pending (h.advance 1) u := by
      rw [advanced, not_or]
      exact ⟨differ, untaken⟩
    have pending := discardLoop_spec w (h.advance 1) ⟨u, bound, unset⟩ t
    have clear := flag_discardLoop w (h.advance 1) (fun i le lt => absurd lt (by omega))
    exact ((taken_rotate _ clear t).trans pending).trans (advanced t)
  · next clean =>
    have zero : (h.advance 1).bits = 0 := not_not.mp clean
    refine Iff.trans ?_ (advanced t)
    simp only [Taken, Pending, flag_of_bits_zero zero]
    simp

theorem skip_iterate_spec (n : ℕ) (h : TicketsHistory w) :
    (skip^[n] h).base = h.base ∧
      ∀ i, i < w → (skip^[n] h).flag i = (decide (i + n < w) && h.flag (i + n)) := by
  induction n with
  | zero =>
    refine ⟨rfl, fun i lt => ?_⟩
    simp [lt]
  | succ n ih =>
    rw [Function.iterate_succ_apply']
    refine ⟨ih.1, fun i lt => ?_⟩
    rw [flag_skip _ lt]
    by_cases last : i + 1 < w
    · rw [ih.2 (i + 1) last, decide_eq_true last, Bool.true_and]
      congr 2 <;> grind
    · have : ¬ i + (n + 1) < w := by omega
      simp [last, this]

/-- A jump takes the tickets the window leaves behind and keeps what was taken before. The ticket
it is made for is beyond the window, hence free. -/
theorem jump_spec (h : TicketsHistory w) (extra : BitVec w)
    (room : h.base.toNat + extra.toNat + w + 1 < 2 ^ w) :
    (∀ t, (h.jump extra).Taken t ↔ t ≤ h.base.toNat + extra.toNat ∨ h.Taken t) ∧
      h.base.toNat + extra.toNat + 1 ≤ (h.jump extra).base.toNat := by
  have positive := h.index_lt
  -- Both ways of clearing leave the base alone and move each flag by the extra distance.
  have cleared : ∃ c : TicketsHistory w, h.jump extra = (c.advance extra).discardBase ∧
      c.base = h.base ∧
      ∀ i, i < w → c.flag i = (decide (i + extra.toNat < w) && h.flag (i + extra.toNat)) := by
    unfold jump
    by_cases near : extra.toNat < w
    · obtain ⟨base, flags⟩ := skip_iterate_spec extra.toNat h
      exact ⟨_, by rw [if_pos near], base, flags⟩
    · refine ⟨h.reset, by rw [if_neg near], rfl, fun i lt => ?_⟩
      rw [flag_of_bits_zero (h := h.reset) rfl, decide_eq_false (by omega), Bool.false_and]
  obtain ⟨c, jumped, base, flags⟩ := cleared
  have moved : (c.advance extra).base.toNat = h.base.toNat + extra.toNat := by
    rw [toNat_base_advance c extra (by rw [base]; omega), base]
  have free : ¬ (c.advance extra).Taken (h.base.toNat + extra.toNat + w + 1) := by
    simp only [Taken, moved]
    omega
  have taken (t : ℕ) : (h.jump extra).Taken t ↔ t ≤ h.base.toNat + extra.toNat ∨ h.Taken t := by
    rw [jumped]
    apply (discardBase_spec (c.advance extra) ⟨_, room, by omega, free⟩ t).trans
    simp only [Taken, moved, flag_advance]
    by_cases range : h.base.toNat + extra.toNat < t ∧ t - (h.base.toNat + extra.toNat) - 1 < w
    · have offset : t - (h.base.toNat + extra.toNat) - 1 + extra.toNat = t - h.base.toNat - 1 := by
        omega
      rw [flags _ range.2, offset]
      grind
    · grind
  have untaken := (taken _).not.mp (not_taken_base (h.jump extra))
  exact ⟨taken, by omega⟩

theorem toNat_shift {base id : BitVec w} (above : base.toNat < id.toNat) :
    (id - base - 1).toNat = id.toNat - base.toNat - 1 := by
  have := id.isLt
  have := base.isLt
  have one : (1 : BitVec w).toNat = 1 := by
    change (1#w).toNat = 1
    rw [BitVec.toNat_ofNat, Nat.mod_eq_of_lt (by omega)]
  have difference : (id - base).toNat = id.toNat - base.toNat := BitVec.toNat_sub_of_le (by
    rw [BitVec.le_def]
    omega)
  rw [BitVec.toNat_sub_of_le (by rw [BitVec.le_def]; omega), difference, one]

/-- The distance of a jump, for a ticket beyond the window. -/
theorem toNat_extra {base id : BitVec w}
    (beyond : ¬ (id - base - 1).toNat < w) (above : base.toNat < id.toNat) :
    base.toNat + (id - base - 1 - BitVec.ofNat w w).toNat + w + 1 = id.toNat := by
  have size : (BitVec.ofNat w w).toNat = w := by
    rw [BitVec.toNat_ofNat, Nat.mod_eq_of_lt Nat.lt_two_pow_self]
  have shift := toNat_shift above
  rw [BitVec.toNat_sub_of_le (by rw [BitVec.le_def]; omega), size, shift]
  omega

theorem lt_toNat_of_not {base id : BitVec w} (notBelow : ¬ id < base) (differ : id ≠ base) :
    base.toNat < id.toNat := by
  rw [BitVec.lt_def] at notBelow
  have := mt BitVec.eq_of_toNat_eq differ
  omega

/-- `tickets_check`, with its verdict and the history it leaves. -/
def ticketsCheck (h : TicketsHistory w) (id : BitVec w) : Bool × TicketsHistory w :=
  if id < h.base then (false, h)
  else if id = h.base then (true, h.discardBase)
  else
    let shift := id - h.base - 1
    if shift.toNat < w then
      if h.flag shift.toNat then (false, h) else (true, h.set shift.toNat)
    else ticketsCheck (h.jump (shift - BitVec.ofNat w w)) id
termination_by id.toNat - h.base.toNat
decreasing_by
  rename_i below same beyond
  have above := lt_toNat_of_not below same
  have distance := toNat_extra beyond above
  have lower := (jump_spec h (id - h.base - 1 - BitVec.ofNat w w) (by
    have := id.isLt
    omega)).2
  omega

/-- A ticket within the window is taken exactly when its flag is set, and is taken afterwards. -/
theorem taken_set (h : TicketsHistory w) {id : ℕ} (above : h.base.toNat < id)
    (inside : id - h.base.toNat - 1 < w) (t : ℕ) :
    (h.set (id - h.base.toNat - 1)).Taken t ↔ t = id ∨ h.Taken t := by
  have base : (h.set (id - h.base.toNat - 1)).base = h.base := rfl
  simp only [Taken, base]
  by_cases range : t - h.base.toNat - 1 < w
  · rw [flag_set h inside range]
    grind
  · grind

/-- What a check can do: refuse a ticket that is taken, discard the base, set the flag of a free
ticket within the window, or have the window jump and check again. -/
@[elab_as_elim] theorem ticketsCheck_induction (id : BitVec w) {motive : TicketsHistory w → Prop}
    (refused : ∀ h, h.Taken id.toNat → h.ticketsCheck id = (false, h) → motive h)
    (base : ∀ h, id.toNat = h.base.toNat → h.ticketsCheck id = (true, h.discardBase) → motive h)
    (inside : ∀ h, ¬ h.Taken id.toNat → h.base.toNat < id.toNat →
      id.toNat - h.base.toNat - 1 < w →
      h.ticketsCheck id = (true, h.set (id.toNat - h.base.toNat - 1)) → motive h)
    (beyond : ∀ h (extra : BitVec w), h.base.toNat + extra.toNat + w + 1 = id.toNat →
      h.ticketsCheck id = (h.jump extra).ticketsCheck id → motive (h.jump extra) → motive h)
    (h : TicketsHistory w) : motive h := by
  induction h using ticketsCheck.induct id with
  | case1 h below =>
    exact refused h (.inl (BitVec.lt_def.mp below)) (by rw [ticketsCheck, if_pos below])
  | case2 h below same =>
    exact base h (congrArg _ same) (by rw [ticketsCheck, if_neg below, if_pos same])
  | case3 h below same shift near set =>
    have above := lt_toNat_of_not below same
    have check : h.ticketsCheck id = (false, h) := by
      rw [ticketsCheck, if_neg below, if_neg same, if_pos near, if_pos set]
    rw [toNat_shift above] at near set
    exact refused h (.inr ⟨above, near, set⟩) check
  | case4 h below same shift near unset =>
    have above := lt_toNat_of_not below same
    have check : h.ticketsCheck id = (true, h.set (id.toNat - h.base.toNat - 1)) := by
      rw [ticketsCheck, if_neg below, if_neg same, if_pos near, if_neg unset, toNat_shift above]
    rw [toNat_shift above] at near unset
    refine inside h ?_ above near check
    simp only [Taken]
    grind
  | case5 h below same shift far ih =>
    have above := lt_toNat_of_not below same
    have check : h.ticketsCheck id = (h.jump (shift - BitVec.ofNat w w)).ticketsCheck id := by
      rw [ticketsCheck, if_neg below, if_neg same, if_neg far]
    exact beyond h _ (toNat_extra far above) check ih

/-- A check accepts exactly the tickets not taken. -/
theorem ticketsCheck_accepts (h : TicketsHistory w) (id : BitVec w) :
    (h.ticketsCheck id).1 = true ↔ ¬ h.Taken id.toNat := by
  induction h using ticketsCheck_induction id with
  | refused h taken check => simp [check, taken]
  | base h same check =>
    rw [check, same]
    exact iff_of_true rfl h.not_taken_base
  | inside h free above near check =>
    rw [check]
    exact iff_of_true rfl free
  | beyond h extra distance check ih =>
    have taken := (jump_spec h extra (by omega)).1
    have free : ¬ id.toNat ≤ h.base.toNat + extra.toNat := by omega
    rw [check, ih, taken, not_or]
    exact and_iff_right free

/-- A ticket is left which is not taken after the check of another. -/
def Leaves (h : TicketsHistory w) (id : BitVec w) : Prop :=
  ∃ u < 2 ^ w, u ≠ id.toNat ∧ ¬ h.Taken u ∧ ¬ u + w < id.toNat

/-- An accepted ticket is taken afterwards, as is every ticket which the window leaves behind. -/
theorem ticketsCheck_spec (h : TicketsHistory w) (id : BitVec w) (leaves : h.Leaves id) (t : ℕ) :
    (h.ticketsCheck id).2.Taken t ↔
      h.Taken t ∨ ((h.ticketsCheck id).1 = true ∧ (t = id.toNat ∨ t + w < id.toNat)) := by
  induction h using ticketsCheck_induction id with
  | refused h taken check => simp [check]
  | base h same check =>
    obtain ⟨u, bound, differ, untaken, -⟩ := leaves
    rw [check]
    apply (discardBase_spec h ⟨u, bound, by omega, untaken⟩ t).trans
    simp only [Taken, true_and]
    grind
  | inside h free above near check =>
    rw [check]
    apply (taken_set h above near t).trans
    simp only [Taken, true_and]
    grind
  | beyond h extra distance check ih =>
    have taken := (jump_spec h extra (by omega)).1
    obtain ⟨u, bound, differ, untaken, ahead⟩ := leaves
    have left : ¬ (h.jump extra).Taken u := by
      rw [taken, not_or]
      exact ⟨by omega, untaken⟩
    have free : ¬ (h.jump extra).Taken id.toNat := by
      rw [taken, not_or]
      refine ⟨by omega, ?_⟩
      simp only [Taken]
      omega
    have accepted := (ticketsCheck_accepts (h.jump extra) id).mpr free
    rw [check]
    apply (ih ⟨u, bound, differ, left, ahead⟩).trans
    rw [taken]
    grind

/-- Something is left as long as the window does not reach the last ticket. -/
theorem leaves_of_room (h : TicketsHistory w) {id : BitVec w} (room : id.toNat + w + 1 < 2 ^ w) :
    h.Leaves id := by
  by_cases below : id.toNat < h.base.toNat
  · exact ⟨h.base.toNat, h.base.isLt, by omega, h.not_taken_base, by omega⟩
  · refine ⟨id.toNat + w + 1, room, by omega, ?_, by omega⟩
    simp only [Taken]
    omega

theorem Taken.ticketsCheck {h : TicketsHistory w} {t : ℕ} (taken : h.Taken t) (id : BitVec w)
    (room : id.toNat + w + 1 < 2 ^ w) : (h.ticketsCheck id).2.Taken t :=
  (ticketsCheck_spec h id (h.leaves_of_room room) t).mpr (.inl taken)

/-- An accepted ticket was free before the check and is taken after it. -/
theorem free_then_taken {h : TicketsHistory w} {id : BitVec w} (room : id.toNat + w + 1 < 2 ^ w)
    (accepted : (h.ticketsCheck id).1 = true) :
    ¬ h.Taken id.toNat ∧ (h.ticketsCheck id).2.Taken id.toNat :=
  ⟨(ticketsCheck_accepts h id).mp accepted,
    (ticketsCheck_spec h id (h.leaves_of_room room) _).mpr (.inr ⟨accepted, .inl rfl⟩)⟩

theorem not_taken_ticketsInit (positive : 0 < w) (t : ℕ) : ¬ (ticketsInit positive).Taken t := by
  have clear : (ticketsInit positive).flag (t - 0 - 1) = false := flag_of_bits_zero rfl _
  have base : (ticketsInit positive).base.toNat = 0 := BitVec.toNat_zero
  rw [Taken, base, clear]
  simp

end TicketsHistory

end OpenBus
