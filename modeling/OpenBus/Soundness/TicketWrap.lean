import OpenBus.Soundness.TicketWindow

/-! # The end of the range of tickets

The base of a history goes on to zero once no ticket is left which it could stop at, and then
nothing is taken any more. Where `unsigned long` has 64 bits, the tickets of the protocol do not
reach so far. Where it has 32, the last 33 tickets together do, in whatever order they come.
-/

namespace OpenBus

namespace TicketsHistory

variable {w : ℕ}

/-- Only tickets of the range are taken. -/
def Within (h : TicketsHistory w) : Prop := ∀ t, h.Taken t → t < 2 ^ w

/-- The base is at the start and no flag is set. -/
def Emptied (h : TicketsHistory w) : Prop := h.base.toNat = 0 ∧ ∀ i < w, h.flag i = false

theorem Emptied.not_pending {h : TicketsHistory w} (emptied : h.Emptied) (t : ℕ) :
    ¬ Pending h t := by
  intro pending
  rcases pending with below | ⟨-, inside, set⟩
  · have := emptied.1
    omega
  · rw [emptied.2 _ inside] at set
    cases set

theorem Emptied.not_taken {h : TicketsHistory w} (emptied : h.Emptied) (t : ℕ) : ¬ h.Taken t := by
  intro taken
  rcases taken with below | ⟨-, inside, set⟩
  · have := emptied.1
    omega
  · rw [emptied.2 _ inside] at set
    cases set

theorem discardLoop_of_clear {h : TicketsHistory w} (clear : h.flag 0 = false) (n : ℕ) :
    discardLoop n h = h := by
  cases n with
  | zero => rfl
  | succ n => rw [discardLoop, clear, if_neg Bool.false_ne_true]

/-- The base after the last ticket is the first one. -/
theorem toNat_base_advance_last (h : TicketsHistory w) (last : h.base.toNat + 1 = 2 ^ w) :
    (h.advance 1).base.toNat = 0 := by
  have one : (1#w).toNat = 1 := BitVec.toNat_one (Nat.zero_lt_of_lt h.index_lt)
  change (h.base + 1#w).toNat = 0
  rw [BitVec.toNat_add, one, last, Nat.mod_self]

/-- If all tickets from the base on are pending, the loop consumes them all. -/
theorem emptied_discardLoop (n : ℕ) (h : TicketsHistory w)
    (within : ∀ t, Pending h t → t < 2 ^ w) (full : ∀ u < 2 ^ w, Pending h u)
    (enough : 2 ^ w ≤ h.base.toNat + n) : (discardLoop n h).Emptied := by
  induction n generalizing h with
  | zero =>
    have := h.base.isLt
    omega
  | succ n ih =>
    have positive := h.index_lt
    have set : h.flag 0 = true := by
      rcases full h.base.toNat h.base.isLt with below | ⟨-, -, flagged⟩
      · omega
      · rwa [Nat.sub_self] at flagged
    rw [discardLoop, if_pos set]
    by_cases room : h.base.toNat + 1 < 2 ^ w
    · have consumed := pending_consume h set room
      have next : (h.skip.advance 1).base.toNat = h.base.toNat + 1 :=
        toNat_base_advance_one h.skip room
      apply ih
      · exact fun t pending => within t ((consumed t).mp pending)
      · exact fun u bound => (consumed u).mpr (full u bound)
      · omega
    · -- The base has been the last ticket, and no flag stands for a ticket behind it.
      have last : h.base.toNat + 1 = 2 ^ w := by
        have := h.base.isLt
        omega
      have clear (i : ℕ) (inside : i < w) : (h.skip.advance 1).flag i = false := by
        rw [flag_advance, flag_skip h inside]
        by_contra flagged
        simp only [Bool.not_eq_false, Bool.and_eq_true, decide_eq_true_eq] at flagged
        have offset : h.base.toNat + (i + 1) - h.base.toNat = i + 1 := by omega
        have beyond := within (h.base.toNat + (i + 1))
          (.inr ⟨by omega, by omega, by rw [offset]; exact flagged.2⟩)
        omega
      rw [discardLoop_of_clear (clear 0 (by omega))]
      exact ⟨toNat_base_advance_last h.skip last, clear⟩

/-- The loop of `discardBase` wraps the base around, if all other tickets are taken. -/
theorem emptied_discardLoop_advance (h : TicketsHistory w) (within : h.Within)
    (full : ∀ u < 2 ^ w, u ≠ h.base.toNat → h.Taken u) :
    (discardLoop w (h.advance 1)).Emptied := by
  have positive := h.index_lt
  have bound := h.base.isLt
  by_cases room : h.base.toNat + 1 < 2 ^ w
  · have advanced := pending_advance h room
    have next : (h.advance 1).base.toNat = h.base.toNat + 1 := toNat_base_advance_one h room
    apply emptied_discardLoop
    · intro t pending
      rcases (advanced t).mp pending with rfl | taken
      · exact bound
      · exact within t taken
    · intro u inside
      rw [advanced]
      by_cases same : u = h.base.toNat
      · exact .inl same
      · exact .inr (full u inside same)
    · -- The flag of the last ticket lies within the word.
      rcases full (2 ^ w - 1) (by omega) (by omega) with below | ⟨-, inside, -⟩
      · omega
      · omega
  · have last : h.base.toNat + 1 = 2 ^ w := by omega
    have clear (i : ℕ) (inside : i < w) : (h.advance 1).flag i = false := by
      rw [flag_advance]
      by_contra flagged
      have offset : h.base.toNat + 1 + i - h.base.toNat - 1 = i := by omega
      have beyond := within (h.base.toNat + 1 + i)
        (.inr ⟨by omega, by omega, by rw [offset]; simpa using flagged⟩)
      omega
    rw [discardLoop_of_clear (clear 0 (by omega))]
    exact ⟨toNat_base_advance_last h last, clear⟩

/-- Discarding the only ticket left forgets all the others. -/
theorem not_taken_discardBase (h : TicketsHistory w) (within : h.Within)
    (full : ∀ u < 2 ^ w, u ≠ h.base.toNat → h.Taken u) (t : ℕ) : ¬ h.discardBase.Taken t := by
  have emptied := emptied_discardLoop_advance h within full
  have clear := flag_discardLoop w (h.advance 1) (fun i le lt => absurd lt (by omega))
  unfold discardBase
  split
  · rw [taken_rotate _ clear]
    exact emptied.not_pending t
  · next clean =>
    have zero : (h.advance 1).bits = 0 := not_not.mp clean
    rw [discardLoop_of_clear (flag_of_bits_zero zero 0)] at emptied
    exact emptied.not_taken t

/-- A check that leaves no ticket forgets all of them, and its own. -/
theorem not_taken_ticketsCheck (h : TicketsHistory w) (id : BitVec w) (within : h.Within)
    (exhausted : ¬ h.Leaves id) (t : ℕ) : ¬ (h.ticketsCheck id).2.Taken t := by
  induction h using ticketsCheck_induction id with
  | refused h taken check =>
    -- The base is left after a check that changes nothing.
    refine absurd ⟨_, h.base.isLt, fun same => h.not_taken_base (same ▸ taken), h.not_taken_base,
      ?_⟩ exhausted
    rcases taken with below | ⟨-, near, -⟩ <;> omega
  | base h same check =>
    rw [check]
    apply not_taken_discardBase h within
    intro u bound differ
    by_contra untaken
    exact exhausted ⟨u, bound, by omega, untaken, fun behind => untaken (.inl (by omega))⟩
  | inside h free above near check =>
    exact absurd ⟨_, h.base.isLt, by omega, h.not_taken_base, by omega⟩ exhausted
  | beyond h extra distance check ih =>
    have taken := (jump_spec h extra (by omega)).1
    have bound := id.isLt
    rw [check]
    apply ih
    · intro u passed
      rcases (taken u).mp passed with behind | earlier
      · omega
      · exact within u earlier
    · rintro ⟨u, inside, differ, untaken, ahead⟩
      rw [taken, not_or] at untaken
      exact exhausted ⟨u, inside, differ, untaken.2, ahead⟩

theorem Checked.Follows.within {checked : Checked w} {ids : List (BitVec w)}
    (follows : checked.Follows ids) : checked.history.Within := by
  intro t taken
  have inRange (a : ℕ) (mem : a ∈ checked.accepted) : a < 2 ^ w := by
    obtain ⟨id, -, rfl⟩ := follows.presented a mem
    exact id.isLt
  by_contra outside
  apply (follows.remembers t).mp taken
  refine ⟨fun mem => outside (inRange t mem), fun other mem behind => ?_⟩
  have := inRange other mem
  omega

/-- Late tickets are only taken by being accepted. -/
theorem Checked.Follows.mem_accepted {checked : Checked w} {ids : List (BitVec w)}
    (follows : checked.Follows ids) {id : BitVec w} (late : Late id)
    (taken : checked.history.Taken id.toNat) : id.toNat ∈ checked.accepted := by
  by_contra unaccepted
  apply (follows.remembers id.toNat).mp taken
  refine ⟨unaccepted, fun other mem => ?_⟩
  obtain ⟨earlier, -, rfl⟩ := follows.presented other mem
  have := earlier.isLt
  unfold Late at late
  omega

/-- As long as a late ticket is not presented, every ticket is taken once it has been. -/
theorem taken_of_presented (positive : 0 < w) {spare : BitVec w} (late : Late spare)
    {ids : List (BitVec w)} (absent : spare ∉ ids) {id : BitVec w} (mem : id ∈ ids) :
    (present positive ids).history.Taken id.toNat := by
  induction ids using List.reverseRecOn with
  | nil => cases mem
  | append_singleton before last ih =>
    rw [List.mem_append, List.mem_singleton, not_or] at absent
    have follows := present_follows positive late before absent.1
    have taken := ticketsCheck_spec _ last (follows.leaves late absent.1 absent.2)
    rw [present_append]
    apply (taken id.toNat).mpr
    rcases List.mem_append.mp mem with earlier | now
    · exact .inl (ih absent.1 earlier)
    · obtain rfl := List.mem_singleton.mp now
      have verdict := ticketsCheck_accepts (present positive before).history id
      by_cases before : (present positive before).history.Taken id.toNat
      · exact .inl before
      · exact .inr ⟨verdict.mpr before, .inl rfl⟩

theorem toNat_ofNat_of_lt {u : ℕ} (inside : u < 2 ^ w) : (BitVec.ofNat w u).toNat = u := by
  rw [BitVec.toNat_ofNat, Nat.mod_eq_of_lt inside]

/-- Of the last two tickets, one is different from a given ticket; it is the very last, unless that
is the given one. -/
theorem exists_other_late (positive : 0 < w) (id : BitVec w) :
    ∃ other : BitVec w, other ≠ id ∧ Late other ∧ 2 ^ w ≤ other.toNat + 2 ∧
      (other.toNat + 1 = 2 ^ w ∨ id.toNat + 1 = 2 ^ w) := by
  have wide : 2 ≤ 2 ^ w := Nat.le_self_pow (Nat.ne_of_gt positive) 2
  by_cases last : id.toNat + 1 = 2 ^ w
  · have value : (BitVec.ofNat w (2 ^ w - 2)).toNat = 2 ^ w - 2 := toNat_ofNat_of_lt (by omega)
    refine ⟨BitVec.ofNat w (2 ^ w - 2), fun same => ?_, ?_, by omega, .inr last⟩
    · rw [same] at value
      omega
    · rw [Late, value]
      omega
  · have value : (BitVec.ofNat w (2 ^ w - 1)).toNat = 2 ^ w - 1 := toNat_ofNat_of_lt (by omega)
    refine ⟨BitVec.ofNat w (2 ^ w - 1), fun same => ?_, ?_, by omega, .inl (by omega)⟩
    · rw [same] at value
      omega
    · rw [Late, value]
      omega

/-- The check of the only late ticket not presented before finds the other late ones accepted, so
that nothing is left, and the base goes back to the start. -/
theorem wraps_at (positive : 0 < w) (wide : w + 2 < 2 ^ w) {before : List (BitVec w)}
    {id : BitVec w} (late : Late id) (absent : id ∉ before)
    (presented : ∀ ticket, Late ticket → ticket ∈ before ++ [id]) :
    0 < (present positive before).history.base.toNat ∧
      ∀ t, ¬ (present positive (before ++ [id])).history.Taken t := by
  have follows := present_follows positive late before absent
  have taken (ticket : BitVec w) (last : Late ticket) (differ : ticket ≠ id) :
      (present positive before).history.Taken ticket.toNat := by
    have mem := presented ticket last
    rw [List.mem_append, List.mem_singleton] at mem
    exact taken_of_presented positive late absent (mem.resolve_right differ)
  obtain ⟨other, differ, last, near, final⟩ := exists_other_late positive id
  have accepted := follows.mem_accepted last (taken other last differ)
  have behind (t : ℕ) (left : t + w < other.toNat) :
      (present positive before).history.Taken t :=
    (follows.remembers t).mpr fun fresh => fresh.2 _ accepted left
  constructor
  · by_contra start
    apply (present positive before).history.not_taken_base
    apply behind
    omega
  · rw [present_append]
    apply not_taken_ticketsCheck _ id follows.within
    rintro ⟨u, inside, distinct, untaken, ahead⟩
    by_cases left : u + w + 1 < 2 ^ w
    · rcases final with top | top
      · exact untaken (behind u (by omega))
      · omega
    · have value : (BitVec.ofNat w u).toNat = u := toNat_ofNat_of_lt inside
      have found := taken (BitVec.ofNat w u)
        (by rw [Late, value]; omega) (fun same => distinct (by rw [← same, value]))
      rw [value] at found
      exact untaken found

/-- No check returns 1 for a ticket for which an earlier one has, and no check lowers the base. -/
structure AcceptsOnce (positive : 0 < w) (ids : List (BitVec w)) : Prop where
  once : (present positive ids).accepted.Nodup
  grows : ∀ before id after, ids = before ++ id :: after →
    (present positive before).history.base ≤ (present positive (before ++ [id])).history.base

theorem nodup_foldl_remember (ids accepted : List ℕ) (distinct : accepted.Nodup) :
    (ids.foldl (remember w) accepted).Nodup := by
  induction ids generalizing accepted with
  | nil => exact distinct
  | cons id ids ih =>
    apply ih
    unfold remember
    split
    · next fresh => exact List.nodup_cons.mpr ⟨fresh.1, distinct⟩
    · exact distinct

/-- A property that a list has and the empty one has not comes with one of the elements. -/
theorem exists_first {α : Type} {P : List α → Prop} (start : ¬ P []) {l : List α} (reached : P l) :
    ∃ before a after, l = before ++ a :: after ∧ ¬ P before ∧ P (before ++ [a]) := by
  induction l using List.reverseRecOn with
  | nil => exact absurd reached start
  | append_singleton l a ih =>
    by_cases already : P l
    · obtain ⟨before, first, after, rfl, without, having⟩ := ih already
      exact ⟨before, first, after ++ [a], by simp, without, having⟩
    · exact ⟨l, a, [], rfl, already, reached⟩

/-- Up to the first time that all late tickets have been presented, nothing goes wrong; the check
that completes them lowers the base. -/
theorem acceptsOnce_iff (positive : 0 < w) (wide : w + 2 < 2 ^ w) (ids : List (BitVec w)) :
    AcceptsOnce positive ids ↔ ∃ ticket, Late ticket ∧ ticket ∉ ids := by
  constructor
  · intro sound
    by_contra complete
    push Not at complete
    have start : ¬ ∀ ticket : BitVec w, Late ticket → ticket ∈ [] := by
      obtain ⟨other, -, late, -⟩ := exists_other_late positive 0
      exact fun all => List.not_mem_nil (all other late)
    obtain ⟨before, id, after, split, without, presented⟩ :=
      exists_first (P := fun ids => ∀ ticket : BitVec w, Late ticket → ticket ∈ ids) start complete
    push Not at without
    obtain ⟨ticket, late, absent⟩ := without
    -- The late ticket missing so far is the one that is checked.
    have same : ticket = id := by
      have mem := presented ticket late
      rw [List.mem_append, List.mem_singleton] at mem
      exact mem.resolve_left absent
    subst same
    obtain ⟨positiveBase, emptied⟩ := wraps_at positive wide late absent presented
    have grown := sound.grows before ticket after split
    rw [BitVec.le_def] at grown
    have start := base_le_of_not_taken (emptied 0)
    omega
  · rintro ⟨spare, late, absent⟩
    constructor
    · rw [(present_follows positive late ids absent).accepted_eq]
      exact nodup_foldl_remember _ _ List.nodup_nil
    · rintro before id after rfl
      rw [List.mem_append, List.mem_cons, not_or, not_or] at absent
      have follows := present_follows positive late before absent.1
      have taken := ticketsCheck_spec _ id (follows.leaves late absent.1 absent.2.1)
      rw [present_append, BitVec.le_def]
      apply base_le_of_not_taken
      intro earlier
      exact not_taken_base _ ((taken _).mpr (.inl earlier))

/-- With words of 32 bits, the history does what it is for as long as one of the last 33 tickets is
not presented, and no longer. -/
theorem acceptsOnce_ulong_iff (ids : List ULong) :
    AcceptsOnce (show 0 < 32 by decide) ids ↔
      ∃ ticket : ULong, 2 ^ 32 ≤ ticket.toNat + 33 ∧ ticket ∉ ids :=
  acceptsOnce_iff (by decide) (by decide) ids

/-- The last 33 tickets in order. -/
def lastTickets : List ULong := (List.range 33).map fun i => BitVec.ofNat 32 (2 ^ 32 - 33 + i)

theorem mem_lastTickets {ticket : ULong} (late : Late ticket) : ticket ∈ lastTickets := by
  have bound := ticket.isLt
  rw [Late] at late
  apply List.mem_map.mpr
  refine ⟨ticket.toNat - (2 ^ 32 - 33), List.mem_range.mpr (by omega), ?_⟩
  rw [Nat.add_sub_cancel' (by omega), BitVec.ofNat_toNat, BitVec.setWidth_eq]

/-- Presented once more after all of them, the first of the last tickets is accepted again. -/
theorem lastTickets_accepted_again :
    (∀ t, ¬ (present (show 0 < 32 by decide) lastTickets).history.Taken t) ∧
      ¬ (present (show 0 < 32 by decide) (lastTickets ++ [0xFFFFFFDF])).accepted.Nodup ∧
      ¬ AcceptsOnce (show 0 < 32 by decide) (lastTickets ++ [0xFFFFFFDF]) := by
  have split : lastTickets = lastTickets.dropLast ++ [0xFFFFFFFF] := by decide
  have absent : (0xFFFFFFFF : ULong) ∉ lastTickets.dropLast := by decide
  have late : Late (0xFFFFFFFF : ULong) := by
    rw [Late]
    decide
  have wrapped := wraps_at (show 0 < 32 by decide) (by decide) late absent fun ticket last =>
    split ▸ mem_lastTickets last
  rw [← split] at wrapped
  have follows := present_follows (show 0 < 32 by decide) late _ absent
  have first : (0xFFFFFFDF : ULong).toNat ∈
      (present (show 0 < 32 by decide) lastTickets.dropLast).accepted :=
    follows.mem_accepted (by rw [Late]; decide)
      (taken_of_presented (show 0 < 32 by decide) late absent (by decide))
  have kept : (0xFFFFFFDF : ULong).toNat ∈
      (present (show 0 < 32 by decide) lastTickets).accepted := by
    rw [split, present_append]
    unfold Checked.check
    split
    · exact List.mem_cons_of_mem _ first
    · exact first
  have again := (ticketsCheck_accepts (present (show 0 < 32 by decide) lastTickets).history
    0xFFFFFFDF).mpr (wrapped.2 _)
  have twice : ¬ (present (show 0 < 32 by decide) (lastTickets ++ [0xFFFFFFDF])).accepted.Nodup := by
    rw [present_append]
    unfold Checked.check
    rw [if_pos again]
    exact fun distinct => (List.nodup_cons.mp distinct).1 kept
  exact ⟨wrapped.2, twice, fun sound => twice sound.once⟩

end TicketsHistory

end OpenBus
