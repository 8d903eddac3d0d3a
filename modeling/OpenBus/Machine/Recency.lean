import Mathlib.Data.Finset.Card
import Mathlib.Data.List.Dedup

/-! # Order of last use

A history of uses, the newest first, puts the keys in an order: that of their last uses. Each use
moves its key to the front. A cache that keeps the first `n` keys of this order forgets a key
exactly when `n` other keys have been used since the key was used last, and `usedSince` counts
them.
-/

namespace Machine

variable {Key : Type*} [DecidableEq Key]

/-- The keys of a history in the order of their last uses. -/
def recency : List Key → List Key
  | [] => []
  | key :: past => key :: (recency past).erase key

theorem nodup_recency (uses : List Key) : (recency uses).Nodup := by
  induction uses with
  | nil => exact List.nodup_nil
  | cons key past ih => exact List.nodup_cons.mpr ⟨ih.not_mem_erase, ih.erase key⟩

@[simp] theorem mem_recency {key : Key} {uses : List Key} : key ∈ recency uses ↔ key ∈ uses := by
  induction uses with
  | nil => rfl
  | cons newest past ih =>
    rw [recency, List.mem_cons, List.mem_cons, (nodup_recency past).mem_erase_iff, ih]
    tauto

/-- Keys that are all different stand in the order of their uses already. -/
theorem recency_of_nodup {keys : List Key} (distinct : keys.Nodup) : recency keys = keys := by
  induction keys with
  | nil => rfl
  | cons key rest ih =>
    obtain ⟨absent, distinct⟩ := List.nodup_cons.mp distinct
    rw [recency, ih distinct, List.erase_of_not_mem absent]

/-- The keys of a history that are used after the last use of a key. -/
def usedSince (key : Key) (uses : List Key) : Finset Key :=
  (uses.takeWhile (· ≠ key)).toFinset

@[simp] theorem usedSince_self (key : Key) (past : List Key) : usedSince key (key :: past) = ∅ := by
  simp [usedSince]

theorem usedSince_of_ne {key newest : Key} (other : newest ≠ key) (past : List Key) :
    usedSince key (newest :: past) = insert newest (usedSince key past) := by
  simp [usedSince, other]

/-- What has been used since a key was used last stands before it, and nothing else does. -/
theorem exists_recency_eq {key : Key} {uses : List Key} (used : key ∈ uses) :
    ∃ newer older, recency uses = newer ++ key :: older ∧ newer.toFinset = usedSince key uses := by
  induction uses with
  | nil => cases used
  | cons newest past ih =>
    by_cases same : newest = key
    · subst same
      exact ⟨[], (recency past).erase newest, rfl, by simp⟩
    · have earlier : key ∈ past := (List.mem_cons.mp used).resolve_left (Ne.symm same)
      obtain ⟨newer, older, order, since⟩ := ih earlier
      rw [recency, order, usedSince_of_ne same, ← since]
      by_cases again : newest ∈ newer
      · refine ⟨newest :: newer.erase newest, older, ?_, ?_⟩
        · rw [List.erase_append_left _ again, List.cons_append]
        · have distinct : newer.Nodup := by
            have all := nodup_recency past
            rw [order] at all
            exact all.of_append_left
          ext other
          simp only [List.toFinset_cons, Finset.mem_insert, List.mem_toFinset,
            distinct.mem_erase_iff]
          tauto
      · refine ⟨newest :: newer, older.erase newest, ?_, by rw [List.toFinset_cons]⟩
        rw [List.erase_append_right _ again, List.erase_cons_tail (by simpa using Ne.symm same),
          List.cons_append]

/-- Among the first `n` keys is one that has been used, and since then fewer than `n` others. -/
theorem mem_take_recency_iff {key : Key} {uses : List Key} {n : ℕ} :
    key ∈ (recency uses).take n ↔ key ∈ uses ∧ (usedSince key uses).card < n := by
  by_cases used : key ∈ uses
  · obtain ⟨newer, older, order, since⟩ := exists_recency_eq used
    have distinct := nodup_recency uses
    rw [order] at distinct
    have absent : key ∉ newer := fun mem =>
      (List.nodup_append.mp distinct).2.2 key mem key List.mem_cons_self rfl
    rw [order, ← since, List.toFinset_card_of_nodup distinct.of_append_left, List.take_append,
      List.mem_append, and_iff_right used]
    constructor
    · rintro (mem | mem)
      · exact absurd (List.mem_of_mem_take mem) absent
      · by_contra full
        rw [Nat.sub_eq_zero_of_le (by omega)] at mem
        cases mem
    · intro room
      obtain ⟨k, enough⟩ := Nat.exists_eq_succ_of_ne_zero (Nat.sub_ne_zero_of_lt room)
      rw [enough]
      exact .inr List.mem_cons_self
  · constructor
    · exact fun mem => absurd (mem_recency.mp (List.mem_of_mem_take mem)) used
    · exact fun both => absurd both.1 used

/-- What is cut off behind a place does not come back to it when a key in front is erased. -/
theorem take_erase_take (key : Key) (l : List Key) (n : ℕ) :
    ((l.take (n + 1)).erase key).take n = (l.erase key).take n := by
  induction l generalizing n with
  | nil => rfl
  | cons head rest ih =>
    rw [List.take_succ_cons]
    by_cases same : head = key
    · subst same
      rw [List.erase_cons_head, List.erase_cons_head, List.take_take, Nat.min_self]
    · rw [List.erase_cons_tail (by simpa using same), List.erase_cons_tail (by simpa using same)]
      cases n with
      | zero => rfl
      | succ n => rw [List.take_succ_cons, List.take_succ_cons, ih]

/-- One more use of a key, in a cache that keeps the first `n` keys. -/
theorem take_recency_cons (key : Key) (past : List Key) (n : ℕ) :
    (key :: ((recency past).take n).erase key).take n = (recency (key :: past)).take n := by
  rw [recency]
  cases n with
  | zero => rfl
  | succ n => rw [List.take_succ_cons, List.take_succ_cons, take_erase_take]

end Machine
