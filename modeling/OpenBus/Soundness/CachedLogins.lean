import OpenBus.Model.ReferencePlatform
import OpenBus.Proofs.LoginCache

/-! # What the cache of logins vouches for

A login is returned with what the registry has told of it, and only within the validity which the
registry has last answered. Records that were never confirmed carry a validity of minus one, and
records of invalid logins a validity of zero; neither is ever greater than an age, as long as the
clock does not step back.
-/

namespace OpenBus

open Machine

namespace LoginCache

/-- A login is returned with the information and the key of an answer of `getLoginInfo`, and the
last answer of `getLoginValidity` is positive: it was recorded less than its validity before, or
it has been obtained in this very call. -/
def WithinRegistry (platform : Platform) (past : List Validation) (v : Validation) : Prop :=
  ∀ login, v.returned = .ok (some login) → Told platform (v :: past) v.id login ∧
    ∃ validity since, lastAnswer v.id (v :: past) = some (validity, since) ∧ 0 < validity.toNat ∧
      (v.answered = some (validity, since) ∨
        ∃ tested, v.tested = some tested ∧ tested - since < validity.toNat)

variable {platform : Platform} {registry : LoginRegistry} {id : Identifier} {cache : LoginCache}

/-- With a clock that never steps back a record is tested no earlier than it was noticed. -/
theorem since_le_tested {past : List Validation} {v : Validation} {notice : Notice} {tested : ℤ}
    (clock : (readings (v :: past)).Pairwise (· ≥ ·)) (read : v.tested = some tested)
    (unanswered : v.answered = none) (last : lastNotice v.id (v :: past) = some notice) :
    notice.since ≤ tested := by
  have mem := since_mem_readings last
  have head : readings (v :: past) =
      tested :: ((v.made.map Login.timeUpdated).toList ++ readings past) := by
    simp [readings, Validation.readings, read, unanswered]
  rw [head] at mem clock
  rcases List.mem_cons.mp mem with same | earlier
  · exact same.le
  · exact List.rel_of_pairwise_cons clock earlier

theorem withinRegistry_of_accounted {past : List Validation}
    (accounted : Accounted platform past cache)
    (clock : (readings (validation platform registry id cache :: past)).Pairwise (· ≥ ·)) :
    WithinRegistry platform past (validation platform registry id cache) := by
  intro returned success
  obtain ⟨login, found, rfl, valid⟩ := returned_cases success
  obtain ⟨told, notice, last, describes⟩ := accounted_refreshed accounted found
  refine ⟨told, ?_⟩
  have answers := answered_validation found
  rcases valid with ⟨unanswered, current⟩ | ⟨validity, since, answered, positive⟩
  · rw [unanswered] at answers
    rw [refreshed_of_none unanswered] at describes
    have read : (validation platform registry id cache).tested = some registry.tested := by
      simp [validation, found]
    have aged := since_le_tested clock read answers last
    cases notice with
    | made since =>
      obtain ⟨unconfirmed, rfl⟩ := describes
      simp only [Notice.since] at aged
      omega
    | answered validity since =>
      obtain ⟨confirmed, rfl⟩ := describes
      simp only [Notice.since] at aged
      rw [confirmed] at current
      exact ⟨validity, _, lastAnswer_of_lastNotice last, by omega, .inr ⟨_, read, by omega⟩⟩
  · rw [answered] at answers
    refine ⟨validity, since, ?_, by omega, .inl answers⟩
    rw [lastAnswer, if_pos rfl, answers]
    rfl

/-- In every run with a clock that never steps back, each call vouches only for what the registry
has told. -/
theorem validated_withinRegistry {history : List Validation}
    (run : Run (validationMachine platform) history cache)
    (clock : (readings history).Pairwise (· ≥ ·)) : Always (WithinRegistry platform) history := by
  induction run with
  | start init => trivial
  | @step past before after v run step ih =>
    have earlier : (readings past).Pairwise (· ≥ ·) := by
      rw [readings_cons, List.pairwise_append] at clock
      exact clock.2.1
    refine ⟨?_, ih earlier⟩
    cases step with
    | validate registry id => exact withinRegistry_of_accounted (accounted_of_run run) clock

namespace Reference

/-- A registry which knows every login and grants the same validity to all, and the readings of the
clock during one call. -/
def registryAt (created tested renewed : ℤ) (validity : ULong) : LoginRegistry where
  getLoginInfo id := .ok (⟨id, ascii "entity"⟩, ascii "key")
  getLoginValidity _ := .ok validity
  created := created
  tested := tested
  renewed := renewed

/-- A login that is fetched, and granted a validity. -/
def fetched (validity : ULong) : LoginCache :=
  (validateLogin referencePlatform (registryAt 10 10 11 validity) (ascii "login") .init).2

/-- The login is validated at 10, and again at another reading of the clock. -/
def twice (validity : ULong) (tested : ℤ) : List Validation :=
  [validation referencePlatform (registryAt 0 tested tested validity) (ascii "login")
      (fetched validity),
    validation referencePlatform (registryAt 10 10 11 validity) (ascii "login") .init]

theorem twice_run (validity : ULong) (tested : ℤ) :
    Run (validationMachine referencePlatform) (twice validity tested)
      (validateLogin referencePlatform (registryAt 0 tested tested validity) (ascii "login")
        (fetched validity)).2 :=
  .step (.step (.start rfl) (.validate _ _)) (.validate _ _)

end Reference

open Reference in
/-- A login granted sixty seconds at 11 is returned again at 70, with what the registry told of it
at first. -/
theorem validated_withinRegistry_twice :
    (readings (twice 60 70)).Pairwise (· ≥ ·) ∧
      (twice 60 70).map Validation.returned =
        [.ok (some ⟨⟨ascii "login", ascii "entity"⟩, ⟨ascii "key"⟩, 60, 11⟩),
          .ok (some ⟨⟨ascii "login", ascii "entity"⟩, ⟨ascii "key"⟩, 60, 11⟩)] ∧
      Always (WithinRegistry referencePlatform) (twice 60 70) := by
  have clock : (readings (twice 60 70)).Pairwise (· ≥ ·) := by decide +kernel
  exact ⟨clock, by decide +kernel, validated_withinRegistry (twice_run 60 70) clock⟩

end LoginCache

end OpenBus
