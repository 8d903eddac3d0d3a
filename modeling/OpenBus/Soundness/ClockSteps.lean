import OpenBus.Soundness.CachedLogins

/-! # Invalid logins and a clock that steps back

The validity of a record is compared with its age, and the age is negative when the clock has been
set back. A record that was never confirmed has the validity minus one, and the record of an invalid
login keeps the validity zero: either is greater than a negative age, so the login is returned.
-/

namespace OpenBus

open Machine

namespace LoginCache

/-- A login is not returned after an answer of zero, nor before an answer since its record was
made. -/
def StaysInvalid (past : List Validation) (v : Validation) : Prop :=
  ∀ login, v.returned = .ok (some login) →
    (∀ since, lastAnswer v.id (v :: past) ≠ some (0, since)) ∧
      ∃ validity since, lastNotice v.id (v :: past) = some (.answered validity since)

/-- The reading at which a record is tested has not fallen behind its notice: not at all if the
login is invalid, and by one second at most if it has never been confirmed. -/
def Notice.NotAhead (tested : ℤ) : Notice → Prop
  | .made since => since ≤ tested + 1
  | .answered validity since => validity = 0 → since ≤ tested

/-- Whenever a record is tested, the clock has kept up with it. -/
def ClockKeepsUp (past : List Validation) (v : Validation) : Prop :=
  ∀ tested notice, v.tested = some tested → testedNotice past v = some notice →
    notice.NotAhead tested

variable {platform : Platform} {registry : LoginRegistry} {id : Identifier} {cache : LoginCache}

/-- A clock that has kept up makes a record current only after a positive answer. -/
theorem notAhead_iff {notice : Notice} {login : Login} {tested : ℤ}
    (describes : notice.Describes login) :
    notice.NotAhead tested ↔ (login.time2live > tested - login.timeUpdated →
      ∃ validity since, notice = .answered validity since ∧ validity ≠ 0) := by
  cases notice with
  | made since =>
    obtain ⟨unconfirmed, rfl⟩ := describes
    have never : ¬ ∃ validity since,
        Notice.made login.timeUpdated = .answered validity since ∧ validity ≠ 0 := by
      rintro ⟨_, _, same, -⟩
      cases same
    simp only [Notice.NotAhead, never, imp_false]
    omega
  | answered validity since =>
    obtain ⟨confirmed, rfl⟩ := describes
    constructor
    · intro kept current
      refine ⟨validity, _, rfl, ?_⟩
      rintro rfl
      have := kept rfl
      change login.time2live = 0 at confirmed
      omega
    · rintro positive rfl
      by_contra behind
      change login.time2live = 0 at confirmed
      obtain ⟨_, _, same, nonzero⟩ := positive (by omega)
      cases same
      exact nonzero rfl

/-- The last notice of a login is a positive answer. -/
def Confirmed (id : Identifier) (history : List Validation) : Prop :=
  ∃ validity since, lastNotice id history = some (.answered validity since) ∧ validity ≠ 0

theorem staysInvalid_iff_confirmed {past : List Validation} {v : Validation} :
    StaysInvalid past v ↔
      ∀ login, v.returned = .ok (some login) → Confirmed v.id (v :: past) := by
  refine forall₂_congr fun login _ => ?_
  constructor
  · rintro ⟨nonzero, validity, since, last⟩
    refine ⟨validity, since, last, ?_⟩
    rintro rfl
    exact nonzero since (lastAnswer_of_lastNotice last)
  · rintro ⟨validity, since, last, nonzero⟩
    refine ⟨fun other zero => ?_, validity, since, last⟩
    rw [lastAnswer_of_lastNotice last] at zero
    cases zero
    exact nonzero rfl

/-- A call returns only confirmed logins exactly if the clock has kept up with the record tested. -/
theorem staysInvalid_iff_clockKeepsUp {past : List Validation}
    (accounted : Accounted platform past cache) :
    StaysInvalid past (validation platform registry id cache) ↔
      ClockKeepsUp past (validation platform registry id cache) := by
  rw [staysInvalid_iff_confirmed]
  cases found : located platform registry id cache with
  | none =>
    have untested : (validation platform registry id cache).tested = none := by
      simp [validation, found]
    refine iff_of_true (fun login success => ?_) (fun tested notice read => ?_)
    · obtain ⟨_, located, -⟩ := returned_cases success
      rw [found] at located
      cases located
    · rw [untested] at read
      cases read
  | some login =>
    have read : (validation platform registry id cache).tested = some registry.tested := by
      simp [validation, found]
    obtain ⟨-, notice, tested, describes⟩ := accounted_located accounted found
    have last := lastNotice_cons_self (validation platform registry id cache) past
    rw [answered_validation found, tested] at last
    have keepsUp : ClockKeepsUp past (validation platform registry id cache) ↔
        notice.NotAhead registry.tested := by
      simp [ClockKeepsUp, read, tested]
    rw [keepsUp, notAhead_iff describes]
    constructor
    · intro confirmed current
      have unanswered : answer registry id login = none := if_pos current
      rw [unanswered] at last
      obtain ⟨validity, since, same, nonzero⟩ :=
        confirmed login (returned_of_current found current)
      rw [last] at same
      exact ⟨validity, since, Option.some.inj same, nonzero⟩
    · intro positive returned success
      obtain ⟨_, located, -, valid⟩ := returned_cases success
      obtain rfl : login = _ := Option.some.inj (found.symm.trans located)
      rcases valid with ⟨unanswered, current⟩ | ⟨validity, since, answered, granted⟩
      · obtain ⟨validity, since, rfl, nonzero⟩ := positive current
        rw [unanswered] at last
        exact ⟨validity, since, last, nonzero⟩
      · rw [answered] at last
        refine ⟨validity, since, last, ?_⟩
        rintro rfl
        simp at granted

/-- In every run, whatever the clock does, no login is returned that is invalid or has never been
confirmed, exactly if the clock has kept up with the record whenever one was tested. -/
theorem invalid_staysInvalid_iff {history : List Validation}
    (run : Run (validationMachine platform) history cache) :
    Always StaysInvalid history ↔ Always ClockKeepsUp history := by
  induction run with
  | start init => exact Iff.rfl
  | @step past before after v run step ih =>
    refine and_congr ?_ ih
    cases step with
    | validate registry id => exact staysInvalid_iff_clockKeepsUp (accounted_of_run run)

open Reference in
/-- A clock that steps back does no harm to a login with a positive validity. -/
theorem invalid_staysInvalid_iff_positive :
    Always ClockKeepsUp (twice 60 5) ∧ Always StaysInvalid (twice 60 5) := by
  have keepsUp : Always ClockKeepsUp (twice 60 5) := by
    refine ⟨?_, ?_, trivial⟩
    · rintro _ notice - last
      obtain rfl : notice = .answered 60 11 := by
        refine Option.some.inj (last.symm.trans ?_)
        decide +kernel
      exact fun zero => absurd zero (by decide)
    · rintro tested notice read last
      obtain rfl : tested = 10 := by
        refine Option.some.inj (read.symm.trans ?_)
        decide +kernel
      obtain rfl : notice = .made 10 := by
        refine Option.some.inj (last.symm.trans ?_)
        decide +kernel
      exact show (10 : ℤ) ≤ 10 + 1 by decide
  exact ⟨keepsUp, (invalid_staysInvalid_iff (twice_run 60 5)).mpr keepsUp⟩

open Reference in
/-- A login whose validity was answered zero at 11 is returned when the clock reads 9. -/
theorem invalid_login_returned :
    ∃ history cache, Run (validationMachine referencePlatform) history cache ∧
      ¬ Always StaysInvalid history := by
  refine ⟨twice 0 9, _, twice_run 0 9, fun always => ?_⟩
  have returned : (validation referencePlatform (registryAt 0 9 9 0) (ascii "login")
      (fetched 0)).returned =
      .ok (some ⟨⟨ascii "login", ascii "entity"⟩, ⟨ascii "key"⟩, 0, 11⟩) := by
    decide +kernel
  exact (always.1 _ returned).1 11 (by decide +kernel)

end LoginCache

end OpenBus
