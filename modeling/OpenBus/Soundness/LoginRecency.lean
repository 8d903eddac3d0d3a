import OpenBus.Proofs.LRUCache
import OpenBus.Soundness.CachedLogins

/-! # When the registry is asked

A validation does not ask the registry exactly if the login is cached and its validity lasts. It is
cached exactly if fewer other logins have been tested since it was tested itself than the cache can
hold, and its validity is that of the last notice of it.
-/

namespace OpenBus

open Machine

namespace LoginCache

/-- The logins of which a record has been tested, the newest first. -/
def tests (history : List Validation) : List Identifier :=
  history.filterMap fun v => v.tested.map fun _ => v.id

/-- The validity of a notice lasts beyond a reading of the clock. -/
def Notice.Lasts : Notice → ℤ → Prop
  | .made since, now => -1 > now - since
  | .answered validity since, now => (validity.toNat : ℤ) > now - since

/-- The answer to a validation does not depend on what the registry would say. -/
def Unasked (platform : Platform) (id : Identifier) (now : ℤ) (cache : LoginCache) : Prop :=
  ∃ outcome, ∀ registry : LoginRegistry, registry.tested = now →
    validateLogin platform registry id cache = outcome

variable {platform : Platform} {registry : LoginRegistry} {id : Identifier} {cache : LoginCache}

theorem Notice.Describes.lasts_iff {notice : Notice} {login : Login}
    (describes : notice.Describes login) (now : ℤ) :
    notice.Lasts now ↔ login.time2live > now - login.timeUpdated := by
  cases notice with
  | made since =>
    obtain ⟨unknown, made⟩ := describes
    rw [unknown, made]
    exact Iff.rfl
  | answered validity since =>
    obtain ⟨known, answered⟩ := describes
    rw [known, answered]
    exact Iff.rfl

theorem tests_validation (past : List Validation) :
    tests (validation platform registry id cache :: past) =
      if (located platform registry id cache).isSome then id :: tests past else tests past := by
  cases found : located platform registry id cache <;> simp [tests, validation, found]

theorem recent_checkValidity (registry : LoginRegistry) (id : Identifier) (login : Login)
    {uses : List Identifier} {moved : LoginCache} (recent : moved.Recent uses) :
    (checkValidity registry id login moved).2.Recent uses ∧
      (checkValidity registry id login moved).2.capacity = moved.capacity := by
  rcases checkValidity_cases registry id login moved with
    ⟨-, -, checked⟩ | ⟨e, -, checked⟩ | ⟨_, _, -, checked⟩
  · rw [checked]
    exact ⟨recent, rfl⟩
  · rw [checked]
    exact ⟨recent, rfl⟩
  · rw [checked]
    exact ⟨recent.assign _ _, LRUCache.capacity_assign ..⟩

/-- A validation uses its login if there is a record to test. -/
theorem recent_validateLogin {uses : List Identifier} (recent : cache.Recent uses) :
    (validateLogin platform registry id cache).2.Recent
        (if (located platform registry id cache).isSome then id :: uses else uses) ∧
      (validateLogin platform registry id cache).2.capacity = cache.capacity := by
  cases found : located platform registry id cache with
  | none =>
    obtain ⟨-, result, same, -⟩ := validateLogin_of_unlocated found
    rw [same]
    exact ⟨recent, rfl⟩
  | some login =>
    have goes {moved : LoginCache}
        (looked : lookup platform registry id cache = (.ok (some login), moved)) :
        validateLogin platform registry id cache = checkValidity registry id login moved := by
      rw [validateLogin_eq_lookup_check, Action.bind_apply_ok looked, check]
    rcases located_cases found with ⟨cached, looked⟩ | ⟨-, _, _, _, -, -, -, looked⟩
    · have touched : (cache.touch id).Recent (id :: uses) := recent.touch (by simp [cached])
      have kept := recent_checkValidity registry id login touched
      rw [goes looked]
      exact ⟨kept.1, kept.2.trans (LRUCache.capacity_touch ..)⟩
    · have inserted := recent.insert id login
      have kept := recent_checkValidity registry id login inserted
      rw [goes looked]
      exact ⟨kept.1, kept.2.trans (LRUCache.capacity_insert ..)⟩

/-- The cache holds the logins tested last, and has room for 128 of them. -/
theorem recent_of_run {history : List Validation}
    (run : Run (validationMachine platform) history cache) :
    cache.Recent (tests history) ∧ cache.capacity = 128 := by
  apply run.invariant fun history cache => cache.Recent (tests history) ∧ cache.capacity = 128
  · rintro cache rfl
    exact ⟨LRUCache.recent_nil rfl, rfl⟩
  · rintro past before v after - ⟨recent, room⟩ step
    cases step with
    | validate registry id =>
      obtain ⟨later, same⟩ := recent_validateLogin recent
      rw [tests_validation]
      exact ⟨later, same.trans room⟩

/-- A registry that fails to answer. -/
def failing (e : Exception) (now : ℤ) : LoginRegistry where
  getLoginInfo _ := .error e
  getLoginValidity _ := .error e
  created := now
  tested := now
  renewed := now

/-- Unless the login is cached and still valid, a failure of the registry is passed on. -/
theorem validateLogin_failing {now : ℤ} (e : Exception) (known : e ≠ .invalidLogins)
    (stale : ∀ login, cache.find id = some login → ¬ login.time2live > now - login.timeUpdated) :
    (validateLogin platform (failing e now) id cache).1 = .error e := by
  rw [validateLogin_eq_lookup_check]
  cases cached : cache.find id with
  | none =>
    have failed : lookup platform (failing e now) id cache = (.error e, cache) := by
      rw [lookup_of_absent cached, requestLogin]
      cases e <;> first | rfl | exact absurd rfl known
    rw [Action.bind_apply, failed]
  | some login =>
    have expired : ¬ login.time2live > (failing e now).tested - login.timeUpdated :=
      stale login cached
    rw [Action.bind_apply_ok (lookup_of_cached platform _ cached), check, checkValidity,
      if_neg expired]
    rfl

theorem unasked_iff_current (now : ℤ) : Unasked platform id now cache ↔
    ∃ login, cache.find id = some login ∧ login.time2live > now - login.timeUpdated := by
  constructor
  · rintro ⟨outcome, same⟩
    by_contra stale
    push Not at stale
    have fails (e : Exception) (known : e ≠ .invalidLogins) : outcome.1 = .error e := by
      rw [← same (failing e now) rfl]
      exact validateLogin_failing e known fun login cached => not_lt.mpr (stale login cached)
    have agree := (fails .fault (by simp)).symm.trans (fails .forwardRequest (by simp))
    cases agree
  · rintro ⟨login, cached, current⟩
    refine ⟨(.ok (some login), cache.touch id), fun registry tested => ?_⟩
    rw [validateLogin_eq_lookup_check,
      Action.bind_apply_ok (lookup_of_cached platform registry cached), check, checkValidity,
      if_pos (tested ▸ current)]

/-- In every run, a validation does not ask the registry exactly if fewer than 128 other logins have
been tested since its own, and the validity last told of it lasts. -/
theorem unasked_iff {history : List Validation} (run : Run (validationMachine platform) history cache)
    (id : Identifier) (now : ℤ) : Unasked platform id now cache ↔
      (id ∈ tests history ∧ (usedSince id (tests history)).card < 128) ∧
        ∃ notice, lastNotice id history = some notice ∧ notice.Lasts now := by
  obtain ⟨recent, room⟩ := recent_of_run run
  have accounted := accounted_of_run run
  have present := recent.isSome_find_iff id
  rw [room] at present
  rw [unasked_iff_current, ← present]
  constructor
  · rintro ⟨login, cached, current⟩
    obtain ⟨-, notice, last, describes⟩ := accounted id login cached
    exact ⟨by simp [cached], notice, last, (describes.lasts_iff now).mpr current⟩
  · rintro ⟨cached, notice, last, lasts⟩
    obtain ⟨login, found⟩ := Option.isSome_iff_exists.mp cached
    obtain ⟨-, notice', last', describes⟩ := accounted id login found
    rw [last] at last'
    cases last'
    exact ⟨login, found, (describes.lasts_iff now).mp lasts⟩

open Reference in
/-- A login which has been granted sixty seconds at 11 is validated at 70 without the registry. -/
theorem unasked_iff_fetched : Unasked referencePlatform (ascii "login") 70 (fetched 60) := by
  have run : Run (validationMachine referencePlatform)
      [validation referencePlatform (registryAt 10 10 11 60) (ascii "login") .init] (fetched 60) :=
    .step (.start rfl) (.validate _ _)
  refine (unasked_iff run (ascii "login") 70).mpr ⟨by decide +kernel, .answered 60 11, ?_, ?_⟩
  · decide +kernel
  · change (60 : ℤ) > 70 - 11
    decide

end LoginCache

end OpenBus
