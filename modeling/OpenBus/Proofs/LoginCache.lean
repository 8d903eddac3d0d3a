import OpenBus.Machine.Run
import OpenBus.Model.LoginCache

/-! # Sequences of validations

A validation is one call of `validateLogin`, recorded with what the registry has completed in it
and with the readings of the clock. What the cache knows of a login is then the last notice of it in
the history: that its record was made, with a validity which is not known, or that its validity was
answered. Lookups, refreshed records and evictions all preserve this.
-/

namespace OpenBus

open Machine

namespace LoginCache

/-- A call of `validateLogin`: the completed answer of `getLoginInfo`, the record made of it, the
reading of the clock at which the age of a record was tested, the completed answer of
`getLoginValidity` with the reading at which it was recorded, and what was returned. -/
structure Validation where
  id : Identifier
  told : Option (LoginInfo × OctetSeq)
  made : Option Login
  tested : Option ℤ
  answered : Option (ULong × ℤ)
  returned : Except Exception (Option Login)

section

variable (platform : Platform) (registry : LoginRegistry) (id : Identifier)

/-- The first half of `validateLogin`, which finds or makes the record. -/
def lookup : Action LoginCache Exception (Option Login) := do
  let cached ← modifyGet fun cache => cache.fetch id
  match cached with
  | some login => pure (some login)
  | none => requestLogin platform registry id

/-- The record that a call tests. -/
def located (cache : LoginCache) : Option Login :=
  (lookup platform registry id cache).1.toOption.join

/-- The validity that a call is answered: a record that is still valid is not asked about. -/
def answer (login : Login) : Option (ULong × ℤ) :=
  if login.time2live > registry.tested - login.timeUpdated then none
  else (registry.getLoginValidity id).toOption.map fun validity => (validity, registry.renewed)

def validation (cache : LoginCache) : Validation where
  id := id
  told := if cache.find id = none then (registry.getLoginInfo id).toOption else none
  made := if cache.find id = none then located platform registry id cache else none
  tested := (located platform registry id cache).map fun _ => registry.tested
  answered := (located platform registry id cache).bind (answer registry id)
  returned := (validateLogin platform registry id cache).1

end

inductive ValidationStep (platform : Platform) : LoginCache → Validation → LoginCache → Prop
  | validate {cache : LoginCache} (registry : LoginRegistry) (id : Identifier) :
      ValidationStep platform cache (validation platform registry id cache)
        (validateLogin platform registry id cache).2

/-- Calls of `validateLogin` for any logins, with a registry and a clock that answer anything. -/
def validationMachine (platform : Platform) : Labeled LoginCache Validation where
  Init cache := cache = .init
  Step := ValidationStep platform

/-- The readings of the clock, the last first. -/
def Validation.readings (v : Validation) : List ℤ :=
  (v.answered.map Prod.snd).toList ++ v.tested.toList ++ (v.made.map Login.timeUpdated).toList

def readings (history : List Validation) : List ℤ := history.flatMap Validation.readings

theorem readings_cons (v : Validation) (past : List Validation) :
    readings (v :: past) = v.readings ++ readings past := List.flatMap_cons

/-- The most recent completed answer of `getLoginValidity` for a login. -/
def lastAnswer (id : Identifier) : List Validation → Option (ULong × ℤ)
  | [] => none
  | v :: past => if v.id = id then v.answered <|> lastAnswer id past else lastAnswer id past

/-- What a call learns of a login: that its record has been made, or what its validity is. -/
inductive Notice where
  | made (since : ℤ)
  | answered (validity : ULong) (since : ℤ)
deriving DecidableEq

/-- The record has the validity of the notice, counted from its reading of the clock. -/
def Notice.Describes : Notice → Login → Prop
  | .made since, login => login.time2live = -1 ∧ login.timeUpdated = since
  | .answered validity since, login =>
      login.time2live = validity.toNat ∧ login.timeUpdated = since

/-- The last notice of a login. -/
def lastNotice (id : Identifier) : List Validation → Option Notice
  | [] => none
  | v :: past =>
      if v.id = id then
        v.answered.map (fun (validity, since) => .answered validity since) <|>
          v.made.map (fun login => .made login.timeUpdated) <|> lastNotice id past
      else lastNotice id past

/-- The notice behind the record which a call tests. -/
def testedNotice (past : List Validation) (v : Validation) : Option Notice :=
  v.made.map (fun login => .made login.timeUpdated) <|> lastNotice v.id past

/-- The information and the key of the record are those of one answer of `getLoginInfo`. -/
def Told (platform : Platform) (history : List Validation) (id : Identifier) (login : Login) :
    Prop :=
  ∃ v ∈ history, v.id = id ∧ ∃ key, v.told = some (login.loginInfo, key) ∧
    platform.byteSeq2PubKey key = .ok login.pubKey

/-- Every record of the cache is what the history tells of its login. -/
def Accounted (platform : Platform) (history : List Validation) (cache : LoginCache) : Prop :=
  ∀ id login, cache.find id = some login → Told platform history id login ∧
    ∃ notice, lastNotice id history = some notice ∧ notice.Describes login

variable {platform : Platform} {registry : LoginRegistry} {id : Identifier} {cache : LoginCache}

theorem fetch_of_absent (absent : cache.find id = none) : cache.fetch id = (none, cache) := by
  rw [LRUCache.fetch, absent]

theorem fetch_of_cached {login : Login} (cached : cache.find id = some login) :
    cache.fetch id = (some login, cache.touch id) := by
  rw [LRUCache.fetch, cached]

/-- Looking a login up in the cache, as an action. -/
theorem modifyGet_fetch_of_absent (absent : cache.find id = none) :
    (modifyGet fun cache => cache.fetch id : Action LoginCache Exception (Option Login)) cache =
      (.ok none, cache) :=
  congrArg (fun fetched => (Except.ok fetched.1, fetched.2)) (fetch_of_absent absent)

theorem modifyGet_fetch_of_cached {login : Login} (cached : cache.find id = some login) :
    (modifyGet fun cache => cache.fetch id : Action LoginCache Exception (Option Login)) cache =
      (.ok (some login), cache.touch id) :=
  congrArg (fun fetched => (Except.ok fetched.1, fetched.2)) (fetch_of_cached cached)

theorem lookup_of_cached (platform : Platform) (registry : LoginRegistry) {login : Login}
    (cached : cache.find id = some login) :
    lookup platform registry id cache = (.ok (some login), cache.touch id) := by
  unfold lookup
  rw [Action.bind_apply_ok (modifyGet_fetch_of_cached cached)]
  rfl

theorem lookup_of_absent (absent : cache.find id = none) :
    lookup platform registry id cache = requestLogin platform registry id cache := by
  unfold lookup
  rw [Action.bind_apply_ok (modifyGet_fetch_of_absent absent)]

/-- A request leaves the cache as it was, or inserts the record made of the answer. -/
theorem requestLogin_cases (platform : Platform) (registry : LoginRegistry)
    (absent : cache.find id = none) :
    (∃ result, requestLogin platform registry id cache = (result, cache) ∧
      result.toOption.join = none) ∨
    ∃ info key pubKey, registry.getLoginInfo id = .ok (info, key) ∧
      platform.byteSeq2PubKey key = .ok pubKey ∧
      requestLogin platform registry id cache =
        (.ok (some ⟨info, pubKey, -1, registry.created⟩),
          cache.insert id ⟨info, pubKey, -1, registry.created⟩) := by
  unfold requestLogin
  rcases told : registry.getLoginInfo id with e | ⟨info, key⟩
  · cases e <;> exact .inl ⟨_, rfl, rfl⟩
  · rw [fetch_of_absent absent]
    dsimp only
    cases read : platform.byteSeq2PubKey key with
    | error e => exact .inl ⟨_, rfl, rfl⟩
    | ok pubKey => exact .inr ⟨info, key, pubKey, rfl, read, rfl⟩

/-- The record of a call is the cached one, or it is made of what the registry tells. -/
theorem located_cases {login : Login} (found : located platform registry id cache = some login) :
    (cache.find id = some login ∧
      lookup platform registry id cache = (.ok (some login), cache.touch id)) ∨
    (cache.find id = none ∧ ∃ info key pubKey, registry.getLoginInfo id = .ok (info, key) ∧
      platform.byteSeq2PubKey key = .ok pubKey ∧ login = ⟨info, pubKey, -1, registry.created⟩ ∧
      lookup platform registry id cache = (.ok (some login), cache.insert id login)) := by
  cases cached : cache.find id with
  | some again =>
    have looked := lookup_of_cached platform registry cached
    rw [located, looked] at found
    cases found
    exact .inl ⟨rfl, looked⟩
  | none =>
    rw [located, lookup_of_absent cached] at found
    rw [lookup_of_absent cached]
    rcases requestLogin_cases platform registry cached with
      ⟨result, requested, none⟩ | ⟨info, key, pubKey, told, read, requested⟩
    · rw [requested, none] at found
      cases found
    · rw [requested] at found
      cases found
      exact .inr ⟨rfl, info, key, pubKey, told, read, rfl, requested⟩

/-- The record as a call leaves it. -/
def refreshed (registry : LoginRegistry) (id : Identifier) (login : Login) : Login :=
  match answer registry id login with
  | none => login
  | some (validity, since) => { login with time2live := validity.toNat, timeUpdated := since }

theorem refreshed_of_none {login : Login} (unanswered : answer registry id login = none) :
    refreshed registry id login = login := by
  rw [refreshed, unanswered]

theorem refreshed_of_some {login : Login} {validity : ULong} {since : ℤ}
    (answered : answer registry id login = some (validity, since)) :
    refreshed registry id login =
      { login with time2live := validity.toNat, timeUpdated := since } := by
  rw [refreshed, answered]

/-- A record that is still valid is returned as it is; any other login is asked about, and the call
fails if the registry does. -/
theorem checkValidity_cases (registry : LoginRegistry) (id : Identifier) (login : Login)
    (moved : LoginCache) :
    (login.time2live > registry.tested - login.timeUpdated ∧ answer registry id login = none ∧
      checkValidity registry id login moved = (.ok (some login), moved)) ∨
    (∃ e, answer registry id login = none ∧
      checkValidity registry id login moved = (.error e, moved)) ∨
    ∃ validity since, answer registry id login = some (validity, since) ∧
      checkValidity registry id login moved =
        (.ok (if (validity.toNat : ℤ) > 0 then some (refreshed registry id login) else none),
          moved.assign id (refreshed registry id login)) := by
  by_cases current : login.time2live > registry.tested - login.timeUpdated
  · exact .inl ⟨current, if_pos current, by rw [checkValidity, if_pos current]⟩
  · have asks : answer registry id login =
        (registry.getLoginValidity id).toOption.map fun validity => (validity, registry.renewed) :=
      if_neg current
    cases asked : registry.getLoginValidity id with
    | error e =>
      rw [asked] at asks
      refine .inr (.inl ⟨e, asks, ?_⟩)
      rw [checkValidity, if_neg current, asked]
    | ok validity =>
      rw [asked] at asks
      refine .inr (.inr ⟨validity, registry.renewed, asks, ?_⟩)
      rw [checkValidity, if_neg current, asked, refreshed_of_some asks]

/-- The second half of `validateLogin`. -/
def check (registry : LoginRegistry) (id : Identifier) :
    Option Login → Action LoginCache Exception (Option Login)
  | none => pure none
  | some login => checkValidity registry id login

theorem validateLogin_eq_lookup_check :
    validateLogin platform registry id cache =
      (lookup platform registry id >>= check registry id) cache := by
  unfold validateLogin
  cases cached : cache.find id with
  | none =>
    rw [Action.bind_apply_ok (modifyGet_fetch_of_absent cached), Action.bind_apply,
      lookup_of_absent cached]
    rfl
  | some login =>
    rw [Action.bind_apply_ok (modifyGet_fetch_of_cached cached),
      Action.bind_apply_ok (lookup_of_cached platform registry cached)]
    rfl

/-- A call without a record to test returns none, or fails, and leaves the cache as it was. -/
theorem validateLogin_of_unlocated (unlocated : located platform registry id cache = none) :
    cache.find id = none ∧ ∃ result, validateLogin platform registry id cache = (result, cache) ∧
      result.toOption.join = none := by
  cases cached : cache.find id with
  | some login =>
    rw [located, lookup_of_cached platform registry cached] at unlocated
    cases unlocated
  | none =>
    rw [located, lookup_of_absent cached] at unlocated
    rw [validateLogin_eq_lookup_check, Action.bind_apply, lookup_of_absent cached]
    rcases requestLogin_cases platform registry cached with
      ⟨result, requested, -⟩ | ⟨info, key, pubKey, -, -, requested⟩
    · rw [requested] at unlocated ⊢
      cases result with
      | error e => exact ⟨rfl, _, rfl, rfl⟩
      | ok found =>
        obtain rfl : found = none := unlocated
        exact ⟨rfl, _, rfl, rfl⟩
    · rw [requested] at unlocated
      cases unlocated

/-- A call with a record to test goes on with it, in a cache which may keep that record. -/
theorem validateLogin_of_located {login : Login}
    (found : located platform registry id cache = some login) :
    ∃ moved : LoginCache,
      validateLogin platform registry id cache = checkValidity registry id login moved ∧
      ∀ other kept, moved.find other = some kept →
        (other = id ∧ kept = login) ∨ (other ≠ id ∧ cache.find other = some kept) := by
  have goes {moved : LoginCache}
      (looked : lookup platform registry id cache = (.ok (some login), moved)) :
      validateLogin platform registry id cache = checkValidity registry id login moved := by
    rw [validateLogin_eq_lookup_check, Action.bind_apply_ok looked, check]
  rcases located_cases found with ⟨cached, looked⟩ | ⟨-, _, _, _, -, -, -, looked⟩
  · refine ⟨_, goes looked, fun other kept present => ?_⟩
    rw [LRUCache.find_touch] at present
    by_cases same : other = id
    · subst same
      rw [cached] at present
      exact .inl ⟨rfl, (Option.some.inj present).symm⟩
    · exact .inr ⟨same, present⟩
  · exact ⟨_, goes looked, fun other kept present => LRUCache.find_insert_cases present⟩

/-- Whatever is in the cache after a call was there before, or is the record which was tested. -/
theorem find_validateLogin {other : Identifier} {kept : Login}
    (present : (validateLogin platform registry id cache).2.find other = some kept) :
    (other = id ∧ ∃ login, located platform registry id cache = some login ∧
      kept = refreshed registry id login) ∨ (other ≠ id ∧ cache.find other = some kept) := by
  cases found : located platform registry id cache with
  | none =>
    obtain ⟨absent, _, same, -⟩ := validateLogin_of_unlocated found
    rw [same] at present
    refine .inr ⟨?_, present⟩
    rintro rfl
    rw [absent] at present
    cases present
  | some login =>
    obtain ⟨moved, same, kept_of_find⟩ := validateLogin_of_located found
    rw [same] at present
    have unrefreshed (unanswered : answer registry id login = none)
        (present : moved.find other = some kept) :
        (other = id ∧ ∃ l, some login = some l ∧ kept = refreshed registry id l) ∨
          (other ≠ id ∧ cache.find other = some kept) := by
      rcases kept_of_find other kept present with ⟨here, rfl⟩ | before
      · exact .inl ⟨here, kept, rfl, (refreshed_of_none unanswered).symm⟩
      · exact .inr before
    rcases checkValidity_cases registry id login moved with
      ⟨-, unanswered, checked⟩ | ⟨e, unanswered, checked⟩ | ⟨_, _, answered, checked⟩
    · rw [checked] at present
      exact unrefreshed unanswered present
    · rw [checked] at present
      exact unrefreshed unanswered present
    · rw [checked, LRUCache.find_assign] at present
      split at present
      · next same =>
        obtain ⟨_, -, kept⟩ := Option.map_eq_some_iff.mp present
        exact .inl ⟨same, login, rfl, kept.symm⟩
      · next differ =>
        rcases kept_of_find other kept present with ⟨same, -⟩ | before
        · exact absurd same differ
        · exact .inr before

/-- A login that is returned is the record tested: either it was valid when tested, or it has just
been answered a positive validity. -/
theorem returned_cases {returned : Login}
    (success : (validateLogin platform registry id cache).1 = .ok (some returned)) :
    ∃ login, located platform registry id cache = some login ∧
      returned = refreshed registry id login ∧
      ((answer registry id login = none ∧ login.time2live > registry.tested - login.timeUpdated) ∨
        ∃ validity since, answer registry id login = some (validity, since) ∧
          (validity.toNat : ℤ) > 0) := by
  cases found : located platform registry id cache with
  | none =>
    obtain ⟨-, result, same, none⟩ := validateLogin_of_unlocated found
    rw [same] at success
    obtain rfl : result = .ok (some returned) := success
    cases none
  | some login =>
    obtain ⟨moved, same, -⟩ := validateLogin_of_located found
    rw [same] at success
    rcases checkValidity_cases registry id login moved with
      ⟨current, unanswered, checked⟩ | ⟨e, -, checked⟩ | ⟨validity, since, answered, checked⟩
    · rw [checked] at success
      obtain rfl : login = returned := Option.some.inj (Except.ok.inj success)
      exact ⟨login, rfl, (refreshed_of_none unanswered).symm, .inl ⟨unanswered, current⟩⟩
    · rw [checked] at success
      cases success
    · rw [checked] at success
      have chosen := Except.ok.inj success
      split at chosen
      · next positive =>
        exact ⟨login, rfl, (Option.some.inj chosen).symm,
          .inr ⟨validity, since, answered, positive⟩⟩
      · cases chosen

/-- A record that is valid when it is tested is returned. -/
theorem returned_of_current {login : Login}
    (found : located platform registry id cache = some login)
    (current : login.time2live > registry.tested - login.timeUpdated) :
    (validateLogin platform registry id cache).1 = .ok (some login) := by
  obtain ⟨moved, same, -⟩ := validateLogin_of_located found
  rw [same, checkValidity, if_pos current]

theorem Told.mono {history : List Validation} {login : Login}
    (told : Told platform history id login) (v : Validation) :
    Told platform (v :: history) id login := by
  obtain ⟨w, mem, same⟩ := told
  exact ⟨w, List.mem_cons_of_mem _ mem, same⟩

theorem told_refreshed {history : List Validation} {login : Login} :
    Told platform history id (refreshed registry id login) ↔ Told platform history id login := by
  unfold refreshed
  split <;> rfl

/-- The record a call tests is that of the last notice, which may be of this very call. -/
theorem accounted_located {past : List Validation} (accounted : Accounted platform past cache)
    {login : Login} (found : located platform registry id cache = some login) :
    Told platform (validation platform registry id cache :: past) id login ∧
      ∃ notice, testedNotice past (validation platform registry id cache) = some notice ∧
        notice.Describes login := by
  rcases located_cases found with ⟨cached, -⟩ | ⟨absent, info, key, pubKey, told, read, rfl, -⟩
  · obtain ⟨told, notice, last, describes⟩ := accounted id login cached
    refine ⟨told.mono _, notice, ?_, describes⟩
    simpa [testedNotice, validation, cached] using last
  · refine ⟨⟨_, List.mem_cons_self, rfl, key, ?_, read⟩, .made registry.created, ?_, rfl, rfl⟩
    · simp [validation, absent, told, Except.toOption]
    · simp [testedNotice, validation, absent, found]

theorem lastNotice_cons_self (v : Validation) (past : List Validation) :
    lastNotice v.id (v :: past) =
      (v.answered.map (fun (validity, since) => Notice.answered validity since) <|>
        testedNotice past v) := by
  simp [lastNotice, testedNotice]

theorem lastNotice_cons_of_ne {v : Validation} {past : List Validation} (differ : v.id ≠ id) :
    lastNotice id (v :: past) = lastNotice id past := if_neg differ

theorem answered_validation {login : Login}
    (found : located platform registry id cache = some login) :
    (validation platform registry id cache).answered = answer registry id login := by
  simp [validation, found]

/-- The same holds of the record as the call leaves it. -/
theorem accounted_refreshed {past : List Validation} (accounted : Accounted platform past cache)
    {login : Login} (found : located platform registry id cache = some login) :
    Told platform (validation platform registry id cache :: past) id
        (refreshed registry id login) ∧
      ∃ notice, lastNotice id (validation platform registry id cache :: past) = some notice ∧
        notice.Describes (refreshed registry id login) := by
  obtain ⟨told, notice, tested, describes⟩ := accounted_located accounted found
  refine ⟨told_refreshed.mpr told, ?_⟩
  change ∃ notice, lastNotice (validation platform registry id cache).id _ = _ ∧ _
  rw [lastNotice_cons_self, answered_validation found]
  cases answered : answer registry id login with
  | none =>
    rw [refreshed_of_none answered]
    exact ⟨notice, tested, describes⟩
  | some answer =>
    rw [refreshed_of_some answered]
    exact ⟨_, rfl, rfl, rfl⟩

/-- Every call keeps the cache in accord with the history. -/
theorem accounted_of_run {history : List Validation}
    (run : Run (validationMachine platform) history cache) : Accounted platform history cache := by
  apply run.invariant (Accounted platform)
  · rintro cache rfl id login cached
    rw [LoginCache.init, LRUCache.find_ofSize] at cached
    cases cached
  · rintro past cache v t - accounted ⟨registry, id⟩ other kept present
    rcases find_validateLogin present with ⟨rfl, login, found, rfl⟩ | ⟨differ, before⟩
    · exact accounted_refreshed accounted found
    · obtain ⟨told, notice, last, describes⟩ := accounted other kept before
      exact ⟨told.mono _, notice, (lastNotice_cons_of_ne (Ne.symm differ)).trans last, describes⟩

/-- The last notice is the answer of the last call, or the record it made, or an earlier one. -/
theorem lastNotice_cons_cases {v : Validation} {past : List Validation} {notice : Notice}
    (last : lastNotice id (v :: past) = some notice) :
    (v.id = id ∧ ∃ validity since, v.answered = some (validity, since) ∧
      notice = .answered validity since) ∨
    (v.id = id ∧ v.answered = none ∧ ∃ login, v.made = some login ∧
      notice = .made login.timeUpdated) ∨
    ((v.id = id → v.answered = none) ∧ lastNotice id past = some notice) := by
  by_cases same : v.id = id
  · subst same
    rw [lastNotice_cons_self] at last
    cases answered : v.answered with
    | some answer =>
      rw [answered] at last
      exact .inl ⟨rfl, answer.1, answer.2, rfl, (Option.some.inj last).symm⟩
    | none =>
      rw [answered] at last
      cases made : v.made with
      | some login =>
        rw [testedNotice, made] at last
        exact .inr (.inl ⟨rfl, rfl, login, rfl, (Option.some.inj last).symm⟩)
      | none =>
        rw [testedNotice, made] at last
        exact .inr (.inr ⟨fun _ => rfl, last⟩)
  · rw [lastNotice_cons_of_ne same] at last
    exact .inr (.inr ⟨fun here => absurd here same, last⟩)

/-- An answer which is the last notice is the last answer. -/
theorem lastAnswer_of_lastNotice {history : List Validation} {validity : ULong} {since : ℤ}
    (last : lastNotice id history = some (.answered validity since)) :
    lastAnswer id history = some (validity, since) := by
  induction history with
  | nil => cases last
  | cons v past ih =>
    rw [lastAnswer]
    rcases lastNotice_cons_cases last with
      ⟨here, _, _, answered, same⟩ | ⟨-, -, login, -, same⟩ | ⟨unanswered, earlier⟩
    · cases same
      rw [if_pos here, answered]
      rfl
    · cases same
    · split
      · next here =>
        rw [unanswered here]
        exact ih earlier
      · exact ih earlier

def Notice.since : Notice → ℤ
  | .made since | .answered _ since => since

/-- The reading of a notice is one of the readings of the history. -/
theorem since_mem_readings {history : List Validation} {notice : Notice}
    (last : lastNotice id history = some notice) : notice.since ∈ readings history := by
  induction history with
  | nil => cases last
  | cons v past ih =>
    rw [readings_cons, List.mem_append]
    rcases lastNotice_cons_cases last with
      ⟨-, _, _, answered, rfl⟩ | ⟨-, -, login, made, rfl⟩ | ⟨-, earlier⟩
    · simp [Validation.readings, answered, Notice.since]
    · simp [Validation.readings, made, Notice.since]
    · exact .inr (ih earlier)

end LoginCache

end OpenBus
