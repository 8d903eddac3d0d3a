import OpenBus.Model.RegistryCalls
import OpenBus.Proofs.ServerInterceptor

/-! # What the calls of the registry leave to the interceptor

The validation of a login touches neither the slots of a request nor its answer, whatever the calls
do to the ORB. A registry whose calls change nothing makes it the operation on the cache alone.
-/

namespace OpenBus

open Machine

/-- The world of a request, whose registry is reached by calls. -/
def ServerWorld.calling (world : ServerWorld) : ServerWorld RegistryCalls :=
  { world with registry := world.registry.calls }

namespace ServerInterceptor

/-- The request is dispatched to a connection logged in to the bus of the credential, in the state
`d` which the callback leaves. -/
structure Reaches {Registry : Type} (world : ServerWorld Registry) (request : ServerRequest)
    (credential : CredentialData) (s d : Dispatch) (ref : ConnRef) : Prop where
  chosen : ∃ chosen, callDispatch world request credential.bus credential.login s =
    (.ok chosen, d) ∧ d.connectionFor chosen = some ref
  logged : (d.orb.connections ref).loginInfo ≠ none
  bus : (d.orb.connections ref).busid = credential.bus

theorem getDispatcherConnection_reaches_iff {Registry : Type} {world : ServerWorld Registry}
    {request : ServerRequest} {credential : CredentialData} {s t : Dispatch} {ref : ConnRef} :
    getDispatcherConnection world request credential.bus credential.login s = (.ok ref, t) ↔
      ∃ d, Reaches world request credential s d ref ∧ saveDispatcherConnection world ref d = t := by
  rw [getDispatcherConnection_ok_iff]
  constructor
  · rintro ⟨chosen, d, called, found, logged, bus, saved⟩
    exact ⟨d, ⟨⟨chosen, called, found⟩, logged, bus⟩, saved⟩
  · rintro ⟨d, ⟨⟨chosen, called, found⟩, logged, bus⟩, saved⟩
    exact ⟨chosen, d, called, found, logged, bus, saved⟩

namespace Calling

variable {platform : Platform} {world : ServerWorld RegistryCalls} {request : ServerRequest}

theorem validateCaller_apply (conn : ConnRef) (login : Identifier) (s : Dispatch) :
    validateCaller platform world conn login s =
      (validationResult (RegistryCalls.validateLogin platform world.registry conn login s.orb).1,
        { s with
          orb := (RegistryCalls.validateLogin platform world.registry conn login s.orb).2 }) := rfl

theorem validateCaller_some_iff {conn : ConnRef} {login : Identifier} {s t : Dispatch}
    {caller : Login} :
    validateCaller platform world conn login s = (.ok (some caller), t) ↔
      ∃ orb, RegistryCalls.validateLogin platform world.registry conn login s.orb =
        (.ok (some caller), orb) ∧ { s with orb } = t := by
  rw [validateCaller_apply, Prod.mk.injEq, validationResult_some_iff]
  constructor
  · rintro ⟨validated, rfl⟩
    exact ⟨_, Action.eq_of_fst validated, rfl⟩
  · rintro ⟨orb, validated, rfl⟩
    rw [validated]
    exact ⟨rfl, rfl⟩

theorem validateCaller_keeps_signedSlot (conn : ConnRef) (login : Identifier) :
    Action.Keeps signedSlot (validateCaller platform world conn login) := fun _ => rfl

theorem validateCaller_final (conn : ConnRef) (login : Identifier) :
    Action.Raises Final (validateCaller platform world conn login) := by
  intro s t e raised
  rw [validateCaller_apply, Prod.mk.injEq] at raised
  exact validationResult_spares (by decide) (by decide) raised.1

theorem receiveRequestServiceContexts_eq (codec : platform.CodecRefuses) (s : Dispatch) :
    receiveRequestServiceContexts platform world request s =
      receiveCredentialWith platform world request (validateCaller platform world)
        (judged request) s :=
  receiveRequestServiceContextsWith_eq codec validateCaller_final s

/-- The connection vouches for the login, and the calls of the registry leave the state `u`. -/
def Validated (platform : Platform) (world : ServerWorld RegistryCalls) (login : Identifier)
    (d u : Dispatch) (ref : ConnRef) (caller : Login) : Prop :=
  ∃ orb, RegistryCalls.validateLogin platform world.registry ref login
    (saveDispatcherConnection world ref d).orb = (.ok (some caller), orb) ∧
      { saveDispatcherConnection world ref d with orb } = u

/-- All that a credential must fulfil to be accepted. The connection is looked at in the state `d`
which the callback leaves, the session and the chain in the state `u` which the registry leaves. -/
structure Accepts (platform : Platform) (world : ServerWorld RegistryCalls)
    (request : ServerRequest) (protocol : Protocol) (credential : CredentialData)
    (s d u : Dispatch) (ref : ConnRef) (caller : Login) : Prop where
  reaches : Reaches world request credential s d ref
  validated : Validated platform world credential.login d u ref caller
  session : SessionAccepts platform request protocol credential u.sessions
  chain : ChainAccepts platform protocol credential caller (u.orb.connections ref)

theorem authenticateWith_ok_iff {protocol : Protocol} {credential : CredentialData} {s t : Dispatch}
    {ref : ConnRef} {caller : Login} {valid : Bool} :
    authenticateWith platform world request (validateCaller platform world) protocol credential s =
        (.ok (ref, caller, valid), t) ↔
      ∃ d u, Reaches world request credential s d ref ∧
        Validated platform world credential.login d u ref caller ∧
        (valid = true ↔ SessionAccepts platform request protocol credential u.sessions) ∧
        u.setSessions (sessionsAfterCheck platform request protocol credential u.sessions) = t := by
  rw [ServerInterceptor.authenticateWith_ok_iff]
  constructor
  · rintro ⟨saved, u, dispatched, validated, verdict, same⟩
    obtain ⟨d, reaches, rfl⟩ := getDispatcherConnection_reaches_iff.mp dispatched
    exact ⟨d, u, reaches, validateCaller_some_iff.mp validated, verdict, same⟩
  · rintro ⟨d, u, reaches, validated, verdict, same⟩
    exact ⟨_, u, getDispatcherConnection_reaches_iff.mpr ⟨d, reaches, rfl⟩,
      validateCaller_some_iff.mpr validated, verdict, same⟩

theorem handleCredential_ok_iff {protocol : Protocol} {credential : CredentialData}
    {s t : Dispatch} :
    handleCredential platform world request protocol credential s = (.ok (), t) ↔
      ∃ d u ref caller, Accepts platform world request protocol credential s d u ref caller ∧
        (u.setSessions (sessionsAfterCheck platform request protocol credential
          u.sessions)).setSlot .signedCallChain (.ofSignedChain protocol credential.chain) = t := by
  simp only [handleCredential, handleCredentialWith, Action.bind_ok_iff]
  constructor
  · rintro ⟨⟨ref, caller, valid⟩, judged, authentic, rest⟩
    obtain ⟨d, u, reaches, validated, verdict, rfl⟩ := authenticateWith_ok_iff.mp authentic
    cases valid with
    | false =>
      obtain ⟨e, v, raised, -⟩ := sendCredentialReset_spec platform world protocol ref caller
        (u.setSessions (sessionsAfterCheck platform request protocol credential u.sessions))
      simp only [Bool.false_eq_true, if_false, raised] at rest
      cases rest
    | true =>
      simp only [if_true, Action.bind_ok_iff] at rest
      obtain ⟨accepted, v, chain, final⟩ := rest
      cases accepted with
      | false => cases final
      | true =>
        obtain ⟨fits, rfl⟩ := validateChain_true_iff.mp chain
        cases final
        exact ⟨d, u, ref, caller, ⟨reaches, validated, verdict.mp rfl, fits⟩, rfl⟩
  · rintro ⟨d, u, ref, caller, accepts, rfl⟩
    refine ⟨(ref, caller, true), _, authenticateWith_ok_iff.mpr ⟨d, u, accepts.reaches,
      accepts.validated, iff_of_true rfl accepts.session, rfl⟩, ?_⟩
    simp only [if_true, Action.bind_ok_iff]
    exact ⟨true, _, validateChain_true_iff.mpr ⟨accepts.chain, rfl⟩, rfl⟩

end Calling

end ServerInterceptor

section Quiet

variable {platform : Platform} {registry : LoginRegistry} {conn : ConnRef} {id : Identifier}

open RegistryCalls

theorem setLoginCache_setLoginCache (first second : LoginCache) (orb : Orb) :
    (orb.setLoginCache conn first).setLoginCache conn second = orb.setLoginCache conn second := by
  simp [Orb.setLoginCache, Orb.updateConnection]

theorem loginCache_setLoginCache (cache : LoginCache) (orb : Orb) :
    ((orb.setLoginCache conn cache).connections conn).loginCache = some cache := by
  simp [Orb.setLoginCache, Orb.updateConnection]

/-- An action on the ORB does to the cache of a connection what another one does to the cache alone,
and nothing else. -/
def OnCache {α : Type} (conn : ConnRef) (x : Action Orb Exception α)
    (y : Action LoginCache Exception α) : Prop :=
  ∀ (cache : LoginCache) (orb : Orb),
    x (orb.setLoginCache conn cache) = ((y cache).1, orb.setLoginCache conn (y cache).2)

theorem OnCache.bind {α β : Type} {x : Action Orb Exception α} {y : Action LoginCache Exception α}
    {f : α → Action Orb Exception β} {g : α → Action LoginCache Exception β}
    (first : OnCache conn x y) (second : ∀ a, OnCache conn (f a) (g a)) :
    OnCache conn (x >>= f) (y >>= g) := by
  intro cache orb
  rw [Action.bind_apply, Action.bind_apply, first cache orb]
  rcases y cache with ⟨e | a, moved⟩
  · rfl
  · exact second a moved orb

theorem OnCache.pure {α : Type} (a : α) :
    OnCache conn (Pure.pure a : Action Orb Exception α) (Pure.pure a) := fun _ _ => rfl

theorem requestLogin_calls : OnCache conn (RegistryCalls.requestLogin platform registry.calls conn id)
    (LoginCache.requestLogin platform registry id) := by
  intro cache orb
  unfold RegistryCalls.requestLogin LoginCache.requestLogin
  simp only [Action.bind_apply, Action.attempt_apply, LoginRegistry.calls, Action.ofExcept_apply]
  cases answer : registry.getLoginInfo id with
  | error e => cases e <;> simp [Except.map]
  | ok told =>
    simp only [Except.map, if_true, enterLogin, RegistryCalls.loginCache, Action.bind_apply,
      Action.get_apply, loginCache_setLoginCache, Action.pure_apply, Action.modify_apply,
      setLoginCache_setLoginCache]
    rcases cache.fetch id with ⟨_ | again, moved⟩
    · cases read : platform.byteSeq2PubKey told.2 with
      | error e => simp [Action.bind_apply]
      | ok pubKey => simp [Action.bind_apply, setLoginCache_setLoginCache]
    · rfl

theorem checkValidity_calls (login : Login) :
    OnCache conn (RegistryCalls.checkValidity registry.calls conn id login)
      (LoginCache.checkValidity registry id login) := by
  intro cache orb
  unfold RegistryCalls.checkValidity LoginCache.checkValidity
  by_cases lasts : login.time2live > registry.tested - login.timeUpdated
  · rw [if_pos lasts, if_pos (show login.time2live > registry.calls.tested - _ from lasts)]
    rfl
  rw [if_neg lasts, if_neg (show ¬ login.time2live > registry.calls.tested - _ from lasts)]
  simp only [Action.bind_apply, LoginRegistry.calls, Action.ofExcept_apply]
  cases registry.getLoginValidity id with
  | error e => rfl
  | ok validity =>
    simp [Except.map, Action.bind_apply, Orb.setLoginCache, Orb.updateConnection]

/-- What the calls leave alone stays as it was. -/
theorem validateLogin_calls : OnCache conn (RegistryCalls.validateLogin platform registry.calls conn id)
    (LoginCache.validateLogin platform registry id) := by
  intro cache orb
  have modified (f : LoginCache → Option Login × LoginCache) :
      (modifyGet f : Action LoginCache Exception (Option Login)) cache =
        (.ok (f cache).1, (f cache).2) := rfl
  simp only [RegistryCalls.validateLogin, LoginCache.validateLogin, RegistryCalls.loginCache,
    Action.bind_apply, Action.get_apply, loginCache_setLoginCache, Action.pure_apply,
    Action.modify_apply, setLoginCache_setLoginCache, modified]
  rcases cache.fetch id with ⟨_ | login, moved⟩
  · refine OnCache.bind requestLogin_calls (fun login => ?_) moved orb
    cases login with
    | none => exact .pure _
    | some login => exact checkValidity_calls login
  · exact checkValidity_calls login moved orb

namespace ServerInterceptor

variable {world : ServerWorld}

theorem Calling.validateCaller_calling :
    Calling.validateCaller platform world.calling = ServerInterceptor.validateCaller platform world := by
  funext conn login s
  rw [Calling.validateCaller_apply]
  simp only [ServerInterceptor.validateCaller, Action.bind_apply, Action.get_apply]
  cases cached : (s.orb.connections conn).loginCache with
  | none =>
    have fault : RegistryCalls.validateLogin platform world.calling.registry conn login s.orb =
        (.error .fault, s.orb) := by
      simp [RegistryCalls.validateLogin, RegistryCalls.loginCache, Action.bind_apply, cached]
    rw [fault]
    rfl
  | some cache =>
    have same : s.orb.setLoginCache conn cache = s.orb := by
      simp only [Orb.setLoginCache, Orb.updateConnection, ← cached, Function.update_eq_self]
    have quiet : RegistryCalls.validateLogin platform world.registry.calls conn login
        (s.orb.setLoginCache conn cache) = _ := validateLogin_calls cache s.orb
    rw [same] at quiet
    change (validationResult (RegistryCalls.validateLogin platform world.registry.calls conn login
      s.orb).1, { s with
        orb := (RegistryCalls.validateLogin platform world.registry.calls conn login s.orb).2 }) = _
    rw [quiet]
    rfl

/-- A registry that only answers is one whose calls leave the ORB alone. -/
theorem Calling.receiveRequestServiceContexts_calling (request : ServerRequest) :
    Calling.receiveRequestServiceContexts platform world.calling request =
      ServerInterceptor.receiveRequestServiceContexts platform world request := by
  rw [Calling.receiveRequestServiceContexts, Calling.validateCaller_calling]
  rfl

end ServerInterceptor

end Quiet

end OpenBus
