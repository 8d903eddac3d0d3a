import OpenBus.Model.ServerRuns
import OpenBus.Proofs.LRUCache
import OpenBus.Soundness.ServerVerdict

/-! # How long a server keeps a session

The interceptor looks a session up for every request whose caller is valid, and creates one for
every request that it refuses with a reset. Between two requests over a session other callers may
therefore drive it out. The sessions that have been looked up or created since tell exactly when:
the cache of a process holds a session as long as fewer of them are different than it has places.
-/

namespace OpenBus

open Machine

namespace ServerInterceptor

/-- The sessions that a request uses, the newest first: the one it creates, and the one which its
credential names and which is cached when the credential is tested. -/
def sessionUses (platform : Platform) (h : Handled) : List ULong :=
  match getCredential platform h.request (judged h.request) with
  | .error _ => []
  | .ok credential =>
      match (authenticate platform h.world h.request (judged h.request) credential
          (.arrival h.before)).1 with
      | .error _ => []
      | .ok _ =>
          (if h.answer = .error (.noPermission invalidCredentialCode) then [h.world.sessionId]
            else []) ++
          if ((calledState platform h.world h.request h.before).sessionLRUCache.find
            credential.session).isSome then [credential.session] else []

/-- The sessions used since they have been cleared last, the newest first. -/
def usesSinceCleared (platform : Platform) : List ServingEvent → List ULong
  | [] => []
  | .handled h cleared :: past =>
      sessionUses platform h ++ if cleared then [] else usesSinceCleared platform past
  | .meanwhile cleared :: past => if cleared then [] else usesSinceCleared platform past

variable {platform : Platform} {world : ServerWorld} {request : ServerRequest}

theorem Meanwhile.recent {cleared : Bool} {orb t : Orb} (meanwhile : Meanwhile cleared orb t)
    {uses : List ULong} (recent : orb.sessionLRUCache.Recent uses) :
    t.sessionLRUCache.Recent (if cleared then [] else uses) := by
  rw [meanwhile.sessions]
  cases cleared with
  | false => exact recent
  | true => exact LRUCache.recent_nil rfl

variable (platform request) in
theorem recent_sessionsAfterCheck (protocol : Protocol) (credential : CredentialData)
    {sessions : LRUCache ULong Session} {uses : List ULong} (recent : sessions.Recent uses) :
    (sessionsAfterCheck platform request protocol credential sessions).Recent
      (if (sessions.find credential.session).isSome then credential.session :: uses else uses) := by
  have fetched := recent.fetch credential.session
  unfold sessionsAfterCheck
  cases found : sessions.find credential.session with
  | none =>
    rw [found] at fetched
    exact fetched
  | some session =>
    rw [found] at fetched
    dsimp only
    split
    · exact fetched.assign _ _
    · exact fetched

/-- Once its credential has been tested, a request that does not end the process creates a session
exactly when it is answered with a reset. -/
theorem sessions_of_authentic (codec : platform.CodecRefuses) {protocol : Protocol}
    {credential : CredentialData} {s t u : Dispatch} {answer : Except Exception Unit}
    {conn : ConnRef} {caller : Login} {valid : Bool}
    (authentic : authenticate platform world request protocol credential s =
      (.ok (conn, caller, valid), u))
    (handled : handleCredential platform world request protocol credential s = (answer, t))
    (continues : answer ≠ .error .fault) :
    t.sessions = if answer = .error (.noPermission invalidCredentialCode) then
        u.sessions.insert world.sessionId (Session.init world caller.loginInfo.id)
      else u.sessions := by
  rw [handleCredential_eq, Action.bind_apply_ok authentic] at handled
  cases valid with
  | false =>
    obtain ⟨e, t', raised, reset, inserted, -⟩ :=
      sendCredentialReset_spec platform world protocol conn caller u
    simp only [Bool.false_eq_true, if_false, raised] at handled
    cases handled
    rcases reset with rfl | rfl
    · exact (congrArg Orb.sessionLRUCache inserted).trans (if_pos rfl).symm
    · exact absurd rfl continues
  | true =>
    simp only [if_true] at handled
    rcases validateChain_cases platform world protocol credential caller conn u with
      ⟨r, unchanged, causes⟩ | ⟨-, chain, login, e, t', -, -, -, reset, raised⟩
    · rw [Action.bind_apply, unchanged] at handled
      rcases r with e | accepted
      · cases handled
        have spared : e ≠ .noPermission invalidCredentialCode := by
          rintro rfl
          rcases causes _ rfl with fault | ⟨data, type, refused⟩
          · cases fault
          · exact spares_of_refused codec refused .completedNo rfl
        rw [if_neg (by simpa using spared)]
      · cases accepted <;> cases handled <;> rfl
    · obtain ⟨e', t'', answered, resets, inserted, -⟩ :=
        sendCredentialReset_spec platform world .legacy conn caller u
      cases reset.symm.trans answered
      rw [Action.bind_apply_error raised] at handled
      cases handled
      rcases resets with rfl | rfl
      · exact (congrArg Orb.sessionLRUCache inserted).trans (if_pos rfl).symm
      · exact absurd rfl continues

variable (world) in
theorem sessions_calledState {orb : Orb} {credential : CredentialData}
    (present : getCredential platform request (judged request) = .ok credential) :
    (callbackState world request credential (.arrival orb)).sessions =
      (calledState platform world request orb).sessionLRUCache := by
  simp only [calledState, present]
  rfl

theorem calledState_of_silent {orb : Orb} (silent : world.onCallDispatch = none) :
    calledState platform world request orb = orb := by
  unfold calledState
  split
  · rfl
  · rw [callbackState, callDispatch, silent]
    rfl

/-- A request moves the sessions that it uses to the front. -/
theorem recent_handled (codec : platform.CodecRefuses) {orb : Orb} {uses : List ULong}
    {answer : Except Exception Unit} {t : Dispatch}
    (recent : (calledState platform world request orb).sessionLRUCache.Recent uses)
    (received : receiveRequestServiceContexts platform world request (.arrival orb) = (answer, t))
    (continues : answer ≠ .error .fault) :
    t.orb.sessionLRUCache.Recent
      (sessionUses platform ⟨world, request, orb, answer, t⟩ ++ uses) := by
  obtain ⟨refused, present, rfl, rfl⟩ | ⟨credential, present, handled⟩ :=
    received_cases codec received
  · simp only [calledState, present] at recent
    simp only [sessionUses, present, List.nil_append]
    exact recent
  have state : _ = (calledState platform world request orb).sessionLRUCache :=
    sessions_calledState world present
  rcases handleCredential_sessions platform world request (judged request) credential
    (.arrival orb) with ⟨e, t', failed, raised, same⟩ |
      ⟨ref, caller, valid, u, r, t', authentic, ended, tested, -, -⟩
  · cases raised.symm.trans handled
    simp only [sessionUses, present, failed, List.nil_append]
    have kept : t.orb.sessionLRUCache = _ := same.trans state
    rwa [kept]
  · have after := sessions_of_authentic codec authentic handled continues
    rw [state] at tested
    have found := recent_sessionsAfterCheck platform request (judged request) credential recent
    rw [← tested] at found
    have sessions : t.orb.sessionLRUCache = t.sessions := rfl
    rw [sessions, after]
    simp only [sessionUses, present, authentic]
    split
    · have created := found.insert world.sessionId (Session.init world caller.loginInfo.id)
      split <;> simp_all
    · split <;> simp_all

/-- No request takes a place of the cache away; only clearing the sessions does. -/
theorem capacity_handled (codec : platform.CodecRefuses) {orb : Orb}
    {answer : Except Exception Unit} {t : Dispatch}
    (received : receiveRequestServiceContexts platform world request (.arrival orb) = (answer, t)) :
    t.orb.sessionLRUCache.capacity =
      (calledState platform world request orb).sessionLRUCache.capacity := by
  obtain ⟨refused, present, rfl, rfl⟩ | ⟨credential, present, handled⟩ :=
    received_cases codec received
  · simp only [calledState, present]
    rfl
  have state : _ = (calledState platform world request orb).sessionLRUCache :=
    sessions_calledState world present
  have sessions : t.orb.sessionLRUCache = t.sessions := rfl
  rw [sessions, ← state]
  rcases handleCredential_sessions platform world request (judged request) credential
    (.arrival orb) with ⟨e, t', -, raised, same⟩ |
      ⟨ref, caller, valid, u, r, t', -, ended, tested, -, effect⟩
  · cases raised.symm.trans handled
    rw [same]
  · cases ended.symm.trans handled
    have checked := congrArg LRUCache.capacity tested
    rw [capacity_sessionsAfterCheck] at checked
    rcases effect with same | ⟨e, -, -, inserted⟩
    · rw [same, checked]
    · rw [inserted, LRUCache.capacity_insert, checked]

def clears : ServingEvent → Bool
  | .handled _ cleared | .meanwhile cleared => cleared

/-- In every state that a process reaches, exactly those sessions are cached which have been used
since the sessions have been cleared last, and since whose last use fewer other ones have been used
than the cache has places. It has all its places until the sessions are cleared. -/
theorem session_cached_iff (codec : platform.CodecRefuses) {history : List ServingEvent} {orb : Orb}
    (run : Run (servingMachine platform) history orb) (id : ULong) :
    ((orb.sessionLRUCache.find id).isSome ↔ id ∈ usesSinceCleared platform history ∧
      (usedSince id (usesSinceCleared platform history)).card < orb.sessionLRUCache.capacity) ∧
    ((∀ e ∈ history, clears e = false) → orb.sessionLRUCache.capacity = 128) := by
  have recent : orb.sessionLRUCache.Recent (usesSinceCleared platform history) ∧
      ((∀ e ∈ history, clears e = false) → orb.sessionLRUCache.capacity = 128) := by
    apply run.invariant (fun history orb =>
      orb.sessionLRUCache.Recent (usesSinceCleared platform history) ∧
        ((∀ e ∈ history, clears e = false) → orb.sessionLRUCache.capacity = 128))
    · rintro orb ⟨fresh, -⟩
      rw [fresh]
      exact ⟨LRUCache.recent_nil rfl, fun _ => rfl⟩
    · rintro past orb e t - ⟨recent, places⟩ step
      cases step with
      | @handled world request cleared answer t called received continues =>
        refine ⟨recent_handled codec (called.recent recent) received continues, fun never => ?_⟩
        have kept : cleared = false := never _ List.mem_cons_self
        rw [capacity_handled codec received, called.sessions, kept]
        exact places fun e mem => never e (List.mem_cons_of_mem _ mem)
      | @meanwhile t cleared passed =>
        refine ⟨passed.recent recent, fun never => ?_⟩
        have kept : cleared = false := never _ List.mem_cons_self
        rw [passed.sessions, kept]
        exact places fun e mem => never e (List.mem_cons_of_mem _ mem)
  exact ⟨recent.1.isSome_find_iff id, recent.2⟩

namespace Reference

/-- A request of the reference server, as the label of a step. -/
def handledRequest (world : ServerWorld) (credential : CredentialData) (orb : Orb) : Handled :=
  ⟨world, requestOf credential, orb, (handled world credential orb).1,
    (handled world credential orb).2⟩

theorem step_handled (world : ServerWorld) (credential : CredentialData) (orb : Orb)
    (silent : world.onCallDispatch = none)
    (continues : (handled world credential orb).1 ≠ .error .fault) :
    ServingStep referencePlatform orb (.handled (handledRequest world credential orb) false)
      (handled world credential orb).2.orb := by
  refine .handled ?_ (received world credential orb) continues
  rw [calledState_of_silent silent]
  exact ⟨rfl, fun ref cache cached => .inr cached⟩

/-- The first request of the login `c`, which the server answers with a session. -/
def greeted : Handled := handledRequest environment firstCredential orb

theorem run_greeted : Run (servingMachine referencePlatform) [.handled greeted false] served := by
  have start : Run (servingMachine referencePlatform) [] orb :=
    .start ⟨rfl, fun ref cache cached => (Option.some.inj cached).symm⟩
  exact start.step (step_handled environment firstCredential orb rfl (by decide +kernel))

/-- The server draws the number of the next session. -/
def drawing (sessionId : ULong) : ServerWorld := { environment with sessionId }

/-- The server after it has answered a second request with another session. -/
def greetedTwice : Orb := (handled (drawing 6) firstCredential served).2.orb

/-- A logout has cleared both sessions. -/
def forgetful : Orb := { greetedTwice with sessionLRUCache := greetedTwice.sessionLRUCache.clear }

/-- A third session is created. -/
def greetedAgain : Orb := (handled (drawing 7) firstCredential forgetful).2.orb

def greetings : List ServingEvent :=
  [.handled (handledRequest (drawing 7) firstCredential forgetful) false, .meanwhile true,
    .handled (handledRequest (drawing 6) firstCredential served) false, .handled greeted false]

theorem meanwhile_clear (orb : Orb) :
    Meanwhile true orb { orb with sessionLRUCache := orb.sessionLRUCache.clear } :=
  ⟨rfl, fun _ _ cached => .inr cached⟩

theorem run_greetings : Run (servingMachine referencePlatform) greetings greetedAgain := by
  have second : Run (servingMachine referencePlatform) _ greetedTwice := run_greeted.step
    (step_handled (drawing 6) firstCredential served rfl (by decide +kernel))
  have cleared : Run (servingMachine referencePlatform) _ forgetful :=
    second.step (.meanwhile (meanwhile_clear greetedTwice))
  have third : ServingStep referencePlatform forgetful _ greetedAgain :=
    step_handled (drawing 7) firstCredential forgetful rfl (by decide +kernel)
  exact cleared.step third

end Reference

open Reference in
/-- Of three sessions, the one that has been created since the logout is left. -/
theorem session_cached_iff_greeted :
    (((greetedAgain.sessionLRUCache.find 5).isSome ↔
        5 ∈ usesSinceCleared referencePlatform greetings ∧
        (usedSince 5 (usesSinceCleared referencePlatform greetings)).card <
          greetedAgain.sessionLRUCache.capacity) ∧
      greetedAgain.sessionLRUCache.find 5 = none) ∧
    (((greetedAgain.sessionLRUCache.find 7).isSome ↔
        7 ∈ usesSinceCleared referencePlatform greetings ∧
        (usedSince 7 (usesSinceCleared referencePlatform greetings)).card <
          greetedAgain.sessionLRUCache.capacity) ∧
      (greetedAgain.sessionLRUCache.find 7).isSome) :=
  ⟨⟨(session_cached_iff ReferencePlatform.codecRefuses run_greetings 5).1, by decide +kernel⟩,
    (session_cached_iff ReferencePlatform.codecRefuses run_greetings 7).1, by decide +kernel⟩

end ServerInterceptor

end OpenBus
