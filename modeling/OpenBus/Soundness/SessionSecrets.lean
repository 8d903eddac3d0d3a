import OpenBus.Soundness.SessionSurvival
import OpenBus.Soundness.CachedLogins

/-! # Who knows the secret of a session

The secret of a session leaves the server once, in the answer of the request which has created it,
encrypted with the public key that the registry has given for the caller. A request is accepted
only if its credential has been hashed with such a secret: that of the last session created under
its number, for the very login that the credential names, and not cleared since.
-/

namespace OpenBus

open Machine

namespace ServerInterceptor

/-- The registry has answered this record for a login. -/
def Vouched (platform : Platform) (id : Identifier) (login : Login) (h : Handled) : Prop :=
  ∃ encoded, h.world.registry.getLoginInfo id = .ok (login.loginInfo, encoded) ∧
    platform.byteSeq2PubKey encoded = .ok login.pubKey

def handledOf : ServingEvent → Option Handled
  | .handled h _ => some h
  | .meanwhile _ => none

/-- A record of the registry, answered in one of the requests of a history. -/
def Registered (platform : Platform) (history : List ServingEvent) (id : Identifier)
    (login : Login) : Prop :=
  ∃ h ∈ history.filterMap handledOf, Vouched platform id login h

/-- What a reset adds to an answer, with the secret of the session encrypted for its caller. -/
def ResetAnswered (platform : Platform) (world : ServerWorld) (protocol : Protocol) (caller : Login)
    (before after : ServiceContexts) : Prop :=
  ∃ login challenge,
    memcpy 256 (platform.encrypt caller.pubKey world.nonce world.secret.toList) = .ok challenge ∧
    after = Function.update before protocol.credentialContextId
      (some (platform.encodeValue (credentialReset protocol
        (Session.init world caller.loginInfo.id) login challenge)))

/-- The request named a login, and has been answered with a session for the caller. -/
structure Grants (platform : Platform) (h : Handled) (asked : Identifier) (caller : Login) : Prop
    where
  named : ∃ credential, getCredential platform h.request (judged h.request) = .ok credential ∧
    credential.login = asked
  answered : ResetAnswered platform h.world (judged h.request) caller (fun _ => none)
    h.after.replyContexts

/-- The only secret in an answer is the one which the request has drawn, encrypted with a key which
the registry has given for the login that the request names. -/
def Discreet (platform : Platform) (history : List ServingEvent) (h : Handled) : Prop :=
  h.after.replyContexts = (fun _ => none) ∨
    ∃ asked caller, Grants platform h asked caller ∧ Registered platform history asked caller

/-- The request that has created the session now found under a number, if the cache keeps it. -/
def lastGrant (id : ULong) : List ServingEvent → Option Handled
  | [] => none
  | .handled h cleared :: past =>
      if h.answer = .error (.noPermission invalidCredentialCode) ∧ h.world.sessionId = id then some h
      else if cleared then none else lastGrant id past
  | .meanwhile cleared :: past => if cleared then none else lastGrant id past

/-- A session is the one that the last grant of its number has created. -/
def Granted (platform : Platform) (history : List ServingEvent) (id : ULong) (session : Session) :
    Prop :=
  ∃ grant asked caller, lastGrant id history = some grant ∧ Grants platform grant asked caller ∧
    Registered platform history asked caller ∧ session.secret = grant.world.secret ∧
    session.remoteId = caller.loginInfo.id

/-- What is known of the sessions and of the cached logins after a run. -/
structure Known (platform : Platform) (history : List ServingEvent) (orb : Orb) : Prop where
  logins : ∀ ref cache id login, (orb.connections ref).loginCache = some cache →
    cache.find id = some login → Registered platform history id login
  sessions : ∀ id session, orb.sessionLRUCache.find id = some session →
    Granted platform history id session

variable {platform : Platform} {world : ServerWorld} {request : ServerRequest}

theorem Registered.cons {history : List ServingEvent} {id : Identifier} {login : Login}
    (registered : Registered platform history id login) (e : ServingEvent) :
    Registered platform (e :: history) id login := by
  obtain ⟨h, mem, vouched⟩ := registered
  refine ⟨h, ?_, vouched⟩
  rw [List.filterMap_cons]
  cases handledOf e with
  | none => exact mem
  | some other => exact List.mem_cons_of_mem _ mem

theorem registered_meanwhile {history : List ServingEvent} {cleared : Bool} {id : Identifier}
    {login : Login} :
    Registered platform (.meanwhile cleared :: history) id login ↔
      Registered platform history id login := Iff.rfl

theorem of_lastGrant {id : ULong} {history : List ServingEvent} {grant : Handled}
    (last : lastGrant id history = some grant) :
    grant ∈ history.filterMap handledOf ∧
      grant.answer = .error (.noPermission invalidCredentialCode) ∧ grant.world.sessionId = id := by
  induction history with
  | nil => cases last
  | cons e past ih =>
    cases e with
    | handled h cleared =>
      rw [lastGrant] at last
      split at last
      · next same =>
        cases last
        exact ⟨List.mem_cons_self, same⟩
      · split at last
        · cases last
        · exact (ih last).imp_left (List.mem_cons_of_mem _)
    | meanwhile cleared =>
      rw [lastGrant] at last
      split at last
      · cases last
      · exact ih last

/-- A refreshed record is that of the same login, with the same key. -/
theorem vouched_refreshed {registry : LoginRegistry} {asked id : Identifier} {login : Login}
    {h : Handled} (vouched : Vouched platform id login h) :
    Vouched platform id (LoginCache.refreshed registry asked login) h := by
  unfold LoginCache.refreshed
  split <;> exact vouched

/-- The record that a call tests was cached, or the registry has just answered it. -/
theorem located_vouched {id : Identifier} {cache : LoginCache} {login : Login}
    (located : LoginCache.located platform world.registry id cache = some login) (h : Handled)
    (met : h.world = world) :
    cache.find id = some login ∨ Vouched platform id login h := by
  rcases LoginCache.located_cases located with
    ⟨cached, -⟩ | ⟨-, info, key, pubKey, told, read, rfl, -⟩
  · exact .inl cached
  · refine .inr ⟨key, ?_, read⟩
    rw [met]
    exact told

section Connections

variable (platform world) in
/-- Of the connections, the validation of the caller changes one cache of logins. -/
theorem connections_validateCaller (conn : ConnRef) (login : Identifier) (s : Dispatch) :
    (validateCaller platform world conn login s).2.orb.connections = s.orb.connections ∨
    ∃ cache, (s.orb.connections conn).loginCache = some cache ∧
      (validateCaller platform world conn login s).2.orb.connections =
        (s.orb.setLoginCache conn
          (LoginCache.validateLogin platform world.registry login cache).2).connections := by
  unfold validateCaller
  simp only [Action.bind_apply, Action.get_apply]
  cases cached : (s.orb.connections conn).loginCache with
  | none => exact .inl rfl
  | some cache => exact .inr ⟨cache, rfl, rfl⟩

theorem sendCredentialReset_keeps_connections (protocol : Protocol) (conn : ConnRef)
    (caller : Login) :
    Action.Keeps (fun d : Dispatch => d.orb.connections)
      (sendCredentialReset platform world protocol conn caller) := by
  intro s
  obtain ⟨e, t, raised, -, kept, -⟩ := sendCredentialReset_spec platform world protocol conn caller s
  rw [raised]
  exact (congrArg Orb.connections kept : t.orb.connections = _)

theorem validateChain_keeps_connections (protocol : Protocol) (credential : CredentialData)
    (caller : Login) (conn : ConnRef) :
    Action.Keeps (fun d : Dispatch => d.orb.connections)
      (validateChain platform world protocol credential caller conn) := by
  intro s
  rcases validateChain_cases platform world protocol credential caller conn s with
    ⟨r, unchanged, -⟩ | ⟨-, chain, login, e, t, -, -, -, reset, raised⟩
  · rw [unchanged]
  · rw [raised]
    exact (sendCredentialReset_keeps_connections .legacy conn caller).of_run reset

/-- The connections are those that the callback has left, but for one cache of logins, which has
been asked about the login of the credential. -/
def Validated (platform : Platform) (world : ServerWorld) (credential : CredentialData)
    (called : Orb) (connections : ConnRef → Connection) : Prop :=
  connections = called.connections ∨
  ∃ conn cache, (called.connections conn).loginCache = some cache ∧
    connections = (called.setLoginCache conn
      (LoginCache.validateLogin platform world.registry credential.login cache).2).connections

theorem validated_authenticate_error {protocol : Protocol} {credential : CredentialData}
    {s t : Dispatch} {e : Exception}
    (failed : authenticate platform world request protocol credential s = (.error e, t)) :
    Validated platform world credential (callbackState world request credential s).orb
      t.orb.connections := by
  have choosing (chosen : Option ConnRef) : Action.Keeps (fun d : Dispatch => d.orb.connections)
      (chooseConnection world credential.bus chosen) :=
    chooseConnection_keeps (fun ref d => connections_saveDispatcherConnection world ref d) _ _
  unfold callbackState
  rcases Action.bind_error_iff.mp failed with dispatching | ⟨conn, d, dispatched, rest⟩
  · left
    rcases Action.bind_error_iff.mp dispatching with called | ⟨chosen, u, called, chose⟩
    · rw [called]
    · rw [called]
      exact (choosing chosen).of_run chose
  · obtain ⟨chosen, u, called, chose⟩ := Action.bind_ok_iff.mp dispatched
    have kept : d.orb.connections = u.orb.connections := (choosing chosen).of_run chose
    have validation := connections_validateCaller platform world conn credential.login d
    rw [called]
    suffices same : t.orb.connections =
        (validateCaller platform world conn credential.login d).2.orb.connections by
      rw [same]
      rcases validation with unchanged | ⟨cache, cached, changed⟩
      · exact .inl (unchanged.trans kept)
      · refine .inr ⟨conn, cache, kept ▸ cached, changed.trans ?_⟩
        simp only [Orb.setLoginCache, Orb.updateConnection, kept]
    rcases Action.bind_error_iff.mp rest with raised | ⟨found, v, validating, final⟩
    · rw [raised]
    · rw [validating]
      cases found with
      | none =>
        cases final
        rfl
      | some caller =>
        obtain ⟨accepted, checked, -⟩ := checkSession_spec platform request protocol credential v
        rcases Action.bind_error_iff.mp final with impossible | ⟨valid, w, -, impossible⟩
        · rw [checked] at impossible
          cases impossible
        · cases impossible

variable (platform world request) in
theorem validated_handleCredential (protocol : Protocol) (credential : CredentialData)
    (s : Dispatch) :
    Validated platform world credential (callbackState world request credential s).orb
      (handleCredential platform world request protocol credential s).2.orb.connections := by
  rcases authentic : authenticate platform world request protocol credential s with
    ⟨e | ⟨ref, caller, valid⟩, u⟩
  · rw [handleCredential_eq, Action.bind_apply_error authentic]
    exact validated_authenticate_error authentic
  · obtain ⟨d, after, ⟨⟨chosen, called, -⟩, -, -, cache, cached, validated⟩, -, rfl⟩ :=
      authenticate_ok_iff.mp authentic
    obtain rfl : callbackState world request credential s = d := congrArg Prod.snd called
    rw [handleCredential_eq, Action.bind_apply_ok authentic]
    have judged : (judgedState platform world request protocol credential
        (callbackState world request credential s) ref after).orb.connections =
          ((callbackState world request credential s).orb.setLoginCache ref
            (LoginCache.validateLogin platform world.registry credential.login cache).2).connections := by
      rw [validated]
      simp [judgedState, Dispatch.setSessions, Dispatch.updateOrb, Orb.setSessions,
        Orb.setLoginCache, Orb.updateConnection]
    refine .inr ⟨ref, cache, cached, Eq.trans ?_ judged⟩
    generalize judgedState platform world request protocol credential
      (callbackState world request credential s) ref after = u
    cases valid with
    | false => exact sendCredentialReset_keeps_connections protocol ref caller u
    | true =>
      refine Action.Keeps.bind (validateChain_keeps_connections protocol credential caller ref)
        (fun accepted => ?_) u
      cases accepted with
      | false => exact .throw _
      | true => exact .modify fun _ => rfl

end Connections

section Answers

variable (platform world request) in
theorem authenticate_keeps_replies (protocol : Protocol) (credential : CredentialData) :
    Action.Keeps Dispatch.replyContexts
      (authenticate platform world request protocol credential) := by
  refine .bind (getDispatcherConnection_keeps (fun _ _ _ _ _ _ => rfl) (fun _ _ => rfl) _ _)
    fun conn => .bind (validateCaller_keeps platform world (fun _ _ _ => rfl) _ _) fun found => ?_
  cases found with
  | none => exact .throw _
  | some caller =>
    refine .bind (fun s => ?_) fun _ => .pure _
    obtain ⟨accepted, checked, -⟩ := checkSession_spec platform request protocol credential s
    rw [checked]
    rfl

/-- Either a request is refused for its credential and the answer tells so, or nothing is added. -/
def Replies (platform : Platform) (world : ServerWorld) (protocol : Protocol) (caller : Login)
    (before after : ServiceContexts) (answer : Except Exception Unit) : Prop :=
  (answer ≠ .error (.noPermission invalidCredentialCode) ∧ after = before) ∨
    (answer = .error (.noPermission invalidCredentialCode) ∧
      ResetAnswered platform world protocol caller before after)

theorem sendCredentialReset_replies {protocol : Protocol} {conn : ConnRef} {caller : Login}
    {s t : Dispatch} {answer : Except Exception Unit}
    (sent : sendCredentialReset platform world protocol conn caller s = (answer, t)) :
    Replies platform world protocol caller s.replyContexts t.replyContexts answer := by
  rcases sendCredentialReset_cases platform world protocol conn caller s with
    faulted | ⟨login, challenge, -, copied, answered⟩
  · cases faulted.symm.trans sent
    exact .inl ⟨by simp [Exception.noPermission], rfl⟩
  · cases answered.symm.trans sent
    exact .inr ⟨rfl, login, challenge, copied, rfl⟩

/-- An answer has a service context exactly if the request is refused for its credential. -/
theorem handleCredential_replies (codec : platform.CodecRefuses) {protocol : Protocol}
    {credential : CredentialData} {s t : Dispatch} {answer : Except Exception Unit}
    (handled : handleCredential platform world request protocol credential s = (answer, t)) :
    (answer ≠ .error (.noPermission invalidCredentialCode) ∧ t.replyContexts = s.replyContexts) ∨
    (answer = .error (.noPermission invalidCredentialCode) ∧ ∃ conn caller valid u,
      authenticate platform world request protocol credential s = (.ok (conn, caller, valid), u) ∧
      ResetAnswered platform world protocol caller s.replyContexts t.replyContexts) := by
  have kept := authenticate_keeps_replies platform world request protocol credential s
  rcases authentic : authenticate platform world request protocol credential s with
    ⟨e | ⟨conn, caller, valid⟩, u⟩ <;> rw [authentic] at kept
  · rw [handleCredential_eq, Action.bind_apply_error authentic] at handled
    cases handled
    refine .inl ⟨?_, kept⟩
    rintro reset
    cases reset
    exact authenticate_spares (by decide) (by decide) (by decide) _ _ _ _ _ authentic .completedNo rfl
  have rest : Replies platform world protocol caller u.replyContexts t.replyContexts answer := by
    rw [handleCredential_eq, Action.bind_apply_ok authentic] at handled
    cases valid with
    | false => exact sendCredentialReset_replies handled
    | true =>
      simp only [if_true] at handled
      rcases validateChain_cases platform world protocol credential caller conn u with
        ⟨r, unchanged, causes⟩ | ⟨rfl, chain, login, e, t', -, -, -, sent, raised⟩
      · rw [Action.bind_apply, unchanged] at handled
        rcases r with e | accepted
        · cases handled
          refine .inl ⟨?_, rfl⟩
          rintro reset
          cases reset
          rcases causes _ rfl with fault | ⟨data, type, refused⟩
          · cases fault
          · exact spares_of_refused codec refused .completedNo rfl
        · cases accepted with
          | false =>
            cases handled
            exact .inl ⟨by simp [Exception.noPermission, invalidChainCode, invalidCredentialCode],
              rfl⟩
          | true =>
            cases handled
            exact .inl ⟨by simp, rfl⟩
      · rw [Action.bind_apply_error raised] at handled
        cases handled
        exact sendCredentialReset_replies sent
  rw [show u.replyContexts = s.replyContexts from kept] at rest
  rcases rest with unanswered | ⟨reset, answered⟩
  · exact .inl unanswered
  · exact .inr ⟨reset, conn, caller, valid, u, rfl, answered⟩

end Answers

/-- The test of a credential changes the tickets of sessions only. -/
theorem held_of_sessionsAfterCheck {protocol : Protocol} {credential : CredentialData}
    {sessions : LRUCache ULong Session} {id : ULong} {session : Session}
    (found : (sessionsAfterCheck platform request protocol credential sessions).find id =
      some session) :
    ∃ held, sessions.find id = some held ∧ session.secret = held.secret ∧
      session.remoteId = held.remoteId := by
  unfold sessionsAfterCheck at found
  cases named : sessions.find credential.session with
  | none =>
    rw [named] at found
    exact ⟨session, (LRUCache.find_fetch ..).symm.trans found, rfl, rfl⟩
  | some held =>
    simp only [named] at found
    split at found
    · rw [LRUCache.find_assign] at found
      split at found
      · next same =>
        subst same
        rw [LRUCache.find_fetch, named] at found
        cases found
        exact ⟨held, named, rfl, rfl⟩
      · exact ⟨session, (LRUCache.find_fetch ..).symm.trans found, rfl, rfl⟩
    · exact ⟨session, (LRUCache.find_fetch ..).symm.trans found, rfl, rfl⟩

/-- Nothing is known of what a clearing has removed. -/
theorem Meanwhile.find {cleared : Bool} {orb t : Orb} (meanwhile : Meanwhile cleared orb t)
    {id : ULong} {session : Session} (found : t.sessionLRUCache.find id = some session) :
    cleared = false ∧ orb.sessionLRUCache.find id = some session := by
  rw [meanwhile.sessions] at found
  cases cleared with
  | false => exact ⟨rfl, found⟩
  | true => cases found

theorem Granted.cons {history : List ServingEvent} {id : ULong} {session : Session}
    (granted : Granted platform history id session) {e : ServingEvent}
    (same : lastGrant id (e :: history) = lastGrant id history) :
    Granted platform (e :: history) id session := by
  obtain ⟨grant, asked, caller, last, grants, registered, secret, remote⟩ := granted
  exact ⟨grant, asked, caller, same.trans last, grants, registered.cons e, secret, remote⟩

theorem Known.meanwhile {history : List ServingEvent} {orb t : Orb} {cleared : Bool}
    (known : Known platform history orb) (passed : Meanwhile cleared orb t) :
    Known platform (.meanwhile cleared :: history) t := by
  constructor
  · intro ref cache id login cached found
    rcases passed.logins ref cache cached with rfl | before
    · rw [LoginCache.init, LRUCache.find_ofSize] at found
      cases found
    · exact (known.logins ref cache id login before found).cons _
  · intro id session found
    obtain ⟨rfl, before⟩ := passed.find found
    exact (known.sessions id session before).cons rfl

/-- The caller of a request whose credential has been tested is registered. -/
theorem registered_caller {history : List ServingEvent} {h : Handled} {cleared : Bool}
    (met : h.world = world)
    {s d : Dispatch} {credential : CredentialData} {ref : ConnRef} {caller : Login}
    {after : LoginCache}
    (logins : ∀ cache id login, (d.orb.connections ref).loginCache = some cache →
      cache.find id = some login → Registered platform history id login)
    (dispatched : Dispatched platform world request credential s d ref caller after) :
    Registered platform (.handled h cleared :: history) credential.login caller := by
  obtain ⟨cache, cached, validated⟩ := dispatched.validated
  obtain ⟨login, located, rfl, -⟩ := LoginCache.returned_cases
    (congrArg Prod.fst validated :
      (LoginCache.validateLogin platform world.registry credential.login cache).1 = _)
  rcases located_vouched located h met with found | vouched
  · obtain ⟨earlier, mem, vouched⟩ := (logins cache _ _ cached found).cons (.handled h cleared)
    exact ⟨earlier, mem, vouched_refreshed vouched⟩
  · exact ⟨h, List.mem_cons_self, vouched_refreshed vouched⟩

/-- What is cached of a login after a request was cached before, or has been answered in it. -/
theorem registered_handled {history : List ServingEvent} {h : Handled} {cleared : Bool}
    (met : h.world = world) {called : Orb} {credential : CredentialData}
    {connections : ConnRef → Connection}
    (logins : ∀ ref cache id login, (called.connections ref).loginCache = some cache →
      cache.find id = some login → Registered platform history id login)
    (validated : Validated platform world credential called connections) {ref : ConnRef}
    {cache : LoginCache} {id : Identifier} {login : Login}
    (cached : (connections ref).loginCache = some cache) (found : cache.find id = some login) :
    Registered platform (.handled h cleared :: history) id login := by
  rcases validated with rfl | ⟨conn, asked, before, rfl⟩
  · exact (logins ref cache id login cached found).cons _
  by_cases same : ref = conn
  · subst same
    simp only [Orb.setLoginCache, Orb.updateConnection, Function.update_self,
      Option.some.injEq] at cached
    subst cached
    rcases LoginCache.find_validateLogin found with ⟨rfl, record, located, rfl⟩ | ⟨-, present⟩
    · rcases located_vouched located h met with present | vouched
      · obtain ⟨earlier, mem, vouched⟩ :=
          (logins ref asked _ _ before present).cons (.handled h cleared)
        exact ⟨earlier, mem, vouched_refreshed vouched⟩
      · exact ⟨h, List.mem_cons_self, vouched_refreshed vouched⟩
    · exact (logins ref asked id login before present).cons _
  · rw [Orb.setLoginCache, Orb.connections_updateConnection_of_ne same] at cached
    exact (logins ref cache id login cached found).cons _

theorem getCredential_ne_reset (codec : platform.CodecRefuses) {protocol : Protocol}
    {e : Exception} (refused : getCredential platform request protocol = .error e) :
    e ≠ .noPermission invalidCredentialCode := by
  unfold getCredential at refused
  split at refused
  · cases refused
    simp [Exception.noPermission, noCredentialCode, invalidCredentialCode]
  · next data _ =>
    cases decoded : platform.decodeValue data (.credentialData protocol) with
    | ok any =>
      simp only [decoded] at refused
      cases refused
    | error e' =>
      simp only [decoded] at refused
      rcases codec _ _ _ decoded with rfl | rfl <;> cases refused <;> simp [Exception.noPermission]

/-- A session that a request has not created is known as before. -/
theorem Granted.handled {history : List ServingEvent} {cleared : Bool} {id : ULong}
    {held session : Session} (granted : Granted platform (.meanwhile cleared :: history) id held)
    {h : Handled}
    (other : ¬ (h.answer = .error (.noPermission invalidCredentialCode) ∧ h.world.sessionId = id))
    (secret : session.secret = held.secret) (remote : session.remoteId = held.remoteId) :
    Granted platform (.handled h cleared :: history) id session := by
  obtain ⟨grant, asked, caller, last, grants, registered, secret', remote'⟩ := granted
  exact ⟨grant, asked, caller, (if_neg other).trans last, grants,
    (registered_meanwhile.mp registered).cons _,
    secret.trans secret', remote.trans remote'⟩

theorem Known.logins_called {history : List ServingEvent} {orb : Orb} {cleared : Bool}
    (known : Known platform history orb)
    (called : Meanwhile cleared orb (calledState platform world request orb))
    {credential : CredentialData}
    (present : getCredential platform request (judged request) = .ok credential) (ref : ConnRef)
    (cache : LoginCache) (id : Identifier) (login : Login)
    (cached : ((callbackState world request credential (.arrival orb)).orb.connections
      ref).loginCache = some cache) (found : cache.find id = some login) :
    Registered platform history id login := by
  have before := known.meanwhile called
  simp only [calledState, present] at before
  exact registered_meanwhile.mp (before.logins ref cache id login cached found)

/-- A request is answered discreetly. -/
theorem Known.discreet_handled (codec : platform.CodecRefuses) {history : List ServingEvent}
    {orb : Orb} {cleared : Bool} {answer : Except Exception Unit} {t : Dispatch}
    (known : Known platform history orb)
    (called : Meanwhile cleared orb (calledState platform world request orb))
    (received : receiveRequestServiceContexts platform world request (.arrival orb) = (answer, t)) :
    Discreet platform (.handled ⟨world, request, orb, answer, t⟩ cleared :: history)
      ⟨world, request, orb, answer, t⟩ := by
  obtain ⟨refused, -, -, rfl⟩ | ⟨credential, present, handled⟩ := received_cases codec received
  · exact .inl rfl
  rcases handleCredential_replies codec handled with
    ⟨-, same⟩ | ⟨-, conn, caller, valid, u, authentic, answered⟩
  · exact .inl same
  · obtain ⟨d, cached, dispatched, -, -⟩ := authenticate_ok_iff.mp authentic
    obtain ⟨⟨chosen, ran, -⟩, -, -, -⟩ := id dispatched
    obtain rfl : callbackState world request credential (.arrival orb) = d := congrArg Prod.snd ran
    exact .inr ⟨credential.login, caller, ⟨⟨credential, present, rfl⟩, answered⟩,
      registered_caller rfl (known.logins_called called present conn) dispatched⟩

theorem Known.handled (codec : platform.CodecRefuses) {history : List ServingEvent} {orb : Orb}
    {cleared : Bool} {answer : Except Exception Unit} {t : Dispatch}
    (known : Known platform history orb)
    (called : Meanwhile cleared orb (calledState platform world request orb))
    (received : receiveRequestServiceContexts platform world request (.arrival orb) = (answer, t))
    (continues : answer ≠ .error .fault) :
    Known platform (.handled ⟨world, request, orb, answer, t⟩ cleared :: history) t.orb := by
  have before := known.meanwhile called
  obtain ⟨refused, present, rfl, rfl⟩ | ⟨credential, present, handled⟩ :=
    received_cases codec received
  · have unchanged : calledState platform world request orb = orb := by
      simp only [calledState, present]
    rw [unchanged] at before
    refine ⟨fun ref cache id login cached found =>
      (known.logins ref cache id login cached found).cons _, fun id session found => ?_⟩
    refine (before.sessions id session found).handled ?_ rfl rfl
    rintro ⟨reset, -⟩
    cases reset
    exact getCredential_ne_reset codec present rfl
  have state : calledState platform world request orb =
      (callbackState world request credential (.arrival orb)).orb := by
    simp only [calledState, present]
  rw [state] at before
  have replies := handleCredential_replies codec handled
  have logins := known.logins_called called present
  constructor
  · intro ref cache id login cached found
    have validated : Validated platform world credential
        (callbackState world request credential (.arrival orb)).orb t.orb.connections := by
      have after := validated_handleCredential platform world request (judged request) credential
        (.arrival orb)
      rwa [handled] at after
    exact registered_handled (h := ⟨world, request, orb, answer, t⟩) rfl logins validated cached
      found
  intro id session found
  rcases handleCredential_sessions platform world request (judged request) credential
    (.arrival orb) with ⟨e, t', failed, raised, same⟩ |
      ⟨ref, caller, valid, u, r, t', authentic, -, tested, -, -⟩
  · cases raised.symm.trans handled
    have found : t.sessions.find id = some session := found
    rw [same, Dispatch.sessions] at found
    refine (before.sessions id session found).handled ?_ rfl rfl
    rintro ⟨reset, -⟩
    cases reset
    exact authenticate_spares (by decide) (by decide) (by decide) _ _ _ _ _ failed .completedNo rfl
  · have after := sessions_of_authentic codec authentic handled continues
    have found : t.sessions.find id = some session := found
    have kept (present : u.sessions.find id = some session)
        (other : ¬ (answer = .error (.noPermission invalidCredentialCode) ∧ world.sessionId = id)) :
        Granted platform (.handled ⟨world, request, orb, answer, t⟩ cleared :: history) id
          session := by
      rw [tested] at present
      obtain ⟨held, present, secret, remote⟩ := held_of_sessionsAfterCheck present
      rw [Dispatch.sessions] at present
      exact (before.sessions id held present).handled other secret remote
    rw [after] at found
    rcases replies with ⟨unrefused, -⟩ | ⟨reset, conn, caller', valid', u', authentic', answered⟩
    · rw [if_neg unrefused] at found
      exact kept found fun both => unrefused both.1
    · rw [if_pos reset] at found
      obtain ⟨rfl, rfl, rfl, rfl⟩ : conn = ref ∧ caller' = caller ∧ valid' = valid ∧ u' = u := by
        have same := authentic'.symm.trans authentic
        simpa [and_assoc] using same
      rcases LRUCache.find_insert_cases found with ⟨rfl, rfl⟩ | ⟨differ, present⟩
      · obtain ⟨d, cached, dispatched, -, -⟩ := authenticate_ok_iff.mp authentic
        obtain ⟨⟨chosen, ran, -⟩, -, -, -⟩ := id dispatched
        obtain rfl : callbackState world request credential (.arrival orb) = d :=
          congrArg Prod.snd ran
        refine ⟨⟨world, request, orb, answer, t⟩, credential.login, caller', if_pos ⟨reset, rfl⟩,
          ⟨⟨credential, present, rfl⟩, answered⟩, ?_, rfl, rfl⟩
        exact registered_caller rfl (logins conn) dispatched
      · exact kept present fun both => differ both.2.symm

/-- What is known holds in every state that a process reaches. -/
theorem known (codec : platform.CodecRefuses) {history : List ServingEvent} {orb : Orb}
    (run : Run (servingMachine platform) history orb) : Known platform history orb := by
  apply run.invariant (Known platform)
  · rintro orb ⟨fresh, empty⟩
    constructor
    · intro ref cache id login cached found
      rw [empty ref cache cached, LoginCache.init, LRUCache.find_ofSize] at found
      cases found
    · intro id session found
      rw [fresh, LRUCache.find_ofSize] at found
      cases found
  · rintro past orb e t - before step
    cases step with
    | handled called received continues => exact before.handled codec called received continues
    | meanwhile passed => exact before.meanwhile passed

/-- Every request of a run is answered discreetly. -/
theorem discreet (codec : platform.CodecRefuses) {history : List ServingEvent} {orb : Orb}
    (run : Run (servingMachine platform) history orb) :
    ∀ h ∈ history.filterMap handledOf, Discreet platform history h := by
  apply run.invariant fun history _ => ∀ h ∈ history.filterMap handledOf, Discreet platform history h
  · rintro orb - h ⟨⟩
  · intro past orb e t run earlier step h mem
    have later (mem : h ∈ past.filterMap handledOf) : Discreet platform (e :: past) h :=
      (earlier h mem).imp_right fun ⟨asked, caller, grants, registered⟩ =>
        ⟨asked, caller, grants, registered.cons e⟩
    cases step with
    | handled called received continues =>
      rcases List.mem_cons.mp mem with rfl | before
      · exact (known codec run).discreet_handled codec called received
      · exact later before
    | meanwhile passed => exact later mem

/-- What is met by the credential of a request that is accepted. -/
theorem accepts_of_received (codec : platform.CodecRefuses) {orb : Orb} {t : Dispatch}
    (received : receiveRequestServiceContexts platform world request (.arrival orb) = (.ok (), t)) :
    ∃ credential ref caller after,
      getCredential platform request (judged request) = .ok credential ∧
      Accepts platform world request (judged request) credential (.arrival orb)
        (callbackState world request credential (.arrival orb)) ref caller after := by
  obtain ⟨refused, -, impossible, -⟩ | ⟨credential, present, handled⟩ :=
    received_cases codec received
  · cases impossible
  · obtain ⟨d, ref, caller, after, accepts, -⟩ := handleCredential_ok_iff.mp handled
    obtain ⟨⟨⟨chosen, ran, -⟩, -, -, -⟩, -, -⟩ := id accepts
    obtain rfl : callbackState world request credential (.arrival orb) = d := congrArg Prod.snd ran
    exact ⟨credential, ref, caller, after, present, accepts⟩

/-- A request that is accepted, anywhere in a run, has been hashed with the secret of the last
session created under its number and not cleared since. The answer of the request which has created
it has that secret, encrypted with a key which the registry has given for the login that the request
names, and no answer of the run has a secret in any other way. -/
theorem accepted_knows_secret (codec : platform.CodecRefuses) {history past : List ServingEvent}
    {orb : Orb} {h : Handled} {cleared : Bool}
    (run : Run (servingMachine platform) history orb)
    (suffix : .handled h cleared :: past <:+ history) (accepted : h.answer = .ok ()) :
    ∃ credential grant asked caller,
      getCredential platform h.request (judged h.request) = .ok credential ∧
      lastGrant credential.session past = some grant ∧ Grants platform grant asked caller ∧
      Registered platform past asked caller ∧ caller.loginInfo.id = credential.login ∧
      hash platform (judged h.request) h.request.operation credential.ticket grant.world.secret =
        credential.hash ∧
      ∀ other ∈ history.filterMap handledOf, Discreet platform history other := by
  have others := discreet codec run
  obtain ⟨t, reached⟩ := run.of_suffix suffix
  cases reached with
  | step run step =>
    have before := known codec run
    cases step with
    | @handled world request _ _ t called received _ =>
      obtain rfl := accepted
      obtain ⟨credential, ref, caller, after, present, -, session, -⟩ :=
        accepts_of_received codec received
      obtain ⟨held, found, remote, hashed, -⟩ := session
      rw [sessions_calledState world present] at found
      obtain ⟨rfl, found⟩ := called.find found
      obtain ⟨grant, asked, caller, last, grants, registered, secret, login⟩ :=
        before.sessions _ held found
      exact ⟨credential, grant, asked, caller, present, last, grants, registered,
        login.symm.trans remote, secret ▸ hashed, others⟩

namespace Reference

/-- A call of the login `c` over the session that its first request has been answered with. -/
def called : Handled := handledRequest environment (credential (ascii "S")) served

theorem run_called : Run (servingMachine referencePlatform)
    [.handled called false, .handled greeted false] (dispatched (ascii "S")).orb := by
  have passed : ServingStep referencePlatform served (.handled called false)
      (dispatched (ascii "S")).orb := by
    rw [dispatched]
    exact step_handled environment (credential (ascii "S")) served rfl (by decide +kernel)
  exact run_greeted.step passed

end Reference

open Reference in
theorem accepted_knows_secret_called :
    ∃ credential grant asked caller,
      getCredential referencePlatform called.request (judged called.request) = .ok credential ∧
      lastGrant credential.session [.handled greeted false] = some grant ∧
      Grants referencePlatform grant asked caller ∧
      Registered referencePlatform [.handled greeted false] asked caller ∧
      caller.loginInfo.id = credential.login ∧
      hash referencePlatform (judged called.request) called.request.operation credential.ticket
        grant.world.secret = credential.hash ∧
      ∀ other ∈ [called, greeted],
        Discreet referencePlatform [.handled called false, .handled greeted false] other :=
  accepted_knows_secret ReferencePlatform.codecRefuses run_called (List.suffix_refl _)
    (by decide +kernel)

end ServerInterceptor

end OpenBus
