import OpenBus.Soundness.CachePlaces
import OpenBus.Soundness.CredentialNames
import OpenBus.Soundness.ServerVerdict

/-! # The credential handshake

A request that fails the session test is answered with a new session, which both sides cache;
the retransmitted request then finds it and passes. The handshake completes as long as each of
the three caches it goes through has a place left, and never again afterwards.
-/

namespace OpenBus

open Machine ClientInterceptor ServerInterceptor

namespace Handshake

/-- What is encrypted with the public key of a client is read with its private key. -/
def KeyPair (platform : Platform) (pubKey : PublicKey) (key : PrivateKey) : Prop :=
  ∀ nonce (secret : Secret) (challenge : EncryptedBlock),
    memcpy 256 (platform.encrypt pubKey nonce secret.toList) = .ok challenge →
      platform.decrypt key challenge.toList = .ok secret.toList

/-- A client, logged in as the server knows it, that waits for the reply to a request. -/
structure HonestClient (platform : Platform) (ref : ConnRef) (caller : Login) (client : Orb) :
    Prop where
  attends : ignoreRequest client = false
  saved : ∃ id, (client.piCurrent .requestId).toUuid? = some id ∧ id ≠ .replicate 16 0 ∧
    client.requestId2conn id = some ref
  current : (getCurrentConnection client).1 = .ok ref
  unscoped : LoginInfo.equal default (login client) = true
  logged : ∃ info, (client.connections ref).loginInfo = some info ∧ info.id ≠ [] ∧
    info.id = caller.loginInfo.id
  keyPair : KeyPair platform caller.pubKey (client.connections ref).key

/-- A request that fails the session test of a server, and is answered with a reset. -/
structure Refused (platform : Platform) (world : ServerWorld) (request : ServerRequest)
    (server : Orb) (conn : ConnRef) (caller : Login) (d : Dispatch) : Prop where
  failed : ∃ credential u, getCredential platform request (judged request) = .ok credential ∧
    authenticate platform world request (judged request) credential (Dispatch.arrival server) =
      (.ok (conn, caller, false), u)
  answered : receiveRequestServiceContexts platform world request (Dispatch.arrival server) =
    (.error (.noPermission invalidCredentialCode), d)
  /-- The bus grants no login with an empty identifier. -/
  identified : ∀ info, (d.orb.connections conn).loginInfo = some info → info.id ≠ []

/-- The callback of a dispatch leaves the sessions alone. -/
def CallbackQuiet (world : ServerWorld) : Prop :=
  ∀ callback, world.onCallDispatch = some callback →
    ∀ bus login operation, Action.Keeps Orb.sessionLRUCache (callback bus login operation)

/-- A chain of version 2.0 is addressed to the server, as the bus signs it for the server's login. -/
def Addressed (platform : Platform) (world : ServerWorld) (request : ServerRequest)
    (s : Dispatch) : Prop :=
  ∀ credential conn caller valid u chain info,
    getCredential platform request .legacy = .ok credential →
    authenticate platform world request .legacy credential s = (.ok (conn, caller, valid), u) →
    Orb.decodeLegacyChainData platform credential.chain = .ok chain →
    (u.orb.connections conn).loginInfo = some info → chain.target = info.entity

/-- The reply which carries a reset back to the client. -/
def resetReply (d : Dispatch) : ExceptionReply :=
  ⟨.noPermission, invalidCredentialCode, .completedNo, d.replyContexts⟩

/-- A request as the server sees it. -/
def received (request : ClientRequest) (t : Invocation) : ServerRequest :=
  ⟨request.operation, t.contexts⟩

/-- The retransmitted request finds the new session on both sides, passes the tests of session,
login, hash and ticket, and is not answered with another reset. -/
structure Completes (platform : Platform) (ref : ConnRef) (request : ClientRequest)
    (world again : ServerWorld) (caller : Login) (d : Dispatch) (client : Orb) (t : Invocation) :
    Prop where
  found : ∃ key session, (getSession platform request ref client).1 = .ok (some (key, session)) ∧
    session.id = world.sessionId ∧ session.secret = world.secret
  kept : d.sessions.find world.sessionId = some (Session.init world caller.loginInfo.id)
  accepted : ∃ protocol credential,
    received request t = carrying platform request.operation protocol credential ∧
      credential.session = world.sessionId ∧
      SessionAccepts platform (received request t) protocol credential d.sessions
  passed : (receiveRequestServiceContexts platform again (received request t)
    (Dispatch.arrival d.orb)).1 ≠ .error (.noPermission invalidCredentialCode)

variable {platform : Platform} {ref : ConnRef} {request : ClientRequest}

/-- The session which a reset offers to the client. -/
def offered (protocol : Protocol) (world : ServerWorld) (info : LoginInfo) : SecretSession where
  id := world.sessionId
  remoteId := info.id
  entity := match protocol with
    | .current => info.entity
    | .legacy => []
  secret := world.secret
  ticket := 0
  isLegacy := protocol = .legacy

/-- The client reads out of a reset what the server has put into it. -/
theorem resetSession_answer (inverts : platform.CodecInverts) {world : ServerWorld}
    {protocol : Protocol} {caller : Identifier} {info : LoginInfo} {challenge : EncryptedBlock}
    {key : PrivateKey} (decrypted : platform.decrypt key challenge.toList = .ok world.secret.toList) :
    resetSession platform key (Function.update (fun _ => none) protocol.credentialContextId
      (some (platform.encodeValue
        (credentialReset protocol (Session.init world caller) info challenge)))) =
      .ok (offered protocol world info) := by
  have current (reset : CredentialReset) := inverts (.credentialReset reset)
  have legacy (reset : LegacyCredentialReset) := inverts (.legacyCredentialReset reset)
  simp only [Any.type] at current legacy
  cases protocol with
  | current =>
    have read : currentReset platform key (Function.update (fun _ => none)
        Protocol.current.credentialContextId (some (platform.encodeValue
          (credentialReset .current (Session.init world caller) info challenge)))) =
        .ok (offered .current world info) := by
      simp only [currentReset, Function.update_self, credentialReset, current,
        Any.extractCredentialReset, bind, Except.bind, pure, Except.pure, decrypted,
        memcpy_toList]
      rfl
    rw [resetSession, read]
  | legacy =>
    have absent : currentReset platform key (Function.update (fun _ => none)
        Protocol.legacy.credentialContextId (some (platform.encodeValue
          (credentialReset .legacy (Session.init world caller) info challenge)))) =
        .error (.system .badParam 0 .completedNo) := rfl
    have read : legacyReset platform key (Function.update (fun _ => none)
        Protocol.legacy.credentialContextId (some (platform.encodeValue
          (credentialReset .legacy (Session.init world caller) info challenge)))) =
        .ok (offered .legacy world info) := by
      simp only [legacyReset, Function.update_self, credentialReset, legacy,
        Any.extractLegacyCredentialReset, bind, Except.bind, pure, Except.pure, decrypted,
        memcpy_toList]
      rfl
    rw [resetSession, absent, read]

/-- The client once it has cached a session. -/
def installed (platform : Platform) (request : ClientRequest) (ref : ConnRef)
    (session : SecretSession) (client : Orb) : Orb :=
  let client := client.setProfile2login ref
    ((client.connections ref).profile2login.insert (sessionKey platform request) session.remoteId)
  client.setLogin2session ref
    ((client.connections ref).login2session.insert session.remoteId session)

/-- The client once it has forgotten the request whose reply has arrived. -/
def forgotten (id : Uuid) (client : Orb) : Orb :=
  { client with requestId2conn := Function.update client.requestId2conn id none }

theorem connections_installed (session : SecretSession) (client : Orb) :
    (installed platform request ref session client).connections ref =
      { client.connections ref with
        profile2login := (client.connections ref).profile2login.insert
          (sessionKey platform request) session.remoteId
        login2session := (client.connections ref).login2session.insert session.remoteId session } := by
  simp [installed, Orb.setLogin2session, Orb.setProfile2login, Orb.updateConnection]

/-- A reply to a request that has been sent is told by its status and its minor code. -/
theorem receiveException_of_saved {world : ClientWorld} {reply : ExceptionReply} {id : Uuid}
    {client : Orb} (attends : ignoreRequest client = false)
    (saved : (client.piCurrent .requestId).toUuid? = some id) (named : id ≠ .replicate 16 0)
    (found : client.requestId2conn id = some ref) :
    receiveException platform world request reply client =
      (if reply.completed ≠ .completedNo then pure ()
        else if reply.minor = invalidCredentialCode then
          installSession platform request ref reply.contexts
        else if reply.minor = invalidLoginCode then checkLogin world ref
        else if reply.minor = noLoginCode ∨ reply.minor = unavailableBusCode ∨
            reply.minor = invalidTargetCode ∨ reply.minor = invalidRemoteCode then
          throw (.noPermission invalidRemoteCode)
        else throw reply.exception : Action Orb Exception Unit) (forgotten id client) := by
  simp only [receiveException, Action.bind_apply, Action.get_apply, attends, Bool.false_eq_true,
    if_false, saved, named, found, Action.modify_apply]
  rfl

/-- A reset is met by the reaction to it. -/
theorem receiveException_invalidCredential {world : ClientWorld} {contexts : ServiceContexts}
    {id : Uuid} {client : Orb} (attends : ignoreRequest client = false)
    (saved : (client.piCurrent .requestId).toUuid? = some id) (named : id ≠ .replicate 16 0)
    (found : client.requestId2conn id = some ref) :
    receiveException platform world request
        ⟨.noPermission, invalidCredentialCode, .completedNo, contexts⟩ client =
      installSession platform request ref contexts (forgotten id client) := by
  rw [receiveException_of_saved attends saved named found]
  simp only [ne_eq, not_true_eq_false, if_false, if_true]

/-- The reaction to a reset: the session is cached and the request is to be sent again. -/
theorem receiveException_reset {world : ClientWorld} {contexts : ServiceContexts} {id : Uuid}
    {client : Orb} {session : SecretSession} (attends : ignoreRequest client = false)
    (saved : (client.piCurrent .requestId).toUuid? = some id) (named : id ≠ .replicate 16 0)
    (found : client.requestId2conn id = some ref)
    (read : resetSession platform (client.connections ref).key contexts = .ok session) :
    receiveException platform world request
        ⟨.noPermission, invalidCredentialCode, .completedNo, contexts⟩ client =
      (.error .forwardRequest, installed platform request ref session (forgotten id client)) := by
  have same : resetSession platform ((forgotten id client).connections ref).key contexts =
      .ok session := read
  rw [receiveException_invalidCredential attends saved named found]
  simp only [installSession, Action.bind_apply, Action.get_apply, Action.ofExcept_apply, same]
  rfl

/-- The session is found if each of the two caches had a place for it. -/
theorem cachedSession_installed {session : SecretSession} (named : session.remoteId ≠ [])
    (client : Orb) :
    cachedSession platform request
        ((installed platform request ref session client).connections ref) =
      if 0 < (client.connections ref).profile2login.capacity ∧
          0 < (client.connections ref).login2session.capacity then
        some (session.remoteId, session) else none := by
  rw [connections_installed, cachedSession]
  simp only [LRUCache.find_insert_self]
  by_cases profiles : 0 < (client.connections ref).profile2login.capacity
  · simp only [profiles, if_true, true_and, Option.getD_some, if_neg named,
      LRUCache.find_insert_self]
    split <;> rfl
  · simp [profiles]

/-- The connection of a request does not depend on the session caches. -/
theorem getCurrentConnection_installed (session : SecretSession) (client : Orb) (id : Uuid) :
    (getCurrentConnection (installed platform request ref session (forgotten id client))).1 =
      (getCurrentConnection client).1 := by
  rw [getCurrentConnection_fst, getCurrentConnection_fst]
  rfl

/-- A request that is sent over a cached session carries one credential, with the next ticket. -/
theorem received_of_cachedSession {world : ClientWorld} {client : Orb} {t : Invocation}
    {info : LoginInfo} {key : Identifier} {session : SecretSession}
    (attends : ignoreRequest client = false)
    (current : (getCurrentConnection client).1 = .ok ref)
    (unscoped : LoginInfo.equal default (login client) = true)
    (logged : (client.connections ref).loginInfo = some info) (identified : info.id ≠ [])
    (cached : cachedSession platform request (client.connections ref) = some (key, session))
    (sent : sendRequest platform world request ⟨client, fun _ => none⟩ = (.ok (), t)) :
    ∃ protocol bus chain, received request t = carrying platform request.operation protocol
      ⟨bus, info.id, session.id, session.ticket + 1,
        hash platform protocol request.operation (session.ticket + 1) session.secret, chain⟩ := by
  obtain ⟨other, found, info', after, u, chose, logging, -, attached, rfl⟩ :=
    (sendRequest_ok_iff attends).mp sent
  obtain rfl : ref = other := Except.ok.inj (current.symm.trans (congrArg Prod.fst chose))
  obtain ⟨id2conn, same⟩ := getCurrentConnection_snd client
  obtain rfl : found = { client with id2conn := id2conn } := by rw [← same, chose]
  have unscoped : LoginInfo.equal default (login { client with id2conn := id2conn }) = true := unscoped
  rw [currLogin_of_logged unscoped logged identified] at logging
  cases logging
  obtain ⟨found, orb, chain, searched, -, rest⟩ := attachCredential_ok_iff.mp attached
  have hit := getSession_fst platform request ref { client with id2conn := id2conn }
  rw [searched, cached] at hit
  cases hit
  obtain ⟨credential, final, filled, rfl⟩ := rest
  obtain ⟨signedChain, -, rfl⟩ := sessionCredential_ok_iff.mp filled
  exact ⟨usedProtocol session chain, _, signedChain, rfl⟩

/-- A new session accepts the first ticket. -/
theorem ticketsCheck_init (world : ServerWorld) (caller : Identifier) :
    ((Session.init world caller).tickets.ticketsCheck 1).1 = true :=
  (TicketsHistory.ticketsCheck_accepts _ _).mpr
    (TicketsHistory.not_taken_ticketsInit _ _)

theorem Refused.answered_reset (refuses : platform.CodecRefuses) {world : ServerWorld}
    {request : ServerRequest} {server : Orb} {conn : ConnRef} {caller : Login} {d : Dispatch}
    (refused : Refused platform world request server conn caller d) :
    ∃ credential u,
      authenticate platform world request (judged request) credential (Dispatch.arrival server) =
        (.ok (conn, caller, false), u) ∧
      sendCredentialReset platform world (judged request) conn caller u =
        (.error (.noPermission invalidCredentialCode), d) := by
  obtain ⟨credential, u, got, failed⟩ := refused.failed
  have received := refused.answered
  rw [receiveRequestServiceContexts_eq refuses, receiveCredential_eq, got] at received
  exact ⟨credential, u, failed, (Action.bind_apply_ok failed).symm.trans received⟩

/-- What a refusal leaves behind: the session is in the answer, and in the cache if that had a
place for it. -/
theorem Refused.reset (refuses : platform.CodecRefuses) {world : ServerWorld}
    {request : ServerRequest} {server : Orb} {conn : ConnRef} {caller : Login} {d : Dispatch}
    (refused : Refused platform world request server conn caller d) :
    ∃ info challenge, info.id ≠ [] ∧
      memcpy 256 (platform.encrypt caller.pubKey world.nonce world.secret.toList) = .ok challenge ∧
      d.replyContexts = Function.update (fun _ => none) (judged request).credentialContextId
        (some (platform.encodeValue (credentialReset (judged request)
          (Session.init world caller.loginInfo.id) info challenge))) ∧
      d.sessions.find world.sessionId = if 0 < d.sessions.capacity then
        some (Session.init world caller.loginInfo.id) else none := by
  obtain ⟨credential, u, failed, answered⟩ := refused.answered_reset refuses
  obtain ⟨info, challenge, present, copied, contexts⟩ := sendCredentialReset_answer answered
  obtain ⟨e, t, raised, -, orb, -⟩ :=
    sendCredentialReset_spec platform world (judged request) conn caller u
  obtain rfl : t = d := (Prod.mk.inj (raised.symm.trans answered)).2
  have sessions : t.sessions =
      u.sessions.insert world.sessionId (Session.init world caller.loginInfo.id) :=
    congrArg Orb.sessionLRUCache orb
  refine ⟨info, challenge, refused.identified info (by rw [orb]; exact present), copied, ?_, ?_⟩
  · rw [contexts, authenticate_replyContexts failed]
    rfl
  · rw [sessions, LRUCache.find_insert_self, LRUCache.capacity_insert]

theorem sessions_callbackState {world : ServerWorld} (quiet : CallbackQuiet world)
    (request : ServerRequest) (credential : CredentialData) (s : Dispatch) :
    (callbackState world request credential s).sessions = s.sessions := by
  have kept : Action.Keeps Dispatch.sessions
      (callDispatch world request credential.bus credential.login) :=
    callDispatch_keeps _ _ fun callback registered bus login operation s =>
      quiet callback registered bus login operation s.orb
  exact kept s

/-- A refusal is a run of the machine: the dispatch, the test and the reset. -/
theorem Refused.run (refuses : platform.CodecRefuses) {world : ServerWorld}
    (quiet : CallbackQuiet world) {request : ServerRequest} {client server : Orb} {conn : ConnRef}
    {caller : Login} {d : Dispatch} (refused : Refused platform world request server conn caller d)
    {history : List HandshakeEvent}
    (before : Run (handshakeMachine platform ref) history (client, server)) :
    Run (handshakeMachine platform ref) (.reset :: .check :: .other :: history)
      (client, d.orb) := by
  obtain ⟨credential, u, failed, answered⟩ := refused.answered_reset refuses
  obtain ⟨e, after, ⟨⟨chosen, called, -⟩, -, -, -⟩, -, rfl⟩ := authenticate_ok_iff.mp failed
  have sessions : e.sessions = server.sessionLRUCache := by
    have kept := sessions_callbackState quiet request credential (Dispatch.arrival server)
    rwa [callbackState, called] at kept
  let validated := (saveDispatcherConnection world conn e).updateOrb (Orb.setLoginCache conn after)
  have dispatched : Run (handshakeMachine platform ref) (.other :: history)
      (client, validated.orb) := by
    refine before.step (.other rfl rfl ?_)
    change validated.sessions = _
    rw [sessions_updateOrb_setLoginCache, sessions_saveDispatcherConnection, sessions]
  obtain ⟨accepted, checked, -⟩ :=
    checkSession_spec platform request (judged request) credential validated
  have tested := dispatched.step (.check request (judged request) credential)
  rw [checked] at tested
  have reset := tested.step (.reset _ world (judged request) conn caller)
  have same : validated.sessions = e.sessions := by
    rw [sessions_updateOrb_setLoginCache, sessions_saveDispatcherConnection]
  rw [same] at reset
  change sendCredentialReset platform world (judged request) conn caller
    (validated.setSessions (sessionsAfterCheck platform request (judged request) credential
      e.sessions)) = _ at answered
  rwa [answered] at reset

/-- A credential that the session test accepts is not answered with a reset. -/
theorem not_reset_of_accepts (inverts : platform.CodecInverts) (refuses : platform.CodecRefuses)
    {world : ServerWorld} (quiet : CallbackQuiet world) {operation : Identifier}
    {protocol : Protocol} {credential : CredentialData} {s : Dispatch}
    (addressed : Addressed platform world (carrying platform operation protocol credential) s)
    (accepts : SessionAccepts platform (carrying platform operation protocol credential) protocol
      credential s.sessions) :
    (receiveRequestServiceContexts platform world
      (carrying platform operation protocol credential) s).1 ≠
        .error (.noPermission invalidCredentialCode) := by
  rw [receiveRequestServiceContexts_carrying inverts refuses]
  intro refused
  rcases judging : handleCredential platform world
    (carrying platform operation protocol credential) protocol credential s with ⟨r, t⟩
  rw [judging] at refused
  subst refused
  rcases Action.bind_error_iff.mp judging with failed | ⟨⟨conn, caller, valid⟩, u, authentic, rest⟩
  · exact authenticate_spares (by decide) (by decide) (by decide) _ _ _ _ _ failed _ rfl
  obtain ⟨d, after, ⟨⟨chosen, called, -⟩, -, -, -⟩, verdict, -⟩ := authenticate_ok_iff.mp authentic
  have sessions : d.sessions = s.sessions := by
    rw [← sessions_callbackState quiet (carrying platform operation protocol credential) credential s]
    exact congrArg (fun run => run.2.sessions) called.symm
  obtain rfl : valid = true := verdict.mpr (by rwa [sessions])
  rcases Action.bind_error_iff.mp rest with chained | ⟨accepted, v, -, last⟩
  · obtain ⟨rfl, chain, info, decoded, present, other⟩ := validateChain_reset refuses chained
    exact other (addressed credential conn caller true u chain info
      (getCredential_carrying inverts _ _ _) authentic decoded present)
  · cases accepted with
    | false => exact absurd (Except.error.inj (Prod.mk.inj last).1) (by decide)
    | true => cases last

/-- The handshake completes exactly if none of the three caches has lost all its places. -/
theorem handshake_completes_iff (inverts : platform.CodecInverts) (refuses : platform.CodecRefuses)
    {history : List HandshakeEvent} {client server : Orb} {d : Dispatch} {world : ServerWorld}
    {incoming : ServerRequest} {conn : ConnRef} {caller : Login}
    (run : Run (handshakeMachine platform ref) history (client, d.orb))
    (refused : Refused platform world incoming server conn caller d)
    (honest : HonestClient platform ref caller client) (handler resend : ClientWorld) :
    (receiveException platform handler request (resetReply d) client).1 = .error .forwardRequest ∧
    ∀ (t : Invocation) (again : ServerWorld),
      sendRequest platform resend request
        ⟨(receiveException platform handler request (resetReply d) client).2, fun _ => none⟩ =
          (.ok (), t) →
      CallbackQuiet again →
      Addressed platform again (received request t) (Dispatch.arrival d.orb) →
      (Completes platform ref request world again caller d
          (receiveException platform handler request (resetReply d) client).2 t ↔
        lostProfiles history < 128 ∧ lostLogins history < 128 ∧ lostSessions history < 128) := by
  obtain ⟨info, challenge, identified, copied, contexts, kept⟩ := refused.reset refuses
  obtain ⟨id, saved, named, remembered⟩ := honest.saved
  have processed : receiveException platform handler request (resetReply d) client =
      (.error .forwardRequest,
        installed platform request ref (offered (judged incoming) world info)
          (forgotten id client)) := by
    apply receiveException_reset honest.attends saved named remembered
    rw [contexts]
    exact resetSession_answer inverts (honest.keyPair _ _ _ copied)
  rw [processed]
  refine ⟨rfl, fun t again sent quiet addressed => ?_⟩
  have places := places_of_run run
  have profiles := places.profiles
  have logins := places.logins
  have sessions : d.sessions.capacity + lostSessions history = 128 := places.sessions
  dsimp only at profiles logins
  have cached : cachedSession platform request ((installed platform request ref
      (offered (judged incoming) world info) (forgotten id client)).connections ref) =
      if 0 < (client.connections ref).profile2login.capacity ∧
          0 < (client.connections ref).login2session.capacity then
        some (info.id, offered (judged incoming) world info) else none :=
    cachedSession_installed identified (forgotten id client)
  constructor
  · intro completes
    obtain ⟨key, session, found, -⟩ := completes.found
    rw [getSession_fst, cached] at found
    have places := completes.kept
    rw [kept] at places
    split at found
    · next free =>
      split at places
      · omega
      · cases places
    · cases found
  · rintro ⟨freeProfiles, freeLogins, freeSessions⟩
    rw [if_pos ⟨by omega, by omega⟩] at cached
    rw [if_pos (by omega)] at kept
    obtain ⟨login, logged, loginNamed, same⟩ := honest.logged
    have still : ((installed platform request ref (offered (judged incoming) world info)
        (forgotten id client)).connections ref).loginInfo = some login := by
      rw [connections_installed]
      exact logged
    obtain ⟨protocol, bus, chain, carried⟩ := received_of_cachedSession
      (show ignoreRequest (installed _ _ _ _ (forgotten id client)) = false from honest.attends)
      ((getCurrentConnection_installed _ _ _).trans honest.current) honest.unscoped still loginNamed
      cached sent
    have accepts : SessionAccepts platform (received request t) protocol
        ⟨bus, login.id, world.sessionId, 0 + 1,
          hash platform protocol request.operation (0 + 1) world.secret, chain⟩ d.sessions :=
      ⟨_, kept, same.symm, rfl, ticketsCheck_init world caller.loginInfo.id⟩
    refine ⟨⟨info.id, offered (judged incoming) world info, ?_, rfl, rfl⟩, kept,
      ⟨protocol, _, carried, rfl, accepts⟩, ?_⟩
    · exact (getSession_fst _ _ _ _).trans (congrArg Except.ok cached)
    · rw [carried] at addressed accepts ⊢
      exact not_reset_of_accepts inverts refuses quiet addressed accepts

namespace Reference

open ServerInterceptor.Reference (firstCredential handled requestOf)

/-- A client that has sent the first request of the login `c`. -/
def client : Orb := (ClientInterceptor.Reference.sent ClientInterceptor.Reference.first).orb

def caller : Login := ⟨⟨ascii "c", ascii "C"⟩, ⟨[3]⟩, 60, 0⟩

/-- A cache which has lost entries to clearing. -/
def cleared (lost : ℕ) : LRUCache ULong Session where
  list := ∅
  maxSize := 128
  currSize := min lost 128
  length_le := Nat.zero_le _
  currSize_le := Nat.min_le_right _ _

/-- A server whose sessions have been cleared. -/
def server (lost : ℕ) : Orb := ServerInterceptor.Reference.orb.setSessions (cleared lost)

def refusal (lost : ℕ) : Dispatch :=
  (handled ServerInterceptor.Reference.environment firstCredential (server lost)).2

/-- The history of a server that discards one session after the other. -/
def history : ℕ → List HandshakeEvent
  | 0 => []
  | lost + 1 => .other :: .serverLogout 1 :: .reset :: history lost

/-- The request once it is sent again. -/
def retransmitted (lost : ℕ) : Invocation :=
  (sendRequest referencePlatform ClientInterceptor.Reference.environment
    ClientInterceptor.Reference.call
    ⟨(receiveException referencePlatform ClientInterceptor.Reference.environment
      ClientInterceptor.Reference.call (resetReply (refusal lost)) client).2, fun _ => none⟩).2

theorem keyPair (pubKey : PublicKey) (key : PrivateKey) : KeyPair referencePlatform pubKey key := by
  intro nonce secret challenge copied
  have padded : (ReferencePlatform.pad 256 secret.toList) = challenge := by
    have copy := memcpy_toList (ReferencePlatform.pad 256 secret.toList)
    exact Except.ok.inj (copy.symm.trans copied)
  subst padded
  simp [referencePlatform, ReferencePlatform.pad, Vector.toList]

theorem honest : HonestClient referencePlatform 0 caller client where
  attends := by decide +kernel
  saved := ⟨.replicate 16 3, by decide +kernel, by decide, by decide +kernel⟩
  current := by decide +kernel
  unscoped := by decide +kernel
  logged := ⟨⟨ascii "c", ascii "C"⟩, by decide +kernel, by decide, rfl⟩
  keyPair := keyPair _ _

theorem refused (lost : ℕ) (answered : (handled ServerInterceptor.Reference.environment
      firstCredential (server lost)).1 = .error (.noPermission invalidCredentialCode))
    (failed : (authenticate referencePlatform ServerInterceptor.Reference.environment
      (requestOf firstCredential) .current firstCredential (.arrival (server lost))).1 =
        .ok (0, caller, false))
    (info : ((refusal lost).orb.connections 0).loginInfo = some ⟨ascii "s", ascii "S"⟩) :
    Refused referencePlatform ServerInterceptor.Reference.environment (requestOf firstCredential)
      (server lost) 0 caller (refusal lost) where
  failed := by
    have version : judged (requestOf firstCredential) = .current := judged_carrying _ _ _ _
    rw [version]
    exact ⟨firstCredential, _, getCredential_carrying ReferencePlatform.codecInverts _ _ _,
      Prod.ext failed rfl⟩
  answered := (ServerInterceptor.Reference.received _ _ _).trans
    (Prod.ext answered (by rw [refusal]))
  identified := by
    intro other present
    cases present.symm.trans info
    decide

theorem refused_fresh : Refused referencePlatform ServerInterceptor.Reference.environment
    (requestOf firstCredential) (server 0) 0 caller (refusal 0) :=
  refused 0 (by decide +kernel) (by decide +kernel) (by decide +kernel)

theorem refused_worn : Refused referencePlatform ServerInterceptor.Reference.environment
    (requestOf firstCredential) (server 128) 0 caller (refusal 128) :=
  refused 128 (by decide +kernel) (by decide +kernel) (by decide +kernel)

/-- A session created and discarded costs the cache one place. -/
theorem cleared_insert {lost : ℕ} (free : lost < 128) (id : ULong) (session : Session) :
    ((cleared lost).insert id session).clear = cleared (lost + 1) ∧
      ((cleared lost).insert id session).list.keys.length = 1 := by
  have absent : ((cleared lost).touch id).remove id = cleared lost := rfl
  have room : (cleared lost).currSize + 1 ≤ 128 := by
    simp only [cleared]
    omega
  have pushed : (LRUCache.evict 128 ((cleared lost).currSize + 1)
      ((cleared lost).list.insert id session)) =
      ((cleared lost).list.insert id session, (cleared lost).currSize + 1) :=
    LRUCache.evict_of_le _ room
  constructor
  · have counted : (LRUCache.evict 128 ((cleared lost).currSize + 1)
        ((cleared lost).list.insert id session)).2 = min (lost + 1) 128 := by
      rw [pushed]
      simp only [cleared]
      omega
    exact LRUCache.ext rfl rfl counted
  · change (LRUCache.evict 128 _ _).1.keys.length = 1
    rw [absent, pushed]
    rfl

theorem run_server {lost : ℕ} (possible : lost ≤ 128) :
    Run (handshakeMachine referencePlatform 0) (history lost) (client, server lost) := by
  induction lost with
  | zero =>
    exact .start (show _ ∧ _ ∧ _ from ⟨rfl, rfl, rfl⟩)
  | succ lost ih =>
    have reset := (ih (by omega)).step (HandshakeStep.reset (.arrival (server lost))
      ServerInterceptor.Reference.environment .current 0 caller)
    obtain ⟨e, t, raised, -, orb, -⟩ := sendCredentialReset_spec referencePlatform
      ServerInterceptor.Reference.environment .current 0 caller (.arrival (server lost))
    rw [raised, orb] at reset
    obtain ⟨same, length⟩ := cleared_insert (show lost < 128 by omega)
      ServerInterceptor.Reference.environment.sessionId
      (Session.init ServerInterceptor.Reference.environment caller.loginInfo.id)
    have discarded := reset.step (HandshakeStep.serverLogout 0 rfl)
    change Run _ (HandshakeEvent.serverLogout ((cleared lost).insert _ _).list.keys.length :: _) _
      at discarded
    rw [length] at discarded
    refine discarded.step (.other rfl rfl ?_)
    rw [sessionLRUCache_logoutSection rfl]
    exact same.symm

end Reference

open Reference in
/-- The first request to a fresh server. -/
theorem handshake_completes_fresh :
    Completes referencePlatform 0 ClientInterceptor.Reference.call
      ServerInterceptor.Reference.environment ServerInterceptor.Reference.environment caller
      (refusal 0) (receiveException referencePlatform ClientInterceptor.Reference.environment
        ClientInterceptor.Reference.call (resetReply (refusal 0)) client).2 (retransmitted 0) := by
  have run := refused_fresh.run ReferencePlatform.codecRefuses (fun _ registered => by cases registered)
    (run_server (Nat.zero_le 128))
  have sent : sendRequest referencePlatform ClientInterceptor.Reference.environment
      ClientInterceptor.Reference.call
      ⟨(receiveException referencePlatform ClientInterceptor.Reference.environment
        ClientInterceptor.Reference.call (resetReply (refusal 0)) client).2, fun _ => none⟩ =
      (.ok (), retransmitted 0) := Prod.ext (by decide +kernel) (by rw [retransmitted])
  refine ((handshake_completes_iff ReferencePlatform.codecInverts ReferencePlatform.codecRefuses run
    refused_fresh honest _ _).2 _ ServerInterceptor.Reference.environment sent
    (fun _ registered => by cases registered) ?_).mpr (by decide)
  intro credential conn caller valid u chain info present
  have absent : (getCredential referencePlatform (received ClientInterceptor.Reference.call
      (retransmitted 0)) .legacy) = .error (.noPermission noCredentialCode) := by decide +kernel
  rw [absent] at present
  cases present

open Reference in
/-- A server that has discarded 128 sessions keeps no session any more: the request that has been
answered with one is sent again, and answered with another. -/
theorem handshake_repeats :
    Run (handshakeMachine referencePlatform 0) (.reset :: .check :: .other :: history 128)
      (client, (refusal 128).orb) ∧
    Refused referencePlatform ServerInterceptor.Reference.environment (requestOf firstCredential)
      (server 128) 0 caller (refusal 128) ∧
    HonestClient referencePlatform 0 caller client ∧
    (sendRequest referencePlatform ClientInterceptor.Reference.environment
      ClientInterceptor.Reference.call
      ⟨(receiveException referencePlatform ClientInterceptor.Reference.environment
        ClientInterceptor.Reference.call (resetReply (refusal 128)) client).2, fun _ => none⟩).1 =
      .ok () ∧
    (receiveRequestServiceContexts referencePlatform ServerInterceptor.Reference.environment
      (received ClientInterceptor.Reference.call (retransmitted 128))
      (Dispatch.arrival (refusal 128).orb)).1 = .error (.noPermission invalidCredentialCode) := by
  have run := refused_worn.run ReferencePlatform.codecRefuses
    (fun _ registered => by cases registered) (run_server (Nat.le_refl 128))
  exact ⟨run, refused_worn, honest, by decide +kernel, by decide +kernel⟩

end Handshake

end OpenBus
