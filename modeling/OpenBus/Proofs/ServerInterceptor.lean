import OpenBus.Model.ServerInterceptor
import OpenBus.Proofs.Orb

/-! # What each part of the server interceptor does

One lemma a function: when it succeeds, and in which state it leaves the dispatch. The first
group inverts successful runs, the second says what no run touches, and the third which
exceptions can escape, so that the fallback to the credential of version 2.0 is reached only by
requests without one of version 2.1.
-/

namespace OpenBus

open Machine

namespace ServerInterceptor

variable {Registry : Type}

variable {platform : Platform} {world : ServerWorld Registry} {request : ServerRequest}

theorem getDispatcherConnection_ok_iff {busid login : Identifier} {s t : Dispatch} {ref : ConnRef} :
    getDispatcherConnection world request busid login s = (.ok ref, t) ↔
      ∃ chosen d, callDispatch world request busid login s = (.ok chosen, d) ∧
        d.connectionFor chosen = some ref ∧ (d.orb.connections ref).loginInfo ≠ none ∧
        (d.orb.connections ref).busid = busid ∧ saveDispatcherConnection world ref d = t := by
  rcases called : callDispatch world request busid login s with ⟨e | chosen, d⟩
  · simp [getDispatcherConnection, Action.bind_apply, called]
  · simp only [getDispatcherConnection, chooseConnection, Action.bind_apply, called,
      Action.get_apply]
    cases found : d.connectionFor chosen with
    | none =>
      simp only [Action.throw_apply]
      grind
    | some other =>
      dsimp only
      split
      · simp only [Action.throw_apply]
        grind
      · simp only [Action.bind_apply, Action.modify_apply, Action.pure_apply]
        grind

theorem validationResult_some_iff {result : Except Exception (Option Login)} {caller : Login} :
    validationResult result = .ok (some caller) ↔ result = .ok (some caller) := by
  unfold validationResult
  split
  · rfl
  · split <;> simp
  · simp

theorem validateCaller_some_iff {world : ServerWorld} {conn : ConnRef} {login : Identifier}
    {s t : Dispatch} {caller : Login} :
    validateCaller platform world conn login s = (.ok (some caller), t) ↔
      ∃ cache after, (s.orb.connections conn).loginCache = some cache ∧
        LoginCache.validateLogin platform world.registry login cache = (.ok (some caller), after) ∧
        s.updateOrb (Orb.setLoginCache conn after) = t := by
  simp only [validateCaller, Action.bind_apply, Action.get_apply]
  cases cached : (s.orb.connections conn).loginCache with
  | none => simp
  | some cache =>
    rcases validated : LoginCache.validateLogin platform world.registry login cache with
      ⟨result, after⟩
    simp only [validated, Action.bind_apply, Action.modify_apply, Action.ofExcept_apply,
      Prod.mk.injEq, validationResult_some_iff, Option.some.injEq]
    grind

/-- The session test of a credential, on the sessions cached when it is made. -/
def SessionAccepts (platform : Platform) (request : ServerRequest) (protocol : Protocol)
    (credential : CredentialData) (sessions : LRUCache ULong Session) : Prop :=
  ∃ session, sessions.find credential.session = some session ∧
    session.remoteId = credential.login ∧
    hash platform protocol request.operation credential.ticket session.secret = credential.hash ∧
    (session.tickets.ticketsCheck (credential.ticket.setWidth 64)).1 = true

/-- The sessions after the test: the one named moves to the front, and if login and hash fit,
its tickets have been checked. -/
def sessionsAfterCheck (platform : Platform) (request : ServerRequest) (protocol : Protocol)
    (credential : CredentialData) (sessions : LRUCache ULong Session) : LRUCache ULong Session :=
  let fetched := (sessions.fetch credential.session).2
  match sessions.find credential.session with
  | none => fetched
  | some session =>
      if hash platform protocol request.operation credential.ticket session.secret =
          credential.hash ∧ session.remoteId = credential.login then
        fetched.assign credential.session
          { session with
            tickets := (session.tickets.ticketsCheck (credential.ticket.setWidth 64)).2 }
      else fetched

theorem capacity_sessionsAfterCheck (request : ServerRequest) (protocol : Protocol)
    (credential : CredentialData) (sessions : LRUCache ULong Session) :
    (sessionsAfterCheck platform request protocol credential sessions).capacity =
      sessions.capacity := by
  unfold sessionsAfterCheck
  split
  · exact LRUCache.capacity_fetch _ _
  · split
    · rw [LRUCache.capacity_assign, LRUCache.capacity_fetch]
    · exact LRUCache.capacity_fetch _ _

variable (platform request) in
theorem checkSession_spec (protocol : Protocol) (credential : CredentialData) (s : Dispatch) :
    ∃ accepted, checkSession platform request protocol credential s =
        (.ok accepted,
          s.setSessions (sessionsAfterCheck platform request protocol credential s.sessions)) ∧
      (accepted = true ↔ SessionAccepts platform request protocol credential s.sessions) := by
  have fetched := LRUCache.fetch_fst s.sessions credential.session
  simp only [checkSession, Action.bind_apply, Action.get_apply, fetched, sessionsAfterCheck,
    SessionAccepts]
  cases found : s.sessions.find credential.session with
  | none => exact ⟨false, rfl, by simp⟩
  | some session =>
    by_cases fits : hash platform protocol request.operation credential.ticket session.secret =
        credential.hash ∧ session.remoteId = credential.login
    · refine ⟨(session.tickets.ticketsCheck (credential.ticket.setWidth 64)).1, ?_, ?_⟩
      · simp only [if_pos fits]
        rfl
      · simp [fits]
    · refine ⟨false, ?_, ?_⟩
      · simp only [if_neg fits]
        rfl
      · simp only [Option.some.injEq]
        grind

/-- How a reset ends: with its answer, or with a fault while the answer is made up. -/
def IsReset (e : Exception) : Prop := e = .noPermission invalidCredentialCode ∨ e = .fault

/-- The session which a reset creates is cached. -/
def resetState (world : ServerWorld Registry) (caller : Login) (d : Dispatch) : Dispatch :=
  d.setSessions (d.sessions.insert world.sessionId (Session.init world caller.loginInfo.id))

variable (platform world) in
/-- A reset faults while the answer is made up, or answers with the new session and its secret. -/
theorem sendCredentialReset_cases (protocol : Protocol) (conn : ConnRef) (caller : Login)
    (s : Dispatch) :
    sendCredentialReset platform world protocol conn caller s =
        (.error .fault, resetState world caller s) ∨
      ∃ login challenge, (s.orb.connections conn).loginInfo = some login ∧
        memcpy 256 (platform.encrypt caller.pubKey world.nonce world.secret.toList) =
          .ok challenge ∧
        sendCredentialReset platform world protocol conn caller s =
          (.error (.noPermission invalidCredentialCode),
            (resetState world caller s).addReplyServiceContext protocol.credentialContextId
              (platform.encodeValue (credentialReset protocol
                (Session.init world caller.loginInfo.id) login challenge))) := by
  have encrypted : (Session.init world caller.loginInfo.id).secret = world.secret := rfl
  simp only [sendCredentialReset, Action.bind_apply, Action.modify_apply, Action.get_apply,
    Dispatch.setSessions, Dispatch.updateOrb, Orb.setSessions, encrypted]
  cases (s.orb.connections conn).loginInfo with
  | none => exact .inl rfl
  | some login =>
    simp only [Action.bind_apply, Action.ofExcept_apply]
    cases copied : memcpy 256 (platform.encrypt caller.pubKey world.nonce world.secret.toList) with
    | error e =>
      obtain rfl := eq_fault_of_memcpy copied
      exact .inl rfl
    | ok challenge => exact .inr ⟨login, challenge, rfl, rfl, rfl⟩

variable (platform world) in
/-- A reset always raises, with the new session cached and nothing else of the ORB or of the slots
of the request touched. -/
theorem sendCredentialReset_spec (protocol : Protocol) (conn : ConnRef) (caller : Login)
    (s : Dispatch) :
    ∃ e t, sendCredentialReset platform world protocol conn caller s = (.error e, t) ∧ IsReset e ∧
      t.orb = s.orb.setSessions
        (s.sessions.insert world.sessionId (Session.init world caller.loginInfo.id)) ∧
      t.slots = s.slots := by
  rcases sendCredentialReset_cases platform world protocol conn caller s with
    faulted | ⟨login, challenge, -, -, answered⟩
  · exact ⟨_, _, faulted, .inr rfl, rfl, rfl⟩
  · exact ⟨_, _, answered, .inl rfl, rfl, rfl⟩

/-- The chain test of a credential, for the connection the request is dispatched to. -/
def ChainAccepts (platform : Platform) (protocol : Protocol) (credential : CredentialData)
    (caller : Login) (conn : Connection) : Prop :=
  credential.chain.encoded ≠ [] ∧
  (∃ buskey, conn.buskey = some buskey ∧
    platform.verify buskey credential.chain.signature (platform.sha256 credential.chain.encoded)) ∧
  match protocol with
  | .current => ∃ chain, Orb.decodeChainData platform credential.chain = .ok chain ∧
      chain.caller.id = caller.loginInfo.id ∧ chain.bus = conn.busid
  | .legacy => ∃ chain login, Orb.decodeLegacyChainData platform credential.chain = .ok chain ∧
      conn.loginInfo = some login ∧ chain.target = login.entity ∧
      chain.caller.id = caller.loginInfo.id

theorem checkLegacyChain_true_iff {chain : LegacyCallChain} {caller : Login} {conn : ConnRef}
    {s t : Dispatch} :
    checkLegacyChain platform world chain caller conn s = (.ok true, t) ↔
      (∃ login, (s.orb.connections conn).loginInfo = some login ∧ chain.target = login.entity ∧
        chain.caller.id = caller.loginInfo.id) ∧ s = t := by
  simp only [checkLegacyChain, Action.bind_apply, Action.get_apply]
  cases (s.orb.connections conn).loginInfo with
  | none => simp
  | some login =>
    obtain ⟨e, d, raised, -⟩ := sendCredentialReset_spec platform world
      .legacy conn caller s
    by_cases same : chain.target = login.entity
    · simp [same]
    · simp [same, Action.bind_apply, raised]

theorem validateChain_true_iff {protocol : Protocol} {credential : CredentialData} {caller : Login}
    {conn : ConnRef} {s t : Dispatch} :
    validateChain platform world protocol credential caller conn s = (.ok true, t) ↔
      ChainAccepts platform protocol credential caller (s.orb.connections conn) ∧ s = t := by
  unfold validateChain ChainAccepts
  rcases chained : credential.chain.encoded with _ | ⟨octet, rest⟩
  · simp
  rw [if_neg (by simp)]
  simp only [Action.bind_apply, Action.get_apply]
  rcases (s.orb.connections conn).buskey with _ | buskey
  · simp
  by_cases verified : platform.verify buskey credential.chain.signature
      (platform.sha256 (octet :: rest))
  · cases protocol
    · rcases Orb.decodeChainData platform credential.chain with e | chain <;>
        simp [verified, Action.bind_apply, checkChain]
    · cases Orb.decodeLegacyChainData platform credential.chain with
      | error e => simp [verified, Action.bind_apply]
      | ok chain => simp [verified, Action.bind_apply, checkLegacyChain_true_iff]
  · simp [verified]

variable (platform world) in
/-- The chain test changes nothing, and raises a fault or what the codec does, unless it ends with
the reset for a chain of version 2.0 addressed to another entity. -/
theorem validateChain_cases (protocol : Protocol) (credential : CredentialData) (caller : Login)
    (conn : ConnRef) (s : Dispatch) :
    (∃ r, validateChain platform world protocol credential caller conn s = (r, s) ∧
      ∀ e, r = .error e → e = .fault ∨ ∃ data type, platform.decodeValue data type = .error e) ∨
    (protocol = .legacy ∧ ∃ chain login e t,
      Orb.decodeLegacyChainData platform credential.chain = .ok chain ∧
      (s.orb.connections conn).loginInfo = some login ∧ chain.target ≠ login.entity ∧
      sendCredentialReset platform world .legacy conn caller s = (.error e, t) ∧
      validateChain platform world protocol credential caller conn s = (.error e, t)) := by
  unfold validateChain
  split
  · exact .inl ⟨_, rfl, by simp⟩
  simp only [Action.bind_apply, Action.get_apply]
  cases (s.orb.connections conn).buskey with
  | none => exact .inl ⟨_, rfl, by simp⟩
  | some buskey =>
    dsimp only
    split
    · cases protocol with
      | current =>
        left
        rw [Orb.decodeChainData]
        cases decoded : platform.decodeValue credential.chain.encoded .callChain with
        | error e => exact ⟨_, rfl, fun e' same => .inr ⟨_, _, by cases same; exact decoded⟩⟩
        | ok any => exact ⟨_, rfl, by simp⟩
      | legacy =>
        rw [Orb.decodeLegacyChainData]
        cases decoded : platform.decodeValue credential.chain.encoded .legacyCallChain with
        | error e => exact .inl ⟨_, rfl, fun e' same => .inr ⟨_, _, by cases same; exact decoded⟩⟩
        | ok any =>
          simp only [Except.map, Action.bind_apply, Action.ofExcept_apply, checkLegacyChain,
            Action.get_apply]
          cases (s.orb.connections conn).loginInfo with
          | none => exact .inl ⟨_, rfl, by simp⟩
          | some login =>
            obtain ⟨e, t, raised, -⟩ := sendCredentialReset_spec platform world .legacy conn caller s
            by_cases other : any.extractLegacyCallChain.target ≠ login.entity
            · simp only [if_pos other, Action.bind_apply, raised]
              exact .inr ⟨trivial, _, login, e, t, rfl, rfl, other, rfl, rfl⟩
            · simp only [if_neg other]
              exact .inl ⟨_, rfl, by simp⟩
    · exact .inl ⟨_, rfl, by simp⟩

variable (world) in
@[simp] theorem connections_saveDispatcherConnection (ref : ConnRef) (d : Dispatch) :
    (saveDispatcherConnection world ref d).orb.connections = d.orb.connections :=
  Orb.connections_setCurrentConnection ..

variable (world) in
@[simp] theorem sessions_saveDispatcherConnection (ref : ConnRef) (d : Dispatch) :
    (saveDispatcherConnection world ref d).sessions = d.sessions :=
  Orb.sessionLRUCache_setCurrentConnection ..

@[simp] theorem sessions_updateOrb_setLoginCache (ref : ConnRef) (cache : LoginCache)
    (d : Dispatch) : (d.updateOrb (Orb.setLoginCache ref cache)).sessions = d.sessions := rfl

/-- The request is dispatched to a connection logged in to the bus of the credential, and the
registry, or the cache of its answers, vouches for the caller there. The callback leaves the
state `d`, and the validation the cache `after`. -/
structure Dispatched (platform : Platform) (world : ServerWorld) (request : ServerRequest)
    (credential : CredentialData) (dispatch d : Dispatch) (ref : ConnRef) (caller : Login)
    (after : LoginCache) : Prop where
  chosen : ∃ chosen, callDispatch world request credential.bus credential.login dispatch =
    (.ok chosen, d) ∧ d.connectionFor chosen = some ref
  logged : (d.orb.connections ref).loginInfo ≠ none
  bus : (d.orb.connections ref).busid = credential.bus
  validated : ∃ cache, (d.orb.connections ref).loginCache = some cache ∧
    LoginCache.validateLogin platform world.registry credential.login cache =
      (.ok (some caller), after)

/-- The state in which a dispatched request has been judged by its session. -/
def judgedState (platform : Platform) (world : ServerWorld) (request : ServerRequest)
    (protocol : Protocol) (credential : CredentialData) (d : Dispatch) (ref : ConnRef)
    (after : LoginCache) : Dispatch :=
  ((saveDispatcherConnection world ref d).updateOrb (Orb.setLoginCache ref after)).setSessions
    (sessionsAfterCheck platform request protocol credential d.sessions)

theorem authenticate_ok_iff {world : ServerWorld} {protocol : Protocol}
    {credential : CredentialData} {s t : Dispatch} {ref : ConnRef} {caller : Login} {valid : Bool} :
    authenticate platform world request protocol credential s = (.ok (ref, caller, valid), t) ↔
      ∃ d after, Dispatched platform world request credential s d ref caller after ∧
        (valid = true ↔ SessionAccepts platform request protocol credential d.sessions) ∧
        judgedState platform world request protocol credential d ref after = t := by
  simp only [authenticate_eq, Action.bind_ok_iff]
  constructor
  · rintro ⟨conn, saved, dispatched, found, checked, validated, rest⟩
    rcases found with _ | other
    · cases rest
    obtain ⟨accepted, u, session, final⟩ := Action.bind_ok_iff.mp rest
    obtain ⟨accepted', judged, verdict⟩ :=
      checkSession_spec platform request protocol credential checked
    rw [judged] at session
    cases session
    cases final
    obtain ⟨chosen, d, called, chose, logged, bus, rfl⟩ := getDispatcherConnection_ok_iff.mp dispatched
    obtain ⟨cache, after, cached, answered, rfl⟩ := validateCaller_some_iff.mp validated
    rw [connections_saveDispatcherConnection] at cached
    rw [sessions_updateOrb_setLoginCache, sessions_saveDispatcherConnection] at verdict ⊢
    exact ⟨d, after, ⟨⟨chosen, called, chose⟩, logged, bus, cache, cached, answered⟩, verdict, rfl⟩
  · rintro ⟨d, after, ⟨⟨chosen, called, chose⟩, logged, bus, cache, cached, answered⟩, verdict, rfl⟩
    refine ⟨ref, _, getDispatcherConnection_ok_iff.mpr ⟨chosen, d, called, chose, logged, bus, rfl⟩,
      some caller, _, validateCaller_some_iff.mpr ⟨cache, after, ?_, answered, rfl⟩, ?_⟩
    · rwa [connections_saveDispatcherConnection]
    · obtain ⟨accepted, judged, verdict'⟩ := checkSession_spec platform request protocol credential
        ((saveDispatcherConnection world ref d).updateOrb (Orb.setLoginCache ref after))
      rw [sessions_updateOrb_setLoginCache, sessions_saveDispatcherConnection] at judged verdict'
      obtain rfl : accepted = valid := Bool.eq_iff_iff.mpr (verdict'.trans verdict.symm)
      exact Action.bind_ok_iff.mpr ⟨_, _, judged, rfl⟩

/-- All that a credential must fulfil to be accepted. -/
def Accepts (platform : Platform) (world : ServerWorld) (request : ServerRequest)
    (protocol : Protocol) (credential : CredentialData) (dispatch d : Dispatch) (ref : ConnRef)
    (caller : Login) (after : LoginCache) : Prop :=
  Dispatched platform world request credential dispatch d ref caller after ∧
    SessionAccepts platform request protocol credential d.sessions ∧
    ChainAccepts platform protocol credential caller (d.orb.connections ref)

/-- The chain test does not look at the cache of logins. -/
theorem chainAccepts_judgedState {world : ServerWorld} {protocol : Protocol}
    {credential : CredentialData} {d : Dispatch} {ref : ConnRef} {caller : Login}
    {after : LoginCache} :
    ChainAccepts platform protocol credential caller
        ((judgedState platform world request protocol credential d ref after).orb.connections ref) ↔
      ChainAccepts platform protocol credential caller (d.orb.connections ref) := by
  have connection : (judgedState platform world request protocol credential d ref
      after).orb.connections ref =
        { d.orb.connections ref with loginCache := some after } := by
    simp [judgedState, Dispatch.setSessions, Dispatch.updateOrb, Orb.setSessions,
      Orb.setLoginCache, Orb.updateConnection]
  rw [connection]
  exact Iff.rfl

theorem handleCredential_ok_iff {world : ServerWorld} {protocol : Protocol}
    {credential : CredentialData} {s t : Dispatch} :
    handleCredential platform world request protocol credential s = (.ok (), t) ↔
      ∃ d ref caller after,
        Accepts platform world request protocol credential s d ref caller after ∧
        (judgedState platform world request protocol credential d ref after).setSlot
          .signedCallChain (.ofSignedChain protocol credential.chain) = t := by
  simp only [handleCredential_eq, Action.bind_ok_iff]
  constructor
  · rintro ⟨⟨ref, caller, valid⟩, judged, authentic, rest⟩
    obtain ⟨d, after, dispatched, verdict, rfl⟩ := authenticate_ok_iff.mp authentic
    cases valid with
    | false =>
      obtain ⟨e, u, raised, -⟩ := sendCredentialReset_spec platform world protocol ref caller
        (judgedState platform world request protocol credential d ref after)
      simp only [Bool.false_eq_true, if_false, raised] at rest
      cases rest
    | true =>
      simp only [if_true, Action.bind_ok_iff] at rest
      obtain ⟨accepted, u, chain, final⟩ := rest
      cases accepted with
      | false => cases final
      | true =>
        obtain ⟨fits, rfl⟩ := validateChain_true_iff.mp chain
        cases final
        exact ⟨d, ref, caller, after,
          ⟨dispatched, verdict.mp rfl, chainAccepts_judgedState.mp fits⟩, rfl⟩
  · rintro ⟨d, ref, caller, after, ⟨dispatched, session, chain⟩, rfl⟩
    refine ⟨(ref, caller, true), _,
      authenticate_ok_iff.mpr ⟨d, after, dispatched, iff_of_true rfl session, rfl⟩, ?_⟩
    simp only [if_true, Action.bind_ok_iff]
    exact ⟨true, _, validateChain_true_iff.mpr ⟨chainAccepts_judgedState.mpr chain, rfl⟩, rfl⟩

section Frames

/-- The slot in which an accepted request leaves its chain. -/
def signedSlot (d : Dispatch) : Any := d.slots .signedCallChain

variable {β : Type} {observe : Dispatch → β}

/-- The dispatch leaves alone what the callback does. -/
theorem callDispatch_keeps (busid login : Identifier)
    (quiet : ∀ callback, world.onCallDispatch = some callback → ∀ bus login operation,
      Action.Keeps observe (Dispatch.onOrb (callback bus login operation))) :
    Action.Keeps observe (callDispatch world request busid login) := by
  unfold callDispatch
  split
  · exact .pure none
  · next callback registered =>
    exact .tryCatch (quiet callback registered _ _ _) fun e => .ite (.pure none) (.throw e)

/-- The choice of a connection changes nothing but by saving the connection. -/
theorem chooseConnection_keeps
    (saved : ∀ ref d, observe (saveDispatcherConnection world ref d) = observe d)
    (busid : Identifier) (chosen : Option ConnRef) :
    Action.Keeps observe (chooseConnection world busid chosen) := by
  refine .bind .get fun d => ?_
  split
  · exact .throw _
  · exact .ite (.throw _) (.bind (.modify fun d => saved _ d) fun _ => .pure _)

theorem getDispatcherConnection_keeps
    (quiet : ∀ callback, world.onCallDispatch = some callback → ∀ bus login operation,
      Action.Keeps observe (Dispatch.onOrb (callback bus login operation)))
    (saved : ∀ ref d, observe (saveDispatcherConnection world ref d) = observe d)
    (busid login : Identifier) :
    Action.Keeps observe (getDispatcherConnection world request busid login) :=
  .bind (callDispatch_keeps busid login quiet) fun chosen => chooseConnection_keeps saved busid chosen

theorem validateCaller_keeps (platform : Platform) (world : ServerWorld)
    (blind : ∀ d ref cache, observe (d.updateOrb (Orb.setLoginCache ref cache)) = observe d)
    (conn : ConnRef) (login : Identifier) :
    Action.Keeps observe (validateCaller platform world conn login) := by
  refine .bind .get fun d => ?_
  split
  · exact .throw _
  · exact .bind (.modify fun _ => blind _ _ _) fun _ => .ofExcept _

/-- An observation that does not depend on what the tests of a credential change. -/
structure TestBlind (observe : Dispatch → β) : Prop where
  logins : ∀ d ref cache, observe (d.updateOrb (Orb.setLoginCache ref cache)) = observe d
  sessions : ∀ (d : Dispatch) sessions, observe (d.setSessions sessions) = observe d
  replies : ∀ (d : Dispatch) id data, observe (d.addReplyServiceContext id data) = observe d

theorem testBlind_signedSlot : TestBlind signedSlot :=
  ⟨fun _ _ _ => rfl, fun _ _ => rfl, fun _ _ _ => rfl⟩

variable (platform request) in
theorem checkSession_keeps (blind : TestBlind observe) (protocol : Protocol)
    (credential : CredentialData) :
    Action.Keeps observe (checkSession platform request protocol credential) := by
  intro s
  obtain ⟨accepted, checked, -⟩ := checkSession_spec platform request protocol credential s
  rw [checked]
  exact blind.sessions s _

variable (platform world) in
theorem sendCredentialReset_keeps (blind : TestBlind observe) (protocol : Protocol)
    (conn : ConnRef) (caller : Login) :
    Action.Keeps observe (sendCredentialReset platform world protocol conn caller) := by
  intro s
  have cached : observe (resetState world caller s) = observe s := blind.sessions s _
  rcases sendCredentialReset_cases platform world protocol conn caller s with
    faulted | ⟨login, challenge, -, -, answered⟩
  · rw [faulted]
    exact cached
  · rw [answered]
    exact (blind.replies _ _ _).trans cached

variable (platform world) in
theorem validateChain_keeps (blind : TestBlind observe) (protocol : Protocol)
    (credential : CredentialData) (caller : Login) (conn : ConnRef) :
    Action.Keeps observe (validateChain platform world protocol credential caller conn) := by
  intro s
  rcases validateChain_cases platform world protocol credential caller conn s with
    ⟨r, unchanged, -⟩ | ⟨rfl, chain, login, e, t, -, -, -, reset, raised⟩
  · rw [unchanged]
  · rw [raised]
    exact (sendCredentialReset_keeps platform world blind .legacy conn caller).of_run reset

variable {validate : Validation}

variable (platform world request) in
theorem authenticateWith_keeps (blind : TestBlind observe)
    (validated : ∀ conn login, Action.Keeps observe (validate conn login)) (protocol : Protocol)
    (credential : CredentialData) (s : Dispatch) :
    observe (authenticateWith platform world request validate protocol credential s).2 =
      observe (getDispatcherConnection world request credential.bus credential.login s).2 := by
  rcases dispatching : getDispatcherConnection world request credential.bus credential.login s with
    ⟨e | conn, d⟩
  · rw [authenticateWith, Action.bind_apply_error dispatching]
  · rw [authenticateWith, Action.bind_apply_ok dispatching]
    refine Action.Keeps.bind (validated _ _) (fun found => ?_) d
    split
    · exact .throw _
    · exact .bind (checkSession_keeps platform request blind _ _) fun _ => .pure _

variable (platform world request) in
/-- Once the connection is chosen, only an accepted request changes more than the tests do. -/
theorem handleCredentialWith_keeps (blind : TestBlind observe)
    (validated : ∀ conn login, Action.Keeps observe (validate conn login)) (protocol : Protocol)
    (credential : CredentialData) (s : Dispatch) :
    ∃ u, observe u = observe
        (getDispatcherConnection world request credential.bus credential.login s).2 ∧
      ((∃ e, handleCredentialWith platform world request validate protocol credential s =
          (.error e, u)) ∨
        handleCredentialWith platform world request validate protocol credential s =
          (.ok (), u.setSlot .signedCallChain (.ofSignedChain protocol credential.chain))) := by
  have judged := authenticateWith_keeps platform world request blind validated protocol credential s
  rw [← judged]
  rcases authentic : authenticateWith platform world request validate protocol credential s with
    ⟨e | ⟨ref, caller, valid⟩, d⟩
  · exact ⟨d, rfl, .inl ⟨e, Action.bind_apply_error authentic⟩⟩
  rw [handleCredentialWith, Action.bind_apply_ok authentic]
  cases valid with
  | false =>
    have kept := sendCredentialReset_keeps platform world blind protocol ref caller d
    obtain ⟨e, t, raised, -⟩ := sendCredentialReset_spec platform world protocol ref caller d
    rw [raised] at kept
    exact ⟨t, kept, .inl ⟨e, raised⟩⟩
  | true =>
    have kept := validateChain_keeps platform world blind protocol credential caller ref d
    simp only [if_true]
    rcases chained : validateChain platform world protocol credential caller ref d with
      ⟨e | accepted, t⟩ <;> rw [chained] at kept
    · exact ⟨t, kept, .inl ⟨e, Action.bind_apply_error chained⟩⟩
    · rw [Action.bind_apply_ok chained]
      cases accepted with
      | false => exact ⟨t, kept, .inl ⟨_, rfl⟩⟩
      | true => exact ⟨t, kept, .inr rfl⟩

theorem handleCredential_keeps (platform : Platform) (world : ServerWorld) (request : ServerRequest)
    (blind : TestBlind observe) (protocol : Protocol) (credential : CredentialData) (s : Dispatch) :
    ∃ u, observe u = observe
        (getDispatcherConnection world request credential.bus credential.login s).2 ∧
      ((∃ e, handleCredential platform world request protocol credential s = (.error e, u)) ∨
        handleCredential platform world request protocol credential s =
          (.ok (), u.setSlot .signedCallChain (.ofSignedChain protocol credential.chain))) :=
  handleCredentialWith_keeps platform world request blind
    (validateCaller_keeps platform world blind.logins) protocol credential s

/-- A refused request leaves the slot of the signed chain as it was. -/
theorem handleCredentialWith_error_keeps
    (validated : ∀ conn login, Action.Keeps signedSlot (validate conn login)) {protocol : Protocol}
    {credential : CredentialData} {s t : Dispatch} {e : Exception}
    (refused : handleCredentialWith platform world request validate protocol credential s =
      (.error e, t)) :
    signedSlot t = signedSlot s := by
  obtain ⟨u, kept, raised | accepted⟩ := handleCredentialWith_keeps platform world request
    testBlind_signedSlot validated protocol credential s
  · obtain ⟨e', raised⟩ := raised
    obtain ⟨-, rfl⟩ := Prod.mk.inj (refused.symm.trans raised)
    have dispatched : signedSlot
        (getDispatcherConnection world request credential.bus credential.login s).2 = signedSlot s :=
      getDispatcherConnection_keeps (fun _ _ _ _ _ _ => rfl) (fun _ _ => rfl) _ _ s
    exact kept.trans dispatched
  · rw [refused] at accepted
    cases accepted

end Frames

section Exceptions

/-- Anything but a refusal with the given code. -/
def Spares (minor : ULong) (e : Exception) : Prop :=
  ∀ completed, e ≠ .system .noPermission minor completed

/-- Anything but the exception on which the interceptor turns to version 2.0. -/
abbrev Final : Exception → Prop := Spares noCredentialCode

variable {minor : ULong}

theorem spares_noPermission {other : ULong} (differ : other ≠ minor) :
    Spares minor (.noPermission other) := by
  intro completed same
  cases same
  exact differ rfl

theorem getDispatcherConnection_spares (differ : unknownBusCode ≠ minor)
    (busid login : Identifier) :
    Action.Raises (Spares minor) (getDispatcherConnection world request busid login) := by
  refine .bind ?_ fun chosen => ?_
  · unfold callDispatch
    split
    · exact .pure none
    · refine .tryCatch fun e => ?_
      split
      · exact .pure none
      · next uncaught =>
        refine .throw fun completed same => uncaught ?_
        rw [same]
        rfl
  · refine .bind .get fun d => ?_
    split
    · exact .throw (spares_noPermission differ)
    · exact .ite (.throw (spares_noPermission differ)) (.bind (.modify _) fun _ => .pure _)

theorem validationResult_spares (bus : unknownBusCode ≠ minor) (login : unverifiedLoginCode ≠ minor)
    {result : Except Exception (Option Login)} {e : Exception}
    (raised : validationResult result = .error e) : Spares minor e := by
  unfold validationResult at raised
  split at raised
  · cases raised
  · split at raised <;> cases raised
    exact spares_noPermission bus
  · next other notPermission =>
    cases raised
    split
    · exact spares_noPermission login
    · exact fun completed same => notPermission _ _ same

theorem validateCaller_spares {world : ServerWorld} (bus : unknownBusCode ≠ minor)
    (unverified : unverifiedLoginCode ≠ minor) (conn : ConnRef) (login : Identifier) :
    Action.Raises (Spares minor) (validateCaller platform world conn login) := by
  refine .bind .get fun d => ?_
  split
  · exact .throw (by simp [Spares])
  · exact .bind (.modify _) fun _ => .ofExcept fun e raised =>
      validationResult_spares bus unverified raised

theorem spares_fault : Spares minor .fault := by simp [Spares]

/-- The codec refuses with its own exceptions. -/
theorem spares_of_refused (codec : platform.CodecRefuses) {data : OctetSeq} {type : TypeCode}
    {e : Exception} (refused : platform.decodeValue data type = .error e) : Spares minor e := by
  rcases codec _ _ _ refused with rfl | rfl <;> simp [Spares]

theorem sendCredentialReset_spares (differ : invalidCredentialCode ≠ minor) (protocol : Protocol)
    (conn : ConnRef) (caller : Login) :
    Action.Raises (Spares minor) (sendCredentialReset platform world protocol conn caller) := by
  intro s t e raised
  rcases sendCredentialReset_cases platform world protocol conn caller s with
    faulted | ⟨login, challenge, -, -, answered⟩
  · rw [faulted] at raised
    cases raised
    exact spares_fault
  · rw [answered] at raised
    cases raised
    exact spares_noPermission differ

variable (platform request) in
/-- The test of the session raises nothing. -/
theorem checkSession_raises (allowed : Exception → Prop) (protocol : Protocol)
    (credential : CredentialData) :
    Action.Raises allowed (checkSession platform request protocol credential) := by
  intro s t e raised
  obtain ⟨accepted, checked, -⟩ := checkSession_spec platform request protocol credential s
  rw [checked] at raised
  cases raised

variable {validate : Validation}

/-- The refusals of a request whose session is not examined. -/
theorem authenticateWith_spares
    (validated : ∀ conn login, Action.Raises (Spares minor) (validate conn login))
    (bus : unknownBusCode ≠ minor) (login : invalidLoginCode ≠ minor) (protocol : Protocol)
    (credential : CredentialData) :
    Action.Raises (Spares minor)
      (authenticateWith platform world request validate protocol credential) := by
  refine .bind (getDispatcherConnection_spares bus _ _) fun conn =>
    .bind (validated _ _) fun found => ?_
  split
  · exact .throw (spares_noPermission login)
  · exact .bind (checkSession_raises platform request _ _ _) fun _ => .pure _

theorem validateChain_final (codec : platform.CodecRefuses) (protocol : Protocol)
    (credential : CredentialData) (caller : Login) (conn : ConnRef) :
    Action.Raises Final (validateChain platform world protocol credential caller conn) := by
  intro s t e raised
  rcases validateChain_cases platform world protocol credential caller conn s with
    ⟨r, unchanged, causes⟩ | ⟨rfl, chain, login, e', t', -, -, -, reset, failed⟩
  · rw [unchanged] at raised
    obtain ⟨same, -⟩ := Prod.mk.inj raised
    rcases causes e same with rfl | ⟨data, type, refused⟩
    · exact spares_fault
    · exact spares_of_refused codec refused
  · rw [failed] at raised
    cases raised
    exact sendCredentialReset_spares (by decide) .legacy conn caller _ _ _ reset

theorem authenticate_spares {world : ServerWorld} (bus : unknownBusCode ≠ minor)
    (login : invalidLoginCode ≠ minor) (unverified : unverifiedLoginCode ≠ minor)
    (protocol : Protocol) (credential : CredentialData) :
    Action.Raises (Spares minor) (authenticate platform world request protocol credential) :=
  authenticateWith_spares (validateCaller_spares bus unverified) bus login protocol credential

theorem handleCredentialWith_final (codec : platform.CodecRefuses)
    (validated : ∀ conn login, Action.Raises Final (validate conn login)) (protocol : Protocol)
    (credential : CredentialData) :
    Action.Raises Final
      (handleCredentialWith platform world request validate protocol credential) := by
  refine .bind (authenticateWith_spares validated (by decide) (by decide) _ _)
    fun ⟨conn, caller, valid⟩ => ?_
  cases valid with
  | false => exact sendCredentialReset_spares (by decide) _ _ _
  | true =>
    refine .bind (validateChain_final codec _ _ _ _) fun accepted => ?_
    cases accepted with
    | false => exact .throw (spares_noPermission (by decide))
    | true => exact .modify _

/-- The version of the credential on which a request is judged. -/
def judged (request : ServerRequest) : Protocol :=
  if (request.contexts Protocol.current.credentialContextId).isSome then .current else .legacy

/-- A request which carries a credential of one version. -/
def carrying (platform : Platform) (operation : Identifier) (protocol : Protocol)
    (credential : CredentialData) : ServerRequest :=
  ⟨operation, Function.update (fun _ => none) protocol.credentialContextId
    (some (platform.encodeValue (.credentialData protocol credential)))⟩

variable (platform) in
theorem judged_carrying (operation : Identifier) (protocol : Protocol)
    (credential : CredentialData) :
    judged (carrying platform operation protocol credential) = protocol := by
  cases protocol <;> simp [judged, carrying, Function.update, Protocol.credentialContextId]

theorem getCredential_carrying (codec : platform.CodecInverts) (operation : Identifier)
    (protocol : Protocol) (credential : CredentialData) :
    getCredential platform (carrying platform operation protocol credential) protocol =
      .ok credential := by
  have decoded := codec (.credentialData protocol credential)
  rw [Any.type] at decoded
  simp [getCredential, carrying, decoded, Any.extractCredentialData]

theorem getCredential_final (codec : platform.CodecRefuses)
    (present : (request.contexts Protocol.current.credentialContextId).isSome) (e : Exception)
    (refused : getCredential platform request .current = .error e) : Final e := by
  obtain ⟨data, found⟩ := Option.isSome_iff_exists.mp present
  unfold getCredential at refused
  rw [found] at refused
  cases decoded : platform.decodeValue data (.credentialData .current) with
  | error e' =>
    simp only [decoded] at refused
    rcases codec _ _ _ decoded with rfl | rfl <;> cases refused <;> simp [Spares]
  | ok any =>
    simp only [decoded] at refused
    cases refused

/-- The credential of version 2.0 is judged exactly when there is none of version 2.1. -/
theorem receiveRequestServiceContextsWith_eq (codec : platform.CodecRefuses)
    (validated : ∀ conn login, Action.Raises Final (validate conn login)) (s : Dispatch) :
    receiveRequestServiceContextsWith platform world request validate s =
      receiveCredentialWith platform world request validate (judged request) s := by
  unfold receiveRequestServiceContextsWith
  rw [Action.tryCatch_apply]
  by_cases present : (request.contexts Protocol.current.credentialContextId).isSome
  · rw [judged, if_pos present]
    have final : Action.Raises Final
        (receiveCredentialWith platform world request validate .current) :=
      .bind (.ofExcept (getCredential_final codec present)) fun _ =>
        handleCredentialWith_final codec validated _ _
    rcases received : receiveCredentialWith platform world request validate .current s with
      ⟨e | u, t⟩
    · have notFallback := final _ _ _ received
      rcases e with ⟨kind, minor, completed⟩ | _ <;> try rfl
      cases kind <;> try rfl
      simp only
      rw [if_neg]
      · rfl
      · rintro rfl
        exact notFallback _ rfl
    · rfl
  · rw [judged, if_neg present]
    have absent : request.contexts Protocol.current.credentialContextId = none := by simpa using present
    have none : receiveCredentialWith platform world request validate .current s =
        (.error (.noPermission noCredentialCode), s) := by
      simp only [receiveCredentialWith, getCredential, absent]
      rfl
    rw [none]
    simp [Exception.noPermission]

theorem receiveRequestServiceContexts_eq {world : ServerWorld} (codec : platform.CodecRefuses)
    (s : Dispatch) :
    receiveRequestServiceContexts platform world request s =
      receiveCredential platform world request (judged request) s :=
  receiveRequestServiceContextsWith_eq codec (validateCaller_spares (by decide) (by decide)) s

/-- A request whose credential cannot be read is refused at once; any other one is answered as its
credential is handled. -/
theorem received_cases {world : ServerWorld} (codec : platform.CodecRefuses) {s t : Dispatch}
    {answer : Except Exception Unit}
    (received : receiveRequestServiceContexts platform world request s = (answer, t)) :
    (∃ refused, getCredential platform request (judged request) = .error refused ∧
      answer = .error refused ∧ t = s) ∨
    ∃ credential, getCredential platform request (judged request) = .ok credential ∧
      handleCredential platform world request (judged request) credential s = (answer, t) := by
  rw [receiveRequestServiceContexts_eq codec, receiveCredential_eq] at received
  cases present : getCredential platform request (judged request) with
  | error refused =>
    rw [present] at received
    obtain ⟨rfl, rfl⟩ := Prod.mk.inj received
    exact .inl ⟨refused, rfl, rfl, rfl⟩
  | ok credential =>
    rw [present] at received
    exact .inr ⟨credential, rfl, received⟩

/-- A request which carries one credential is judged by it. -/
theorem receiveRequestServiceContexts_carrying {world : ServerWorld}
    (inverts : platform.CodecInverts) (refuses : platform.CodecRefuses) (operation : Identifier)
    (protocol : Protocol) (credential : CredentialData) (s : Dispatch) :
    receiveRequestServiceContexts platform world
        (carrying platform operation protocol credential) s =
      handleCredential platform world (carrying platform operation protocol credential) protocol
        credential s := by
  rw [receiveRequestServiceContexts_eq refuses, judged_carrying, receiveCredential_eq,
    getCredential_carrying inverts]
  rfl

end Exceptions

section Sessions

/-- The state in which the callback leaves a request that carries the credential. -/
def callbackState (world : ServerWorld Registry) (request : ServerRequest) (credential : CredentialData)
    (s : Dispatch) : Dispatch :=
  (callDispatch world request credential.bus credential.login s).2

/-- The state in which the sessions are searched, or in which the request is refused before. -/
def validatedState (world : ServerWorld Registry) (request : ServerRequest) (validate : Validation)
    (credential : CredentialData) (s : Dispatch) : Dispatch :=
  ((getDispatcherConnection world request credential.bus credential.login >>= fun conn =>
    validate conn credential.login) s).2

theorem validatedState_of_ok {validate : Validation} {credential : CredentialData}
    {s d u : Dispatch} {ref : ConnRef} {result : Except Exception (Option Login)}
    (dispatched : getDispatcherConnection world request credential.bus credential.login s =
      (.ok ref, d))
    (validated : validate ref credential.login d = (result, u)) :
    validatedState world request validate credential s = u := by
  rw [validatedState, Action.bind_apply_ok dispatched, validated]

theorem authenticateWith_ok_iff {validate : Validation} {protocol : Protocol}
    {credential : CredentialData} {s t : Dispatch} {ref : ConnRef} {caller : Login} {valid : Bool} :
    authenticateWith platform world request validate protocol credential s =
        (.ok (ref, caller, valid), t) ↔
      ∃ d u, getDispatcherConnection world request credential.bus credential.login s =
          (.ok ref, d) ∧ validate ref credential.login d = (.ok (some caller), u) ∧
        (valid = true ↔ SessionAccepts platform request protocol credential u.sessions) ∧
        u.setSessions (sessionsAfterCheck platform request protocol credential u.sessions) = t := by
  simp only [authenticateWith, Action.bind_ok_iff]
  constructor
  · rintro ⟨conn, d, dispatched, found, u, validated, rest⟩
    cases found with
    | none => cases rest
    | some other =>
      obtain ⟨accepted, v, session, final⟩ := Action.bind_ok_iff.mp rest
      obtain ⟨accepted', judged, verdict⟩ :=
        checkSession_spec platform request protocol credential u
      cases judged.symm.trans session
      cases final
      exact ⟨d, u, dispatched, validated, verdict, rfl⟩
  · rintro ⟨d, u, dispatched, validated, verdict, rfl⟩
    obtain ⟨accepted, judged, verdict'⟩ := checkSession_spec platform request protocol credential u
    obtain rfl : accepted = valid := Bool.eq_iff_iff.mpr (verdict'.trans verdict.symm)
    exact ⟨ref, d, dispatched, some caller, u, validated, Action.bind_ok_iff.mpr ⟨_, _, judged, rfl⟩⟩

/-- A request that is refused before its session is tested. -/
theorem authenticateWith_error {validate : Validation} {protocol : Protocol}
    {credential : CredentialData} {s t : Dispatch} {e : Exception}
    (failed : authenticateWith platform world request validate protocol credential s =
      (.error e, t)) : t = validatedState world request validate credential s := by
  rcases Action.bind_error_iff.mp failed with dispatching | ⟨conn, d, dispatched, rest⟩
  · rw [validatedState, Action.bind_apply_error dispatching]
  · rcases Action.bind_error_iff.mp rest with raised | ⟨found, u, validated, final⟩
    · exact (validatedState_of_ok dispatched raised).symm
    · rw [validatedState_of_ok dispatched validated]
      cases found with
      | none =>
        cases final
        rfl
      | some caller =>
        obtain ⟨accepted, checked, -⟩ := checkSession_spec platform request protocol credential u
        rcases Action.bind_error_iff.mp final with impossible | ⟨valid, w, -, impossible⟩
        · rw [checked] at impossible
          cases impossible
        · cases impossible

/-- Where the registry only answers, only the callback can change the sessions before they are
searched. -/
theorem sessions_validatedState (platform : Platform) (world : ServerWorld) (request : ServerRequest)
    (credential : CredentialData) (s : Dispatch) :
    (validatedState world request (validateCaller platform world) credential s).sessions =
      (callbackState world request credential s).sessions := by
  rw [validatedState, callbackState, Action.bind_apply]
  rcases called : callDispatch world request credential.bus credential.login s with ⟨e | chosen, d⟩
  · rw [getDispatcherConnection, Action.bind_apply_error called]
  · rw [getDispatcherConnection, Action.bind_apply_ok called]
    have rest : Action.Keeps Dispatch.sessions (chooseConnection world credential.bus chosen >>=
        fun conn => validateCaller platform world conn credential.login) :=
      .bind (chooseConnection_keeps (sessions_saveDispatcherConnection world) _ _) fun conn =>
        validateCaller_keeps platform world (fun _ _ _ => rfl) conn credential.login
    exact rest d

variable (platform world) in
/-- The chain test leaves the sessions alone, or creates one and ends as a reset does. -/
theorem validateChain_sessions (protocol : Protocol) (credential : CredentialData) (caller : Login)
    (conn : ConnRef) (s : Dispatch) :
    (validateChain platform world protocol credential caller conn s).2.sessions = s.sessions ∨
      ∃ e, (validateChain platform world protocol credential caller conn s).1 = .error e ∧
        IsReset e ∧
        (validateChain platform world protocol credential caller conn s).2.sessions =
          s.sessions.insert world.sessionId (Session.init world caller.loginInfo.id) := by
  rcases validateChain_cases platform world protocol credential caller conn s with
    ⟨r, unchanged, -⟩ | ⟨rfl, chain, login, e, t, -, -, -, reset, raised⟩
  · rw [unchanged]
    exact .inl rfl
  · obtain ⟨e', t', answered, resets, cached, -⟩ :=
      sendCredentialReset_spec platform world .legacy conn caller s
    cases reset.symm.trans answered
    rw [raised]
    exact .inr ⟨e, rfl, resets, congrArg Orb.sessionLRUCache cached⟩

variable (platform world request) in
/-- How judging a credential changes the sessions: as the test of the session does, if there is one,
and last by the session which a reset creates. -/
theorem handleCredentialWith_sessions (validate : Validation) (protocol : Protocol)
    (credential : CredentialData) (s : Dispatch) :
    (∃ e t, authenticateWith platform world request validate protocol credential s = (.error e, t) ∧
      handleCredentialWith platform world request validate protocol credential s = (.error e, t) ∧
      t.sessions = (validatedState world request validate credential s).sessions) ∨
    ∃ ref caller valid u r t,
      authenticateWith platform world request validate protocol credential s =
        (.ok (ref, caller, valid), u) ∧
      handleCredentialWith platform world request validate protocol credential s = (r, t) ∧
      u.sessions = sessionsAfterCheck platform request protocol credential
        (validatedState world request validate credential s).sessions ∧
      (valid = true ↔ SessionAccepts platform request protocol credential
        (validatedState world request validate credential s).sessions) ∧
      (t.sessions = u.sessions ∨ ∃ e, r = .error e ∧ IsReset e ∧
        t.sessions = u.sessions.insert world.sessionId (Session.init world caller.loginInfo.id)) := by
  rcases authentic : authenticateWith platform world request validate protocol credential s with
    ⟨e | ⟨ref, caller, valid⟩, u⟩
  · exact .inl ⟨e, u, rfl, Action.bind_apply_error authentic,
      congrArg Dispatch.sessions (authenticateWith_error authentic)⟩
  · right
    obtain ⟨d, v, dispatched, validated, verdict, rfl⟩ := authenticateWith_ok_iff.mp authentic
    rw [validatedState_of_ok dispatched validated]
    refine ⟨ref, caller, valid, _,
      (handleCredentialWith platform world request validate protocol credential s).1,
      (handleCredentialWith platform world request validate protocol credential s).2, rfl, rfl, rfl,
      verdict, ?_⟩
    rw [handleCredentialWith, Action.bind_apply_ok authentic]
    generalize v.setSessions
      (sessionsAfterCheck platform request protocol credential v.sessions) = u
    cases valid with
    | false =>
      obtain ⟨e, t, raised, reset, inserted, -⟩ :=
        sendCredentialReset_spec platform world protocol ref caller u
      simp only [Bool.false_eq_true, if_false, raised]
      exact .inr ⟨e, rfl, reset, congrArg Orb.sessionLRUCache inserted⟩
    | true =>
      simp only [if_true, Action.bind_apply]
      rcases chained : validateChain platform world protocol credential caller ref u with
        ⟨e | accepted, t⟩ <;>
        have effect := validateChain_sessions platform world protocol credential caller ref u <;>
        rw [chained] at effect
      · rcases effect with same | ⟨e', raised, reset, inserted⟩
        · exact .inl same
        · cases raised
          exact .inr ⟨e, rfl, reset, inserted⟩
      · rcases effect with same | ⟨e', raised, -⟩
        · left
          cases accepted <;> exact same
        · cases raised

theorem handleCredential_sessions (platform : Platform) (world : ServerWorld)
    (request : ServerRequest) (protocol : Protocol) (credential : CredentialData) (s : Dispatch) :
    (∃ e t, authenticate platform world request protocol credential s = (.error e, t) ∧
      handleCredential platform world request protocol credential s = (.error e, t) ∧
      t.sessions = (callbackState world request credential s).sessions) ∨
    ∃ ref caller valid u r t,
      authenticate platform world request protocol credential s = (.ok (ref, caller, valid), u) ∧
      handleCredential platform world request protocol credential s = (r, t) ∧
      u.sessions = sessionsAfterCheck platform request protocol credential
        (callbackState world request credential s).sessions ∧
      (valid = true ↔ SessionAccepts platform request protocol credential
        (callbackState world request credential s).sessions) ∧
      (t.sessions = u.sessions ∨ ∃ e, r = .error e ∧ IsReset e ∧
        t.sessions = u.sessions.insert world.sessionId (Session.init world caller.loginInfo.id)) := by
  rw [← sessions_validatedState platform]
  exact handleCredentialWith_sessions platform world request (validateCaller platform world) protocol
    credential s

end Sessions

section Resets

/-- What a reset answers: a service context with the new session and its encrypted secret. -/
theorem sendCredentialReset_answer {protocol : Protocol} {conn : ConnRef} {caller : Login}
    {s t : Dispatch}
    (answered : sendCredentialReset platform world protocol conn caller s =
      (.error (.noPermission invalidCredentialCode), t)) :
    ∃ login challenge, (s.orb.connections conn).loginInfo = some login ∧
      memcpy 256 (platform.encrypt caller.pubKey world.nonce world.secret.toList) = .ok challenge ∧
      t.replyContexts = Function.update s.replyContexts protocol.credentialContextId
        (some (platform.encodeValue (credentialReset protocol
          (Session.init world caller.loginInfo.id) login challenge))) := by
  rcases sendCredentialReset_cases platform world protocol conn caller s with
    faulted | ⟨login, challenge, info, copied, answer⟩
  · rw [faulted] at answered
    cases answered
  · cases answer.symm.trans answered
    exact ⟨login, challenge, info, copied, rfl⟩

/-- An authentic request has no answer yet. -/
theorem authenticate_replyContexts {world : ServerWorld} {protocol : Protocol}
    {credential : CredentialData} {s t : Dispatch} {result : ConnRef × Login × Bool}
    (authentic : authenticate platform world request protocol credential s = (.ok result, t)) :
    t.replyContexts = s.replyContexts := by
  obtain ⟨ref, caller, valid⟩ := result
  obtain ⟨d, after, dispatched, -, rfl⟩ := authenticate_ok_iff.mp authentic
  obtain ⟨chosen, called, -⟩ := dispatched.chosen
  have kept : d.replyContexts = s.replyContexts :=
    (callDispatch_keeps _ _ fun _ _ _ _ _ _ => rfl).of_run called
  exact kept

/-- The chain test ends with a reset only for a chain of version 2.0 addressed to another entity. -/
theorem validateChain_reset (codec : platform.CodecRefuses) {protocol : Protocol}
    {credential : CredentialData} {caller : Login} {conn : ConnRef} {s t : Dispatch}
    (answered : validateChain platform world protocol credential caller conn s =
      (.error (.noPermission invalidCredentialCode), t)) :
    protocol = .legacy ∧ ∃ chain login,
      Orb.decodeLegacyChainData platform credential.chain = .ok chain ∧
      (s.orb.connections conn).loginInfo = some login ∧ chain.target ≠ login.entity := by
  rcases validateChain_cases platform world protocol credential caller conn s with
    ⟨r, unchanged, causes⟩ | ⟨legacy, chain, login, e, t', decoded, info, other, -, -⟩
  · rw [unchanged] at answered
    obtain ⟨same, -⟩ := Prod.mk.inj answered
    rcases causes _ same with fault | ⟨data, type, refused⟩
    · cases fault
    · exact absurd rfl (spares_of_refused codec refused .completedNo)
  · exact ⟨legacy, chain, login, decoded, info, other⟩

end Resets

end ServerInterceptor

end OpenBus
