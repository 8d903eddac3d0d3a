import OpenBus.Model.ReferencePlatform
import OpenBus.Proofs.RegistryCalls

/-! # The verdict of the server

A request passes exactly when its credential fulfils all the conditions, and one that does not
pass leaves no chain behind and no ticket spent on a session it did not prove to hold. The second
part follows an accepted chain to the readers: `getCallerChain` replaces the signed target by
the entity of the connection, which is harmless for version 2.0, where the chain test compares
the two, and hides the difference for version 2.1, where it does not.
-/

namespace OpenBus

open Machine

namespace ServerInterceptor

namespace Reference

/-- A connection logged in to the bus as the entity `S`. -/
def connection : Connection :=
  { (Connection.init ⟨[2]⟩ true).loginInit ReferencePlatform.facets with
    loginInfo := some ⟨ascii "s", ascii "S"⟩
    state := .logged }

def orb : Orb := { Orb.init (fun _ => connection) (fun _ => true) with defConn := some 0 }

def registry : LoginRegistry where
  getLoginInfo id := .ok (⟨id, ascii "C"⟩, [3])
  getLoginValidity _ := .ok 60
  created := 0
  tested := 0
  renewed := 0

def environment : ServerWorld where
  onCallDispatch := none
  registry := registry
  dispatchId := .replicate 16 1
  currentId := .replicate 16 2
  sessionId := 5
  secret := .replicate 16 4
  nonce := 0

/-- A chain which the bus has signed for calls of the login `c` to an entity. -/
def chainTo (target : Identifier) : SignedData :=
  let encoded := referencePlatform.encodeValue
    (.callChain ⟨ascii "B", target, [], ⟨ascii "c", ascii "C"⟩⟩)
  ⟨ReferencePlatform.sign ⟨[1]⟩ (referencePlatform.sha256 encoded), encoded⟩

/-- A request which carries a credential of version 2.1. -/
def requestOf (credential : CredentialData) : ServerRequest :=
  carrying referencePlatform (ascii "op") .current credential

/-- The outcome of a request. -/
def handled (world : ServerWorld) (credential : CredentialData) (orb : Orb) :
    Except Exception Unit × Dispatch :=
  handleCredential referencePlatform world (requestOf credential) .current credential (.arrival orb)

theorem received (world : ServerWorld) (credential : CredentialData) (orb : Orb) :
    receiveRequestServiceContexts referencePlatform world (requestOf credential) (.arrival orb) =
      handled world credential orb :=
  receiveRequestServiceContexts_carrying ReferencePlatform.codecInverts
    ReferencePlatform.codecRefuses _ _ _ _

/-- The credential of the first request of the login `c`, which has no session. -/
def firstCredential : CredentialData :=
  ⟨ascii "B", ascii "c", 0, 0, .replicate 32 0, ⟨.replicate 256 0, []⟩⟩

/-- The server after it has answered the first request with a session. -/
def served : Orb := (handled environment firstCredential orb).2.orb

/-- A credential over this session. -/
def credential (target : Identifier) : CredentialData :=
  ⟨ascii "B", ascii "c", 5, 1, hash referencePlatform .current (ascii "op") 1 environment.secret,
    chainTo target⟩

def dispatched (target : Identifier) : Dispatch :=
  (handled environment (credential target) served).2

theorem accepts_addressed :
    receiveRequestServiceContexts referencePlatform environment (requestOf (credential (ascii "S")))
      (.arrival served) = (.ok (), dispatched (ascii "S")) := by
  rw [received]
  exact Prod.ext (by decide +kernel) (by rw [dispatched])

theorem accepts_foreign :
    receiveRequestServiceContexts referencePlatform environment (requestOf (credential (ascii "T")))
      (.arrival served) = (.ok (), dispatched (ascii "T")) := by
  rw [received]
  exact Prod.ext (by decide +kernel) (by rw [dispatched])

end Reference

variable {platform : Platform}

/-- Sessions keep their tickets, but for the one whose hash and login the credential has, and
for a session which the request has created. -/
def TicketsKept {Registry : Type} (platform : Platform) (world : ServerWorld Registry)
    (request : ServerRequest) (protocol : Protocol) (credential : CredentialData)
    (before after : LRUCache ULong Session) : Prop :=
  ∀ id session, after.find id = some session →
    before.find id = some session ∨
    (id = credential.session ∧ ∃ held, before.find id = some held ∧
      held.remoteId = credential.login ∧
      hash platform protocol request.operation credential.ticket held.secret = credential.hash) ∨
    (id = world.sessionId ∧ ∃ login, session = Session.init world login)

section Verdict

variable {Registry : Type} {world : ServerWorld Registry} {request : ServerRequest}

variable (platform world request) in
theorem ticketsKept_sessionsAfterCheck (protocol : Protocol) (credential : CredentialData)
    (sessions : LRUCache ULong Session) :
    TicketsKept platform world request protocol credential sessions
      (sessionsAfterCheck platform request protocol credential sessions) := by
  intro id session found
  unfold sessionsAfterCheck at found
  cases held : sessions.find credential.session with
  | none =>
    rw [held] at found
    exact .inl ((LRUCache.find_fetch ..).symm.trans found)
  | some session' =>
    simp only [held] at found
    split at found
    · next fits =>
      rw [LRUCache.find_assign] at found
      split at found
      · next same => exact .inr (.inl ⟨same, session', same ▸ held, fits.2, fits.1⟩)
      · exact .inl ((LRUCache.find_fetch ..).symm.trans found)
    · exact .inl ((LRUCache.find_fetch ..).symm.trans found)

theorem TicketsKept.insert {protocol : Protocol} {credential : CredentialData}
    {before after : LRUCache ULong Session}
    (kept : TicketsKept platform world request protocol credential before after)
    (login : Identifier) :
    TicketsKept platform world request protocol credential before
      (after.insert world.sessionId (Session.init world login)) := by
  intro id session found
  rcases LRUCache.find_insert_cases found with ⟨same, created⟩ | ⟨-, present⟩
  · exact .inr (.inr ⟨same, login, created⟩)
  · exact kept id session present

variable (platform world request) in
theorem handleCredentialWith_ticketsKept (validate : Validation) (protocol : Protocol)
    (credential : CredentialData) (s : Dispatch) :
    TicketsKept platform world request protocol credential
      (validatedState world request validate credential s).sessions
      (handleCredentialWith platform world request validate protocol credential s).2.sessions := by
  have tested := ticketsKept_sessionsAfterCheck platform world request protocol credential
    (validatedState world request validate credential s).sessions
  rcases handleCredentialWith_sessions platform world request validate protocol credential s with
    ⟨e, t, -, handled, same⟩ | ⟨ref, caller, valid, u, r, t, -, handled, judged, -, effect⟩
  · rw [handled, same]
    exact fun _ _ found => .inl found
  · rw [handled]
    rcases effect with same | ⟨e, -, -, inserted⟩
    · rw [same, judged]
      exact tested
    · rw [inserted, judged]
      exact tested.insert _

end Verdict

/-- Server acceptance is exact, whatever the callback and the calls of the registry do to the ORB.
The tickets are those of the sessions which the test of the request finds. -/
theorem receiveRequestServiceContexts_exact (codec : platform.CodecRefuses)
    (world : ServerWorld RegistryCalls) (request : ServerRequest) (s : Dispatch) :
    ((Calling.receiveRequestServiceContexts platform world request s).1 = .ok () ↔
      ∃ credential d u ref caller,
        getCredential platform request (judged request) = .ok credential ∧
        Calling.Accepts platform world request (judged request) credential s d u ref caller) ∧
    ∀ e t, Calling.receiveRequestServiceContexts platform world request s = (.error e, t) →
      t.slots .signedCallChain = s.slots .signedCallChain ∧
      (∀ refused, getCredential platform request (judged request) = .error refused → t = s) ∧
      ∀ credential, getCredential platform request (judged request) = .ok credential →
        TicketsKept platform world request (judged request) credential
          (validatedState world request (Calling.validateCaller platform world) credential s).sessions
          t.sessions := by
  rw [Calling.receiveRequestServiceContexts_eq codec, receiveCredentialWith]
  rcases present : getCredential platform request (judged request) with refused | credential
  · constructor
    · simp [Action.bind_apply]
    · intro e t failed
      cases failed
      exact ⟨rfl, fun _ _ => rfl, fun _ impossible => (by cases impossible)⟩
  · simp only [Action.bind_apply, Action.ofExcept_apply]
    constructor
    · constructor
      · intro accepted
        obtain ⟨d, u, ref, caller, accepts, -⟩ := Calling.handleCredential_ok_iff.mp
          (Prod.ext accepted rfl : Calling.handleCredential platform world request (judged request)
            credential s = (.ok (), _))
        exact ⟨credential, d, u, ref, caller, rfl, accepts⟩
      · rintro ⟨_, d, u, ref, caller, same, accepts⟩
        cases same
        have ran : Calling.handleCredential platform world request (judged request) credential s =
            _ := Calling.handleCredential_ok_iff.mpr ⟨d, u, ref, caller, accepts, rfl⟩
        exact congrArg Prod.fst ran
    · intro e t failed
      refine ⟨handleCredentialWith_error_keeps Calling.validateCaller_keeps_signedSlot failed,
        fun _ impossible => (by cases impossible), ?_⟩
      intro _ same
      cases same
      have kept := handleCredentialWith_ticketsKept platform world request
        (Calling.validateCaller platform world) (judged request) credential s
      rwa [failed] at kept

theorem receiveRequestServiceContexts_exact_call :
    ∃ credential d u ref caller,
      getCredential referencePlatform (Reference.requestOf (Reference.credential (ascii "S")))
        (judged (Reference.requestOf (Reference.credential (ascii "S")))) = .ok credential ∧
      Calling.Accepts referencePlatform Reference.environment.calling
        (Reference.requestOf (Reference.credential (ascii "S")))
        (judged (Reference.requestOf (Reference.credential (ascii "S")))) credential
        (.arrival Reference.served) d u ref caller :=
  (receiveRequestServiceContexts_exact ReferencePlatform.codecRefuses Reference.environment.calling
    (Reference.requestOf (Reference.credential (ascii "S"))) (.arrival Reference.served)).1.mp (by
      rw [Calling.receiveRequestServiceContexts_calling]
      exact congrArg Prod.fst Reference.accepts_addressed)

/-- While the registry renews the validity of the caller, the connection is logged out and in
again. -/
def Reference.relogging : ServerWorld RegistryCalls :=
  { Reference.environment.calling with
    registry := { Reference.registry.calls with
      tested := 60
      getLoginValidity := fun _ => do
        modify fun orb => (orb.updateConnection 0 fun _ => Reference.connection).clearCaches
        return ⟨60, false⟩ } }

example : (Calling.receiveRequestServiceContexts referencePlatform Reference.relogging
    (Reference.requestOf (Reference.credential (ascii "S"))) (.arrival Reference.served)).1 =
      .error (.noPermission invalidCredentialCode) := by decide +kernel

variable {world : ServerWorld} {request : ServerRequest}

section Receiver

/-- The ORB as the servant finds it: its thread has the slots of the request. -/
def servantOrb (d : Dispatch) : Orb := { d.orb with piCurrent := d.slots }

/-- The fields of a chain which an application can read. -/
structure ChainView where
  busid : Identifier
  target : Identifier
  originators : List LoginInfo
  caller : LoginInfo

def viewOf (chain : CallerChain) : ChainView :=
  ⟨chain.busid, chain.target, chain.originators, chain.caller⟩

/-- The same fields as the bus signed them; a chain of version 2.0 belongs to the bus whose key
verifies it. -/
def signedView (platform : Platform) (protocol : Protocol) (busid : Identifier)
    (signedChain : SignedData) : Except Exception ChainView :=
  match protocol with
  | .current => (Orb.decodeChainData platform signedChain).map fun chain =>
      ⟨chain.bus, chain.target, chain.originators, chain.caller⟩
  | .legacy => (Orb.decodeLegacyChainData platform signedChain).map fun chain =>
      ⟨busid, chain.target, chain.originators, chain.caller⟩

variable (platform request) in
/-- The connection that receives a call is found under the identifier saved in its slots. -/
theorem getCurrentConnection_servantOrb {d : Dispatch} {ref : ConnRef}
    (fresh : world.dispatchId ≠ world.currentId)
    (unused : (d.orb.piCurrent .currentConnection).toUuid? ≠ some world.dispatchId)
    (alive : d.orb.alive ref = true) (protocol : Protocol) (credential : CredentialData)
    (after : LoginCache) (chain : Any) :
    (servantOrb ((judgedState platform world request protocol credential d ref after).setSlot
      .signedCallChain chain)).getCurrentConnection = some ref := by
  have slot : (servantOrb ((judgedState platform world request protocol credential d ref
      after).setSlot .signedCallChain chain)).piCurrent .currentConnection =
        .uuid world.dispatchId := rfl
  have kept : (servantOrb ((judgedState platform world request protocol credential d ref
      after).setSlot .signedCallChain chain)).id2conn world.dispatchId = some (some ref) := by
    change ((Orb.setCurrentConnection world.currentId (some ref) { d.orb with
      id2conn := Function.update d.orb.id2conn world.dispatchId (some (some ref)) }).id2conn
        world.dispatchId) = _
    unfold Orb.setCurrentConnection
    cases current : (d.orb.piCurrent .currentConnection).toUuid? with
    | none => simp [Orb.setSlot, fresh]
    | some id =>
      have other : world.dispatchId ≠ id := fun same => unused (by rw [current, same])
      simp [Orb.setSlot, fresh, other]
  have living : (servantOrb ((judgedState platform world request protocol credential d ref
      after).setSlot .signedCallChain chain)).alive ref = true := by
    change (Orb.setCurrentConnection world.currentId (some ref) _).alive ref = true
    unfold Orb.setCurrentConnection
    split <;> exact alive
  rw [Orb.getCurrentConnection, slot]
  simp only [Any.toUuid?, kept, Orb.lock, Option.filter_some, living, if_true]

/-- The chain of an accepted request is addressed to the entity of the connection, and what the
application reads of it is what the bus signed. -/
def AddressedToReceiver (platform : Platform) (protocol : Protocol) (credential : CredentialData)
    (conn : Connection) (orb : Orb) : Prop :=
  ∃ view login, signedView platform protocol conn.busid credential.chain = .ok view ∧
    conn.loginInfo = some login ∧ view.target = login.entity ∧
    (orb.getCallerChain platform).map viewOf = .ok view

/-- The connections of an accepted request, but for the cache of logins of the one it reached. -/
theorem connections_judgedState (protocol : Protocol) (credential : CredentialData) (d : Dispatch)
    (ref : ConnRef) (after : LoginCache) :
    (judgedState platform world request protocol credential d ref after).orb.connections ref =
      { d.orb.connections ref with loginCache := some after } := by
  simp [judgedState, Dispatch.setSessions, Dispatch.updateOrb, Orb.setSessions, Orb.setLoginCache,
    Orb.updateConnection]

theorem getCallerChain_of_signedData {orb : Orb} {ref : ConnRef} {signedChain : SignedData}
    (current : orb.getCurrentConnection = some ref)
    (slot : orb.piCurrent .signedCallChain = .signedData signedChain)
    (nonempty : signedChain.encoded ≠ []) :
    orb.getCallerChain platform =
      Orb.extractCallChain platform signedChain (orb.connections ref) := by
  simp only [Orb.getCallerChain, current, slot, Any.extractSignedData]
  exact if_neg (fun empty => nonempty (List.length_eq_zero_iff.mp empty))

theorem getCallerChain_of_signedCallChain {orb : Orb} {ref : ConnRef} {signedChain : SignedData}
    (current : orb.getCurrentConnection = some ref)
    (slot : orb.piCurrent .signedCallChain = .signedCallChain signedChain)
    (nonempty : signedChain.encoded ≠ []) :
    orb.getCallerChain platform =
      Orb.extractLegacyCallChain platform signedChain (orb.connections ref) := by
  simp only [Orb.getCallerChain, current, slot, Any.extractSignedData, Any.extractSignedCallChain]
  have absent : (default : SignedData).encoded.length = 0 := rfl
  rw [if_pos absent, if_pos (fun empty => nonempty (List.length_eq_zero_iff.mp empty))]

/-- What the readers make of a chain that the chain test has passed. -/
theorem addressedToReceiver_iff {orb : Orb} {ref : ConnRef} {protocol : Protocol}
    {credential : CredentialData} {caller : Login}
    (current : orb.getCurrentConnection = some ref)
    (slot : orb.piCurrent .signedCallChain = .ofSignedChain protocol credential.chain)
    (logged : (orb.connections ref).loginInfo ≠ none)
    (chained : ChainAccepts platform protocol credential caller (orb.connections ref)) :
    AddressedToReceiver platform protocol credential (orb.connections ref) orb ↔
      protocol = .legacy ∨ ∃ chain login,
        Orb.decodeChainData platform credential.chain = .ok chain ∧
        (orb.connections ref).loginInfo = some login ∧ chain.target = login.entity := by
  obtain ⟨login, info⟩ := Option.ne_none_iff_exists'.mp logged
  obtain ⟨nonempty, -, chained⟩ := chained
  cases protocol with
  | current =>
    obtain ⟨chain, decoded, -, -⟩ := chained
    have read : (orb.getCallerChain platform).map viewOf =
        .ok ⟨chain.bus, login.entity, chain.originators, chain.caller⟩ := by
      rw [getCallerChain_of_signedData current slot nonempty, Orb.extractCallChain, decoded,
        Orb.loginEntity, info]
      rfl
    have signed : signedView platform .current (orb.connections ref).busid credential.chain =
        .ok ⟨chain.bus, chain.target, chain.originators, chain.caller⟩ := by
      rw [signedView, decoded]
      rfl
    simp only [AddressedToReceiver, read, signed, info, decoded]
    grind
  | legacy =>
    obtain ⟨chain, login', decoded, info', target, -⟩ := chained
    obtain rfl : login = login' := Option.some.inj (info.symm.trans info')
    refine iff_of_true ⟨⟨(orb.connections ref).busid, chain.target, chain.originators,
      chain.caller⟩, login, ?_, info, target, ?_⟩ (.inl rfl)
    · rw [signedView, decoded]
      rfl
    · rw [getCallerChain_of_signedCallChain current slot nonempty, Orb.extractLegacyCallChain,
        decoded, Orb.loginEntity, info, target]
      rfl

/-- An accepted request is addressed to its receiver if it was judged by version 2.0, and for
version 2.1 exactly if its caller happens to send such a chain. -/
theorem accepted_addressed_iff (codec : platform.CodecRefuses) {credential : CredentialData}
    {s t : Dispatch}
    (present : getCredential platform request (judged request) = .ok credential)
    (fresh : world.dispatchId ≠ world.currentId)
    (unused : ((callbackState world request credential s).orb.piCurrent
      .currentConnection).toUuid? ≠ some world.dispatchId)
    (held : ∀ ref, (callDispatch world request credential.bus credential.login s).1 =
      .ok (some ref) → (callbackState world request credential s).orb.alive ref = true)
    (accepted : receiveRequestServiceContexts platform world request s = (.ok (), t)) :
    ∃ ref, (servantOrb t).getCurrentConnection = some ref ∧
      (AddressedToReceiver platform (judged request) credential (t.orb.connections ref)
          (servantOrb t) ↔
        judged request = .legacy ∨ ∃ chain login,
          Orb.decodeChainData platform credential.chain = .ok chain ∧
          (t.orb.connections ref).loginInfo = some login ∧ chain.target = login.entity) := by
  rw [receiveRequestServiceContexts_eq codec, receiveCredential_eq, present] at accepted
  obtain ⟨d, ref, caller, after, ⟨dispatched, -, chained⟩, rfl⟩ :=
    handleCredential_ok_iff.mp accepted
  obtain ⟨chosen, called, found⟩ := dispatched.chosen
  obtain rfl : callbackState world request credential s = d := congrArg Prod.snd called
  have alive : (callbackState world request credential s).orb.alive ref = true := by
    cases chosen with
    | none => exact (Option.filter_eq_some_iff.mp found).2
    | some other =>
      obtain rfl : other = ref := Option.some.inj found
      exact held other (congrArg Prod.fst called)
  have current := getCurrentConnection_servantOrb platform request fresh unused alive (judged request)
    credential after
    (.ofSignedChain (judged request) credential.chain)
  refine ⟨ref, current, ?_⟩
  apply addressedToReceiver_iff current rfl
  · change ((judgedState platform world request (judged request) credential _ ref
      after).orb.connections ref).loginInfo ≠ none
    rw [connections_judgedState]
    exact dispatched.logged
  · have kept : ChainAccepts platform (judged request) credential caller
        ((judgedState platform world request (judged request) credential _ ref
          after).orb.connections ref) := chainAccepts_judgedState.mpr chained
    exact kept

theorem accepted_addressed_iff_call :
    ∃ ref, (servantOrb (Reference.dispatched (ascii "S"))).getCurrentConnection = some ref ∧
      (AddressedToReceiver referencePlatform .current (Reference.credential (ascii "S"))
          ((Reference.dispatched (ascii "S")).orb.connections ref)
          (servantOrb (Reference.dispatched (ascii "S"))) ↔
        Protocol.current = .legacy ∨ ∃ chain login,
          Orb.decodeChainData referencePlatform (Reference.chainTo (ascii "S")) = .ok chain ∧
          ((Reference.dispatched (ascii "S")).orb.connections ref).loginInfo = some login ∧
          chain.target = login.entity) := by
  have version : judged (Reference.requestOf (Reference.credential (ascii "S"))) = .current :=
    judged_carrying _ _ _ _
  have present : getCredential referencePlatform (Reference.requestOf (Reference.credential (ascii "S")))
      (judged (Reference.requestOf (Reference.credential (ascii "S")))) =
        .ok (Reference.credential (ascii "S")) := by
    rw [version]
    exact getCredential_carrying ReferencePlatform.codecInverts _ _ _
  have fresh : Reference.environment.dispatchId ≠ Reference.environment.currentId := by
    decide +kernel
  have unused : ((callbackState Reference.environment
      (Reference.requestOf (Reference.credential (ascii "S"))) (Reference.credential (ascii "S"))
      (.arrival Reference.served)).orb.piCurrent .currentConnection).toUuid? ≠
        some Reference.environment.dispatchId := by
    decide +kernel
  have held : ∀ ref, (callDispatch Reference.environment
      (Reference.requestOf (Reference.credential (ascii "S")))
      (Reference.credential (ascii "S")).bus (Reference.credential (ascii "S")).login
      (.arrival Reference.served)).1 = .ok (some ref) →
      (callbackState Reference.environment (Reference.requestOf (Reference.credential (ascii "S")))
        (Reference.credential (ascii "S")) (.arrival Reference.served)).orb.alive ref = true := by
    intro ref chosen
    simp [callDispatch, Reference.environment] at chosen
  have addressed := accepted_addressed_iff ReferencePlatform.codecRefuses present fresh unused held
    Reference.accepts_addressed
  rwa [version] at addressed

/-- The server accepts a chain which the bus has signed for calls to another entity, and the
servant reads its own entity in the place of that one. -/
theorem accepted_chain_of_other_target :
    receiveRequestServiceContexts referencePlatform Reference.environment
        (Reference.requestOf (Reference.credential (ascii "T"))) (.arrival Reference.served) =
      (.ok (), Reference.dispatched (ascii "T")) ∧
    (servantOrb (Reference.dispatched (ascii "T"))).getCurrentConnection = some 0 ∧
    ¬ AddressedToReceiver referencePlatform .current (Reference.credential (ascii "T"))
      ((Reference.dispatched (ascii "T")).orb.connections 0)
      (servantOrb (Reference.dispatched (ascii "T"))) := by
  refine ⟨Reference.accepts_foreign, by decide +kernel, ?_⟩
  rintro ⟨view, login, signed, info, addressed, -⟩
  have chain : Orb.decodeChainData referencePlatform (Reference.chainTo (ascii "T")) =
      .ok ⟨ascii "B", ascii "T", [], ⟨ascii "c", ascii "C"⟩⟩ := by decide +kernel
  have receiver : ((Reference.dispatched (ascii "T")).orb.connections 0).loginInfo =
      some ⟨ascii "s", ascii "S"⟩ := by decide +kernel
  rw [signedView, Reference.credential, chain] at signed
  cases signed
  obtain rfl := Option.some.inj (receiver.symm.trans info)
  revert addressed
  decide +kernel

end Receiver

end ServerInterceptor

end OpenBus
