import OpenBus.Proofs.Chains
import OpenBus.Soundness.ChainCache
import OpenBus.Soundness.Handshake

/-! # The callers of a nested call

A service that joins the chain of the call it serves makes calls of its own within it, and the bus
signs their chains as continuations of the one joined. A servant at the end of such a path reads the
logins of all the callers before it, each one once and in the order in which they have called, also
where a chain on the way has come from a cache.
-/

namespace OpenBus

open Machine ClientInterceptor ServerInterceptor

namespace CallPath

/-- A chain which the bus has signed for an entity tells who has called, the last one at the end. -/
structure Tells (platform : Platform) (bus entity : Identifier) (callers : List LoginInfo)
    (signedChain : SignedData) : Prop where
  nonempty : signedChain.encoded ≠ []
  decoded : ∃ call, Orb.decodeChainData platform signedChain = .ok call ∧ call.bus = bus ∧
    call.target = entity ∧ call.originators ++ [call.caller] = callers

/-- The callers which the joined chain tells, none if no chain is joined. -/
def Joined (platform : Platform) (bus : Identifier) (callers : List LoginInfo) :
    Option (Protocol × SignedData) → Prop
  | none => callers = []
  | some (.current, signedChain) => ∃ entity, Tells platform bus entity callers signedChain
  | some (.legacy, _) => False

/-- `signChainFor`, as documented: the chain within which a login calls the bus is continued by that
login, for the entity it asks for. -/
def Continues (platform : Platform) (bus : Identifier) (world : ClientWorld) (ref : ConnRef)
    (login : LoginInfo) : Prop :=
  ∀ entity callers orb signedChain t, (orb.connections ref).loginInfo = some login →
    Joined platform bus callers (orb.piCurrent .joinedCallChain).half →
    world.signChainFor .current ref entity orb = (.ok signedChain, t) →
    Tells platform bus entity (callers ++ [login]) signedChain

/-- The same of a chain that has been signed before, under a login which the bus knows. -/
def Continued (platform : Platform) (bus : Identifier) (logins : Identifier → LoginInfo) :
    ChainEvent → Prop
  | .signed signing under signedChain => signing.protocol = .current → ∀ callers,
      Joined platform bus callers signing.joinedChain →
      Tells platform bus signing.target (callers ++ [logins under]) signedChain
  | _ => True

/-- A call of a nested path: the process of the caller with the history of its cached chains, the
request it sends over a session, and the process that serves the request. -/
structure Call where
  world : ClientWorld
  request : ClientRequest
  history : List ChainEvent
  client : Orb
  ref : ConnRef
  login : LoginInfo
  chain : CallerChain
  remoteId : Identifier
  session : SecretSession
  sent : Invocation
  callee : ServerWorld
  server : Orb
  served : Dispatch

namespace Call

/-- The credential, but for its chain. -/
def credential (platform : Platform) (call : Call) (bus : Identifier) (signedChain : SignedData) :
    CredentialData :=
  ⟨bus, call.login.id, call.session.id, call.session.ticket + 1,
    hash platform .current call.request.operation (call.session.ticket + 1) call.session.secret,
    signedChain⟩

def lookup (call : Call) : Lookup :=
  ⟨.current, call.ref, call.login.id, call.client.piCurrent .joinedCallChain, call.chain,
    { call.session with ticket := call.session.ticket + 1 }⟩

/-- A logged connection sends the request over a session of version 2.1 with another login. -/
structure Sends (platform : Platform) (call : Call) : Prop where
  attends : ignoreRequest call.client = false
  current : (getCurrentConnection call.client).1 = .ok call.ref
  unscoped : LoginInfo.equal default (ClientInterceptor.login call.client) = true
  logged : (call.client.connections call.ref).loginInfo = some call.login
  identified : call.login.id ≠ []
  cached : cachedSession platform call.request (call.client.connections call.ref) =
    some (call.remoteId, call.session)
  version : call.session.isLegacy = false
  remote : call.session.remoteId ≠ busLogin
  chained : getJoinedChain platform call.ref call.client = .ok call.chain
  sent : sendRequest platform call.world call.request ⟨call.client, fun _ => none⟩ =
    (.ok (), call.sent)

/-- The bus continues chains as it should, and no cached chain is mistaken for another one. -/
structure Trusts (platform : Platform) (bus : Identifier) (logins : Identifier → LoginInfo)
    (call : Call) : Prop where
  run : Run (chainMachine platform) call.history call.client
  known : logins call.login.id = call.login
  continues : Continues platform bus call.world call.ref call.login
  continued : ∀ e ∈ call.history, Continued platform bus logins e
  distinct : Always (NotConfused platform) call.history
  unconfused : ∀ signedChain, NotConfused platform call.history (.served call.lookup signedChain)
  assumed : Assumed platform (insert call.lookup (lookupsOf call.history))

/-- The request as the server receives it. -/
def received (call : Call) : ServerRequest := Handshake.received call.request call.sent

/-- The server accepts the request. The identifiers it draws are new, and the connection which its
callback chooses is held by the application. -/
structure Serves (platform : Platform) (call : Call) : Prop where
  fresh : call.callee.dispatchId ≠ call.callee.currentId
  unused : ∀ credential, getCredential platform call.received .current = .ok credential →
    ((callbackState call.callee call.received credential (.arrival call.server)).orb.piCurrent
      .currentConnection).toUuid? ≠ some call.callee.dispatchId
  held : ∀ credential, getCredential platform call.received .current = .ok credential →
    ∀ ref, (callDispatch call.callee call.received credential.bus credential.login
      (.arrival call.server)).1 = .ok (some ref) →
    (callbackState call.callee call.received credential (.arrival call.server)).orb.alive ref = true
  accepted : receiveRequestServiceContexts platform call.callee call.received
    (.arrival call.server) = (.ok (), call.served)

end Call

/-- Whether a thread is about to call, or serves a call. -/
inductive Role where
  | caller
  | servant

/-- The paths of nested calls, with the callers so far. -/
inductive Path (platform : Platform) (bus : Identifier) (logins : Identifier → LoginInfo) :
    Role → List LoginInfo → Orb → Prop
  /-- A thread that has joined no chain. -/
  | origin {orb : Orb} (alone : (orb.piCurrent .joinedCallChain).half = none) :
      Path platform bus logins .caller [] orb
  | call {callers : List LoginInfo} {call : Call}
      (path : Path platform bus logins .caller callers call.client) (sends : call.Sends platform)
      (trusts : call.Trusts platform bus logins) (serves : call.Serves platform) :
      Path platform bus logins .servant (callers ++ [call.login]) (servantOrb call.served)
  /-- The thread joins the chain of its caller, and keeps it joined. -/
  | join {callers : List LoginInfo} {servant joined client : Orb}
      (path : Path platform bus logins .servant callers servant)
      (ran : Orb.joinChain platform (.none platform) servant = (.ok (), joined))
      (same : client.piCurrent .joinedCallChain = joined.piCurrent .joinedCallChain) :
      Path platform bus logins .caller callers client

variable {platform : Platform} {bus : Identifier} {logins : Identifier → LoginInfo}

theorem joinedChain_eq_half (lookup : Lookup) : lookup.joinedChain = lookup.joined.half := by
  rw [Any.half_eq, Lookup.joinedChain]
  simp only [ne_eq, List.length_eq_zero_iff]

theorem signChainFor_of_requestSignedChain {world : ClientWorld} {protocol : Protocol}
    {ref : ConnRef} {target : Identifier} {orb t : Orb} {signedChain : SignedData}
    (ran : requestSignedChain world protocol ref target orb = (.ok signedChain, t)) :
    world.signChainFor protocol ref target orb = (.ok signedChain, t) := by
  simp only [requestSignedChain, Action.bind_apply, Action.get_apply] at ran
  cases signer : chainSigner protocol (orb.connections ref) with
  | none =>
    rw [signer] at ran
    cases ran
  | some object =>
    rw [signer] at ran
    simp only [Action.tryCatch_apply] at ran
    rcases signing : world.signChainFor protocol ref target orb with ⟨e | chain, after⟩
    · rw [signing] at ran
      dsimp only at ran
      split at ran
      · cases ran
      · split at ran <;> cases ran
    · rw [signing] at ran
      exact ran

/-- A thread that has joined no chain of version 2.0 sends none. -/
theorem isLegacy_of_joined {callers : List LoginInfo} {orb : Orb} {ref : ConnRef}
    {chain : CallerChain}
    (joined : Joined platform bus callers (orb.piCurrent .joinedCallChain).half)
    (chained : getJoinedChain platform ref orb = .ok chain) : chain.isLegacy = false := by
  rw [ClientInterceptor.getJoinedChain_eq] at chained
  cases half : (orb.piCurrent .joinedCallChain).half with
  | none =>
    rw [half] at chained
    cases chained
    rfl
  | some found =>
    rw [half] at chained joined
    obtain ⟨protocol, signedChain⟩ := found
    cases protocol with
    | current =>
      obtain ⟨call, -, rfl⟩ := map_eq_ok_iff.mp chained
      rfl
    | legacy => exact absurd joined id

/-- What a request reads of the state of its process, apart from its session. -/
def readState (ref : ConnRef) (orb : Orb) :=
  (orb.chainCache .current, orb.piCurrent, (orb.connections ref).loginInfo,
    (orb.connections ref).busid)

theorem readState_setProfile2login (ref : ConnRef) (cache : LRUCache HashValue Identifier)
    (orb : Orb) : readState ref (orb.setProfile2login ref cache) = readState ref orb := by
  simp [readState, Orb.setProfile2login, Orb.updateConnection, Orb.chainCache]

theorem readState_setLogin2session (ref : ConnRef) (cache : LRUCache Identifier SecretSession)
    (orb : Orb) : readState ref (orb.setLogin2session ref cache) = readState ref orb := by
  simp [readState, Orb.setLogin2session, Orb.updateConnection, Orb.chainCache]

variable (platform) in
/-- Finding a session moves the entries of two other caches. -/
theorem getSession_keeps_readState (request : ClientRequest) (ref : ConnRef) :
    Action.Keeps (readState ref) (getSession platform request ref) := by
  refine .bind .get fun orb => .bind (.modify fun _ => readState_setProfile2login ..) fun _ => ?_
  exact .ite (.pure _) (.bind .get fun _ => .bind (.modify fun _ => readState_setLogin2session ..)
    fun _ => .pure _)

theorem getJoinedChain_of_readState {ref : ConnRef} {orb t : Orb}
    (same : readState ref t = readState ref orb) :
    getJoinedChain platform ref t = getJoinedChain platform ref orb := by
  simp only [readState, Prod.mk.injEq] at same
  obtain ⟨-, slots, -, bus⟩ := same
  unfold getJoinedChain busid
  rw [slots, bus]

namespace Call

variable {call : Call} {callers : List LoginInfo}

/-- The chain of a call continues the joined one by its caller, whether the bus signs it now or it
has been cached. -/
theorem tells_credentialChain (sends : call.Sends platform)
    (trusts : call.Trusts platform bus logins)
    (joined : Joined platform bus callers (call.client.piCurrent .joinedCallChain).half)
    {orb after : Orb} {signedChain : SignedData}
    (state : readState call.ref orb = readState call.ref call.client)
    (ran : credentialChain platform call.world .current call.ref call.login.id call.chain
      call.lookup.session orb = (.ok signedChain, after)) :
    Tells platform bus call.session.entity (callers ++ [call.login]) signedChain := by
  simp only [readState, Prod.mk.injEq] at state
  obtain ⟨caches, slots, logged, -⟩ := state
  have asked : call.lookup.Asked platform := by
    refine ⟨⟨call.client, rfl, sends.chained⟩, ?_⟩
    have legacy := isLegacy_of_joined joined sends.chained
    simp only [lookup, usedProtocol, sends.version, legacy]
    rfl
  have remote : call.lookup.session.remoteId ≠ busLogin := sends.remote
  rw [credentialChain, if_neg remote] at ran
  change getSignedChain call.world .current call.ref (call.lookup.key platform)
    call.session.entity orb = (.ok signedChain, after) at ran
  rw [getSignedChain_eq, caches] at ran
  cases found : (call.client.chainCache .current).find (call.lookup.key platform) with
  | none =>
    rw [found] at ran
    rcases signing : requestSignedChain call.world .current call.ref call.session.entity
      (searched .current (call.lookup.key platform) orb) with ⟨e | signed, t⟩
    · simp only [signing] at ran
      cases ran
    · simp only [signing] at ran
      cases ran
      refine trusts.continues _ _ (searched .current (call.lookup.key platform) orb) _ _
        (logged.trans sends.logged) ?_ (signChainFor_of_requestSignedChain signing)
      change Joined platform bus callers (orb.piCurrent .joinedCallChain).half
      rw [slots]
      exact joined
  | some cached =>
    rw [found] at ran
    cases ran
    have served := trusts.run.step (.served asked found)
    have sound := served_of_notConfused served ⟨trusts.unconfused signedChain, trusts.distinct⟩
      (trusts.assumed.mono (by
        rintro l ⟨e, mem, found⟩
        rcases List.mem_cons.mp mem with rfl | earlier
        · cases found
          exact .inl rfl
        · exact .inr ⟨e, earlier, found⟩))
    obtain ⟨signing, signed, version, same, target⟩ := sound.1
    have told := trusts.continued _ signed version callers (by
      rw [same, joinedChain_eq_half]
      exact joined)
    rw [target] at told
    have known : logins call.lookup.login = call.login := trusts.known
    rw [known] at told
    exact told

/-- The request carries one credential, whose chain continues the joined one by the caller. -/
theorem received_eq (sends : call.Sends platform) (trusts : call.Trusts platform bus logins)
    (joined : Joined platform bus callers (call.client.piCurrent .joinedCallChain).half) :
    ∃ named signedChain, call.received = carrying platform call.request.operation .current
        (call.credential platform named signedChain) ∧
      Tells platform bus call.session.entity (callers ++ [call.login]) signedChain := by
  obtain ⟨other, found, login, after, u, chose, logging, -, attached, same⟩ :=
    (sendRequest_ok_iff sends.attends).mp sends.sent
  obtain rfl : call.ref = other := Except.ok.inj (sends.current.symm.trans (congrArg Prod.fst chose))
  obtain ⟨id2conn, moved⟩ := getCurrentConnection_snd call.client
  rw [show (getCurrentConnection call.client).2 = found from congrArg Prod.snd chose] at moved
  have state : readState call.ref found = readState call.ref call.client := by
    rw [moved]
    rfl
  have connections : found.connections = call.client.connections := by rw [moved]
  have unscoped : LoginInfo.equal default (ClientInterceptor.login found) = true := by
    rw [moved]
    exact sends.unscoped
  rw [currLogin_of_logged unscoped (connections ▸ sends.logged) sends.identified] at logging
  cases logging
  obtain ⟨hit, orb, chain, searched, chained, rest⟩ := attachCredential_ok_iff.mp attached
  have cached := getSession_fst platform call.request call.ref found
  rw [searched, connections, sends.cached] at cached
  cases cached
  have kept : readState call.ref orb = readState call.ref call.client :=
    ((getSession_keeps_readState platform call.request call.ref).of_run searched).trans state
  obtain rfl : call.chain = chain := by
    rw [getJoinedChain_of_readState kept] at chained
    exact Except.ok.inj (sends.chained.symm.trans chained)
  obtain ⟨credential, final, filled, rfl⟩ := rest
  have version : usedProtocol call.session call.chain = .current := by
    simp only [usedProtocol, sends.version, isLegacy_of_joined joined sends.chained]
    rfl
  rw [version] at filled same
  obtain ⟨signedChain, ran, rfl⟩ := sessionCredential_ok_iff.mp filled
  refine ⟨busid orb call.ref, signedChain, ?_, tells_credentialChain sends trusts joined
    ((readState_setLogin2session ..).trans kept) ran⟩
  rw [received, ← same]
  rfl

/-- A servant finds the connection that has received the call, and the chain of its credential. -/
theorem servant_of_carrying (inverts : platform.CodecInverts) (refuses : platform.CodecRefuses)
    (serves : call.Serves platform) {operation : Identifier} {credential : CredentialData}
    (carried : call.received = carrying platform operation .current credential) :
    ∃ ref, (servantOrb call.served).getCurrentConnection = some ref ∧
      ((servantOrb call.served).connections ref).loginInfo ≠ none ∧
      (servantOrb call.served).piCurrent .signedCallChain = .signedData credential.chain := by
  have present : getCredential platform call.received .current = .ok credential := by
    rw [carried]
    exact getCredential_carrying inverts _ _ _
  have accepted := serves.accepted
  have unused := serves.unused credential present
  have held := serves.held credential present
  rw [carried] at accepted unused held
  rw [receiveRequestServiceContexts_carrying inverts refuses] at accepted
  obtain ⟨d, ref, caller, after, ⟨dispatched, -, -⟩, same⟩ := handleCredential_ok_iff.mp accepted
  obtain ⟨chosen, called, found⟩ := dispatched.chosen
  have state : callbackState call.callee (carrying platform operation .current credential) credential
      (.arrival call.server) = d := congrArg Prod.snd called
  rw [state] at unused held
  have alive : d.orb.alive ref = true := by
    cases chosen with
    | none => exact (Option.filter_eq_some_iff.mp found).2
    | some other =>
      obtain rfl : other = ref := Option.some.inj found
      exact held other (congrArg Prod.fst called)
  rw [← same]
  refine ⟨ref, getCurrentConnection_servantOrb platform
    (carrying platform operation .current credential) serves.fresh unused alive .current credential
    after _, ?_, rfl⟩
  change ((judgedState platform call.callee (carrying platform operation .current credential) .current
    credential d ref after).orb.connections ref).loginInfo ≠ none
  rw [connections_judgedState]
  exact dispatched.logged

end Call

/-- What a thread on a path has in its slots. -/
def Knows (platform : Platform) (bus : Identifier) (callers : List LoginInfo) (orb : Orb) :
    Role → Prop
  | .caller => Joined platform bus callers (orb.piCurrent .joinedCallChain).half
  | .servant => ∃ ref entity signedChain, orb.getCurrentConnection = some ref ∧
      (orb.connections ref).loginInfo ≠ none ∧
      orb.piCurrent .signedCallChain = .signedData signedChain ∧
      Tells platform bus entity callers signedChain ∧
      ∃ before login, callers = before ++ [login] ∧ login.id ≠ []

/-- A servant reads the callers which the chain tells. -/
theorem getCallerChain_of_tells {orb : Orb} {ref : ConnRef} {entity : Identifier}
    {callers : List LoginInfo} {signedChain : SignedData}
    (current : orb.getCurrentConnection = some ref)
    (logged : (orb.connections ref).loginInfo ≠ none)
    (slot : orb.piCurrent .signedCallChain = .signedData signedChain)
    (tells : Tells platform bus entity callers signedChain) :
    ∃ chain, orb.getCallerChain platform = .ok chain ∧ chain.busid = bus ∧
      chain.originators ++ [chain.caller] = callers ∧ chain.signedChain = signedChain := by
  obtain ⟨nonempty, call, decoded, named, -, told⟩ := tells
  obtain ⟨login, info⟩ := Option.ne_none_iff_exists'.mp logged
  refine ⟨.ofCallChain platform call login.entity signedChain, ?_, named, told, rfl⟩
  rw [getCallerChain_of_signedData current slot nonempty, Orb.extractCallChain, decoded,
    Orb.loginEntity, info]
  rfl

theorem knows (inverts : platform.CodecInverts) (refuses : platform.CodecRefuses) {role : Role}
    {callers : List LoginInfo} {orb : Orb} (path : Path platform bus logins role callers orb) :
    Knows platform bus callers orb role := by
  induction path with
  | @origin orb alone =>
    change Joined platform bus [] _
    rw [alone]
    rfl
  | @call callers call path sends trusts serves ih =>
    obtain ⟨named, signedChain, carried, tells⟩ := call.received_eq sends trusts ih
    obtain ⟨ref, current, logged, slot⟩ := call.servant_of_carrying inverts refuses serves carried
    exact ⟨ref, _, signedChain, current, logged, slot, tells, callers, call.login, rfl,
      sends.identified⟩
  | @join callers servant joined client path ran same ih =>
    obtain ⟨ref, entity, signedChain, current, logged, slot, tells, before, login, ended, named⟩ := ih
    obtain ⟨chain, read, -, told, signed⟩ := getCallerChain_of_tells current logged slot tells
    have caller : chain.caller = login := by
      rw [ended] at told
      simpa using (List.append_inj' told rfl).2
    have present : chain.equal (.none platform) = false := not_equal_none (caller ▸ named)
    have half : chain.half = some (.current, signedChain) := by
      rw [CallerChain.half, signed, if_pos tells.nonempty]
    rw [Orb.joinChain_apply, Orb.chainToJoin, if_pos (CallerChain.equal_none_self platform), read]
      at ran
    obtain ⟨t, set, -, left⟩ := Orb.setJoinedChain_apply platform chain servant
    obtain rfl : t = joined := congrArg Prod.snd (set.symm.trans ran)
    change Joined platform bus callers (client.piCurrent .joinedCallChain).half
    rw [same, left, present, if_neg (by simp), half]
    exact ⟨entity, tells⟩

/-- The servant at the end of a path of accepted calls reads the logins of all the callers, in the
order in which they have called. -/
theorem reads_callers (inverts : platform.CodecInverts) (refuses : platform.CodecRefuses)
    {callers : List LoginInfo} {servant : Orb}
    (path : Path platform bus logins .servant callers servant) :
    ∃ chain, servant.getCallerChain platform = .ok chain ∧ chain.busid = bus ∧
      chain.originators ++ [chain.caller] = callers := by
  obtain ⟨ref, entity, signedChain, current, logged, slot, tells, -⟩ := knows inverts refuses path
  obtain ⟨chain, read, named, told, -⟩ := getCallerChain_of_tells current logged slot tells
  exact ⟨chain, read, named, told⟩

namespace Reference

open ReferencePlatform (facets codecInverts codecRefuses)
open ClientInterceptor.Reference (call)

/-- What the bus signs for an entity, within a chain of callers. -/
def signed (entity : Identifier) (callers : List LoginInfo) (login : LoginInfo) : SignedData :=
  let encoded := referencePlatform.encodeValue (.callChain ⟨ascii "B", entity, callers, login⟩)
  ⟨ReferencePlatform.sign ⟨[1]⟩ (referencePlatform.sha256 encoded), encoded⟩

theorem tells_signed (entity : Identifier) (callers : List LoginInfo) (login : LoginInfo) :
    Tells referencePlatform (ascii "B") entity (callers ++ [login]) (signed entity callers login) := by
  have decoded := codecInverts (.callChain ⟨ascii "B", entity, callers, login⟩)
  refine ⟨fun empty => List.cons_ne_nil _ _ empty, ⟨ascii "B", entity, callers, login⟩, ?_, rfl, rfl,
    rfl⟩
  rw [Orb.decodeChainData, signed]
  exact congrArg (Except.map Any.extractCallChain) decoded

/-- The callers in the joined chain of a thread. -/
def callersOf (orb : Orb) : List LoginInfo :=
  match (orb.piCurrent .joinedCallChain).half with
  | some (.current, signedChain) =>
      match Orb.decodeChainData referencePlatform signedChain with
      | .ok call => call.originators ++ [call.caller]
      | .error _ => []
  | _ => []

/-- A bus that continues the joined chain. -/
def signer : ClientWorld :=
  { ClientInterceptor.Reference.environment with
    signChainFor := fun _ ref entity orb =>
      (.ok (signed entity (callersOf orb) ((orb.connections ref).loginInfo.getD default)), orb) }

theorem continues (ref : ConnRef) (login : LoginInfo) :
    Continues referencePlatform (ascii "B") signer ref login := by
  intro entity callers orb signedChain t logged joined ran
  obtain ⟨same, -⟩ := Prod.mk.inj ran
  have known : callersOf orb = callers := by
    unfold callersOf
    cases half : (orb.piCurrent .joinedCallChain).half with
    | none =>
      rw [half] at joined
      exact joined.symm
    | some found =>
      rw [half] at joined
      obtain ⟨protocol, chain⟩ := found
      cases protocol with
      | current =>
        obtain ⟨entity, -, call, decoded, -, -, told⟩ := joined
        simp only [decoded]
        exact told
      | legacy => exact absurd joined id
  rw [known, logged] at same
  exact Except.ok.inj same ▸ tells_signed entity callers login

/-- A process with one connection, logged in. -/
def process (login : LoginInfo) : Orb :=
  { Orb.init (fun _ => { (Connection.init ⟨[2]⟩ true).loginInit facets with
      loginInfo := some login
      state := .logged }) (fun _ => true) with defConn := some 0 }

def session (callee : LoginInfo) : SecretSession :=
  ⟨5, callee.id, callee.entity, .replicate 16 4, 0, false⟩

/-- The process of the caller, with its session and the chain that it has joined. -/
def client (caller callee : LoginInfo) (joined : Any) : Orb :=
  (Handshake.installed referencePlatform call 0 (session callee) (process caller)).setSlot
    .joinedCallChain joined

/-- The process of the callee, which has the session. -/
def server (caller callee : LoginInfo) : Orb :=
  (process callee).setSessions ((LRUCache.ofSize 128).insert 5
    (Session.init ServerInterceptor.Reference.environment caller.id))

/-- The lookup of a call by such a process. -/
def lookupFor (caller callee : LoginInfo) (joined : Any) (chain : CallerChain) : Lookup :=
  ⟨.current, 0, caller.id, joined, chain, { session callee with ticket := 1 }⟩

/-- The same process when it has had the chain of the call signed before. -/
def caching (caller callee : LoginInfo) (joined : Any) (chain : CallerChain)
    (signedChain : SignedData) : Orb :=
  stored .current ((lookupFor caller callee joined chain).key referencePlatform) signedChain
    (client caller callee joined)

def sent (orb : Orb) : Invocation :=
  (sendRequest referencePlatform signer call ⟨orb, fun _ => none⟩).2

def callOf (caller callee : LoginInfo) (chain : CallerChain) (history : List ChainEvent)
    (orb : Orb) : Call where
  world := signer
  request := call
  history := history
  client := orb
  ref := 0
  login := caller
  chain := chain
  remoteId := callee.id
  session := session callee
  sent := sent orb
  callee := ServerInterceptor.Reference.environment
  server := server caller callee
  served := (receiveRequestServiceContexts referencePlatform ServerInterceptor.Reference.environment
    (Handshake.received call (sent orb)) (.arrival (server caller callee))).2

theorem sent_callOf {caller callee : LoginInfo} {chain : CallerChain} {history : List ChainEvent}
    {orb : Orb}
    (ran : (sendRequest referencePlatform signer call ⟨orb, fun _ => none⟩).1 = .ok ()) :
    sendRequest referencePlatform signer call ⟨orb, fun _ => none⟩ =
      (.ok (), (callOf caller callee chain history orb).sent) := Action.eq_of_fst ran

/-- One lookup, whose joined chain names its caller, is confused with no other. -/
theorem assumed_lookup (lookup : Lookup) (named : lookup.joined.half.isSome →
    lookup.chain.caller.id ≠ []) {lookups : Set Lookup} (only : ∀ l ∈ lookups, l = lookup) :
    Assumed referencePlatform lookups := by
  refine ⟨⟨lookup.login.length, fun l mem => ?_⟩, fun l mem present => ?_, ?_,
    fun a memA b memB => ?_⟩
  · rw [only l mem]
  · rw [only l mem] at present ⊢
    rw [joinedChain_eq_half] at present
    exact named present
  · rintro _ ⟨a, memA, rfl⟩ _ ⟨b, memB, rfl⟩ -
    rw [only a memA, only b memB]
  · intro protocol s t first second _
    rw [only a memA] at first
    rw [only b memB] at second
    cases first.symm.trans second
    rfl

theorem serves {caller callee : LoginInfo} {chain : CallerChain} {history : List ChainEvent}
    {orb : Orb} (accepted : ((receiveRequestServiceContexts referencePlatform
      ServerInterceptor.Reference.environment (Handshake.received call (sent orb))
      (.arrival (server caller callee))).1 = .ok ())) :
    (callOf caller callee chain history orb).Serves referencePlatform where
  fresh := by
    change ServerInterceptor.Reference.environment.dispatchId ≠
      ServerInterceptor.Reference.environment.currentId
    decide +kernel
  unused credential _ := show none ≠ some _ from nofun
  held credential _ ref chosen := by cases Except.ok.inj chosen
  accepted := Prod.ext accepted rfl

def a : LoginInfo := ⟨ascii "a", ascii "A"⟩
def b : LoginInfo := ⟨ascii "b", ascii "S"⟩
def c : LoginInfo := ⟨ascii "c", ascii "T"⟩

def granted (id : Identifier) : LoginInfo := if id = a.id then a else b

/-- `a` has joined no chain, and calls `b` for the first time. -/
def firstCall : Call := callOf a b (.none referencePlatform) [] (client a b .empty)

theorem sends_first : firstCall.Sends referencePlatform where
  attends := by decide +kernel
  current := by decide +kernel
  unscoped := by decide +kernel
  logged := by decide +kernel
  identified := by decide
  cached := by decide +kernel
  version := rfl
  remote := by decide
  chained := rfl
  sent := sent_callOf (by decide +kernel)

theorem trusts_first : firstCall.Trusts referencePlatform (ascii "B") granted where
  run := .start fun protocol => by cases protocol <;> rfl
  known := rfl
  continues := continues 0 a
  continued e mem := by cases mem
  distinct := trivial
  unconfused signedChain signing under chain last := by cases last
  assumed := by
    refine assumed_lookup firstCall.lookup nofun ?_
    rintro l (same | ⟨e, mem, -⟩)
    · exact same
    · cases mem

/-- The chain that `b` joins, and what it is for `b`. -/
def joinedByB : Any := .signedData (signed (ascii "S") [] a)

def chainOfB : CallerChain :=
  .ofCallChain referencePlatform ⟨ascii "B", ascii "S", [], a⟩ (ascii "S") (signed (ascii "S") [] a)

/-- What the bus has signed for `b` when it called `c` within this chain before. -/
def continuedByB : SignedData := signed (ascii "T") [a] b

/-- `b` calls `c` within this chain again. -/
def secondCall : Call :=
  callOf b c chainOfB [.signed (lookupFor b c joinedByB chainOfB) b.id continuedByB]
    (caching b c joinedByB chainOfB continuedByB)

theorem sends_second : secondCall.Sends referencePlatform where
  attends := by decide +kernel
  current := by decide +kernel
  unscoped := by decide +kernel
  logged := by decide +kernel
  identified := by decide
  cached := by decide +kernel
  version := rfl
  remote := by decide
  chained := rfl
  sent := sent_callOf (by decide +kernel)

theorem asked_second : (lookupFor b c joinedByB chainOfB).Asked referencePlatform where
  chained := ⟨client b c joinedByB, rfl, rfl⟩
  version := rfl

theorem trusts_second : secondCall.Trusts referencePlatform (ascii "B") granted where
  run := by
    have fresh : Run (chainMachine referencePlatform) [] (client b c joinedByB) :=
      .start fun protocol => by cases protocol <;> rfl
    exact fresh.step (.signed b.id continuedByB asked_second)
  known := rfl
  continues := continues 0 b
  continued e mem := by
    obtain rfl := List.mem_singleton.mp mem
    rintro - callers ⟨entity, -, call, decoded, -, -, told⟩
    obtain ⟨-, first, decoded', -, -, told'⟩ := tells_signed (ascii "S") [] a
    obtain rfl : call = first := Except.ok.inj (decoded.symm.trans decoded')
    obtain rfl : callers = [a] := told.symm.trans told'
    exact tells_signed (ascii "T") [a] b
  distinct := ⟨trivial, trivial⟩
  unconfused signedChain signing under chain last := by
    have same : lastSigned referencePlatform .current (secondCall.lookup.key referencePlatform)
        secondCall.history = some (lookupFor b c joinedByB chainOfB, b.id, continuedByB) :=
      if_pos ⟨rfl, rfl⟩
    cases same.symm.trans last
    exact ⟨rfl, fun _ => rfl, fun _ => rfl⟩
  assumed := by
    refine assumed_lookup secondCall.lookup (fun _ => by decide) ?_
    rintro l (same | ⟨e, mem, found⟩)
    · exact same
    · obtain rfl := List.mem_singleton.mp mem
      exact (Option.some.inj found).symm

/-- The chain of the call comes from the cache. -/
example : (secondCall.client.chainCache .current).find
    (secondCall.lookup.key referencePlatform) = some continuedByB := by decide +kernel

/-- `b` serves a call of `a`. -/
theorem path_first : Path referencePlatform (ascii "B") granted .servant [a]
    (servantOrb firstCall.served) :=
  .call (.origin rfl) sends_first trusts_first (serves (by decide +kernel))

/-- It joins the chain of the call and calls `c`. -/
theorem path_second : Path referencePlatform (ascii "B") granted .servant [a, b]
    (servantOrb secondCall.served) := by
  have ran : (Orb.joinChain referencePlatform (.none referencePlatform)
        (servantOrb firstCall.served)).1 = .ok () ∧
      (Orb.joinChain referencePlatform (.none referencePlatform)
        (servantOrb firstCall.served)).2.piCurrent .joinedCallChain = joinedByB := by
    decide +kernel
  have joined : Path referencePlatform (ascii "B") granted .caller [a] secondCall.client := by
    refine .join path_first (Action.eq_of_fst ran.1) ?_
    rw [ran.2]
    rfl
  exact .call joined sends_second trusts_second (serves (by decide +kernel))

end Reference

open Reference in
theorem reads_callers_nested :
    ∃ chain, (servantOrb secondCall.served).getCallerChain referencePlatform = .ok chain ∧
      chain.busid = ascii "B" ∧ chain.originators ++ [chain.caller] = [a, b] :=
  reads_callers ReferencePlatform.codecInverts ReferencePlatform.codecRefuses path_second

end CallPath

end OpenBus
