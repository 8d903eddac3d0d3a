import OpenBus.Model.Orb

/-! # The client interceptor

`sendRequest` attaches the credentials of an outgoing request, and `receiveException` reacts to
the exceptions of the protocol: it installs a session, discards an invalid login or has the
request retransmitted. The remote calls which the interceptor itself makes go through it again;
they and the callback of the application are actions on the ORB, given as inputs.
-/

namespace OpenBus

open Machine

/-- What the interceptor reads of an outgoing request. -/
structure ClientRequest where
  operation : Identifier
  profileData : OctetSeq

/-- The state an outgoing request works on: that of the ORB, and the credentials attached. -/
structure Invocation where
  orb : Orb
  contexts : ServiceContexts

/-- A system exception received as the reply of a request, with the contexts of the reply. -/
structure ExceptionReply where
  kind : SystemException
  minor : ULong
  completed : CompletionStatus
  contexts : ServiceContexts

def ExceptionReply.exception (reply : ExceptionReply) : Exception :=
  .system reply.kind reply.minor reply.completed

/-- What one request meets outside the interceptor. The callback is given the number of times it
has been called before, and `attempts` bounds how often a request waits for it. -/
structure ClientWorld where
  signChainFor : Protocol → ConnRef → Identifier → Action Orb Exception SignedData
  getLoginValidity : ObjectRef → Identifier → Action Orb Exception ULong
  onInvalidLogin : ConnRef → LoginInfo → ℕ → Action Orb Exception Unit
  attempts : ℕ
  requestId : Uuid

namespace Invocation

def updateOrb (f : Orb → Orb) (invocation : Invocation) : Invocation :=
  { invocation with orb := f invocation.orb }

def addRequestServiceContext (id : ULong) (data : OctetSeq) (invocation : Invocation) :
    Invocation :=
  { invocation with contexts := Function.update invocation.contexts id (some data) }

/-- Run an operation on the ORB. -/
def onOrb {α : Type} (action : Action Orb Exception α) : Action Invocation Exception α :=
  Action.zoom orb (fun orb invocation => { invocation with orb }) action

end Invocation

namespace ClientInterceptor

variable (platform : Platform) (world : ClientWorld) (request : ClientRequest)

def sessionKey : HashValue := platform.sha256 request.profileData

/-- The connection of a request. Subscripting the map leaves an expired entry where there was
none. -/
def getCurrentConnection : Action Orb Exception ConnRef := fun orb =>
  let (found, orb) :=
    match (orb.piCurrent .currentConnection).toUuid? with
    | none => (none, orb)
    | some id =>
        match orb.id2conn id with
        | some pointer => (orb.lock pointer, orb)
        | none => (none, { orb with id2conn := Function.update orb.id2conn id (some none) })
  match found.or orb.getDefaultConnection with
  | some ref => (.ok ref, orb)
  | none => (.error (.noPermission noLoginCode), orb)

def ignoreRequest (orb : Orb) : Bool := (orb.piCurrent .ignoreInterceptor).toBoolean

def ignoreInvalidLogin (orb : Orb) : Bool := (orb.piCurrent .ignoreInvalidLogin).toBoolean

def login (orb : Orb) : LoginInfo := (orb.piCurrent .login).extractLoginInfo

/-- The bus of a request: the value of the slot, if it holds a string, else the connection's. -/
def busid (orb : Orb) (ref : ConnRef) : Identifier :=
  (orb.piCurrent .busid).toString?.getD (orb.connections ref).busid

/-- The chain joined by the thread of a request, of either version. -/
def getJoinedChain (ref : ConnRef) (orb : Orb) : Except Exception CallerChain :=
  let any := orb.piCurrent .joinedCallChain
  let signedChain := any.extractSignedData
  if signedChain.encoded.length ≠ 0 then
    (Orb.decodeChainData platform signedChain).map fun chain =>
      .ofCallChain platform chain chain.target signedChain
  else
    let legacySignedChain := any.extractSignedCallChain
    if legacySignedChain.encoded.length ≠ 0 then
      (Orb.decodeLegacyChainData platform legacySignedChain).map fun chain =>
        .ofLegacyCallChain platform chain (busid orb ref) chain.target legacySignedChain
    else .ok (.none platform)

/-- Forget every profile that leads to the target. Each profile is fetched, hence touched. -/
def purgeTarget (target : Identifier) (profiles : LRUCache HashValue Identifier) :
    LRUCache HashValue Identifier :=
  profiles.getAllKeys.foldl
    (fun profiles key =>
      let (login, profiles) := profiles.fetch key
      if login.getD [] = target then profiles.remove key else profiles)
    profiles

/-- The bus object asked for a signed chain. -/
def chainSigner (protocol : Protocol) (conn : Connection) : Option ObjectRef :=
  match protocol with
  | .current => conn.accessControl
  | .legacy => conn.legacyAccessControl

/-- Have the bus sign a chain, with the handlers of the two overloads of `get_signed_chain`. -/
def requestSignedChain (protocol : Protocol) (ref : ConnRef) (target : Identifier) :
    Action Orb Exception SignedData := do
  let orb ← get
  match chainSigner protocol (orb.connections ref) with
  | none => throw .fault
  | some _ =>
    tryCatch (world.signChainFor protocol ref target) fun e => do
      if e.isSystem then throw (.noPermission unavailableBusCode)
      else if protocol = .legacy ∧ e = .invalidLogins then
        modify fun orb : Orb =>
          orb.setProfile2login ref (purgeTarget target (orb.connections ref).profile2login)
        throw (.noPermission invalidTargetCode)
      else throw e

/-- Both overloads of `get_signed_chain`. -/
def getSignedChain (protocol : Protocol) (ref : ConnRef) (key : HashValue) (target : Identifier) :
    Action Orb Exception SignedData := do
  let orb ← get
  let (cached, cache) := (orb.chainCache protocol).fetch key
  modify (Orb.setChainCache protocol cache)
  match cached with
  | some chain => return chain
  | none =>
    let chain ← requestSignedChain world protocol ref target
    modify fun orb : Orb => orb.setChainCache protocol ((orb.chainCache protocol).insert key chain)
    return chain

/-- The session with the profile of a request. The pointer into the cache is kept as its key. -/
def getSession (ref : ConnRef) : Action Orb Exception (Option (Identifier × SecretSession)) := do
  let orb ← get
  let (fetched, profiles) := (orb.connections ref).profile2login.fetch (sessionKey platform request)
  modify (Orb.setProfile2login ref profiles)
  let remoteId := fetched.getD []
  if remoteId = [] then return none
  else
    let orb ← get
    let (session, sessions) := (orb.connections ref).login2session.fetch remoteId
    modify (Orb.setLogin2session ref sessions)
    return session.map fun session => (remoteId, session)

/-- The buffer hashed for the key of a signed chain: login, remote login, and the signature of the
joined chain in the version of the credential, or zeros if no chain is joined. -/
def chainKeyBuffer (protocol : Protocol) (login remoteId : Identifier) (chain : CallerChain) :
    OctetSeq :=
  let size := login.length + remoteId.length + 256
  let buf := List.replicate size 0
  let buf := overwrite buf 0 login
  let buf := overwrite buf login.length remoteId
  overwrite buf (login.length + remoteId.length)
    (if chain.equal (.none platform) then List.replicate 256 0
      else (chain.signed protocol).signature.toList)

/-- The argument of `signChainFor`. -/
def chainTarget (protocol : Protocol) (session : SecretSession) : Identifier :=
  match protocol with
  | .current => session.entity
  | .legacy => session.remoteId

/-- The chain of a credential sent over a session. -/
def credentialChain (protocol : Protocol) (ref : ConnRef) (login : Identifier)
    (chain : CallerChain) (session : SecretSession) : Action Orb Exception SignedData :=
  if session.remoteId = busLogin then
    pure (if chain.equal (.none platform) then ⟨.replicate 256 0, []⟩ else chain.signed protocol)
  else
    getSignedChain world protocol ref
      (platform.sha256 (chainKeyBuffer platform protocol login session.remoteId chain))
      (chainTarget protocol session)

/-- The credential of a request that has no session. -/
def emptyCredential (bus login : Identifier) : CredentialData :=
  ⟨bus, login, 0, 0, .replicate 32 0, ⟨.replicate 256 0, []⟩⟩

/-- The credential of a request over a session, whose ticket it consumes. -/
def sessionCredential (protocol : Protocol) (ref : ConnRef) (bus login : Identifier)
    (chain : CallerChain) (key : Identifier) (session : SecretSession) :
    Action Orb Exception CredentialData := do
  let session := { session with ticket := session.ticket + 1 }
  modify fun orb : Orb =>
    orb.setLogin2session ref ((orb.connections ref).login2session.assign key session)
  let signedChain ← credentialChain platform world protocol ref login chain session
  return ⟨bus, login, session.id, session.ticket,
    hash platform protocol request.operation session.ticket session.secret, signedChain⟩

def fillCredential (protocol : Protocol) (ref : ConnRef) (login : Identifier) (chain : CallerChain)
    (session : Option (Identifier × SecretSession)) : Action Invocation Exception Unit := do
  let invocation ← get
  let bus := busid invocation.orb ref
  let credential ←
    match session with
    | none => pure (emptyCredential bus login)
    | some (key, session) =>
      Invocation.onOrb (sessionCredential platform world request protocol ref bus login chain key
        session)
  modify (Invocation.addRequestServiceContext protocol.credentialContextId
    (platform.encodeValue (.credentialData protocol credential)))

/-- The version of the credential sent over a session. -/
def usedProtocol (session : SecretSession) (chain : CallerChain) : Protocol :=
  if session.isLegacy || chain.isLegacy then .legacy else .current

/-- Credentials of both versions while there is no session, else one of the version in use. -/
def attachCredential (ref : ConnRef) (login : Identifier) : Action Invocation Exception Unit := do
  let session ← Invocation.onOrb (getSession platform request ref)
  let invocation ← get
  let chain ← Action.ofExcept (getJoinedChain platform ref invocation.orb)
  match session with
  | none =>
    fillCredential platform world request .current ref login chain none
    fillCredential platform world request .legacy ref login chain none
  | some (key, session) =>
    let protocol := if session.isLegacy || chain.isLegacy then Protocol.legacy else .current
    fillCredential platform world request protocol ref login chain (some (key, session))

/-- The loop of `get_login`: call the callback until it leaves no invalid login behind. A callback
that never does keeps the thread here; running out of attempts counts as a fault. -/
def getLoginLoop (ref : ConnRef) : ℕ → ℕ → LoginInfo → LoginInfo → Action Orb Exception LoginInfo
  | attempts, calls, login, invalid => do
    if invalid.id = [] then return login
    else
      let orb ← get
      if (orb.connections ref).onInvalidLogin then
        match attempts with
        | 0 => throw .fault
        | attempts + 1 =>
          tryCatch (world.onInvalidLogin ref invalid calls) fun e =>
            if e.isCatchable then pure () else throw e
          let orb ← get
          let login := (orb.connections ref).loginInfo.getD default
          let current := (orb.connections ref).invalidLogin.getD default
          if current.id ≠ [] ∧ current.equal invalid then
            modify (Orb.setInvalidLogin ref none)
            return login
          else getLoginLoop ref attempts (calls + 1) login current
      else
        modify (Orb.setInvalidLogin ref none)
        return login

/-- `Connection::get_login` -/
def getLogin (ref : ConnRef) : Action Orb Exception LoginInfo := do
  let orb ← get
  let login := (orb.connections ref).loginInfo.getD default
  let invalid := (orb.connections ref).invalidLogin.getD default
  if login.id ≠ [] then return login
  else getLoginLoop world ref world.attempts 0 login invalid

/-- The login of a request: that of the slot, if it is not the default one, else the connection's. -/
def currLogin (ref : ConnRef) : Action Orb Exception LoginInfo := do
  let orb ← get
  let scopedLogin := login orb
  if LoginInfo.equal default scopedLogin then getLogin world ref else pure scopedLogin

/-- Remember the connection of a request until its reply arrives. -/
def saveRequestConnection (ref : ConnRef) (orb : Orb) : Orb :=
  { orb with
    requestId2conn := Function.update orb.requestId2conn world.requestId (some ref) }.setSlot
    .requestId (.uuid world.requestId)

def sendRequest : Action Invocation Exception Unit := do
  let invocation ← get
  if ignoreRequest invocation.orb then return ()
  else
    let ref ← Invocation.onOrb getCurrentConnection
    let login ← Invocation.onOrb (currLogin world ref)
    if login.id = [] then throw (.noPermission noLoginCode)
    else
      attachCredential platform world request ref login.id
      modify (Invocation.updateOrb (saveRequestConnection world ref))

/-- The session a reset offers; `BAD_PARAM` if the reply has none of version 2.1. -/
def currentReset (key : PrivateKey) (contexts : ServiceContexts) : Except Exception SecretSession := do
  let some data := contexts Protocol.current.credentialContextId
    | throw (.system .badParam 0 .completedNo)
  let any ← platform.decodeValue data .credentialReset
  let reset := any.extractCredentialReset
  let plain ←
    match platform.decrypt key reset.challenge.toList with
    | .ok plain => pure plain
    | .error e => throw (if e.isCatchable then .noPermission invalidRemoteCode else e)
  let secret ← memcpy 16 plain
  return ⟨reset.session, reset.target, reset.entity, secret, 0, false⟩

/-- The session a reset of version 2.0 offers; it has no entity. -/
def legacyReset (key : PrivateKey) (contexts : ServiceContexts) : Except Exception SecretSession := do
  let some data := contexts Protocol.legacy.credentialContextId
    | throw (.system .badParam 0 .completedNo)
  let any ← platform.decodeValue data .legacyCredentialReset
  let reset := any.extractLegacyCredentialReset
  let plain ← platform.decrypt key reset.challenge.toList
  let secret ← memcpy 16 plain
  return ⟨reset.session, reset.target, [], secret, 0, true⟩

/-- The session of a reply, of version 2.0 only if the lookup of 2.1 ends with `BAD_PARAM`. -/
def resetSession (key : PrivateKey) (contexts : ServiceContexts) : Except Exception SecretSession :=
  match currentReset platform key contexts with
  | .ok session => .ok session
  | .error (.system .badParam _ _) =>
      match legacyReset platform key contexts with
      | .ok session => .ok session
      | .error e => .error (if e.isCorba then .noPermission invalidRemoteCode else e)
  | .error e => .error e

/-- The reaction to `InvalidCredential`. -/
def installSession (ref : ConnRef) (contexts : ServiceContexts) : Action Orb Exception Unit := do
  let orb ← get
  let session ← Action.ofExcept (resetSession platform (orb.connections ref).key contexts)
  modify fun orb : Orb =>
    orb.setProfile2login ref
      ((orb.connections ref).profile2login.insert (sessionKey platform request) session.remoteId)
  modify fun orb : Orb =>
    orb.setLogin2session ref ((orb.connections ref).login2session.insert session.remoteId session)
  throw .forwardRequest

/-- Ask the registry of the current connection for the validity of a login. The exception which
is thrown for want of a registry is caught with those of the call. -/
def askValidity (invalid : LoginInfo) : Action Orb Exception ULong :=
  Orb.guarded .ignoreInvalidLogin (.boolean true) (.boolean false) do
    let orb ← get
    match orb.getLoginRegistry with
    | some registry => world.getLoginValidity registry invalid.id
    | none => throw .forwardRequest

/-- Discard the invalid login, unless the connection has another one by now. -/
def discardLogin (ref : ConnRef) (invalid : LoginInfo) : Action Orb Exception Unit := do
  let orb ← get
  if ((orb.connections ref).loginInfo.getD default).id = invalid.id then
    modify (Orb.logoutSection ref)
    modify (Orb.setInvalidLogin ref (some invalid))
  else pure ()

/-- How the reaction to `InvalidLogin` goes on once the registry has answered. -/
inductive Reaction where
  | compare
  | raise (e : Exception)
deriving DecidableEq

/-- The end of the `try` block and its handlers, for each answer of the registry. -/
def reaction : Except Exception ULong → Reaction
  | .ok validity =>
      .raise (if 0 < validity then .noPermission invalidRemoteCode else .forwardRequest)
  | .error (.system .noPermission minor _) =>
      if minor ≠ invalidLoginCode then .raise (.noPermission unavailableBusCode) else .compare
  | .error e => .raise (if e.isCorba then .noPermission unavailableBusCode else e)

/-- The reaction to `InvalidLogin`. -/
def checkLogin (ref : ConnRef) : Action Orb Exception Unit := do
  let orb ← get
  if ignoreInvalidLogin orb then throw (.noPermission invalidLoginCode)
  else
    let invalid := (orb.connections ref).loginInfo.getD default
    let answer ← Action.attempt (askValidity world invalid)
    match reaction answer with
    | .raise e => throw e
    | .compare =>
      discardLogin ref invalid
      throw .forwardRequest

def receiveException (reply : ExceptionReply) : Action Orb Exception Unit := do
  let orb ← get
  if ignoreRequest orb then throw reply.exception
  else
    match (orb.piCurrent .requestId).toUuid? with
    | none => throw reply.exception
    | some id =>
      if id = .replicate 16 0 then throw reply.exception
      else
        match orb.requestId2conn id with
        | none => throw .fault
        | some ref =>
          modify fun orb : Orb =>
            { orb with requestId2conn := Function.update orb.requestId2conn id none }
          if reply.completed ≠ .completedNo then return ()
          else if reply.minor = invalidCredentialCode then
            installSession platform request ref reply.contexts
          else if reply.minor = invalidLoginCode then checkLogin world ref
          else if reply.minor = noLoginCode ∨ reply.minor = unavailableBusCode ∨
              reply.minor = invalidTargetCode ∨ reply.minor = invalidRemoteCode then
            throw (.noPermission invalidRemoteCode)
          else throw reply.exception

end ClientInterceptor

end OpenBus
