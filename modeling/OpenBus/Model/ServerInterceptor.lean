import OpenBus.Model.Orb

/-! # The server interceptor

`receiveRequestServiceContexts` decides on an incoming request from its credential. The order of
the tests, the exceptions used to leave them and the state they leave behind follow the source:
a dispatch connection is saved before the login is validated, a ticket is consumed before the
chain is examined, and a failed test of the session answers with a new session.
-/

namespace OpenBus

open Machine

/-- What the interceptor reads of the request. -/
structure ServerRequest where
  operation : Identifier
  contexts : ServiceContexts

/-- The state an incoming request works on: that of the ORB, and its own slots and answer. -/
structure Dispatch where
  orb : Orb
  slots : SlotTable
  replyContexts : ServiceContexts

/-- The callback of `onCallDispatch`, given the bus, the login and the operation of a request. -/
abbrev CallDispatchCallback :=
  Identifier → Identifier → Identifier → Action Orb Exception (Option ConnRef)

/-- What one request meets outside the interceptor: the callback registered, the registry, and
the random values drawn. A `LoginRegistry` answers and does nothing else. -/
structure ServerWorld (Registry : Type := LoginRegistry) where
  onCallDispatch : Option CallDispatchCallback
  registry : Registry
  dispatchId : Uuid
  currentId : Uuid
  sessionId : ULong
  secret : Secret
  nonce : ℕ

def Session.init {Registry : Type} (world : ServerWorld Registry) (login : Identifier) : Session :=
  ⟨world.sessionId, TicketsHistory.ticketsInit (by decide), world.secret, login⟩

namespace Dispatch

def setSlot (slot : Slot) (value : Any) (dispatch : Dispatch) : Dispatch :=
  { dispatch with slots := Function.update dispatch.slots slot value }

def addReplyServiceContext (id : ULong) (data : OctetSeq) (dispatch : Dispatch) : Dispatch :=
  { dispatch with replyContexts := Function.update dispatch.replyContexts id (some data) }

def updateOrb (f : Orb → Orb) (dispatch : Dispatch) : Dispatch :=
  { dispatch with orb := f dispatch.orb }

def sessions (dispatch : Dispatch) : LRUCache ULong Session := dispatch.orb.sessionLRUCache

def setSessions (sessions : LRUCache ULong Session) : Dispatch → Dispatch :=
  updateOrb (Orb.setSessions sessions)

/-- The connection a request is dispatched to, when the callback has chosen. -/
def connectionFor (dispatch : Dispatch) (chosen : Option ConnRef) : Option ConnRef :=
  chosen.or dispatch.orb.getDefaultConnection

/-- A request as it arrives, with empty slots and no answer. -/
def arrival (orb : Orb) : Dispatch := ⟨orb, fun _ => .empty, fun _ => none⟩

/-- Run an operation of the context. -/
def onOrb {α : Type} (action : Action Orb Exception α) : Action Dispatch Exception α :=
  Action.zoom orb (fun orb dispatch => { dispatch with orb }) action

end Dispatch

/-- What the interceptor inserts into the body of its answer. -/
def credentialReset (protocol : Protocol) (session : Session) (login : LoginInfo)
    (challenge : EncryptedBlock) : Any :=
  match protocol with
  | .current => .credentialReset ⟨login.id, login.entity, session.id, challenge⟩
  | .legacy => .legacyCredentialReset ⟨login.id, session.id, challenge⟩

/-- `check_chain` -/
def checkChain (chain : CallChain) (caller : Login) (conn : Connection) : Bool :=
  !(chain.caller.id != caller.loginInfo.id || chain.bus != conn.busid)

/-- The validation of the login that a request names, by the connection it is dispatched to. -/
abbrev Validation := ConnRef → Identifier → Action Dispatch Exception (Option Login)

namespace ServerInterceptor

variable {Registry : Type}

variable (platform : Platform) (world : ServerWorld Registry) (request : ServerRequest)

/-- Create a session for the caller, add its encrypted secret to the answer and refuse. -/
def sendCredentialReset (protocol : Protocol) (conn : ConnRef) (caller : Login) :
    Action Dispatch Exception Unit := do
  let session := Session.init world caller.loginInfo.id
  modify fun dispatch : Dispatch =>
    dispatch.setSessions (dispatch.sessions.insert session.id session)
  let encrypted := platform.encrypt caller.pubKey world.nonce session.secret.toList
  let dispatch ← get
  match (dispatch.orb.connections conn).loginInfo with
  | none => throw .fault
  | some login =>
    let challenge ← Action.ofExcept (memcpy 256 encrypted)
    let data := platform.encodeValue (credentialReset protocol session login challenge)
    modify (Dispatch.addReplyServiceContext protocol.credentialContextId data)
    throw (.noPermission invalidCredentialCode)

/-- The credential of a request, which has none if the lookup or the codec reports `BAD_PARAM`. -/
def getCredential (protocol : Protocol) : Except Exception CredentialData :=
  match request.contexts protocol.credentialContextId with
  | none => .error (.noPermission noCredentialCode)
  | some data =>
      match platform.decodeValue data (.credentialData protocol) with
      | .ok any => .ok (any.extractCredentialData protocol)
      | .error (.system .badParam _ _) => .error (.noPermission noCredentialCode)
      | .error e => .error e

def saveDispatcherConnection (conn : ConnRef) (dispatch : Dispatch) : Dispatch :=
  let saved := (dispatch.updateOrb fun orb =>
    { orb with id2conn := Function.update orb.id2conn world.dispatchId (some (some conn)) }).setSlot
      .currentConnection (.uuid world.dispatchId)
  saved.updateOrb (Orb.setCurrentConnection world.currentId (some conn))

/-- The connection the callback chooses, none if it fails. A connection of another bus raises
`UnknownBus` under the same handlers, which swallow it when the result is already assigned. -/
def callDispatch (busid login : Identifier) : Action Dispatch Exception (Option ConnRef) :=
  match world.onCallDispatch with
  | none => pure none
  | some callback =>
      tryCatch (Dispatch.onOrb (callback busid login request.operation)) fun e =>
        if e.isCatchable then pure none else throw e

/-- The rest of `get_dispatcher_connection`: fall back to the default connection, and save the
connection if it is logged in to the bus. -/
def chooseConnection (busid : Identifier) (chosen : Option ConnRef) :
    Action Dispatch Exception ConnRef := do
  let dispatch ← get
  match dispatch.connectionFor chosen with
  | none => throw (.noPermission unknownBusCode)
  | some ref =>
    if (dispatch.orb.connections ref).loginInfo = none ∨
        (dispatch.orb.connections ref).busid ≠ busid then
      throw (.noPermission unknownBusCode)
    else
      modify (saveDispatcherConnection world ref)
      return ref

def getDispatcherConnection (busid login : Identifier) : Action Dispatch Exception ConnRef := do
  let chosen ← callDispatch world request busid login
  chooseConnection world busid chosen

/-- `check_legacy_chain`: a chain for another entity is answered with a new session. -/
def checkLegacyChain (chain : LegacyCallChain) (caller : Login) (conn : ConnRef) :
    Action Dispatch Exception Bool := do
  let dispatch ← get
  match (dispatch.orb.connections conn).loginInfo with
  | none => throw .fault
  | some login =>
    if chain.target ≠ login.entity then
      sendCredentialReset platform world .legacy conn caller
      return true
    else return chain.caller.id == caller.loginInfo.id

def validateChain (protocol : Protocol) (credential : CredentialData) (caller : Login)
    (conn : ConnRef) : Action Dispatch Exception Bool := do
  if credential.chain.encoded.length = 0 then return false
  else
    let dispatch ← get
    match (dispatch.orb.connections conn).buskey with
    | none => throw .fault
    | some buskey =>
      let hashChain := platform.sha256 credential.chain.encoded
      if platform.verify buskey credential.chain.signature hashChain then
        match protocol with
        | .current =>
          let chain ← Action.ofExcept (Orb.decodeChainData platform credential.chain)
          return checkChain chain caller (dispatch.orb.connections conn)
        | .legacy =>
          let chain ← Action.ofExcept (Orb.decodeLegacyChainData platform credential.chain)
          checkLegacyChain platform world chain caller conn
      else return false

/-- The handlers around `validateLogin`: most refusals of the registry leave a null caller. -/
def validationResult : Except Exception (Option Login) → Except Exception (Option Login)
  | .ok caller => .ok caller
  | .error (.system .noPermission minor _) =>
      if minor = noLoginCode then .error (.noPermission unknownBusCode) else .ok none
  | .error e => .error (if e.isCorba then .noPermission unverifiedLoginCode else e)

/-- Whether the cached session accepts the credential. The ticket is tested last, so it is
consumed only if the login and the hash fit. -/
def checkSession (protocol : Protocol) (credential : CredentialData) :
    Action Dispatch Exception Bool := do
  let dispatch ← get
  let (fetched, sessions) := dispatch.sessions.fetch credential.session
  match fetched with
  | none =>
    modify (Dispatch.setSessions sessions)
    return false
  | some session =>
    if hash platform protocol request.operation credential.ticket session.secret = credential.hash ∧
        session.remoteId = credential.login then
      let (accepted, tickets) := session.tickets.ticketsCheck (credential.ticket.setWidth 64)
      modify (Dispatch.setSessions (sessions.assign credential.session { session with tickets }))
      return accepted
    else
      modify (Dispatch.setSessions sessions)
      return false

section Validating

variable (validate : Validation)

/-- The part of `handle_credential` up to the test of the session. -/
def authenticateWith (protocol : Protocol) (credential : CredentialData) :
    Action Dispatch Exception (ConnRef × Login × Bool) := do
  let conn ← getDispatcherConnection world request credential.bus credential.login
  match ← validate conn credential.login with
  | none => throw (.noPermission invalidLoginCode)
  | some caller =>
    let valid ← checkSession platform request protocol credential
    return (conn, caller, valid)

def handleCredentialWith (protocol : Protocol) (credential : CredentialData) :
    Action Dispatch Exception Unit := do
  let (conn, caller, valid) ← authenticateWith platform world request validate protocol credential
  if valid then
    if ← validateChain platform world protocol credential caller conn then
      modify (Dispatch.setSlot .signedCallChain (.ofSignedChain protocol credential.chain))
    else throw (.noPermission invalidChainCode)
  else sendCredentialReset platform world protocol conn caller

/-- Get and judge the credential of one protocol version. -/
def receiveCredentialWith (protocol : Protocol) : Action Dispatch Exception Unit := do
  let credential ← Action.ofExcept (getCredential platform request protocol)
  handleCredentialWith platform world request validate protocol credential

def receiveRequestServiceContextsWith : Action Dispatch Exception Unit :=
  tryCatch (receiveCredentialWith platform world request validate .current) fun e =>
    match e with
    | .system .noPermission minor _ =>
        if minor = noCredentialCode then
          receiveCredentialWith platform world request validate .legacy
        else throw e
    | _ => throw e

end Validating

section Answered

variable (platform : Platform) (world : ServerWorld) (request : ServerRequest)

/-- The registry answers and changes nothing. That its calls are requests, which may log the
connection out, is in the model of these calls. -/
def validateCaller (conn : ConnRef) (login : Identifier) :
    Action Dispatch Exception (Option Login) := do
  let dispatch ← get
  match (dispatch.orb.connections conn).loginCache with
  | none => throw .fault
  | some cache =>
    let (result, cache) := LoginCache.validateLogin platform world.registry login cache
    modify (Dispatch.updateOrb (Orb.setLoginCache conn cache))
    Action.ofExcept (validationResult result)

def authenticate : Protocol → CredentialData → Action Dispatch Exception (ConnRef × Login × Bool) :=
  authenticateWith platform world request (validateCaller platform world)

def handleCredential : Protocol → CredentialData → Action Dispatch Exception Unit :=
  handleCredentialWith platform world request (validateCaller platform world)

def receiveCredential : Protocol → Action Dispatch Exception Unit :=
  receiveCredentialWith platform world request (validateCaller platform world)

def receiveRequestServiceContexts : Action Dispatch Exception Unit :=
  receiveRequestServiceContextsWith platform world request (validateCaller platform world)

theorem authenticate_eq (protocol : Protocol) (credential : CredentialData) :
    authenticate platform world request protocol credential = (do
      let conn ← getDispatcherConnection world request credential.bus credential.login
      match ← validateCaller platform world conn credential.login with
      | none => throw (.noPermission invalidLoginCode)
      | some caller =>
        let valid ← checkSession platform request protocol credential
        return (conn, caller, valid)) := rfl

theorem handleCredential_eq (protocol : Protocol) (credential : CredentialData) :
    handleCredential platform world request protocol credential = (do
      let (conn, caller, valid) ← authenticate platform world request protocol credential
      if valid then
        if ← validateChain platform world protocol credential caller conn then
          modify (Dispatch.setSlot .signedCallChain (.ofSignedChain protocol credential.chain))
        else throw (.noPermission invalidChainCode)
      else sendCredentialReset platform world protocol conn caller) := rfl

theorem receiveCredential_eq (protocol : Protocol) :
    receiveCredential platform world request protocol = (do
      let credential ← Action.ofExcept (getCredential platform request protocol)
      handleCredential platform world request protocol credential) := rfl

end Answered

end ServerInterceptor

end OpenBus
