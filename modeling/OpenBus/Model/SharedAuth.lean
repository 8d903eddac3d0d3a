import OpenBus.Model.ChainExport
import OpenBus.Model.Conversions
import OpenBus.Model.Login

/-! # Shared authentication

`startSharedAuth` has the bus start a login for another connection to finish with
`loginBySharedAuth`. What the other one needs is a secret, which `encodeSharedAuthSecret` writes in
both protocol versions, that of version 2.1 first. `decodeSharedAuthSecret` reads every entry of a
version it knows into the same secret, so that the last one decides what both of them have.
-/

namespace OpenBus

open Machine

/-- A login process started, and how to finish it. -/
structure SharedAuthSecret where
  busid : Identifier
  loginProcess : Option ObjectRef
  legacyLoginProcess : Option ObjectRef
  secret : OctetSeq
  /-- Whether `orb_initializer_` has been set. -/
  orbInitializer : Bool
deriving DecidableEq

/-- The default constructor, which does not set the pointer to the initializer. -/
def SharedAuthSecret.init : SharedAuthSecret := ⟨[], none, none, [], false⟩

/-- What one `startSharedAuth` meets: the calls to the bus, and the random values drawn. -/
structure SharedAuthWorld where
  startLoginBySharedAuth : ObjectRef → Action Orb Exception (ObjectRef × EncryptedBlock)
  convertSharedAuth : ObjectRef → ObjectRef → Action Orb Exception ObjectRef
  cancel : ObjectRef → Action Orb Exception Unit
  selfId : Uuid
  previousId : Uuid

/-- The state of one `startSharedAuth`: that of the ORB, the variables for the login processes, and
a record of its calls of `cancel`, those made and those which have returned. A variable that has not
been set is absent. -/
structure SharedAuthRun where
  orb : Orb
  loginProcess : Option ObjectRef
  legacyLoginProcess : Option ObjectRef
  invoked : List (Option ObjectRef)
  cancelled : List ObjectRef

namespace SharedAuthRun

def start (orb : Orb) : SharedAuthRun := ⟨orb, none, none, [], []⟩

/-- Run an operation on the ORB. -/
def onOrb {α : Type} (action : Action Orb Exception α) : Action SharedAuthRun Exception α :=
  Action.zoom orb (fun orb run => { run with orb }) action

end SharedAuthRun

/-- The remote call of `loginBySharedAuth`, to a login process of the version. -/
structure LoginRequest where
  protocol : Protocol
  loginProcess : ObjectRef
  pubKey : OctetSeq
  encrypted : EncryptedBlock
deriving DecidableEq

/-- What one `loginBySharedAuth` meets: the answers of the bus, and the nonce of the encryption. -/
structure SharedLoginWorld where
  component : Except Exception BusFacets
  login : LoginRequest → Except Exception LoginInfo
  nonce : ℕ

namespace SharedAuth

section Start

open SharedAuthRun Orb

variable (platform : Platform) (world : SharedAuthWorld)

/-- The `try` block of `startSharedAuth`, which returns the challenge. -/
def startProcess (ref : ConnRef) (previous : Option ConnRef) :
    Action SharedAuthRun Exception EncryptedBlock := do
  onOrb (modify (setCurrentConnection world.selfId (some ref)))
  let run ← get
  match (run.orb.connections ref).accessControl with
  | none => throw .fault
  | some accessControl =>
    let (loginProcess, challenge) ← onOrb (world.startLoginBySharedAuth accessControl)
    modify fun run => { run with loginProcess := some loginProcess }
    let legacyLoginProcess ← onOrb (ifSupported ref fun converter =>
      world.convertSharedAuth converter loginProcess)
    modify fun run => { run with legacyLoginProcess }
    onOrb (modify (setCurrentConnection world.previousId previous))
    return challenge

/-- The handler of `startSharedAuth`, which uses the pointer to the login process set or not. -/
def abortSharedAuth {α : Type} (previous : Option ConnRef) (e : Exception) :
    Action SharedAuthRun Exception α := do
  if e.isCatchable then
    let run ← get
    modify fun run => { run with invoked := run.loginProcess :: run.invoked }
    match run.loginProcess with
    | none => throw .fault
    | some loginProcess =>
      onOrb <| guarded .ignoreInterceptor (.boolean true) (.boolean false) do
        world.cancel loginProcess
        modify (setCurrentConnection world.previousId previous)
      modify fun run => { run with cancelled := loginProcess :: run.cancelled }
      throw e
  else throw e

def startSharedAuth (ref : ConnRef) : Action SharedAuthRun Exception SharedAuthSecret := do
  let run ← get
  let previous := run.orb.getCurrentConnection
  let challenge ← tryCatch (startProcess world ref previous) (abortSharedAuth world previous)
  let run ← get
  let secret ← Action.ofExcept (platform.decrypt (run.orb.connections ref).key challenge.toList)
  return ⟨(run.orb.connections ref).busid, run.loginProcess, run.legacyLoginProcess, secret, true⟩

end Start

/-- `cancel`. It uses the initializer of the ORB, and a login process that may be nil. -/
def cancel (world : SharedAuthWorld) (secret : SharedAuthSecret) : Action Orb Exception Unit :=
  if secret.orbInitializer then
    Orb.guarded .ignoreInterceptor (.boolean true) (.boolean false) <|
      match secret.loginProcess with
      | none => throw .fault
      | some loginProcess => world.cancel loginProcess
  else throw .fault

section Export

open ChainExport

variable (platform : Platform)

def sharedAuthEntry (protocol : Protocol) (version : ULong) (attempt : Option ObjectRef)
    (secret : SharedAuthSecret) : VersionedData where
  version := version
  encoded := platform.encodeValue
    (.exportedSharedAuth protocol ⟨secret.busid, attempt, secret.secret⟩)

def encodeSharedAuthSecret (secret : SharedAuthSecret) : OctetSeq :=
  encodeExportedVersions platform
    [sharedAuthEntry platform .current exportVersion secret.loginProcess secret,
      sharedAuthEntry platform .legacy legacyCurrentVersion secret.legacyLoginProcess secret]
    magicTagSharedAuth

def decodeSharedAuth (protocol : Protocol) (encoded : OctetSeq) :
    Except Exception ExportedSharedAuth :=
  (platform.decodeValue encoded (.exportedSharedAuth protocol)).map
    (Any.extractExportedSharedAuth protocol)

/-- Read an entry into the secret; the flag tells whether an entry has been read so far. -/
def readEntry (read : SharedAuthSecret × Bool) (entry : VersionedData) :
    Except Exception (SharedAuthSecret × Bool) :=
  if entry.version = exportVersion then do
    let exported ← decodeSharedAuth platform .current entry.encoded
    return ({ read.1 with
      busid := exported.bus, loginProcess := exported.attempt, secret := exported.secret }, true)
  else if entry.version = legacyCurrentVersion then do
    let exported ← decodeSharedAuth platform .legacy entry.encoded
    return ({ read.1 with
      busid := exported.bus, legacyLoginProcess := exported.attempt,
      secret := exported.secret }, true)
  else return read

/-- The end of `decodeSharedAuthSecret`. -/
def secretRead (read : SharedAuthSecret × Bool) : Except Exception SharedAuthSecret :=
  if read.2 then .ok read.1 else .error .invalidEncodedStream

def decodeSharedAuthSecret (encoded : OctetSeq) : Except Exception SharedAuthSecret := do
  let (tag, seq) ← decodeExportedVersions platform encoded
  if tag ≠ magicTagSharedAuth then throw .invalidEncodedStream
  else
    let read ← seq.foldlM (readEntry platform) (.init, false)
    secretRead read

end Export

section Login

open Orb

variable (platform : Platform) (world : SharedLoginWorld)

/-- The call that a secret leads to; it goes to the process of version 2.0 if there is no other. -/
def loginRequest (conn : Connection) (secret : SharedAuthSecret) :
    Except Exception LoginRequest := do
  let some buskey := conn.buskey | throw .fault
  let pubKey := platform.pubKey conn.key
  let encoded := platform.encodeValue
    (.loginAuthenticationInfo ⟨platform.sha256 pubKey, secret.secret⟩)
  let encrypted ← memcpy 256 (platform.encrypt buskey world.nonce encoded)
  match secret.loginProcess, secret.legacyLoginProcess with
  | some loginProcess, _ => return ⟨.current, loginProcess, pubKey, encrypted⟩
  | none, some loginProcess => return ⟨.legacy, loginProcess, pubKey, encrypted⟩
  | none, none => throw .fault

/-- The answer to the call, `InvalidLoginProcess` where the login process is gone. -/
def sharedLogin (request : LoginRequest) : Except Exception LoginInfo :=
  match world.login request with
  | .error (.system .objectNotExist _ _) => .error .invalidLoginProcess
  | answer => answer

def loginBySharedAuth (ref : ConnRef) (secret : SharedAuthSecret) : Action Orb Exception Unit := do
  let orb ← get
  if (orb.connections ref).state = .logged then throw .alreadyLoggedIn
  else
    loginInit ref world.component
    let orb ← get
    if secret.busid ≠ (orb.connections ref).busid then throw .wrongBus
    else
      guarded .ignoreInterceptor (.boolean true) (.boolean false) do
        let orb ← get
        let request ← Action.ofExcept (loginRequest platform world (orb.connections ref) secret)
        let info ← Action.ofExcept (sharedLogin world request)
        login ref info

end Login

end SharedAuth

end OpenBus
