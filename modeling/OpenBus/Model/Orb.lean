import OpenBus.Model.CallerChain
import OpenBus.Model.Connection
import OpenBus.Model.Hash
import OpenBus.Model.Ticket

/-! # The context of an ORB

The state shared by the operations of one ORB: its connections, the maps and caches of the
context and of the two interceptors, and the slots of the calling thread. A connection is held
by reference and `alive` tells whether a weak pointer to it can still be locked.
-/

namespace OpenBus

open Machine

abbrev ConnRef := ℕ

/-- The session of a server with one remote login. -/
structure Session where
  id : ULong
  tickets : TicketsHistory 64
  secret : Secret
  remoteId : Identifier
deriving DecidableEq

structure Orb where
  connections : ConnRef → Connection
  alive : ConnRef → Bool
  defConn : Option ConnRef
  id2conn : Uuid → Option (Option ConnRef)
  piCurrent : SlotTable
  sessionLRUCache : LRUCache ULong Session
  callChainLRUCache : LRUCache HashValue SignedData
  legacyCallChainLRUCache : LRUCache HashValue SignedData
  requestId2conn : Uuid → Option ConnRef

namespace Orb

/-- The state after initialization, with the connections made so far. -/
def init (connections : ConnRef → Connection) (alive : ConnRef → Bool) : Orb where
  connections := connections
  alive := alive
  defConn := none
  id2conn := fun _ => none
  piCurrent := fun _ => .empty
  sessionLRUCache := .ofSize 128
  callChainLRUCache := .ofSize 128
  legacyCallChainLRUCache := .ofSize 128
  requestId2conn := fun _ => none

/-- Lock a weak pointer. -/
def lock (orb : Orb) (pointer : Option ConnRef) : Option ConnRef :=
  pointer.filter orb.alive

def setSlot (slot : Slot) (value : Any) (orb : Orb) : Orb :=
  { orb with piCurrent := Function.update orb.piCurrent slot value }

def updateConnection (ref : ConnRef) (f : Connection → Connection) (orb : Orb) : Orb :=
  { orb with connections := Function.update orb.connections ref (f (orb.connections ref)) }

def setLoginCache (ref : ConnRef) (cache : LoginCache) : Orb → Orb :=
  updateConnection ref fun conn => { conn with loginCache := some cache }

def setSessions (sessions : LRUCache ULong Session) (orb : Orb) : Orb :=
  { orb with sessionLRUCache := sessions }

/-- The cache of signed chains of one protocol version. -/
def chainCache (orb : Orb) : Protocol → LRUCache HashValue SignedData
  | .current => orb.callChainLRUCache
  | .legacy => orb.legacyCallChainLRUCache

def setChainCache (protocol : Protocol) (cache : LRUCache HashValue SignedData) (orb : Orb) : Orb :=
  match protocol with
  | .current => { orb with callChainLRUCache := cache }
  | .legacy => { orb with legacyCallChainLRUCache := cache }

def setProfile2login (ref : ConnRef) (cache : LRUCache HashValue Identifier) : Orb → Orb :=
  updateConnection ref fun conn => { conn with profile2login := cache }

def setLogin2session (ref : ConnRef) (cache : LRUCache Identifier SecretSession) : Orb → Orb :=
  updateConnection ref fun conn => { conn with login2session := cache }

def setInvalidLogin (ref : ConnRef) (login : Option LoginInfo) : Orb → Orb :=
  updateConnection ref fun conn => { conn with invalidLogin := login }

/-- `clear_caches` of both interceptors. -/
def clearCaches (orb : Orb) : Orb :=
  { orb with
    callChainLRUCache := orb.callChainLRUCache.clear
    legacyCallChainLRUCache := orb.legacyCallChainLRUCache.clear
    sessionLRUCache := orb.sessionLRUCache.clear }

/-- `_logout(true)`, which is also what `_logout(false)` does under the mutex. -/
def logoutSection (ref : ConnRef) (orb : Orb) : Orb :=
  match (orb.connections ref).state with
  | .loggedOut => orb
  | .logged => (orb.updateConnection ref Connection.logout).clearCaches

/-- A scoped guard: set a slot, run, and set the slot again however the run ends. -/
def guarded {α : Type} (slot : Slot) (value reset : Any) (action : Action Orb Exception α) :
    Action Orb Exception α := fun orb =>
  let (result, orb) := action (orb.setSlot slot value)
  (result, orb.setSlot slot reset)

/-- A guard leaves alone what does not depend on its slot, if what it guards does. -/
theorem guarded_keeps {α β : Type} {observe : Orb → β} {slot : Slot} {value reset : Any}
    {action : Action Orb Exception α}
    (blind : ∀ value orb, observe (setSlot slot value orb) = observe orb)
    (keeps : Action.Keeps observe action) : Action.Keeps observe (guarded slot value reset action) :=
  fun orb => (blind reset _).trans ((keeps _).trans (blind value orb))

def getDefaultConnection (orb : Orb) : Option ConnRef := orb.lock orb.defConn

def setDefaultConnection (conn : Option ConnRef) (orb : Orb) : Orb := { orb with defConn := conn }

def getCurrentConnection (orb : Orb) : Option ConnRef :=
  match (orb.piCurrent .currentConnection).toUuid? with
  | none => orb.getDefaultConnection
  | some id =>
      match orb.id2conn id with
      | some pointer => orb.lock pointer
      | none => none

/-- The entry of the current slot is dropped; a null connection leaves the slot as it is. -/
def setCurrentConnection (fresh : Uuid) (conn : Option ConnRef) (orb : Orb) : Orb :=
  let erased : Orb :=
    match (orb.piCurrent .currentConnection).toUuid? with
    | none => orb
    | some id => { orb with id2conn := Function.update orb.id2conn id none }
  match conn with
  | none => erased
  | some ref =>
      { erased with id2conn := Function.update erased.id2conn fresh (some (some ref)) }.setSlot
        .currentConnection (.uuid fresh)

section Chains

variable (platform : Platform)

/-- Decode a signed chain of version 2.1. -/
def decodeChainData (signedChain : SignedData) : Except Exception CallChain :=
  (platform.decodeValue signedChain.encoded .callChain).map Any.extractCallChain

/-- Decode a signed chain of version 2.0. -/
def decodeLegacyChainData (signedChain : SignedData) : Except Exception LegacyCallChain :=
  (platform.decodeValue signedChain.encoded .legacyCallChain).map Any.extractLegacyCallChain

/-- `conn->login()->entity`, a fault if the connection has no login. -/
def loginEntity (conn : Connection) : Except Exception Identifier :=
  match conn.loginInfo with
  | some info => .ok info.entity
  | none => .error .fault

def extractCallChain (signedChain : SignedData) (conn : Connection) :
    Except Exception CallerChain := do
  let chain ← decodeChainData platform signedChain
  let entity ← loginEntity conn
  return .ofCallChain platform chain entity signedChain

def extractLegacyCallChain (signedChain : SignedData) (conn : Connection) :
    Except Exception CallerChain := do
  let chain ← decodeLegacyChainData platform signedChain
  let entity ← loginEntity conn
  return .ofLegacyCallChain platform chain conn.busid entity signedChain

def getCallerChain (orb : Orb) : Except Exception CallerChain :=
  match orb.getCurrentConnection with
  | none => .ok (.none platform)
  | some ref =>
      let any := orb.piCurrent .signedCallChain
      let signedChain := any.extractSignedData
      if signedChain.encoded.length = 0 then
        let legacySignedChain := any.extractSignedCallChain
        if legacySignedChain.encoded.length ≠ 0 then
          extractLegacyCallChain platform legacySignedChain (orb.connections ref)
        else .ok (.none platform)
      else extractCallChain platform signedChain (orb.connections ref)

/-- Join a chain, by its half of version 2.1 if it has one; the empty chain is not joined. -/
def setJoinedChain (callerChain : CallerChain) : Action Orb Exception Unit :=
  if callerChain.equal (.none platform) then pure ()
  else
    modify (setSlot .joinedCallChain
      (if callerChain.signedChain.encoded.length > 0 then .signedData callerChain.signedChain
        else .signedCallChain callerChain.legacySignedChain))

/-- `joinChain`; the empty chain stands for the one of the call being served. -/
def joinChain (chain : CallerChain) : Action Orb Exception Unit := do
  if chain.equal (.none platform) then
    let orb ← get
    let callerChain ← Action.ofExcept (orb.getCallerChain platform)
    setJoinedChain platform callerChain
  else setJoinedChain platform chain

def exitChain : Orb → Orb := setSlot .joinedCallChain .empty

/-- `getJoinedChain` of the context, which looks for a chain of version 2.1 only. -/
def getJoinedChain (orb : Orb) : Except Exception CallerChain :=
  match orb.getCurrentConnection with
  | none => .ok (.none platform)
  | some ref =>
      let signedChain := (orb.piCurrent .joinedCallChain).extractSignedData
      if signedChain.encoded.length = 0 then .ok (.none platform)
      else
        match platform.decodeValue signedChain.encoded .callChain with
        | .error e => if e.isCorba then .ok (.none platform) else .error e
        | .ok any =>
            (loginEntity (orb.connections ref)).map fun entity =>
              .ofCallChain platform any.extractCallChain entity signedChain

end Chains

def getLoginRegistry (orb : Orb) : Option ObjectRef :=
  orb.getCurrentConnection.bind fun ref => (orb.connections ref).loginRegistry

end Orb

end OpenBus
