import OpenBus.Model.ServerInterceptor

/-! # The calls of the registry

To the interceptors the calls that `validateLogin` makes are requests like any other. One that is
answered with `InvalidLogin` logs its connection out, which destroys the cache that waits for the
answer and clears the sessions, and the callback of the application may log in again. The calls are
therefore actions on the ORB here. What waits for them goes on where they have left it.
-/

namespace OpenBus

open Machine

/-- An answer of the registry, and whether the cache that has asked is still there. -/
structure Answered (α : Type) where
  value : α
  cacheKept : Bool

/-- The registry as remote calls, and what `time(0)` reads during one validation. -/
structure RegistryCalls where
  getLoginInfo : Identifier → Action Orb Exception (Answered (LoginInfo × OctetSeq))
  getLoginValidity : Identifier → Action Orb Exception (Answered ULong)
  created : ℤ
  tested : ℤ
  renewed : ℤ

namespace RegistryCalls

/-- The cache of a connection. -/
def loginCache (conn : ConnRef) : Action Orb Exception LoginCache := do
  let orb ← get
  match (orb.connections conn).loginCache with
  | none => throw .fault
  | some cache => return cache

variable (platform : Platform) (calls : RegistryCalls) (conn : ConnRef) (id : Identifier)

/-- What a login that the registry has told of becomes, unless it is cached by now. -/
def enterLogin (told : LoginInfo × OctetSeq) : Action Orb Exception (Option Login) := do
  let cache ← loginCache conn
  let (again, cache) := cache.fetch id
  modify (Orb.setLoginCache conn cache)
  match again with
  | some again => return some again
  | none =>
    let pubKey ← Action.ofExcept (platform.byteSeq2PubKey told.2)
    let login : Login := ⟨told.1, pubKey, -1, calls.created⟩
    modify (Orb.setLoginCache conn (cache.insert id login))
    return some login

def requestLogin : Action Orb Exception (Option Login) := do
  match ← Action.attempt (calls.getLoginInfo id) with
  | .error .invalidLogins => return none
  | .error e => throw e
  | .ok answer =>
    -- The mutex of a cache that has been destroyed cannot be locked again.
    if answer.cacheKept then enterLogin platform calls conn id answer.value else throw .fault

def checkValidity (login : Login) : Action Orb Exception (Option Login) := do
  if login.time2live > calls.tested - login.timeUpdated then return some login
  else
    let validity ← calls.getLoginValidity id
    let login := { login with time2live := validity.value.toNat, timeUpdated := calls.renewed }
    -- The object outlives the cache. A cache that is still there shares it.
    if validity.cacheKept then
      modify (Orb.updateConnection conn fun conn =>
        { conn with loginCache := conn.loginCache.map fun cache => cache.assign id login })
    return if login.time2live > 0 then some login else none

def validateLogin : Action Orb Exception (Option Login) := do
  let cache ← loginCache conn
  let (cached, cache) := cache.fetch id
  modify (Orb.setLoginCache conn cache)
  let login ← match cached with
    | some login => pure (some login)
    | none => requestLogin platform calls conn id
  match login with
  | none => return none
  | some login => checkValidity calls conn id login

end RegistryCalls

/-- A registry that answers and does nothing else. -/
def LoginRegistry.calls (registry : LoginRegistry) : RegistryCalls where
  getLoginInfo id := Action.ofExcept ((registry.getLoginInfo id).map fun told => ⟨told, true⟩)
  getLoginValidity id :=
    Action.ofExcept ((registry.getLoginValidity id).map fun validity => ⟨validity, true⟩)
  created := registry.created
  tested := registry.tested
  renewed := registry.renewed

namespace ServerInterceptor

namespace Calling

variable (platform : Platform) (world : ServerWorld RegistryCalls) (request : ServerRequest)

def validateCaller : Validation := fun conn login => do
  let result ← Action.attempt
    (Dispatch.onOrb (RegistryCalls.validateLogin platform world.registry conn login))
  Action.ofExcept (validationResult result)

def handleCredential : Protocol → CredentialData → Action Dispatch Exception Unit :=
  handleCredentialWith platform world request (validateCaller platform world)

def receiveRequestServiceContexts : Action Dispatch Exception Unit :=
  receiveRequestServiceContextsWith platform world request (validateCaller platform world)

end Calling

end ServerInterceptor

end OpenBus
