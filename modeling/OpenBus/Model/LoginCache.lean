import OpenBus.Machine.Action
import OpenBus.Model.Idl
import OpenBus.Model.LRUCache

/-! # The cache of logins

`validateLogin` looks a login up in the cache, asks the registry for it if it is not there, and
asks the registry for its validity once the validity last granted has run out. The registry is
outside the library: its answers, and the readings of the clock, are inputs of the operation.
-/

namespace OpenBus

open Machine

structure Login where
  loginInfo : LoginInfo
  pubKey : PublicKey
  time2live : ℤ
  timeUpdated : ℤ
deriving DecidableEq

abbrev LoginCache := LRUCache Identifier Login

def LoginCache.init : LoginCache := .ofSize 128

/-- What the registry answers and what `time(0)` reads during one validation: when the entry is
made, when its age is tested, and when its validity is renewed. -/
structure LoginRegistry where
  getLoginInfo : Identifier → Except Exception (LoginInfo × OctetSeq)
  getLoginValidity : Identifier → Except Exception ULong
  created : ℤ
  tested : ℤ
  renewed : ℤ

namespace LoginCache

variable (platform : Platform) (registry : LoginRegistry)

/-- Ask the registry for a login that is not cached; null if the registry does not know it. -/
def requestLogin (id : Identifier) : Action LoginCache Exception (Option Login) := fun cache =>
  match registry.getLoginInfo id with
  | .error .invalidLogins => (.ok none, cache)
  | .error e => (.error e, cache)
  | .ok (loginInfo, encodedCallerPubKey) =>
      match cache.fetch id with
      | (some again, cache) => (.ok (some again), cache)
      | (none, cache) =>
          match platform.byteSeq2PubKey encodedCallerPubKey with
          | .error e => (.error e, cache)
          | .ok pubKey =>
              let login : Login := ⟨loginInfo, pubKey, -1, registry.created⟩
              (.ok (some login), cache.insert id login)

/-- The second half of `validateLogin`, for a login that was found or fetched. -/
def checkValidity (id : Identifier) (login : Login) : Action LoginCache Exception (Option Login) :=
  fun cache =>
    if login.time2live > registry.tested - login.timeUpdated then (.ok (some login), cache)
    else
      match registry.getLoginValidity id with
      | .error e => (.error e, cache)
      | .ok validity =>
          let login :=
            { login with time2live := validity.toNat, timeUpdated := registry.renewed }
          -- The object is shared with the cache, which keeps its entry if it still has one.
          (.ok (if login.time2live > 0 then some login else none), cache.assign id login)

def validateLogin (id : Identifier) : Action LoginCache Exception (Option Login) := do
  let cached ← modifyGet fun cache => cache.fetch id
  let login ← match cached with
    | some login => pure (some login)
    | none => requestLogin platform registry id
  match login with
  | none => pure none
  | some login => checkValidity registry id login

end LoginCache

end OpenBus
