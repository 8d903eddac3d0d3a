import OpenBus.Machine.Run
import OpenBus.Proofs.ServerInterceptor

/-! # Runs of a server process

The process handles requests one at a time, each in the state which the one before has left. In
between, and in the callback of a request, operations of the context may run: a logout clears the
sessions, which all connections share, and a login gives its connection an empty cache of logins.
The label of a request records what it met and what it has been answered.
-/

namespace OpenBus

open Machine

namespace ServerInterceptor

/-- A request which the process has handled. -/
structure Handled where
  world : ServerWorld
  request : ServerRequest
  before : Orb
  answer : Except Exception Unit
  after : Dispatch

/-- What the operations of the context do to the caches of the interceptor. -/
structure Meanwhile (cleared : Bool) (orb t : Orb) : Prop where
  sessions : t.sessionLRUCache =
    if cleared then orb.sessionLRUCache.clear else orb.sessionLRUCache
  logins : ∀ ref cache, (t.connections ref).loginCache = some cache →
    cache = .init ∨ (orb.connections ref).loginCache = some cache

/-- The state in which the callback of a request leaves the context. -/
def calledState (platform : Platform) (world : ServerWorld) (request : ServerRequest) (orb : Orb) :
    Orb :=
  match getCredential platform request (judged request) with
  | .error _ => orb
  | .ok credential => (callbackState world request credential (.arrival orb)).orb

/-- A request, and whether its callback has cleared the sessions, or other operations. -/
inductive ServingEvent where
  | handled (handled : Handled) (cleared : Bool)
  | meanwhile (cleared : Bool)

/-- A fault ends the process. -/
inductive ServingStep (platform : Platform) : Orb → ServingEvent → Orb → Prop
  | handled {orb : Orb} {world : ServerWorld} {request : ServerRequest} {cleared : Bool}
      {answer : Except Exception Unit} {t : Dispatch}
      (called : Meanwhile cleared orb (calledState platform world request orb))
      (received : receiveRequestServiceContexts platform world request (.arrival orb) = (answer, t))
      (continues : answer ≠ .error .fault) :
      ServingStep platform orb (.handled ⟨world, request, orb, answer, t⟩ cleared) t.orb
  | meanwhile {orb t : Orb} {cleared : Bool} (passed : Meanwhile cleared orb t) :
      ServingStep platform orb (.meanwhile cleared) t

/-- The process, from the construction of its interceptor on. -/
def servingMachine (platform : Platform) : Labeled Orb ServingEvent where
  Init orb := orb.sessionLRUCache = .ofSize 128 ∧
    ∀ ref cache, (orb.connections ref).loginCache = some cache → cache = .init
  Step := ServingStep platform

end ServerInterceptor

end OpenBus
