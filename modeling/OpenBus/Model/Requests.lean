import OpenBus.Model.Contexts

/-! # The requests that wait for an answer

`send_request` draws an identifier, puts it into a slot of its thread and remembers the connection
of the request under it. `receive_reply` and `receive_exception` forget the connection again, and
`receive_other`, which ends a request without an answer to it, does nothing. A thread waits for one
request at a time: those which the interceptor makes itself come before the identifier is drawn or
after the connection has been forgotten.
-/

namespace OpenBus

open Machine

namespace ClientInterceptor

/-- `receive_reply` -/
def receiveReply : Action Orb Exception Unit := do
  let orb ← get
  if ignoreRequest orb then return ()
  else
    match (orb.piCurrent .requestId).toUuid? with
    | none => return ()
    | some id =>
      if id = .replicate 16 0 then return ()
      else
        modify fun orb : Orb =>
          { orb with requestId2conn := Function.update orb.requestId2conn id none }

/-- `receive_other` -/
def receiveOther : Action Orb Exception Unit := pure ()

end ClientInterceptor

/-- The contexts of an ORB, and the request that each of them waits for. -/
structure Requests where
  contexts : Contexts
  awaited : ℕ → Option (Uuid × ConnRef)

namespace Requests

/-- A context has run, and waits for a request or for none. -/
def turn (s : Requests) (context : ℕ) (orb : Orb) (request : Option (Uuid × ConnRef)) : Requests :=
  ⟨s.contexts.leave context orb, Function.update s.awaited context request⟩

end Requests

inductive RequestEvent where
  | sent (context : ℕ) (id : Uuid) (ref : ConnRef)
  | replied (context : ℕ)
  | failed (context : ℕ)
  /-- A request has ended with `receive_other`. -/
  | passed (context : ℕ) (id : Uuid) (ref : ConnRef)
  | other

open ClientInterceptor in
inductive RequestStep : Requests → RequestEvent → Requests → Prop
  | sent {s : Requests} {context : ℕ} {ref : ConnRef} (world : ClientWorld)
      (free : s.awaited context = none) (drawn : world.requestId ≠ .replicate 16 0) :
      RequestStep s (.sent context world.requestId ref)
        (s.turn context (saveRequestConnection world ref (s.contexts.view context))
          (some (world.requestId, ref)))
  | replied {s : Requests} {context : ℕ} {request : Uuid × ConnRef}
      (waits : s.awaited context = some request)
      (attends : ignoreRequest (s.contexts.view context) = false) :
      RequestStep s (.replied context)
        (s.turn context (receiveReply (s.contexts.view context)).2 none)
  /-- The section of `receive_exception` in which the connection is found. -/
  | failed {s : Requests} {context : ℕ} {id : Uuid} {ref : ConnRef}
      (waits : s.awaited context = some (id, ref))
      (attends : ignoreRequest (s.contexts.view context) = false) :
      RequestStep s (.failed context)
        (s.turn context { s.contexts.view context with
          requestId2conn := Function.update s.contexts.orb.requestId2conn id none } none)
  | passed {s : Requests} {context : ℕ} {id : Uuid} {ref : ConnRef}
      (waits : s.awaited context = some (id, ref)) :
      RequestStep s (.passed context id ref)
        (s.turn context (receiveOther (s.contexts.view context)).2 none)
  /-- Anything else, also requests that the interceptor ignores. -/
  | other {s : Requests} {t : Contexts} (same : t.orb.requestId2conn = s.contexts.orb.requestId2conn)
      (kept : ∀ context, (s.awaited context).isSome →
        t.slots context .requestId = s.contexts.slots context .requestId) :
      RequestStep s .other { s with contexts := t }

def requestMachine : Labeled Requests RequestEvent where
  Init s := (∀ id, s.contexts.orb.requestId2conn id = none) ∧ ∀ context, s.awaited context = none
  Step := RequestStep

end OpenBus
