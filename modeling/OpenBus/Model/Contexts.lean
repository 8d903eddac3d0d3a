import Mathlib.Data.Finset.Basic
import OpenBus.Machine.Run
import OpenBus.Model.ClientInterceptor
import OpenBus.Model.ServerInterceptor

/-! # The contexts of an ORB

The contexts of an ORB are the threads and the requests being served. Each of them has a table of
slots, and all share the connections and the map from the ids in the slots to connections. An
operation runs on the ORB as its context sees it. When a thread begins or ends to serve a request,
the ORB may hand the slots of one to the other, and when a request has been served it drops them.
-/

namespace OpenBus

open Machine

structure Contexts where
  /-- What the contexts share; the slots are those of the context that ran last. -/
  orb : Orb
  slots : ℕ → SlotTable
  inUse : Finset ℕ

namespace Contexts

/-- The ORB as a context sees it. -/
def view (s : Contexts) (context : ℕ) : Orb := { s.orb with piCurrent := s.slots context }

/-- A context has run and leaves the ORB behind. -/
def leave (s : Contexts) (context : ℕ) (orb : Orb) : Contexts :=
  { s with orb, slots := Function.update s.slots context orb.piCurrent }

/-- The value of the slot of the current connection. -/
def current (s : Contexts) (context : ℕ) : Any := s.slots context .currentConnection

/-- All that finding a connection depends on. -/
def places (s : Contexts) := (s.orb.alive, s.orb.defConn, s.orb.id2conn, s.current, s.inUse)

/-- A random id that has not been drawn before. -/
def Unused (s : Contexts) (id : Uuid) : Prop :=
  s.orb.id2conn id = none ∧ ∀ context, s.current context ≠ .uuid id

/-- The argument of an operation, which its caller keeps alive. -/
def Held (s : Contexts) (conn : Option ConnRef) : Prop :=
  ∀ ref, conn = some ref → s.orb.alive ref = true

/-- The entry that no context in use would name any more if a context dropped its slots. -/
def lost (s : Contexts) (context : ℕ) : Option Uuid :=
  match (s.current context).toUuid? with
  | none => none
  | some id =>
      if s.orb.id2conn id = none ∨
          ∃ other ∈ s.inUse, other ≠ context ∧ s.current other = .uuid id then none
      else some id

end Contexts

/-- What the contexts do about their connections. -/
inductive ContextEvent where
  | setDefault (conn : Option ConnRef)
  | setCurrent (context : ℕ) (conn : Option ConnRef)
  | destroyed (ref : ConnRef)
  | request (context : ℕ)
  | other

inductive ContextStep : Contexts → ContextEvent → Contexts → Prop
  | setDefault {s : Contexts} (conn : Option ConnRef) (held : s.Held conn) :
      ContextStep s (.setDefault conn) { s with orb := s.orb.setDefaultConnection conn }
  | setCurrent {s : Contexts} {context : ℕ} (conn : Option ConnRef) (fresh : Uuid)
      (here : context ∈ s.inUse) (held : s.Held conn) (unused : s.Unused fresh) :
      ContextStep s (.setCurrent context conn)
        (s.leave context ((s.view context).setCurrentConnection fresh conn))
  | destroyed {s : Contexts} (ref : ConnRef) :
      ContextStep s (.destroyed ref)
        { s with orb := { s.orb with alive := Function.update s.orb.alive ref false } }
  /-- A request looks its connection up. -/
  | request {s : Contexts} {context : ℕ} (here : context ∈ s.inUse) :
      ContextStep s (.request context)
        (s.leave context (ClientInterceptor.getCurrentConnection (s.view context)).2)
  /-- Anything else that is done to the connections, the caches and the other slots. -/
  | other {s t : Contexts} (same : t.places = s.places) : ContextStep s .other t

def contextMachine : Labeled Contexts ContextEvent where
  Init s := (∃ connections alive, s.orb = .init connections alive) ∧
    ∀ context slot, s.slots context slot = .empty
  Step := ContextStep

/-- What the contexts do while requests are served. -/
inductive ServingEvent where
  | context (e : ContextEvent)
  | arrived (request : ℕ)
  | saved (request : ℕ) (ref : ConnRef)
  /-- A context is handed the slots of another one, and the entry lost with its own slots. -/
  | handed (source target : ℕ) (lost : Option Uuid)
  /-- A request has been served, and the entry lost with its slots. -/
  | ended (request : ℕ) (lost : Option Uuid)

inductive ServingStep : Contexts → ServingEvent → Contexts → Prop
  | context {s t : Contexts} {e : ContextEvent} (step : ContextStep s e t) :
      ServingStep s (.context e) t
  | arrived {s : Contexts} {request : ℕ} (new : request ∉ s.inUse) :
      ServingStep s (.arrived request)
        { s with
          slots := Function.update s.slots request fun _ => .empty
          inUse := insert request s.inUse }
  /-- The section of `save_dispatcher_connection`, after which it sets the current connection of
  the thread. -/
  | saved {s : Contexts} {request : ℕ} (ref : ConnRef) (id : Uuid) (here : request ∈ s.inUse)
      (clear : s.current request = .empty) :
      ServingStep s (.saved request ref)
        { s with
          orb := { s.orb with id2conn := Function.update s.orb.id2conn id (some (some ref)) }
          slots := Function.update s.slots request
            (Function.update (s.slots request) .currentConnection (.uuid id)) }
  | handed {s : Contexts} {source target : ℕ} (used : source ∈ s.inUse)
      (here : target ∈ s.inUse) (differ : source ≠ target) :
      ServingStep s (.handed source target (s.lost target))
        { s with slots := Function.update s.slots target (s.slots source) }
  | ended {s : Contexts} {request : ℕ} (here : request ∈ s.inUse) :
      ServingStep s (.ended request (s.lost request)) { s with inUse := s.inUse.erase request }

def servingMachine : Labeled Contexts ServingEvent where
  Init := contextMachine.Init
  Step := ServingStep

end OpenBus
