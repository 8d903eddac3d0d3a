import OpenBus.Machine.SharedUpdates
import OpenBus.Model.ClientInterceptor

/-! # The sessions that threads share

`get_session` returns a pointer into the list of the cache. The mutex of the interceptor is held
while the session is looked up, and while a reset is installed, but not while a credential is built:
the thread counts the ticket up through the pointer, and reads the other members, while others count
tickets of the same session, receive resets and log out. A node that the cache drops is freed. What
happens if a thread goes on with a pointer to it is not defined, so that no step says it.
-/

namespace OpenBus

open Machine ClientInterceptor

/-- The sessions of a connection, and the threads that build credentials. -/
structure SharedSessions where
  /-- The nodes in the list of the cache, by their addresses. -/
  login2session : LRUCache Identifier ℕ
  nodes : ℕ → SecretSession
  /-- How many nodes have been allocated. Freed addresses are not used again. -/
  allocated : ℕ
  /-- What `get_session` has returned to a thread. -/
  pointer : ℕ → Option ℕ
  /-- The ticket that a thread has read in order to count it up. -/
  loaded : ℕ → Option ULong

inductive SharedEvent where
  | looked (thread : ℕ) (remoteId : Identifier) (address : Option ℕ)
  | loaded (thread address : ℕ)
  /-- A thread has counted a ticket, with which it builds a credential. -/
  | stored (thread address : ℕ) (session : SecretSession)
  | installed (address : ℕ) (session : SecretSession)
  | cleared

namespace SharedSessions

def init : SharedSessions :=
  ⟨.ofSize 128, fun _ => .init, 0, fun _ => none, fun _ => none⟩

/-- The node at an address has not been freed. -/
def Live (s : SharedSessions) (address : ℕ) : Prop :=
  ∃ remoteId, s.login2session.find remoteId = some address

/-- `get_session`, for a profile whose login is known. -/
def getSession (s : SharedSessions) (thread : ℕ) (remoteId : Identifier) : SharedSessions :=
  { s with
    login2session := (s.login2session.fetch remoteId).2
    pointer := Function.update s.pointer thread (s.login2session.fetch remoteId).1 }

/-- The first half of `++session->ticket`. -/
def load (s : SharedSessions) (thread address : ℕ) : SharedSessions :=
  { s with loaded := Function.update s.loaded thread (some (s.nodes address).ticket) }

/-- The session of a node, with another ticket. -/
def counted (s : SharedSessions) (address : ℕ) (ticket : ULong) : SecretSession :=
  { s.nodes address with ticket }

/-- The second half of `++session->ticket`. -/
def store (s : SharedSessions) (thread address : ℕ) (ticket : ULong) : SharedSessions :=
  { s with
    nodes := Function.update s.nodes address (s.counted address ticket)
    loaded := Function.update s.loaded thread none }

/-- The session of a reset is copied into a new node; that of the same login is freed. -/
def install (s : SharedSessions) (session : SecretSession) : SharedSessions :=
  { s with
    login2session := s.login2session.insert session.remoteId s.allocated
    nodes := Function.update s.nodes s.allocated session
    allocated := s.allocated + 1 }

/-- The section of `_logout`. It holds the mutex of the connection and not that of the interceptor,
so that it may overlap the sections above. What comes of an overlap is not defined either, and no
step says it. -/
def clear (s : SharedSessions) : SharedSessions := { s with login2session := s.login2session.clear }

end SharedSessions

inductive SharedStep (platform : Platform) (key : PrivateKey) :
    SharedSessions → SharedEvent → SharedSessions → Prop
  | looked {s : SharedSessions} {thread : ℕ} (idle : s.loaded thread = none)
      (remoteId : Identifier) :
      SharedStep platform key s (.looked thread remoteId (s.login2session.find remoteId))
        (s.getSession thread remoteId)
  | loaded {s : SharedSessions} {thread address : ℕ} (points : s.pointer thread = some address)
      (live : s.Live address) (idle : s.loaded thread = none) :
      SharedStep platform key s (.loaded thread address) (s.load thread address)
  | stored {s : SharedSessions} {thread address : ℕ} {ticket : ULong}
      (points : s.pointer thread = some address) (live : s.Live address)
      (loaded : s.loaded thread = some ticket) :
      SharedStep platform key s (.stored thread address (s.counted address (ticket + 1)))
        (s.store thread address (ticket + 1))
  | installed {s : SharedSessions} {contexts : ServiceContexts} {session : SecretSession}
      (read : resetSession platform key contexts = .ok session) :
      SharedStep platform key s (.installed s.allocated session) (s.install session)
  | cleared {s : SharedSessions} : SharedStep platform key s .cleared s.clear

def sharedMachine (platform : Platform) (key : PrivateKey) :
    Labeled SharedSessions SharedEvent where
  Init := Eq .init
  Step := SharedStep platform key

/-- The sessions of a connection as values. Each of them is counted up in one step. -/
inductive AtomicEvent where
  | looked (remoteId : Identifier)
  | counted (session : SecretSession)
  | installed (session : SecretSession)
  | cleared

/-- What `getSession`, `sessionCredential`, `installSession` and `logoutSection` do to sessions. -/
inductive AtomicStep : LRUCache Identifier SecretSession → AtomicEvent →
    LRUCache Identifier SecretSession → Prop
  | looked (c : LRUCache Identifier SecretSession) (remoteId : Identifier) :
      AtomicStep c (.looked remoteId) (c.fetch remoteId).2
  | counted {c : LRUCache Identifier SecretSession} {remoteId : Identifier}
      {session : SecretSession} (found : c.find remoteId = some session) :
      AtomicStep c (.counted { session with ticket := session.ticket + 1 })
        (c.assign remoteId { session with ticket := session.ticket + 1 })
  | installed (c : LRUCache Identifier SecretSession) (session : SecretSession) :
      AtomicStep c (.installed session) (c.insert session.remoteId session)
  | cleared (c : LRUCache Identifier SecretSession) : AtomicStep c .cleared c.clear

def atomicMachine : Labeled (LRUCache Identifier SecretSession) AtomicEvent where
  Init := Eq (.ofSize 128)
  Step := AtomicStep

end OpenBus
