import OpenBus.Machine.Run
import OpenBus.Model.ClientInterceptor
import OpenBus.Model.ServerInterceptor

/-! # Where version 2.0 is spoken

A connection meets version 2.0 in the credentials of the requests dispatched to it, in the resets
that answer its own requests, in the chains which its callers have joined, and at the two facets of
the bus for that version. The steps are the sections of the interceptors and of the connection where
it does, in any order; what the dispatch callback and the calls on the way do are steps of their own.
-/

namespace OpenBus

open Machine

namespace LegacySupport

open ClientInterceptor

/-- An ORB, and what each of its threads has found for the request it sends over one connection: the
session, and the chain it has joined. -/
structure Traffic where
  orb : Orb
  sending : ℕ → Option (SecretSession × CallerChain)

def Traffic.send (s : Traffic) (thread : ℕ) (found : Option (SecretSession × CallerChain)) :
    Traffic :=
  { s with sending := Function.update s.sending thread found }

@[simp] theorem Traffic.sending_send_self (s : Traffic) (thread : ℕ)
    (found : Option (SecretSession × CallerChain)) : (s.send thread found).sending thread = found :=
  Function.update_self ..

theorem Traffic.sending_send_of_ne {s : Traffic} {thread other : ℕ} (differ : other ≠ thread)
    (found : Option (SecretSession × CallerChain)) :
    (s.send thread found).sending other = s.sending other := Function.update_of_ne differ ..

inductive LegacyEvent
  /-- A request arrives at an ORB. -/
  | received (world : ServerWorld) (request : ServerRequest) (orb : Orb)
  /-- A reset is answered to a request of a connection with this key. -/
  | reset (key : PrivateKey) (contexts : ServiceContexts)
  /-- A facet is called to sign a chain for a request over a session. -/
  | signing (session : SecretSession) (chain : CallerChain) (facet : Option ObjectRef)
  /-- The converter is called. -/
  | converting (facet : Option ObjectRef)
  | other

/-- What a connection has of version 2.0. -/
def legacyPlaces (ref : ConnRef) (orb : Orb) :=
  ((orb.connections ref).legacySupport, (orb.connections ref).legacyAccessControl,
    (orb.connections ref).legacyConverter,
    fun remoteId => ((orb.connections ref).login2session.find remoteId).map SecretSession.isLegacy)

variable (platform : Platform) (ref : ConnRef)

/-- The key under which the chain of a request is looked up. -/
def chainKey (session : SecretSession) (chain : CallerChain) (login : Identifier) : HashValue :=
  platform.sha256 (chainKeyBuffer platform (usedProtocol session chain) login session.remoteId chain)

inductive LegacyStep : Traffic → LegacyEvent → Traffic → Prop
  | received {s : Traffic} {t : Dispatch} (world : ServerWorld) (request : ServerRequest)
      (ran : (ServerInterceptor.receiveRequestServiceContexts platform world request
        (.arrival s.orb)).2 = t)
      (quiet : legacyPlaces ref t.orb = legacyPlaces ref s.orb) :
      LegacyStep s (.received world request s.orb) { s with orb := t.orb }
  | reset {s : Traffic} (request : ClientRequest) (contexts : ServiceContexts) :
      LegacyStep s (.reset (s.orb.connections ref).key contexts)
        { s with orb := (installSession platform request ref contexts s.orb).2 }
  /-- `attach_credential` finds a session, and the chain joined in the slots of its thread. -/
  | read {s : Traffic} {thread : ℕ} {request : ClientRequest} {slots : SlotTable}
      {key : Identifier} {session : SecretSession} {chain : CallerChain} {t : Orb}
      (here : s.sending thread = none)
      (found : getSession platform request ref s.orb = (.ok (some (key, session)), t))
      (joined : getJoinedChain platform ref { t with piCurrent := slots } = .ok chain) :
      LegacyStep s .other (Traffic.send { s with orb := t } thread (some (session, chain)))
  /-- `get_signed_chain` does not find the chain in its cache. -/
  | sign {s : Traffic} {thread : ℕ} {session : SecretSession} {chain : CallerChain}
      (login : Identifier) (here : s.sending thread = some (session, chain))
      (remote : session.remoteId ≠ busLogin)
      (missed : (s.orb.chainCache (usedProtocol session chain)).find
        (chainKey platform session chain login) = none) :
      LegacyStep s
        (.signing session chain (chainSigner (usedProtocol session chain) (s.orb.connections ref)))
        (s.send thread none)
  /-- A request for which no chain is signed. -/
  | sent {s : Traffic} (thread : ℕ) : LegacyStep s .other (s.send thread none)
  /-- The converter is called where the flag has been found set. -/
  | convert {s : Traffic} (supported : (s.orb.connections ref).legacySupport = true) :
      LegacyStep s (.converting (s.orb.connections ref).legacyConverter) s
  | init {s : Traffic} (facets : BusFacets) :
      LegacyStep s .other
        { s with orb := s.orb.updateConnection ref (Connection.loginInit facets) }
  | cleared {s : Traffic} : LegacyStep s .other { s with orb := s.orb.logoutSection ref }
  | other {s : Traffic} {t : Orb} (same : legacyPlaces ref t = legacyPlaces ref s.orb) :
      LegacyStep s .other { s with orb := t }

/-- The runs of a connection which has been made without support of version 2.0. -/
def legacyMachine : Labeled Traffic LegacyEvent where
  Init s := (∃ key, s.orb.connections ref = .init key false) ∧ ∀ thread, s.sending thread = none
  Step := LegacyStep platform ref

end LegacySupport

end OpenBus
