import OpenBus.Soundness.Handshake
import OpenBus.Soundness.NoReplay
import OpenBus.Soundness.TicketWindow

/-! # The requests sent over one session

The threads of a client number the requests which they send over a session, and the network may
deliver them late, out of order, more than once or not at all. A request passes the test of the
session when it is delivered first, unless one that has been sent more than 64 requests later was
delivered before. What a server tests besides, the connection, the caller and the chain, is not
looked at here: a request that is accepted in this module is one which this test accepts.
-/

namespace OpenBus

open Machine ClientInterceptor ServerInterceptor

namespace TicketsHistory

/-- A checker that remembers what it accepts is one that remembers what it has been shown. -/
theorem fresh_remember {w : ℕ} {accepted shown : List ℕ}
    (same : ∀ t, Fresh w accepted t ↔ Fresh w shown t) (id t : ℕ) :
    Fresh w (remember w accepted id) t ↔ Fresh w (id :: shown) t := by
  rw [remember, fresh_cons]
  by_cases fresh : Fresh w accepted id
  · rw [if_pos fresh, fresh_cons, same]
  · rw [if_neg fresh, same, iff_self_and]
    rw [same] at fresh
    intro free
    by_contra refused
    apply fresh
    obtain ⟨absent, ahead⟩ := free
    by_cases equal : t = id
    · exact equal ▸ ⟨absent, ahead⟩
    · have behind : t + w < id := by
        by_contra near
        exact refused ⟨equal, near⟩
      refine ⟨fun mem => ahead id mem behind, fun other mem beyond => ?_⟩
      exact ahead other mem (by omega)

end TicketsHistory

namespace SessionStream

open TicketsHistory (Fresh Checked)

/-- What a client and a server have agreed upon: the caches know the session under the login of the
server and under its number. -/
structure Agreement where
  ref : ConnRef
  remoteId : Identifier
  login : Identifier
  session : ULong
  secret : Secret

/-- A request on its way. -/
structure Message where
  operation : Identifier
  protocol : Protocol
  credential : CredentialData

/-- The request of a credential that is built with a session of the client. -/
def message (platform : Platform) (operation : Identifier) (protocol : Protocol)
    (bus login : Identifier) (session : SecretSession) (chain : SignedData) : Message :=
  ⟨operation, protocol, bus, login, session.id, session.ticket + 1,
    hash platform protocol operation (session.ticket + 1) session.secret, chain⟩

/-- The two sides, and the requests sent so far. -/
structure Stream where
  client : Orb
  server : Orb
  sent : List Message

inductive StreamEvent where
  | sent
  /-- A request has been delivered, told by its place among those sent, and the verdict of the test
  of the session. -/
  | delivered (number : ℕ) (accepted : Bool)
  | other
deriving DecidableEq

/-- The session of the client. -/
def Agreement.ofClient (a : Agreement) (client : Orb) : Option SecretSession :=
  (client.connections a.ref).login2session.find a.remoteId

def Agreement.ofServer (a : Agreement) (server : Orb) : Option Session :=
  server.sessionLRUCache.find a.session

/-- The two sides of a session that has just been agreed upon. -/
structure Agreement.Begins (a : Agreement) (s : Stream) : Prop where
  client : ∃ session, a.ofClient s.client = some session ∧ session.id = a.session ∧
    session.secret = a.secret ∧ session.ticket = 0
  server : a.ofServer s.server =
    some ⟨a.session, TicketsHistory.ticketsInit (by decide), a.secret, a.login⟩
  unsent : s.sent = []

def delivery : StreamEvent → Option ℕ
  | .delivered number _ => some number
  | _ => none

/-- The requests delivered, the last one first. -/
def deliveries (history : List StreamEvent) : List ℕ := history.filterMap delivery

/-- The ticket of a request. -/
def ticketOf (number : ℕ) : ℕ := (number + 1) % 2 ^ 32

/-- What holds of the two sides and of the requests between them. -/
structure InStep (platform : Platform) (a : Agreement) (history : List StreamEvent) (s : Stream) :
    Prop where
  client : ∃ session, a.ofClient s.client = some session ∧ session.id = a.session ∧
    session.secret = a.secret ∧ session.ticket.toNat = s.sent.length % 2 ^ 32
  server : ∃ session accepted, a.ofServer s.server = some session ∧ session.secret = a.secret ∧
    session.remoteId = a.login ∧ Checked.Remembers ⟨session.tickets, accepted⟩ ∧
    ∀ t, Fresh 64 accepted t ↔ Fresh 64 ((deliveries history).map ticketOf) t
  travels : ∀ number message, s.sent[number]? = some message →
    message.credential.session = a.session ∧ message.credential.login = a.login ∧
    message.credential.ticket.toNat = ticketOf number ∧
    hash platform message.protocol message.operation message.credential.ticket a.secret =
      message.credential.hash
  count : s.sent.length = history.count .sent

variable {platform : Platform} {a : Agreement} {past history : List StreamEvent} {s t : Stream}

namespace InStep

/-- A request takes the next ticket. -/
theorem sent (inStep : InStep platform a past s) {session : SecretSession}
    (operation : Identifier) (protocol : Protocol) (bus : Identifier) (chain : SignedData)
    (found : a.ofClient s.client = some session) :
    InStep platform a (.sent :: past)
      { s with
        client := s.client.setLogin2session a.ref
          ((s.client.connections a.ref).login2session.assign a.remoteId
            { session with ticket := session.ticket + 1 })
        sent := s.sent ++ [message platform operation protocol bus a.login session chain] } := by
  obtain ⟨known, same, id, secret, ticket⟩ := inStep.client
  obtain rfl : session = known := Option.some.inj (found.symm.trans same)
  have next : (session.ticket + 1).toNat = ticketOf s.sent.length := by
    rw [BitVec.toNat_add, ticket, ticketOf]
    exact Nat.mod_add_mod ..
  refine ⟨⟨{ session with ticket := session.ticket + 1 }, ?_, id, secret, ?_⟩, inStep.server,
    fun number message there => ?_, ?_⟩
  · simp only [Agreement.ofClient, Orb.setLogin2session, Orb.updateConnection, Function.update_self,
      LRUCache.find_assign, if_true]
    change Option.map _ (a.ofClient s.client) = _
    rw [found]
    rfl
  · rw [List.length_append, List.length_singleton]
    exact next
  · rcases Nat.lt_trichotomy number s.sent.length with before | here | beyond
    · rw [List.getElem?_append_left before] at there
      exact inStep.travels number message there
    · subst here
      rw [List.getElem?_concat_length] at there
      cases there
      exact ⟨id, rfl, next, by rw [← secret]; rfl⟩
    · rw [List.getElem?_eq_none (by simp; omega)] at there
      cases there
  · rw [List.length_append, List.length_singleton, List.count_cons_self, inStep.count]

/-- What the server does with a request that is delivered. -/
theorem delivered (inStep : InStep platform a past s) {number : ℕ} {message : Message}
    {d after : Dispatch} {accepted : Bool} (there : s.sent[number]? = some message)
    (arrived : d.orb = s.server)
    (checked : checkSession platform
      (carrying platform message.operation message.protocol message.credential) message.protocol
      message.credential d = (.ok accepted, after)) :
    (accepted = true ↔ Fresh 64 ((deliveries past).map ticketOf) (ticketOf number)) ∧
      InStep platform a (.delivered number accepted :: past) { s with server := after.orb } := by
  obtain ⟨session, taken, found, secret, login, remembers, same⟩ := inStep.server
  obtain ⟨named, sender, ticket, hashed⟩ := inStep.travels number message there
  obtain ⟨verdict, judged, accepts⟩ := checkSession_spec platform
    (carrying platform message.operation message.protocol message.credential) message.protocol
    message.credential d
  rw [checked] at judged
  cases judged
  have cached : d.sessions.find message.credential.session = some session := by
    rw [named, Dispatch.sessions, arrived]
    exact found
  have fits : hash platform message.protocol message.operation message.credential.ticket
      session.secret = message.credential.hash ∧ session.remoteId = message.credential.login :=
    ⟨secret ▸ hashed, login.trans sender.symm⟩
  let wide : BitVec 64 := message.credential.ticket.setWidth 64
  have value : wide.toNat = ticketOf number := (toNat_setWidth_ticket _).trans ticket
  let next := Checked.check ⟨session.tickets, taken⟩ wide
  have kept : next.Remembers :=
    remembers.check (session.tickets.leaves_of_room (ticket_room message.credential.ticket))
  have shown (t : ℕ) : Fresh 64 next.accepted t ↔
      Fresh 64 (ticketOf number :: (deliveries past).map ticketOf) t := by
    rw [remembers.accepted_check, TicketsHistory.fresh_remember same, value]
  refine ⟨?_, inStep.client, ⟨{ session with tickets := next.history }, next.accepted, ?_, secret,
    login, kept, shown⟩, inStep.travels, inStep.count⟩
  · rw [← same, ← value, ← remembers.verdict, accepts]
    constructor
    · rintro ⟨other, present, -, -, check⟩
      obtain rfl : session = other := Option.some.inj (cached.symm.trans present)
      exact check
    · exact fun check => ⟨session, cached, fits.2, fits.1, check⟩
  · have checks : sessionsAfterCheck platform
        (carrying platform message.operation message.protocol message.credential) message.protocol
        message.credential d.sessions =
        (d.sessions.fetch message.credential.session).2.assign message.credential.session
          { session with tickets := next.history } := by
      rw [sessionsAfterCheck, cached]
      exact if_pos fits
    change (sessionsAfterCheck ..).find a.session = _
    rw [checks, named, LRUCache.find_assign, if_pos rfl, LRUCache.find_fetch, ← named, cached]
    rfl

theorem other (inStep : InStep platform a past s) (client : a.ofClient t.client = a.ofClient s.client)
    (server : a.ofServer t.server = a.ofServer s.server) (sent : t.sent = s.sent) :
    InStep platform a (.other :: past) t where
  client := by rw [client, sent]; exact inStep.client
  server := by rw [server]; exact inStep.server
  travels := by rw [sent]; exact inStep.travels
  count := by rw [sent]; exact inStep.count

end InStep

/-- The handshake leaves a session with which a stream begins. -/
theorem begins_of_handshake {ref : ConnRef} {request : ClientRequest} {protocol : Protocol}
    {world : ServerWorld} {info : LoginInfo} {caller : Identifier} {client server : Orb}
    (room : 0 < (client.connections ref).login2session.capacity)
    (kept : server.sessionLRUCache.find world.sessionId = some (Session.init world caller)) :
    Agreement.Begins ⟨ref, info.id, caller, world.sessionId, world.secret⟩
      ⟨Handshake.installed platform request ref (Handshake.offered protocol world info) client,
        server, []⟩ where
  client := by
    refine ⟨Handshake.offered protocol world info, ?_, rfl, rfl, rfl⟩
    rw [Agreement.ofClient, Handshake.connections_installed]
    exact (LRUCache.find_insert_self ..).trans (if_pos room)
  server := kept
  unsent := rfl

/-- A credential built over a session of the cache is that of a message. -/
theorem credential_message {world : ClientWorld} {request : ClientRequest} {protocol : Protocol}
    {ref : ConnRef} {bus login key : Identifier} {chain : CallerChain} {session : SecretSession}
    {orb after : Orb} {credential : CredentialData}
    (built : sessionCredential platform world request protocol ref bus login chain key session orb =
      (.ok credential, after)) :
    ∃ signedChain, credential =
      (message platform request.operation protocol bus login session signedChain).credential := by
  obtain ⟨signedChain, -, rfl⟩ := sessionCredential_ok_iff.mp built
  exact ⟨signedChain, rfl⟩

namespace Reference

def secretSession : SecretSession := ⟨5, ascii "s", ascii "S", .replicate 16 4, 0, false⟩

/-- The two sides of the session, before any request. -/
def start : Stream where
  client := Orb.init
    (fun _ =>
      { Connection.init ⟨[2]⟩ true with
        login2session := (LRUCache.ofSize 128).insert (ascii "s") secretSession })
    fun _ => true
  server := (Orb.init (fun _ => .init ⟨[2]⟩ true) fun _ => true).setSessions
    ((LRUCache.ofSize 128).insert 5
      (Session.init ServerInterceptor.Reference.environment (ascii "c")))
  sent := []

/-- The request that is sent. -/
def first : Message :=
  message referencePlatform (ascii "op") .current (ascii "B") (ascii "c") secretSession
    ⟨.replicate 256 0, []⟩

def calling : Stream :=
  { start with
    client := start.client.setLogin2session 0
      ((start.client.connections 0).login2session.assign (ascii "s") { secretSession with ticket := 1 })
    sent := [first] }

/-- The server once the request has been delivered a number of times. -/
def served : ℕ → Orb
  | 0 => start.server
  | again + 1 => (checkSession referencePlatform
      (carrying referencePlatform first.operation first.protocol first.credential) first.protocol
      first.credential (.arrival (served again))).2.orb

end Reference

end SessionStream

end OpenBus
