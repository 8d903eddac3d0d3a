import OpenBus.Soundness.LegacySupport
import OpenBus.Soundness.SessionSecrets
import OpenBus.Soundness.SessionStream

/-! # Who has sent an accepted request

The network is in anyone's hands: requests and resets are made up, copied, held back and sent to
others than they were meant for. What nobody can do is draw the secret of another session, decrypt
it without the key that it has been encrypted for, or hash with it without knowing it. Then whoever
is named in an accepted request has sent one for the same operation, with the same ticket, over a
session that its own key has decrypted, and no request is accepted twice.
-/

namespace OpenBus

open Machine ClientInterceptor ServerInterceptor

namespace CallerAuthentication

open SessionStream (Message message)

/-- A server, and the sessions that each connection has read in the resets it has received. -/
structure Network where
  server : Orb
  sessions : ℕ → List SecretSession

inductive NetworkEvent where
  /-- The server handles a request, whoever has sent it. -/
  | served (handled : Handled) (cleared : Bool)
  | meanwhile (cleared : Bool)
  /-- A connection is answered with a reset, whoever has sent it. -/
  | installed (conn : ℕ) (secret : Secret)
  /-- A connection sends a request over a session. -/
  | sent (conn : ℕ) (secret : Secret) (message : Message)

/-- Whatever a connection forgets, or sends in several threads, its tickets are those of a session
that it has once installed. -/
inductive NetworkStep (platform : Platform) (key : ℕ → PrivateKey) :
    Network → NetworkEvent → Network → Prop
  | served {s : Network} {handled : Handled} {cleared : Bool} {t : Orb}
      (clears : CallbackClears handled.world)
      (step : ServerInterceptor.ServingStep platform s.server (.handled handled cleared) t) :
      NetworkStep platform key s (.served handled cleared) { s with server := t }
  | meanwhile {s : Network} {cleared : Bool} {t : Orb}
      (step : ServerInterceptor.ServingStep platform s.server (.meanwhile cleared) t) :
      NetworkStep platform key s (.meanwhile cleared) { s with server := t }
  | installed {s : Network} {conn : ℕ} {contexts : ServiceContexts} {session : SecretSession}
      (read : resetSession platform (key conn) contexts = .ok session) :
      NetworkStep platform key s (.installed conn session.secret)
        { s with sessions := Function.update s.sessions conn (session :: s.sessions conn) }
  | sent {s : Network} {conn : ℕ} {session : SecretSession} (known : session ∈ s.sessions conn)
      (operation : Identifier) (protocol : Protocol) (bus login : Identifier) (ticket : ULong)
      (chain : SignedData) :
      NetworkStep platform key s
        (.sent conn session.secret
          (message platform operation protocol bus login { session with ticket } chain)) s

def networkMachine (platform : Platform) (key : ℕ → PrivateKey) : Labeled Network NetworkEvent where
  Init s := (ServerInterceptor.servingMachine platform).Init s.server ∧ ∀ conn, s.sessions conn = []
  Step := NetworkStep platform key

/-- What the server does. -/
def servingOf : NetworkEvent → Option ServerInterceptor.ServingEvent
  | .served h cleared => some (.handled h cleared)
  | .meanwhile cleared => some (.meanwhile cleared)
  | _ => none

/-- The test of a credential. -/
def testOf (platform : Platform) : NetworkEvent → Option ServerEvent
  | .served h _ => some (.request h.world h.request h.answer
      (hashedBuffer platform h.world h.request h.before)
      (passedCredential platform h.world h.request h.before))
  | _ => none

/-- The secret of a session that is created, or installed. -/
def secretOf : NetworkEvent → Option Secret
  | .served h _ =>
      if h.answer = .error (.noPermission invalidCredentialCode) then some h.world.secret else none
  | .installed _ secret => some secret
  | _ => none

/-- What is hashed with the secret of a session. -/
def bufferOf (platform : Platform) : NetworkEvent → Option OctetSeq
  | .served h _ => hashedBuffer platform h.world h.request h.before
  | .sent _ secret m =>
      some (hashBuffer platform.endian m.protocol m.operation m.credential.ticket secret)
  | _ => none

/-- The connection has the key to a public key. -/
def Holds (platform : Platform) (key : ℕ → PrivateKey) (conn : ℕ) (publicKey : PublicKey) : Prop :=
  platform.byteSeq2PubKey (platform.pubKey (key conn)) = .ok publicKey

/-- A session has been created, and its secret sent to the holder of a key among the connections. -/
def GrantedTo (platform : Platform) (key : ℕ → PrivateKey) (history : List NetworkEvent)
    (secret : Secret) (publicKey : PublicKey) : Prop :=
  (∃ conn, Holds platform key conn publicKey) ∧ ∃ grant cleared asked caller,
    .served grant cleared ∈ history ∧
    grant.answer = .error (.noPermission invalidCredentialCode) ∧
    Grants platform grant asked caller ∧ caller.pubKey = publicKey ∧ grant.world.secret = secret

/-- Secrets are drawn at random. -/
def Fresh (past : List NetworkEvent) : NetworkEvent → Prop
  | .served h _ => h.answer = .error (.noPermission invalidCredentialCode) →
      h.world.secret ∉ past.filterMap secretOf
  | _ => True

/-- Only the key that a secret has been encrypted for decrypts it. -/
def Confidential (platform : Platform) (key : ℕ → PrivateKey) (past : List NetworkEvent) :
    NetworkEvent → Prop
  | .installed conn secret => ∀ publicKey, GrantedTo platform key past secret publicKey →
      Holds platform key conn publicKey
  | _ => True

/-- A hash with a secret that only a connection knows is copied from a request. -/
def Unforged (platform : Platform) (key : ℕ → PrivateKey) (past : List NetworkEvent) :
    NetworkEvent → Prop
  | .served h _ => ∀ credential secret publicKey,
      getCredential platform h.request (judged h.request) = .ok credential →
      GrantedTo platform key past secret publicKey →
      hash platform (judged h.request) h.request.operation credential.ticket secret =
        credential.hash →
      ∃ conn other m, .sent conn other m ∈ past ∧ m.credential.hash = credential.hash
  | _ => True

/-- What is assumed of encryption, of hashes and of random numbers. -/
def Assumed (platform : Platform) (key : ℕ → PrivateKey) (past : List NetworkEvent)
    (e : NetworkEvent) : Prop :=
  Fresh past e ∧ Confidential platform key past e ∧ Unforged platform key past e

/-- What is known of a network in which no two buffers collide. -/
structure Understood (platform : Platform) (key : ℕ → PrivateKey) (history : List NetworkEvent)
    (s : Network) : Prop where
  serving : Run (ServerInterceptor.servingMachine platform) (history.filterMap servingOf) s.server
  distinct : ((history.filterMap (testOf platform)).filterMap createdSecret).Nodup
  guarded : Guarded platform (history.filterMap (testOf platform)) s.server.sessionLRUCache
  installed : ∀ conn, ∀ session ∈ s.sessions conn, .installed conn session.secret ∈ history
  sent : ∀ conn secret m, .sent conn secret m ∈ history → .installed conn secret ∈ history ∧
    m.credential.hash = hash platform m.protocol m.operation m.credential.ticket secret
  owned : ∀ conn secret, .installed conn secret ∈ history → ∀ publicKey,
    GrantedTo platform key history secret publicKey → Holds platform key conn publicKey
  received : ∀ h cleared, .served h cleared ∈ history →
    receiveRequestServiceContexts platform h.world h.request (.arrival h.before) =
      (h.answer, h.after)

variable {platform : Platform} {key : ℕ → PrivateKey} {past history : List NetworkEvent}
  {s : Network}

theorem mem_hashedOf_iff {buffer : OctetSeq} :
    buffer ∈ (history.filterMap (testOf platform)).filterMap hashedOf ↔
      ∃ h cleared, .served h cleared ∈ history ∧
        hashedBuffer platform h.world h.request h.before = some buffer := by
  simp only [List.filterMap_filterMap, List.mem_filterMap]
  constructor
  · rintro ⟨e, mem, hashed⟩
    cases e with
    | served h cleared => exact ⟨h, cleared, mem, hashed⟩
    | _ => cases hashed
  · rintro ⟨h, cleared, mem, hashed⟩
    exact ⟨_, mem, hashed⟩

theorem mem_secretOf_of_created {secret : Secret}
    (created : secret ∈ (history.filterMap (testOf platform)).filterMap createdSecret) :
    secret ∈ history.filterMap secretOf := by
  rw [List.filterMap_filterMap, List.mem_filterMap] at created
  obtain ⟨e, mem, same⟩ := created
  cases e with
  | served h cleared => exact List.mem_filterMap.mpr ⟨_, mem, same⟩
  | _ => cases same

/-- A session that is granted has been so before, or its secret is new. -/
theorem grantedTo_cons {e : NetworkEvent} (fresh : Fresh past e) {secret : Secret}
    {publicKey : PublicKey} (granted : GrantedTo platform key (e :: past) secret publicKey) :
    GrantedTo platform key past secret publicKey ∨
      (secret ∉ past.filterMap secretOf ∧ ∀ conn other, e ≠ .installed conn other) := by
  obtain ⟨held, grant, cleared, asked, caller, mem, reset, grants, encrypted, rfl⟩ := granted
  rcases List.mem_cons.mp mem with rfl | earlier
  · exact .inr ⟨fresh reset, nofun⟩
  · exact .inl ⟨held, grant, cleared, asked, caller, earlier, reset, grants, encrypted, rfl⟩

/-- Whoever has installed a session of a holder of a key holds the key, also after one more step. -/
theorem Understood.owned_cons (understood : Understood platform key past s) {e : NetworkEvent}
    (assumed : Assumed platform key past e) {conn : ℕ} {secret : Secret}
    (mem : .installed conn secret ∈ e :: past) {publicKey : PublicKey}
    (granted : GrantedTo platform key (e :: past) secret publicKey) :
    Holds platform key conn publicKey := by
  obtain ⟨fresh, confidential, -⟩ := assumed
  rcases List.mem_cons.mp mem with rfl | earlier
  · rcases grantedTo_cons fresh granted with before | ⟨-, other⟩
    · exact confidential publicKey before
    · exact absurd rfl (other conn secret)
  · rcases grantedTo_cons fresh granted with before | ⟨new, -⟩
    · exact understood.owned conn secret earlier publicKey before
    · exact (new (List.mem_filterMap.mpr ⟨_, earlier, rfl⟩)).elim

/-- A request is tested by the sessions as they have been left. -/
theorem Understood.guarded_served (understood : Understood platform key past s)
    (codec : platform.CodecRefuses) {h : Handled} {cleared : Bool} {t : Orb}
    (clears : CallbackClears h.world)
    (step : ServerInterceptor.ServingStep platform s.server (.handled h cleared) t)
    (fresh : Fresh past (.served h cleared))
    (collisionFree : Set.InjOn platform.sha256
      {buffer | buffer ∈ (.served h cleared :: past).filterMap (bufferOf platform)}) :
    (((.served h cleared :: past).filterMap (testOf platform)).filterMap createdSecret).Nodup ∧
      Guarded platform ((.served h cleared :: past).filterMap (testOf platform))
        t.sessionLRUCache := by
  have tested : Set.InjOn platform.sha256 {buffer | buffer ∈
      ((.served h cleared :: past).filterMap (testOf platform)).filterMap hashedOf} := by
    refine collisionFree.mono fun buffer mem => ?_
    obtain ⟨h, cleared, mem, hashed⟩ := mem_hashedOf_iff.mp mem
    exact List.mem_filterMap.mpr ⟨_, mem, hashed⟩
  have distinct : (((.served h cleared :: past).filterMap (testOf platform)).filterMap
      createdSecret).Nodup := by
    refine nodup_filterMap_cons.mpr ⟨fun secret created before => ?_, understood.distinct⟩
    simp only [createdSecret, Option.ite_none_right_eq_some, Option.some.injEq] at created
    obtain ⟨reset, rfl⟩ := created
    exact fresh reset (mem_secretOf_of_created before)
  cases step with
  | handled called received continues =>
    exact ⟨distinct, guarded_request rfl understood.guarded (requestEffect codec clears received)
      continues distinct tested⟩

theorem Understood.sent_cons (understood : Understood platform key past s) {e : NetworkEvent}
    {conn : ℕ} {secret : Secret} {m : Message} (mem : .sent conn secret m ∈ e :: past)
    (now : e = .sent conn secret m → .installed conn secret ∈ past ∧
      m.credential.hash = hash platform m.protocol m.operation m.credential.ticket secret) :
    .installed conn secret ∈ e :: past ∧
      m.credential.hash = hash platform m.protocol m.operation m.credential.ticket secret := by
  apply And.imp_left (List.mem_cons_of_mem e)
  rcases List.mem_cons.mp mem with same | earlier
  · exact now same.symm
  · exact understood.sent conn secret m earlier

theorem Understood.received_cons (understood : Understood platform key past s) {e : NetworkEvent}
    {h : Handled} {cleared : Bool} (mem : .served h cleared ∈ e :: past)
    (other : ∀ h cleared, e ≠ .served h cleared) :
    receiveRequestServiceContexts platform h.world h.request (.arrival h.before) =
      (h.answer, h.after) := by
  rcases List.mem_cons.mp mem with same | earlier
  · exact absurd same.symm (other h cleared)
  · exact understood.received h cleared earlier

theorem understood (codec : platform.CodecRefuses)
    (run : Run (networkMachine platform key) history s)
    (assumed : Always (Assumed platform key) history)
    (collisionFree : Set.InjOn platform.sha256
      {buffer | buffer ∈ history.filterMap (bufferOf platform)}) :
    Understood platform key history s := by
  induction run with
  | @start s init =>
    obtain ⟨serving, none⟩ := init
    have absent (id : ULong) : s.server.sessionLRUCache.find id = Option.none := by
      rw [serving.1, LRUCache.find_ofSize]
    refine ⟨.start serving, List.nodup_nil, ⟨?_, ?_, by simp, List.nodup_nil⟩, ?_, by simp, by simp,
      by simp⟩
    · simp [absent]
    · simp [absent]
    · simp [none]
  | @step past s t e run step ih =>
    obtain ⟨now, before⟩ := assumed
    have understood := ih before (collisionFree.mono fun buffer mem =>
      mem_filterMap_cons.mpr (.inr mem))
    have owned (conn : ℕ) (secret : Secret) (mem : .installed conn secret ∈ e :: past)
        (publicKey : PublicKey) (granted : GrantedTo platform key (e :: past) secret publicKey) :
        Holds platform key conn publicKey := understood.owned_cons now mem granted
    have kept (conn : ℕ) (session : SecretSession) (mem : session ∈ s.sessions conn) :
        .installed conn session.secret ∈ e :: past :=
      .tail _ (understood.installed conn session mem)
    cases step with
    | @served handled cleared t clears step =>
      obtain ⟨distinct, guarded⟩ :=
        understood.guarded_served codec clears step now.1 collisionFree
      refine ⟨understood.serving.step step, distinct, guarded, kept,
        fun _ _ _ mem => understood.sent_cons mem (by simp), owned, fun h cleared mem => ?_⟩
      rcases List.mem_cons.mp mem with same | earlier
      · cases same
        cases step with
        | handled called received continues => exact received
      · exact understood.received h cleared earlier
    | @meanwhile cleared t step =>
      have guarded : Guarded platform (past.filterMap (testOf platform)) t.sessionLRUCache := by
        cases step with
        | meanwhile passed =>
          exact understood.guarded.of_subset fun id session found => (passed.find found).2
      exact ⟨understood.serving.step step, understood.distinct, guarded, kept,
        fun _ _ _ mem => understood.sent_cons mem (by simp), owned,
        fun _ _ mem => understood.received_cons mem (by simp)⟩
    | @installed conn contexts session read =>
      refine ⟨understood.serving, understood.distinct, understood.guarded,
        fun other session' mem => ?_, fun _ _ _ mem => understood.sent_cons mem (by simp), owned,
        fun _ _ mem => understood.received_cons mem (by simp)⟩
      dsimp only at mem
      by_cases same : other = conn
      · subst same
        rw [Function.update_self] at mem
        rcases List.mem_cons.mp mem with rfl | earlier
        · exact .head _
        · exact kept other session' earlier
      · rw [Function.update_of_ne same] at mem
        exact kept other session' mem
    | @sent conn session known operation protocol bus login ticket chain =>
      refine ⟨understood.serving, understood.distinct, understood.guarded, kept,
        fun _ _ _ mem => ?_, owned, fun _ _ mem => understood.received_cons mem (by simp)⟩
      refine understood.sent_cons mem fun same => ?_
      injection same with conn secret m
      subst conn secret m
      exact ⟨understood.installed _ session known, rfl⟩

/-- A request that is accepted has passed the test of its session. -/
theorem passed_of_accepts {world : ServerWorld} {request : ServerRequest}
    {credential : CredentialData} {orb : Orb} {d : Dispatch} {ref : ConnRef} {caller : Login}
    {after : LoginCache}
    (present : getCredential platform request (judged request) = .ok credential)
    (accepts : Accepts platform world request (judged request) credential (.arrival orb) d ref
      caller after) : passedCredential platform world request orb = some credential := by
  have authentic : authenticate platform world request (judged request) credential (.arrival orb) =
      (.ok (ref, caller, true), _) :=
    authenticate_ok_iff.mpr ⟨d, after, accepts.1, iff_of_true rfl accepts.2.1, rfl⟩
  simp only [passedCredential, present, authentic]

theorem served_of_lastGrant {id : ULong} {grant : Handled}
    (last : lastGrant id (history.filterMap servingOf) = some grant) :
    ∃ cleared, .served grant cleared ∈ history := by
  obtain ⟨mem, -, -⟩ := of_lastGrant last
  rw [List.filterMap_filterMap, List.mem_filterMap] at mem
  obtain ⟨e, mem, same⟩ := mem
  cases e with
  | served h cleared =>
    obtain rfl : h = grant := Option.some.inj same
    exact ⟨cleared, mem⟩
  | _ => cases same

/-- The request of an accepted credential is one that a holder of the key has sent. -/
theorem Understood.sent_of_hash (understood : Understood platform key past s)
    (e : NetworkEvent) (collisionFree : Set.InjOn platform.sha256
      {buffer | buffer ∈ (e :: past).filterMap (bufferOf platform)})
    {protocol : Protocol} {operation : Identifier} {ticket : ULong} {secret : Secret}
    (hashed : bufferOf platform e =
      some (hashBuffer platform.endian protocol operation ticket secret))
    {publicKey : PublicKey} (granted : GrantedTo platform key past secret publicKey)
    {conn : ℕ} {other : Secret} {m : Message} (mem : .sent conn other m ∈ past)
    (copied : m.credential.hash = hash platform protocol operation ticket secret) :
    Holds platform key conn publicKey ∧ .sent conn secret m ∈ past ∧ m.operation = operation ∧
      m.protocol = protocol ∧ m.credential.ticket = ticket := by
  obtain ⟨installed, made⟩ := understood.sent conn other m mem
  have same := collisionFree (mem_filterMap_cons.mpr (.inr (List.mem_filterMap.mpr ⟨_, mem, rfl⟩)))
    (mem_filterMap_cons.mpr (.inl hashed)) (made.symm.trans copied)
  obtain ⟨rfl, rfl, rfl, rfl⟩ := hashBuffer_injective same
  exact ⟨understood.owned conn _ installed publicKey granted, mem, rfl, rfl, rfl⟩

/-- A ticket that is free in its session has not been accepted with the same hash. -/
theorem Understood.hash_ne (understood : Understood platform key past s)
    (codec : platform.CodecRefuses) (e : NetworkEvent) (collisionFree : Set.InjOn platform.sha256
      {buffer | buffer ∈ (e :: past).filterMap (bufferOf platform)})
    {protocol : Protocol} {operation : Identifier} {ticket : ULong} {id : ULong} {held : Session}
    (hashed : bufferOf platform e =
      some (hashBuffer platform.endian protocol operation ticket held.secret))
    (found : s.server.sessionLRUCache.find id = some held)
    (free : ¬ held.tickets.Taken ticket.toNat) {h : Handled} {cleared : Bool}
    (mem : .served h cleared ∈ past) (accepted : h.answer = .ok ())
    {credential : CredentialData}
    (carried : getCredential platform h.request (judged h.request) = .ok credential) :
    credential.hash ≠ hash platform protocol operation ticket held.secret := by
  intro same
  have received := understood.received h cleared mem
  rw [accepted] at received
  obtain ⟨other, ref, caller, after, present, accepts⟩ := accepts_of_received codec received
  obtain rfl : other = credential := Except.ok.inj (present.symm.trans carried)
  have passed := passed_of_accepts present accepts
  have pass : (other.session, other.ticket, other.hash, h.request.operation) ∈
      (past.filterMap (testOf platform)).filterMap passOf := by
    rw [List.filterMap_filterMap, List.mem_filterMap]
    refine ⟨_, mem, ?_⟩
    simp only [testOf, Option.bind_some, passOf, passed, Option.map_some]
  obtain ⟨version, secret, tested, agrees, -, takes⟩ := understood.guarded.taken _ pass
  obtain ⟨h', cleared', mem', tested⟩ := mem_hashedOf_iff.mp tested
  have equal := collisionFree
    (mem_filterMap_cons.mpr (.inr (List.mem_filterMap.mpr ⟨_, mem', tested⟩)))
    (mem_filterMap_cons.mpr (.inl hashed)) (agrees.trans same)
  obtain ⟨-, -, tickets, secrets⟩ := hashBuffer_injective equal
  exact free (tickets ▸ takes id held found secrets.symm)

/-- Whoever an accepted request names, if the registry has told the server the key of a connection
for it, a connection with this key has sent a request for the operation, with the ticket of the
credential, over the session. And no request is accepted with the hash of an earlier one. -/
theorem accepted_sent (codec : platform.CodecRefuses)
    (run : Run (networkMachine platform key) history s)
    (assumed : Always (Assumed platform key) history)
    (collisionFree : Set.InjOn platform.sha256
      {buffer | buffer ∈ history.filterMap (bufferOf platform)})
    {h : Handled} {cleared : Bool} (suffix : .served h cleared :: past <:+ history)
    (accepted : h.answer = .ok ()) :
    ∃ credential grant asked caller,
      getCredential platform h.request (judged h.request) = .ok credential ∧
      lastGrant credential.session (past.filterMap servingOf) = some grant ∧
      Grants platform grant asked caller ∧ caller.loginInfo.id = credential.login ∧
      Registered platform (past.filterMap servingOf) asked caller ∧
      ((∃ conn, Holds platform key conn caller.pubKey) → ∃ conn m,
        Holds platform key conn caller.pubKey ∧ .sent conn grant.world.secret m ∈ past ∧
        m.operation = h.request.operation ∧ m.protocol = judged h.request ∧
        m.credential.ticket = credential.ticket) ∧
      ∀ earlier cleared' other, .served earlier cleared' ∈ past → earlier.answer = .ok () →
        getCredential platform earlier.request (judged earlier.request) = .ok other →
        other.hash ≠ credential.hash := by
  obtain ⟨t, reached⟩ := run.of_suffix suffix
  obtain ⟨⟨-, -, unforged⟩, before⟩ := assumed.of_suffix suffix
  have distinctBuffers := collisionFree.mono fun buffer mem =>
    (suffix.sublist.filterMap (bufferOf platform)).subset mem
  cases reached with
  | @step _ s _ _ run step =>
    have understood := understood codec run before (distinctBuffers.mono fun buffer mem =>
      mem_filterMap_cons.mpr (.inr mem))
    cases step with
    | served clears step =>
      cases step with
      | @handled world request _ answer after called received continues =>
        obtain rfl := accepted
        obtain ⟨credential, ref, caller', cache, present, -, session, -⟩ :=
          accepts_of_received codec received
        obtain ⟨held, found, remote, hashed, check⟩ := session
        have tested : hashedBuffer platform world request s.server = some (hashBuffer
            platform.endian (judged request) request.operation credential.ticket held.secret) := by
          simp only [hashedBuffer, present, found, Option.map_some]
        have free : ¬ held.tickets.Taken credential.ticket.toNat := by
          rw [← toNat_setWidth_ticket]
          exact (TicketsHistory.free_then_taken (ticket_room _) check).1
        rw [sessions_calledState world present] at found
        obtain ⟨-, found⟩ := called.find found
        obtain ⟨grant, asked, caller, last, grants, registered, secret, login⟩ :=
          (known codec understood.serving).sessions _ held found
        refine ⟨credential, grant, asked, caller, present, last, grants, login.symm.trans remote,
          registered, fun honest => ?_, fun earlier cleared' other mem ok carried => ?_⟩
        · obtain ⟨cleared', mem⟩ := served_of_lastGrant last
          have granted : GrantedTo platform key past held.secret caller.pubKey :=
            ⟨honest, grant, cleared', asked, caller, mem, (of_lastGrant last).2.1, grants, rfl,
              secret.symm⟩
          obtain ⟨conn, other, m, mem, copied⟩ :=
            unforged credential held.secret caller.pubKey present granted hashed
          rw [← secret]
          exact ⟨conn, m, understood.sent_of_hash _ distinctBuffers tested granted mem
            (copied.trans hashed.symm)⟩
        · rw [← hashed]
          exact understood.hash_ne codec _ distinctBuffers tested found free mem ok carried

/-- A connection sends the credential that it builds over a session which it has installed. -/
theorem sent_of_sessionCredential {world : ClientWorld} {request : ClientRequest}
    {protocol : Protocol} {ref : ConnRef} {bus login name : Identifier} {chain : CallerChain}
    {session : SecretSession} {orb after : Orb} {credential : CredentialData} {conn : ℕ}
    (known : session ∈ s.sessions conn)
    (built : sessionCredential platform world request protocol ref bus login chain name session
      orb = (.ok credential, after)) :
    ∃ m, m.operation = request.operation ∧ m.protocol = protocol ∧ m.credential = credential ∧
      NetworkStep platform key s (.sent conn session.secret m) s := by
  obtain ⟨signedChain, same⟩ := SessionStream.credential_message built
  exact ⟨_, rfl, rfl, same.symm, .sent known request.operation protocol bus login session.ticket
    signedChain⟩

/-- A session that the interceptor caches is one that the connection installs. -/
theorem installed_of_installSession {request : ClientRequest} {ref : ConnRef}
    {contexts : ServiceContexts} {orb : Orb} {conn : ℕ}
    (same : (orb.connections ref).key = key conn) {remoteId : Identifier} {session : SecretSession}
    (found : ((installSession platform request ref contexts orb).2.connections
      ref).login2session.find remoteId = some session) :
    (orb.connections ref).login2session.find remoteId = some session ∨
      NetworkStep platform key s (.installed conn session.secret)
        { s with sessions := Function.update s.sessions conn (session :: s.sessions conn) } := by
  rw [LegacySupport.connections_installSession, same] at found
  cases read : resetSession platform (key conn) contexts with
  | error e =>
    rw [read] at found
    exact .inl found
  | ok offered =>
    rw [read] at found
    rcases LRUCache.find_insert_cases found with ⟨-, rfl⟩ | ⟨-, kept⟩
    · exact .inr (.installed read)
    · exact .inl kept

namespace Reference

open ServerInterceptor.Reference

/-- The key of the login `c`, which is that of every connection. -/
def callerKey (_ : ℕ) : PrivateKey := ⟨[3]⟩

/-- The session which the connection reads in the first answer. -/
def session : SecretSession := ⟨5, ascii "s", ascii "S", environment.secret, 0, false⟩

def request : Message :=
  message referencePlatform (ascii "op") .current (ascii "B") (ascii "c") session
    (chainTo (ascii "S"))

/-- The network once the first request has been answered. -/
def asked : Network := ⟨served, fun _ => []⟩

/-- The network once the connection has installed the session. -/
def introduced : Network :=
  { asked with sessions := Function.update asked.sessions 0 (session :: asked.sessions 0) }

/-- What comes before the request is accepted. -/
def handshake : List NetworkEvent :=
  [.sent 0 environment.secret request, .installed 0 environment.secret, .served greeted false]

theorem callbackClears {h : Handled} (same : h.world = environment) : CallbackClears h.world := by
  intro callback registered
  rw [same] at registered
  cases registered

theorem run_handshake : Run (networkMachine referencePlatform callerKey) handshake introduced := by
  have start : Run (networkMachine referencePlatform callerKey) [] ⟨orb, fun _ => []⟩ :=
    .start ⟨⟨rfl, fun ref cache cached => (Option.some.inj cached).symm⟩, fun _ => rfl⟩
  have reset : Run (networkMachine referencePlatform callerKey) [.served greeted false] asked :=
    start.step (.served (callbackClears rfl)
      (step_handled environment firstCredential orb rfl (by decide +kernel)))
  have read : resetSession referencePlatform (callerKey 0) greeted.after.replyContexts =
      .ok session := by decide +kernel
  have installed : NetworkStep referencePlatform callerKey asked (.installed 0 session.secret)
      introduced := .installed read
  have known : session ∈ introduced.sessions 0 := by
    simp only [introduced, Function.update_self]
    exact List.mem_cons_self
  have sent : NetworkStep referencePlatform callerKey introduced (.sent 0 session.secret request)
      introduced :=
    .sent known (ascii "op") .current (ascii "B") (ascii "c") 0 (chainTo (ascii "S"))
  exact (reset.step installed).step sent

theorem run_served : ∃ s, Run (networkMachine referencePlatform callerKey)
    (.served called false :: handshake) s := by
  have step : ServerInterceptor.ServingStep referencePlatform introduced.server
      (.handled called false) (dispatched (ascii "S")).orb := by
    simp only [introduced, asked, dispatched]
    exact step_handled environment (credential (ascii "S")) served rfl (by decide +kernel)
  exact ⟨_, run_handshake.step (.served (callbackClears rfl) step)⟩

theorem bufferOf_handled (world : ServerWorld) (credential : CredentialData) (orb : Orb) :
    bufferOf referencePlatform (.served (handledRequest world credential orb) false) =
      hashedOf (event world credential orb) := by
  simp only [bufferOf, handledRequest, hashedOf, event]

theorem hashed_handshake :
    (.served called false :: handshake).filterMap (bufferOf referencePlatform) =
      List.replicate 2 (hashBuffer .little .current (ascii "op") 1 environment.secret) := by
  have passed : bufferOf referencePlatform (.served called false) =
      some (hashBuffer .little .current (ascii "op") 1 environment.secret) := by
    rw [called, bufferOf_handled, hashedOf_event]
    decide +kernel
  have none : bufferOf referencePlatform (.served greeted false) = none := by
    rw [greeted, bufferOf_handled, hashedOf_event]
    decide +kernel
  simp only [handshake, List.filterMap_cons, passed, none]
  rfl

theorem assumed_handshake :
    Always (Assumed referencePlatform callerKey) (.served called false :: handshake) := by
  have answered : called.answer = .ok () := by decide +kernel
  have asked : Assumed referencePlatform callerKey [] (.served greeted false) :=
    ⟨fun _ => List.not_mem_nil, trivial, fun _ _ _ _ ⟨_, _, _, _, _, mem, _⟩ => nomatch mem⟩
  refine ⟨⟨fun reset => ?_, trivial, fun other secret publicKey present _ _ => ?_⟩,
    ⟨trivial, trivial, trivial⟩, ⟨trivial, fun _ ⟨⟨_, held⟩, _⟩ => held, trivial⟩, asked, trivial⟩
  · rw [answered] at reset
    cases reset
  · obtain rfl : credential (ascii "S") = other :=
      Except.ok.inj ((getCredential_carrying ReferencePlatform.codecInverts _ _ _).symm.trans
        present)
    exact ⟨0, environment.secret, request, .head _, rfl⟩

theorem collisionFree_handshake : Set.InjOn referencePlatform.sha256
    {buffer | buffer ∈ (.served called false :: handshake).filterMap
      (bufferOf referencePlatform)} := by
  rw [hashed_handshake]
  intro a first b second _
  exact (List.eq_of_mem_replicate first).trans (List.eq_of_mem_replicate second).symm

end Reference

open Reference ServerInterceptor.Reference in
/-- The call over the session: a connection with the key of the login `c` has sent it. -/
theorem accepted_sent_called :
    ∃ credential grant asked caller,
      getCredential referencePlatform called.request (judged called.request) = .ok credential ∧
      lastGrant credential.session (handshake.filterMap servingOf) = some grant ∧
      Grants referencePlatform grant asked caller ∧ caller.loginInfo.id = credential.login ∧
      Registered referencePlatform (handshake.filterMap servingOf) asked caller ∧
      ((∃ conn, Holds referencePlatform callerKey conn caller.pubKey) → ∃ conn m,
        Holds referencePlatform callerKey conn caller.pubKey ∧
        .sent conn grant.world.secret m ∈ handshake ∧ m.operation = called.request.operation ∧
        m.protocol = judged called.request ∧ m.credential.ticket = credential.ticket) ∧
      ∀ earlier cleared' other, .served earlier cleared' ∈ handshake → earlier.answer = .ok () →
        getCredential referencePlatform earlier.request (judged earlier.request) = .ok other →
        other.hash ≠ credential.hash :=
  run_served.elim fun _ run => accepted_sent ReferencePlatform.codecRefuses run assumed_handshake
    collisionFree_handshake (List.suffix_refl _) (by decide +kernel)

end CallerAuthentication

end OpenBus
