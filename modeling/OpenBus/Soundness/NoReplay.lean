import OpenBus.Machine.Run
import OpenBus.Soundness.ServerVerdict
import Mathlib.Data.Set.Function

/-! # No credential passes twice

The machine of the server processes requests one at a time, in any order and with any contents,
between other operations which clear the cache of sessions or leave it alone. Its labels record
which credentials pass the test of their session, and which buffers are hashed for it. The
invariant connects the two: a ticket that has passed under a secret is taken in every session
which holds this secret, and no secret is held twice.
-/

namespace OpenBus

open Machine

namespace ServerInterceptor

/-- A request or another operation of the process. -/
inductive ServerEvent where
  | request (world : ServerWorld) (request : ServerRequest) (answer : Except Exception Unit)
      (hashed : Option OctetSeq) (passed : Option CredentialData)
  | clearCaches
  | other

/-- The operations of the context which a callback has at its disposal touch the sessions only
by clearing them. -/
def CallbackClears (world : ServerWorld) : Prop :=
  ∀ callback, world.onCallDispatch = some callback → ∀ busid login operation orb,
    (callback busid login operation orb).2.sessionLRUCache = orb.sessionLRUCache ∨
    (callback busid login operation orb).2.sessionLRUCache = orb.sessionLRUCache.clear

/-- The buffer hashed to test a credential, if its session is cached. -/
def hashedBuffer (platform : Platform) (world : ServerWorld) (request : ServerRequest) (orb : Orb) :
    Option OctetSeq :=
  match getCredential platform request (judged request) with
  | .error _ => none
  | .ok credential =>
      ((callbackState world request credential (.arrival orb)).sessions.find
        credential.session).map fun session =>
          hashBuffer platform.endian (judged request) request.operation credential.ticket
            session.secret

/-- The credential of the request, if it passes the test of its session. -/
def passedCredential (platform : Platform) (world : ServerWorld) (request : ServerRequest)
    (orb : Orb) : Option CredentialData :=
  match getCredential platform request (judged request) with
  | .error _ => none
  | .ok credential =>
      match authenticate platform world request (judged request) credential (.arrival orb) with
      | (.ok (_, _, true), _) => some credential
      | _ => none

/-- One step of the process; a fault ends it. -/
inductive ServerStep (platform : Platform) : Orb → ServerEvent → Orb → Prop
  | request {orb : Orb} {world : ServerWorld} {request : ServerRequest}
      {answer : Except Exception Unit} {t : Dispatch} (clears : CallbackClears world)
      (received : receiveRequestServiceContexts platform world request (.arrival orb) = (answer, t))
      (continues : answer ≠ .error .fault) :
      ServerStep platform orb (.request world request answer
        (hashedBuffer platform world request orb) (passedCredential platform world request orb)) t.orb
  | clearCaches {orb : Orb} : ServerStep platform orb .clearCaches orb.clearCaches
  | other {orb t : Orb} (same : t.sessionLRUCache = orb.sessionLRUCache) :
      ServerStep platform orb .other t

/-- The server process, from the construction of its interceptor on. -/
def serverMachine (platform : Platform) : Labeled Orb ServerEvent where
  Init orb := orb.sessionLRUCache = .ofSize 128
  Step := ServerStep platform

/-- The secret of the session which a request has created. -/
def createdSecret : ServerEvent → Option Secret
  | .request world _ answer _ _ =>
      if answer = .error (.noPermission invalidCredentialCode) then some world.secret else none
  | _ => none

def hashedOf : ServerEvent → Option OctetSeq
  | .request _ _ _ hashed _ => hashed
  | _ => none

/-- Session, ticket, hash and operation of a credential that has passed. -/
def passOf : ServerEvent → Option (ULong × ULong × HashValue × Identifier)
  | .request _ request _ _ passed =>
      passed.map fun credential =>
        (credential.session, credential.ticket, credential.hash, request.operation)
  | _ => none

/-- What is known after a run whose sessions have different secrets. -/
structure Guarded (platform : Platform) (history : List ServerEvent)
    (sessions : LRUCache ULong Session) : Prop where
  created : ∀ id session, sessions.find id = some session →
    session.secret ∈ history.filterMap createdSecret
  unique : ∀ id id' session session', sessions.find id = some session →
    sessions.find id' = some session' → session.secret = session'.secret → id = id'
  taken : ∀ pass ∈ history.filterMap passOf, ∃ protocol secret,
    hashBuffer platform.endian protocol pass.2.2.2 pass.2.1 secret ∈ history.filterMap hashedOf ∧
    platform.sha256 (hashBuffer platform.endian protocol pass.2.2.2 pass.2.1 secret) = pass.2.2.1 ∧
    secret ∈ history.filterMap createdSecret ∧
    ∀ id session, sessions.find id = some session → session.secret = secret →
      session.tickets.Taken pass.2.1.toNat
  once : (history.filterMap passOf).Nodup

variable {platform : Platform}

/-- Forgetting sessions keeps all that is known. -/
theorem Guarded.of_subset {history : List ServerEvent} {sessions fewer : LRUCache ULong Session}
    (guarded : Guarded platform history sessions)
    (subset : ∀ id session, fewer.find id = some session → sessions.find id = some session) :
    Guarded platform history fewer where
  created id session found := guarded.created id session (subset _ _ found)
  unique id id' session session' found found' :=
    guarded.unique id id' session session' (subset _ _ found) (subset _ _ found')
  taken pass mem := by
    obtain ⟨protocol, secret, hashed, agrees, known, takes⟩ := guarded.taken pass mem
    exact ⟨protocol, secret, hashed, agrees, known,
      fun id session found => takes id session (subset _ _ found)⟩
  once := guarded.once

theorem toNat_setWidth_ticket (ticket : ULong) : (ticket.setWidth 64).toNat = ticket.toNat := by
  have := ticket.isLt
  rw [BitVec.toNat_setWidth, Nat.mod_eq_of_lt (by omega)]

/-- A ticket of 32 bits never comes near the end of the window's arithmetic. -/
theorem ticket_room (ticket : ULong) : (ticket.setWidth 64).toNat + 64 + 1 < 2 ^ 64 := by
  have := ticket.isLt
  rw [toNat_setWidth_ticket]
  omega

variable {world : ServerWorld} {request : ServerRequest}

/-- Where a session comes from that is cached after the test of a credential. -/
theorem find_sessionsAfterCheck {protocol : Protocol} {credential : CredentialData}
    {sessions : LRUCache ULong Session} {id : ULong} {session : Session}
    (found : (sessionsAfterCheck platform request protocol credential sessions).find id =
      some session) :
    ∃ held, sessions.find id = some held ∧ session.secret = held.secret ∧
      (∀ t, held.tickets.Taken t → session.tickets.Taken t) ∧
      (SessionAccepts platform request protocol credential sessions → id = credential.session →
        session.tickets.Taken credential.ticket.toNat) := by
  have unchanged (present : sessions.find id = some session)
      (rejected : id = credential.session →
        ¬ SessionAccepts platform request protocol credential sessions) :
      ∃ held, sessions.find id = some held ∧ session.secret = held.secret ∧
        (∀ t, held.tickets.Taken t → session.tickets.Taken t) ∧
        (SessionAccepts platform request protocol credential sessions → id = credential.session →
          session.tickets.Taken credential.ticket.toNat) :=
    ⟨session, present, rfl, fun _ taken => taken,
      fun accepts same => absurd accepts (rejected same)⟩
  unfold sessionsAfterCheck at found
  cases named : sessions.find credential.session with
  | none =>
    rw [named] at found
    refine unchanged ((LRUCache.find_fetch ..).symm.trans found) fun _ accepts => ?_
    obtain ⟨_, present, -⟩ := accepts
    rw [named] at present
    cases present
  | some held =>
    simp only [named] at found
    split at found
    · rw [LRUCache.find_assign] at found
      split at found
      · next same =>
        subst same
        rw [LRUCache.find_fetch, named] at found
        cases found
        refine ⟨held, named, rfl, fun t taken => taken.ticketsCheck _ (ticket_room _), ?_⟩
        rintro ⟨accepted, present, -, -, check⟩ -
        obtain rfl : held = accepted := Option.some.inj (named.symm.trans present)
        have taken := (TicketsHistory.free_then_taken (ticket_room credential.ticket) check).2
        rwa [toNat_setWidth_ticket] at taken
      · next other =>
        exact unchanged ((LRUCache.find_fetch ..).symm.trans found) fun same _ => other same
    · next misfit =>
      refine unchanged ((LRUCache.find_fetch ..).symm.trans found) fun _ accepts => ?_
      obtain ⟨accepted, present, login, hashes, -⟩ := accepts
      obtain rfl : held = accepted := Option.some.inj (named.symm.trans present)
      exact misfit ⟨hashes, login⟩

variable (world request) in
theorem orb_callDispatch (busid login : Identifier) (s : Dispatch) :
    (callDispatch world request busid login s).2.orb = s.orb ∨
    ∃ callback, world.onCallDispatch = some callback ∧
      (callDispatch world request busid login s).2.orb =
        (callback busid login request.operation s.orb).2 := by
  unfold callDispatch
  cases world.onCallDispatch with
  | none => exact .inl rfl
  | some callback =>
    refine .inr ⟨callback, rfl, ?_⟩
    simp only [Action.tryCatch_apply, Dispatch.onOrb, Action.zoom]
    rcases callback busid login request.operation s.orb with ⟨e | chosen, after⟩
    · dsimp only
      split <;> rfl
    · rfl

/-- Whatever the callback does, it leaves only sessions that were cached before. -/
theorem find_callbackState (clears : CallbackClears world) {credential : CredentialData}
    {orb : Orb} {id : ULong} {session : Session}
    (found : (callbackState world request credential (.arrival orb)).sessions.find id =
      some session) : orb.sessionLRUCache.find id = some session := by
  unfold callbackState Dispatch.sessions at found
  rcases orb_callDispatch world request credential.bus credential.login (.arrival orb) with
    same | ⟨callback, registered, called⟩
  · rwa [same] at found
  · rw [called] at found
    rcases clears callback registered credential.bus credential.login request.operation orb with
      same | cleared
    · rwa [← same]
    · change (callback credential.bus credential.login request.operation
        orb).2.sessionLRUCache.find id = some session at found
      rw [cleared, LRUCache.find_clear] at found
      cases found

/-- What one request does to the sessions, in terms of the labels of its step. -/
structure RequestEffect (platform : Platform) (world : ServerWorld) (request : ServerRequest)
    (orb : Orb) (answer : Except Exception Unit) (sessions : LRUCache ULong Session) : Prop where
  /-- A session cached afterwards goes on from one cached before, or has been created. -/
  lineage : ∀ id session, sessions.find id = some session →
    (∃ held, orb.sessionLRUCache.find id = some held ∧ session.secret = held.secret ∧
      (∀ t, held.tickets.Taken t → session.tickets.Taken t) ∧
      ∀ credential, passedCredential platform world request orb = some credential →
        id = credential.session → session.tickets.Taken credential.ticket.toNat) ∨
    ((∃ e, answer = .error e ∧ IsReset e) ∧ id = world.sessionId ∧ session.secret = world.secret)
  /-- A credential that passes has the hash of the secret held, and a ticket not taken. -/
  passes : ∀ credential, passedCredential platform world request orb = some credential →
    ∃ held, orb.sessionLRUCache.find credential.session = some held ∧
      hashedBuffer platform world request orb = some (hashBuffer platform.endian (judged request)
        request.operation credential.ticket held.secret) ∧
      hash platform (judged request) request.operation credential.ticket held.secret =
        credential.hash ∧
      ¬ held.tickets.Taken credential.ticket.toNat

theorem requestEffect (codec : platform.CodecRefuses) (clears : CallbackClears world) {orb : Orb}
    {answer : Except Exception Unit} {t : Dispatch}
    (received : receiveRequestServiceContexts platform world request (.arrival orb) = (answer, t)) :
    RequestEffect platform world request orb answer t.sessions := by
  obtain ⟨refused, present, rfl, rfl⟩ | ⟨credential, present, handled⟩ :=
    received_cases codec received
  · have silent : passedCredential platform world request orb = none := by
      simp only [passedCredential, present]
    refine ⟨fun id session found => .inl ⟨session, found, rfl, fun _ taken => taken, ?_⟩, ?_⟩ <;>
      · intro credential passed
        rw [silent] at passed
        cases passed
  rcases handleCredential_sessions platform world request (judged request) credential
    (.arrival orb) with ⟨e, t', failed, raised, same⟩ |
      ⟨ref, caller, valid, u, r, t', authentic, ended, tested, verdict, effect⟩
  · have silent : passedCredential platform world request orb = none := by
      simp only [passedCredential, present, failed]
    obtain ⟨rfl, rfl⟩ := Prod.mk.inj (raised.symm.trans handled)
    refine ⟨fun id session found => .inl ⟨session, find_callbackState clears (same ▸ found), rfl,
      fun _ taken => taken, ?_⟩, ?_⟩ <;>
      · intro credential passed
        rw [silent] at passed
        cases passed
  · obtain ⟨rfl, rfl⟩ := Prod.mk.inj (ended.symm.trans handled)
    have only (other : CredentialData)
        (passed : passedCredential platform world request orb = some other) :
        other = credential ∧ SessionAccepts platform request (judged request) credential
          (callbackState world request credential (.arrival orb)).sessions := by
      simp only [passedCredential, present, authentic] at passed
      cases valid with
      | false => cases passed
      | true => exact ⟨(Option.some.inj passed).symm, verdict.mp rfl⟩
    have continued (id : ULong) (session : Session) (found : u.sessions.find id = some session) :
        ∃ held, orb.sessionLRUCache.find id = some held ∧ session.secret = held.secret ∧
          (∀ t, held.tickets.Taken t → session.tickets.Taken t) ∧
          ∀ credential, passedCredential platform world request orb = some credential →
            id = credential.session → session.tickets.Taken credential.ticket.toNat := by
      rw [tested] at found
      obtain ⟨held, present, secret, keeps, takes⟩ := find_sessionsAfterCheck found
      refine ⟨held, find_callbackState clears present, secret, keeps, ?_⟩
      intro other passed same
      obtain ⟨rfl, accepts⟩ := only other passed
      exact takes accepts same
    constructor
    · intro id session found
      rcases effect with same | ⟨e, failed, reset, inserted⟩
      · exact .inl (continued id session (same ▸ found))
      · rw [inserted] at found
        rcases LRUCache.find_insert_cases found with ⟨named, created⟩ | ⟨-, found⟩
        · exact .inr ⟨⟨e, failed, reset⟩, named, by rw [created]; rfl⟩
        · exact .inl (continued id session found)
    · intro other passed
      obtain ⟨rfl, held, found, -, hashes, check⟩ := only other passed
      refine ⟨held, find_callbackState clears found, ?_, hashes, ?_⟩
      · simp only [hashedBuffer, present, found, Option.map_some]
      · rw [← toNat_setWidth_ticket]
        exact (TicketsHistory.free_then_taken (ticket_room _) check).1

theorem mem_filterMap_cons {α β : Type} {f : α → Option β} {e : α} {past : List α} {b : β} :
    b ∈ (e :: past).filterMap f ↔ f e = some b ∨ b ∈ past.filterMap f := by
  rw [List.filterMap_cons]
  cases f e <;> simp [eq_comm]

theorem nodup_filterMap_cons {α β : Type} {f : α → Option β} {e : α} {past : List α} :
    ((e :: past).filterMap f).Nodup ↔
      (∀ b, f e = some b → b ∉ past.filterMap f) ∧ (past.filterMap f).Nodup := by
  rw [List.filterMap_cons]
  cases f e <;> simp

/-- One request keeps the guard, if it does not draw the secret of an earlier session and no two
buffers hashed so far collide. -/
theorem guarded_request {history : List ServerEvent} {orb : Orb} {e : ServerEvent}
    {answer : Except Exception Unit} {sessions : LRUCache ULong Session}
    (event : e = .request world request answer (hashedBuffer platform world request orb)
      (passedCredential platform world request orb))
    (guarded : Guarded platform history orb.sessionLRUCache)
    (effect : RequestEffect platform world request orb answer sessions)
    (continues : answer ≠ .error .fault)
    (distinct : ((e :: history).filterMap createdSecret).Nodup)
    (collisionFree : Set.InjOn platform.sha256
      {buffer | buffer ∈ (e :: history).filterMap hashedOf}) :
    Guarded platform (e :: history) sessions := by
  -- A session created by this request holds a secret that no earlier session has held.
  have fresh (reset : ∃ e, answer = .error e ∧ IsReset e) :
      createdSecret e = some world.secret ∧ world.secret ∉ history.filterMap createdSecret := by
    have created : createdSecret e = some world.secret := by
      obtain ⟨raised, rfl, rfl | rfl⟩ := reset
      · subst event
        simp only [createdSecret, if_true]
      · exact absurd rfl continues
    exact ⟨created, (nodup_filterMap_cons.mp distinct).1 _ created⟩
  -- Sessions go on under secrets of the past, so they differ from a session just created.
  have past {id : ULong} {held : Session} (found : orb.sessionLRUCache.find id = some held)
      (reset : ∃ e, answer = .error e ∧ IsReset e) : held.secret ≠ world.secret :=
    fun same => (fresh reset).2 (same ▸ guarded.created id held found)
  have passing {pass : ULong × ULong × HashValue × Identifier} (now : passOf e = some pass) :
      ∃ credential, passedCredential platform world request orb = some credential ∧
        (credential.session, credential.ticket, credential.hash, request.operation) = pass := by
    subst event
    exact Option.map_eq_some_iff.mp now
  constructor
  case created =>
    intro id session found
    rcases effect.lineage id session found with ⟨held, present, secret, -⟩ | ⟨reset, -, secret⟩
    · rw [secret]
      exact mem_filterMap_cons.mpr (.inr (guarded.created id held present))
    · rw [secret]
      exact mem_filterMap_cons.mpr (.inl (fresh reset).1)
  case unique =>
    intro id id' session session' found found' same
    rcases effect.lineage id session found with ⟨held, present, secret, -⟩ | ⟨reset, named, secret⟩ <;>
      rcases effect.lineage id' session' found' with
        ⟨held', present', secret', -⟩ | ⟨reset', named', secret'⟩
    · exact guarded.unique id id' held held' present present' (by rw [← secret, same, secret'])
    · exact absurd (by rw [← secret, same, secret']) (past present reset')
    · exact absurd (by rw [← secret', ← same, secret]) (past present' reset)
    · exact named.trans named'.symm
  case taken =>
    intro pass mem
    rcases mem_filterMap_cons.mp mem with now | before
    · obtain ⟨credential, passed, rfl⟩ := passing now
      obtain ⟨held, present, hashed, agrees, -⟩ := effect.passes credential passed
      have known := guarded.created _ held present
      refine ⟨judged request, held.secret, mem_filterMap_cons.mpr (.inl (event ▸ hashed)), agrees,
        mem_filterMap_cons.mpr (.inr known), ?_⟩
      intro id session found same
      rcases effect.lineage id session found with
        ⟨other, present', kept, -, takes⟩ | ⟨reset, -, drawn⟩
      · exact takes credential passed (guarded.unique id _ other held present' present
          (kept.symm.trans same))
      · exact absurd (by rw [← same, drawn]) (past present reset)
    · obtain ⟨protocol, secret, hashed, agrees, known, takes⟩ := guarded.taken pass before
      refine ⟨protocol, secret, mem_filterMap_cons.mpr (.inr hashed), agrees,
        mem_filterMap_cons.mpr (.inr known), ?_⟩
      intro id session found same
      rcases effect.lineage id session found with ⟨held, present, kept, keeps, -⟩ | ⟨reset, -, drawn⟩
      · exact keeps _ (takes id held present (kept.symm.trans same))
      · exact absurd (by rwa [← drawn, same]) (fresh reset).2
  case once =>
    refine nodup_filterMap_cons.mpr ⟨fun pass now before => ?_, guarded.once⟩
    obtain ⟨credential, passed, rfl⟩ := passing now
    obtain ⟨held, present, hashed, agrees, free⟩ := effect.passes credential passed
    obtain ⟨protocol, secret, hashed', agrees', -, takes⟩ := guarded.taken _ before
    -- Equal hashes come from equal buffers, so both passes were made under one secret.
    have same := collisionFree (mem_filterMap_cons.mpr (.inr hashed'))
      (mem_filterMap_cons.mpr (.inl (event ▸ hashed))) (agrees'.trans agrees.symm)
    exact free (takes _ held present (hashBuffer_injective same).2.2.2.symm)

/-- No credential with the same session, ticket, hash and operation passes the test twice. -/
theorem no_replay (codec : platform.CodecRefuses) {history : List ServerEvent} {orb : Orb}
    (run : Run (serverMachine platform) history orb)
    (distinct : (history.filterMap createdSecret).Nodup)
    (collisionFree : Set.InjOn platform.sha256 {buffer | buffer ∈ history.filterMap hashedOf}) :
    (history.filterMap passOf).Nodup := by
  have guarded := run.invariant
    (fun history orb => (history.filterMap createdSecret).Nodup →
      Set.InjOn platform.sha256 {buffer | buffer ∈ history.filterMap hashedOf} →
      Guarded platform history orb.sessionLRUCache) ?_ ?_
  · exact (guarded distinct collisionFree).once
  · rintro orb init - -
    have empty (id : ULong) : orb.sessionLRUCache.find id = none := by
      rw [show orb.sessionLRUCache = .ofSize 128 from init, LRUCache.find_ofSize]
    constructor
    case created => simp [empty]
    case unique => simp [empty]
    case taken => simp
    case once => simp
  · rintro past s e t - ih step distinct collisionFree
    have guarded := ih (nodup_filterMap_cons.mp distinct).2
      (collisionFree.mono fun buffer mem => mem_filterMap_cons.mpr (.inr mem))
    cases step with
    | request clears received continues =>
      exact guarded_request rfl guarded (requestEffect codec clears received) continues distinct
        collisionFree
    | clearCaches =>
      have cleared : Guarded platform past s.clearCaches.sessionLRUCache :=
        guarded.of_subset fun id session found => by
          change s.sessionLRUCache.clear.find id = some session at found
          rw [LRUCache.find_clear] at found
          cases found
      exact ⟨cleared.created, cleared.unique, cleared.taken, cleared.once⟩
    | other same =>
      have kept : Guarded platform past t.sessionLRUCache := same ▸ guarded
      exact ⟨kept.created, kept.unique, kept.taken, kept.once⟩

namespace Reference

/-- A request of the reference server, as an event. -/
def event (world : ServerWorld) (credential : CredentialData) (orb : Orb) : ServerEvent :=
  .request world (requestOf credential) (handled world credential orb).1
    (hashedBuffer referencePlatform world (requestOf credential) orb)
    (passedCredential referencePlatform world (requestOf credential) orb)

theorem step_event (world : ServerWorld) (credential : CredentialData) (orb : Orb)
    (silent : world.onCallDispatch = none)
    (continues : (handled world credential orb).1 ≠ .error .fault) :
    ServerStep referencePlatform orb (event world credential orb)
      (handled world credential orb).2.orb := by
  refine .request (fun callback registered => ?_) (received world credential orb) continues
  rw [silent] at registered
  cases registered

theorem hashedOf_event (world : ServerWorld) (credential : CredentialData) (orb : Orb) :
    hashedOf (event world credential orb) =
      ((callbackState world (requestOf credential) credential (.arrival orb)).sessions.find
        credential.session).map fun session =>
          hashBuffer .little .current (ascii "op") credential.ticket session.secret := by
  simp only [hashedOf, event, hashedBuffer, requestOf, judged_carrying,
    getCredential_carrying ReferencePlatform.codecInverts]
  rfl

/-- What a replayed call meets: other random values. -/
def later : ServerWorld := { environment with sessionId := 6, secret := .replicate 16 5 }

/-- A session is created, a call passes over it, and the call is sent again. -/
def replay : List ServerEvent :=
  [event later (credential (ascii "S")) (dispatched (ascii "S")).orb,
    event environment (credential (ascii "S")) served,
    event environment firstCredential orb]

end Reference

open Reference in
theorem no_replay_call : (replay.filterMap passOf).Nodup := by
  have created : ServerStep referencePlatform orb (event environment firstCredential orb) served :=
    step_event environment firstCredential orb rfl (by decide +kernel)
  have passed : ServerStep referencePlatform served
      (event environment (credential (ascii "S")) served) (dispatched (ascii "S")).orb := by
    rw [dispatched]
    exact step_event environment (credential (ascii "S")) served rfl (by decide +kernel)
  have repeated := step_event later (credential (ascii "S")) (dispatched (ascii "S")).orb rfl
    (by decide +kernel)
  have start : Run (serverMachine referencePlatform) [] orb := .start rfl
  have run : Run (serverMachine referencePlatform) replay _ :=
    ((start.step created).step passed).step repeated
  have distinct : (replay.filterMap createdSecret).Nodup := by decide +kernel
  have hashed : replay.filterMap hashedOf =
      List.replicate 2 (hashBuffer .little .current (ascii "op") 1 environment.secret) := by
    simp only [replay, List.filterMap_cons, List.filterMap_nil, hashedOf_event]
    decide +kernel
  apply no_replay ReferencePlatform.codecRefuses run distinct
  rw [hashed]
  intro a first b second _
  exact (List.eq_of_mem_replicate first).trans (List.eq_of_mem_replicate second).symm

end ServerInterceptor

end OpenBus
