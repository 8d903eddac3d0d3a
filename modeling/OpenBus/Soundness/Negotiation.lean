import OpenBus.Soundness.LegacySupport
import OpenBus.Soundness.SessionSecrets

/-! # Which version a session speaks

A client that has no session offers credentials of both versions, and a server judges that of
version 2.1 if there is one and answers in the version it has judged. So two sides that speak
version 2.1 agree upon it, and stay with it until a request is sent within a chain of version 2.0.
-/

namespace OpenBus

open Machine ClientInterceptor ServerInterceptor

namespace Negotiation

open LegacySupport (resetSession_current_iff connections_installSession)

/-- The service contexts that `attach_credential` gives to a request. -/
def attached (platform : Platform) (session : Option SecretSession) (chain : CallerChain)
    (credential : Protocol → CredentialData) : ServiceContexts :=
  let data (protocol : Protocol) :=
    some (platform.encodeValue (.credentialData protocol (credential protocol)))
  match session with
  | none =>
      Function.update
        (Function.update (fun _ => none) Protocol.current.credentialContextId (data .current))
        Protocol.legacy.credentialContextId (data .legacy)
  | some session =>
      Function.update (fun _ => none) (usedProtocol session chain).credentialContextId
        (data (usedProtocol session chain))

/-- A client that talks to servers over one connection: what each of its threads has found for the
request it is about to send, the requests it has sent and the resets they have been answered with,
which may arrive late, more than once or never. -/
structure Talk where
  client : Orb
  found : ℕ → Option (Option SecretSession × CallerChain)
  requests : List ServerRequest
  resets : List ServiceContexts

inductive TalkEvent where
  /-- A thread has looked for a session and for the chain it has joined. -/
  | read (chain : CallerChain)
  | sent (request : ServerRequest)
  | refused
  | installed
  | other

/-- The session which the client has for a login. -/
def sessionOf (ref : ConnRef) (client : Orb) (remoteId : Identifier) : Option SecretSession :=
  (client.connections ref).login2session.find remoteId

inductive TalkStep (platform : Platform) (ref : ConnRef) : Talk → TalkEvent → Talk → Prop
  | read {s : Talk} {thread : ℕ} {request : ClientRequest} {slots : SlotTable}
      {session : Option (Identifier × SecretSession)} {chain : CallerChain} {t : Orb}
      (searched : getSession platform request ref s.client = (.ok session, t))
      (joined : getJoinedChain platform ref { t with piCurrent := slots } = .ok chain) :
      TalkStep platform ref s (.read chain)
        { s with
          client := t
          found := Function.update s.found thread (some (session.map Prod.snd, chain)) }
  | sent {s : Talk} {thread : ℕ} {session : Option SecretSession} {chain : CallerChain}
      (ready : s.found thread = some (session, chain)) (operation : Identifier)
      (credential : Protocol → CredentialData) :
      TalkStep platform ref s
        (.sent ⟨operation, attached platform session chain credential⟩)
        { s with
          found := Function.update s.found thread none
          requests := ⟨operation, attached platform session chain credential⟩ :: s.requests }
  /-- Any server, in any state, answers a request with a reset. -/
  | refused {s : Talk} {request : ServerRequest} {world : ServerWorld} {server : Orb} {d : Dispatch}
      (there : request ∈ s.requests)
      (answered : receiveRequestServiceContexts platform world request (.arrival server) =
        (.error (.noPermission invalidCredentialCode), d)) :
      TalkStep platform ref s .refused { s with resets := d.replyContexts :: s.resets }
  | installed {s : Talk} {contexts : ServiceContexts} (there : contexts ∈ s.resets)
      (request : ClientRequest) :
      TalkStep platform ref s .installed
        { s with client := (installSession platform request ref contexts s.client).2 }
  /-- Anything else; sessions may be forgotten, and their tickets used. -/
  | other {s : Talk} {t : Orb} (fewer : ∀ remoteId session, sessionOf ref t remoteId = some session →
        ∃ before, sessionOf ref s.client remoteId = some before ∧
          session.isLegacy = before.isLegacy) :
      TalkStep platform ref s .other { s with client := t }

/-- A client without sessions, before its first request. -/
def talkMachine (platform : Platform) (ref : ConnRef) : Labeled Talk TalkEvent where
  Init s := (∀ remoteId, sessionOf ref s.client remoteId = none) ∧ (∀ thread, s.found thread = none) ∧
    s.requests = [] ∧ s.resets = []
  Step := TalkStep platform ref

/-- The thread has not found a chain of version 2.0. -/
def Modern : TalkEvent → Prop
  | .read chain => chain.isLegacy = false
  | _ => True

variable {platform : Platform} {world : ClientWorld} {ref : ConnRef}

/-- `attach_credential` gives a request these contexts, for the session and the chain it finds. -/
theorem attachCredential_attached {request : ClientRequest} {login : Identifier} {orb : Orb}
    {t : Invocation}
    (ran : attachCredential platform world request ref login ⟨orb, fun _ => none⟩ = (.ok (), t)) :
    ∃ session after chain credential, getSession platform request ref orb = (.ok session, after) ∧
      getJoinedChain platform ref after = .ok chain ∧
      t.contexts = attached platform (session.map Prod.snd) chain credential := by
  obtain ⟨session, after, chain, searched, joined, rest⟩ := attachCredential_ok_iff.mp ran
  cases session with
  | none =>
    subst rest
    exact ⟨none, after, chain, fun _ => emptyCredential (busid after ref) login, searched, joined, rfl⟩
  | some found =>
    obtain ⟨credential, final, -, rfl⟩ := rest
    exact ⟨some found, after, chain, fun _ => credential, searched, joined, rfl⟩

/-- A request is judged in version 2.1 unless it is sent over a session, and in version 2.0. -/
theorem judged_attached (operation : Identifier) {session : Option SecretSession}
    {chain : CallerChain} (credential : Protocol → CredentialData)
    (current : ∀ found, session = some found → found.isLegacy = false)
    (modern : chain.isLegacy = false) :
    judged ⟨operation, attached platform session chain credential⟩ = .current := by
  apply if_pos
  cases session with
  | none => simp [attached, Protocol.credentialContextId]
  | some found =>
    have version : usedProtocol found chain = .current := by
      rw [usedProtocol, current found rfl, modern]
      rfl
    simp [attached, version]

/-- What a server answers to a request of version 2.1 is a reset of version 2.1. -/
theorem replyContexts_current (codec : platform.CodecRefuses) {world : ServerWorld}
    {request : ServerRequest} {server : Orb} {d : Dispatch} (version : judged request = .current)
    (answered : receiveRequestServiceContexts platform world request (.arrival server) =
      (.error (.noPermission invalidCredentialCode), d)) :
    d.replyContexts Protocol.current.credentialContextId ≠ none := by
  obtain ⟨refused, got, same, -⟩ | ⟨credential, -, handled⟩ := received_cases codec answered
  · cases same
    exact absurd rfl (getCredential_ne_reset codec got)
  · rw [version] at handled
    rcases handleCredential_replies codec handled with
      ⟨unrefused, -⟩ | ⟨-, conn, caller, valid, u, -, login, challenge, -, contexts⟩
    · exact absurd rfl unrefused
    · rw [contexts, Function.update_self]
      exact Option.some_ne_none _

/-- Nothing of the client is of version 2.0. -/
structure SpeaksCurrent (ref : ConnRef) (s : Talk) : Prop where
  sessions : ∀ remoteId session, sessionOf ref s.client remoteId = some session →
    session.isLegacy = false
  found : ∀ thread session chain, s.found thread = some (session, chain) →
    chain.isLegacy = false ∧ ∀ known, session = some known → known.isLegacy = false
  requests : ∀ request ∈ s.requests, judged request = .current
  resets : ∀ contexts ∈ s.resets, contexts Protocol.current.credentialContextId ≠ none

/-- Two sides that speak version 2.1 stay with it, as long as no chain of version 2.0 is joined. -/
theorem speaksCurrent_of_modern (codec : platform.CodecRefuses) {history : List TalkEvent} {s : Talk}
    (run : Run (talkMachine platform ref) history s) (modern : ∀ e ∈ history, Modern e) :
    SpeaksCurrent ref s := by
  have always := (always_iff_forall_mem Modern history).mpr modern
  refine run.invariant_of_always (fun _ s => SpeaksCurrent ref s) ?_ ?_ always
  · rintro s ⟨unknown, idle, unsent, unanswered⟩
    refine ⟨fun remoteId session known => ?_, fun thread session chain ready => ?_, ?_, ?_⟩
    · rw [unknown] at known
      cases known
    · rw [idle] at ready
      cases ready
    · rw [unsent]
      exact List.forall_mem_nil _
    · rw [unanswered]
      exact List.forall_mem_nil _
  · rintro past before e t - speaks guard step
    cases step with
    | @read thread request slots session chain client searched joined =>
      obtain ⟨profiles, sessions, connection, same, -⟩ :=
        getSession_connections platform request ref before.client
      rw [searched] at connection
      have known (remoteId : Identifier) :
          sessionOf ref client remoteId = sessionOf ref before.client remoteId := by
        rw [sessionOf, connection, sessionOf, ← same]
      have current (remoteId : Identifier) (found : SecretSession)
          (cached : sessionOf ref client remoteId = some found) : found.isLegacy = false :=
        speaks.sessions remoteId found (known remoteId ▸ cached)
      refine ⟨current, fun other session' chain' ready => ?_, speaks.requests, speaks.resets⟩
      dsimp only at ready
      by_cases same : other = thread
      · rw [same, Function.update_self] at ready
        cases ready
        refine ⟨guard, fun found present => ?_⟩
        obtain ⟨⟨key, _⟩, rfl, rfl⟩ := Option.map_eq_some_iff.mp present
        exact current key _ (find_of_getSession searched)
      · rw [Function.update_of_ne same] at ready
        exact speaks.found other session' chain' ready
    | @sent thread session chain ready operation credential =>
      obtain ⟨modern, current⟩ := speaks.found thread session chain ready
      refine ⟨speaks.sessions, fun other session' chain' ready' => ?_, ?_, speaks.resets⟩
      · dsimp only at ready'
        by_cases same : other = thread
        · rw [same, Function.update_self] at ready'
          cases ready'
        · rw [Function.update_of_ne same] at ready'
          exact speaks.found other session' chain' ready'
      · exact List.forall_mem_cons.mpr
          ⟨judged_attached operation credential current modern, speaks.requests⟩
    | refused there answered =>
      refine ⟨speaks.sessions, speaks.found, speaks.requests, ?_⟩
      exact List.forall_mem_cons.mpr
        ⟨replyContexts_current codec (speaks.requests _ there) answered, speaks.resets⟩
    | installed there request =>
      refine ⟨fun remoteId session known => ?_, speaks.found, speaks.requests, speaks.resets⟩
      dsimp only [sessionOf] at known
      rw [connections_installSession] at known
      rcases reset : resetSession platform (before.client.connections ref).key _ with e | offered <;>
        rw [reset] at known
      · exact speaks.sessions remoteId session known
      · rcases LRUCache.find_insert_cases known with ⟨-, rfl⟩ | ⟨-, kept⟩
        · exact (resetSession_current_iff codec).mpr
            (fun absent => absurd absent (speaks.resets _ there)) _ reset
        · exact speaks.sessions remoteId session kept
    | other fewer =>
      refine ⟨fun remoteId session known => ?_, speaks.found, speaks.requests, speaks.resets⟩
      obtain ⟨before, known, same⟩ := fewer remoteId session known
      rw [same]
      exact speaks.sessions remoteId before known

/-- A session of version 2.0, and a request that is judged in version 2.0, are there only if a thread
has joined a chain of version 2.0 before. -/
theorem legacy_of_chain (codec : platform.CodecRefuses) {history : List TalkEvent} {s : Talk}
    (run : Run (talkMachine platform ref) history s)
    (legacy : (∃ remoteId session, sessionOf ref s.client remoteId = some session ∧
        session.isLegacy = true) ∨ ∃ request ∈ s.requests, judged request = .legacy) :
    ∃ chain, TalkEvent.read chain ∈ history ∧ chain.isLegacy = true := by
  by_contra none
  have modern : ∀ e ∈ history, Modern e := by
    intro e ran
    cases e with
    | read chain =>
      by_contra joined
      exact none ⟨chain, ran, by simpa [Modern] using joined⟩
    | _ => trivial
  have speaks := speaksCurrent_of_modern codec run modern
  rcases legacy with ⟨remoteId, session, known, version⟩ | ⟨request, sent, version⟩
  · rw [speaks.sessions remoteId session known] at version
    cases version
  · rw [speaks.requests request sent] at version
    cases version

namespace Reference

open LegacySupport.Reference (orb clientRequest legacyChain)
open ServerInterceptor.Reference (environment firstCredential)

/-- The slots of a thread that has joined a chain of version 2.0. -/
def joinedSlots : SlotTable :=
  Function.update (fun _ => .empty) .joinedCallChain (.ofSignedChain .legacy legacyChain)

def joinedChain : CallerChain :=
  .ofLegacyCallChain referencePlatform ⟨ascii "S", [], ⟨ascii "c", ascii "C"⟩⟩ (ascii "B") (ascii "S")
    legacyChain

def searched (client : Orb) : Orb := (getSession referencePlatform clientRequest 0 client).2

def first : ServerRequest :=
  ⟨ascii "op", attached referencePlatform none (.none referencePlatform) fun _ => firstCredential⟩

/-- The reset which the first request is answered with. -/
def refusal : Dispatch :=
  (receiveRequestServiceContexts referencePlatform environment first
    (.arrival ServerInterceptor.Reference.orb)).2

/-- The session which the client reads in it. -/
def session : SecretSession := ⟨5, ascii "s", ascii "S", .replicate 16 4, 0, false⟩

def agreed : Orb :=
  (installSession referencePlatform clientRequest 0 refusal.replyContexts (searched orb)).2

def second : ServerRequest :=
  ⟨ascii "op", attached referencePlatform (some session) joinedChain fun _ => firstCredential⟩

def history : List TalkEvent :=
  [.sent second, .read joinedChain, .installed, .refused, .sent first, .read (.none referencePlatform)]

theorem run_joining : ∃ s, Run (talkMachine referencePlatform 0) history s ∧ second ∈ s.requests := by
  have start : Run (talkMachine referencePlatform 0) [] ⟨orb, fun _ => none, [], []⟩ :=
    .start ⟨fun _ => rfl, fun _ => rfl, rfl, rfl⟩
  have unknown : getSession referencePlatform clientRequest 0 orb = (.ok none, searched orb) :=
    Action.eq_of_fst (by decide +kernel)
  have alone : getJoinedChain referencePlatform 0 { searched orb with piCurrent := fun _ => .empty } =
      .ok (.none referencePlatform) := rfl
  have sent := (start.step (@TalkStep.read _ _ _ 0 _ _ _ _ _ unknown alone)).step
    (.sent (Function.update_self ..) (ascii "op") fun _ => firstCredential)
  have answered : receiveRequestServiceContexts referencePlatform environment first
      (.arrival ServerInterceptor.Reference.orb) =
        (.error (.noPermission invalidCredentialCode), refusal) :=
    Action.eq_of_fst (by decide +kernel)
  have refused : Run (talkMachine referencePlatform 0) [.refused, .sent first, .read _]
      ⟨searched orb, _, [first], [refusal.replyContexts]⟩ :=
    sent.step (.refused List.mem_cons_self answered)
  have installed : Run (talkMachine referencePlatform 0) [.installed, .refused, .sent first, .read _]
      ⟨agreed, _, [first], [refusal.replyContexts]⟩ :=
    refused.step (.installed List.mem_cons_self clientRequest)
  have known : getSession referencePlatform clientRequest 0 agreed =
      (.ok (some (ascii "s", session)), searched agreed) :=
    Action.eq_of_fst (by decide +kernel)
  have bus : ((searched agreed).connections 0).busid = (orb.connections 0).busid := by
    decide +kernel
  have joined : getJoinedChain referencePlatform 0 { searched agreed with piCurrent := joinedSlots } =
      .ok joinedChain :=
    calc
      _ = getJoinedChain referencePlatform 0 { orb with piCurrent := joinedSlots } := by
        simp only [getJoinedChain, busid, bus]
      _ = .ok joinedChain := rfl
  have reads {s : Talk} (here : s.client = agreed) :
      TalkStep referencePlatform 0 s (.read joinedChain)
        { s with
          client := searched agreed
          found := Function.update s.found 0 (some (some session, joinedChain)) } :=
    @TalkStep.read referencePlatform 0 s 0 clientRequest joinedSlots (some (ascii "s", session)) _ _
      (by rw [here, known]) joined
  have read := installed.step (reads (by dsimp only))
  have again := read.step (.sent (Function.update_self ..) (ascii "op") fun _ => firstCredential)
  exact ⟨_, again, List.mem_cons_self⟩

end Reference

open Reference in
/-- A session of version 2.1, and then a request within a chain of version 2.0. -/
theorem legacy_of_chain_joined : judged second = .legacy ∧
    ∃ chain, TalkEvent.read chain ∈ Reference.history ∧ chain.isLegacy = true := by
  have version : judged second = .legacy := by decide +kernel
  obtain ⟨s, run, sent⟩ := run_joining
  exact ⟨version, legacy_of_chain ReferencePlatform.codecRefuses run (.inr ⟨second, sent, version⟩)⟩

end Negotiation

end OpenBus
