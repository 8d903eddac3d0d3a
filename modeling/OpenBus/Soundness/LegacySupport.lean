import OpenBus.Proofs.LegacySupport
import OpenBus.Soundness.ServerVerdict
import OpenBus.Soundness.SessionOrigins

/-! # Version 2.0 without support for it

The flag of a connection keeps the facets of version 2.0 away from it, and from the two operations
that convert. Nothing else looks at the flag: a request that carries a credential of version 2.0
alone is judged by it, a reset of version 2.0 alone is installed, and a chain of version 2.0 that is
joined goes to a facet which the connection does not have.
-/

namespace OpenBus

open Machine

namespace LegacySupport

open ClientInterceptor

variable {platform : Platform} {ref : ConnRef}

/-- A request is dispatched to the connection and accepted, and the chain for the servant is that of
its credential of version 2.0. -/
def AcceptedLegacy (platform : Platform) (ref : ConnRef) (world : ServerWorld)
    (request : ServerRequest) (orb : Orb) : Prop :=
  ∃ credential d t,
    ServerInterceptor.getCredential platform request .legacy = .ok credential ∧
    ServerInterceptor.getDispatcherConnection world request credential.bus credential.login
      (.arrival orb) = (.ok ref, d) ∧
    ServerInterceptor.receiveRequestServiceContexts platform world request (.arrival orb) =
      (.ok (), t) ∧
    t.slots .signedCallChain = .signedCallChain credential.chain

/-- Version 2.0 has not been spoken. -/
def Disabled (platform : Platform) (ref : ConnRef) : LegacyEvent → Prop
  | .received world request orb => ¬ AcceptedLegacy platform ref world request orb
  | .reset key contexts =>
      ∀ session, resetSession platform key contexts = .ok session → session.isLegacy = false
  | .signing session chain facet => usedProtocol session chain = .legacy → facet ≠ none
  | .converting facet => facet ≠ none
  | .other => True

/-- What a peer sends does not lead to version 2.0: a request without a credential of version 2.1
has none of version 2.0 that passes the tests, a reset without one of version 2.1 has none of version
2.0 that can be read, and a chain to be signed for is not one of version 2.0. -/
def Avoids (platform : Platform) (ref : ConnRef) : LegacyEvent → Prop
  | .received world request orb =>
      request.contexts Protocol.current.credentialContextId = none → ∀ credential d caller after,
        ServerInterceptor.getCredential platform request .legacy = .ok credential →
        ¬ ServerInterceptor.Accepts platform world request .legacy credential (.arrival orb) d ref
          caller after
  | .reset key contexts =>
      contexts Protocol.current.credentialContextId = none →
        ∀ session, legacyReset platform key contexts ≠ .ok session
  | .signing _ chain _ => chain.isLegacy = false
  | .converting _ | .other => True

theorem judged_eq_legacy_iff {request : ServerRequest} :
    ServerInterceptor.judged request = .legacy ↔
      request.contexts Protocol.current.credentialContextId = none := by
  unfold ServerInterceptor.judged
  rcases request.contexts Protocol.current.credentialContextId with _ | data <;> simp

/-- A request is accepted in version 2.0 exactly if it has no credential of version 2.1, and its
credential of version 2.0 fulfils all the conditions. -/
theorem acceptedLegacy_iff (codec : platform.CodecRefuses) {world : ServerWorld}
    {request : ServerRequest} {orb : Orb} :
    AcceptedLegacy platform ref world request orb ↔
      request.contexts Protocol.current.credentialContextId = none ∧ ∃ credential d caller after,
        ServerInterceptor.getCredential platform request .legacy = .ok credential ∧
        ServerInterceptor.Accepts platform world request .legacy credential (.arrival orb) d ref
          caller after := by
  rw [← judged_eq_legacy_iff]
  unfold AcceptedLegacy
  simp only [ServerInterceptor.receiveRequestServiceContexts_eq codec,
    ServerInterceptor.receiveCredential]
  constructor
  · rintro ⟨credential, d, t, present, dispatched, accepted, slot⟩
    obtain ⟨own, u, read, handled⟩ := Action.bind_ok_iff.mp accepted
    obtain ⟨found, rfl⟩ := Prod.mk.inj read
    obtain ⟨d', other, caller, after, accepts, rfl⟩ :=
      ServerInterceptor.handleCredential_ok_iff.mp handled
    cases version : ServerInterceptor.judged request with
    | current =>
      rw [version] at slot
      have impossible : Any.signedData own.chain = .signedCallChain credential.chain := slot
      cases impossible
    | legacy =>
      rw [version] at found accepts
      obtain rfl := Except.ok.inj (present.symm.trans found)
      obtain ⟨chosen, called, chose⟩ := accepts.1.chosen
      have reached := ServerInterceptor.getDispatcherConnection_ok_iff.mpr
        ⟨chosen, d', called, chose, accepts.1.logged, accepts.1.bus, rfl⟩
      cases reached.symm.trans dispatched
      exact ⟨rfl, credential, d', caller, after, present, accepts⟩
  · rintro ⟨version, credential, d, caller, after, present, accepts⟩
    rw [version]
    obtain ⟨chosen, called, chose⟩ := accepts.1.chosen
    refine ⟨credential, _, _, present, ServerInterceptor.getDispatcherConnection_ok_iff.mpr
      ⟨chosen, d, called, chose, accepts.1.logged, accepts.1.bus, rfl⟩,
      Action.bind_ok_iff.mpr ⟨credential, _, Prod.ext present rfl,
        ServerInterceptor.handleCredential_ok_iff.mpr ⟨d, ref, caller, after, accepts, rfl⟩⟩, rfl⟩

theorem isLegacy_of_currentReset {key : PrivateKey} {contexts : ServiceContexts}
    {session : SecretSession} (read : currentReset platform key contexts = .ok session) :
    session.isLegacy = false := by
  unfold currentReset at read
  split at read
  · obtain ⟨any, -, rest⟩ := bind_eq_ok_iff.mp read
    dsimp only at rest
    split at rest
    · obtain ⟨plain, -, rest⟩ := bind_eq_ok_iff.mp rest
      obtain ⟨secret, -, final⟩ := bind_eq_ok_iff.mp rest
      obtain rfl := Except.ok.inj final
      rfl
    · cases rest
  · cases read

theorem isLegacy_of_legacyReset {key : PrivateKey} {contexts : ServiceContexts}
    {session : SecretSession} (read : legacyReset platform key contexts = .ok session) :
    session.isLegacy = true := by
  unfold legacyReset at read
  split at read
  · obtain ⟨any, -, rest⟩ := bind_eq_ok_iff.mp read
    obtain ⟨plain, -, rest⟩ := bind_eq_ok_iff.mp rest
    obtain ⟨secret, -, final⟩ := bind_eq_ok_iff.mp rest
    obtain rfl := Except.ok.inj final
    rfl
  · cases read

/-- A reset of version 2.1 that is there is not read as one that is not. -/
theorem currentReset_ne_badParam (codec : platform.CodecRefuses) {key : PrivateKey}
    {contexts : ServiceContexts}
    (present : contexts Protocol.current.credentialContextId ≠ none) (minor : ULong)
    (completed : CompletionStatus) :
    currentReset platform key contexts ≠ .error (.system .badParam minor completed) := by
  obtain ⟨data, found⟩ := Option.ne_none_iff_exists'.mp present
  unfold currentReset
  rw [found]
  dsimp only
  cases decoded : platform.decodeValue data .credentialReset with
  | error e =>
    rcases codec _ _ _ decoded with rfl | rfl <;> simp [bind, Except.bind]
  | ok any =>
    simp only [bind, Except.bind, pure, Except.pure, throw, throwThe, MonadExceptOf.throw]
    cases platform.decrypt key any.extractCredentialReset.challenge.toList with
    | error e =>
      cases e <;> simp [Exception.isCatchable, Exception.noPermission]
    | ok plain => by_cases long : 16 ≤ plain.length <;> simp [memcpy, long]

/-- A session of version 2.0 is installed exactly if it is the only one that is offered. -/
theorem resetSession_current_iff (codec : platform.CodecRefuses) {key : PrivateKey}
    {contexts : ServiceContexts} :
    (∀ session, resetSession platform key contexts = .ok session → session.isLegacy = false) ↔
      (contexts Protocol.current.credentialContextId = none →
        ∀ session, legacyReset platform key contexts ≠ .ok session) := by
  constructor
  · intro current absent session read
    have reset : resetSession platform key contexts = .ok session := by
      simp [resetSession, currentReset, absent, read, throw, throwThe, MonadExceptOf.throw]
    have legacy := isLegacy_of_legacyReset read
    rw [current session reset] at legacy
    cases legacy
  · intro avoided session reset
    unfold resetSession at reset
    split at reset
    · next read =>
      obtain rfl := Except.ok.inj reset
      exact isLegacy_of_currentReset read
    · next minor completed read =>
      have absent : contexts Protocol.current.credentialContextId = none := by
        by_contra present
        exact currentReset_ne_badParam codec present _ _ read
      split at reset
      · next session read => exact absurd read (avoided absent session)
      · cases reset
    · cases reset

/-- The connection has nothing of version 2.0. -/
structure Unsupported (conn : Connection) : Prop where
  flag : conn.legacySupport = false
  accessControl : conn.legacyAccessControl = none
  converter : conn.legacyConverter = none

theorem Unsupported.of_places {orb t : Orb} (unsupported : Unsupported (orb.connections ref))
    (same : legacyPlaces ref t = legacyPlaces ref orb) : Unsupported (t.connections ref) := by
  simp only [legacyPlaces, Prod.mk.injEq] at same
  obtain ⟨flag, accessControl, converter, -⟩ := same
  exact ⟨flag.trans unsupported.flag, accessControl.trans unsupported.accessControl,
    converter.trans unsupported.converter⟩

/-- The connection once a reset has been answered. -/
theorem connections_installSession (request : ClientRequest) (contexts : ServiceContexts)
    (orb : Orb) :
    (installSession platform request ref contexts orb).2.connections ref =
      match resetSession platform (orb.connections ref).key contexts with
      | .ok session =>
        { orb.connections ref with
          profile2login := (orb.connections ref).profile2login.insert (sessionKey platform request)
            session.remoteId
          login2session := (orb.connections ref).login2session.insert session.remoteId session }
      | .error _ => orb.connections ref := by
  simp only [installSession, Action.bind_apply, Action.get_apply, Action.ofExcept_apply]
  cases resetSession platform (orb.connections ref).key contexts with
  | error e => rfl
  | ok session => simp

/-- No step gives the connection anything of version 2.0. -/
theorem unsupported_of_run {history : List LegacyEvent} {s : Traffic}
    (run : Run (legacyMachine platform ref) history s) : Unsupported (s.orb.connections ref) := by
  refine run.invariant (fun _ s => Unsupported (s.orb.connections ref)) ?_ ?_
  · rintro s ⟨⟨key, fresh⟩, -⟩
    rw [fresh]
    exact ⟨rfl, rfl, rfl⟩
  · rintro past before e t - unsupported step
    cases step with
    | received world request ran quiet => exact unsupported.of_places quiet
    | reset request contexts =>
      obtain ⟨flag, accessControl, converter⟩ := unsupported
      change Unsupported ((installSession platform request ref contexts before.orb).2.connections ref)
      rw [connections_installSession]
      split <;> exact ⟨flag, accessControl, converter⟩
    | @read thread request slots key session chain orb here found joined =>
      have places := getSession_legacyPlaces platform request ref before.orb
      rw [found] at places
      exact unsupported.of_places places
    | sign login here remote missed => exact unsupported
    | sent thread => exact unsupported
    | convert supported => exact unsupported
    | init facets =>
      rw [Orb.connections_updateConnection_self]
      exact ⟨unsupported.flag, by simp [Connection.loginInit, unsupported.flag],
        by simp [Connection.loginInit, unsupported.flag]⟩
    | cleared =>
      obtain ⟨flag, accessControl, converter⟩ := unsupported
      rw [Orb.connections_logoutSection]
      unfold Connection.logout
      split
      · exact ⟨flag, accessControl, converter⟩
      · exact ⟨flag, rfl, rfl⟩
    | other same => exact unsupported.of_places same

/-- The sessions are of version 2.1, also those that threads have read. -/
structure SpeaksCurrent (ref : ConnRef) (s : Traffic) : Prop where
  cached : ∀ remoteId session, (s.orb.connections ref).login2session.find remoteId = some session →
    session.isLegacy = false
  sending : ∀ thread session chain, s.sending thread = some (session, chain) →
    session.isLegacy = false

theorem SpeaksCurrent.of_places {s : Traffic} (speaks : SpeaksCurrent ref s) {orb : Orb}
    (same : legacyPlaces ref orb = legacyPlaces ref s.orb) :
    SpeaksCurrent ref { s with orb := orb } := by
  refine ⟨fun remoteId session found => ?_, speaks.sending⟩
  simp only [legacyPlaces, Prod.mk.injEq] at same
  have kept := congrFun same.2.2.2 remoteId
  rw [found] at kept
  obtain ⟨old, present, version⟩ := Option.map_eq_some_iff.mp kept.symm
  rw [← version]
  exact speaks.cached remoteId old present

theorem SpeaksCurrent.send {s : Traffic} (speaks : SpeaksCurrent ref s) (thread : ℕ)
    {found : Option (SecretSession × CallerChain)}
    (current : ∀ session chain, found = some (session, chain) → session.isLegacy = false) :
    SpeaksCurrent ref (s.send thread found) := by
  refine ⟨speaks.cached, fun other session chain has => ?_⟩
  by_cases own : other = thread
  · subst own
    rw [Traffic.sending_send_self] at has
    exact current session chain has
  · rw [Traffic.sending_send_of_ne own] at has
    exact speaks.sending other session chain has

/-- While no reset of version 2.0 alone is answered, all sessions are of version 2.1. -/
theorem speaksCurrent_of_avoids (codec : platform.CodecRefuses) {history : List LegacyEvent}
    {s : Traffic} (run : Run (legacyMachine platform ref) history s)
    (avoids : ∀ e ∈ history, Avoids platform ref e) : SpeaksCurrent ref s := by
  have always := (always_iff_forall_mem (Avoids platform ref) history).mpr avoids
  refine run.invariant_of_always (fun _ s => SpeaksCurrent ref s) ?_ ?_ always
  · rintro s ⟨⟨key, fresh⟩, idle⟩
    refine ⟨fun remoteId session found => ?_, fun thread session chain has => ?_⟩
    · rw [fresh] at found
      simp [Connection.init] at found
    · rw [idle thread] at has
      cases has
  · rintro past before e t - speaks guard step
    have none_current : ∀ session chain,
        (none : Option (SecretSession × CallerChain)) = some (session, chain) →
          session.isLegacy = false := fun _ _ impossible => by cases impossible
    cases step with
    | received world request ran quiet => exact speaks.of_places quiet
    | reset request contexts =>
      refine ⟨fun remoteId session found => ?_, speaks.sending⟩
      rw [connections_installSession] at found
      rcases reset : resetSession platform (before.orb.connections ref).key contexts with
        e | offered <;> rw [reset] at found
      · exact speaks.cached remoteId session found
      · rcases LRUCache.find_insert_cases found with ⟨-, rfl⟩ | ⟨-, kept⟩
        · exact (resetSession_current_iff codec).mpr guard _ reset
        · exact speaks.cached remoteId session kept
    | @read thread request slots key session chain orb here found joined =>
      have places := getSession_legacyPlaces platform request ref before.orb
      rw [found] at places
      refine (speaks.of_places places).send thread fun other joined same => ?_
      cases same
      exact (speaks.of_places places).cached key session (find_of_getSession found)
    | sign login here remote missed => exact speaks.send _ none_current
    | sent thread => exact speaks.send _ none_current
    | convert supported => exact speaks
    | init facets =>
      refine ⟨fun remoteId session found => ?_, speaks.sending⟩
      rw [Orb.connections_updateConnection_self] at found
      exact speaks.cached remoteId session found
    | cleared =>
      refine ⟨fun remoteId session found => ?_, speaks.sending⟩
      rw [Orb.connections_logoutSection] at found
      unfold Connection.logout at found
      split at found
      · exact speaks.cached remoteId session found
      · simp at found
    | other same => exact speaks.of_places same

/-- One step speaks version 2.0 exactly if a peer leads it to. -/
theorem disabled_iff_of_step (codec : platform.CodecRefuses) {s t : Traffic} {e : LegacyEvent}
    (unsupported : Unsupported (s.orb.connections ref)) (speaks : SpeaksCurrent ref s)
    (step : LegacyStep platform ref s e t) :
    Disabled platform ref e ↔ Avoids platform ref e := by
  cases step with
  | received world request ran quiet =>
    rw [Disabled, acceptedLegacy_iff codec, Avoids]
    grind
  | reset request contexts => exact resetSession_current_iff codec
  | @sign thread session chain login here remote missed =>
    have version := speaks.sending thread session chain here
    rcases joined : chain.isLegacy
    · simp [Disabled, Avoids, usedProtocol, version, joined]
    · simp [Disabled, Avoids, usedProtocol, version, joined, chainSigner,
        unsupported.accessControl]
  | convert supported =>
    rw [unsupported.flag] at supported
    cases supported
  | _ => exact Iff.rfl

/-- Without support, version 2.0 is not spoken exactly if no peer leads to it. -/
theorem legacyDisabled_iff (codec : platform.CodecRefuses) {history : List LegacyEvent}
    {s : Traffic} (run : Run (legacyMachine platform ref) history s) :
    (∀ e ∈ history, Disabled platform ref e) ↔ ∀ e ∈ history, Avoids platform ref e := by
  induction run with
  | start init => simp
  | @step past before t e run step ih =>
    rw [List.forall_mem_cons, List.forall_mem_cons, ih]
    refine and_congr_left fun avoids => ?_
    exact disabled_iff_of_step codec (unsupported_of_run run)
      (speaksCurrent_of_avoids codec run avoids) step

namespace Reference

open ServerInterceptor.Reference (environment firstCredential)

/-- A connection made without support of version 2.0 that has logged in. -/
def plain : Connection :=
  { (Connection.init ⟨[2]⟩ false).loginInit ReferencePlatform.facets with
    loginInfo := some ⟨ascii "s", ascii "S"⟩
    state := .logged }

def orb : Orb := { Orb.init (fun _ => plain) (fun _ => true) with defConn := some 0 }

theorem run_orb : Run (legacyMachine referencePlatform 0) [.other] (during (fun _ => none) orb) := by
  have start : Run (legacyMachine referencePlatform 0) []
      (during (fun _ => none) (Orb.init (fun _ => .init ⟨[2]⟩ false) fun _ => true)) :=
    .start ⟨⟨_, rfl⟩, fun _ => rfl⟩
  exact start.step (.other rfl)

/-- A request with a credential of version 2.0 alone. -/
def legacyRequest (credential : CredentialData) : ServerRequest :=
  ServerInterceptor.carrying referencePlatform (ascii "op") .legacy credential

/-- The server after it has answered the first request with a session. -/
def served : Orb :=
  (ServerInterceptor.receiveRequestServiceContexts referencePlatform environment
    (legacyRequest firstCredential) (.arrival orb)).2.orb

/-- A chain which the bus has signed for calls of the login `c` to this entity. -/
def legacyChain : SignedData :=
  let encoded := referencePlatform.encodeValue
    (.legacyCallChain ⟨ascii "S", [], ⟨ascii "c", ascii "C"⟩⟩)
  ⟨ReferencePlatform.sign ⟨[1]⟩ (referencePlatform.sha256 encoded), encoded⟩

/-- A credential of version 2.0 over this session. -/
def credential : CredentialData :=
  ⟨ascii "B", ascii "c", 5, 1, hash referencePlatform .legacy (ascii "op") 1 environment.secret,
    legacyChain⟩

theorem acceptedLegacy :
    AcceptedLegacy referencePlatform 0 environment (legacyRequest credential) served := by
  have received : (ServerInterceptor.receiveRequestServiceContexts referencePlatform environment
      (legacyRequest credential) (.arrival served)).1 = .ok () := by decide +kernel
  have dispatched : (ServerInterceptor.getDispatcherConnection environment (legacyRequest credential)
      credential.bus credential.login (.arrival served)).1 = .ok 0 := by decide +kernel
  have judged : ServerInterceptor.receiveRequestServiceContexts referencePlatform environment
      (legacyRequest credential) (.arrival served) =
        ServerInterceptor.handleCredential referencePlatform environment (legacyRequest credential)
          .legacy credential (.arrival served) :=
    ServerInterceptor.receiveRequestServiceContexts_carrying ReferencePlatform.codecInverts
      ReferencePlatform.codecRefuses _ _ _ _
  rw [judged] at received
  have handled := Action.eq_of_fst received
  obtain ⟨d, ref, caller, after, -, final⟩ := ServerInterceptor.handleCredential_ok_iff.mp handled
  refine ⟨credential, _, _,
    ServerInterceptor.getCredential_carrying ReferencePlatform.codecInverts _ _ _,
    Action.eq_of_fst dispatched, judged.trans handled, ?_⟩
  rw [← final]
  rfl

/-- The reset of a peer that speaks version 2.0 alone. -/
def legacyOffer : ServiceContexts :=
  Function.update (fun _ => none) Protocol.legacy.credentialContextId
    (some (referencePlatform.encodeValue (.legacyCredentialReset
      ⟨ascii "r", 7, ReferencePlatform.pad 256 (List.replicate 16 4)⟩)))

def legacySession : SecretSession := ⟨7, ascii "r", [], .replicate 16 4, 0, true⟩

theorem resetSession_legacyOffer :
    resetSession referencePlatform ⟨[2]⟩ legacyOffer = .ok legacySession := by decide +kernel

/-- A request to this peer. -/
def clientRequest : ClientRequest := ⟨ascii "op", []⟩

/-- The client once it has the session, and once it has found it for the next request. -/
def offered : Orb := (installSession referencePlatform clientRequest 0 legacyOffer orb).2

def looked : Orb := (getSession referencePlatform clientRequest 0 offered).2

theorem getSession_offered : getSession referencePlatform clientRequest 0 offered =
    (.ok (some (ascii "r", legacySession)), looked) :=
  Action.eq_of_fst (by decide +kernel)

end Reference

open Reference in
/-- A peer that sends a session of version 2.1. -/
theorem legacyDisabled_offer :
    ∃ s, Run (legacyMachine referencePlatform 0)
        [.reset ⟨[2]⟩ ClientInterceptor.Reference.offer, .other] s ∧
      Disabled referencePlatform 0 (.reset ⟨[2]⟩ ClientInterceptor.Reference.offer) := by
  have answered := run_orb.step
    (.reset clientRequest ClientInterceptor.Reference.offer : LegacyStep referencePlatform 0 _ _ _)
  refine ⟨_, answered, (legacyDisabled_iff ReferencePlatform.codecRefuses answered).mpr ?_ _
    List.mem_cons_self⟩
  simp [Avoids, ClientInterceptor.Reference.offer]

open Reference in
open ServerInterceptor.Reference (environment) in
/-- A credential of version 2.0 is accepted, a session of version 2.0 is installed, and the facet that
the connection does not have is called. -/
theorem version_spoken_all_the_same :
    (∃ history s, Run (legacyMachine referencePlatform 0) history s ∧ ∃ world request orb,
      .received world request orb ∈ history ∧
      AcceptedLegacy referencePlatform 0 world request orb) ∧
    (∃ history s, Run (legacyMachine referencePlatform 0) history s ∧
      (∃ key contexts session, .reset key contexts ∈ history ∧
        resetSession referencePlatform key contexts = .ok session ∧ session.isLegacy = true) ∧
      ∃ session chain, .signing session chain none ∈ history ∧
        usedProtocol session chain = .legacy) := by
  constructor
  · have first : LegacyStep referencePlatform 0 (during (fun _ => none) orb)
        (.received environment (legacyRequest ServerInterceptor.Reference.firstCredential) orb)
        (during (fun _ => none) served) :=
      received_step ReferencePlatform.codecRefuses (fun _ registered => by cases registered) orb
    have second : LegacyStep referencePlatform 0 (during (fun _ => none) served)
        (.received environment (legacyRequest credential) served) _ :=
      received_step ReferencePlatform.codecRefuses (fun _ registered => by cases registered) served
    exact ⟨_, _, (run_orb.step first).step second, _, _, _, List.mem_cons_self, acceptedLegacy⟩
  · have answered : LegacyStep referencePlatform 0 (during (fun _ => none) orb)
        (.reset ⟨[2]⟩ legacyOffer) (during (fun _ => none) offered) :=
      .reset clientRequest legacyOffer
    have alone : getJoinedChain referencePlatform 0 { looked with piCurrent := fun _ => .empty } =
        .ok (.none referencePlatform) := rfl
    have read : LegacyStep referencePlatform 0 (during (fun _ => none) offered) .other
        ((during (fun _ => none) looked).send 0 (some (legacySession, .none referencePlatform))) :=
      read_step rfl getSession_offered alone
    have reading := (run_orb.step answered).step read
    have missed : (looked.chainCache .legacy).find (chainKey referencePlatform legacySession
        (.none referencePlatform) (ascii "s")) = none := by decide +kernel
    have signs : LegacyStep referencePlatform 0
        ((during (fun _ => none) looked).send 0 (some (legacySession, .none referencePlatform)))
        (.signing legacySession (.none referencePlatform) (looked.connections 0).legacyAccessControl)
        (during (fun _ => none) looked) := sign_step rfl (ascii "s") (by decide) missed
    have nil := (unsupported_of_run reading).accessControl
    rw [orb_send_during] at nil
    rw [nil] at signs
    refine ⟨_, _, reading.step signs, ⟨_, _, _, ?_, resetSession_legacyOffer, rfl⟩, _, _,
      List.mem_cons_self, rfl⟩
    simp

end LegacySupport

end OpenBus
