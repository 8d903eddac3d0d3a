import OpenBus.Soundness.Handshake

/-! # What a malformed reset does

A reset is what the peer makes it. A reset of version 2.1 is refused if its challenge cannot be
decrypted, one of version 2.0 if it is no reset at all; the branches do not catch what the other one
does, and neither looks at the length of what has been decrypted before it copies sixteen octets.
-/

namespace OpenBus

open Machine ClientInterceptor Handshake

namespace ResetContainment

variable {platform : Platform} {request : ClientRequest} {ref : ConnRef}

/-- A session that a reset offers, with the whole of the challenge for its secret. -/
inductive Offers (platform : Platform) (key : PrivateKey) (contexts : ServiceContexts) :
    SecretSession → Prop
  | current {data : OctetSeq} {any : Any} {secret : Secret}
      (context : contexts Protocol.current.credentialContextId = some data)
      (decoded : platform.decodeValue data .credentialReset = .ok any)
      (plain : platform.decrypt key any.extractCredentialReset.challenge.toList =
        .ok secret.toList) :
      Offers platform key contexts
        ⟨any.extractCredentialReset.session, any.extractCredentialReset.target,
          any.extractCredentialReset.entity, secret, 0, false⟩
  | legacy {data : OctetSeq} {any : Any} {secret : Secret}
      (context : contexts Protocol.legacy.credentialContextId = some data)
      (decoded : platform.decodeValue data .legacyCredentialReset = .ok any)
      (plain : platform.decrypt key any.extractLegacyCredentialReset.challenge.toList =
        .ok secret.toList) :
      Offers platform key contexts
        ⟨any.extractLegacyCredentialReset.session, any.extractLegacyCredentialReset.target, [],
          secret, 0, true⟩

/-- A reset answered to a request of the connection is either followed or refused. -/
inductive Contained (platform : Platform) (request : ClientRequest) (ref : ConnRef)
    (contexts : ServiceContexts) (conn : Connection) : Except Exception Unit × Orb → Prop
  | followed {t : Orb} {session : SecretSession}
      (offered : Offers platform conn.key contexts session)
      (profile : (t.connections ref).profile2login.find (sessionKey platform request) =
        some session.remoteId)
      (found : (t.connections ref).login2session.find session.remoteId = some session) :
      Contained platform request ref contexts conn (.error .forwardRequest, t)
  | refused {t : Orb} (profiles : (t.connections ref).profile2login = conn.profile2login)
      (sessions : (t.connections ref).login2session = conn.login2session) :
      Contained platform request ref contexts conn (.error (.noPermission invalidRemoteCode), t)

/-- Both caches of a connection have a place for an entry. -/
def HasPlaces (conn : Connection) : Prop :=
  0 < conn.profile2login.capacity ∧ 0 < conn.login2session.capacity

/-- A challenge whose decryption makes a secret, for which the caches have a place. -/
def Acceptable (platform : Platform) (conn : Connection) (challenge : EncryptedBlock) : Prop :=
  (∃ secret : Secret, platform.decrypt conn.key challenge.toList = .ok secret.toList) ∧
    HasPlaces conn

/-- The contexts of a reply that lead to one of the two reactions. -/
def ResetReadable (platform : Platform) (conn : Connection) (contexts : ServiceContexts) : Prop :=
  match contexts Protocol.current.credentialContextId with
  | some data => ∃ any, platform.decodeValue data .credentialReset = .ok any ∧
      ((∃ e, platform.decrypt conn.key any.extractCredentialReset.challenge.toList = .error e) ∨
        Acceptable platform conn any.extractCredentialReset.challenge)
  | none =>
      match contexts Protocol.legacy.credentialContextId with
      | some data => ∀ any, platform.decodeValue data .legacyCredentialReset = .ok any →
          Acceptable platform conn any.extractLegacyCredentialReset.challenge
      | none => True

section Reaction

variable {contexts : ServiceContexts} {orb : Orb}

theorem installSession_of_error {e : Exception}
    (failed : resetSession platform (orb.connections ref).key contexts = .error e) :
    installSession platform request ref contexts orb = (.error e, orb) := by
  simp [installSession, Action.bind_apply, failed]

theorem installSession_of_ok {session : SecretSession}
    (read : resetSession platform (orb.connections ref).key contexts = .ok session) :
    installSession platform request ref contexts orb =
      (.error .forwardRequest, installed platform request ref session orb) := by
  simp only [installSession, Action.bind_apply, Action.get_apply, Action.ofExcept_apply, read]
  rfl

theorem contained_of_error_iff {e : Exception} (other : e ≠ .forwardRequest)
    (failed : resetSession platform (orb.connections ref).key contexts = .error e) :
    Contained platform request ref contexts (orb.connections ref)
        (installSession platform request ref contexts orb) ↔
      e = .noPermission invalidRemoteCode := by
  rw [installSession_of_error failed]
  constructor
  · rintro (⟨-, -, -⟩ | _)
    · exact absurd rfl other
    · rfl
  · rintro rfl
    exact .refused rfl rfl

/-- A session is followed if it is what the challenge says, and finds its places. -/
theorem contained_of_ok_iff {session : SecretSession}
    (read : resetSession platform (orb.connections ref).key contexts = .ok session) :
    Contained platform request ref contexts (orb.connections ref)
        (installSession platform request ref contexts orb) ↔
      Offers platform (orb.connections ref).key contexts session ∧
        HasPlaces (orb.connections ref) := by
  rw [installSession_of_ok read]
  have conn : (installed platform request ref session orb).connections ref =
      { orb.connections ref with
        profile2login := (orb.connections ref).profile2login.insert
          (sessionKey platform request) session.remoteId
        login2session := (orb.connections ref).login2session.insert session.remoteId session } :=
    connections_installed session orb
  constructor
  · rintro ⟨offered, profile, found⟩
    rw [conn] at profile found
    simp only [LRUCache.find_insert_self] at profile
    split at profile
    · next profiles =>
      obtain same := Option.some.inj profile
      simp only [← same, LRUCache.find_insert_self] at found
      split at found
      · next sessions =>
        obtain rfl := Option.some.inj found
        exact ⟨offered, profiles, sessions⟩
      · cases found
    · cases profile
  · rintro ⟨offered, profiles, sessions⟩
    refine .followed offered ?_ ?_ <;> rw [conn] <;>
      simp [LRUCache.find_insert_self, profiles, sessions]

end Reaction

section Challenge

variable {contexts : ServiceContexts} {key : PrivateKey} {data plain : OctetSeq} {any : Any}
  {secret : Secret}

/-- Sixteen octets are copied; they are the whole of what has been decrypted if anything is. -/
theorem exists_eq_toList_iff (copied : memcpy 16 plain = .ok secret) :
    (∃ other : Secret, plain = other.toList) ↔ plain = secret.toList := by
  constructor
  · rintro ⟨other, rfl⟩
    rw [memcpy_toList, Except.ok.injEq] at copied
    rw [copied]
  · exact fun same => ⟨secret, same⟩

theorem offers_current_iff
    (context : contexts Protocol.current.credentialContextId = some data)
    (decoded : platform.decodeValue data .credentialReset = .ok any)
    (decrypted : platform.decrypt key any.extractCredentialReset.challenge.toList = .ok plain) :
    Offers platform key contexts
        ⟨any.extractCredentialReset.session, any.extractCredentialReset.target,
          any.extractCredentialReset.entity, secret, 0, false⟩ ↔ plain = secret.toList := by
  constructor
  · generalize same : SecretSession.mk _ _ _ secret 0 false = session
    intro offers
    cases offers with
    | current context' decoded' plain' =>
      rw [context] at context'
      cases context'
      rw [decoded] at decoded'
      cases decoded'
      rw [decrypted] at plain'
      cases same
      exact Except.ok.inj plain'
    | legacy => simp at same
  · rintro rfl
    exact .current context decoded decrypted

theorem offers_legacy_iff
    (context : contexts Protocol.legacy.credentialContextId = some data)
    (decoded : platform.decodeValue data .legacyCredentialReset = .ok any)
    (decrypted : platform.decrypt key any.extractLegacyCredentialReset.challenge.toList =
      .ok plain) :
    Offers platform key contexts
        ⟨any.extractLegacyCredentialReset.session, any.extractLegacyCredentialReset.target, [],
          secret, 0, true⟩ ↔ plain = secret.toList := by
  constructor
  · generalize same : SecretSession.mk _ _ _ secret 0 true = session
    intro offers
    cases offers with
    | current => simp at same
    | legacy context' decoded' plain' =>
      rw [context] at context'
      cases context'
      rw [decoded] at decoded'
      cases decoded'
      rw [decrypted] at plain'
      cases same
      exact Except.ok.inj plain'
  · rintro rfl
    exact .legacy context decoded decrypted

end Challenge

section Versions

variable {contexts : ServiceContexts} {orb : Orb} {data : OctetSeq}

/-- What becomes of a challenge that has been decrypted, in either version. -/
theorem contained_of_decrypted_iff {plain : OctetSeq} {session : Secret → SecretSession}
    (reset : resetSession platform (orb.connections ref).key contexts =
      (memcpy 16 plain).map session)
    (offers : ∀ secret, Offers platform (orb.connections ref).key contexts (session secret) ↔
      plain = secret.toList) :
    Contained platform request ref contexts (orb.connections ref)
        (installSession platform request ref contexts orb) ↔
      (∃ secret : Secret, plain = secret.toList) ∧ HasPlaces (orb.connections ref) := by
  cases copied : memcpy 16 plain with
  | error e =>
    obtain rfl := eq_fault_of_memcpy copied
    rw [copied] at reset
    rw [contained_of_error_iff (by simp) reset]
    refine iff_of_false (fun raised => by cases raised) ?_
    rintro ⟨⟨secret, rfl⟩, -⟩
    rw [memcpy_toList] at copied
    cases copied
  | ok secret =>
    rw [copied] at reset
    rw [contained_of_ok_iff reset, offers, exists_eq_toList_iff copied]

theorem resetSession_of_current {key : PrivateKey} {any : Any} {plain : OctetSeq}
    (context : contexts Protocol.current.credentialContextId = some data)
    (decoded : platform.decodeValue data .credentialReset = .ok any)
    (decrypted : platform.decrypt key any.extractCredentialReset.challenge.toList = .ok plain) :
    resetSession platform key contexts = (memcpy 16 plain).map fun secret =>
      ⟨any.extractCredentialReset.session, any.extractCredentialReset.target,
        any.extractCredentialReset.entity, secret, 0, false⟩ := by
  cases copied : memcpy 16 plain with
  | error e =>
    obtain rfl := eq_fault_of_memcpy copied
    simp [resetSession, currentReset, context, decoded, decrypted, copied, bind, Except.bind,
      Except.map, pure, Except.pure]
  | ok secret =>
    simp [resetSession, currentReset, context, decoded, decrypted, copied, bind, Except.bind,
      Except.map, pure, Except.pure]

/-- Without a context of version 2.1, that of version 2.0 is read. -/
theorem resetSession_of_absent {key : PrivateKey}
    (absent : contexts Protocol.current.credentialContextId = none) :
    resetSession platform key contexts =
      match legacyReset platform key contexts with
      | .ok session => .ok session
      | .error e => .error (if e.isCorba then .noPermission invalidRemoteCode else e) := by
  have missing : currentReset platform key contexts =
      .error (.system .badParam 0 .completedNo) := by
    simp [currentReset, absent, throw, throwThe, MonadExceptOf.throw]
  cases read : legacyReset platform key contexts with
  | ok session => rw [resetSession, missing, read]
  | error e => rw [resetSession, missing, read]

theorem resetSession_of_legacy {key : PrivateKey} {any : Any} {plain : OctetSeq}
    (absent : contexts Protocol.current.credentialContextId = none)
    (context : contexts Protocol.legacy.credentialContextId = some data)
    (decoded : platform.decodeValue data .legacyCredentialReset = .ok any)
    (decrypted : platform.decrypt key any.extractLegacyCredentialReset.challenge.toList =
      .ok plain) :
    resetSession platform key contexts = (memcpy 16 plain).map fun secret =>
      ⟨any.extractLegacyCredentialReset.session, any.extractLegacyCredentialReset.target, [],
        secret, 0, true⟩ := by
  cases copied : memcpy 16 plain with
  | error e =>
    obtain rfl := eq_fault_of_memcpy copied
    simp [resetSession_of_absent absent, legacyReset, context, decoded, decrypted, copied, bind,
      Except.bind, Except.map, Exception.isCorba]
  | ok secret =>
    simp [resetSession_of_absent absent, legacyReset, context, decoded, decrypted, copied, bind,
      Except.bind, Except.map, pure, Except.pure]

theorem contained_current_iff (codec : platform.CodecRefuses) (decrypts : platform.DecryptRefuses)
    (context : contexts Protocol.current.credentialContextId = some data) :
    Contained platform request ref contexts (orb.connections ref)
        (installSession platform request ref contexts orb) ↔
      ∃ any, platform.decodeValue data .credentialReset = .ok any ∧
        ((∃ e, platform.decrypt (orb.connections ref).key
            any.extractCredentialReset.challenge.toList = .error e) ∨
          Acceptable platform (orb.connections ref) any.extractCredentialReset.challenge) := by
  cases decoded : platform.decodeValue data .credentialReset with
  | error e =>
    have mismatch := codec _ _ _ decoded
    have reset : resetSession platform (orb.connections ref).key contexts = .error e := by
      rcases mismatch with rfl | rfl <;>
        simp [resetSession, currentReset, context, decoded, bind, Except.bind]
    rw [contained_of_error_iff (by rcases mismatch with rfl | rfl <;> simp) reset]
    refine iff_of_false ?_ (by simp)
    rcases mismatch with rfl | rfl <;> simp [Exception.noPermission]
  | ok any =>
    simp only [Except.ok.injEq, exists_eq_left', Acceptable]
    cases decrypted : platform.decrypt (orb.connections ref).key
      any.extractCredentialReset.challenge.toList with
    | error e =>
      obtain rfl := decrypts _ _ _ decrypted
      have reset : resetSession platform (orb.connections ref).key contexts =
          .error (.noPermission invalidRemoteCode) := by
        simp [resetSession, currentReset, context, decoded, decrypted, bind, Except.bind, throw,
          throwThe, MonadExceptOf.throw, Exception.isCatchable, Exception.noPermission]
      rw [contained_of_error_iff (by simp [Exception.noPermission]) reset]
      simp
    | ok plain =>
      have reset := resetSession_of_current context decoded decrypted
      rw [contained_of_decrypted_iff reset fun secret =>
        offers_current_iff context decoded decrypted]
      simp

theorem contained_legacy_iff (codec : platform.CodecRefuses) (decrypts : platform.DecryptRefuses)
    (absent : contexts Protocol.current.credentialContextId = none)
    (context : contexts Protocol.legacy.credentialContextId = some data) :
    Contained platform request ref contexts (orb.connections ref)
        (installSession platform request ref contexts orb) ↔
      ∀ any, platform.decodeValue data .legacyCredentialReset = .ok any →
        Acceptable platform (orb.connections ref)
          any.extractLegacyCredentialReset.challenge := by
  cases decoded : platform.decodeValue data .legacyCredentialReset with
  | error e =>
    have mismatch := codec _ _ _ decoded
    have reset : resetSession platform (orb.connections ref).key contexts =
        .error (.noPermission invalidRemoteCode) := by
      rcases mismatch with rfl | rfl <;>
        simp [resetSession_of_absent absent, legacyReset, context, decoded, bind, Except.bind,
          Exception.isCorba]
    rw [contained_of_error_iff (by simp [Exception.noPermission]) reset]
    simp
  | ok any =>
    simp only [Except.ok.injEq, forall_eq', Acceptable]
    cases decrypted : platform.decrypt (orb.connections ref).key
      any.extractLegacyCredentialReset.challenge.toList with
    | error e =>
      -- The exception of the library is none of CORBA, which the handler is for.
      obtain rfl := decrypts _ _ _ decrypted
      have reset : resetSession platform (orb.connections ref).key contexts =
          .error .invalidPrivateKey := by
        simp [resetSession_of_absent absent, legacyReset, context, decoded, decrypted, bind,
          Except.bind, Exception.isCorba]
      rw [contained_of_error_iff (by simp) reset]
      simp [Exception.noPermission]
    | ok plain =>
      have reset := resetSession_of_legacy absent context decoded decrypted
      rw [contained_of_decrypted_iff reset fun secret =>
        offers_legacy_iff context decoded decrypted]
      simp

theorem contained_absent (absent : contexts Protocol.current.credentialContextId = none)
    (missing : contexts Protocol.legacy.credentialContextId = none) :
    Contained platform request ref contexts (orb.connections ref)
      (installSession platform request ref contexts orb) := by
  have reset : resetSession platform (orb.connections ref).key contexts =
      .error (.noPermission invalidRemoteCode) := by
    simp [resetSession_of_absent absent, legacyReset, missing, throw, throwThe,
      MonadExceptOf.throw, Exception.isCorba]
  exact (contained_of_error_iff (by simp [Exception.noPermission]) reset).mpr rfl

end Versions

/-- A reset is followed or refused exactly if the reply and the caches meet the condition. -/
theorem receiveException_contained_iff (codec : platform.CodecRefuses)
    (decrypts : platform.DecryptRefuses) (world : ClientWorld) (contexts : ServiceContexts)
    {id : Uuid} {orb : Orb} (attends : ignoreRequest orb = false)
    (saved : (orb.piCurrent .requestId).toUuid? = some id) (named : id ≠ .replicate 16 0)
    (found : orb.requestId2conn id = some ref) :
    Contained platform request ref contexts (orb.connections ref)
        (receiveException platform world request
          ⟨.noPermission, invalidCredentialCode, .completedNo, contexts⟩ orb) ↔
      ResetReadable platform (orb.connections ref) contexts := by
  rw [receiveException_invalidCredential attends saved named found]
  -- What is forgotten of the request concerns no connection.
  change Contained platform request ref contexts ((forgotten id orb).connections ref)
      (installSession platform request ref contexts (forgotten id orb)) ↔
    ResetReadable platform ((forgotten id orb).connections ref) contexts
  unfold ResetReadable
  cases context : contexts Protocol.current.credentialContextId with
  | some data => exact contained_current_iff codec decrypts context
  | none =>
    cases other : contexts Protocol.legacy.credentialContextId with
    | some data => exact contained_legacy_iff codec decrypts context other
    | none => exact iff_of_true (contained_absent context other) trivial

/-- A client that waits for the reply to a request over its connection. -/
def waiting : Orb :=
  { Orb.init (fun _ => .init ⟨[2]⟩ true) fun _ => true with
    requestId2conn := fun _ => some 0 }.setSlot .requestId (.uuid (.replicate 16 1))

def waitingRequest : ClientRequest := ⟨ascii "op", ascii "profile"⟩

theorem decryptRefuses_referencePlatform : referencePlatform.DecryptRefuses := by
  intro key data e refused
  cases refused

/-- The challenge of a session of version 2.1. -/
def offered : CredentialReset :=
  ⟨ascii "s", ascii "S", 5, ReferencePlatform.pad 256 (List.replicate 16 4)⟩

def offering : ServiceContexts :=
  Function.update (fun _ => none) Protocol.current.credentialContextId
    (some (referencePlatform.encodeValue (.credentialReset offered)))

theorem resetReadable_offering : ResetReadable referencePlatform (waiting.connections 0) offering := by
  refine ⟨.credentialReset offered, ReferencePlatform.codecInverts (.credentialReset offered), ?_⟩
  exact .inr ⟨⟨.replicate 16 4, by decide +kernel⟩, by decide, by decide⟩

theorem receiveException_contained_iff_waiting :
    Contained referencePlatform waitingRequest 0 offering (waiting.connections 0)
      (receiveException referencePlatform ClientInterceptor.Reference.environment waitingRequest
        ⟨.noPermission, invalidCredentialCode, .completedNo, offering⟩ waiting) :=
  (receiveException_contained_iff ReferencePlatform.codecRefuses decryptRefuses_referencePlatform _ _
    rfl rfl (by decide) rfl).mpr resetReadable_offering

/-- The exception of the codec comes out where the context of version 2.1 holds something else. -/
theorem malformed_reset_escapes :
    (receiveException referencePlatform ClientInterceptor.Reference.environment waitingRequest
        ⟨.noPermission, invalidCredentialCode, .completedNo, fun _ => some [0]⟩ waiting).1 =
      .error .typeMismatch ∧
    ¬ Contained referencePlatform waitingRequest 0 (fun _ => some [0]) (waiting.connections 0)
      (receiveException referencePlatform ClientInterceptor.Reference.environment waitingRequest
        ⟨.noPermission, invalidCredentialCode, .completedNo, fun _ => some [0]⟩ waiting) := by
  have escaped : (receiveException referencePlatform ClientInterceptor.Reference.environment
      waitingRequest ⟨.noPermission, invalidCredentialCode, .completedNo, fun _ => some [0]⟩
      waiting).1 = .error .typeMismatch := by rfl
  refine ⟨escaped, fun contained => ?_⟩
  rw [Action.eq_of_fst escaped] at contained
  cases contained

end ResetContainment

end OpenBus
