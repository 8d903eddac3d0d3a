import OpenBus.Soundness.ResetContainment

/-! # Replies with a system exception

`receive_exception` takes every system exception for a `NO_PERMISSION` and looks at the completion
status and the minor code only. The exceptions of the protocol are recognized by these two, and so
are others which happen to have them: whatever their type is, they make the client forward the
request, discard its login or raise `NO_PERMISSION` in their place.
-/

namespace OpenBus

open Machine ClientInterceptor Handshake

namespace SystemReplies

variable {platform : Platform} {world : ClientWorld} {request : ClientRequest} {ref : ConnRef}

/-- The minor codes of `NO_PERMISSION` which a client reacts to. -/
def reactionCodes : List ULong :=
  [invalidCredentialCode, invalidLoginCode, noLoginCode, unavailableBusCode, invalidTargetCode,
    invalidRemoteCode]

/-- The completion status and the minor code are those of an exception of the protocol. -/
def LooksProtocol (reply : ExceptionReply) : Prop :=
  reply.completed = .completedNo ∧ reply.minor ∈ reactionCodes

/-- The reply is an exception of the protocol. -/
def IsProtocol (reply : ExceptionReply) : Prop :=
  reply.kind = .noPermission ∧ LooksProtocol reply

/-- The exception reaches the caller, and no connection has changed. -/
structure PassedOn (reply : ExceptionReply) (s : Orb) (outcome : Except Exception Unit × Orb) :
    Prop where
  result : outcome.1 = .ok () ∨ outcome.1 = .error reply.exception
  connections : outcome.2.connections = s.connections

/-- The interceptor attends to the request, which has been given an identifier. -/
def Attended (orb : Orb) (id : Uuid) : Prop :=
  ignoreRequest orb = false ∧ (orb.piCurrent .requestId).toUuid? = some id ∧ id ≠ .replicate 16 0

/-- The connection of a request with an identifier has been saved, as `send_request` does. -/
def Remembers (orb : Orb) : Prop :=
  ∀ id, Attended orb id → ∃ ref, orb.requestId2conn id = some ref

theorem remembers_of_sent {invocation t : Invocation} (attends : ignoreRequest invocation.orb = false)
    (sent : sendRequest platform world request invocation = (.ok (), t)) : Remembers t.orb := by
  obtain ⟨ref, found, login, logged, u, -, -, -, -, rfl⟩ := (sendRequest_ok_iff attends).mp sent
  rintro id ⟨-, saved, -⟩
  have slot : ((u.updateOrb (saveRequestConnection world ref)).orb.piCurrent .requestId).toUuid? =
      some world.requestId := by
    simp [Invocation.updateOrb, saveRequestConnection, Orb.setSlot, Any.toUuid?]
  obtain rfl : world.requestId = id := Option.some.inj (slot.symm.trans saved)
  refine ⟨ref, ?_⟩
  simp [Invocation.updateOrb, saveRequestConnection, Orb.setSlot]

/-- What the reactions raise is no system exception other than `NO_PERMISSION`. -/
def IsReaction (e : Exception) : Prop :=
  ∀ kind minor completed, e = .system kind minor completed → kind = .noPermission

theorem isReaction_noPermission (minor : ULong) : IsReaction (.noPermission minor) := by
  rintro kind minor' completed ⟨⟩
  rfl

theorem isReaction_of_not_isSystem {e : Exception} (other : e.isSystem = false) :
    IsReaction e := by
  rintro kind minor completed rfl
  cases other

/-- An exception that is not CORBA's, or that is replaced if it is. -/
theorem isReaction_replaced (e : Exception) (minor : ULong) :
    IsReaction (if e.isCorba then .noPermission minor else e) := by
  cases e <;> first
    | exact isReaction_noPermission minor
    | exact isReaction_of_not_isSystem rfl

/-- A reply without a context of version 2.1 is tried with the other one. -/
theorem currentReset_error (codec : platform.CodecRefuses) {key : PrivateKey}
    {contexts : ServiceContexts} {e : Exception}
    (failed : currentReset platform key contexts = .error e) :
    e = .system .badParam 0 .completedNo ∨ IsReaction e := by
  unfold currentReset at failed
  cases context : contexts Protocol.current.credentialContextId with
  | none =>
    rw [context] at failed
    cases failed
    exact .inl rfl
  | some data =>
    right
    cases decoded : platform.decodeValue data .credentialReset with
    | error mismatch =>
      simp only [context, decoded] at failed
      cases failed
      rcases codec _ _ _ decoded with rfl | rfl <;> exact isReaction_of_not_isSystem rfl
    | ok any =>
      cases decrypted : platform.decrypt key any.extractCredentialReset.challenge.toList with
      | error refusal =>
        simp only [context, decoded, decrypted, bind, Except.bind] at failed
        cases failed
        cases refusal <;> first
          | exact isReaction_noPermission invalidRemoteCode
          | exact isReaction_of_not_isSystem rfl
      | ok plain =>
        cases copied : memcpy 16 plain with
        | error overrun =>
          obtain rfl := eq_fault_of_memcpy copied
          simp [context, decoded, decrypted, copied, bind, Except.bind, pure, Except.pure] at failed
          subst failed
          exact isReaction_of_not_isSystem rfl
        | ok secret =>
          simp [context, decoded, decrypted, copied, bind, Except.bind, pure, Except.pure] at failed

theorem isReaction_resetSession (codec : platform.CodecRefuses) {key : PrivateKey}
    {contexts : ServiceContexts} {e : Exception}
    (failed : resetSession platform key contexts = .error e) : IsReaction e := by
  unfold resetSession at failed
  cases current : currentReset platform key contexts with
  | ok session =>
    rw [current] at failed
    cases failed
  | error e' =>
    rw [current] at failed
    rcases currentReset_error codec current with rfl | reaction
    · dsimp only at failed
      split at failed <;> cases failed
      exact isReaction_replaced _ _
    · split at failed
      · cases failed
      · next badParam =>
        cases badParam
        cases reaction _ _ _ rfl
      · next other =>
        cases other
        cases failed
        exact reaction

theorem installSession_raises (codec : platform.CodecRefuses) (contexts : ServiceContexts)
    (orb : Orb) :
    ∃ e, (installSession platform request ref contexts orb).1 = .error e ∧ IsReaction e := by
  cases read : resetSession platform (orb.connections ref).key contexts with
  | ok session =>
    rw [ResetContainment.installSession_of_ok read]
    exact ⟨.forwardRequest, rfl, isReaction_of_not_isSystem rfl⟩
  | error e =>
    rw [ResetContainment.installSession_of_error read]
    exact ⟨e, rfl, isReaction_resetSession codec read⟩

theorem isReaction_reaction {answer : Except Exception ULong} {e : Exception}
    (raised : reaction answer = .raise e) : IsReaction e := by
  unfold reaction at raised
  split at raised
  · cases raised
    split
    · exact isReaction_noPermission _
    · exact isReaction_of_not_isSystem rfl
  · split at raised <;> cases raised
    exact isReaction_noPermission _
  · cases raised
    exact isReaction_replaced _ _

theorem discardLogin_fst (invalid : LoginInfo) (orb : Orb) :
    (discardLogin ref invalid orb).1 = .ok () := by
  simp only [discardLogin, Action.bind_apply, Action.get_apply]
  split <;> rfl

theorem checkLogin_raises (orb : Orb) :
    ∃ e, (checkLogin world ref orb).1 = .error e ∧ IsReaction e := by
  simp only [checkLogin, Action.bind_apply, Action.get_apply]
  split
  · exact ⟨_, rfl, isReaction_noPermission _⟩
  · simp only [Action.bind_apply, Action.attempt_apply]
    cases reacts : reaction
        (askValidity world ((orb.connections ref).loginInfo.getD default) orb).1 with
    | raise e => exact ⟨e, rfl, isReaction_reaction reacts⟩
    | compare =>
      refine ⟨.forwardRequest, ?_, isReaction_of_not_isSystem rfl⟩
      simp only [Action.bind_apply]
      rw [Action.eq_of_fst (discardLogin_fst _ _)]
      rfl

section Replies

variable {id : Uuid} {orb : Orb} {reply : ExceptionReply}

theorem passedOn_of_unattended (unattended : ∀ id, ¬ Attended orb id) :
    PassedOn reply orb (receiveException platform world request reply orb) := by
  have raised : receiveException platform world request reply orb =
      (.error reply.exception, orb) := by
    simp only [receiveException, Action.bind_apply, Action.get_apply]
    by_cases ignored : ignoreRequest orb = true
    · rw [if_pos ignored]
      rfl
    · rw [if_neg ignored]
      cases saved : (orb.piCurrent .requestId).toUuid? with
      | none => rfl
      | some id =>
        have nil : id = .replicate 16 0 := by
          by_contra named
          exact unattended id ⟨by simpa using ignored, saved, named⟩
        simp only [if_pos nil]
        rfl
  rw [raised]
  exact ⟨.inr rfl, rfl⟩

theorem passedOn_of_not_looksProtocol (attended : Attended orb id)
    (found : orb.requestId2conn id = some ref) (other : ¬ LooksProtocol reply) :
    PassedOn reply orb (receiveException platform world request reply orb) := by
  obtain ⟨attends, saved, named⟩ := attended
  rw [receiveException_of_saved attends saved named found]
  split
  · exact ⟨.inl rfl, rfl⟩
  · next no =>
    have unlisted : reply.minor ∉ reactionCodes := fun listed => other ⟨not_not.mp no, listed⟩
    simp only [reactionCodes, List.mem_cons, List.not_mem_nil, or_false, not_or] at unlisted
    obtain ⟨credential, login, noLogin, bus, target, remote⟩ := unlisted
    rw [if_neg credential, if_neg login, if_neg (by simp [noLogin, bus, target, remote])]
    exact ⟨.inr rfl, rfl⟩

/-- An exception that looks like one of the protocol is replaced. -/
theorem raises_of_looksProtocol (codec : platform.CodecRefuses) (attended : Attended orb id)
    (found : orb.requestId2conn id = some ref) (looks : LooksProtocol reply) :
    ∃ e, (receiveException platform world request reply orb).1 = .error e ∧ IsReaction e := by
  obtain ⟨attends, saved, named⟩ := attended
  obtain ⟨no, listed⟩ := looks
  rw [receiveException_of_saved attends saved named found, if_neg (not_not.mpr no)]
  split
  · exact installSession_raises codec _ _
  · next credential =>
    split
    · exact checkLogin_raises _
    · next login =>
      simp only [reactionCodes, List.mem_cons, List.not_mem_nil, or_false, credential, login,
        false_or] at listed
      rw [if_pos listed]
      exact ⟨_, rfl, isReaction_noPermission _⟩

theorem not_passedOn_of_looksProtocol (codec : platform.CodecRefuses) (attended : Attended orb id)
    (found : orb.requestId2conn id = some ref) (looks : LooksProtocol reply)
    (other : reply.kind ≠ .noPermission) :
    ¬ PassedOn reply orb (receiveException platform world request reply orb) := by
  intro passed
  have replaced : ∃ e, (receiveException platform world request reply orb).1 = .error e ∧
      IsReaction e := raises_of_looksProtocol codec attended found looks
  obtain ⟨e, raised, reaction⟩ := replaced
  rcases passed.result with returned | original
  · rw [returned] at raised
    cases raised
  · rw [original] at raised
    exact other (reaction _ _ _ (Except.error.inj raised).symm)

end Replies

/-- The exceptions that are none of the protocol are passed on, but for those of other types that
have its status and one of its codes, if the request is attended to. -/
theorem passedOn_iff (codec : platform.CodecRefuses) (world : ClientWorld) (reply : ExceptionReply)
    {orb : Orb} (remembers : Remembers orb) :
    (¬ IsProtocol reply → PassedOn reply orb (receiveException platform world request reply orb)) ↔
      reply.kind = .noPermission ∨ ¬ LooksProtocol reply ∨ ∀ id, ¬ Attended orb id := by
  constructor
  · intro passes
    by_contra misread
    push Not at misread
    obtain ⟨other, looks, id, attended⟩ := misread
    obtain ⟨ref, found⟩ := remembers id attended
    exact not_passedOn_of_looksProtocol codec attended found looks other
      (passes fun protocol => other protocol.1)
  · intro told foreign
    by_cases attended : ∃ id, Attended orb id
    · obtain ⟨id, attended⟩ := attended
      obtain ⟨ref, found⟩ := remembers id attended
      apply passedOn_of_not_looksProtocol attended found
      intro looks
      rcases told with noPermission | unlike | unattended
      · exact foreign ⟨noPermission, looks⟩
      · exact unlike looks
      · exact unattended id attended
    · exact passedOn_of_unattended (not_exists.mp attended)

/-- A reply that tells the client to try again later, with a minor code. -/
def transient (minor : ULong) : ExceptionReply :=
  ⟨.other (ascii "IDL:omg.org/CORBA/TRANSIENT:1.0"), minor, .completedNo, fun _ => none⟩

/-- The client once it has sent a request over its only connection. -/
def sending : Invocation := ClientInterceptor.Reference.sent ClientInterceptor.Reference.first

theorem remembers_sending : Remembers sending.orb := by
  have returned : (sendRequest referencePlatform ClientInterceptor.Reference.environment
      ClientInterceptor.Reference.call ⟨ClientInterceptor.Reference.first, fun _ => none⟩).1 =
        .ok () := by rfl
  exact remembers_of_sent (by rfl) (Action.eq_of_fst returned)

theorem passedOn_iff_transient :
    (¬ IsProtocol (transient 2) → PassedOn (transient 2) sending.orb
        (receiveException referencePlatform ClientInterceptor.Reference.environment
          ClientInterceptor.Reference.call (transient 2) sending.orb)) ↔
      (transient 2).kind = .noPermission ∨ ¬ LooksProtocol (transient 2) ∨
        ∀ id, ¬ Attended sending.orb id :=
  passedOn_iff ReferencePlatform.codecRefuses _ _ remembers_sending

/-- The caller is told `NO_PERMISSION` where the server has raised `TRANSIENT`. -/
theorem transient_replaced :
    ¬ IsProtocol (transient noLoginCode) ∧
      (receiveException referencePlatform ClientInterceptor.Reference.environment
        ClientInterceptor.Reference.call (transient noLoginCode) sending.orb).1 =
        .error (.noPermission invalidRemoteCode) ∧
      ¬ PassedOn (transient noLoginCode) sending.orb
        (receiveException referencePlatform ClientInterceptor.Reference.environment
          ClientInterceptor.Reference.call (transient noLoginCode) sending.orb) := by
  have replaced : (receiveException referencePlatform ClientInterceptor.Reference.environment
      ClientInterceptor.Reference.call (transient noLoginCode) sending.orb).1 =
        .error (.noPermission invalidRemoteCode) := by rfl
  have foreign : ¬ IsProtocol (transient noLoginCode) := by
    intro protocol
    cases protocol.1
  refine ⟨foreign, replaced, fun passed => ?_⟩
  rcases passed.result with returned | original
  · rw [replaced] at returned
    cases returned
  · rw [replaced] at original
    cases original

end SystemReplies

end OpenBus
