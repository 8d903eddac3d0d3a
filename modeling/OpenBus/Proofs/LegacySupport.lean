import OpenBus.Model.LegacySupport
import OpenBus.Model.SharedAuth
import OpenBus.Proofs.ServerInterceptor
import OpenBus.Proofs.Sessions

/-! # The operations where version 2.0 is spoken

The sections of a connection are steps, whatever its threads are about to send. A request over a
session makes its thread read the session and the chain before it has a chain signed, and the
operations that use the converter do so only where the flag is set.
-/

namespace OpenBus

open Machine

namespace LegacySupport

open ClientInterceptor

variable {platform : Platform} {world : ClientWorld} {request : ClientRequest} {ref : ConnRef}
  {sending : ℕ → Option (SecretSession × CallerChain)}

/-- The state of an ORB while its threads are at the same point. -/
def during (sending : ℕ → Option (SecretSession × CallerChain)) (orb : Orb) : Traffic :=
  ⟨orb, sending⟩

@[simp] theorem orb_send_during (orb : Orb) (thread : ℕ)
    (found : Option (SecretSession × CallerChain)) :
    ((during sending orb).send thread found).orb = orb := rfl

theorem leads_of_places {orb t : Orb} (same : legacyPlaces ref t = legacyPlaces ref orb) :
    Leads (legacyMachine platform ref) (during sending orb) (during sending t) :=
  .of_step (.other same)

theorem read_step {thread : ℕ} (idle : sending thread = none) {slots : SlotTable} {key : Identifier}
    {session : SecretSession} {chain : CallerChain} {orb t : Orb}
    (found : getSession platform request ref orb = (.ok (some (key, session)), t))
    (joined : getJoinedChain platform ref { t with piCurrent := slots } = .ok chain) :
    LegacyStep platform ref (during sending orb) .other
      ((during sending t).send thread (some (session, chain))) :=
  .read idle found joined

theorem send_none {thread : ℕ} (idle : sending thread = none)
    (found : Option (SecretSession × CallerChain)) (orb : Orb) :
    ((during sending orb).send thread found).send thread none = during sending orb := by
  simp [Traffic.send, during, ← idle]

theorem sign_step {thread : ℕ} (idle : sending thread = none) (login : Identifier)
    {session : SecretSession} {chain : CallerChain} {orb : Orb} (remote : session.remoteId ≠ busLogin)
    (missed : (orb.chainCache (usedProtocol session chain)).find
      (chainKey platform session chain login) = none) :
    LegacyStep platform ref ((during sending orb).send thread (some (session, chain)))
      (.signing session chain (chainSigner (usedProtocol session chain) (orb.connections ref)))
      (during sending orb) := by
  have signs : LegacyStep platform ref ((during sending orb).send thread (some (session, chain))) _
      (((during sending orb).send thread (some (session, chain))).send thread none) :=
    .sign login (Traffic.sending_send_self ..) remote missed
  rw [send_none idle] at signs
  exact signs

variable (platform ref sending) in
theorem legacySections : Sections (legacyMachine platform ref) (during sending) platform ref where
  quiet same := leads_of_places (by simp only [legacyPlaces, same])
  loginInit facets orb := .of_step (.init facets)
  login free := by
    obtain ⟨-, rfl⟩ := Connection.login_eq_some_iff.mp free
    exact leads_of_places (by simp [legacyPlaces])
  logout orb := .of_step .cleared
  invalid info orb := leads_of_places (by simp [legacyPlaces])
  profiles profiles orb := leads_of_places (by simp [legacyPlaces])
  install request contexts orb := .of_step (.reset request contexts)

section Sending

variable (signing : ∀ protocol target orb, Action.Follows (legacyMachine platform ref)
  (during sending) (world.signChainFor protocol ref target) orb)
include signing

/-- A thread that has its session and its chain has a chain signed, finds one in the cache, or needs
none for a request to the bus. -/
theorem credentialChain_leads {thread : ℕ} (idle : sending thread = none) {session : SecretSession}
    {chain : CallerChain} (login : Identifier) (ticket : ULong) (orb : Orb) :
    Leads (legacyMachine platform ref)
      ((during sending orb).send thread (some (session, chain)))
      (during sending (credentialChain platform world (usedProtocol session chain) ref login chain
        { session with ticket := ticket } orb).2) := by
  have sent : LegacyStep platform ref ((during sending orb).send thread (some (session, chain)))
      .other (((during sending orb).send thread (some (session, chain))).send thread none) :=
    .sent thread
  rw [send_none idle] at sent
  unfold credentialChain
  split
  · exact .of_step sent
  · next remote =>
    refine Leads.trans ?_ ((legacySections platform ref sending).getSignedChain signing _ _ _ orb)
    cases cached : (orb.chainCache (usedProtocol session chain)).find
      (chainKey platform session chain login) with
    | none => exact .of_step (sign_step idle login remote cached)
    | some found => exact .of_step sent

/-- The credential of a request over a session that is cached. -/
theorem sessionCredential_leads {thread : ℕ} (idle : sending thread = none) {bus login : Identifier}
    {session : SecretSession} {chain : CallerChain} {key : Identifier} {orb : Orb}
    (found : (orb.connections ref).login2session.find key = some session) :
    Leads (legacyMachine platform ref)
      ((during sending orb).send thread (some (session, chain)))
      (during sending (sessionCredential platform world request (usedProtocol session chain) ref bus
        login chain key session orb).2) := by
  let assigned := orb.setLogin2session ref ((orb.connections ref).login2session.assign key
    { session with ticket := session.ticket + 1 })
  have same : legacyPlaces ref assigned = legacyPlaces ref orb := by
    simp only [assigned, legacyPlaces, Orb.connections_setLogin2session, Prod.mk.injEq, true_and]
    funext other
    rw [LRUCache.find_assign]
    split
    · next own => rw [own, found]; rfl
    · rfl
  have ticketed : LegacyStep platform ref ((during sending orb).send thread (some (session, chain)))
      .other ((during sending assigned).send thread (some (session, chain))) := .other same
  have rest : (sessionCredential platform world request (usedProtocol session chain) ref bus login
      chain key session orb).2 = (credentialChain platform world (usedProtocol session chain) ref
        login chain { session with ticket := session.ticket + 1 } assigned).2 := by
    simp only [sessionCredential, Action.bind_apply, Action.modify_apply]
    rcases credentialChain platform world (usedProtocol session chain) ref login chain
      { session with ticket := session.ticket + 1 } assigned with ⟨e | signed, u⟩ <;> rfl
  rw [rest]
  exact (Leads.of_step ticketed).trans (credentialChain_leads signing idle login _ assigned)

omit signing in
variable (platform request ref) in
theorem getSession_legacyPlaces (orb : Orb) :
    legacyPlaces ref (getSession platform request ref orb).2 = legacyPlaces ref orb := by
  obtain ⟨profiles, sessions, conn, find, -⟩ := getSession_connections platform request ref orb
  simp only [legacyPlaces, conn, find]

omit signing in
theorem fillCredential_some_orb (protocol : Protocol) (login : Identifier) (chain : CallerChain)
    (key : Identifier) (session : SecretSession) (s : Invocation) :
    (fillCredential platform world request protocol ref login chain (some (key, session)) s).2.orb =
      (sessionCredential platform world request protocol ref (busid s.orb ref) login chain key
        session s.orb).2 := by
  simp only [fillCredential, Action.bind_apply, Action.get_apply, Invocation.onOrb_apply]
  rcases sessionCredential platform world request protocol ref (busid s.orb ref) login chain key
    session s.orb with ⟨e | credential, after⟩ <;> rfl

/-- A request over the connection, as a thread attaches its credentials. -/
theorem attachCredential_follows {thread : ℕ} (idle : sending thread = none) (login : Identifier)
    (s : Invocation) :
    Action.Follows (legacyMachine platform ref) (fun s => during sending s.orb)
      (attachCredential platform world request ref login) s := by
  have looked : Leads (legacyMachine platform ref) (during sending s.orb)
      (during sending (getSession platform request ref s.orb).2) :=
    leads_of_places (getSession_legacyPlaces platform request ref s.orb)
  rcases got : getSession platform request ref s.orb with ⟨e | found, orb⟩ <;> rw [got] at looked
  · have failed := (getSession_fst platform request ref s.orb).symm.trans (congrArg Prod.fst got)
    cases failed
  rcases joined : getJoinedChain platform ref orb with e | chain
  · have failed : (attachCredential platform world request ref login s).2.orb = orb := by
      simp [attachCredential, Action.bind_apply, Invocation.onOrb_apply, got, joined]
    change Leads _ _ (during sending _)
    rwa [failed]
  rcases found with _ | ⟨key, session⟩
  · have filled : (attachCredential platform world request ref login s).2.orb = orb := by
      simp [attachCredential, Action.bind_apply, Invocation.onOrb_apply, got, joined,
        fillCredential_none, withCredential, Invocation.addRequestServiceContext]
    change Leads _ _ (during sending _)
    rwa [filled]
  · have filled : (attachCredential platform world request ref login s).2.orb =
        (sessionCredential platform world request (usedProtocol session chain) ref (busid orb ref)
          login chain key session orb).2 := by
      simp only [attachCredential, Action.bind_apply, Invocation.onOrb_apply, got, joined,
        Action.get_apply, Action.ofExcept_apply]
      exact fillCredential_some_orb ..
    have own : getJoinedChain platform ref { orb with piCurrent := orb.piCurrent } = .ok chain :=
      joined
    have read : LegacyStep platform ref (during sending s.orb) .other
        ((during sending orb).send thread (some (session, chain))) := read_step idle got own
    change Leads _ _ (during sending _)
    rw [filled]
    exact (Leads.of_step read).trans
      (sessionCredential_leads signing idle (find_of_getSession got))

theorem sendRequest_follows {thread : ℕ} (idle : sending thread = none)
    (callback : ∀ info calls orb, Action.Follows (legacyMachine platform ref) (during sending)
      (world.onInvalidLogin ref info calls) orb)
    {s : Invocation} (uses : ∀ found, (getCurrentConnection s.orb).1 = .ok found → found = ref) :
    Action.Follows (legacyMachine platform ref) (fun s => during sending s.orb)
      (sendRequest platform world request) s :=
  (legacySections platform ref sending).sendRequest callback
    (attachCredential_follows signing idle) uses

end Sending

section Receiving

variable {world : ServerWorld} {request : ServerRequest}

variable (ref) in
/-- What the tests of a credential change has nothing of version 2.0. -/
theorem testBlind_legacyPlaces :
    ServerInterceptor.TestBlind fun d : Dispatch => legacyPlaces ref d.orb where
  logins d conn cache := by
    have same : ∃ after, (d.orb.setLoginCache conn cache).connections ref =
        { d.orb.connections ref with loginCache := after } := by
      by_cases own : ref = conn
      · subst own
        exact ⟨some cache, Orb.connections_updateConnection_self ..⟩
      · exact ⟨(d.orb.connections ref).loginCache, Orb.connections_updateConnection_of_ne own ..⟩
    obtain ⟨after, same⟩ := same
    simp only [Dispatch.updateOrb, legacyPlaces, same]
  sessions d sessions := rfl
  replies d id data := rfl

/-- A request concerns the connection only in so far as its callback does. -/
theorem receiveRequestServiceContexts_quiet (codec : platform.CodecRefuses)
    (quiet : ∀ callback, world.onCallDispatch = some callback → ∀ bus login operation,
      Action.Keeps (legacyPlaces ref) (callback bus login operation)) (orb : Orb) :
    legacyPlaces ref (ServerInterceptor.receiveRequestServiceContexts platform world request
      (.arrival orb)).2.orb = legacyPlaces ref orb := by
  have dispatched (credential : CredentialData) : legacyPlaces ref
      (ServerInterceptor.getDispatcherConnection world request credential.bus credential.login
        (.arrival orb)).2.orb = legacyPlaces ref orb := by
    have kept : Action.Keeps (fun d : Dispatch => legacyPlaces ref d.orb)
        (ServerInterceptor.getDispatcherConnection world request credential.bus credential.login) :=
      ServerInterceptor.getDispatcherConnection_keeps
        (fun callback registered bus login operation d =>
          quiet callback registered bus login operation d.orb)
        (fun _ _ => by simp [legacyPlaces]) _ _
    exact kept (.arrival orb)
  rw [ServerInterceptor.receiveRequestServiceContexts_eq codec, ServerInterceptor.receiveCredential_eq]
  cases ServerInterceptor.getCredential platform request (ServerInterceptor.judged request) with
  | error e => rfl
  | ok credential =>
    obtain ⟨u, kept, ⟨e, refused⟩ | accepted⟩ := ServerInterceptor.handleCredential_keeps platform
      world request (testBlind_legacyPlaces ref) (ServerInterceptor.judged request)
      credential (.arrival orb)
    · simp only [Action.bind_apply, Action.ofExcept_apply, refused]
      exact kept.trans (dispatched credential)
    · simp only [Action.bind_apply, Action.ofExcept_apply, accepted]
      exact kept.trans (dispatched credential)

theorem received_step (codec : platform.CodecRefuses)
    (quiet : ∀ callback, world.onCallDispatch = some callback → ∀ bus login operation,
      Action.Keeps (legacyPlaces ref) (callback bus login operation)) (orb : Orb) :
    LegacyStep platform ref (during sending orb) (.received world request orb)
      (during sending (ServerInterceptor.receiveRequestServiceContexts platform world request
        (.arrival orb)).2.orb) :=
  .received world request rfl (receiveRequestServiceContexts_quiet codec quiet orb)

end Receiving

section Converting

variable {α : Type}

/-- Without support, nothing is converted. -/
theorem ifSupported_of_unsupported {orb : Orb} (off : (orb.connections ref).legacySupport = false)
    (convert : ObjectRef → Action Orb Exception α) :
    Orb.ifSupported ref convert orb = (.ok none, orb) := by
  simp [Orb.ifSupported, Action.bind_apply, off]

theorem ifSupported_follows {convert : ObjectRef → Action Orb Exception α}
    (converting : ∀ converter orb, Action.Follows (legacyMachine platform ref) (during sending)
      (convert converter) orb) (orb : Orb) :
    Action.Follows (legacyMachine platform ref) (during sending)
      (Orb.ifSupported ref convert) orb := by
  refine .get_bind (.ite (fun supported => ?_) fun _ => .pure _)
  have called : LegacyStep platform ref (during sending orb)
      (.converting (orb.connections ref).legacyConverter) (during sending orb) :=
    .convert supported
  refine (Leads.of_step called).trans ?_
  cases (orb.connections ref).legacyConverter with
  | none => exact Action.Follows.throw _
  | some converter => exact Action.Follows.bind (converting _ _) fun _ _ _ => .pure _

theorem makeChainFor_follows {world : ChainWorld}
    (signing : ∀ accessControl entity orb, Action.Follows (legacyMachine platform ref)
      (during sending) (world.signChainFor accessControl entity) orb)
    (converting : ∀ converter entity orb, Action.Follows (legacyMachine platform ref)
      (during sending) (world.convertChainFor converter entity) orb)
    (entity : Identifier) {orb : Orb}
    (uses : ∀ found, orb.getCurrentConnection = some found → found = ref) :
    Action.Follows (legacyMachine platform ref) (during sending)
      (Orb.makeChainFor platform world entity) orb := by
  refine .get_bind ?_
  rcases current : orb.getCurrentConnection with _ | found
  · exact .pure _
  obtain rfl := uses found current
  refine .bind (.ofExcept _) fun joined t _ => ?_
  split
  · exact .throw _
  · refine .bind (signing _ _ _) fun signed u _ => ?_
    refine .bind (ifSupported_follows (fun converter => converting converter entity) _) fun _ v _ => ?_
    exact .bind (.ofExcept _) fun _ _ _ => .pure _

open SharedAuth SharedAuthRun in
theorem startSharedAuth_follows {world : SharedAuthWorld}
    (starting : ∀ accessControl orb, Action.Follows (legacyMachine platform ref) (during sending)
      (world.startLoginBySharedAuth accessControl) orb)
    (converting : ∀ converter loginProcess orb, Action.Follows (legacyMachine platform ref)
      (during sending) (world.convertSharedAuth converter loginProcess) orb)
    (cancelling : ∀ loginProcess orb, Action.Follows (legacyMachine platform ref) (during sending)
      (world.cancel loginProcess) orb) (run : SharedAuthRun) :
    Action.Follows (legacyMachine platform ref) (fun run => during sending run.orb)
      (startSharedAuth platform world ref) run := by
  have sections := legacySections platform ref sending
  have on {β : Type} {action : Action Orb Exception β} {run : SharedAuthRun}
      (follows : Action.Follows (legacyMachine platform ref) (during sending) action run.orb) :
      Action.Follows (legacyMachine platform ref) (fun run => during sending run.orb)
        (onOrb action) run := follows
  have set (id : Uuid) (conn : Option ConnRef) (orb : Orb) : Action.Follows
      (legacyMachine platform ref) (during sending) (modify (Orb.setCurrentConnection id conn)) orb :=
    sections.of_connections (by simp)
  refine .get_bind (.bind (.tryCatch ?_ fun e t _ => ?_) fun challenge t _ => ?_)
  · refine .bind (on (set _ _ _)) fun _ t _ => .get_bind ?_
    split
    · exact .throw _
    · refine .bind (on (starting _ _)) fun started u _ => ?_
      refine .bind (.of_same rfl) fun _ v _ => .bind (on (ifSupported_follows ?_ _)) fun _ w _ => ?_
      · exact fun converter orb => converting converter _ orb
      · exact .bind (.of_same rfl) fun _ _ _ => .bind (on (set _ _ _)) fun _ _ _ => .pure _
  · refine .ite (fun _ => .get_bind (.bind (.of_same rfl) fun _ u _ => ?_)) fun _ => .throw _
    split
    · exact .throw _
    · refine .bind (on (sections.guarded (.bind (cancelling _ _) fun _ _ _ => set _ _ _))) ?_
      exact fun _ _ _ => .bind (.of_same rfl) fun _ _ _ => .throw _
  · exact .get_bind (.bind (.ofExcept _) fun _ _ _ => .pure _)

end Converting

end LegacySupport

end OpenBus
