import OpenBus.Machine.Follows
import OpenBus.Model.Login
import OpenBus.Proofs.ClientInterceptor
import OpenBus.Proofs.Orb

/-! # The operations as runs of sections

Sending a request, the reaction to its reply, logging in and logging out are made of a few sections
that work on a connection. A machine which has all of these sections has the operations as runs, if
it has what they call on their way.
-/

namespace OpenBus

open Machine

variable {σ Event : Type} {m : Labeled σ Event} {view : Orb → σ} {platform : Platform}
  {ref : ConnRef}

/-- The sections of a connection are steps of the machine, and what leaves the connection alone does
not concern it. -/
structure Sections (m : Labeled σ Event) (view : Orb → σ) (platform : Platform) (ref : ConnRef) :
    Prop where
  quiet : ∀ {orb t : Orb}, t.connections ref = orb.connections ref → Leads m (view orb) (view t)
  loginInit : ∀ facets orb, Leads m (view orb)
    (view (Orb.updateConnection ref (Connection.loginInit facets) orb))
  login : ∀ {info conn orb}, (orb.connections ref).login info = some conn →
    Leads m (view orb) (view (orb.updateConnection ref fun _ => conn))
  logout : ∀ orb, Leads m (view orb) (view (Orb.logoutSection ref orb))
  invalid : ∀ info orb, Leads m (view orb) (view (Orb.setInvalidLogin ref info orb))
  profiles : ∀ profiles orb, Leads m (view orb) (view (Orb.setProfile2login ref profiles orb))
  install : ∀ request contexts orb, Leads m (view orb)
    (view (ClientInterceptor.installSession platform request ref contexts orb).2)

namespace Sections

variable (sections : Sections m view platform ref)
include sections

theorem of_connections {α : Type} {x : Action Orb Exception α} {orb : Orb}
    (same : (x orb).2.connections = orb.connections) : Action.Follows m view x orb :=
  sections.quiet (congrFun same ref)

/-- Setting a slot for the time of an action does not concern the connection. -/
theorem guarded {α : Type} {slot : Slot} {value reset : Any} {action : Action Orb Exception α}
    {orb : Orb} (body : Action.Follows m view action (orb.setSlot slot value)) :
    Action.Follows m view (Orb.guarded slot value reset action) orb := by
  have entered : Leads m (view orb) (view (orb.setSlot slot value)) := sections.quiet rfl
  have left : Leads m (view (action (orb.setSlot slot value)).2)
      (view ((action (orb.setSlot slot value)).2.setSlot slot reset)) := sections.quiet rfl
  exact entered.trans (Leads.trans body left)

section Sending

variable {world : ClientWorld} {request : ClientRequest}

/-- Waiting for a login is made of what the callback does. -/
theorem getLogin
    (callback : ∀ info calls orb, Action.Follows m view (world.onInvalidLogin ref info calls) orb)
    (orb : Orb) : Action.Follows m view (ClientInterceptor.getLogin world ref) orb := by
  have loop (attempts calls : ℕ) (login invalid : LoginInfo) (orb : Orb) :
      Action.Follows m view
        (ClientInterceptor.getLoginLoop world ref attempts calls login invalid) orb := by
    induction attempts generalizing calls login invalid orb with
    | zero =>
      unfold ClientInterceptor.getLoginLoop
      refine .ite (fun _ => .pure _) fun _ => .get_bind (.ite (fun _ => .throw _) fun _ => ?_)
      exact .bind (.modify (sections.invalid _ _)) fun _ _ _ => .pure _
    | succ attempts ih =>
      unfold ClientInterceptor.getLoginLoop
      refine .ite (fun _ => .pure _) fun _ => .get_bind (.ite (fun _ => ?_) fun _ => ?_)
      · refine .bind (.tryCatch (callback _ _ _) fun e u _ =>
          .ite (fun _ => .pure _) fun _ => .throw _) fun _ u _ => .get_bind ?_
        refine .ite (fun _ => ?_) fun _ => ih _ _ _ _
        exact .bind (.modify (sections.invalid _ _)) fun _ _ _ => .pure _
      · exact .bind (.modify (sections.invalid _ _)) fun _ _ _ => .pure _
  exact .get_bind (.ite (fun _ => .pure _) fun _ => loop _ _ _ _ _)

section Signing

variable (signing : ∀ protocol target orb,
  Action.Follows m view (world.signChainFor protocol ref target) orb)
include signing

theorem requestSignedChain (protocol : Protocol) (target : Identifier) (orb : Orb) :
    Action.Follows m view (ClientInterceptor.requestSignedChain world protocol ref target) orb := by
  refine .get_bind ?_
  split
  · exact .throw _
  · refine .tryCatch (signing _ _ _) fun e u _ => .ite (fun _ => .throw _) fun _ =>
      .ite (fun _ => ?_) fun _ => .throw _
    exact .bind (.modify (sections.profiles _ _)) fun _ _ _ => .throw _

/-- The chains signed are cached beside the connection. -/
theorem getSignedChain (protocol : Protocol) (key : HashValue) (target : Identifier) (orb : Orb) :
    Action.Follows m view (ClientInterceptor.getSignedChain world protocol ref key target) orb := by
  have cached (cache : LRUCache HashValue SignedData) (orb : Orb) :
      Action.Follows m view (modify (Orb.setChainCache protocol cache) : Action Orb Exception Unit)
        orb :=
    sections.of_connections (by cases protocol <;> rfl)
  refine .get_bind (.bind (cached _ _) fun _ u _ => ?_)
  split
  · exact .pure _
  · exact .bind (sections.requestSignedChain signing _ _ _) fun chain u _ =>
      .bind (cached _ _) fun _ _ _ => .pure _

end Signing

omit sections in
theorem onOrb {α : Type} {action : Action Orb Exception α} {s : Invocation}
    (follows : Action.Follows m view action s.orb) :
    Action.Follows m (fun s => view s.orb) (Invocation.onOrb action) s := follows

/-- A request of the connection, if the machine has the credentials attached to it. -/
theorem sendRequest
    (callback : ∀ info calls orb, Action.Follows m view (world.onInvalidLogin ref info calls) orb)
    (attached : ∀ login (s : Invocation), Action.Follows m (fun s => view s.orb)
      (ClientInterceptor.attachCredential platform world request ref login) s)
    {s : Invocation}
    (uses : ∀ found, (ClientInterceptor.getCurrentConnection s.orb).1 = .ok found → found = ref) :
    Action.Follows m (fun s => view s.orb)
      (ClientInterceptor.sendRequest platform world request) s := by
  refine .get_bind (.ite (fun _ => .pure _) fun _ => ?_)
  have looked : (ClientInterceptor.getCurrentConnection s.orb).2.connections =
      s.orb.connections := by
    obtain ⟨id2conn, only⟩ := ClientInterceptor.getCurrentConnection_snd s.orb
    rw [only]
  refine .bind (onOrb (sections.of_connections looked)) fun found t ran => ?_
  obtain rfl := uses found (congrArg Prod.fst ran)
  have currLogin : Action.Follows m view (ClientInterceptor.currLogin world found) t.orb :=
    .get_bind (.ite (fun _ => sections.getLogin callback _) fun _ => .pure _)
  refine .bind (onOrb currLogin) fun login u _ => ?_
  refine .ite (fun _ => .throw _) fun _ => ?_
  exact .bind (attached _ _) fun _ v _ => .modify (sections.quiet rfl)

end Sending

section Receiving

variable {world : ClientWorld} {request : ClientRequest}
  (asking : ∀ registry login orb, Action.Follows m view (world.getLoginValidity registry login) orb)
include asking

theorem checkLogin (orb : Orb) :
    Action.Follows m view (ClientInterceptor.checkLogin world ref) orb := by
  refine .get_bind (.ite (fun _ => .throw _) fun _ => ?_)
  refine .bind (.attempt (sections.guarded (.get_bind ?_))) fun answer t _ => ?_
  · split
    · exact asking _ _ _
    · exact .throw _
  · split
    · exact .throw _
    · refine .bind ?_ fun _ _ _ => .throw _
      refine .get_bind (.ite (fun _ => ?_) fun _ => .pure _)
      exact .bind (.modify (sections.logout _)) fun _ u _ => .modify (sections.invalid _ _)

/-- What is done about the reply to a request of the connection. -/
theorem receiveException {reply : ExceptionReply} {orb : Orb}
    (saved : ∀ id conn, (orb.piCurrent .requestId).toUuid? = some id →
      orb.requestId2conn id = some conn → conn = ref) :
    Action.Follows m view (ClientInterceptor.receiveException platform world request reply) orb := by
  refine .get_bind (.ite (fun _ => .throw _) fun _ => ?_)
  cases slot : (orb.piCurrent .requestId).toUuid? with
  | none => exact .throw _
  | some id =>
    refine .ite (fun _ => .throw _) fun _ => ?_
    cases found : orb.requestId2conn id with
    | none => exact .throw _
    | some conn =>
      obtain rfl := saved id conn slot found
      refine .bind (.modify (sections.quiet rfl)) fun _ t _ => ?_
      refine .ite (fun _ => .pure _) fun _ => .ite (fun _ => ?_) fun _ => .ite (fun _ => ?_) fun _ =>
        .ite (fun _ => .throw _) fun _ => .throw _
      · exact sections.install request reply.contexts t
      · exact sections.checkLogin asking t

end Receiving

theorem loginBy (answers : LoginAnswers) (orb : Orb) :
    Action.Follows m view (Orb.loginBy ref answers) orb := by
  refine .get_bind (.ite (fun _ => .throw _) fun _ => .bind ?_ fun _ t _ => .get_bind ?_)
  · exact .bind (sections.guarded (.ofExcept _)) fun facets t _ => .modify (sections.loginInit _ _)
  · refine .ite (fun _ => .throw _) fun _ => sections.guarded (.bind (.ofExcept _) fun info u _ => ?_)
    refine .get_bind ?_
    split
    · exact .throw _
    · next free => exact .modify (sections.login free)

theorem joinChain (chain : CallerChain) (orb : Orb) :
    Action.Follows m view (Orb.joinChain platform chain) orb := by
  have joined (chain : CallerChain) (orb : Orb) :
      Action.Follows m view (Orb.setJoinedChain platform chain) orb :=
    .ite (fun _ => .pure _) fun _ => .modify (sections.quiet rfl)
  exact .ite (fun _ => .get_bind (.bind (.ofExcept _) fun _ _ _ => joined _ _)) fun _ => joined _ _

/-- `logout` discards the login, and then it sends a request. -/
theorem logoutCall {world : LogoutWorld}
    (told : ∀ accessControl orb, Action.Follows m view (world.logout accessControl) orb)
    (orb : Orb) : Action.Follows m view (Orb.logout platform world ref) orb := by
  refine .get_bind ?_
  split
  · exact .pure _
  · split
    · exact .throw _
    · refine .bind (.modify (sections.logout _)) fun _ t _ =>
        .get_bind (.bind (.ofExcept _) fun chain u _ => ?_)
      refine .bind (.modify (sections.quiet rfl)) fun _ v _ => ?_
      refine .bind (sections.of_connections (by simp)) fun _ v _ => ?_
      refine .bind (.attempt ?_) fun result v _ => .bind (.ofExcept _) fun success w _ => ?_
      · refine sections.guarded (sections.guarded (sections.guarded ?_))
        split
        · exact told _ _
        · exact .throw _
      · refine .bind (.bind (sections.of_connections (by simp)) fun _ v _ => ?_)
          fun _ _ _ => .pure _
        exact .tryCatch (sections.joinChain _ _) fun _ _ _ => .throw _

end Sections

end OpenBus
