import OpenBus.Model.Sessions
import OpenBus.Proofs.Sections

/-! # The sessions in the operations

The sections that use the sessions of a connection are among those of its operations. What is left
to show is that a request sent over a session builds its credential in one of them.
-/

namespace OpenBus

open Machine

namespace ClientInterceptor

variable {platform : Platform} {world : ClientWorld} {request : ClientRequest} {ref : ConnRef}

theorem follows_of_places {α : Type} {x : Action Orb Exception α} {orb : Orb}
    (same : sessionPlaces ref (x orb).2 = sessionPlaces ref orb) :
    Action.Follows (sessionMachine ref) id x orb :=
  .of_step (.other same)

variable (request) in
/-- The reaction to a reset ends with a section which installs its session for the login of the
request. -/
theorem installSession_run (under : Identifier) (contexts : ServiceContexts) {orb : Orb}
    {session : SecretSession}
    (reset : resetSession platform (orb.connections ref).key contexts = .ok session)
    {history : List SessionEvent} (run : Run (sessionMachine ref) history orb) :
    ∃ stored, Run (sessionMachine ref) (.installed under session.remoteId stored :: .other :: history)
      (installSession platform request ref contexts orb).2 := by
  have profiled := run.step (SessionStep.other (t := orb.setProfile2login ref
    ((orb.connections ref).profile2login.insert (sessionKey platform request) session.remoteId))
    (by simp [sessionPlaces]))
  have installed := profiled.step (SessionStep.installed under session)
  simp only [installSession, Action.bind_apply, Action.get_apply, Action.ofExcept_apply, reset,
    Action.modify_apply, Action.throw_apply]
  exact ⟨_, installed⟩

variable (platform ref) in
theorem sessionSections : Sections (sessionMachine ref) id platform ref where
  quiet {orb t} same := .of_step (.other (by simp only [sessionPlaces, id, same]))
  loginInit facets orb := .of_step (.other (by simp [sessionPlaces, Connection.loginInit]))
  login free := .of_step (.login free)
  logout orb := .of_step .cleared
  invalid info orb := .of_step (.other (by simp [sessionPlaces]))
  profiles profiles orb := .of_step (.other (by simp [sessionPlaces]))
  install request contexts orb := by
    cases reset : resetSession platform (orb.connections ref).key contexts with
    | error e =>
      have failed : (installSession platform request ref contexts orb).2 = orb := by
        simp only [installSession, Action.bind_apply, Action.get_apply, Action.ofExcept_apply, reset]
      rw [failed]
      exact .refl _
    | ok session =>
      intro history run
      obtain ⟨stored, installed⟩ := installSession_run request [] contexts reset run
      exact ⟨[.installed [] session.remoteId stored, .other], installed⟩

variable (platform request ref) in
/-- Looking for a session only moves entries of the two caches. -/
theorem getSession_connections (orb : Orb) :
    ∃ profiles sessions, (getSession platform request ref orb).2.connections ref =
        { orb.connections ref with profile2login := profiles, login2session := sessions } ∧
      sessions.find = (orb.connections ref).login2session.find ∧
      sessions.capacity = (orb.connections ref).login2session.capacity := by
  let profiles := (orb.connections ref).profile2login.fetch (sessionKey platform request)
  let sessions := (orb.connections ref).login2session.fetch (profiles.1.getD [])
  simp only [getSession, Action.bind_apply, Action.get_apply, Action.modify_apply]
  split
  · exact ⟨profiles.2, (orb.connections ref).login2session, by simp [profiles], rfl, rfl⟩
  · refine ⟨profiles.2, sessions.2, by simp [Action.bind_apply, profiles, sessions], ?_,
      by simp [sessions]⟩
    exact funext (LRUCache.find_fetch _ _)

variable (platform request ref) in
theorem getSession_places (orb : Orb) :
    sessionPlaces ref (getSession platform request ref orb).2 = sessionPlaces ref orb := by
  obtain ⟨profiles, sessions, conn, find, capacity⟩ :=
    getSession_connections platform request ref orb
  simp only [sessionPlaces, conn, find, capacity]

/-- The session that is found for a request is one of the cache. -/
theorem find_of_getSession {key : Identifier} {session : SecretSession} {orb t : Orb}
    (got : getSession platform request ref orb = (.ok (some (key, session)), t)) :
    (t.connections ref).login2session.find key = some session := by
  have places := getSession_places platform request ref orb
  have cached := getSession_fst platform request ref orb
  rw [got] at places cached
  simp only [sessionPlaces, Prod.mk.injEq] at places
  rw [places.2.2.1]
  have found := Except.ok.inj cached
  simp only [cachedSession] at found
  split at found
  · cases found
  · obtain ⟨other, present, same⟩ := Option.map_eq_some_iff.mp found.symm
    cases same
    exact present

section Sending

variable (signing : ∀ protocol target orb,
  Action.Follows (sessionMachine ref) id (world.signChainFor protocol ref target) orb)
include signing

theorem credentialChain_follows (protocol : Protocol) (login : Identifier) (chain : CallerChain)
    (session : SecretSession) (orb : Orb) :
    Action.Follows (sessionMachine ref) id
      (credentialChain platform world protocol ref login chain session) orb :=
  .ite (fun _ => .pure _) fun _ => (sessionSections platform ref).getSignedChain signing _ _ _ _

/-- A credential over a session that is cached begins with a section of its own. -/
theorem sessionCredential_follows {protocol : Protocol} {bus login : Identifier}
    {chain : CallerChain} {key : Identifier} {session : SecretSession} {orb : Orb}
    (found : (orb.connections ref).login2session.find key = some session)
    {history : List SessionEvent} (run : Run (sessionMachine ref) history orb) :
    ∃ more, Run (sessionMachine ref) (more ++ .built login key :: history)
      (sessionCredential platform world request protocol ref bus login chain key session orb).2 := by
  have built := run.step (SessionStep.built login found)
  have rest : Action.Follows (sessionMachine ref) id
      (do
        let signedChain ← credentialChain platform world protocol ref login chain
          { session with ticket := session.ticket + 1 }
        return (⟨bus, login, session.id, session.ticket + 1,
          hash platform protocol request.operation (session.ticket + 1) session.secret,
          signedChain⟩ : CredentialData))
      (orb.setLogin2session ref ((orb.connections ref).login2session.assign key
        { session with ticket := session.ticket + 1 })) :=
    .bind (credentialChain_follows signing _ _ _ _ _) fun _ _ _ => .pure _
  exact rest _ built

theorem fillCredential_follows {protocol : Protocol} {login : Identifier} {chain : CallerChain}
    {session : Option (Identifier × SecretSession)} {s : Invocation}
    (found : ∀ key found, session = some (key, found) →
      (s.orb.connections ref).login2session.find key = some found) :
    Action.Follows (sessionMachine ref) Invocation.orb
      (fillCredential platform world request protocol ref login chain session) s := by
  refine .get_bind ?_
  rcases session with _ | ⟨key, session⟩
  · exact .bind (.pure _) fun _ _ _ => .of_same rfl
  · refine .bind ?_ fun _ _ _ => .of_same rfl
    intro history run
    obtain ⟨more, after⟩ := sessionCredential_follows signing (found key session rfl) run
    exact ⟨more ++ [.built login key], by rwa [List.append_assoc, List.singleton_append]⟩

theorem attachCredential_follows (login : Identifier) (s : Invocation) :
    Action.Follows (sessionMachine ref) Invocation.orb
      (attachCredential platform world request ref login) s := by
  refine .bind (Sections.onOrb (follows_of_places (getSession_places _ _ _ _))) fun found t got => ?_
  refine .get_bind (.bind (.ofExcept _) fun chain u chained => ?_)
  obtain ⟨-, rfl⟩ := Prod.mk.inj chained
  rcases found with _ | ⟨key, session⟩
  · have absent : ∀ (s : Invocation) key (session : SecretSession),
        (none : Option (Identifier × SecretSession)) = some (key, session) →
          (s.orb.connections ref).login2session.find key = some session :=
      fun _ _ _ impossible => by cases impossible
    exact .bind (fillCredential_follows signing (absent _)) fun _ _ _ =>
      fillCredential_follows signing (absent _)
  · refine fillCredential_follows signing fun _ _ same => ?_
    obtain ⟨rfl, rfl⟩ := Prod.mk.inj (Option.some.inj same)
    rw [Invocation.onOrb_apply] at got
    obtain ⟨first, rfl⟩ := Prod.mk.inj got
    exact find_of_getSession (Prod.ext first rfl)

theorem sendRequest_follows
    (callback : ∀ info calls orb,
      Action.Follows (sessionMachine ref) id (world.onInvalidLogin ref info calls) orb)
    {s : Invocation} (uses : ∀ found, (getCurrentConnection s.orb).1 = .ok found → found = ref) :
    Action.Follows (sessionMachine ref) Invocation.orb (sendRequest platform world request) s :=
  (sessionSections platform ref).sendRequest callback (attachCredential_follows signing) uses

end Sending

end ClientInterceptor

end OpenBus
