import OpenBus.Machine.Run
import OpenBus.Proofs.ClientInterceptor
import OpenBus.Proofs.ServerInterceptor

/-! # The places of the session caches

A session is found by the profile and the login on the client, and by its number on the server.
The machine has the sections of one client connection and one server that touch these three
caches as its steps, in any order. Clearing a cache costs it one place for every entry it drops,
and nothing gives a place back, so the places left are the declared ones less the entries lost.
-/

namespace OpenBus

open Machine ClientInterceptor ServerInterceptor

namespace Handshake

/-- Sections of the two interceptors and of the connections. The labels of those which clear
caches tell how many entries they drop. -/
inductive HandshakeEvent where
  | search
  | ticket
  | purge
  | install
  | clientLogout (profiles logins : ℕ)
  | check
  | reset
  | serverLogout (sessions : ℕ)
  | other

variable (platform : Platform) (ref : ConnRef)

/-- A section of the client or of the server, which need not share an ORB. -/
inductive HandshakeStep : Orb × Orb → HandshakeEvent → Orb × Orb → Prop
  | search {client server : Orb} (request : ClientRequest) :
      HandshakeStep (client, server) .search ((getSession platform request ref client).2, server)
  | ticket {client server : Orb} (key : Identifier) (session : SecretSession) :
      HandshakeStep (client, server) .ticket
        (client.setLogin2session ref ((client.connections ref).login2session.assign key session),
          server)
  | purge {client server : Orb} (target : Identifier) :
      HandshakeStep (client, server) .purge
        (client.setProfile2login ref (purgeTarget target (client.connections ref).profile2login),
          server)
  | install {client server : Orb} (request : ClientRequest) (contexts : ServiceContexts) :
      HandshakeStep (client, server) .install
        ((installSession platform request ref contexts client).2, server)
  | clientLogout {client server : Orb} (logged : (client.connections ref).state = .logged) :
      HandshakeStep (client, server)
        (.clientLogout (client.connections ref).profile2login.list.keys.length
          (client.connections ref).login2session.list.keys.length)
        (client.logoutSection ref, server)
  | check {client : Orb} {d : Dispatch} (request : ServerRequest) (protocol : Protocol)
      (credential : CredentialData) :
      HandshakeStep (client, d.orb) .check
        (client, (checkSession platform request protocol credential d).2.orb)
  | reset {client : Orb} (d : Dispatch) (world : ServerWorld) (protocol : Protocol)
      (conn : ConnRef) (caller : Login) :
      HandshakeStep (client, d.orb) .reset
        (client, (sendCredentialReset platform world protocol conn caller d).2.orb)
  | serverLogout {client server : Orb} (conn : ConnRef)
      (logged : (server.connections conn).state = .logged) :
      HandshakeStep (client, server) (.serverLogout server.sessionLRUCache.list.keys.length)
        (client, server.logoutSection conn)
  | other {client server client' server' : Orb}
      (profiles : (client'.connections ref).profile2login = (client.connections ref).profile2login)
      (logins : (client'.connections ref).login2session = (client.connections ref).login2session)
      (sessions : server'.sessionLRUCache = server.sessionLRUCache) :
      HandshakeStep (client, server) .other (client', server')

/-- The connection as its constructor leaves it, and the server as its initializer does. -/
def handshakeMachine : Labeled (Orb × Orb) HandshakeEvent where
  Init s := (s.1.connections ref).profile2login = .ofSize 128 ∧
    (s.1.connections ref).login2session = .ofSize 128 ∧ s.2.sessionLRUCache = .ofSize 128
  Step := HandshakeStep platform ref

/-- The entries dropped in a run. -/
def lostProfiles (history : List HandshakeEvent) : ℕ :=
  (history.map fun | .clientLogout profiles _ => profiles | _ => 0).sum

def lostLogins (history : List HandshakeEvent) : ℕ :=
  (history.map fun | .clientLogout _ logins => logins | _ => 0).sum

def lostSessions (history : List HandshakeEvent) : ℕ :=
  (history.map fun | .serverLogout sessions => sessions | _ => 0).sum

variable {platform ref}

/-- What the caches can hold is what they have not lost. -/
structure Places (ref : ConnRef) (history : List HandshakeEvent) (s : Orb × Orb) : Prop where
  profiles : (s.1.connections ref).profile2login.capacity + lostProfiles history = 128
  logins : (s.1.connections ref).login2session.capacity + lostLogins history = 128
  sessions : s.2.sessionLRUCache.capacity + lostSessions history = 128

theorem capacity_purgeTarget (target : Identifier) (profiles : LRUCache HashValue Identifier) :
    (purgeTarget target profiles).capacity = profiles.capacity := by
  unfold purgeTarget
  generalize profiles.getAllKeys = keys
  induction keys generalizing profiles with
  | nil => rfl
  | cons key keys ih =>
    rw [List.foldl_cons, ih, LRUCache.fetch_eq]
    dsimp only
    split
    · rw [LRUCache.capacity_remove, LRUCache.capacity_touch]
    · rw [LRUCache.capacity_touch]

/-- The places of the caches of the connection. -/
def places (ref : ConnRef) (client : Orb) : ℕ × ℕ :=
  ((client.connections ref).profile2login.capacity, (client.connections ref).login2session.capacity)

theorem places_setProfile2login (client : Orb) (cache : LRUCache HashValue Identifier) :
    places ref (client.setProfile2login ref cache) = (cache.capacity, (places ref client).2) := by
  simp [places, Orb.setProfile2login, Orb.updateConnection]

theorem places_setLogin2session (client : Orb) (cache : LRUCache Identifier SecretSession) :
    places ref (client.setLogin2session ref cache) = ((places ref client).1, cache.capacity) := by
  simp [places, Orb.setLogin2session, Orb.updateConnection]

theorem places_getSession (request : ClientRequest) (client : Orb) :
    places ref (getSession platform request ref client).2 = places ref client := by
  simp only [getSession, Action.bind_apply, Action.get_apply, Action.modify_apply]
  split
  · rw [Action.pure_apply, places_setProfile2login, LRUCache.capacity_fetch]
    rfl
  · simp only [Action.bind_apply, Action.get_apply, Action.modify_apply, Action.pure_apply]
    rw [places_setLogin2session, LRUCache.capacity_fetch]
    change ((places ref (client.setProfile2login ref _)).1,
      (places ref (client.setProfile2login ref _)).2) = _
    rw [places_setProfile2login, LRUCache.capacity_fetch]
    rfl

theorem places_installSession (request : ClientRequest) (contexts : ServiceContexts)
    (client : Orb) :
    places ref (installSession platform request ref contexts client).2 = places ref client := by
  simp only [installSession, Action.bind_apply, Action.get_apply, Action.modify_apply,
    Action.ofExcept_apply]
  cases resetSession platform (client.connections ref).key contexts with
  | error e => rfl
  | ok session =>
    simp only [Action.throw_apply]
    rw [places_setLogin2session, LRUCache.capacity_insert]
    change ((places ref (client.setProfile2login ref _)).1,
      (places ref (client.setProfile2login ref _)).2) = _
    rw [places_setProfile2login, LRUCache.capacity_insert]
    rfl

/-- A logout costs the connection the places of the entries it drops. -/
theorem places_logoutSection {client : Orb} (logged : (client.connections ref).state = .logged) :
    places ref (client.logoutSection ref) =
      ((places ref client).1 - (client.connections ref).profile2login.list.keys.length,
        (places ref client).2 - (client.connections ref).login2session.list.keys.length) := by
  simp [places, Orb.logoutSection, logged, Orb.updateConnection, Orb.clearCaches,
    Connection.logout, LRUCache.capacity_clear]

theorem sessionLRUCache_logoutSection {server : Orb} {conn : ConnRef}
    (logged : (server.connections conn).state = .logged) :
    (server.logoutSection conn).sessionLRUCache = server.sessionLRUCache.clear := by
  simp [Orb.logoutSection, logged, Orb.clearCaches, Orb.updateConnection]

theorem Places.of_same {history : List HandshakeEvent} {s t : Orb × Orb} {e : HandshakeEvent}
    (held : Places ref history s) (client : places ref t.1 = places ref s.1)
    (server : t.2.sessionLRUCache.capacity = s.2.sessionLRUCache.capacity)
    (lossless : lostProfiles (e :: history) = lostProfiles history ∧
      lostLogins (e :: history) = lostLogins history ∧
      lostSessions (e :: history) = lostSessions history) : Places ref (e :: history) t := by
  obtain ⟨profiles, logins⟩ := Prod.mk.inj client
  exact ⟨by rw [profiles, lossless.1]; exact held.profiles,
    by rw [logins, lossless.2.1]; exact held.logins,
    by rw [server, lossless.2.2]; exact held.sessions⟩

theorem places_of_run {history : List HandshakeEvent} {s : Orb × Orb}
    (run : Run (handshakeMachine platform ref) history s) : Places ref history s := by
  apply run.invariant (Places ref)
  · rintro s ⟨profiles, logins, sessions⟩
    exact ⟨by rw [profiles]; rfl, by rw [logins]; rfl, by rw [sessions]; rfl⟩
  · rintro past s e t - held step
    have lossless (e : HandshakeEvent) (client : ∀ p l, e ≠ .clientLogout p l)
        (server : ∀ n, e ≠ .serverLogout n) : lostProfiles (e :: past) = lostProfiles past ∧
          lostLogins (e :: past) = lostLogins past ∧
          lostSessions (e :: past) = lostSessions past := by
      cases e <;> simp_all [lostProfiles, lostLogins, lostSessions]
    cases step with
    | search request =>
      exact held.of_same (places_getSession _ _) rfl (lossless _ (by simp) (by simp))
    | ticket key session =>
      refine held.of_same ?_ rfl (lossless _ (by simp) (by simp))
      rw [places_setLogin2session, LRUCache.capacity_assign]
      rfl
    | purge target =>
      refine held.of_same ?_ rfl (lossless _ (by simp) (by simp))
      rw [places_setProfile2login, capacity_purgeTarget]
      rfl
    | install request contexts =>
      exact held.of_same (places_installSession _ _ _) rfl (lossless _ (by simp) (by simp))
    | @clientLogout client server logged =>
      obtain ⟨profiles, logins⟩ := Prod.mk.inj (places_logoutSection logged)
      have heldProfiles := held.profiles
      have heldLogins := held.logins
      have := (client.connections ref).profile2login.length_le_capacity
      have := (client.connections ref).login2session.length_le_capacity
      refine ⟨?_, ?_, by simpa [lostSessions] using held.sessions⟩
      · rw [profiles]
        simp only [places, lostProfiles, List.map_cons, List.sum_cons] at heldProfiles ⊢
        omega
      · rw [logins]
        simp only [places, lostLogins, List.map_cons, List.sum_cons] at heldLogins ⊢
        omega
    | @check client d request protocol credential =>
      obtain ⟨accepted, checked, -⟩ := checkSession_spec platform request protocol credential d
      refine held.of_same rfl ?_ (lossless _ (by simp) (by simp))
      rw [checked]
      exact capacity_sessionsAfterCheck _ _ _ _
    | @reset client d world protocol conn caller =>
      obtain ⟨e, after, raised, -, orb, -⟩ :=
        sendCredentialReset_spec platform world protocol conn caller d
      refine held.of_same rfl ?_ (lossless _ (by simp) (by simp))
      rw [raised, orb]
      exact LRUCache.capacity_insert _ _ _
    | @serverLogout client server conn logged =>
      have heldSessions := held.sessions
      have := server.sessionLRUCache.length_le_capacity
      refine ⟨by simpa [lostProfiles] using held.profiles,
        by simpa [lostLogins] using held.logins, ?_⟩
      rw [sessionLRUCache_logoutSection logged, LRUCache.capacity_clear]
      simp only [lostSessions, List.map_cons, List.sum_cons] at heldSessions ⊢
      omega
    | other profiles logins sessions =>
      refine held.of_same ?_ (by rw [sessions]) (lossless _ (by simp) (by simp))
      simp only [places, profiles, logins]

end Handshake

end OpenBus
