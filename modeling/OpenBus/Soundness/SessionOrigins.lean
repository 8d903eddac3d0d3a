import OpenBus.Model.ReferencePlatform
import OpenBus.Proofs.Sessions

/-! # Under which login a session was agreed

A connection caches a session under the remote login that offers it, in answer to a request which
was sent under some login. `_logout` forgets the sessions with the login, but what is answered to a
request that is still under way then, as the call which `logout` itself sends, is cached all the
same. Sessions belong to the current login exactly if every one is installed while the login of its
request is current.
-/

namespace OpenBus

open Machine

namespace ClientInterceptor

variable {ref : ConnRef}

/-- The current login. -/
def currentOf : List SessionEvent → Option LoginInfo
  | [] => none
  | .login info :: _ => some info
  | .cleared (some _) :: _ => none
  | _ :: past => currentOf past

/-- The login under which the session with a remote login has been agreed. -/
def negotiatedUnder (remoteId : Identifier) : List SessionEvent → Option Identifier
  | [] => none
  | .cleared (some _) :: _ => none
  | .installed under offered true :: past =>
      if offered = remoteId then some under else negotiatedUnder remoteId past
  | _ :: past => negotiatedUnder remoteId past

/-- Every session belongs to the current login, and there is none without a login. -/
structure Bound (past : List SessionEvent) (conn : Connection) : Prop where
  current : ∀ remoteId session, conn.login2session.find remoteId = some session →
    ∃ info, conn.loginInfo = some info ∧ negotiatedUnder remoteId past = some info.id
  loggedOut : conn.state = .loggedOut → ∀ remoteId, conn.login2session.find remoteId = none

/-- A credential has the login under which its session has been agreed. -/
def BuiltSoundly (past : List SessionEvent) : SessionEvent → Prop
  | .built login remoteId => negotiatedUnder remoteId past = some login
  | _ => True

/-- No session outlives its login on the way, and no credential mixes two logins. -/
def SessionsBound (ref : ConnRef) (history : List SessionEvent) : Prop :=
  Always BuiltSoundly history ∧ ∀ past s, past <:+ history → Run (sessionMachine ref) past s →
    Bound past (s.connections ref)

/-- A session that is cached has been asked for under the current login, and a credential which uses
one is built with the current login. -/
def UnderCurrent (past : List SessionEvent) : SessionEvent → Prop
  | .installed under _ true => ∃ info, currentOf past = some info ∧ info.id = under
  | .built login _ => ∀ info, currentOf past = some info → info.id = login
  | _ => True

/-- What a history tells about the connection. -/
structure SessionsTold (past : List SessionEvent) (conn : Connection) : Prop where
  login : conn.loginInfo = currentOf past
  logged : conn.state = .logged ↔ (currentOf past).isSome
  origin : ∀ remoteId session, conn.login2session.find remoteId = some session →
    (negotiatedUnder remoteId past).isSome

theorem SessionsTold.of_same {past : List SessionEvent} {orb t : Orb} {e : SessionEvent}
    (told : SessionsTold past (orb.connections ref))
    (login : (t.connections ref).loginInfo = (orb.connections ref).loginInfo)
    (state : (t.connections ref).state = (orb.connections ref).state)
    (current : currentOf (e :: past) = currentOf past)
    (origin : ∀ remoteId session, (t.connections ref).login2session.find remoteId = some session →
      (negotiatedUnder remoteId (e :: past)).isSome) :
    SessionsTold (e :: past) (t.connections ref) :=
  ⟨by rw [login, current, told.login], by rw [state, current, told.logged], origin⟩

theorem sessionsTold {history : List SessionEvent} {orb : Orb}
    (run : Run (sessionMachine ref) history orb) : SessionsTold history (orb.connections ref) := by
  refine run.invariant (fun past s => SessionsTold past (s.connections ref)) ?_ ?_
  · rintro orb ⟨key, legacySupport, fresh⟩
    rw [fresh]
    exact ⟨rfl, by simp [Connection.init, currentOf], by simp [Connection.init]⟩
  · rintro past before e t - told step
    cases step with
    | @login info conn free =>
      obtain ⟨out, rfl⟩ := Connection.login_eq_some_iff.mp free
      have none : currentOf past = none := by
        have logged := told.logged
        rw [out] at logged
        simpa using logged
      refine ⟨by simp [currentOf], by simp [currentOf], fun remoteId session found => ?_⟩
      rw [Orb.connections_updateConnection_self] at found
      exact told.origin remoteId session found
    | cleared =>
      have login := told.login
      have logged := told.logged
      rw [Orb.connections_logoutSection]
      rcases state : (before.connections ref).state
      · obtain ⟨info, current⟩ := Option.isSome_iff_exists.mp (logged.mp state)
        rw [login, current]
        refine ⟨?_, ?_, ?_⟩ <;> simp [Connection.logout, state, currentOf]
      · have none : currentOf past = none := by
          rw [state] at logged
          simpa using logged
        rw [login, none, Connection.logout_of_loggedOut state]
        exact ⟨login, logged, told.origin⟩
    | installed under session =>
      refine told.of_same ?_ ?_ rfl ?_
      · simp
      · simp
      · intro remoteId other found
        rw [Orb.connections_setLogin2session] at found
        rcases LRUCache.find_insert_cases found with ⟨rfl, rfl⟩ | ⟨differ, kept⟩
        · have room : 0 < (before.connections ref).login2session.capacity := by
            by_contra full
            rw [LRUCache.find_insert_self, if_neg full] at found
            cases found
          simp [negotiatedUnder, room]
        · have origin := told.origin remoteId other kept
          rcases decide (0 < (before.connections ref).login2session.capacity)
          · exact origin
          · rw [negotiatedUnder, if_neg (Ne.symm differ)]
            exact origin
    | @built remoteId session login found =>
      apply told.of_same (by simp) (by simp) rfl
      intro other stored present
      rw [Orb.connections_setLogin2session, LRUCache.find_assign] at present
      split at present
      · next same =>
        subst same
        exact told.origin other session found
      · exact told.origin other stored present
    | other same =>
      simp only [sessionPlaces, Prod.mk.injEq] at same
      obtain ⟨login, state, find, -⟩ := same
      apply told.of_same login state rfl
      rw [find]
      exact told.origin

/-- While all sessions are installed under the login that is current, they belong to it. -/
theorem current_of_negotiated {history : List SessionEvent} {orb : Orb}
    (run : Run (sessionMachine ref) history orb) (always : Always UnderCurrent history) :
    ∀ remoteId under, negotiatedUnder remoteId history = some under →
      ∃ info, currentOf history = some info ∧ info.id = under := by
  refine run.invariant_of_always (fun past _ => ∀ remoteId under,
    negotiatedUnder remoteId past = some under → ∃ info, currentOf past = some info ∧
      info.id = under) (fun _ _ _ _ impossible => by cases impossible) ?_ always
  intro past before e t earlier current guard step remoteId under negotiated
  cases step with
  | @login info conn free =>
    -- The connection was logged out, so no session had been agreed.
    obtain ⟨old, present, -⟩ := current remoteId under negotiated
    have logged := (sessionsTold earlier).logged.mpr (by rw [present]; rfl)
    rw [(Connection.login_eq_some_iff.mp free).1] at logged
    cases logged
  | cleared =>
    rcases found : (before.connections ref).loginInfo with _ | removed <;> rw [found] at negotiated
    · exact current remoteId under negotiated
    · cases negotiated
  | installed asked session =>
    rcases stored : decide (0 < (before.connections ref).login2session.capacity)
    · rw [stored] at negotiated
      exact current remoteId under negotiated
    · rw [stored] at negotiated guard
      rw [negotiatedUnder] at negotiated
      split at negotiated
      · cases negotiated
        exact guard
      · exact current remoteId under negotiated
  | built login found => exact current remoteId under negotiated
  | other same => exact current remoteId under negotiated

theorem bound_of_underCurrent {history : List SessionEvent} {orb : Orb}
    (run : Run (sessionMachine ref) history orb) (always : Always UnderCurrent history) :
    Bound history (orb.connections ref) := by
  have told := sessionsTold run
  have current : ∀ remoteId session,
      (orb.connections ref).login2session.find remoteId = some session →
      ∃ info, (orb.connections ref).loginInfo = some info ∧
        negotiatedUnder remoteId history = some info.id := by
    intro remoteId session found
    obtain ⟨under, negotiated⟩ := Option.isSome_iff_exists.mp (told.origin remoteId session found)
    obtain ⟨info, present, rfl⟩ := current_of_negotiated run always remoteId under negotiated
    exact ⟨info, told.login.trans present, negotiated⟩
  refine ⟨current, fun out remoteId => ?_⟩
  by_contra present
  obtain ⟨session, found⟩ := Option.ne_none_iff_exists'.mp present
  obtain ⟨info, login, -⟩ := current remoteId session found
  have logged := told.logged.mpr (by rw [← told.login, login]; rfl)
  rw [out] at logged
  cases logged

/-- No session outlives its login exactly if each one is installed while the login of its request is
current, and each credential over one is built with the current login. -/
theorem sessionsBound_iff {history : List SessionEvent} {orb : Orb}
    (run : Run (sessionMachine ref) history orb) :
    SessionsBound ref history ↔ Always UnderCurrent history := by
  induction run with
  | start init =>
    refine iff_of_true ⟨trivial, fun past s suffix before => ?_⟩ trivial
    obtain rfl := List.suffix_nil.mp suffix
    exact bound_of_underCurrent before trivial
  | @step past before t e run step ih =>
    constructor
    · rintro ⟨⟨built, earlier⟩, bound⟩
      have always := ih.mp ⟨earlier, fun other s suffix =>
        bound other s (suffix.trans (List.suffix_cons e past))⟩
      refine ⟨?_, always⟩
      have after := bound _ t (List.suffix_refl _) (run.step step)
      cases step with
      | installed under session =>
        rcases room : decide (0 < (before.connections ref).login2session.capacity)
        · trivial
        · have kept : (((before.setLogin2session ref ((before.connections ref).login2session.insert
              session.remoteId session)).connections ref).login2session).find session.remoteId =
              some session := by
            rw [Orb.connections_setLogin2session, LRUCache.find_insert_self]
            exact if_pos (of_decide_eq_true room)
          obtain ⟨info, present, negotiated⟩ := after.current _ _ kept
          rw [room, negotiatedUnder, if_pos rfl] at negotiated
          refine ⟨info, ?_, (Option.some.inj negotiated).symm⟩
          rw [← (sessionsTold run).login, ← present]
          simp
      | @built remoteId session login found =>
        intro info present
        have negotiated : negotiatedUnder remoteId past = some login := built
        obtain ⟨other, same, rfl⟩ := current_of_negotiated run always remoteId login negotiated
        obtain rfl := Option.some.inj (present.symm.trans same)
        rfl
      | _ => trivial
    · rintro ⟨guard, always⟩
      obtain ⟨built, bound⟩ := ih.mpr always
      refine ⟨⟨?_, built⟩, ?_⟩
      · cases step with
        | @built remoteId session login found =>
          obtain ⟨info, present, negotiated⟩ := (bound_of_underCurrent run always).current _ _ found
          rw [(sessionsTold run).login] at present
          rw [BuiltSoundly, negotiated, guard info present]
        | _ => trivial
      · intro other s suffix reached
        rcases List.suffix_cons_iff.mp suffix with rfl | earlier
        · exact bound_of_underCurrent reached ⟨guard, always⟩
        · exact bound other s earlier reached

namespace Reference

/-- A connection that has not logged in, the default one of its context. -/
def idle : Orb :=
  { Orb.init (fun _ => .init ⟨[2]⟩ true) (fun _ => true) with defConn := some 0 }

/-- It logs in. -/
def loggedIn : Orb :=
  (idle.loginBy 0 ⟨.ok ReferencePlatform.facets, none, .ok ⟨ascii "c", ascii "C"⟩⟩).2

/-- The session which the bus offers. -/
def busSession : SecretSession := ⟨1, busLogin, ascii "B", .replicate 16 4, 0, false⟩

def offer : ServiceContexts :=
  Function.update (fun _ => none) Protocol.current.credentialContextId
    (some (referencePlatform.encodeValue (.credentialReset
      ⟨busLogin, ascii "B", 1, ReferencePlatform.pad 256 busSession.secret.toList⟩)))

/-- The bus answers the call of `logout`, which comes without a session, with a reset, and confirms
it when it comes again. -/
def offering : LogoutWorld where
  logout _ := tryCatch (installSession referencePlatform ⟨ascii "logout", []⟩ 0 offer) fun _ => pure ()
  selfId := .replicate 16 1
  previousId := .replicate 16 2

/-- The connection with its login, as the machine has it, and with the session. -/
def current : Orb :=
  idle.updateConnection 0 fun conn =>
    { conn with loginInfo := some ⟨ascii "c", ascii "C"⟩, invalidLogin := none, state := .logged }

def holding (orb : Orb) : Orb :=
  orb.setLogin2session 0 ((orb.connections 0).login2session.insert busLogin busSession)

theorem run_current : Run (sessionMachine 0) [.login ⟨ascii "c", ascii "C"⟩] current := by
  have start : Run (sessionMachine 0) [] idle := .start ⟨_, _, rfl⟩
  exact start.step (.login rfl)

theorem find_holding {orb : Orb} (room : 0 < (orb.connections 0).login2session.capacity) :
    ((holding orb).connections 0).login2session.find busLogin = some busSession := by
  rw [holding, Orb.connections_setLogin2session, LRUCache.find_insert_self, if_pos room]

end Reference

open Reference in
/-- A session that is agreed under the current login and used with it. -/
theorem sessionsBound_used :
    SessionsBound 0 [.built (ascii "c") busLogin, .installed (ascii "c") busLogin true,
      .login ⟨ascii "c", ascii "C"⟩] := by
  have installed : Run (sessionMachine 0)
      [.installed (ascii "c") busLogin true, .login ⟨ascii "c", ascii "C"⟩] (holding current) :=
    run_current.step (.installed (ascii "c") busSession)
  have built := installed.step (.built (ascii "c") (find_holding (by decide)))
  apply (sessionsBound_iff built).mpr
  simp [Always, UnderCurrent, currentOf]

open Reference in
/-- `logout` leaves the session behind that its own call has been offered. -/
theorem session_left_behind :
    (((loggedIn.logout referencePlatform offering 0).2.connections 0).state = .loggedOut ∧
      ((loggedIn.logout referencePlatform offering 0).2.connections 0).login2session.find busLogin =
        some busSession) ∧
    (∃ orb, Run (sessionMachine 0) [.installed (ascii "c") busLogin true,
      .cleared (some ⟨ascii "c", ascii "C"⟩), .login ⟨ascii "c", ascii "C"⟩] orb) ∧
    ¬ SessionsBound 0 [.installed (ascii "c") busLogin true,
      .cleared (some ⟨ascii "c", ascii "C"⟩), .login ⟨ascii "c", ascii "C"⟩] := by
  have cleared : Run (sessionMachine 0)
      [.cleared (some ⟨ascii "c", ascii "C"⟩), .login ⟨ascii "c", ascii "C"⟩]
      (current.logoutSection 0) := run_current.step .cleared
  have installed : Run (sessionMachine 0) [.installed (ascii "c") busLogin true,
      .cleared (some ⟨ascii "c", ascii "C"⟩), .login ⟨ascii "c", ascii "C"⟩]
      (holding (current.logoutSection 0)) := cleared.step (.installed (ascii "c") busSession)
  refine ⟨⟨by decide +kernel, by decide +kernel⟩, ⟨_, installed⟩, fun bound => ?_⟩
  have none := (bound.2 _ _ (List.suffix_refl _) installed).loggedOut rfl busLogin
  rw [find_holding (by decide)] at none
  cases none

end ClientInterceptor

end OpenBus
