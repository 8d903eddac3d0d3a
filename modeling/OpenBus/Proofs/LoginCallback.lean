import OpenBus.Model.LoginCallback
import OpenBus.Proofs.Orb

/-! # What operations do to the login and to the invalid login

A login that comes about is a new one, and a login that becomes invalid was current. A connection
that is without a login or without an invalid login stays so, whatever the thread does with it.
-/

namespace OpenBus

open Machine

namespace LoginCallback

open ConnectionThreads (currentLogin)

variable {Rest : Type} {conn after : Connection} {used used' : List Identifier} {e : CallbackEvent}

/-- The effect of an operation on the logins of the connection. -/
inductive Effect (conn : Connection) (used : List Identifier) (after : Connection) :
    List Identifier → Prop
  | login {info : LoginInfo} (named : info.id ≠ []) (fresh : info.id ∉ used)
      (logged : after.state = .logged) (current : after.loginInfo = some info)
      (invalid : after.invalidLogin = none) : Effect conn used after (info.id :: used)
  | cleared (out : after.state = .loggedOut) (current : after.loginInfo = none)
      (invalid : after.invalidLogin = none) : Effect conn used after used
  | invalidated {info : LoginInfo} (before : conn.loginInfo = some info)
      (out : after.state = .loggedOut) (current : after.loginInfo = none)
      (invalid : after.invalidLogin = some info) : Effect conn used after used
  | same (state : after.state = conn.state) (current : after.loginInfo = conn.loginInfo)
      (invalid : after.invalidLogin = conn.invalidLogin) : Effect conn used after used

theorem logout_of_logged (logged : conn.state = .logged) :
    conn.logout.loginInfo = none ∧ conn.logout.invalidLogin = none := by
  simp [Connection.logout, logged]

@[simp] theorem onInvalidLogin_logout (conn : Connection) :
    conn.logout.onInvalidLogin = conn.onInvalidLogin := by
  unfold Connection.logout
  split <;> rfl

theorem loginInfo_logout_of_sound (sound : Sound conn used) : conn.logout.loginInfo = none := by
  cases state : conn.state with
  | logged => exact (logout_of_logged state).1
  | loggedOut =>
    rw [Connection.logout_of_loggedOut state]
    exact sound.out.mp state

theorem Operation.effect (sound : Sound conn used)
    (operation : Operation (conn, used) e (after, used')) : Effect conn used after used' := by
  cases operation with
  | login facets info named fresh free =>
    obtain ⟨-, rfl⟩ := Connection.login_eq_some_iff.mp free
    exact .login named fresh rfl rfl rfl
  | logout =>
    cases state : conn.state with
    | logged =>
      obtain ⟨current, invalid⟩ := logout_of_logged state
      exact .cleared (Connection.state_logout conn) current invalid
    | loggedOut =>
      rw [Connection.logout_of_loggedOut state]
      exact .same rfl rfl rfl
  | invalidated current =>
    exact .invalidated current (Connection.state_logout conn) (loginInfo_logout_of_sound sound) rfl
  | setCallback registered => exact .same rfl rfl rfl
  | answered found => exact .same rfl rfl rfl
  | other same =>
    simp only [standing, Prod.mk.injEq] at same
    exact .same same.1 same.2.1 same.2.2.1

theorem Effect.sound (effect : Effect conn used after used') (sound : Sound conn used) :
    Sound after used' := by
  cases effect with
  | @login info named fresh logged current invalid =>
    refine ⟨by simp [logged, current], ?_, by simp [invalid]⟩
    rw [current]
    rintro _ ⟨rfl⟩
    exact ⟨named, List.mem_cons_self⟩
  | cleared out current invalid =>
    exact ⟨by simp [out, current], by simp [current], by simp [invalid]⟩
  | @invalidated info before out current invalid =>
    refine ⟨by simp [out, current], by simp [current], ?_⟩
    rw [invalid]
    rintro _ ⟨rfl⟩
    exact sound.current _ before
  | same state current invalid =>
    constructor
    · rw [state, current]
      exact sound.out
    · rw [current]
      exact sound.current
    · rw [invalid]
      exact sound.invalid

/-- The section after a turn without a callback forgets the invalid login. -/
theorem Sound.forget (sound : Sound conn used) : Sound { conn with invalidLogin := none } used :=
  ⟨sound.out, sound.current, by simp⟩

theorem Effect.used_subset (effect : Effect conn used after used') : used ⊆ used' := by
  cases effect with
  | login => exact List.subset_cons_self _ _
  | _ => exact List.Subset.refl _

/-- Without a login or without an invalid login. -/
def Exclusive (conn : Connection) : Prop := conn.loginInfo = none ∨ conn.invalidLogin = none

theorem Effect.exclusive (effect : Effect conn used after used') (exclusive : Exclusive conn) :
    Exclusive after := by
  cases effect with
  | login _ _ _ _ invalid => exact .inr invalid
  | cleared _ current _ => exact .inl current
  | invalidated _ _ current _ => exact .inl current
  | same _ current invalid => rwa [Exclusive, current, invalid]

/-- A login that is current later was so before, or it is new. -/
theorem Effect.current (effect : Effect conn used after used') {info : LoginInfo}
    (current : after.loginInfo = some info) : conn.loginInfo = some info ∨ info.id ∉ used := by
  cases effect with
  | login _ fresh _ now _ =>
    rw [now] at current
    cases current
    exact .inr fresh
  | cleared _ now _ | invalidated _ _ now _ =>
    rw [now] at current
    cases current
  | same _ now _ => exact .inl (now.symm.trans current)

/-- A login that is invalid later was so before, or it was current. -/
theorem Effect.invalid (effect : Effect conn used after used') {info : LoginInfo}
    (invalid : after.invalidLogin = some info) :
    conn.invalidLogin = some info ∨ conn.loginInfo = some info := by
  cases effect with
  | login _ _ _ _ now | cleared _ _ now =>
    rw [now] at invalid
    cases invalid
  | invalidated before _ _ now =>
    rw [now] at invalid
    cases invalid
    exact .inr before
  | same _ _ now => exact .inl (now.symm.trans invalid)

end LoginCallback

end OpenBus
