import OpenBus.Model.RenewThreads

/-! # What a step does to the threads that renew

A thread is active until a logout has interrupted it. The threads that are active and the login of
the connection change together: a login comes with a thread, and the logout that discards the login
finds the thread under its identifier.
-/

namespace OpenBus

open Machine

namespace RenewThreads

open ConnectionThreads

/-- The thread runs, and has not been interrupted. -/
def Renewal.Active (s : Renewal) (thread : ℕ) : Prop :=
  ∃ renewer, s.renewer thread = some renewer ∧ renewer.interrupted = false ∧
    renewer.phase ≠ .ended

/-- The steps that leave the connection logged out. -/
def removes : ThreadEvent → Bool
  | .logout .. | .discarded .. => true
  | _ => false

/-- A step of a thread logs in, or logs out, or leaves the login alone. -/
theorem login_cases {s t : Shared} {e : ThreadEvent} (step : ThreadStep s e t) :
    (∃ thread info bus, e = .login thread info bus ∧ s.conn.state = .loggedOut ∧
      t.conn.state = .logged ∧ t.conn.loginInfo = some info) ∨
    (removes e = true ∧ removedLogin e = s.conn.loginInfo ∧ t.conn.state = .loggedOut) ∨
    (removes e = false ∧ removedLogin e = none ∧ (∀ thread info bus, e ≠ .login thread info bus) ∧
      t.conn.state = s.conn.state ∧ t.conn.loginInfo = s.conn.loginInfo) := by
  rcases step.conn_cases with ⟨thread, facets, rfl, conn⟩ | ⟨thread, info, bus, rfl, logged⟩ |
    ⟨⟨thread, rfl⟩ | ⟨thread, invalid, rfl⟩, conn⟩ | ⟨thread, invalid, rfl, conn⟩ |
    ⟨quiet, same, -⟩
  · exact .inr (.inr ⟨rfl, rfl, by simp, by rw [conn]; rfl, by rw [conn]; rfl⟩)
  · obtain ⟨out, conn⟩ := Connection.login_eq_some_iff.mp logged
    exact .inl ⟨thread, info, bus, rfl, out, by rw [conn], by rw [conn]⟩
  · exact .inr (.inl ⟨rfl, rfl, by rw [conn, Connection.state_logout]⟩)
  · exact .inr (.inl ⟨rfl, rfl, by rw [conn, Connection.state_logout]⟩)
  · exact .inr (.inr ⟨rfl, rfl, by simp, by rw [conn], by rw [conn]⟩)
  · simp only [standing, Prod.mk.injEq] at same
    refine .inr (.inr ⟨?_, ?_, ?_, same.1, same.2.1⟩) <;> cases e <;> simp_all [removes,
      removedLogin, ThreadEvent.isQuiet]

theorem Phase.ne_ended_of_within {phase : Phase} {gone : Prop}
    (within : phase = .starting ∧ gone ∨ phase = .renewing) : phase ≠ .ended := by
  rcases within with ⟨rfl, -⟩ | rfl <;> simp

theorem Renewer.pending_iff {renewer : Renewer} :
    renewer.pending = true ↔ renewer.interrupted = true ∧ renewer.swallowed = false := by
  simp [Renewer.pending]

/-- An interruption that is not noticed has not been requested, or has been swallowed. -/
theorem Renewer.pending_eq_false_iff {renewer : Renewer} :
    renewer.pending = false ↔ renewer.interrupted = false ∨ renewer.swallowed = true := by
  cases interrupted : renewer.interrupted <;> simp [Renewer.pending, interrupted]

namespace Renewal

variable {s : Renewal} {thread : ℕ} {renewer : Renewer}

@[simp] theorem renewThreads_interrupt (s : Renewal) (login : Option LoginInfo) :
    (s.interrupt login).renewThreads = s.renewThreads := by
  unfold interrupt
  split <;> rfl

theorem renewer_interrupt (s : Renewal) (login : Option LoginInfo) (thread : ℕ) :
    (s.interrupt login).renewer thread =
      if (login.bind fun info => s.renewThreads info.id) = some thread then
        (s.renewer thread).map fun renewer =>
          { renewer with interrupted := true, swallowed := false }
      else s.renewer thread := by
  unfold interrupt
  cases found : login.bind fun info => s.renewThreads info.id with
  | none => simp
  | some other =>
    by_cases same : other = thread
    · subst same
      simp
    · simp [same, Function.update_of_ne (Ne.symm same)]

/-- An interruption leaves a thread where it stands. -/
theorem of_renewer_interrupt {login : Option LoginInfo}
    (found : (s.interrupt login).renewer thread = some renewer) :
    ∃ before, s.renewer thread = some before ∧ renewer.login = before.login ∧
      renewer.phase = before.phase ∧
      (renewer.interrupted = false → before.interrupted = false ∧
        (login.bind fun info => s.renewThreads info.id) ≠ some thread) := by
  rw [renewer_interrupt] at found
  split at found
  · obtain ⟨before, present, rfl⟩ := Option.map_eq_some_iff.mp found
    exact ⟨before, present, rfl, rfl, by simp⟩
  next differ => exact ⟨renewer, found, rfl, rfl, fun running => ⟨running, differ⟩⟩

@[simp] theorem turn_turn (s : Renewal) (thread : ℕ) (first second : Renewer) :
    (s.turn thread first).turn thread second = s.turn thread second := by
  simp [turn]

/-- The thread of the login is interrupted. -/
theorem interrupt_turn {login : LoginInfo} (found : s.renewThreads login.id = some thread)
    (renewer : Renewer) : (s.turn thread renewer).interrupt (some login) =
      s.turn thread { renewer with interrupted := true, swallowed := false } := by
  simp [interrupt, turn, found]

theorem of_renewer_turn {turned found : Renewer} {other : ℕ}
    (present : (s.turn thread turned).renewer other = some found) :
    (other = thread ∧ found = turned) ∨ (other ≠ thread ∧ s.renewer other = some found) := by
  by_cases same : other = thread
  · subst same
    simp only [turn, Function.update_self, Option.some.injEq] at present
    exact .inl ⟨rfl, present.symm⟩
  · simp only [turn, Function.update_of_ne same] at present
    exact .inr ⟨same, present⟩

end Renewal

/-- The active threads are those of the current login. -/
structure Sound (s : Renewal) : Prop where
  current : ∀ thread renewer, s.renewer thread = some renewer → renewer.interrupted = false →
    renewer.phase ≠ .ended → s.shared.conn.state = .logged ∧
      s.shared.conn.loginInfo = some renewer.login ∧
      s.renewThreads renewer.login.id = some thread
  served : s.shared.conn.state = .logged → ∃ thread, s.Active thread
  destroyed : s.destroyed = true → s.shared.conn.state = .loggedOut

namespace Sound

variable {s : Renewal}

theorem loggedOut (sound : Sound s) (out : s.shared.conn.state = .loggedOut) {thread : ℕ}
    {renewer : Renewer} (here : s.renewer thread = some renewer)
    (runs : renewer.phase ≠ .ended) : renewer.interrupted = true := by
  by_contra running
  rw [Bool.not_eq_true] at running
  obtain ⟨logged, -⟩ := sound.current thread renewer here running runs
  rw [out] at logged
  cases logged

/-- What a thread does by itself. -/
theorem turn (sound : Sound s) {thread : ℕ} {before after : Renewer}
    (here : s.renewer thread = some before) (login : after.login = before.login)
    (same : after.interrupted = before.interrupted) (runs : before.phase ≠ .ended)
    (ends : after.phase = .ended → before.interrupted = true ∨ s.destroyed = true) :
    Sound (s.turn thread after) := by
  refine ⟨?_, fun logged => ?_, sound.destroyed⟩
  · intro other renewer found running going
    rcases Renewal.of_renewer_turn found with ⟨rfl, rfl⟩ | ⟨-, present⟩
    · rw [login]
      exact sound.current _ before here (same.symm.trans running) runs
    · exact sound.current other renewer present running going
  · obtain ⟨other, renewer, found, running, going⟩ := sound.served logged
    by_cases self : other = thread
    · subst self
      obtain rfl := Option.some.inj (here.symm.trans found)
      refine ⟨other, after, Function.update_self .., same.trans running, fun ended => ?_⟩
      rcases ends ended with interrupted | gone
      · rw [running] at interrupted
        cases interrupted
      · cases (sound.destroyed gone).symm.trans logged
    · exact ⟨other, renewer, (Function.update_of_ne self ..).trans found, running, going⟩

/-- A logout interrupts every thread that is active. -/
theorem logout (sound : Sound s) {t : Renewal} (out : t.shared.conn.state = .loggedOut)
    (renewer : t.renewer = (s.interrupt s.shared.conn.loginInfo).renewer) : Sound t := by
  refine ⟨?_, fun logged => ?_, fun _ => out⟩
  · intro thread after found running going
    rw [renewer] at found
    obtain ⟨before, here, login, phase, kept⟩ := Renewal.of_renewer_interrupt found
    obtain ⟨was, spared⟩ := kept running
    obtain ⟨-, loginInfo, registered⟩ := sound.current thread before here was (phase ▸ going)
    rw [loginInfo] at spared
    exact absurd registered spared
  · rw [out] at logged
    cases logged

/-- A login finds no active thread, and brings one. -/
theorem login (sound : Sound s) {thread : ℕ} {info : LoginInfo} {t : Shared}
    (out : s.shared.conn.state = .loggedOut) (logged : t.conn.state = .logged)
    (loginInfo : t.conn.loginInfo = some info) (remains : s.destroyed = false)
    (validityTime : ULong) : Sound { s.start thread info validityTime with shared := t } := by
  refine ⟨?_, fun _ => ?_, fun gone => ?_⟩
  · intro other renewer found running going
    by_cases same : other = thread
    · subst same
      simp only [Renewal.start, Function.update_self, Option.some.injEq] at found
      subst found
      exact ⟨logged, loginInfo, Function.update_self ..⟩
    · simp only [Renewal.start, Function.update_of_ne same] at found
      rw [sound.loggedOut out found going] at running
      cases running
  · exact ⟨thread, _, Function.update_self .., rfl, by simp⟩
  · exact absurd (remains.symm.trans gone) (by simp)

theorem step (sound : Sound s) {e : RenewEvent} {t : Renewal} (step : RenewStep s e t) :
    Sound t := by
  cases step with
  | operation step remains rests other =>
    rcases login_cases step with ⟨thread, info, bus, rfl, -⟩ | ⟨-, removed, out⟩ |
      ⟨-, removed, -, state, loginInfo⟩
    · exact absurd rfl (other thread info bus)
    · exact sound.logout out (by rw [removed])
    · rw [removed]
      refine ⟨?_, ?_, ?_⟩
      · intro thread renewer found running going
        rw [state, loginInfo]
        exact sound.current thread renewer found running going
      · intro logged
        exact sound.served (state ▸ logged)
      · intro gone
        exact state.trans (sound.destroyed gone)
  | login step remains rests fresh free validityTime =>
    rcases login_cases step with ⟨thread, info, bus, same, out, logged, loginInfo⟩ |
      ⟨no, -⟩ | ⟨-, -, no, -⟩
    · cases same
      exact sound.login out logged loginInfo remains validityTime
    · cases no
    · exact absurd rfl (no _ _ _)
  | destroy remains unused => exact sound.logout (Connection.state_logout _) rfl
  | start here starting => exact sound.turn here rfl rfl (by simp [starting]) (by simp)
  | leave here starting gone =>
    exact sound.turn here rfl rfl (by simp [starting]) fun _ => .inr gone
  | wake here sleeping undisturbed => exact sound.turn here rfl rfl (by simp [sleeping]) (by simp)
  | stop here sleeping interrupted =>
    exact sound.turn here rfl rfl (by simp [sleeping]) fun _ =>
      .inl (Renewer.pending_iff.mp interrupted).1
  | renew validityTime here renewing returned =>
    exact sound.turn here rfl rfl (by simp [renewing]) (by simp)
  | swallow here within interrupted =>
    have runs : _ ≠ Phase.ended := Phase.ne_ended_of_within within
    exact sound.turn here rfl rfl runs fun ended => absurd ended runs

theorem of_run {history : List RenewEvent} (run : Run renewMachine history s) : Sound s := by
  apply run.invariant (fun _ => Sound)
  · rintro s ⟨⟨⟨key, legacySupport, conn⟩, -⟩, none, -, remains⟩
    refine ⟨fun thread renewer found => ?_, fun logged => ?_, fun gone => ?_⟩
    · rw [none] at found
      cases found
    · rw [conn] at logged
      cases logged
    · rw [remains] at gone
      cases gone
  · intro past s e t _ sound step
    exact sound.step step

end Sound

end RenewThreads

end OpenBus
