import OpenBus.Proofs.RenewThreads
import OpenBus.Soundness.LoggedSetUp

/-! # The logins that are renewed

While a connection is logged in, one thread renews its login, and every renewal is begun by the
thread of the login in force. Once it is logged out, each thread takes two more steps at most, none
of which begins a renewal, so that a destructor which waits for the threads comes to its end. Only a
thread that has lost its interruption in a destructor goes on. What a destructor has waited for
leaves the connection alone, if the bus gives no two logins the same identifier.
-/

namespace OpenBus

open Machine

namespace RenewThreads

open ConnectionThreads

/-- The login in force after a history, and the thread that it has started. -/
def inForce : List RenewEvent → Option (ℕ × LoginInfo)
  | [] => none
  | .login thread info :: _ => some (thread, info)
  | .destroyed :: _ => none
  | .operation e :: past => if removes e then none else inForce past
  | _ :: past => inForce past

/-- A thread that is active has been started by the login in force, and is still active while the
login is. -/
structure Follows (history : List RenewEvent) (s : Renewal) : Prop where
  active : ∀ thread, s.Active thread → ∃ info, inForce history = some (thread, info)
  inForce : ∀ thread info, inForce history = some (thread, info) →
    s.Active thread ∧ s.shared.conn.state = .logged ∧ s.shared.conn.loginInfo = some info

theorem active_turn_iff {s : Renewal} {thread : ℕ} {before after : Renewer}
    (here : s.renewer thread = some before) (same : after.interrupted = before.interrupted)
    (runs : before.phase ≠ .ended) (ends : after.phase = .ended → before.interrupted = true)
    (other : ℕ) : (s.turn thread after).Active other ↔ s.Active other := by
  by_cases self : other = thread
  · subst self
    simp only [Renewal.Active, Renewal.turn, Function.update_self, here, Option.some.injEq,
      exists_eq_left', same]
    refine and_congr_right fun running => ⟨fun _ => runs, fun _ ended => ?_⟩
    rw [ends ended] at running
    cases running
  · simp only [Renewal.Active, Renewal.turn, Function.update_of_ne self]

theorem Follows.of_active_iff {past history : List RenewEvent} {s t : Renewal}
    (follows : Follows past s) (active : ∀ thread, t.Active thread ↔ s.Active thread)
    (same : RenewThreads.inForce history = RenewThreads.inForce past)
    (state : t.shared.conn.state = s.shared.conn.state)
    (loginInfo : t.shared.conn.loginInfo = s.shared.conn.loginInfo) : Follows history t := by
  refine ⟨fun thread runs => ?_, fun thread info force => ?_⟩
  · rw [same]
    exact follows.active thread ((active thread).mp runs)
  · rw [state, loginInfo, active]
    exact follows.inForce thread info (same ▸ force)

/-- No thread is active in a connection that is logged out. -/
theorem Follows.of_loggedOut {history : List RenewEvent} {s : Renewal} (sound : Sound s)
    (out : s.shared.conn.state = .loggedOut) (ends : RenewThreads.inForce history = none) :
    Follows history s := by
  refine ⟨fun thread ⟨renewer, here, running, runs⟩ => ?_, fun thread info force => ?_⟩
  · rw [sound.loggedOut out here runs] at running
    cases running
  · rw [ends] at force
    cases force

theorem follows {history : List RenewEvent} {s : Renewal} (run : Run renewMachine history s) :
    Follows history s := by
  apply run.invariant Follows
  · rintro s ⟨⟨⟨key, legacySupport, conn⟩, -⟩, none, -, -⟩
    refine ⟨fun thread ⟨renewer, here, _⟩ => ?_, fun thread info force => ?_⟩
    · rw [none] at here
      cases here
    · cases force
  · intro past s e t reached follows step
    have sound := Sound.of_run reached
    have after := sound.step step
    cases step with
    | operation step remains rests other =>
      rcases login_cases step with ⟨thread, info, bus, rfl, -⟩ | ⟨removes, removed, out⟩ |
        ⟨keeps, removed, -, state, loginInfo⟩
      · exact absurd rfl (other thread info bus)
      · exact .of_loggedOut after out (by rw [inForce, if_pos removes])
      · rw [removed] at after ⊢
        exact follows.of_active_iff (fun _ => Iff.rfl)
          (by rw [inForce, if_neg (by simp [keeps])]) state loginInfo
    | @login thread renewer info bus t step remains rests fresh free validityTime =>
      rcases login_cases step with ⟨_, _, _, same, out, logged, loginInfo⟩ | ⟨no, -⟩ | ⟨-, -, no, -⟩
      · cases same
        have started : ({ s.start renewer info validityTime with shared := t } : Renewal).Active
            renewer := ⟨_, Function.update_self .., rfl, by simp⟩
        refine ⟨fun other active => ⟨info, ?_⟩, fun other found force => ?_⟩
        · obtain ⟨first, here, running, runs⟩ := active
          obtain ⟨-, mine, registered⟩ := after.current other first here running runs
          obtain rfl : info = first.login := Option.some.inj (loginInfo.symm.trans mine)
          have same : (s.start renewer first.login validityTime).renewThreads first.login.id =
            some renewer := Function.update_self ..
          rw [inForce, Option.some.inj (same.symm.trans registered)]
        · cases force
          exact ⟨started, logged, loginInfo⟩
      · cases no
      · exact absurd rfl (no _ _ _)
    | destroy remains unused => exact .of_loggedOut after (Connection.state_logout _) rfl
    | start here starting =>
      exact follows.of_active_iff (active_turn_iff here rfl (by simp [starting]) (by simp)) rfl
        rfl rfl
    | leave here starting gone =>
      have interrupted := sound.loggedOut (sound.destroyed gone) here (by simp [starting])
      exact follows.of_active_iff (active_turn_iff here rfl (by simp [starting]) fun _ =>
        interrupted) rfl rfl rfl
    | wake here sleeping undisturbed =>
      exact follows.of_active_iff (active_turn_iff here rfl (by simp [sleeping]) (by simp)) rfl
        rfl rfl
    | stop here sleeping interrupted =>
      exact follows.of_active_iff (active_turn_iff here rfl (by simp [sleeping]) fun _ =>
        (Renewer.pending_iff.mp interrupted).1) rfl rfl rfl
    | renew validityTime here renewing returned =>
      exact follows.of_active_iff (active_turn_iff here rfl (by simp [renewing]) (by simp)) rfl
        rfl rfl
    | swallow here within interrupted =>
      have runs := Phase.ne_ended_of_within within
      exact follows.of_active_iff (active_turn_iff here rfl runs fun ended => absurd ended runs) rfl
        rfl rfl

/-- A thread whose interruption has been swallowed has taken the step in which it was. -/
theorem swallowed_mem {history : List RenewEvent} {s : Renewal} (run : Run renewMachine history s) :
    ∀ thread renewer, s.renewer thread = some renewer → renewer.swallowed = true →
      RenewEvent.swallowed thread ∈ history := by
  apply run.invariant fun history (s : Renewal) => ∀ thread renewer,
    s.renewer thread = some renewer → renewer.swallowed = true → .swallowed thread ∈ history
  · rintro s ⟨-, none, -, -⟩ thread renewer here
    cases (none thread).symm.trans here
  · intro past s e t _ remembered step thread renewer here swallowed
    have turned {actor : ℕ} {before after : Renewer}
        (found : (s.turn actor after).renewer thread = some renewer)
        (acts : s.renewer actor = some before) (same : after.swallowed = before.swallowed) :
        .swallowed thread ∈ past := by
      rcases Renewal.of_renewer_turn found with ⟨rfl, rfl⟩ | ⟨-, present⟩
      · exact remembered _ _ acts (same.symm.trans swallowed)
      · exact remembered _ _ present swallowed
    have interrupted {login : Option LoginInfo}
        (found : (s.interrupt login).renewer thread = some renewer) :
        .swallowed thread ∈ past := by
      rw [Renewal.renewer_interrupt] at found
      split at found
      · obtain ⟨before, -, rfl⟩ := Option.map_eq_some_iff.mp found
        cases swallowed
      · exact remembered _ _ found swallowed
    cases step with
    | operation => exact List.mem_cons_of_mem _ (interrupted here)
    | destroy => exact List.mem_cons_of_mem _ (interrupted here)
    | @login _ started info _ _ _ _ _ fresh _ _ =>
      refine List.mem_cons_of_mem _ ?_
      by_cases same : thread = started
      · subst same
        simp only [Renewal.start, Function.update_self, Option.some.injEq] at here
        subst here
        cases swallowed
      · simp only [Renewal.start, Function.update_of_ne same] at here
        exact remembered _ _ here swallowed
    | start acts => exact List.mem_cons_of_mem _ (turned here acts rfl)
    | leave acts => exact List.mem_cons_of_mem _ (turned here acts rfl)
    | wake acts => exact List.mem_cons_of_mem _ (turned here acts rfl)
    | stop acts => exact List.mem_cons_of_mem _ (turned here acts rfl)
    | renew _ acts => exact List.mem_cons_of_mem _ (turned here acts rfl)
    | swallow acts =>
      rcases Renewal.of_renewer_turn here with ⟨rfl, -⟩ | ⟨-, present⟩
      · exact List.mem_cons_self
      · exact List.mem_cons_of_mem _ (remembered _ _ present swallowed)

/-- Every renewal is begun by the thread which the login in force has started, or by one that has
lost its interruption in a destructor. -/
theorem woken_inForce {history past : List RenewEvent} {s : Renewal} {thread : ℕ}
    (run : Run renewMachine history s) (suffix : .woken thread :: past <:+ history) :
    (∃ info, inForce past = some (thread, info)) ∨ .swallowed thread ∈ past := by
  obtain ⟨t, reached⟩ := run.of_suffix suffix
  cases reached with
  | step run step =>
    cases step with
    | wake here sleeping undisturbed =>
      rcases Renewer.pending_eq_false_iff.mp undisturbed with running | swallowed
      · exact .inl ((follows run).active thread ⟨_, here, running, by simp [sleeping]⟩)
      · exact .inr (swallowed_mem run _ _ here swallowed)

/-- The thread that takes a step of its own. -/
def RenewEvent.actor : RenewEvent → Option ℕ
  | .started thread | .woken thread | .renewed thread _ | .swallowed thread | .ended thread =>
      some thread
  | _ => none

/-- The steps that a thread takes. -/
def taken (thread : ℕ) (history : List RenewEvent) : ℕ :=
  history.countP fun e => e.actor = some thread

/-- The steps which an interrupted thread has ahead of it. -/
def Phase.ahead : Phase → ℕ
  | .starting | .renewing => 2
  | .sleeping => 1
  | .ended => 0

def Renewal.ahead (s : Renewal) (thread : ℕ) : ℕ :=
  ((s.renewer thread).map fun renewer => renewer.phase.ahead).getD 0

theorem ahead_interrupt {s t : Renewal} {login : Option LoginInfo}
    (renewer : t.renewer = (s.interrupt login).renewer) (thread : ℕ) :
    t.ahead thread = s.ahead thread := by
  rw [Renewal.ahead, renewer, Renewal.renewer_interrupt]
  split
  · cases found : s.renewer thread <;> simp [Renewal.ahead, found]
  · rfl

theorem ahead_turn {s : Renewal} {actor : ℕ} {before after : Renewer}
    (here : s.renewer actor = some before) (less : after.phase.ahead + 1 ≤ before.phase.ahead)
    (thread : ℕ) : (if actor = thread then 1 else 0) + (s.turn actor after).ahead thread ≤
      s.ahead thread := by
  by_cases same : actor = thread
  · subst same
    simp only [Renewal.ahead, Renewal.turn, Function.update_self, here, Option.map_some,
      Option.getD_some, if_true]
    omega
  · simp only [Renewal.ahead, Renewal.turn, Function.update_of_ne (Ne.symm same), if_neg same,
      zero_add, le_refl]

theorem ahead_le_two (s : Renewal) (thread : ℕ) : s.ahead thread ≤ 2 := by
  rw [Renewal.ahead]
  cases s.renewer thread with
  | none => simp
  | some renewer => cases phase : renewer.phase <;> simp [Phase.ahead, phase]

/-- The thread would notice an interruption. -/
def Renewal.Notices (s : Renewal) (thread : ℕ) : Prop :=
  ∀ renewer, s.renewer thread = some renewer → renewer.swallowed = false

/-- While the connection stays logged out, a thread that would notice its interruption begins no
renewal, and each step that it takes is one fewer ahead. -/
theorem loggedOut_step {s t : Renewal} {e : RenewEvent} {thread : ℕ} (sound : Sound s)
    (out : s.shared.conn.state = .loggedOut) (notices : s.Notices thread) (step : RenewStep s e t)
    (none : ∀ thread info, e ≠ .login thread info) (kept : e ≠ .swallowed thread) :
    t.shared.conn.state = .loggedOut ∧ e ≠ .woken thread ∧
    (if e.actor = some thread then 1 else 0) + t.ahead thread ≤ s.ahead thread := by
  cases step with
  | operation step remains rests other =>
    refine ⟨?_, by simp, ?_⟩
    · rcases login_cases step with ⟨thread, info, bus, rfl, -⟩ | ⟨-, -, left⟩ | ⟨-, -, -, state, -⟩
      · exact absurd rfl (other thread info bus)
      · exact left
      · exact state.trans out
    · simp only [RenewEvent.actor, reduceCtorEq, if_false, zero_add]
      exact (ahead_interrupt rfl thread).le
  | login step remains rests fresh free validityTime => exact absurd rfl (none _ _)
  | destroy remains unused =>
    refine ⟨Connection.state_logout _, by simp, ?_⟩
    simp only [RenewEvent.actor, reduceCtorEq, if_false, zero_add]
    exact (ahead_interrupt rfl thread).le
  | start here starting =>
    refine ⟨out, by simp, ?_⟩
    simpa [RenewEvent.actor] using ahead_turn here (by simp [Phase.ahead, starting]) thread
  | leave here starting gone =>
    refine ⟨out, by simp, ?_⟩
    simpa [RenewEvent.actor] using ahead_turn here (by simp [Phase.ahead, starting]) thread
  | @wake actor renewer here sleeping undisturbed =>
    have differ : actor ≠ thread := by
      rintro rfl
      have interrupted := sound.loggedOut out here (by simp [sleeping])
      have pending := Renewer.pending_iff.mpr ⟨interrupted, notices renewer here⟩
      rw [undisturbed] at pending
      cases pending
    refine ⟨out, by simpa using differ, ?_⟩
    simp [RenewEvent.actor, differ, Renewal.ahead, Renewal.turn, Function.update_of_ne differ.symm]
  | stop here sleeping interrupted =>
    refine ⟨out, by simp, ?_⟩
    simpa [RenewEvent.actor] using ahead_turn here (by simp [Phase.ahead, sleeping]) thread
  | renew validityTime here renewing returned =>
    refine ⟨out, by simp, ?_⟩
    simpa [RenewEvent.actor] using ahead_turn here (by simp [Phase.ahead, renewing]) thread
  | @swallow actor renewer here within interrupted =>
    have differ : actor ≠ thread := fun same => kept (by rw [same])
    refine ⟨out, by simp, ?_⟩
    simp [RenewEvent.actor, differ, Renewal.ahead, Renewal.turn, Function.update_of_ne differ.symm]

/-- In a connection that is logged out, a thread that notices its interruption begins no renewal
before the next login, and takes no more steps than it has ahead. -/
theorem taken_add_ahead_le {history later : List RenewEvent} {s t : Renewal} {thread : ℕ}
    (run : Run renewMachine history s) (out : s.shared.conn.state = .loggedOut)
    (continued : Run (renewMachine.resume s) later t)
    (none : ∀ thread info, RenewEvent.login thread info ∉ later)
    (kept : RenewEvent.swallowed thread ∉ later ++ history) :
    t.shared.conn.state = .loggedOut ∧ .woken thread ∉ later ∧
      taken thread later + t.ahead thread ≤ s.ahead thread := by
  induction continued with
  | start init =>
    cases init
    exact ⟨out, List.not_mem_nil, by simp [taken]⟩
  | @step past u v e continued step ih =>
    rw [List.cons_append, List.mem_cons, not_or] at kept
    obtain ⟨out, asleep, bound⟩ := ih (fun thread info mem =>
      none thread info (List.mem_cons_of_mem _ mem)) kept.2
    have reached := run.append continued
    have notices : u.Notices thread := fun renewer here => by
      by_contra swallowed
      rw [Bool.not_eq_false] at swallowed
      exact kept.2 (swallowed_mem reached _ _ here swallowed)
    obtain ⟨left, calm, fewer⟩ := loggedOut_step (.of_run reached) out notices step
      (fun thread info same => none thread info (List.mem_cons.mpr (.inl same.symm)))
      (Ne.symm kept.1)
    refine ⟨left, by simpa [asleep] using calm.symm, ?_⟩
    simp only [taken, List.countP_cons, decide_eq_true_eq] at bound ⊢
    omega

/-- In a connection that is logged out, each thread takes two more steps at most before it has
ended, and it can take them unless its call is still under way. None of them begins a renewal. So
it is until the next login, for a thread that has not lost its interruption in a destructor. -/
theorem ends_of_loggedOut {history later : List RenewEvent} {s t : Renewal} {thread : ℕ}
    (run : Run renewMachine history s) (out : s.shared.conn.state = .loggedOut)
    (continued : Run (renewMachine.resume s) later t)
    (none : ∀ thread info, RenewEvent.login thread info ∉ later)
    (kept : RenewEvent.swallowed thread ∉ later ++ history) :
    .woken thread ∉ later ∧ taken thread later + t.ahead thread ≤ s.ahead thread ∧
    s.ahead thread ≤ 2 ∧ (t.ahead thread = 0 ∨ t.shared.task thread ≠ .idle ∨
      ∃ e u, e.actor = some thread ∧ RenewStep t e u) := by
  obtain ⟨left, asleep, bound⟩ := taken_add_ahead_le run out continued none kept
  refine ⟨asleep, bound, ahead_le_two s thread, ?_⟩
  have reached := run.append continued
  by_cases idle : t.shared.task thread = .idle
  · cases here : t.renewer thread with
    | none => exact .inl (by simp [Renewal.ahead, here])
    | some renewer =>
      cases phase : renewer.phase with
      | starting => exact .inr (.inr ⟨_, _, rfl, .start here phase⟩)
      | sleeping =>
        have interrupted := (Sound.of_run reached).loggedOut left here (by simp [phase])
        cases swallowed : renewer.swallowed with
        | false =>
          have pending := Renewer.pending_iff.mpr ⟨interrupted, swallowed⟩
          exact .inr (.inr ⟨_, _, rfl, .stop here phase pending⟩)
        | true => exact absurd (swallowed_mem reached _ _ here swallowed) kept
      | renewing => exact .inr (.inr ⟨_, _, rfl, .renew .none here phase idle⟩)
      | ended => exact .inl (by simp [Renewal.ahead, here, phase, Phase.ahead])
  · exact .inr (.inl idle)

/-- What `join_renew_threads` has waited for: the threads registered, but for the calling one. -/
def Renewal.Joined (s : Renewal) (self : ℕ) : Prop :=
  ∀ id thread renewer, s.renewThreads id = some thread → s.renewer thread = some renewer →
    thread = self ∨ renewer.phase = .ended

/-- The identifier of a login. -/
def loginId : RenewEvent → Option Identifier
  | .login _ info => some info.id
  | _ => none

/-- A thread that does not call `renew` holds no operation, and is found under its login. -/
structure Registered (history : List RenewEvent) (s : Renewal) : Prop where
  found : (history.filterMap loginId).Nodup → ∀ thread renewer, s.renewer thread = some renewer →
    s.renewThreads renewer.login.id = some thread
  logged : ∀ id thread, s.renewThreads id = some thread → id ∈ history.filterMap loginId
  idle : ∀ thread renewer, s.renewer thread = some renewer → renewer.phase ≠ .renewing →
    s.shared.task thread = .idle

namespace Registered

variable {past : List RenewEvent} {s : Renewal}

/-- A step that starts no thread, and after which each thread is the one it has been. -/
theorem of_kept (registered : Registered past s) {e : RenewEvent} {t : Renewal}
    (none : loginId e = none) (same : t.renewThreads = s.renewThreads)
    (kept : ∀ thread after, t.renewer thread = some after → ∃ before,
      s.renewer thread = some before ∧ after.login = before.login)
    (idle : ∀ thread renewer, t.renewer thread = some renewer → renewer.phase ≠ .renewing →
      t.shared.task thread = .idle) : Registered (e :: past) t := by
  refine ⟨fun distinct thread after found => ?_, fun id thread found => ?_, idle⟩
  · rw [List.filterMap_cons_none none] at distinct
    obtain ⟨before, here, login⟩ := kept thread after found
    rw [same, login]
    exact registered.found distinct thread before here
  · rw [List.filterMap_cons_none none]
    exact registered.logged id thread (same ▸ found)

theorem turn (registered : Registered past s) {e : RenewEvent} (none : loginId e = none)
    {actor : ℕ} {before after : Renewer} (here : s.renewer actor = some before)
    (login : after.login = before.login)
    (idle : after.phase ≠ .renewing → s.shared.task actor = .idle) :
    Registered (e :: past) (s.turn actor after) := by
  refine registered.of_kept none rfl (fun thread found present => ?_) fun thread found present => ?_
  · rcases Renewal.of_renewer_turn present with ⟨rfl, rfl⟩ | ⟨-, other⟩
    · exact ⟨before, here, login⟩
    · exact ⟨found, other, rfl⟩
  · rcases Renewal.of_renewer_turn present with ⟨rfl, rfl⟩ | ⟨-, other⟩
    · exact idle
    · exact registered.idle thread found other

theorem interrupt (registered : Registered past s) {e : RenewEvent} (none : loginId e = none)
    {login : Option LoginInfo} {t : Renewal} (renewer : t.renewer = (s.interrupt login).renewer)
    (same : t.renewThreads = (s.interrupt login).renewThreads) (rests : s.Rests t.shared) :
    Registered (e :: past) t := by
  rw [Renewal.renewThreads_interrupt] at same
  refine registered.of_kept none same (fun thread after found => ?_) fun thread after found calm => ?_
  · rw [renewer] at found
    obtain ⟨before, here, login, -⟩ := Renewal.of_renewer_interrupt found
    exact ⟨before, here, login⟩
  · rw [renewer] at found
    obtain ⟨before, here, -, phase, -⟩ := Renewal.of_renewer_interrupt found
    rw [rests thread before here (phase ▸ calm)]
    exact registered.idle thread before here (phase ▸ calm)

theorem login (registered : Registered past s) {thread : ℕ} {info : LoginInfo} {t : Shared}
    (rests : s.Rests t) (free : t.task thread = .idle) (validityTime : ULong) :
    Registered (.login thread info :: past) { s.start thread info validityTime with shared := t } := by
  have ids : (RenewEvent.login thread info :: past).filterMap loginId =
      info.id :: past.filterMap loginId := rfl
  refine ⟨fun distinct other renewer found => ?_, fun id other found => ?_,
    fun other renewer found calm => ?_⟩
  · rw [ids, List.nodup_cons] at distinct
    by_cases same : other = thread
    · subst same
      simp only [Renewal.start, Function.update_self, Option.some.injEq] at found
      subst found
      exact Function.update_self ..
    · simp only [Renewal.start, Function.update_of_ne same] at found
      have present := registered.found distinct.2 other renewer found
      have differ : renewer.login.id ≠ info.id := fun equal =>
        distinct.1 (equal ▸ registered.logged _ _ present)
      exact (Function.update_of_ne differ ..).trans present
  · rw [ids]
    by_cases same : id = info.id
    · exact same ▸ List.mem_cons_self
    · simp only [Renewal.start, Function.update_of_ne same] at found
      exact List.mem_cons_of_mem _ (registered.logged id other found)
  · by_cases same : other = thread
    · exact same ▸ free
    · simp only [Renewal.start, Function.update_of_ne same] at found
      exact (rests other renewer found calm).trans (registered.idle other renewer found calm)

theorem of_run {history : List RenewEvent} (run : Run renewMachine history s) :
    Registered history s := by
  apply run.invariant Registered
  · rintro s ⟨-, fresh, empty, -⟩
    refine ⟨fun _ thread renewer found => ?_, fun id thread found => ?_,
      fun thread renewer found => ?_⟩
    · cases (fresh thread).symm.trans found
    · cases (empty id).symm.trans found
    · cases (fresh thread).symm.trans found
  · intro past s e t _ registered step
    cases step with
    | operation step remains rests other => exact registered.interrupt rfl rfl rfl rests
    | login step remains rests fresh free validityTime =>
      exact registered.login rests free validityTime
    | destroy remains unused => exact registered.interrupt rfl rfl rfl fun _ _ _ _ => rfl
    | start here starting =>
      exact registered.turn rfl here rfl fun _ =>
        registered.idle _ _ here (by simp [starting])
    | leave here starting gone =>
      exact registered.turn rfl here rfl fun _ =>
        registered.idle _ _ here (by simp [starting])
    | wake here sleeping undisturbed =>
      exact registered.turn rfl here rfl fun calm => absurd rfl calm
    | stop here sleeping interrupted =>
      exact registered.turn rfl here rfl fun _ =>
        registered.idle _ _ here (by simp [sleeping])
    | renew validityTime here renewing returned =>
      exact registered.turn rfl here rfl fun _ => returned
    | swallow here within interrupted =>
      exact registered.turn rfl here rfl fun calm => registered.idle _ _ here calm

end Registered

/-- A thread that has ended takes no step. -/
theorem ended_step {s t : Renewal} {e : RenewEvent} (step : RenewStep s e t) {thread : ℕ}
    {renewer : Renewer} (here : s.renewer thread = some renewer) (ended : renewer.phase = .ended) :
    e.actor ≠ some thread ∧ ∃ after, t.renewer thread = some after ∧ after.phase = .ended := by
  have turned {actor : ℕ} {before : Renewer} (after : Renewer) (acts : s.renewer actor = some before)
      (runs : before.phase ≠ .ended) : some actor ≠ some thread ∧
        ∃ left, (s.turn actor after).renewer thread = some left ∧ left.phase = .ended := by
    have differ : actor ≠ thread := by
      rintro rfl
      exact runs (Option.some.inj (acts.symm.trans here) ▸ ended)
    exact ⟨by simpa using differ, renewer, (Function.update_of_ne differ.symm ..).trans here, ended⟩
  have interrupted (login : Option LoginInfo) :
      ∃ after, (s.interrupt login).renewer thread = some after ∧ after.phase = .ended := by
    rw [Renewal.renewer_interrupt]
    split
    · exact ⟨{ renewer with interrupted := true, swallowed := false }, by rw [here]; rfl, ended⟩
    · exact ⟨renewer, here, ended⟩
  cases step with
  | operation => exact ⟨by simp [RenewEvent.actor], interrupted _⟩
  | destroy => exact ⟨by simp [RenewEvent.actor], interrupted _⟩
  | @login _ other info _ _ _ _ _ fresh _ _ =>
    have differ : thread ≠ other := by
      rintro rfl
      cases here.symm.trans fresh
    exact ⟨by simp [RenewEvent.actor], renewer, (Function.update_of_ne differ ..).trans here, ended⟩
  | start acts starting => exact turned _ acts (by simp [starting])
  | leave acts starting => exact turned _ acts (by simp [starting])
  | wake acts sleeping => exact turned _ acts (by simp [sleeping])
  | stop acts sleeping => exact turned _ acts (by simp [sleeping])
  | renew _ acts renewing => exact turned _ acts (by simp [renewing])
  | swallow acts within => exact turned _ acts (Phase.ne_ended_of_within within)

/-- Once the threads of a connection have been joined, none of those which it has had by then, other
than the calling one, takes a step or holds an operation. The bus has given no two logins the same
identifier. -/
theorem joined_quiet {history later : List RenewEvent} {s t : Renewal} {self : ℕ}
    (run : Run renewMachine history s) (distinct : (history.filterMap loginId).Nodup)
    (joined : s.Joined self) (continued : Run (renewMachine.resume s) later t) {thread : ℕ}
    (other : thread ≠ self) (renews : (s.renewer thread).isSome) :
    taken thread later = 0 ∧ t.ahead thread = 0 ∧ t.shared.task thread = .idle := by
  obtain ⟨renewer, here⟩ := Option.isSome_iff_exists.mp renews
  have found := (Registered.of_run run).found distinct thread renewer here
  have ended : renewer.phase = .ended := (joined _ _ _ found here).resolve_left other
  have quiet : taken thread later = 0 ∧ ∃ after, t.renewer thread = some after ∧
      after.phase = .ended := by
    apply continued.invariant fun later u => taken thread later = 0 ∧
      ∃ after, u.renewer thread = some after ∧ after.phase = .ended
    · rintro u rfl
      exact ⟨rfl, renewer, here, ended⟩
    · rintro past u e v _ ⟨still, after, left, gone⟩ step
      obtain ⟨idle, after⟩ := ended_step step left gone
      exact ⟨by simpa [taken, idle] using still, after⟩
  obtain ⟨still, after, left, gone⟩ := quiet
  have idle := (Registered.of_run (run.append continued)).idle thread after left (by simp [gone])
  exact ⟨still, by simp [Renewal.ahead, left, gone, Phase.ahead], idle⟩

namespace Reference

open ReferencePlatform (facets)
open ConnectionThreads.Reference (start run_start)

/-- Threads of which none has logged in yet. -/
def fresh (shared : Shared) : Renewal := ⟨shared, fun _ => none, fun _ => none, false⟩

/-- What threads do before the first login starts no thread. -/
theorem run_fresh {history : List ThreadEvent} {s : Shared} (run : Run threadMachine history s)
    (before : ∀ e ∈ history, e.isQuiet = true ∨ ∃ thread bus, e = .init thread bus) :
    Run renewMachine (history.map .operation) (fresh s) := by
  induction run with
  | start init => exact .start ⟨init, fun _ => rfl, fun _ => rfl, rfl⟩
  | @step past s t e run step ih =>
    have earlier := ih fun e mem => before e (List.mem_cons_of_mem _ mem)
    have here := before e List.mem_cons_self
    have moved := earlier.step (RenewStep.operation step rfl
      (fun thread renewer found => by cases found) fun thread info bus same => by
        subst same
        simp [ThreadEvent.isQuiet] at here)
    have none : removedLogin e = none := by
      rcases here with quiet | ⟨thread, bus, rfl⟩
      · cases e <;> first | rfl | cases quiet
      · rfl
    rw [none] at moved
    exact moved

def info : LoginInfo := ⟨ascii "a", ascii "C"⟩

/-- A connection with a login, and the thread that is to renew it. -/
def loggedIn : Renewal :=
  { (fresh (start.act 0 (.granted info (ascii "B")) (start.conn.loginInit facets))).start 7 info 60
      with shared := start.act 0 .idle { start.conn.loginInit facets with
        loginInfo := some info, invalidLogin := none, state := .logged } }

def loggingIn : List RenewEvent :=
  .login 7 info :: (granting 0 (ascii "B") []).map .operation

theorem run_loggedIn : Run renewMachine loggingIn loggedIn := by
  have granted := run_granted run_start 0 rfl rfl none facets
    (fun bus impossible => by cases impossible) info
  have before := run_fresh granted (by simp [granting, ThreadEvent.isQuiet])
  have logged := ThreadStep.login (Shared.task_act_self start 0 (.granted info (ascii "B"))
    (start.conn.loginInit facets)) (Connection.login_of_loggedOut rfl info)
  have step := before.step (@RenewStep.login _ 0 7 info _ _ logged rfl
    (fun thread renewer found => by cases found) rfl rfl 60)
  rw [Shared.act_act] at step
  exact step

/-- The thread of the login. -/
def renewing (phase : Phase) (interrupted : Bool) : Renewer :=
  ⟨info, some facets.accessControl, 60, phase, interrupted, false⟩

/-- The thread sleeps, and wakes to renew the login. -/
theorem run_woken : Run renewMachine (.woken 7 :: .started 7 :: loggingIn)
    (loggedIn.turn 7 (renewing .renewing false)) := by
  have here : loggedIn.renewer 7 = some (renewing .starting false) := rfl
  have asleep := run_loggedIn.step (RenewStep.start here rfl)
  have awake := asleep.step (RenewStep.wake (Function.update_self ..) rfl rfl)
  rw [Renewal.turn_turn] at awake
  exact awake

/-- Meanwhile the connection is logged out. -/
def loggedOut : Renewal :=
  { loggedIn.turn 7 (renewing .renewing true) with
    shared := loggedIn.shared.act 0 .idle loggedIn.shared.conn.logout }

def loggingOut : List RenewEvent :=
  .operation (.logout 0 (some info)) :: .woken 7 :: .started 7 :: loggingIn

theorem run_loggedOut : Run renewMachine loggingOut loggedOut := by
  have here : loggedIn.shared.task 0 = .idle := Shared.task_act_self ..
  have rests : (loggedIn.turn 7 (renewing .renewing false)).Rests
      (loggedIn.shared.act 0 .idle loggedIn.shared.conn.logout) := by
    intro thread renewer found calm
    by_cases acting : thread = 0
    · subst acting
      exact (Shared.task_act_self ..).trans here.symm
    · exact Shared.task_act_ne _ acting ..
  have out := run_woken.step (RenewStep.operation (ThreadStep.logout here) rfl rests (by simp))
  have interrupted : (loggedIn.turn 7 (renewing .renewing false)).interrupt (removedLogin
      (.logout 0 (loggedIn.turn 7 (renewing .renewing false)).shared.conn.loginInfo)) =
      loggedIn.turn 7 (renewing .renewing true) := Renewal.interrupt_turn rfl _
  rw [interrupted] at out
  exact out

/-- The call fails, and the thread ends. -/
theorem run_ending : Run (renewMachine.resume loggedOut) [.ended 7, .renewed 7 none]
    (loggedOut.turn 7 (renewing .ended true)) := by
  have start : Run (renewMachine.resume loggedOut) [] loggedOut := .start rfl
  have here : loggedOut.renewer 7 = some (renewing .renewing true) := rfl
  have failed := start.step (RenewStep.renew none here rfl rfl)
  have ended := failed.step (RenewStep.stop (Function.update_self ..) rfl rfl)
  rw [Renewal.turn_turn] at ended
  exact ended

end Reference

open Reference in
theorem woken_inForce_loggedIn :
    (∃ info, inForce (.started 7 :: loggingIn) = some (7, info)) ∨
      .swallowed 7 ∈ .started 7 :: loggingIn :=
  woken_inForce run_woken (List.suffix_refl _)

open Reference in
theorem ends_of_loggedOut_failing : .woken 7 ∉ [RenewEvent.ended 7, .renewed 7 none] ∧
    taken 7 [.ended 7, .renewed 7 none] + (loggedOut.turn 7 (renewing .ended true)).ahead 7 ≤
      loggedOut.ahead 7 :=
  have ends := ends_of_loggedOut run_loggedOut (Connection.state_logout _) run_ending (by simp)
    (by simp [Reference.loggingOut, Reference.loggingIn, granting])
  ⟨ends.1, ends.2.1⟩

open Reference in
theorem joined_quiet_failing :
    (loggedOut.turn 7 (renewing .ended true)).shared.task 7 = .idle := by
  have joined : (loggedOut.turn 7 (renewing .ended true)).Joined 0 := by
    intro id thread renewer _ found
    rcases Renewal.of_renewer_turn found with ⟨-, rfl⟩ | ⟨differ, other⟩
    · exact .inr rfl
    · simp [loggedOut, Renewal.turn, loggedIn, Renewal.start, fresh, differ] at other
  exact (joined_quiet (run_loggedOut.append run_ending) (by decide) joined (.start rfl)
    (by decide : 7 ≠ 0) rfl).2.2

end RenewThreads

end OpenBus
