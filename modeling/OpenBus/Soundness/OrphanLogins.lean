import OpenBus.Model.BusLogins
import OpenBus.Soundness.LoggedSetUp

/-! # Logins that nobody ends

A login that the bus has granted is held by the thread that asked for it, then it is the current one
of the connection, and last `logout` tells the bus of it. A thread that finds the connection logged
by the time it holds its login drops it: the bus goes on to keep it. When all operations are over,
there is such an orphan exactly if a login has been dropped that the bus has not ended by itself.
-/

namespace OpenBus

open Machine

namespace ConnectionThreads

/-- The login which a thread holds. -/
def Task.held : Task → Option LoginInfo
  | .granted info _ => some info
  | _ => none

/-- Where the logins granted are. -/
structure Places where
  held : ℕ → Option LoginInfo
  current : Option LoginInfo
  telling : ℕ → Option LoginInfo
  live : Finset LoginInfo
  issued : Finset LoginInfo

def Grants.places (s : Grants) : Places :=
  ⟨fun thread => (s.shared.task thread).held, s.shared.conn.loginInfo, s.telling, s.live, s.issued⟩

/-- How a login moves from one place to another. -/
inductive Move : Places → GrantEvent → Places → Prop
  | granted {p : Places} {thread : ℕ} {info : LoginInfo} (free : p.held thread = none)
      (fresh : info ∉ p.issued) :
      Move p (.granted thread info)
        { p with
          held := Function.update p.held thread (some info)
          live := insert info p.live
          issued := insert info p.issued }
  | lost {p : Places} {thread : ℕ} {info : LoginInfo} (fresh : info ∉ p.issued) :
      Move p (.lost thread info)
        { p with live := insert info p.live, issued := insert info p.issued }
  | login {p : Places} {thread : ℕ} {info : LoginInfo} (held : p.held thread = some info)
      (free : p.current = none) :
      Move p (.login thread info)
        { p with held := Function.update p.held thread none, current := some info }
  | refused {p : Places} {thread : ℕ} {info : LoginInfo} (held : p.held thread = some info) :
      Move p (.refused thread info) { p with held := Function.update p.held thread none }
  | logout {p : Places} {thread : ℕ} {info : LoginInfo} (current : p.current = some info)
      (free : p.telling thread = none) :
      Move p (.logout thread info)
        { p with current := none, telling := Function.update p.telling thread (some info) }
  | answered {p : Places} {thread : ℕ} {info : LoginInfo} (success ended : Bool)
      (telling : p.telling thread = some info) (told : success = true → ended = true) :
      Move p (.answered thread info success)
        { p with
          telling := Function.update p.telling thread none
          live := if ended then p.live.erase info else p.live }
  | ended {p : Places} {info : LoginInfo} (live : info ∈ p.live) :
      Move p (.ended info) { p with live := p.live.erase info }
  | other {p : Places} : Move p .other p

def placesMachine : Labeled Places GrantEvent where
  Init p := p = ⟨fun _ => none, none, fun _ => none, ∅, ∅⟩
  Step := Move

theorem held_act (shared : Shared) (thread : ℕ) (task : Task) (conn : Connection) :
    (fun other => ((shared.act thread task conn).task other).held) =
      Function.update (fun other => (shared.task other).held) thread task.held := by
  funext other
  rcases eq_or_ne other thread with rfl | differ
  · simp
  · rw [Shared.task_act_ne shared differ, Function.update_of_ne differ]

/-- A thread that does not hold a login and turns to a task without one. -/
theorem held_act_of_none {shared : Shared} {thread : ℕ} {task : Task}
    (before : (shared.task thread).held = none) (after : task.held = none) (conn : Connection) :
    (fun other => ((shared.act thread task conn).task other).held) =
      fun other => (shared.task other).held := by
  rw [held_act, after, ← before]
  exact Function.update_eq_self thread fun other => (shared.task other).held

theorem held_of_isLogin {task : Task} (login : task.isLogin = true) : task.held = none := by
  cases task <;> first | rfl | cases login

/-- A connection without a login is logged out. -/
def LoggedIff (s : Grants) : Prop :=
  s.shared.conn.state = .logged ↔ s.shared.conn.loginInfo.isSome

/-- The threads and the bus move the logins between their places. -/
theorem GrantStep.move {s t : Grants} {e : GrantEvent} (step : GrantStep s e t)
    (logged : LoggedIff s) : Move s.places e t.places := by
  have quiet {thread : ℕ} {task : Task} {conn : Connection}
      (before : (s.shared.task thread).held = none) (after : task.held = none)
      (login : conn.loginInfo = s.shared.conn.loginInfo) :
      Move s.places .other ({ s with shared := s.shared.act thread task conn } : Grants).places := by
    have same : ({ s with shared := s.shared.act thread task conn } : Grants).places = s.places := by
      simp only [Grants.places, held_act_of_none before after, Shared.conn_act, login]
    rw [same]
    exact .other
  cases step with
  | enter secretBus here out => exact quiet (by rw [here.1]; rfl) rfl rfl
  | init facets here => exact quiet (by rw [here]; rfl) rfl rfl
  | call here present => exact quiet (by rw [here]; rfl) rfl rfl
  | callShared here same => exact quiet (by rw [here]; rfl) rfl rfl
  | fail here => exact quiet (held_of_isLogin here) rfl rfl
  | @grant thread bus info here fresh =>
    have moved : Move s.places (.granted thread info) _ :=
      .granted (show (s.shared.task thread).held = none by rw [here]; rfl) fresh
    simp only [Grants.places, Shared.turn, held_act, Shared.conn_act]
    exact moved
  | @lose thread bus info here fresh =>
    have moved : Move s.places (.lost thread info) _ := .lost fresh
    have before : (s.shared.task thread).held = none := by rw [here]; rfl
    have still := held_act_of_none before (show Task.idle.held = none from rfl) s.shared.conn
    simp only [Grants.places, Shared.turn, still, Shared.conn_act]
    exact moved
  | @login thread bus info conn here free =>
    obtain ⟨out, rfl⟩ := Connection.login_eq_some_iff.mp free
    have none : s.shared.conn.loginInfo = none := by
      have unlogged := mt logged.mpr (by rw [out]; exact ConnectionState.noConfusion)
      simpa using unlogged
    have moved : Move s.places (.login thread info) _ :=
      .login (show (s.shared.task thread).held = some info by rw [here]; rfl) none
    simp only [Grants.places, held_act, Shared.conn_act]
    exact moved
  | @refuse thread bus info here taken =>
    have moved : Move s.places (.refused thread info) _ :=
      .refused (show (s.shared.task thread).held = some info by rw [here]; rfl)
    simp only [Grants.places, Shared.turn, held_act, Shared.conn_act]
    exact moved
  | @logout thread info here current =>
    have moved : Move s.places (.logout thread info) _ := .logout current here.2
    have before : (s.shared.task thread).held = none := by rw [here.1]; rfl
    have state := logged.mpr (by rw [current]; rfl)
    have still := held_act_of_none before (show Task.idle.held = none from rfl) s.shared.conn.logout
    have none : s.shared.conn.logout.loginInfo = none := by simp only [Connection.logout, state]
    simp only [Grants.places, still, Shared.conn_act, none]
    exact moved
  | answer success ended here told => exact .answered success ended here told
  | ended live => exact .ended live

/-- What the threads do about their logins they can do as threads of the connection. -/
theorem GrantStep.shared {s t : Grants} {e : GrantEvent} (step : GrantStep s e t) :
    t.shared = s.shared ∨ ∃ event, ThreadStep s.shared event t.shared := by
  cases step with
  | enter secretBus here out => exact .inr ⟨_, .enter secretBus here.1 out⟩
  | init facets here => exact .inr ⟨_, .init facets here⟩
  | call here present => exact .inr ⟨_, .call here present⟩
  | callShared here same => exact .inr ⟨_, .callShared here same⟩
  | fail here => exact .inr ⟨_, .fail here⟩
  | grant here fresh => exact .inr ⟨_, .grant _ here⟩
  | lose here fresh => exact .inr ⟨_, .fail (by rw [here]; rfl)⟩
  | login here free => exact .inr ⟨_, .login here free⟩
  | refuse here taken => exact .inr ⟨_, .refuse here taken⟩
  | logout here current => exact .inr ⟨_, .logout here.1⟩
  | answer success ended here told => exact .inl rfl
  | ended live => exact .inl rfl

theorem run_shared {history : List GrantEvent} {s : Grants} (run : Run grantMachine history s) :
    ∃ past, Run threadMachine past s.shared := by
  refine run.invariant (fun _ s => ∃ past, Run threadMachine past s.shared) ?_ ?_
  · exact fun s init => ⟨[], .start init.1⟩
  · rintro past s e t - ⟨threads, before⟩ step
    rcases GrantStep.shared step with same | ⟨event, stepped⟩
    · exact ⟨threads, same ▸ before⟩
    · exact ⟨_, before.step stepped⟩

theorem loggedIff {history : List GrantEvent} {s : Grants} (run : Run grantMachine history s) :
    LoggedIff s := by
  obtain ⟨past, threads⟩ := run_shared run
  have told := told_of_run threads
  exact told.logged.trans told.login.symm

/-- A run of the threads and the bus is one of the logins among their places. -/
theorem run_places {history : List GrantEvent} {s : Grants} (run : Run grantMachine history s) :
    Run placesMachine history s.places := by
  induction run with
  | @start s init =>
    obtain ⟨⟨⟨key, legacySupport, fresh⟩, idle⟩, telling, live, issued⟩ := init
    have empty : s.places = ⟨fun _ => none, none, fun _ => none, ∅, ∅⟩ := by
      simp [Grants.places, idle, fresh, funext telling, live, issued, Task.held, Connection.init]
    exact .start empty
  | step run step ih => exact ih.step (GrantStep.move step (loggedIff run))

/-- How far a login has come. -/
inductive Stage where
  | unissued
  | held (thread : ℕ)
  | current
  | telling (thread : ℕ)
  | answered (success : Bool)
  /-- No thread knows it any more, and the bus has not been told. -/
  | dropped
deriving DecidableEq

def stageOf (info : LoginInfo) : List GrantEvent → Stage
  | [] => .unissued
  | .granted thread moved :: past => if moved = info then .held thread else stageOf info past
  | .lost _ moved :: past => if moved = info then .dropped else stageOf info past
  | .login _ moved :: past => if moved = info then .current else stageOf info past
  | .refused _ moved :: past => if moved = info then .dropped else stageOf info past
  | .logout thread moved :: past => if moved = info then .telling thread else stageOf info past
  | .answered _ moved success :: past =>
      if moved = info then .answered success else stageOf info past
  | .ended _ :: past | .other :: past => stageOf info past

/-- A login is in the place of its stage and in no other one. -/
structure PlacedAt (info : LoginInfo) (stage : Stage) (p : Places) : Prop where
  issued : info ∈ p.issued ↔ stage ≠ .unissued
  held : ∀ thread, p.held thread = some info ↔ stage = .held thread
  current : p.current = some info ↔ stage = .current
  telling : ∀ thread, p.telling thread = some info ↔ stage = .telling thread

theorem PlacedAt.move {info : LoginInfo} {past : List GrantEvent} {p q : Places} {e : GrantEvent}
    (placed : PlacedAt info (stageOf info past) p) (move : Move p e q) :
    PlacedAt info (stageOf info (e :: past)) q := by
  obtain ⟨issued, held, current, telling⟩ := placed
  cases move with
  | granted free fresh => constructor <;> grind [stageOf, Function.update_apply]
  | lost fresh => constructor <;> grind [stageOf]
  | login here free => constructor <;> grind [stageOf, Function.update_apply]
  | refused here => constructor <;> grind [stageOf, Function.update_apply]
  | logout here free => constructor <;> grind [stageOf, Function.update_apply]
  | answered success ended here told => constructor <;> grind [stageOf, Function.update_apply]
  | ended live => exact ⟨issued, held, current, telling⟩
  | other => exact ⟨issued, held, current, telling⟩

/-- What the history tells about a login and the bus. -/
structure FateTold (info : LoginInfo) (past : List GrantEvent) (p : Places) : Prop where
  live : info ∈ p.live → stageOf info past ≠ .unissued ∧ stageOf info past ≠ .answered true ∧
    .ended info ∉ past
  gone : info ∉ p.live → stageOf info past = .unissued ∨ .ended info ∈ past ∨
    ∃ success, stageOf info past = .answered success
  ended : .ended info ∈ past → stageOf info past ≠ .unissued
  dropped : (∃ thread, .refused thread info ∈ past ∨ .lost thread info ∈ past) ↔
    stageOf info past = .dropped
  failed : (∃ thread, .answered thread info false ∈ past) ↔ stageOf info past = .answered false

theorem FateTold.move {info : LoginInfo} {past : List GrantEvent} {p q : Places} {e : GrantEvent}
    (fate : FateTold info past p) (placed : PlacedAt info (stageOf info past) p)
    (move : Move p e q) : FateTold info (e :: past) q := by
  obtain ⟨live, gone, ended, dropped, failed⟩ := fate
  obtain ⟨issued, held, current, telling⟩ := placed
  cases move with
  | granted free fresh => constructor <;> grind [stageOf]
  | lost fresh => constructor <;> grind [stageOf]
  | login here free => constructor <;> grind [stageOf]
  | refused here => constructor <;> grind [stageOf]
  | logout here free => constructor <;> grind [stageOf]
  | answered success done here told => constructor <;> grind [stageOf]
  | ended alive => constructor <;> grind [stageOf]
  | other => constructor <;> grind [stageOf]

theorem told_of_run_places {history : List GrantEvent} {p : Places}
    (run : Run placesMachine history p) (info : LoginInfo) :
    PlacedAt info (stageOf info history) p ∧ FateTold info history p := by
  refine run.invariant (fun past p => PlacedAt info (stageOf info past) p ∧ FateTold info past p)
    ?_ ?_
  · rintro p rfl
    exact ⟨⟨by simp [stageOf], by simp [stageOf], by simp [stageOf], by simp [stageOf]⟩,
      ⟨by simp, by simp [stageOf], by simp, by simp [stageOf], by simp [stageOf]⟩⟩
  · rintro past p e q - ⟨placed, fate⟩ move
    exact ⟨placed.move move, fate.move placed move⟩

/-- Every login that the bus keeps is the current one or one that a `logout` has failed to end, and
a login that has been refused is not kept. -/
structure NoOrphans (history : List GrantEvent) (s : Grants) : Prop where
  placed : ∀ info ∈ s.live, s.shared.conn.loginInfo = some info ∨
    ∃ thread, .answered thread info false ∈ history
  refused : ∀ thread info, .refused thread info ∈ history → info ∉ s.live

/-- When no operation is in progress, there is no orphan exactly if each login that was refused, or
granted by a call whose answer was lost, has been ended by the bus itself. -/
theorem noOrphans_iff {history : List GrantEvent} {s : Grants} (run : Run grantMachine history s)
    (quiescent : s.Quiescent) :
    NoOrphans history s ↔ ∀ thread info,
      .refused thread info ∈ history ∨ .lost thread info ∈ history → .ended info ∈ history := by
  have told := told_of_run_places (run_places run)
  constructor
  · intro clean thread info dropped
    obtain ⟨placed, fate⟩ := told info
    have stage := fate.dropped.mp ⟨thread, dropped⟩
    have gone : info ∉ s.live := by
      intro live
      rcases clean.placed info live with current | failed
      · rw [placed.current.mp current] at stage
        cases stage
      · rw [fate.failed.mp failed] at stage
        cases stage
    rcases fate.gone gone with unissued | ended | ⟨success, answered⟩
    · rw [unissued] at stage
      cases stage
    · exact ended
    · rw [answered] at stage
      cases stage
  · intro ended
    refine ⟨fun info live => ?_, fun thread info refused live => ?_⟩
    · obtain ⟨placed, fate⟩ := told info
      obtain ⟨issued, unended, unbroken⟩ := fate.live live
      cases stage : stageOf info history with
      | unissued => exact absurd stage issued
      | held thread =>
        have holds := (placed.held thread).mpr stage
        simp [Grants.places, (quiescent thread).1, Task.held] at holds
      | current => exact .inl (placed.current.mpr stage)
      | telling thread =>
        have tells : s.telling thread = some info := (placed.telling thread).mpr stage
        rw [(quiescent thread).2] at tells
        cases tells
      | answered success =>
        cases success
        · exact .inr (fate.failed.mpr stage)
        · exact absurd stage unended
      | dropped =>
        obtain ⟨thread, dropped⟩ := fate.dropped.mpr stage
        exact absurd (ended thread info dropped) unbroken
    · exact ((told info).2.live live).2.2 (ended thread info (.inl refused))

/-- The steps of a login up to the grant, without interruption. -/
def upToGrant (thread : ℕ) (info : LoginInfo) (history : List GrantEvent) : List GrantEvent :=
  .granted thread info :: .other :: .other :: .other :: history

/-- A thread has been granted a login. -/
def Grants.grant (s : Grants) (thread : ℕ) (info : LoginInfo) (facets : BusFacets) : Grants where
  shared := s.shared.act thread (.granted info facets.accessControl.bus)
    (s.shared.conn.loginInit facets)
  telling := s.telling
  live := insert info s.live
  issued := insert info s.issued

theorem run_upToGrant {history : List GrantEvent} {s : Grants} (run : Run grantMachine history s)
    (thread : ℕ) (here : s.Idle thread) (out : s.shared.conn.state = .loggedOut)
    (facets : BusFacets) {info : LoginInfo} (fresh : info ∉ s.issued) :
    Run grantMachine (upToGrant thread info history) (s.grant thread info facets) := by
  have entered := run.step (GrantStep.enter none here out)
  have connected := entered.step (GrantStep.init facets (Shared.task_act_self ..))
  rw [Shared.turn, Shared.act_act] at connected
  have asking := connected.step (GrantStep.call (Shared.task_act_self ..) rfl)
  rw [Shared.turn_act] at asking
  have granted := asking.step (GrantStep.grant (Shared.task_act_self ..) fresh)
  rw [Shared.turn_act] at granted
  exact granted

namespace Reference

open ReferencePlatform (facets)

def a : LoginInfo := ⟨ascii "a", ascii "C"⟩
def b : LoginInfo := ⟨ascii "b", ascii "C"⟩

/-- Threads that start on a new connection, at a bus that has granted nothing. -/
def unissued : Grants := ⟨start, fun _ => none, ∅, ∅⟩

theorem run_unissued : Run grantMachine [] unissued :=
  .start ⟨⟨⟨_, _, rfl⟩, fun _ => rfl⟩, fun _ => rfl, rfl, rfl⟩

end Reference

open Reference ReferencePlatform in
/-- A login without interruption. -/
theorem noOrphans_login :
    ∃ s, Run grantMachine (.login 0 a :: upToGrant 0 a []) s ∧
      NoOrphans (.login 0 a :: upToGrant 0 a []) s := by
  have granted := run_upToGrant run_unissued 0 ⟨rfl, rfl⟩ rfl facets (Finset.notMem_empty a)
  have login := granted.step (GrantStep.login (Shared.task_act_self ..) rfl)
  refine ⟨_, login, (noOrphans_iff login fun thread => ⟨?_, rfl⟩).mpr ?_⟩
  · simp [Grants.grant, unissued, start, Shared.act]
  · simp [upToGrant]

open Reference ReferencePlatform in
/-- Two threads that have both found the connection logged out: the login of the second one stays
with the bus. -/
theorem refused_login_stays :
    ∃ s, Run grantMachine (.refused 1 b :: .login 0 a :: upToGrant 1 b (upToGrant 0 a [])) s ∧
      s.Quiescent ∧ b ∈ s.live ∧
      ¬ NoOrphans (.refused 1 b :: .login 0 a :: upToGrant 1 b (upToGrant 0 a [])) s := by
  have first := run_upToGrant run_unissued 0 ⟨rfl, rfl⟩ rfl facets (Finset.notMem_empty a)
  have second := run_upToGrant first 1 ⟨rfl, rfl⟩ rfl facets (show b ∉ _ by decide)
  have login := second.step (@GrantStep.login _ 0 _ _ _ rfl rfl)
  have refused := login.step (@GrantStep.refuse _ 1 _ _ rfl rfl)
  refine ⟨_, refused, fun thread => ⟨?_, rfl⟩, ?_, fun clean => ?_⟩
  · simp [Grants.grant, unissued, start, Shared.act, Shared.turn, Function.update_apply]
    grind
  · decide
  · exact clean.refused 1 b List.mem_cons_self (by decide)

end ConnectionThreads

end OpenBus
