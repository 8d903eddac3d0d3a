import OpenBus.Model.ConnectionThreads
import OpenBus.Model.Login
import OpenBus.Proofs.Orb

/-! # What a step of a thread does to the connection

Few steps touch the login: `login_init`, `login`, the two logouts and the recording of an invalid
login. The other ones leave all of it alone, but for forgetting an invalid login. The operations
as one thread runs them alone are runs of the machine in which no other thread takes a step.
-/

namespace OpenBus

open Machine

namespace ConnectionThreads

/-- The steps that leave the login of the connection alone. -/
def ThreadEvent.isQuiet : ThreadEvent → Bool
  | .asked .. | .compared _ | .other => true
  | _ => false

theorem ThreadStep.conn_cases {s t : Shared} {e : ThreadEvent} (step : ThreadStep s e t) :
    (∃ thread facets, e = .init thread facets.accessControl.bus ∧
      t.conn = s.conn.loginInit facets) ∨
    (∃ thread info bus, e = .login thread info bus ∧ s.conn.login info = some t.conn) ∨
    (((∃ thread, e = .logout thread s.conn.loginInfo) ∨
      ∃ thread invalid, e = .discarded thread invalid s.conn.loginInfo) ∧
      t.conn = s.conn.logout) ∨
    (∃ thread invalid, e = .recorded thread invalid s.conn.loginInfo ∧
      t.conn = { s.conn with invalidLogin := some invalid }) ∨
    (e.isQuiet = true ∧ standing t.conn = standing s.conn ∧
      (t.conn.invalidLogin = s.conn.invalidLogin ∨ t.conn.invalidLogin = none)) := by
  cases step with
  | init facets here => exact .inl ⟨_, facets, rfl, rfl⟩
  | login here free => exact .inr (.inl ⟨_, _, _, rfl, free⟩)
  | logout here => exact .inr (.inr (.inl ⟨.inl ⟨_, rfl⟩, rfl⟩))
  | discard here => exact .inr (.inr (.inl ⟨.inr ⟨_, _, rfl⟩, rfl⟩))
  | record here => exact .inr (.inr (.inr (.inl ⟨_, _, rfl, rfl⟩)))
  | other same invalid => exact .inr (.inr (.inr (.inr ⟨rfl, same, .inl invalid⟩)))
  | drop here => exact .inr (.inr (.inr (.inr ⟨rfl, rfl, .inr rfl⟩)))
  | ignored here still named same => exact .inr (.inr (.inr (.inr ⟨rfl, rfl, .inr rfl⟩)))
  | _ => exact .inr (.inr (.inr (.inr ⟨rfl, rfl, .inl rfl⟩)))

theorem ThreadStep.of_discarded {s t : Shared} {thread : ℕ} {invalid : LoginInfo}
    {removed : Option LoginInfo} (step : ThreadStep s (.discarded thread invalid removed) t) :
    s.task thread = .discarding invalid ∧ removed = s.conn.loginInfo := by
  cases step with
  | discard here => exact ⟨here, rfl⟩

theorem ThreadStep.of_recorded {s t : Shared} {thread : ℕ} {invalid : LoginInfo}
    {current : Option LoginInfo} (step : ThreadStep s (.recorded thread invalid current) t) :
    s.task thread = .recording invalid ∧ current = s.conn.loginInfo := by
  cases step with
  | record here => exact ⟨here, rfl⟩

/-- The login which a handler has read and not yet discarded. -/
def Task.pending : Task → Option LoginInfo
  | .handling _ invalid | .established invalid | .discarding invalid => some invalid
  | _ => none

/-- How a thread comes to its task. -/
structure CameFrom (s t : Shared) (e : ThreadEvent) (thread : ℕ) : Prop where
  pending : ∀ invalid, (t.task thread).pending = some invalid →
    (s.task thread).pending = some invalid ∨ invalid = currentLogin s.conn
  discarding : ∀ invalid, t.task thread = .discarding invalid →
    (s.task thread = .discarding invalid ∧ e ≠ .compared thread) ∨
    (e = .compared thread ∧ (currentLogin s.conn).id = invalid.id ∧ t.conn = s.conn)
  recording : ∀ invalid, t.task thread = .recording invalid →
    (s.task thread = .recording invalid ∧ e ≠ .compared thread) ∨
    ∃ removed, e = .discarded thread invalid removed

/-- A task in which no login is being settled. -/
def Task.isSettled : Task → Bool
  | .handling .. | .established _ | .discarding _ | .recording _ => false
  | _ => true

@[simp] theorem isSettled_returned (login : LoginInfo) : (returned login).isSettled = true := by
  unfold returned
  split <;> rfl

@[simp] theorem isSettled_loop (login invalid : LoginInfo) :
    (loop login invalid).isSettled = true := by
  unfold loop
  split
  · exact isSettled_returned login
  · rfl

theorem CameFrom.of_same {s t : Shared} {e : ThreadEvent} {thread : ℕ}
    (same : t.task thread = s.task thread) (label : e ≠ .compared thread) :
    CameFrom s t e thread :=
  ⟨fun _ now => .inl (same ▸ now), fun _ now => .inl ⟨same ▸ now, label⟩,
    fun _ now => .inl ⟨same ▸ now, label⟩⟩

theorem CameFrom.of_settled {s t : Shared} {e : ThreadEvent} {thread : ℕ}
    (settled : (t.task thread).isSettled = true) : CameFrom s t e thread := by
  refine ⟨fun invalid now => ?_, fun invalid now => ?_, fun invalid now => ?_⟩
  · cases task : t.task thread <;> simp_all [Task.pending, Task.isSettled]
  · rw [now] at settled
    cases settled
  · rw [now] at settled
    cases settled

theorem ThreadStep.acting {s t : Shared} {e : ThreadEvent} (step : ThreadStep s e t) :
    ∃ acting, (∀ thread, thread ≠ acting → t.task thread = s.task thread ∧ e ≠ .compared thread) ∧
      CameFrom s t e acting := by
  have others {acting : ℕ} {task : Task} {conn : Connection} (label : ∀ thread, thread ≠ acting →
      e ≠ .compared thread) (thread : ℕ) (differ : thread ≠ acting) :
      (s.act acting task conn).task thread = s.task thread ∧ e ≠ .compared thread :=
    ⟨Shared.task_act_ne s differ task conn, label thread differ⟩
  cases step with
  | compare here same =>
    refine ⟨_, others fun thread differ => by simpa using Ne.symm differ, ?_⟩
    refine ⟨fun other now => .inl ?_, fun other now => .inr ?_, fun other now => ?_⟩ <;>
      rw [Shared.turn, Shared.task_act_self] at now <;> cases now
    · rw [here]
      rfl
    · exact ⟨rfl, same, rfl⟩
  | discard here =>
    refine ⟨_, others (by simp), ?_⟩
    refine ⟨fun other now => ?_, fun other now => ?_, fun other now => .inr ?_⟩ <;>
      rw [Shared.task_act_self] at now <;> cases now
    exact ⟨_, rfl⟩
  | read here =>
    refine ⟨_, others (by simp), ?_⟩
    refine ⟨fun other now => .inr ?_, fun other now => ?_, fun other now => ?_⟩ <;>
      rw [Shared.turn, Shared.task_act_self] at now <;> cases now
    rfl
  | @ask acting sent invalid answer here =>
    refine ⟨_, others (by simp), ?_⟩
    refine ⟨fun other now => .inl ?_, fun other now => ?_, fun other now => ?_⟩ <;>
      rw [Shared.turn, Shared.task_act_self] at now <;> split at now <;> cases now
    rw [here]
    rfl
  | other same invalid => exact ⟨0, fun _ _ => ⟨rfl, by simp⟩, .of_same rfl (by simp)⟩
  | getLogin here =>
    refine ⟨_, others (by simp), .of_settled ?_⟩
    rw [Shared.turn, Shared.task_act_self]
    split
    · exact isSettled_loop _ _
    · rfl
  | _ =>
    refine ⟨_, others (by simp), .of_settled ?_⟩
    simp only [Shared.turn, Shared.task_act_self]
    first | rfl | exact isSettled_returned _ | exact isSettled_loop _ _

theorem ThreadStep.cameFrom {s t : Shared} {e : ThreadEvent} (step : ThreadStep s e t)
    (thread : ℕ) : CameFrom s t e thread := by
  obtain ⟨acting, others, mine⟩ := step.acting
  by_cases same : thread = acting
  · exact same ▸ mine
  · exact .of_same (others thread same).1 (others thread same).2

/-- The steps of a login up to the grant, without interruption. -/
def granting (thread : ℕ) (bus : Identifier) (history : List ThreadEvent) : List ThreadEvent :=
  .other :: .other :: .init thread bus :: .other :: history

theorem run_granted {history : List ThreadEvent} {s : Shared} (run : Run threadMachine history s)
    (thread : ℕ) (here : s.task thread = .idle) (out : s.conn.state = .loggedOut)
    (secretBus : Option Identifier) (facets : BusFacets)
    (same : ∀ bus, secretBus = some bus → bus = facets.accessControl.bus) (info : LoginInfo) :
    Run threadMachine (granting thread facets.accessControl.bus history)
      (s.act thread (.granted info facets.accessControl.bus) (s.conn.loginInit facets)) := by
  have entered := run.step (.enter secretBus here out)
  have connected := entered.step (.init facets (Shared.task_act_self ..))
  have asking : Run threadMachine (.other :: .init thread facets.accessControl.bus :: .other ::
      history) (s.act thread (.asking facets.accessControl.bus) (s.conn.loginInit facets)) := by
    rw [Shared.turn, Shared.act_act] at connected
    cases secretBus with
    | none =>
      have step := connected.step (.call (Shared.task_act_self ..) rfl)
      rwa [Shared.turn_act] at step
    | some bus =>
      have step := connected.step (.callShared (Shared.task_act_self ..) (same bus rfl))
      rwa [Shared.turn_act, same bus rfl] at step
  have granted := asking.step (.grant info (Shared.task_act_self ..))
  rwa [Shared.turn_act] at granted

/-- A login that succeeds, without interruption. -/
theorem run_login {history : List ThreadEvent} {s : Shared} (run : Run threadMachine history s)
    (thread : ℕ) (here : s.task thread = .idle) (out : s.conn.state = .loggedOut)
    (secretBus : Option Identifier) (facets : BusFacets)
    (same : ∀ bus, secretBus = some bus → bus = facets.accessControl.bus) (info : LoginInfo)
    {conn : Connection} (free : (s.conn.loginInit facets).login info = some conn) :
    Run threadMachine (.login thread info facets.accessControl.bus ::
      granting thread facets.accessControl.bus history) (s.act thread .idle conn) := by
  have granted := run_granted run thread here out secretBus facets same info
  have step := granted.step (.login (Shared.task_act_self ..) free)
  rwa [Shared.act_act] at step

theorem loginInit_ok {ref : ConnRef} {component : Except Exception BusFacets} {orb t : Orb}
    (ran : orb.loginInit ref component = (.ok (), t)) :
    ∃ facets, component = .ok facets ∧
      t.connections ref = (orb.connections ref).loginInit facets := by
  obtain ⟨facets, u, guarded, rest⟩ := Action.bind_ok_iff.mp ran
  cases component with
  | error e => cases guarded
  | ok found =>
    cases guarded
    cases rest
    exact ⟨facets, rfl, by simp [Orb.updateConnection, Orb.setSlot]⟩

theorem login_ok {ref : ConnRef} {info : LoginInfo} {orb t : Orb}
    (ran : orb.login ref info = (.ok (), t)) :
    (orb.connections ref).login info = some (t.connections ref) := by
  simp only [Orb.login, Action.bind_apply, Action.get_apply] at ran
  cases free : (orb.connections ref).login info with
  | none =>
    simp only [free] at ran
    cases ran
  | some conn =>
    simp only [free] at ran
    cases ran
    simp [Orb.updateConnection]

/-- What a login has done to the connection when it succeeds. -/
theorem loginBy_ok {ref : ConnRef} {answers : LoginAnswers} {orb t : Orb}
    (ran : orb.loginBy ref answers = (.ok (), t)) :
    (orb.connections ref).state = .loggedOut ∧ ∃ facets info,
      (∀ bus, answers.secretBus = some bus → bus = facets.accessControl.bus) ∧
      ((orb.connections ref).loginInit facets).login info = some (t.connections ref) := by
  obtain ⟨before, same, got, rest⟩ := Action.bind_ok_iff.mp ran
  cases got
  split at rest
  · cases rest
  next out =>
  refine ⟨by cases state : (orb.connections ref).state <;> simp_all, ?_⟩
  obtain ⟨_, u, installed, rest⟩ := Action.bind_ok_iff.mp rest
  obtain ⟨facets, -, conn⟩ := loginInit_ok installed
  obtain ⟨before, same, got, rest⟩ := Action.bind_ok_iff.mp rest
  cases got
  split at rest
  · cases rest
  next right =>
  rcases logging : (do
    let info ← Action.ofExcept (Orb.granted answers)
    Orb.login ref info : Action Orb Exception Unit)
      (u.setSlot .ignoreInterceptor (.boolean true)) with ⟨r, v⟩
  simp only [Orb.guarded, logging, Prod.mk.injEq] at rest
  obtain ⟨rfl, rfl⟩ := rest
  obtain ⟨info, w, got, logged⟩ := Action.bind_ok_iff.mp logging
  obtain ⟨-, rfl⟩ := Prod.mk.inj got
  refine ⟨facets, info, ?_, ?_⟩
  · intro bus secret
    rw [secret] at right
    have same : bus = (u.connections ref).busid := by simpa using right
    rw [same, conn]
    rfl
  · have committed := login_ok logged
    rw [← conn]
    exact committed

/-- A login that succeeds is a run in which no other thread takes a step. -/
theorem loginBy_runs {history : List ThreadEvent} {s : Shared} (run : Run threadMachine history s)
    {thread : ℕ} (here : s.task thread = .idle) {ref : ConnRef} {orb t : Orb}
    (conn : s.conn = orb.connections ref) {answers : LoginAnswers}
    (ran : orb.loginBy ref answers = (.ok (), t)) :
    ∃ past, Run threadMachine past (s.act thread .idle (t.connections ref)) := by
  obtain ⟨out, facets, info, same, free⟩ := loginBy_ok ran
  rw [← conn] at out free
  exact ⟨_, run_login run thread here out answers.secretBus facets same info free⟩

/-- The end of the reaction to an invalid login runs as sections of one thread. -/
theorem discardLogin_runs {history : List ThreadEvent} {s : Shared}
    (run : Run threadMachine history s) {thread : ℕ} {invalid : LoginInfo}
    (here : s.task thread = .established invalid) {ref : ConnRef} {orb : Orb}
    (conn : s.conn = orb.connections ref) :
    ∃ past, Run threadMachine past
      (s.act thread .idle ((ClientInterceptor.discardLogin ref invalid orb).2.connections ref)) := by
  simp only [ClientInterceptor.discardLogin, Action.bind_apply, Action.get_apply]
  by_cases same : ((orb.connections ref).loginInfo.getD default).id = invalid.id
  · rw [if_pos same]
    have compared := run.step (.compare here (by rw [currentLogin, conn]; exact same))
    have discarded := compared.step (.discard (Shared.task_act_self ..))
    have recorded : ∃ past, Run threadMachine past
        (s.act thread .idle { s.conn.logout with invalidLogin := some invalid }) := by
      have step := discarded.step (.record (Shared.task_act_self ..))
      simp only [Shared.turn, Shared.act_act, Shared.conn_act] at step
      exact ⟨_, step⟩
    have final : ((orb.logoutSection ref).setInvalidLogin ref (some invalid)).connections ref =
        { (orb.connections ref).logout with invalidLogin := some invalid } := by
      rw [← Orb.connections_logoutSection]
      simp [Orb.setInvalidLogin, Orb.updateConnection]
    change ∃ past, Run _ past (s.act thread .idle
      (((orb.logoutSection ref).setInvalidLogin ref (some invalid)).connections ref))
    rw [final, ← conn]
    exact recorded
  · rw [if_neg same]
    have changed := run.step (.changed here (by rw [currentLogin, conn]; exact same))
    rw [Shared.turn, conn] at changed
    exact ⟨_, changed⟩

/-- So does the reaction as a whole, if the question to the registry leaves the connection alone. -/
theorem checkLogin_runs {history : List ThreadEvent} {s : Shared}
    (run : Run threadMachine history s) {thread : ℕ} {login : LoginInfo}
    (here : s.task thread = .sent login) {ref : ConnRef} {orb : Orb}
    (conn : s.conn = orb.connections ref) {world : ClientWorld}
    (attends : ClientInterceptor.ignoreInvalidLogin orb = false)
    (quiet : ∀ registry id, Action.Keeps (fun orb : Orb => orb.connections ref)
      (world.getLoginValidity registry id)) :
    ∃ past, Run threadMachine past
      (s.act thread .idle ((ClientInterceptor.checkLogin world ref orb).2.connections ref)) := by
  have asked : ((ClientInterceptor.askValidity world (currentLogin s.conn) orb).2).connections ref =
      s.conn := by
    rw [conn]
    have kept : Action.Keeps (fun orb : Orb => orb.connections ref)
        (ClientInterceptor.askValidity world (currentLogin (orb.connections ref))) := by
      refine Orb.guarded_keeps (fun _ _ => rfl) (.bind .get fun orb => ?_)
      split
      · exact quiet _ _
      · exact .throw _
    exact kept orb
  have read := run.step (.read here)
  have answered := read.step (.ask (ClientInterceptor.askValidity world (currentLogin s.conn) orb).1
    (Shared.task_act_self ..))
  rw [Shared.turn, Shared.turn, Shared.conn_act, Shared.act_act] at answered
  have invalid : (orb.connections ref).loginInfo.getD default = currentLogin s.conn := by
    rw [currentLogin, conn]
  simp only [ClientInterceptor.checkLogin, Action.bind_apply, Action.get_apply, attends,
    Bool.false_eq_true, if_false, Action.attempt_apply, invalid]
  cases reacted : ClientInterceptor.reaction
      (ClientInterceptor.askValidity world (currentLogin s.conn) orb).1 with
  | compare =>
    rw [reacted, if_pos rfl] at answered
    obtain ⟨past, discarded⟩ := discardLogin_runs answered (Shared.task_act_self ..) asked.symm
    rw [Shared.act_act] at discarded
    refine ⟨past, ?_⟩
    dsimp only
    rw [Action.bind_throw_snd]
    exact discarded
  | raise e =>
    rw [reacted, if_neg (by simp)] at answered
    have ended : ∃ past, Run threadMachine past (s.act thread .idle s.conn) := ⟨_, answered⟩
    dsimp only
    rw [Action.throw_apply, asked]
    exact ended

end ConnectionThreads

end OpenBus
