import OpenBus.Soundness.CredentialNames
import OpenBus.Soundness.LoggedSetUp

/-! # The reaction to an invalid login

The handler of `InvalidLogin` knows the connection of the request and not its login. It asks the
registry about the login that is current by then, and if that one is valid, it blames the server.
If the login is invalid, the handler compares it with the current one, logs out and records it
in three sections. No other login is lost in between exactly if none is made in between which
still stands when the next section comes.
-/

namespace OpenBus

open Machine

namespace ConnectionThreads

open ClientInterceptor (Reaction reaction)

section Stale

/-- What the registry of a reachable bus answers about a valid login, if there is a registry. -/
def ValidAnswer : Except Exception ULong → Prop
  | .ok validity => 0 < validity
  | .error e => e = .forwardRequest

/-- The handler of a request that was sent under a login other than the current one, which is
valid on a reachable bus. -/
def Stale : ThreadEvent → Prop
  | .asked _ sent invalid answer _ => invalid.id ≠ sent.id ∧ ValidAnswer answer
  | _ => False

/-- The handler has the request sent again. -/
def Retransmits : ThreadEvent → Prop
  | .asked _ _ _ _ next => next = .raise .forwardRequest
  | _ => False

/-- How the handler ends instead: it blames the server, or the bus for want of a registry. -/
def Blames : ThreadEvent → Prop
  | .asked _ _ _ answer next => next = .raise
      (.noPermission (if answer.isOk then invalidRemoteCode else unavailableBusCode))
  | _ => False

theorem reaction_of_asked {history : List ThreadEvent} {s : Shared}
    (run : Run threadMachine history s) {thread : ℕ} {sent invalid : LoginInfo}
    {answer : Except Exception ULong} {next : Reaction}
    (asked : .asked thread sent invalid answer next ∈ history) : next = reaction answer := by
  revert asked
  refine run.invariant (fun history _ => .asked thread sent invalid answer next ∈ history →
    next = reaction answer) (fun _ _ mem => by cases mem) ?_
  rintro past s e t - held step mem
  rcases List.mem_cons.mp mem with rfl | earlier
  · cases step
    rfl
  · exact held earlier

/-- A request answered with `InvalidLogin` after a new login is never sent again. -/
theorem stale_never_retransmitted {history : List ThreadEvent} {s : Shared}
    (run : Run threadMachine history s) {e : ThreadEvent} (mem : e ∈ history) (stale : Stale e) :
    ¬ Retransmits e ∧ Blames e := by
  cases e with
  | asked thread sent invalid answer next =>
    obtain rfl := reaction_of_asked run mem
    obtain ⟨-, valid⟩ := stale
    cases answer with
    | error e =>
      obtain rfl : e = .forwardRequest := valid
      exact ⟨by simp [Retransmits, reaction, Exception.isCorba, Exception.noPermission], rfl⟩
    | ok validity =>
      have positive : 0 < validity := valid
      simp only [Retransmits, Blames, reaction, if_pos positive]
      exact ⟨by simp [Exception.noPermission], rfl⟩
  | _ => exact stale.elim

end Stale

section Windows

/-- A login has been made since the last section of the thread, and still stands. -/
def LoginSince (thread : ℕ) : List ThreadEvent → Prop
  | [] => False
  | .login .. :: _ => True
  | .logout .. :: _ => False
  | .discarded .. :: _ => False
  | .compared other :: past => other ≠ thread ∧ LoginSince thread past
  | _ :: past => LoginSince thread past

/-- The handler is not overtaken by a login between its sections. -/
def Undisturbed (past : List ThreadEvent) : ThreadEvent → Prop
  | .discarded thread _ _ => ¬ LoginSince thread past
  | .recorded thread _ _ => ¬ LoginSince thread past
  | _ => True

/-- Only the invalid login is discarded, and it is recorded only where there is no other one. -/
def OnlyInvalid : ThreadEvent → Prop
  | .discarded _ invalid removed => ∀ info, removed = some info → info.id = invalid.id
  | .recorded _ _ current => current = none
  | _ => True

/-- The logins that have been made. -/
def loginIds : List ThreadEvent → List Identifier
  | [] => []
  | .login _ info _ :: past => info.id :: loginIds past
  | _ :: past => loginIds past

/-- The bus grants no login twice, and none with an empty identifier. -/
def FreshLogin (past : List ThreadEvent) : ThreadEvent → Prop
  | .login _ info _ => info.id ≠ [] ∧ info.id ∉ loginIds past
  | _ => True

/-- What a step does to the current login. -/
theorem ThreadStep.login_cases {past : List ThreadEvent} {s t : Shared} {e : ThreadEvent}
    (told : Told past s.conn) (step : ThreadStep s e t) :
    (∃ thread info bus, e = .login thread info bus ∧ t.conn.loginInfo = some info) ∨
    ((∀ thread, ¬ LoginSince thread (e :: past)) ∧ loginIds (e :: past) = loginIds past ∧
      t.conn.loginInfo = none) ∨
    ((∀ thread, e ≠ .compared thread → (LoginSince thread (e :: past) ↔ LoginSince thread past)) ∧
      (∀ thread invalid removed, e ≠ .discarded thread invalid removed) ∧
      loginIds (e :: past) = loginIds past ∧ t.conn.loginInfo = s.conn.loginInfo) := by
  rcases step.conn_cases with ⟨thread, facets, rfl, conn⟩ | ⟨thread, info, bus, rfl, free⟩ |
    ⟨label, conn⟩ | ⟨thread, invalid, rfl, conn⟩ | ⟨quiet, same, -⟩
  · exact .inr (.inr ⟨fun _ _ => Iff.rfl, by simp, rfl, by rw [conn]; rfl⟩)
  · obtain ⟨-, after⟩ := Connection.login_eq_some_iff.mp free
    exact .inl ⟨thread, info, bus, rfl, by rw [after]⟩
  · have removed : t.conn.loginInfo = none := by
      rw [conn]
      rcases out : s.conn.state
      · simp [Connection.logout, out]
      · rw [Connection.logout_of_loggedOut out]
        have := told.logged
        have := told.login
        cases login : s.conn.loginInfo <;> simp_all
    rcases label with ⟨thread, rfl⟩ | ⟨thread, invalid, rfl⟩ <;>
      exact .inr (.inl ⟨fun _ => id, rfl, removed⟩)
  · exact .inr (.inr ⟨fun _ _ => Iff.rfl, by simp, rfl, by rw [conn]⟩)
  · refine .inr (.inr ⟨fun thread other => ?_, fun _ _ _ => ?_, ?_,
      congrArg (fun c => c.2.1) same⟩) <;>
      cases e <;> simp_all [ThreadEvent.isQuiet, LoginSince, loginIds]

/-- What a history tells about the login that a handler is about to discard, or has discarded. -/
structure Windows (past : List ThreadEvent) (s : Shared) : Prop where
  since : ∀ thread, LoginSince thread past → s.conn.loginInfo.isSome
  discarding : ∀ thread invalid, s.task thread = .discarding invalid → ¬ LoginSince thread past →
    ∀ info, s.conn.loginInfo = some info → info.id = invalid.id
  recording : ∀ thread invalid, s.task thread = .recording invalid → ¬ LoginSince thread past →
    s.conn.loginInfo = none

theorem windows_of_run {history : List ThreadEvent} {s : Shared}
    (run : Run threadMachine history s) : Windows history s := by
  apply run.invariant Windows
  · rintro s ⟨-, idle⟩
    refine ⟨fun _ impossible => impossible.elim, fun thread invalid here => ?_,
      fun thread invalid here => ?_⟩ <;>
      rw [idle] at here <;> cases here
  · rintro past s e t before held step
    have effect := step.login_cases (told_of_run before)
    refine ⟨fun thread since => ?_, fun thread invalid here settled info current => ?_,
      fun thread invalid here settled => ?_⟩
    · rcases effect with ⟨acting, info, bus, rfl, login⟩ | ⟨none, -, -⟩ | ⟨same, -, -, login⟩
      · rw [login]
        rfl
      · exact absurd since (none thread)
      · rw [login]
        by_cases mine : e = .compared thread
        · subst mine
          exact absurd rfl since.1
        · exact held.since thread ((same thread mine).mp since)
    · rcases (step.cameFrom thread).discarding invalid here with ⟨before, mine⟩ | ⟨-, same, conn⟩
      · rcases effect with ⟨acting, other, bus, rfl, -⟩ | ⟨-, -, login⟩ | ⟨same, -, -, login⟩
        · exact absurd trivial settled
        · rw [login] at current
          cases current
        · rw [login] at current
          exact held.discarding thread invalid before (mt (same thread mine).mpr settled) info current
      · rw [conn] at current
        rw [currentLogin, current] at same
        exact same
    · rcases (step.cameFrom thread).recording invalid here with ⟨before, mine⟩ | ⟨removed, rfl⟩
      · rcases effect with ⟨acting, other, bus, rfl, -⟩ | ⟨-, -, login⟩ | ⟨same, -, -, login⟩
        · exact absurd trivial settled
        · exact login
        · rw [login]
          exact held.recording thread invalid before (mt (same thread mine).mpr settled)
      · rcases effect with ⟨acting, other, bus, impossible, -⟩ | ⟨-, -, login⟩ | ⟨-, other, -, -⟩
        · cases impossible
        · exact login
        · exact absurd rfl (other _ _ _)

/-- What is known of the identifiers, if the bus keeps to its promise. -/
structure Identified (past : List ThreadEvent) (s : Shared) : Prop where
  current : ∀ info, s.conn.loginInfo = some info → info.id ∈ loginIds past
  pending : ∀ thread invalid, (s.task thread).pending = some invalid →
    invalid.id = [] ∨ invalid.id ∈ loginIds past
  overtaken : ∀ thread invalid, s.task thread = .discarding invalid → LoginSince thread past →
    ∀ info, s.conn.loginInfo = some info → info.id ≠ invalid.id

theorem identified_of_run {history : List ThreadEvent} {s : Shared}
    (run : Run threadMachine history s) (fresh : Always FreshLogin history) :
    Identified history s := by
  refine run.invariant_of_always Identified ?_ ?_ fresh
  · rintro s ⟨⟨key, legacySupport, conn⟩, idle⟩
    refine ⟨fun info current => ?_, fun thread invalid here => ?_, fun thread invalid here => ?_⟩
    · rw [conn] at current
      cases current
    · rw [idle] at here
      cases here
    · rw [idle] at here
      cases here
  · rintro past s e t before held guard step
    have pending (thread : ℕ) (invalid : LoginInfo) (here : (t.task thread).pending = some invalid) :
        invalid.id = [] ∨ invalid.id ∈ loginIds past := by
      rcases (step.cameFrom thread).pending invalid here with earlier | rfl
      · exact held.pending thread invalid earlier
      · cases present : s.conn.loginInfo with
        | none => exact .inl (by rw [currentLogin, present]; rfl)
        | some info => exact .inr (by rw [currentLogin, present]; exact held.current info present)
    rcases step.login_cases (told_of_run before) with ⟨acting, info, bus, rfl, login⟩ |
      ⟨none, ids, login⟩ | ⟨same, -, ids, login⟩
    · refine ⟨fun other current => ?_, fun thread invalid here => ?_,
        fun thread invalid here since other current => ?_⟩
      · rw [login] at current
        cases current
        exact List.mem_cons_self
      · exact (pending thread invalid here).imp_right (List.mem_cons_of_mem _)
      · rw [login] at current
        cases current
        rcases pending thread invalid (by rw [here]; rfl) with anonymous | known
        · rw [anonymous]
          exact guard.1
        · exact fun same => guard.2 (same ▸ known)
    · refine ⟨fun other current => ?_, fun thread invalid here => by rw [ids]; exact pending _ _ here,
        fun thread invalid here since => absurd since (none thread)⟩
      rw [login] at current
      cases current
    · refine ⟨fun other current => by rw [ids]; exact held.current other (login ▸ current),
        fun thread invalid here => by rw [ids]; exact pending _ _ here,
        fun thread invalid here since other current => ?_⟩
      rcases (step.cameFrom thread).discarding invalid here with ⟨earlier, mine⟩ | ⟨rfl, -, -⟩
      · exact held.overtaken thread invalid earlier ((same thread mine).mp since) other
          (login ▸ current)
      · exact absurd rfl since.1

/-- A login is never both current and recorded as invalid. -/
def NeverBoth (history : List ThreadEvent) : Prop :=
  ∀ past s, past <:+ history → Run threadMachine past s →
    s.conn.loginInfo = none ∨ s.conn.invalidLogin = none

theorem onlyInvalid_of_undisturbed {history : List ThreadEvent} {s : Shared}
    (run : Run threadMachine history s) (undisturbed : Always Undisturbed history) :
    Always (fun _ => OnlyInvalid) history ∧
      (s.conn.loginInfo = none ∨ s.conn.invalidLogin = none) := by
  refine run.invariant_of_always (fun past s => Always (fun _ => OnlyInvalid) past ∧
    (s.conn.loginInfo = none ∨ s.conn.invalidLogin = none)) ?_ ?_ undisturbed
  · rintro s ⟨⟨key, legacySupport, conn⟩, -⟩
    exact ⟨trivial, .inl (by rw [conn]; rfl)⟩
  · rintro past s e t before held guard step
    have windows := windows_of_run before
    refine ⟨⟨?_, held.1⟩, ?_⟩
    · cases e with
      | discarded thread invalid removed =>
        obtain ⟨here, rfl⟩ := step.of_discarded
        exact windows.discarding thread invalid here guard
      | recorded thread invalid current =>
        obtain ⟨here, rfl⟩ := step.of_recorded
        exact windows.recording thread invalid here guard
      | _ => trivial
    · rcases step.conn_cases with ⟨thread, facets, rfl, conn⟩ | ⟨thread, info, bus, rfl, free⟩ |
        ⟨-, conn⟩ | ⟨thread, invalid, rfl, conn⟩ | ⟨-, same, dropped⟩
      · rw [conn]
        exact held.2
      · obtain ⟨-, after⟩ := Connection.login_eq_some_iff.mp free
        rw [after]
        exact .inr rfl
      · rw [conn]
        rcases out : s.conn.state
        · exact .inl (by simp [Connection.logout, out])
        · rw [Connection.logout_of_loggedOut out]
          exact held.2
      · rw [conn]
        exact .inl (windows.recording thread invalid step.of_recorded.1 guard)
      · have login : t.conn.loginInfo = s.conn.loginInfo := congrArg (fun c => c.2.1) same
        rcases dropped with kept | none
        · rw [login, kept]
          exact held.2
        · exact .inr none

/-- A login that overtakes a handler is lost, or it is there together with the invalid one. -/
theorem undisturbed_of_onlyInvalid {history : List ThreadEvent} {s : Shared}
    (run : Run threadMachine history s) (fresh : Always FreshLogin history)
    (sound : Always (fun _ => OnlyInvalid) history) : Always Undisturbed history := by
  have both := run.invariant (fun past _ => Always (fun _ => OnlyInvalid) past →
    Always FreshLogin past → Always Undisturbed past) (fun _ _ _ _ => trivial) ?_
  · exact both sound fresh
  · rintro past s e t before held step ⟨only, earlier⟩ ⟨-, known⟩
    refine ⟨?_, held earlier known⟩
    have since := (windows_of_run before).since
    cases e with
    | discarded thread invalid removed =>
      obtain ⟨here, rfl⟩ := step.of_discarded
      intro overtaken
      obtain ⟨info, current⟩ := Option.isSome_iff_exists.mp (since thread overtaken)
      exact (identified_of_run before known).overtaken thread invalid here overtaken info current
        (only info current)
    | recorded thread invalid current =>
      obtain ⟨here, rfl⟩ := step.of_recorded
      intro overtaken
      have present := since thread overtaken
      rw [only] at present
      cases present
    | _ => trivial

/-- Handlers of invalid logins discard nothing else, and record nothing where there is another
login, in every run where no login overtakes one of them between its sections; and in no other run,
if the bus grants each login once. -/
theorem discards_only_invalid {history : List ThreadEvent} {s : Shared}
    (run : Run threadMachine history s) :
    (Always Undisturbed history → (∀ e ∈ history, OnlyInvalid e) ∧ NeverBoth history) ∧
    (Always FreshLogin history → (∀ e ∈ history, OnlyInvalid e) → Always Undisturbed history) := by
  rw [← always_iff_forall_mem]
  refine ⟨fun undisturbed => ?_, undisturbed_of_onlyInvalid run⟩
  refine ⟨(onlyInvalid_of_undisturbed run undisturbed).1, fun past t suffix before => ?_⟩
  exact (onlyInvalid_of_undisturbed before (undisturbed.of_suffix suffix)).2

end Windows

namespace Reference

open ReferencePlatform (facets)

def first : LoginInfo := ⟨ascii "a", ascii "C"⟩

def second : LoginInfo := ⟨ascii "b", ascii "C"⟩

/-- A connection that is logged in. -/
def logged (info : LoginInfo) : Connection :=
  { start.conn.loginInit facets with loginInfo := some info, state := .logged }

/-- The steps of a login without interruption. -/
def loggingIn (thread : ℕ) (info : LoginInfo) (history : List ThreadEvent) : List ThreadEvent :=
  .login thread info (ascii "B") :: granting thread (ascii "B") history

/-- A login without interruption, on a connection which is like a new one. -/
theorem run_loggingIn {history : List ThreadEvent} {s : Shared}
    (run : Run threadMachine history s) (thread : ℕ) (here : s.task thread = .idle)
    (out : s.conn = start.conn ∨ ∃ info, s.conn = (logged info).logout) (info : LoginInfo) :
    Run threadMachine (loggingIn thread info history) (s.act thread .idle (logged info)) := by
  refine run_login run thread here ?_ none facets (fun bus impossible => by cases impossible) info ?_
  · rcases out with same | ⟨before, same⟩ <;> rw [same] <;> rfl
  · rcases out with same | ⟨before, same⟩ <;> rw [same] <;> rfl

/-- A thread has sent a request under the first login. -/
def sending : Shared := (start.act 2 .idle (logged first)).turn 0 (.sent first)

def sendingHistory : List ThreadEvent := .other :: loggingIn 2 first []

theorem run_sending : Run threadMachine sendingHistory sending :=
  (run_loggingIn run_start 2 rfl (.inl rfl) first).step (.getLogin rfl)

/-- The answer to it comes after another thread has logged out and in again. -/
def staleHistory : List ThreadEvent :=
  .asked 0 first second (.ok 60) (reaction (.ok 60)) :: .other ::
    loggingIn 2 second (.logout 2 (some first) :: sendingHistory)

theorem run_stale : ∃ s, Run threadMachine staleHistory s := by
  have out : Run threadMachine (.logout 2 (some first) :: sendingHistory) _ :=
    run_sending.step (.logout rfl)
  have again := run_loggingIn out 2 rfl (.inr ⟨first, rfl⟩) second
  have sent : ((sending.act 2 .idle sending.conn.logout).act 2 .idle (logged second)).task 0 =
      .sent first := rfl
  have read := again.step (.read sent)
  exact ⟨_, read.step (.ask (.ok 60) (Shared.task_act_self ..))⟩

/-- The same for one thread after the other, with the operations as a whole. -/
def staleOrb : Orb :=
  let sent := (ClientInterceptor.Reference.sent ClientInterceptor.Reference.first).orb
  let out := (sent.logout referencePlatform ClientInterceptor.Reference.logoutWorld 0).2
  (out.loginBy 0 (ClientInterceptor.Reference.answers (ascii "d"))).2

/-- The registry has told the thread that the login is invalid. -/
def settlingHistory : List ThreadEvent :=
  .compared 0 :: .asked 0 first first (.error (.noPermission invalidLoginCode)) .compare :: .other ::
    sendingHistory

theorem run_settling : Run threadMachine settlingHistory
    (sending.turn 0 (.discarding first)) := by
  have sent : sending.task 0 = .sent first := rfl
  have read := run_sending.step (.read sent)
  have asked := read.step (.ask (.error (.noPermission invalidLoginCode)) (Shared.task_act_self ..))
  have compared := asked.step (.compare (Shared.task_act_self ..) rfl)
  simp only [Shared.turn, Shared.act_act, Shared.conn_act] at compared
  exact compared

end Reference

open Reference in
theorem stale_never_retransmitted_relogin :
    ¬ Retransmits (.asked 0 first second (.ok 60) (reaction (.ok 60))) ∧
      Blames (.asked 0 first second (.ok 60) (reaction (.ok 60))) := by
  obtain ⟨s, run⟩ := run_stale
  exact stale_never_retransmitted run List.mem_cons_self
    ⟨by decide, show (0 : ULong) < 60 by decide⟩

open Reference in
/-- A request sent under a login that has been replaced meanwhile ends with `InvalidRemote`. -/
theorem stale_blamed_on_server :
    (∃ s, Run threadMachine staleHistory s) ∧
    Stale (.asked 0 first second (.ok 60) (reaction (.ok 60))) ∧
    reaction (.ok 60) = .raise (.noPermission invalidRemoteCode) ∧
    (ClientInterceptor.receiveException referencePlatform ClientInterceptor.Reference.environment
      ClientInterceptor.Reference.call
      ⟨.noPermission, invalidLoginCode, .completedNo, fun _ => none⟩ staleOrb).1 =
      .error (.noPermission invalidRemoteCode) :=
  ⟨run_stale, ⟨by decide, show (0 : ULong) < 60 by decide⟩, by decide, by decide +kernel⟩

open Reference in
theorem discards_only_invalid_undisturbed :
    (∀ e ∈ .recorded 0 first none :: .discarded 0 first (some first) :: settlingHistory,
      OnlyInvalid e) ∧
    NeverBoth (.recorded 0 first none :: .discarded 0 first (some first) :: settlingHistory) := by
  have discarded := run_settling.step (.discard (Shared.task_act_self ..))
  have recorded := discarded.step (.record (Shared.task_act_self ..))
  apply (discards_only_invalid recorded).1
  simp [Always, Undisturbed, settlingHistory, sendingHistory, loggingIn, granting, LoginSince]

open Reference in
/-- A login made after the comparison is dropped by the logout meant for another one. -/
theorem valid_login_discarded :
    ∃ s, Run threadMachine (.discarded 0 first (some second) ::
      loggingIn 2 second (.logout 2 (some first) :: settlingHistory)) s ∧
      s.conn.loginInfo = none ∧ ¬ OnlyInvalid (.discarded 0 first (some second)) := by
  have out : Run threadMachine (.logout 2 (some first) :: settlingHistory) _ :=
    run_settling.step (.logout rfl)
  have again := run_loggingIn out 2 rfl (.inr ⟨first, rfl⟩) second
  have here : (((sending.turn 0 (.discarding first)).act 2 .idle
      (sending.turn 0 (.discarding first)).conn.logout).act 2 .idle (logged second)).task 0 =
      .discarding first := rfl
  have discarded := again.step (.discard here)
  refine ⟨_, discarded, rfl, fun only => ?_⟩
  exact absurd (only second rfl) (by decide)

end ConnectionThreads

end OpenBus
