import OpenBus.Model.ReferencePlatform
import OpenBus.Proofs.CallbackScript
import OpenBus.Proofs.ClientInterceptor

/-! # How `get_login` settles an invalid login

The loop reads the login and the invalid login again after every call of the callback, which may
have changed both. Login identifiers are never used twice, so an invalid login that is found again
is the one the callback has left alone, and any other one is new. What the loop has read then
accounts for what it has called.
-/

namespace OpenBus

open Machine StateTransition

namespace LoginCallback

open ConnectionThreads (currentLogin)

/-- The invalid logins that the last `get_login` has read while a callback was registered. -/
def heard : List CallbackEvent → List LoginInfo
  | [] => []
  | .entered _ :: _ => []
  | .read invalid true :: past => invalid :: heard past
  | _ :: past => heard past

/-- The invalid logins that the callback was called with in the last `get_login`. -/
def called : List CallbackEvent → List LoginInfo
  | [] => []
  | .entered _ :: _ => []
  | .called invalid _ _ :: past => invalid :: called past
  | _ :: past => called past

def heardIds (history : List CallbackEvent) : List Identifier :=
  (heard history).map LoginInfo.id

/-- No request is sent from a callback while the connection is logged out. -/
def AsksLoggedIn : CallbackEvent → Prop
  | .entered depth => depth = 0
  | _ => True

/-- What is returned is the current login, or there is no login nor an invalid one any more. -/
def Settled (login : LoginInfo) (conn : Connection) : Prop :=
  conn.loginInfo = some login ∨
    (login = default ∧ conn.state = .loggedOut ∧ conn.loginInfo = none ∧ conn.invalidLogin = none)

/-- A call that returns has settled the login, and has called the callback once for each invalid
login that it has read while one was registered; no callback starts while a login is current. -/
def Settles (past : List CallbackEvent) : CallbackEvent → Prop
  | .answered login conn => Settled login conn
  | .called _ current _ => current = none
  | .returned _ login conn => Settled login conn ∧ called past = heard past ∧ (heardIds past).Nodup
  | _ => True

variable {Rest : Type} {past : List CallbackEvent} {conn after : Connection}
  {used used' : List Identifier} {e : CallbackEvent}

/-- The part of the invariant that depends on where the call stands. -/
def Stage (history : List CallbackEvent) (conn : Connection) : Frame Rest → Prop
  | .resolving login invalid => login = default ∧ conn.loginInfo = none ∧
      conn.invalidLogin = some invalid ∧ called history = heard history ∧
      invalid.id ∉ heardIds history
  | .notifying invalid => conn.loginInfo = none ∧ conn.invalidLogin = some invalid ∧
      invalid :: called history = heard history
  | .running invalid _ => called history = heard history ∧ invalid ∈ heard history ∧
      Exclusive conn ∧ (∀ info, conn.loginInfo = some info → info.id ∉ heardIds history) ∧
      ∀ info, conn.invalidLogin = some info → info = invalid ∨ info.id ∉ heardIds history
  | .returning login => called history = heard history ∧ Settled login conn

/-- What holds between two steps of a thread that never asks while the connection is logged out. -/
structure Tracked (history : List CallbackEvent) (s : Thread Rest) : Prop where
  sound : Sound s.conn s.used
  distinct : (heardIds history).Nodup
  used : heardIds history ⊆ s.used
  alone : s.frames = [] ∨ ∃ frame, s.frames = [frame] ∧ Stage history s.conn frame

theorem Operation.heard_cons (operation : Operation (conn, used) e (after, used'))
    (past : List CallbackEvent) :
    heard (e :: past) = heard past ∧ called (e :: past) = called past := by
  cases operation <;> exact ⟨rfl, rfl⟩

theorem currentLogin_of_none (absent : conn.loginInfo = none) : currentLogin conn = default := by
  rw [currentLogin, absent]
  rfl

theorem Sound.loginInfo_none (sound : Sound conn used) (absent : (currentLogin conn).id = []) :
    conn.loginInfo = none := by
  cases present : conn.loginInfo with
  | none => rfl
  | some info =>
    have named := (sound.current info present).1
    rw [currentLogin, present] at absent
    exact absurd absent named

/-- The loop goes on with the logins of the connection. -/
theorem stage_loop (sound : Sound conn used) (absent : conn.loginInfo = none)
    (accounted : called past = heard past)
    (new : ∀ info, conn.invalidLogin = some info → info.id ∉ heardIds past) :
    Stage past conn
      (loop (currentLogin conn) (conn.invalidLogin.getD default) : Frame Rest) := by
  rw [currentLogin_of_none absent]
  cases pending : conn.invalidLogin with
  | none => exact ⟨accounted, .inr ⟨rfl, sound.out.mpr absent, absent, pending⟩⟩
  | some invalid =>
    rw [Option.getD_some, loop, if_neg (sound.invalid invalid pending).1]
    exact ⟨rfl, absent, pending, accounted, new invalid pending⟩

/-- The operations of a callback keep its stage. -/
theorem Stage.operate {invalid : LoginInfo} {rest : Rest} (rest' : Rest)
    (stage : Stage past conn (.running invalid rest)) (tracked : heardIds past ⊆ used)
    (effect : Effect conn used after used')
    (same : heard (e :: past) = heard past ∧ called (e :: past) = called past) :
    Stage (e :: past) after (.running invalid rest') := by
  obtain ⟨accounted, mem, exclusive, current, pending⟩ := stage
  have new {info : LoginInfo} (now : after.loginInfo = some info) : info.id ∉ heardIds past := by
    rcases effect.current now with before | fresh
    · exact current info before
    · exact fun heard => fresh (tracked heard)
  simp only [Stage, heardIds, same]
  refine ⟨accounted, mem, effect.exclusive exclusive, fun info => new, fun info now => ?_⟩
  rcases effect.invalid now with before | before
  · exact pending info before
  · exact .inr (current info before)

/-- What the section after the callback finds is the login of the callback, or a new one. -/
theorem Stage.finish {invalid : LoginInfo} {rest : Rest}
    (stage : Stage past conn (.running invalid rest)) (sound : Sound conn used) :
    Sound (afterCallback invalid conn : Connection × Frame Rest).1 used ∧
      Stage past (afterCallback invalid conn : Connection × Frame Rest).1
        (afterCallback invalid conn : Connection × Frame Rest).2 := by
  obtain ⟨accounted, mem, exclusive, -, pending⟩ := stage
  dsimp only [afterCallback]
  split
  · next ignored =>
    have absent : conn.loginInfo = none := by
      rcases exclusive with absent | none
      · exact absent
      · exact absurd (by rw [none]; rfl) ignored.1
    refine ⟨sound.forget, accounted, .inr ⟨?_, sound.out.mpr absent, absent, rfl⟩⟩
    exact currentLogin_of_none absent
  · next changed =>
    refine ⟨sound, ?_⟩
    cases present : conn.loginInfo with
    | none =>
      refine stage_loop sound present accounted fun info now => ?_
      rcases pending info now with rfl | new
      · refine absurd ⟨?_, ?_⟩ changed
        · rw [now]
          exact (sound.invalid info now).1
        · rw [now]
          exact beq_self_eq_true info.id
      · exact new
    | some login =>
      have none : conn.invalidLogin = none := by
        rcases exclusive with absent | none
        · rw [absent] at present
          cases present
        · exact none
      rw [none]
      refine ⟨accounted, .inl ?_⟩
      rw [currentLogin, present]
      rfl

theorem Tracked.stage {s : Thread Rest} (tracked : Tracked past s) {frame : Frame Rest}
    {below : List (Frame Rest)} (here : s.frames = frame :: below) :
    below = [] ∧ Stage past s.conn frame := by
  rcases tracked.alone with empty | ⟨_, single, stage⟩
  · rw [here] at empty
    cases empty
  · rw [here] at single
    cases single
    exact ⟨rfl, stage⟩

/-- Every step keeps the invariant, and what it shows is settled. -/
theorem Tracked.step {s t : Thread Rest} (tracked : Tracked past s) (asks : AsksLoggedIn e)
    (step : CallbackStep s e t) : Tracked (e :: past) t ∧ Settles past e := by
  have sound := tracked.sound
  have distinct := tracked.distinct
  have used := tracked.used
  cases step with
  | @operate frames e conn used' acting operation =>
    have effect := operation.effect sound
    have same := operation.heard_cons past
    have ids : heardIds (e :: past) = heardIds past := congrArg (List.map _) same.1
    refine ⟨⟨effect.sound sound, ids ▸ distinct,
      ids ▸ List.Subset.trans used effect.used_subset, ?_⟩, ?_⟩
    · generalize before : s.frames = stack at acting
      cases acting with
      | outside => exact .inl rfl
      | inside rest' =>
        obtain ⟨rfl, stage⟩ := tracked.stage before
        exact .inr ⟨_, rfl, stage.operate rest' used effect same⟩
    · cases operation with
      | answered found =>
        refine .inl ?_
        unfold currentLogin at found ⊢
        cases present : s.conn.loginInfo with
        | none =>
          rw [present] at found
          exact absurd rfl found
        | some login => rfl
      | _ => trivial
  | @enter frames acting absent =>
    have outside : s.frames = [] := List.eq_nil_of_length_eq_zero asks
    rw [outside] at acting
    cases acting
    refine ⟨⟨sound, List.nodup_nil, List.nil_subset _, .inr ⟨_, rfl, ?_⟩⟩, trivial⟩
    exact stage_loop sound (sound.loginInfo_none absent) rfl fun _ _ => List.not_mem_nil
  | unheard here unset =>
    obtain ⟨rfl, rfl, absent, -, accounted, -⟩ := tracked.stage here
    refine ⟨⟨sound.forget, distinct, used, .inr ⟨_, rfl, accounted, ?_⟩⟩, trivial⟩
    exact .inr ⟨rfl, sound.out.mpr absent, absent, rfl⟩
  | @heard below login invalid here set =>
    obtain ⟨rfl, -, absent, pending, accounted, new⟩ := tracked.stage here
    refine ⟨⟨sound, List.nodup_cons.mpr ⟨new, distinct⟩, ?_, .inr ⟨_, rfl, absent, pending, ?_⟩⟩,
      trivial⟩
    · exact List.cons_subset.mpr ⟨(sound.invalid invalid pending).2, used⟩
    · exact congrArg (invalid :: ·) accounted
  | @call below invalid rest here =>
    obtain ⟨rfl, absent, pending, accounted⟩ := tracked.stage here
    refine ⟨⟨sound, distinct, used, .inr ⟨_, rfl, accounted, ?_, .inl absent, ?_, ?_⟩⟩, absent⟩
    · change invalid ∈ LoginCallback.heard past
      rw [← accounted]
      exact List.mem_cons_self
    · rw [absent]
      exact fun _ none => nomatch none
    · exact fun info now => .inl (Option.some.inj (now.symm.trans pending))
  | finish here =>
    obtain ⟨rfl, stage⟩ := tracked.stage here
    obtain ⟨after, next⟩ := stage.finish sound
    exact ⟨⟨after, distinct, used, .inr ⟨_, rfl, next⟩⟩, trivial⟩
  | leave here acting =>
    obtain ⟨rfl, accounted, settled⟩ := tracked.stage here
    cases acting
    exact ⟨⟨sound, distinct, used, .inl rfl⟩, settled, accounted, distinct⟩

theorem tracked_of_run {history : List CallbackEvent} {s : Thread Rest}
    (run : Run (callbackMachine Rest) history s) (asks : ∀ e ∈ history, AsksLoggedIn e) :
    Tracked history s ∧ Always Settles history := by
  induction run with
  | start init => exact ⟨⟨init.1, List.nodup_nil, List.nil_subset _, .inl init.2⟩, trivial⟩
  | step run step ih =>
    obtain ⟨earlier, settles⟩ := ih fun e mem => asks e (List.mem_cons_of_mem _ mem)
    obtain ⟨after, here⟩ := earlier.step (asks _ List.mem_cons_self) step
    exact ⟨after, here, settles⟩

/-- In every run of one thread whose callbacks never ask while the connection is logged out, each
call of `get_login` settles the login. -/
theorem getLogin_settles {history : List CallbackEvent} {s : Thread Rest}
    (run : Run (callbackMachine Rest) history s) (asks : ∀ e ∈ history, AsksLoggedIn e) :
    Always Settles history :=
  (tracked_of_run run asks).2

namespace Reference

/-- The bus grants logins that are longer than all before. -/
def scriptOf (body : List Deed) : Script where
  body := body
  grant used := ⟨0 :: used.flatten, ascii "entity"⟩
  fresh used := by
    refine ⟨List.cons_ne_nil _ _, fun mem => ?_⟩
    have shorter := (List.sublist_flatten_of_mem mem).length_le
    simp at shorter

/-- A connection which has lost its login, with a callback. -/
def lost : Connection :=
  { Connection.init ⟨[1]⟩ false with
    invalidLogin := some ⟨ascii "lost", ascii "entity"⟩
    onInvalidLogin := true }

theorem sound_lost : Sound lost [ascii "lost"] :=
  ⟨by decide, by simp [lost, Connection.init], by
    rintro info ⟨⟩
    exact ⟨by decide, List.mem_cons_self⟩⟩

/-- A body that logs in again. -/
def relogin : List Deed := [⟨.login ReferencePlatform.facets, false⟩]

end Reference

open Reference in
/-- A callback that logs in again is called once, and its login is returned. -/
theorem getLogin_settles_relogin :
    ∃ (history : List CallbackEvent) (s : Thread (List Deed)),
      Run (callbackMachine (List Deed)) history s ∧ (∀ e ∈ history, AsksLoggedIn e) ∧
      called history = [⟨ascii "lost", ascii "entity"⟩] ∧
      s.conn.loginInfo = some ((scriptOf relogin).grant [ascii "lost"]) ∧
      Always Settles history := by
  obtain ⟨start, stacked⟩ := Execution.start_run sound_lost
  have reaches : Reaches (Execution.step (scriptOf relogin))
      (Execution.start lost [ascii "lost"]) _ :=
    .tail (.tail (.tail (.tail (.tail .refl rfl) rfl) rfl) rfl) rfl
  obtain ⟨run, -⟩ := Execution.run_of_reaches start stacked reaches
  suffices asks : ∀ e ∈ _, AsksLoggedIn e from
    ⟨_, _, run, asks, rfl, rfl, getLogin_settles run asks⟩
  exact List.forall_mem_cons.mpr ⟨trivial, List.forall_mem_cons.mpr ⟨trivial,
    List.forall_mem_cons.mpr ⟨trivial, List.forall_mem_cons.mpr ⟨trivial,
      List.forall_mem_cons.mpr ⟨trivial, List.forall_mem_singleton.mpr rfl⟩⟩⟩⟩⟩

section GetLogin

open ClientInterceptor

variable {world : ClientWorld} {ref : ConnRef} {history : List CallbackEvent} {orb t : Orb}
  {info : LoginInfo}

/-- A run of the machine without a request from a logged out connection comes to this point. -/
def Reached (history : List CallbackEvent) (conn : Connection) (frames : List (Frame Unit)) :
    Prop :=
  ∃ used, Run (callbackMachine Unit) history ⟨conn, frames, used⟩ ∧ ∀ e ∈ history, AsksLoggedIn e

theorem Reached.step {conn after : Connection} {frames next : List (Frame Unit)} {e : CallbackEvent}
    (reached : Reached history conn frames)
    (step : ∀ used, CallbackStep ⟨conn, frames, used⟩ e ⟨after, next, used⟩)
    (asks : AsksLoggedIn e) :
    Reached (e :: history) after next := by
  obtain ⟨used, run, earlier⟩ := reached
  exact ⟨used, run.step (step used), List.forall_mem_cons.mpr ⟨asks, earlier⟩⟩

/-- An action which, as a callback, does with the connection what the machine does, and never asks
while the connection is logged out. -/
def Performs (ref : ConnRef) (x : Action Orb Exception Unit) : Prop :=
  ∀ orb history invalid, Reached history (orb.connections ref) [.running invalid ()] →
    ∃ later, history <:+ later ∧ Reached later ((x orb).2.connections ref) [.running invalid ()]

theorem connections_setInvalidLogin (orb : Orb) (ref : ConnRef) (login : Option LoginInfo) :
    (orb.setInvalidLogin ref login).connections ref =
      { orb.connections ref with invalidLogin := login } := by
  simp [Orb.setInvalidLogin, Orb.updateConnection]

theorem Reached.leave {conn : Connection} {login : LoginInfo}
    (reached : Reached history conn [.returning login]) :
    Reached (.returned 0 login conn :: history) conn [] :=
  reached.step (fun _ => .leave rfl .outside) trivial

/-- A turn of the loop without a callback is a run of the machine. -/
theorem Reached.unheard {login invalid : LoginInfo}
    (reached : Reached history (orb.connections ref) [.resolving login invalid])
    (unset : (orb.connections ref).onInvalidLogin = false) :
    Reached (.returned 0 login ((orb.setInvalidLogin ref none).connections ref) ::
      .read invalid false :: history) ((orb.setInvalidLogin ref none).connections ref) [] := by
  rw [connections_setInvalidLogin]
  have turned : Reached (.read invalid false :: history)
      { orb.connections ref with invalidLogin := none } [.returning login] :=
    reached.step (fun _ => .unheard rfl unset) trivial
  exact turned.leave

/-- A turn of the loop with a callback is a run of the machine, up to the section after it. -/
theorem Reached.heard
    (callbacks : ∀ invalid calls, Performs ref (world.onInvalidLogin ref invalid calls))
    {login invalid : LoginInfo}
    (reached : Reached history (orb.connections ref) [.resolving login invalid])
    (set : (orb.connections ref).onInvalidLogin = true) (calls : ℕ) :
    let after := ((world.onInvalidLogin ref invalid calls orb).2).connections ref
    ∃ later, history <:+ later ∧
      Reached later (afterCallback invalid after : Connection × Frame Unit).1
        [(afterCallback invalid after).2] := by
  intro after
  have turned : Reached (.read invalid true :: history) (orb.connections ref)
      [.notifying invalid] := reached.step (fun _ => .heard rfl set) trivial
  have started : Reached (.called invalid (orb.connections ref).loginInfo _ ::
      .read invalid true :: history) (orb.connections ref) [.running invalid ()] :=
    turned.step (fun _ => .call () rfl) trivial
  obtain ⟨inside, earlier, performed⟩ := callbacks invalid calls _ _ _ started
  have finished : Reached (.other :: inside)
      (afterCallback invalid after : Connection × Frame Unit).1
      [(afterCallback invalid after).2] :=
    performed.step (fun _ => .finish rfl) trivial
  refine ⟨.other :: inside, ?_, finished⟩
  calc
    history <:+ .read invalid true :: history := List.suffix_cons _ _
    _ <:+ _ := List.suffix_cons _ _
    _ <:+ inside := earlier
    _ <:+ .other :: inside := List.suffix_cons _ _

/-- The loop of `get_login` is a run of the machine. -/
theorem getLoginLoop_run
    (callbacks : ∀ invalid calls, Performs ref (world.onInvalidLogin ref invalid calls))
    {attempts calls : ℕ} {login invalid : LoginInfo}
    (reached : Reached history (orb.connections ref) [loop login invalid])
    (returned : getLoginLoop world ref attempts calls login invalid orb = (.ok info, t)) :
    ∃ later, history <:+ later ∧
      Reached (.returned 0 info (t.connections ref) :: later) (t.connections ref) [] := by
  induction attempts using Nat.strong_induction_on
    generalizing calls login invalid orb history with
  | h attempts ih =>
    cases getLoginLoop_turn returned with
    | settled unnamed result state =>
      subst result state
      rw [loop, if_pos unnamed] at reached
      exact ⟨history, List.suffix_refl _, reached.leave⟩
    | unheard named unset result state =>
      subst result state
      rw [loop, if_neg named] at reached
      exact ⟨_, List.suffix_cons _ _, reached.unheard unset⟩
    | ignored named set called same result state =>
      subst called result state
      rw [loop, if_neg named] at reached
      obtain ⟨inside, before, finished⟩ := reached.heard callbacks set calls
      dsimp only [afterCallback] at finished
      rw [if_pos same, ← connections_setInvalidLogin] at finished
      exact ⟨_, before, finished.leave⟩
    | @again after remaining named set called changed fewer rest =>
      subst called
      rw [loop, if_neg named] at reached
      obtain ⟨inside, before, finished⟩ := reached.heard callbacks set calls
      dsimp only [afterCallback] at finished
      rw [if_neg changed] at finished
      obtain ⟨later, suffix, done⟩ := ih remaining (by omega) finished rest
      exact ⟨later, before.trans suffix, done⟩

/-- A call of `get_login` that returns is a run of the machine. -/
theorem getLogin_run
    (callbacks : ∀ invalid calls, Performs ref (world.onInvalidLogin ref invalid calls))
    (reached : Reached history (orb.connections ref) [])
    (returned : getLogin world ref orb = (.ok info, t)) :
    ∃ later e, history <:+ later ∧ Reached (e :: later) (t.connections ref) [] ∧
      (e = .returned 0 info (t.connections ref) ∨ e = .answered info (t.connections ref)) := by
  simp only [getLogin, Action.bind_apply, Action.get_apply] at returned
  split at returned
  · next found =>
    cases returned
    have answered : Reached (.answered (currentLogin (orb.connections ref)) (orb.connections ref) ::
        history) (orb.connections ref) [] :=
      reached.step (fun _ => .operate .outside (.answered found)) trivial
    exact ⟨history, _, List.suffix_refl _, answered, .inr rfl⟩
  · next absent =>
    have entered : Reached (.entered 0 :: history) (orb.connections ref)
        [loop (currentLogin (orb.connections ref))
          ((orb.connections ref).invalidLogin.getD default)] :=
      reached.step (fun _ => .enter .outside (not_not.mp absent)) rfl
    obtain ⟨later, suffix, done⟩ := getLoginLoop_run callbacks entered returned
    exact ⟨later, _, (List.suffix_cons _ _).trans suffix, done, .inl rfl⟩

/-- So it settles the login of the connection. -/
theorem getLogin_settled {used : List Identifier}
    (callbacks : ∀ invalid calls, Performs ref (world.onInvalidLogin ref invalid calls))
    (sound : Sound (orb.connections ref) used)
    (returned : getLogin world ref orb = (.ok info, t)) : Settled info (t.connections ref) := by
  have start : Reached [] (orb.connections ref) [] := ⟨used, .start ⟨sound, rfl⟩, by simp⟩
  obtain ⟨later, e, -, ⟨_, run, asks⟩, last⟩ := getLogin_run callbacks start returned
  have settles := (tracked_of_run run asks).2.1
  rcases last with rfl | rfl
  · exact settles.1
  · exact settles

end GetLogin

end LoginCallback

end OpenBus
