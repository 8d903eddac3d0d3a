import OpenBus.Soundness.SettledLogin

/-! # Requests sent from the callback

While the callback runs, the invalid login it was called with stays recorded, until the callback has
logged in or has returned. A request that is sent before finds no login but the recorded one, and
calls the callback again. Whether that happens, and whether the callbacks ever come to an end, is
decided by a scan of the body.
-/

namespace OpenBus

open Machine StateTransition

namespace LoginCallback

open ConnectionThreads (currentLogin)

/-- What has become of the login in a callback: there is a new one, there is none, the login of the
callback is still recorded as invalid, or another one is. -/
inductive Outlook where
  | logged
  | cleared
  | pending
  | renewed
deriving DecidableEq

structure Prospect where
  outlook : Outlook
  /-- Whether a callback is registered. -/
  registered : Bool
deriving DecidableEq

/-- Whether an action throws, and what becomes of the login; none if it calls the callback. -/
def Act.scan (p : Prospect) : Act → Option (Bool × Prospect)
  | .login _ =>
      if p.outlook = .logged then some (true, p) else some (false, { p with outlook := .logged })
  | .refusedLogin _ | .raise => some (true, p)
  | .logout => some (false, if p.outlook = .logged then { p with outlook := .cleared } else p)
  | .invalidated => some (false, if p.outlook = .logged then { p with outlook := .renewed } else p)
  | .setCallback registered => some (false, { p with registered })
  | .request =>
      match p.outlook with
      | .logged => some (false, p)
      | .cleared => some (true, p)
      | .pending | .renewed =>
          if p.registered then none else some (true, { p with outlook := .cleared })

/-- What becomes of the login in a body; none if an action of it calls the callback. -/
def scan : List Deed → Prospect → Option Prospect
  | [], p => some p
  | deed :: rest, p =>
      match deed.act.scan p with
      | none => none
      | some (throws, q) => if throws ∧ deed.caught = false then some q else scan rest q

/-- The body sends no request while an invalid login is recorded and a callback is registered, and
leaves no login behind that has become invalid while a callback is registered. -/
def WellBehaved (body : List Deed) : Prop :=
  ∃ q, scan body ⟨.pending, true⟩ = some q ∧ q ≠ ⟨.renewed, true⟩

/-- A callback is not entered for the login of one that is running, and a request sent from a
callback while the connection is logged out gets no login, and so is refused with `NoLogin`. -/
def Orderly : CallbackEvent → Prop
  | .called invalid _ running => invalid ∉ running
  | .returned depth login _ => depth ≠ 0 → login.id = []
  | _ => True

/-- A request gets through `get_login`, and everything in it is orderly. -/
def RequestEnds (script : Script) (conn : Connection) (used : List Identifier) : Prop :=
  ∃ c ∈ eval (Execution.step script) (Execution.start conn used), ∀ e ∈ c.trace, Orderly e

variable {script : Script} {conn : Connection} {used : List Identifier} {c d : Execution}
  {below : List (Frame (List Deed))} {invalid : LoginInfo} {p q : Prospect}

def Outlook.Holds (invalid : LoginInfo) (conn : Connection) : Outlook → Prop
  | .logged => (∃ info, conn.loginInfo = some info ∧ info.id ≠ invalid.id) ∧
      conn.invalidLogin = none
  | .cleared => conn.loginInfo = none ∧ conn.invalidLogin = none
  | .pending => conn.loginInfo = none ∧ conn.invalidLogin = some invalid
  | .renewed => conn.loginInfo = none ∧ ∃ info, conn.invalidLogin = some info ∧ info.id ≠ invalid.id

theorem Outlook.Holds.of_same {outlook : Outlook} {after : Connection}
    (holds : outlook.Holds invalid conn) (current : after.loginInfo = conn.loginInfo)
    (pending : after.invalidLogin = conn.invalidLogin) : outlook.Holds invalid after := by
  cases outlook <;> simpa only [Outlook.Holds, current, pending] using holds

/-- The state of a callback for a login that is not granted again, as the scan foresees it. -/
structure Foreseen (invalid : LoginInfo) (conn : Connection) (used : List Identifier)
    (p : Prospect) : Prop where
  sound : Sound conn used
  known : invalid.id ∈ used
  outlook : p.outlook.Holds invalid conn
  registered : conn.onInvalidLogin = p.registered

theorem scan_cons {deed : Deed} {rest : List Deed} {throws : Bool}
    (scanned : deed.act.scan p = some (throws, q)) :
    scan (deed :: rest) p = scan (deed.remaining throws rest) q := by
  rw [scan, scanned, Deed.remaining]
  dsimp only
  split <;> rfl

theorem Foreseen.logged (foreseen : Foreseen invalid conn used p) (outlook : p.outlook = .logged) :
    conn.state = .logged ∧ ∃ info, conn.loginInfo = some info ∧ info.id ≠ [] ∧
      info.id ≠ invalid.id := by
  have holds := foreseen.outlook
  rw [outlook] at holds
  obtain ⟨⟨info, present, differ⟩, -⟩ := holds
  refine ⟨?_, info, present, (foreseen.sound.current info present).1, differ⟩
  cases state : conn.state with
  | logged => rfl
  | loggedOut =>
    rw [foreseen.sound.out.mp state] at present
    cases present

theorem Foreseen.out (foreseen : Foreseen invalid conn used p) (outlook : p.outlook ≠ .logged) :
    conn.state = .loggedOut ∧ conn.loginInfo = none := by
  have holds := foreseen.outlook
  have absent : conn.loginInfo = none := by
    cases found : p.outlook <;> rw [found] at holds
    · exact absurd found outlook
    · exact holds.1
    · exact holds.1
    · exact holds.1
  exact ⟨foreseen.sound.out.mpr absent, absent⟩

theorem Foreseen.currentLogin_logged (foreseen : Foreseen invalid conn used p)
    (outlook : p.outlook = .logged) : (currentLogin conn).id ≠ [] := by
  obtain ⟨-, info, present, named, -⟩ := foreseen.logged outlook
  rw [currentLogin, present]
  exact named

theorem Foreseen.currentLogin_out (foreseen : Foreseen invalid conn used p)
    (outlook : p.outlook ≠ .logged) : currentLogin conn = default := by
  rw [currentLogin, (foreseen.out outlook).2]
  rfl

/-- What an action that calls nothing back makes of the login. -/
theorem Foreseen.perform_holds (script : Script) {act : Act} {throws : Bool}
    (foreseen : Foreseen invalid conn used p) (scanned : act.scan p = some (throws, q))
    (served : act = .request → p.outlook = .logged) :
    (act.perform script conn used).throws = throws ∧
      q.outlook.Holds invalid (act.perform script conn used).conn ∧
      (act.perform script conn used).conn.onInvalidLogin = q.registered := by
  have holds := foreseen.outlook
  have registered := foreseen.registered
  cases act with
  | login facets =>
    rw [Act.scan] at scanned
    split at scanned
    · next outlook =>
      cases scanned
      have state : (conn.loginInit facets).state = .logged := (foreseen.logged outlook).1
      have refused : (conn.loginInit facets).login (script.grant used) = none := by
        simp only [Connection.login, state]
      simp only [Act.perform, refused]
      exact ⟨trivial, holds, registered⟩
    · next outlook =>
      cases scanned
      have state : (conn.loginInit facets).state = .loggedOut := (foreseen.out outlook).1
      have granted := Connection.login_of_loggedOut state (script.grant used)
      simp only [Act.perform, granted]
      refine ⟨trivial, ⟨⟨_, rfl, fun same => ?_⟩, rfl⟩, registered⟩
      exact (script.fresh used).2 (same ▸ foreseen.known)
  | refusedLogin facets =>
    cases scanned
    dsimp only [Act.perform]
    split
    · exact ⟨rfl, holds.of_same rfl rfl, registered⟩
    · exact ⟨rfl, holds, registered⟩
  | logout =>
    rw [Act.scan] at scanned
    split at scanned
    · next outlook =>
      cases scanned
      obtain ⟨current, pending⟩ := logout_of_logged (foreseen.logged outlook).1
      exact ⟨rfl, ⟨current, pending⟩, (onInvalidLogin_logout conn).trans registered⟩
    · next outlook =>
      cases scanned
      rw [Act.perform, Connection.logout_of_loggedOut (foreseen.out outlook).1]
      exact ⟨rfl, holds, registered⟩
  | invalidated =>
    rw [Act.scan] at scanned
    split at scanned
    · next outlook =>
      cases scanned
      obtain ⟨state, info, present, -, differ⟩ := foreseen.logged outlook
      simp only [Act.perform, present]
      exact ⟨trivial, ⟨(logout_of_logged state).1, info, rfl, differ⟩,
        (onInvalidLogin_logout conn).trans registered⟩
    · next outlook =>
      cases scanned
      simp only [Act.perform, (foreseen.out outlook).2]
      exact ⟨trivial, holds, registered⟩
  | setCallback value =>
    cases scanned
    exact ⟨rfl, holds.of_same rfl rfl, rfl⟩
  | request =>
    rw [Act.scan, served rfl] at scanned
    cases scanned
    exact ⟨rfl, holds, registered⟩
  | raise =>
    cases scanned
    exact ⟨rfl, holds, registered⟩

/-- An action that calls nothing back does what the scan says. -/
theorem Foreseen.perform (script : Script) {act : Act} {throws : Bool}
    (foreseen : Foreseen invalid conn used p) (scanned : act.scan p = some (throws, q))
    (served : act = .request → p.outlook = .logged) :
    (act.perform script conn used).throws = throws ∧
      Foreseen invalid (act.perform script conn used).conn (act.perform script conn used).used
        q := by
  obtain ⟨throws, holds, registered⟩ := foreseen.perform_holds script scanned served
  have operation : Operation (conn, used) (act.perform script conn used).event _ :=
    Act.operation fun request => foreseen.currentLogin_logged (served request)
  have effect := operation.effect foreseen.sound
  exact ⟨throws, effect.sound foreseen.sound, effect.used_subset foreseen.known, holds, registered⟩

/-- Only a request without a login may call the callback. -/
theorem Act.exists_scan {act : Act} (served : act = .request → p.outlook = .logged) :
    ∃ throws q, act.scan p = some (throws, q) := by
  cases act with
  | login facets =>
    rw [Act.scan]
    split <;> exact ⟨_, _, rfl⟩
  | request =>
    rw [Act.scan, served rfl]
    exact ⟨_, _, rfl⟩
  | _ => exact ⟨_, _, rfl⟩

theorem Operation.orderly {after : Connection} {used' : List Identifier} {e : CallbackEvent}
    (operation : Operation (conn, used) e (after, used')) : Orderly e := by
  cases operation <;> trivial

/-- The thread is about to call the callback for the invalid login of the connection. -/
inductive Recurrent : Execution → Prop
  | intro {conn : Connection} {used : List Identifier} {trace : List CallbackEvent}
      {login invalid : LoginInfo} {below : List (Frame (List Deed))} (sound : Sound conn used)
      (absent : conn.loginInfo = none) (recorded : conn.invalidLogin = some invalid)
      (set : conn.onInvalidLogin = true) :
      Recurrent ⟨⟨conn, .resolving login invalid :: below, used⟩, trace⟩

def Clean (c : Execution) : Prop := ∀ e ∈ c.trace, Orderly e

theorem clean_cons {trace : List CallbackEvent} {e : CallbackEvent} (orderly : Orderly e)
    (clean : ∀ e ∈ trace, Orderly e) : ∀ e' ∈ e :: trace, Orderly e' :=
  List.forall_mem_cons.mpr ⟨orderly, clean⟩

/-- How the rest of a body ends: it comes to its end, or it calls the callback. -/
inductive BodyEnds (script : Script) (invalid : LoginInfo) (below : List (Frame (List Deed)))
    (c : Execution) : Option Prospect → Prop
  | calls {d : Execution} (reaches : Reaches (Execution.step script) c d)
      (recurrent : Recurrent d) : BodyEnds script invalid below c none
  | ends {conn : Connection} {used : List Identifier} {trace : List CallbackEvent} {q : Prospect}
      (reaches : Reaches (Execution.step script) c
        ⟨⟨conn, .running invalid [] :: below, used⟩, trace⟩)
      (foreseen : Foreseen invalid conn used q)
      (clean : Clean c → ∀ e ∈ trace, Orderly e) : BodyEnds script invalid below c (some q)

theorem BodyEnds.of_reaches {o : Option Prospect} (ends : BodyEnds script invalid below d o)
    (reaches : Reaches (Execution.step script) c d) (clean : Clean c → Clean d) :
    BodyEnds script invalid below c o := by
  cases ends with
  | calls later recurrent => exact .calls (reaches.trans later) recurrent
  | ends later foreseen kept => exact .ends (reaches.trans later) foreseen fun c => kept (clean c)

/-- A request from a callback that finds no login: nor an invalid one, or an invalid one with a
callback for it, or an invalid one without. -/
theorem Foreseen.request_cases (foreseen : Foreseen invalid conn used p)
    (outlook : p.outlook ≠ .logged) :
    (conn.invalidLogin = none ∧ Act.request.scan p = some (true, p)) ∨
    ∃ info, conn.invalidLogin = some info ∧ info.id ≠ [] ∧
      ((conn.onInvalidLogin = true ∧ Act.request.scan p = none) ∨
        (conn.onInvalidLogin = false ∧
          Act.request.scan p = some (true, { p with outlook := .cleared }))) := by
  have holds := foreseen.outlook
  have decided (info : LoginInfo) (recorded : conn.invalidLogin = some info)
      (scanned : Act.request.scan p =
        if p.registered then none else some (true, { p with outlook := .cleared })) :
      ∃ info, conn.invalidLogin = some info ∧ info.id ≠ [] ∧
        ((conn.onInvalidLogin = true ∧ Act.request.scan p = none) ∨
          (conn.onInvalidLogin = false ∧
            Act.request.scan p = some (true, { p with outlook := .cleared }))) := by
    refine ⟨info, recorded, (foreseen.sound.invalid info recorded).1, ?_⟩
    rw [foreseen.registered, scanned]
    cases p.registered <;> simp
  rcases found : p.outlook <;> rw [found] at holds
  · exact absurd found outlook
  · exact .inl ⟨holds.2, by simp only [Act.scan, found]⟩
  · exact .inr (decided invalid holds.2 (by simp only [Act.scan, found]))
  · obtain ⟨-, info, recorded, -⟩ := holds
    exact .inr (decided info recorded (by simp only [Act.scan, found]))

theorem step_request {deed : Deed} {rest : List Deed} {trace : List CallbackEvent}
    (request : deed.act = .request) (absent : currentLogin conn = default) :
    Execution.step script ⟨⟨conn, .running invalid (deed :: rest) :: below, used⟩, trace⟩ =
      some ⟨⟨conn, loop default (conn.invalidLogin.getD default) ::
        .running invalid (deed :: rest) :: below, used⟩, .entered (below.length + 1) :: trace⟩ := by
  simp only [Execution.step, absent]
  exact if_pos ⟨request, rfl⟩

theorem step_perform {deed : Deed} {rest : List Deed} {trace : List CallbackEvent}
    (served : deed.act = .request → (currentLogin conn).id ≠ []) :
    Execution.step script ⟨⟨conn, .running invalid (deed :: rest) :: below, used⟩, trace⟩ =
      some ⟨⟨(deed.act.perform script conn used).conn, .running invalid
        (deed.remaining (deed.act.perform script conn used).throws rest) :: below,
        (deed.act.perform script conn used).used⟩,
        (deed.act.perform script conn used).event :: trace⟩ :=
  if_neg fun ⟨request, absent⟩ => served request absent

theorem step_unheard {login info : LoginInfo} {trace : List CallbackEvent}
    (unset : conn.onInvalidLogin = false) :
    Execution.step script ⟨⟨conn, .resolving login info :: below, used⟩, trace⟩ =
      some ⟨⟨{ conn with invalidLogin := none }, .returning login :: below, used⟩,
        .read info false :: trace⟩ :=
  if_neg (by simp [unset])

/-- The request gets no login, which the callback sees as an exception. -/
theorem step_refused {deed : Deed} {rest : List Deed} {trace : List CallbackEvent} :
    Execution.step script
        ⟨⟨conn, .returning default :: .running invalid (deed :: rest) :: below, used⟩, trace⟩ =
      some ⟨⟨conn, .running invalid (deed.remaining true rest) :: below, used⟩,
        .returned (below.length + 1) default conn :: trace⟩ := rfl

/-- A body ends as the scan says. -/
theorem body_ends {rest : List Deed} {trace : List CallbackEvent}
    (foreseen : Foreseen invalid conn used p) :
    BodyEnds script invalid below ⟨⟨conn, .running invalid rest :: below, used⟩, trace⟩
      (scan rest p) := by
  induction rest generalizing conn used trace p with
  | nil => exact .ends .refl foreseen id
  | cons deed rest ih =>
    have goesOn {conn : Connection} {used : List Identifier} {trace : List CallbackEvent}
        {q : Prospect} {throws : Bool} (scanned : deed.act.scan p = some (throws, q))
        (foreseen : Foreseen invalid conn used q) :
        BodyEnds script invalid below
          ⟨⟨conn, .running invalid (deed.remaining throws rest) :: below, used⟩, trace⟩
          (scan (deed :: rest) p) := by
      rw [scan_cons scanned]
      unfold Deed.remaining
      split
      · exact .ends .refl foreseen id
      · exact ih foreseen
    by_cases served : deed.act = .request → p.outlook = .logged
    · obtain ⟨throws, q, scanned⟩ := Act.exists_scan served
      obtain ⟨same, after⟩ := foreseen.perform script scanned served
      have found (request : deed.act = .request) := foreseen.currentLogin_logged (served request)
      refine BodyEnds.of_reaches ?_ (.single (step_perform found)) fun clean => ?_
      · rw [same]
        exact goesOn scanned after
      · exact clean_cons (Act.operation found).orderly clean
    · obtain ⟨request, outlook⟩ := Classical.not_imp.mp served
      have enter : Execution.step script
          ⟨⟨conn, .running invalid (deed :: rest) :: below, used⟩, trace⟩ =
          some ⟨⟨conn, loop default (conn.invalidLogin.getD default) ::
            .running invalid (deed :: rest) :: below, used⟩,
            .entered (below.length + 1) :: trace⟩ :=
        step_request request (foreseen.currentLogin_out outlook)
      rcases foreseen.request_cases outlook with
        ⟨cleared, scanned⟩ | ⟨info, recorded, named, ⟨set, scanned⟩ | ⟨unset, scanned⟩⟩ <;>
        rw [← request] at scanned
      · rw [cleared] at enter
        refine (goesOn scanned foreseen).of_reaches (.head enter (.single step_refused)) ?_
        intro clean
        exact clean_cons (fun _ => rfl) (clean_cons trivial clean)
      · rw [recorded, Option.getD_some, loop, if_neg named] at enter
        have recurrent : Recurrent ⟨⟨conn, .resolving default info ::
            .running invalid (deed :: rest) :: below, used⟩,
            .entered (below.length + 1) :: trace⟩ :=
          .intro foreseen.sound (foreseen.out outlook).2 recorded set
        have calls : scan (deed :: rest) p = none := by rw [scan, scanned]
        rw [calls]
        exact .calls (.single enter) recurrent
      · rw [recorded, Option.getD_some, loop, if_neg named] at enter
        have dropped : Foreseen invalid { conn with invalidLogin := none } used
            { p with outlook := .cleared } :=
          ⟨foreseen.sound.forget, foreseen.known, ⟨(foreseen.out outlook).2, rfl⟩,
            foreseen.registered⟩
        refine (goesOn scanned dropped).of_reaches
          (.head enter (.head (step_unheard unset) (.single step_refused))) fun clean => ?_
        exact clean_cons (fun _ => rfl) (clean_cons trivial (clean_cons trivial clean))

/-- Two steps take a thread that is about to call the callback into its body. -/
theorem reaches_body (script : Script) (below : List (Frame (List Deed))) (login : LoginInfo)
    (trace : List CallbackEvent) (sound : Sound conn used) (absent : conn.loginInfo = none)
    (recorded : conn.invalidLogin = some invalid) (set : conn.onInvalidLogin = true) :
    ∃ d, Reaches₁ (Execution.step script)
        ⟨⟨conn, .resolving login invalid :: below, used⟩, trace⟩ d ∧
      (invalid ∉ running below → (∀ e ∈ trace, Orderly e) → Clean d) ∧
      BodyEnds script invalid below d (scan script.body ⟨.pending, true⟩) := by
  have heard : Execution.step script
      ⟨⟨conn, .resolving login invalid :: below, used⟩, trace⟩ =
      some ⟨⟨conn, .notifying invalid :: below, used⟩, .read invalid true :: trace⟩ := if_pos set
  refine ⟨_, .head heard (.single rfl), fun new clean => ?_, body_ends ?_⟩
  · exact clean_cons new (clean_cons trivial clean)
  · exact ⟨sound, (sound.invalid invalid recorded).2, ⟨absent, recorded⟩, set⟩

/-- The section after a callback that has left another invalid login. -/
theorem step_renewed {info : LoginInfo} {trace : List CallbackEvent}
    (absent : conn.loginInfo = none) (recorded : conn.invalidLogin = some info)
    (named : info.id ≠ []) (differ : info.id ≠ invalid.id) :
    Execution.step script ⟨⟨conn, .running invalid [] :: below, used⟩, trace⟩ =
      some ⟨⟨conn, .resolving default info :: below, used⟩, .other :: trace⟩ := by
  have changed : ¬ (info.id ≠ [] ∧ info.equal invalid) := by simp [LoginInfo.equal, differ]
  simp only [Execution.step, afterCallback, recorded, Option.getD_some, if_neg changed, loop,
    if_neg named, currentLogin, absent, Option.getD_none]

/-- A body that is not well behaved leads from one call of the callback to another. -/
theorem recurrent_of_not_wellBehaved (behaved : ¬ WellBehaved script.body) :
    ∀ c ∈ {c | Recurrent c}, ∃ d ∈ {d | Recurrent d}, Reaches₁ (Execution.step script) c d := by
  rintro _ ⟨sound, absent, recorded, set⟩
  obtain ⟨started, first, -, ends⟩ := reaches_body script _ _ _ sound absent recorded set
  cases scanned : scan script.body ⟨.pending, true⟩ with
  | none =>
    rw [scanned] at ends
    cases ends with
    | calls reaches recurrent => exact ⟨_, recurrent, first.trans_left reaches⟩
  | some q =>
    obtain rfl : q = ⟨.renewed, true⟩ := by
      by_contra other
      exact behaved ⟨q, scanned, other⟩
    rw [scanned] at ends
    cases ends with
    | ends reaches foreseen clean =>
      obtain ⟨absent, info, recorded, differ⟩ := foreseen.outlook
      have named := (foreseen.sound.invalid info recorded).1
      exact ⟨_, .intro foreseen.sound absent recorded foreseen.registered,
        (first.trans_left reaches).tail (step_renewed absent recorded named differ)⟩

/-- The section after a callback that has left no invalid login, or its own one. -/
theorem step_settled {trace : List CallbackEvent}
    (settled : conn.invalidLogin = none ∨ conn.invalidLogin = some invalid ∧ invalid.id ≠ []) :
    Execution.step script ⟨⟨conn, .running invalid [] :: below, used⟩, trace⟩ =
      some ⟨⟨{ conn with invalidLogin := none }, .returning (currentLogin conn) :: below, used⟩,
        .other :: trace⟩ := by
  rcases settled with recorded | ⟨recorded, named⟩
  · have same : { conn with invalidLogin := none } = conn := by rw [← recorded]
    have changed : ¬ ((default : LoginInfo).id ≠ [] ∧ (default : LoginInfo).equal invalid) :=
      fun named => named.1 rfl
    simp only [Execution.step, afterCallback, recorded, Option.getD_none, if_neg changed, loop,
      same]
    rfl
  · have ignored : invalid.id ≠ [] ∧ invalid.equal invalid := ⟨named, by simp [LoginInfo.equal]⟩
    simp only [Execution.step, afterCallback, recorded, Option.getD_some, if_pos ignored]

/-- The thread leaves `get_login`, outside of any callback, with what the loop has found. -/
theorem ends_returning {login : LoginInfo} {trace : List CallbackEvent}
    (reaches : Reaches (Execution.step script) c ⟨⟨conn, [.returning login], used⟩, trace⟩)
    (clean : ∀ e ∈ trace, Orderly e) : ∃ d ∈ eval (Execution.step script) c, Clean d := by
  refine ⟨⟨⟨conn, [], used⟩, .returned 0 login conn :: trace⟩,
    mem_eval.mpr ⟨reaches.tail rfl, rfl⟩, ?_⟩
  exact clean_cons (fun inside => absurd rfl inside) clean

/-- A well-behaved callback is called once. -/
theorem ends_of_wellBehaved {login : LoginInfo} {trace : List CallbackEvent}
    (behaved : WellBehaved script.body) (sound : Sound conn used)
    (absent : conn.loginInfo = none) (recorded : conn.invalidLogin = some invalid)
    (set : conn.onInvalidLogin = true) (clean : ∀ e ∈ trace, Orderly e) :
    ∃ d ∈ eval (Execution.step script) ⟨⟨conn, [.resolving login invalid], used⟩, trace⟩,
      Clean d := by
  have named := (sound.invalid invalid recorded).1
  obtain ⟨⟨outlook, registered⟩, scanned, settled⟩ := behaved
  obtain ⟨started, first, startedClean, ends⟩ :=
    reaches_body script [] login trace sound absent recorded set
  rw [scanned] at ends
  cases ends with
  | @ends conn used trace q reaches foreseen kept =>
    have arrived := first.to_reflTransGen.trans reaches
    have orderly : ∀ e ∈ CallbackEvent.other :: trace, Orderly e :=
      clean_cons trivial (kept (startedClean List.not_mem_nil clean))
    have holds := foreseen.outlook
    cases outlook with
    | logged => exact ends_returning (arrived.tail (step_settled (.inl holds.2))) orderly
    | cleared => exact ends_returning (arrived.tail (step_settled (.inl holds.2))) orderly
    | pending =>
      exact ends_returning (arrived.tail (step_settled (.inr ⟨holds.2, named⟩))) orderly
    | renewed =>
      obtain ⟨absent, info, recorded, differ⟩ := holds
      have unset : conn.onInvalidLogin = false := by
        rw [foreseen.registered]
        cases registered with
        | true => exact absurd rfl settled
        | false => rfl
      have again := arrived.tail
        (step_renewed absent recorded (foreseen.sound.invalid info recorded).1 differ)
      exact ends_returning (again.tail (step_unheard unset)) (clean_cons trivial orderly)

theorem start_of_out (absent : conn.loginInfo = none) :
    Execution.start conn used =
      ⟨⟨conn, [loop default (conn.invalidLogin.getD default)], used⟩, [.entered 0]⟩ := by
  have none : currentLogin conn = default := by
    rw [currentLogin, absent]
    rfl
  rw [Execution.start, none]
  exact if_neg (not_not.mpr rfl)

theorem start_of_logged {info : LoginInfo} (present : conn.loginInfo = some info)
    (named : info.id ≠ []) :
    Execution.start conn used = ⟨⟨conn, [], used⟩, [.answered info conn]⟩ := by
  have found : currentLogin conn = info := by
    rw [currentLogin, present]
    rfl
  rw [Execution.start, found]
  exact if_pos named

/-- A request never ends whose callback is not well behaved. -/
theorem not_dom_eval_start (sound : Sound conn used) (absent : conn.loginInfo = none)
    (recorded : conn.invalidLogin = some invalid) (set : conn.onInvalidLogin = true)
    (behaved : ¬ WellBehaved script.body) :
    ¬ (eval (Execution.step script) (Execution.start conn used)).Dom := by
  rw [start_of_out absent, recorded, Option.getD_some, loop,
    if_neg (sound.invalid invalid recorded).1]
  exact not_dom_eval_of_recurrent (recurrent_of_not_wellBehaved behaved) .refl
    (.intro sound absent recorded set)

/-- A request ends in an orderly way exactly if it finds a login, or no invalid login, or no
callback, or a callback with a well-behaved body. -/
theorem request_ends_iff (sound : Sound conn used) :
    RequestEnds script conn used ↔ conn.loginInfo ≠ none ∨ conn.invalidLogin = none ∨
      conn.onInvalidLogin = false ∨ WellBehaved script.body := by
  cases present : conn.loginInfo with
  | some info =>
    refine iff_of_true ?_ (.inl (by simp))
    rw [RequestEnds, start_of_logged present (sound.current info present).1]
    exact ⟨_, mem_eval.mpr ⟨.refl, rfl⟩, clean_cons trivial (by simp)⟩
  | none =>
    have entered : ∀ e ∈ [CallbackEvent.entered 0], Orderly e := clean_cons trivial (by simp)
    cases recorded : conn.invalidLogin with
    | none =>
      rw [RequestEnds, start_of_out present, recorded]
      exact iff_of_true (ends_returning .refl entered) (by simp)
    | some invalid =>
      have started : Execution.start conn used =
          ⟨⟨conn, [.resolving default invalid], used⟩, [.entered 0]⟩ := by
        rw [start_of_out present, recorded, Option.getD_some, loop,
          if_neg (sound.invalid invalid recorded).1]
      cases set : conn.onInvalidLogin with
      | false =>
        rw [RequestEnds, started]
        refine iff_of_true ?_ (by simp)
        exact ends_returning (.single (step_unheard set)) (clean_cons trivial entered)
      | true =>
        simp only [ne_eq, not_true_eq_false, reduceCtorEq, false_or]
        constructor
        · rintro ⟨d, ended, -⟩
          by_contra behaved
          exact not_dom_eval_start sound present recorded set behaved
            (Part.dom_iff_mem.mpr ⟨d, ended⟩)
        · intro behaved
          rw [RequestEnds, started]
          exact ends_of_wellBehaved behaved sound present recorded set entered

open Reference in
/-- A callback that logs in before it sends a request is well behaved. -/
theorem request_ends_iff_relogin :
    RequestEnds (scriptOf [⟨.login ReferencePlatform.facets, false⟩, ⟨.request, false⟩]) lost
      [ascii "lost"] := by
  refine (request_ends_iff sound_lost).mpr (.inr (.inr (.inr ?_)))
  exact ⟨⟨.logged, true⟩, by decide, by decide⟩

open Reference in
/-- A callback that sends a request before it has logged in is entered again for the same login,
and the request that was sent first never ends. -/
theorem request_in_callback_reenters :
    ∃ script conn used, Sound conn used ∧ ¬ RequestEnds script conn used ∧
      ∃ d, Reaches (Execution.step script) (Execution.start conn used) d ∧
        ∃ e ∈ d.trace, ¬ Orderly e := by
  refine ⟨scriptOf [⟨.request, false⟩], lost, [ascii "lost"], sound_lost, ?_, ?_⟩
  · rintro ⟨d, ended, -⟩
    refine not_dom_eval_start sound_lost rfl rfl rfl ?_ (Part.dom_iff_mem.mpr ⟨d, ended⟩)
    rintro ⟨q, scanned, -⟩
    cases scanned
  · refine ⟨_, .tail (.tail (.tail (.tail (.tail .refl rfl) rfl) rfl) rfl) rfl, _,
      List.mem_cons_self, ?_⟩
    intro orderly
    exact orderly List.mem_cons_self

end LoginCallback

end OpenBus
