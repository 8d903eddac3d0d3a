import OpenBus.Model.ReferencePlatform
import OpenBus.Proofs.Login
import OpenBus.Proofs.SharedAuth

/-! # What a failed login leaves behind

A login sets most of the connection in `login_init`, before the bus has accepted it, and nothing
sets it back: `logout` does nothing to a connection which is logged out. A login that fails any
later therefore leaves the bus, its facets and its key behind. The machine has the operations of one
thread as its steps.
-/

namespace OpenBus

open Machine

namespace FailedLogin

/-- What a login sets on a connection and a logout clears. -/
def standing (conn : Connection) :=
  (conn.state, conn.loginInfo, conn.busid, conn.buskey, conn.loginCache.isSome, conn.iComponent,
    conn.accessControl, conn.loginRegistry, conn.offerRegistry, conn.legacyAccessControl,
    conn.legacyConverter)

/-- A logged out connection without any of it. -/
def Clean (conn : Connection) : Prop :=
  standing conn = (.loggedOut, none, [], none, false, none, none, none, none, none, none)

/-- What the bus is asked once `login_init` is over: for its name, and to grant the login. -/
def Accepted (answers : LoginAnswers) (facets : BusFacets) : Prop :=
  (∀ bus, answers.secretBus = some bus → bus = facets.accessControl.bus) ∧
    ∃ info, answers.grant = .ok info

/-- How a login ends, by what it finds and what it is answered. -/
inductive Outcome (ref : ConnRef) (answers : LoginAnswers) (orb : Orb) :
    Except Exception Unit → Orb → Prop
  | logged (state : (orb.connections ref).state = .logged) :
      Outcome ref answers orb (.error .alreadyLoggedIn) orb
  | unreached {e : Exception} {t : Orb} (state : (orb.connections ref).state = .loggedOut)
      (component : answers.component = .error e)
      (same : t.connections ref = orb.connections ref) : Outcome ref answers orb (.error e) t
  | refused {facets : BusFacets} {e : Exception} {t : Orb}
      (state : (orb.connections ref).state = .loggedOut)
      (component : answers.component = .ok facets) (refusal : ¬ Accepted answers facets)
      (committed : t.connections ref = (orb.connections ref).loginInit facets) :
      Outcome ref answers orb (.error e) t
  | granted {facets : BusFacets} {info : LoginInfo} {t : Orb}
      (state : (orb.connections ref).state = .loggedOut)
      (component : answers.component = .ok facets) (accepted : Accepted answers facets)
      (installed : t.connections ref = { (orb.connections ref).loginInit facets with
        loginInfo := some info, invalidLogin := none, state := .logged }) :
      Outcome ref answers orb (.ok ()) t

variable {ref : ConnRef} {answers : LoginAnswers} {orb : Orb}

/-- The state in which `login_init` has committed. -/
def committed (ref : ConnRef) (facets : BusFacets) (orb : Orb) : Orb :=
  ((orb.setSlot .ignoreInterceptor (.boolean true)).setSlot .ignoreInterceptor
    (.boolean false)).updateConnection ref (Connection.loginInit facets)

@[simp] theorem connections_committed (facets : BusFacets) :
    (committed ref facets orb).connections ref = (orb.connections ref).loginInit facets :=
  Orb.connections_updateConnection_self ..

theorem loginInit_apply_ok {facets : BusFacets} (orb : Orb) :
    Orb.loginInit ref (.ok facets) orb = (.ok (), committed ref facets orb) := rfl

theorem loginInit_apply_error {e : Exception} (orb : Orb) :
    Orb.loginInit ref (.error e) orb =
      (.error e, (orb.setSlot .ignoreInterceptor (.boolean true)).setSlot .ignoreInterceptor
        (.boolean false)) := rfl

theorem granted_of_ok {info : LoginInfo} (granted : answers.grant = .ok info) :
    Orb.granted answers = .ok info := by
  unfold Orb.granted
  rw [granted]
  cases answers.secretBus <;> rfl

theorem granted_of_error {e : Exception} (refused : answers.grant = .error e) :
    ∃ raised, Orb.granted answers = .error raised := by
  unfold Orb.granted
  rw [refused]
  split
  · exact ⟨_, rfl⟩
  · exact ⟨e, rfl⟩

/-- What a login does once its bus has been found to be the right one. -/
def finishLogin (ref : ConnRef) (answers : LoginAnswers) : Action Orb Exception Unit :=
  Orb.guarded .ignoreInterceptor (.boolean true) (.boolean false) do
    let info ← Action.ofExcept (Orb.granted answers)
    Orb.login ref info

theorem loginBy_committed {facets : BusFacets} (state : (orb.connections ref).state = .loggedOut)
    (component : answers.component = .ok facets)
    (own : ∀ bus, answers.secretBus = some bus → bus = facets.accessControl.bus) :
    Orb.loginBy ref answers orb = finishLogin ref answers (committed ref facets orb) := by
  have right : answers.secretBus.any (· ≠ facets.accessControl.bus) = false := by
    cases secret : answers.secretBus with
    | none => rfl
    | some bus => simp [own bus secret]
  have conn : (committed ref facets orb).connections ref = (orb.connections ref).loginInit facets :=
    connections_committed facets
  simp only [Orb.loginBy, Action.bind_apply, Action.get_apply, state, reduceCtorEq, if_false,
    component, loginInit_apply_ok, conn, Connection.loginInit, right, Bool.false_eq_true]
  rfl

theorem loginBy_wrongBus {facets : BusFacets} {bus : Identifier}
    (state : (orb.connections ref).state = .loggedOut) (component : answers.component = .ok facets)
    (secret : answers.secretBus = some bus) (differ : bus ≠ facets.accessControl.bus) :
    Orb.loginBy ref answers orb = (.error .wrongBus, committed ref facets orb) := by
  simp [Orb.loginBy, Action.bind_apply, state, component, loginInit_apply_ok, secret,
    Connection.loginInit, differ]

/-- The calls of a login with a secret, once `login_init` has committed. -/
theorem finishLogin_sharedAnswers {platform : Platform} {world : SharedLoginWorld}
    {secret : SharedAuthSecret} {facets : BusFacets} (component : world.component = .ok facets)
    {t : Orb} (conn : t.connections ref = (orb.connections ref).loginInit facets) :
    finishLogin ref (SharedAuth.sharedAnswers platform world secret (orb.connections ref)) t =
      Orb.guarded .ignoreInterceptor (.boolean true) (.boolean false)
        (do
          let orb ← get
          let request ← Action.ofExcept
            (SharedAuth.loginRequest platform world (orb.connections ref) secret)
          let info ← Action.ofExcept (SharedAuth.sharedLogin world request)
          Orb.login ref info) t := by
  have within : (t.setSlot .ignoreInterceptor (.boolean true)).connections ref =
      (orb.connections ref).loginInit facets := conn
  rw [finishLogin, SharedAuth.granted_sharedAnswers platform secret component, Orb.guarded_apply,
    Orb.guarded_apply]
  simp only [Action.bind_apply, Action.get_apply, Action.ofExcept_apply, within]
  cases SharedAuth.loginRequest platform world ((orb.connections ref).loginInit facets) secret with
  | error e => rfl
  | ok request => rfl

/-- `loginBySharedAuth` is the login with what its secret leads to. -/
theorem loginBySharedAuth_eq (platform : Platform) (world : SharedLoginWorld) (ref : ConnRef)
    (secret : SharedAuthSecret) (orb : Orb) :
    SharedAuth.loginBySharedAuth platform world ref secret orb =
      Orb.loginBy ref (SharedAuth.sharedAnswers platform world secret (orb.connections ref))
        orb := by
  cases state : (orb.connections ref).state with
  | logged =>
    simp only [SharedAuth.loginBySharedAuth, Orb.loginBy, Action.bind_apply, Action.get_apply,
      state, if_true]
  | loggedOut =>
    cases component : world.component with
    | error e =>
      simp only [SharedAuth.loginBySharedAuth, Orb.loginBy, SharedAuth.sharedAnswers,
        Action.bind_apply, Action.get_apply, state, reduceCtorEq, if_false, component,
        loginInit_apply_error]
    | ok facets =>
      have conn : (committed ref facets orb).connections ref =
          (orb.connections ref).loginInit facets :=
        connections_committed facets
      have begun : SharedAuth.loginBySharedAuth platform world ref secret orb =
          (if secret.busid ≠ facets.accessControl.bus then throw .wrongBus
          else finishLogin ref
            (SharedAuth.sharedAnswers platform world secret (orb.connections ref)))
            (committed ref facets orb) := by
        simp only [SharedAuth.loginBySharedAuth, Action.bind_apply, Action.get_apply, state,
          reduceCtorEq, if_false, component, loginInit_apply_ok, conn, Connection.loginInit]
        split
        · rfl
        · exact (finishLogin_sharedAnswers component conn).symm
      rw [begun]
      by_cases own : secret.busid = facets.accessControl.bus
      · rw [if_neg (not_not.mpr own), loginBy_committed state component]
        rintro bus ⟨⟩
        exact own
      · rw [if_pos own, loginBy_wrongBus state component rfl own]
        rfl

theorem finishLogin_of_ok (state : (orb.connections ref).state = .loggedOut) (facets : BusFacets)
    {info : LoginInfo} (granted : answers.grant = .ok info) :
    ∃ t, finishLogin ref answers (committed ref facets orb) = (.ok (), t) ∧
      t.connections ref = { (orb.connections ref).loginInit facets with
        loginInfo := some info, invalidLogin := none, state := .logged } := by
  let guarded := (committed ref facets orb).setSlot .ignoreInterceptor (.boolean true)
  let installed : Connection := { (orb.connections ref).loginInit facets with
    loginInfo := some info, invalidLogin := none, state := .logged }
  have conn : guarded.connections ref = (orb.connections ref).loginInit facets :=
    connections_committed facets
  have out : ((orb.connections ref).loginInit facets).state = .loggedOut := state
  have logged : Orb.login ref info guarded =
      (.ok (), guarded.updateConnection ref fun _ => installed) := by
    simp only [Orb.login, Action.bind_apply, Action.get_apply, conn,
      Connection.login_of_loggedOut out]
    rfl
  refine ⟨(guarded.updateConnection ref fun _ => installed).setSlot .ignoreInterceptor
    (.boolean false), ?_, ?_⟩
  · simp only [finishLogin, Orb.guarded, Action.bind_apply, Action.ofExcept_apply,
      granted_of_ok granted, guarded, logged]
  · exact Orb.connections_updateConnection_self ref (fun _ => installed) guarded

theorem loginBy_outcome (ref : ConnRef) (answers : LoginAnswers) (orb : Orb) :
    Outcome ref answers orb (Orb.loginBy ref answers orb).1 (Orb.loginBy ref answers orb).2 := by
  cases state : (orb.connections ref).state with
  | logged =>
    have ran : Orb.loginBy ref answers orb = (.error .alreadyLoggedIn, orb) := by
      simp [Orb.loginBy, Action.bind_apply, state]
    rw [ran]
    exact .logged state
  | loggedOut =>
    cases component : answers.component with
    | error e =>
      have ran : Orb.loginBy ref answers orb = (.error e,
          (orb.setSlot .ignoreInterceptor (.boolean true)).setSlot .ignoreInterceptor
            (.boolean false)) := by
        simp [Orb.loginBy, Action.bind_apply, state, component, loginInit_apply_error]
      rw [ran]
      exact .unreached state component rfl
    | ok facets =>
      have conn : (committed ref facets orb).connections ref =
          (orb.connections ref).loginInit facets :=
        connections_committed facets
      by_cases wrong : ∃ bus, answers.secretBus = some bus ∧ bus ≠ facets.accessControl.bus
      · obtain ⟨bus, secret, differ⟩ := wrong
        rw [loginBy_wrongBus state component secret differ]
        exact .refused state component (fun accepted => differ (accepted.1 bus secret)) conn
      · have own : ∀ bus, answers.secretBus = some bus → bus = facets.accessControl.bus := by
          simpa using wrong
        rw [loginBy_committed state component own]
        cases granted : answers.grant with
        | error e =>
          obtain ⟨raised, renamed⟩ := granted_of_error granted
          have ran : finishLogin ref answers (committed ref facets orb) = (.error raised,
              ((committed ref facets orb).setSlot .ignoreInterceptor (.boolean true)).setSlot
                .ignoreInterceptor (.boolean false)) := by
            simp [finishLogin, Orb.guarded, Action.bind_apply, renamed]
          rw [ran]
          refine .refused state component (fun accepted => ?_) conn
          obtain ⟨info, other⟩ := accepted.2
          rw [granted] at other
          cases other
        | ok info =>
          obtain ⟨t, ran, installed⟩ := finishLogin_of_ok state facets granted
          rw [ran]
          exact .granted state component ⟨own, info, granted⟩ installed

theorem outcome_of_loginBy {result : Except Exception Unit} {t : Orb}
    (ran : Orb.loginBy ref answers orb = (result, t)) : Outcome ref answers orb result t := by
  have outcome := loginBy_outcome ref answers orb
  rwa [ran] at outcome

/-- What a thread does with a connection. A login is recorded with what it finds and leaves. -/
inductive Deed
  | login (answers : LoginAnswers) (before after : Connection) (result : Except Exception Unit)
  | other

/-- Logging in, and logging out as far as it concerns the connection, are the steps of a thread that
change what stands. The contents of the login cache may change between them. -/
inductive DeedStep (ref : ConnRef) : Orb → Deed → Orb → Prop
  | login {s t : Orb} {answers : LoginAnswers} {result : Except Exception Unit}
      (ran : Orb.loginBy ref answers s = (result, t)) :
      DeedStep ref s (.login answers (s.connections ref) (t.connections ref) result) t
  | cleared {s : Orb} : DeedStep ref s .other (s.logoutSection ref)
  | other {s t : Orb} (same : standing (t.connections ref) = standing (s.connections ref)) :
      DeedStep ref s .other t

def loginMachine (ref : ConnRef) : Labeled Orb Deed where
  Init s := ∃ key legacySupport, s.connections ref = .init key legacySupport
  Step := DeedStep ref

/-- A login that fails leaves the connection as it was. -/
def Unchanged : Deed → Prop
  | .login _ before after result => (∃ e, result = .error e) →
      standing after = standing before ∧ after.loginCache = before.loginCache
  | .other => True

/-- A login that gets as far as to commit is granted. -/
def GrantedOnceCommitted : Deed → Prop
  | .login answers before _ _ => before.state = .loggedOut →
      ∀ facets, answers.component = .ok facets → Accepted answers facets
  | .other => True

/-- Failed logins of a history change nothing, and what is logged out in the state it leads to is
clean. -/
def NothingChanges (ref : ConnRef) (history : List Deed) (s : Orb) : Prop :=
  (∀ deed ∈ history, Unchanged deed) ∧
    ((s.connections ref).state = .loggedOut → Clean (s.connections ref))

/-- No login of a history fails past the point where `login_init` commits. -/
def AllGranted (history : List Deed) : Prop := ∀ deed ∈ history, GrantedOnceCommitted deed

theorem clean_logout {conn : Connection} (logged : conn.state = .logged) : Clean conn.logout := by
  simp [Clean, standing, Connection.logout, logged]

theorem Clean.of_standing {conn other : Connection} (clean : Clean conn)
    (same : standing other = standing conn) : Clean other := same.trans clean

theorem state_of_standing {conn other : Connection} (same : standing other = standing conn) :
    other.state = conn.state := (Prod.mk.inj same).1

/-- If no login fails once it has committed, what is logged out is clean. -/
theorem clean_of_granted {history : List Deed} {s : Orb} (run : Run (loginMachine ref) history s)
    (granted : ∀ deed ∈ history, GrantedOnceCommitted deed)
    (out : (s.connections ref).state = .loggedOut) : Clean (s.connections ref) := by
  induction run with
  | start init =>
    obtain ⟨key, legacySupport, conn⟩ := init
    rw [conn]
    rfl
  | @step past s t deed run step ih =>
    have earlier := ih fun deed before => granted deed (List.mem_cons_of_mem _ before)
    cases step with
    | login ran =>
      cases outcome_of_loginBy ran with
      | logged state => exact earlier out
      | unreached state component same =>
        rw [same]
        exact earlier state
      | refused state component refusal committed =>
        exact absurd (granted _ List.mem_cons_self state _ component) refusal
      | granted state component accepted installed =>
        rw [installed] at out
        cases out
    | cleared =>
      rw [Orb.connections_logoutSection]
      cases state : (s.connections ref).state with
      | logged => exact clean_logout state
      | loggedOut =>
        rw [Connection.logout_of_loggedOut state]
        exact earlier state
    | other same =>
      exact (earlier ((state_of_standing same).symm.trans out)).of_standing same

theorem unchanged_of_granted {s t : Orb} {deed : Deed} (step : DeedStep ref s deed t)
    (granted : GrantedOnceCommitted deed) : Unchanged deed := by
  cases step with
  | login ran =>
    rintro ⟨e, rfl⟩
    cases outcome_of_loginBy ran with
    | logged state => exact ⟨rfl, rfl⟩
    | unreached state component same =>
      rw [same]
      exact ⟨rfl, rfl⟩
    | refused state component refusal committed =>
      exact absurd (granted state _ component) refusal
  | cleared | other => trivial

/-- On a clean connection, a login that fails once it has committed leaves something behind. -/
theorem granted_of_unchanged {s t : Orb} {result : Except Exception Unit}
    (ran : Orb.loginBy ref answers s = (result, t))
    (clean : (s.connections ref).state = .loggedOut → Clean (s.connections ref))
    (unchanged : Unchanged (.login answers (s.connections ref) (t.connections ref) result)) :
    GrantedOnceCommitted (.login answers (s.connections ref) (t.connections ref) result) := by
  intro out facets component
  cases outcome_of_loginBy ran with
  | logged state =>
    rw [state] at out
    cases out
  | unreached state other same =>
    rw [component] at other
    cases other
  | refused state other refusal committed =>
    have same := (unchanged ⟨_, rfl⟩).1.trans (clean out)
    rw [committed] at same
    simp [standing, Connection.loginInit] at same
  | granted state other accepted installed =>
    rw [component] at other
    cases other
    exact accepted

/-- Failed logins leave the connection as it was, and what is logged out clean, exactly if each
login that commits is granted. -/
theorem nothingChanges_iff {history : List Deed} {s : Orb}
    (run : Run (loginMachine ref) history s) :
    NothingChanges ref history s ↔ AllGranted history := by
  constructor
  · rintro ⟨unchanged, -⟩
    induction run with
    | start init => simp [AllGranted]
    | @step past s t deed run step ih =>
      have granted := ih fun deed before => unchanged deed (List.mem_cons_of_mem _ before)
      refine List.forall_mem_cons.mpr ⟨?_, granted⟩
      cases step with
      | login ran =>
        apply granted_of_unchanged ran
        · exact clean_of_granted run granted
        · exact unchanged _ List.mem_cons_self
      | cleared => trivial
      | other same => trivial
  · intro granted
    have labels : ∀ s deed t, (loginMachine ref).Step s deed t →
        (GrantedOnceCommitted deed → Unchanged deed) := fun _ _ _ step => unchanged_of_granted step
    refine ⟨fun deed done => ?_, clean_of_granted run granted⟩
    exact run.forall_mem labels deed done (granted deed done)

/-- A new connection. -/
def idle : Orb := .init (fun _ => .init ⟨[2]⟩ false) fun _ => true

/-- The bus is there, but it does not accept the password. -/
def denied : LoginAnswers :=
  ⟨.ok ReferencePlatform.facets, none, .error (.user (ascii "AccessDenied"))⟩

/-- The bus cannot be reached. -/
def unreachable : LoginAnswers :=
  ⟨.error (.system (.other (ascii "TRANSIENT")) 0 .completedNo), none, .error .fault⟩

/-- One login on the new connection. -/
def deedOf (answers : LoginAnswers) : Deed :=
  .login answers (idle.connections 0) ((Orb.loginBy 0 answers idle).2.connections 0)
    (Orb.loginBy 0 answers idle).1

theorem run_deedOf (answers : LoginAnswers) :
    Run (loginMachine 0) [deedOf answers] (Orb.loginBy 0 answers idle).2 :=
  .step (.start ⟨⟨[2]⟩, false, rfl⟩) (.login rfl)

theorem nothingChanges_iff_unreachable :
    NothingChanges 0 [deedOf unreachable] (Orb.loginBy 0 unreachable idle).2 ↔
      AllGranted [deedOf unreachable] :=
  nothingChanges_iff (run_deedOf unreachable)

/-- After a login that was denied, the connection reports the bus and has its facets. -/
theorem denied_login_leaves_bus :
    ∃ s, Run (loginMachine 0) [deedOf denied] s ∧ (s.connections 0).state = .loggedOut ∧
      (s.connections 0).busid = ascii "B" ∧
      (s.connections 0).loginRegistry = some ReferencePlatform.facets.loginRegistry ∧
      ¬ NothingChanges 0 [deedOf denied] s := by
  have bus : ((Orb.loginBy 0 denied idle).2.connections 0).busid = ascii "B" := by rfl
  have state : ((Orb.loginBy 0 denied idle).2.connections 0).state = .loggedOut := by rfl
  refine ⟨_, run_deedOf denied, state, bus, rfl, fun changes => ?_⟩
  have clean := changes.2 state
  simp only [Clean, standing, bus, Prod.mk.injEq] at clean
  obtain ⟨-, -, named, -⟩ := clean
  revert named
  decide

end FailedLogin

end OpenBus
