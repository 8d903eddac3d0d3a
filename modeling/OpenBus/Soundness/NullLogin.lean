import OpenBus.Model.ReferencePlatform
import OpenBus.Proofs.Login

/-! # Reading a login that is null

A chain is given the entity of the current connection as its target, without a test whether that
connection has a login. The context reads its chains when it is asked for them, and `logout` reads
them twice: it saves the joined chain, and by joining an empty chain again it reads that of the
caller. By then it has taken the login of the connection away.
-/

namespace OpenBus

open Machine

namespace Orb

variable {platform : Platform} {world : LogoutWorld} {ref : ConnRef}

/-- The read of the chain ends at the null login, the only fault that it can meet. -/
def ReadsNull (result : Except Exception CallerChain) : Prop := result = .error .fault

/-- The codec accepts a signed chain. -/
def Decodes (platform : Platform) : Protocol × SignedData → Prop
  | (.current, signedChain) => ∃ any, platform.decodeValue signedChain.encoded .callChain = .ok any
  | (.legacy, signedChain) =>
      ∃ any, platform.decodeValue signedChain.encoded .legacyCallChain = .ok any

/-- The slot of the caller's chain has a chain that the codec accepts. -/
def CallerDecodes (platform : Platform) (orb : Orb) : Prop :=
  ∃ half, (orb.piCurrent .signedCallChain).half = some half ∧ Decodes platform half

/-- The slot of the joined chain has a chain of version 2.1 that the codec accepts. -/
def JoinedDecodes (platform : Platform) (orb : Orb) : Prop :=
  ∃ signedChain, (orb.piCurrent .joinedCallChain).half = some (.current, signedChain) ∧
    Decodes platform (.current, signedChain)

/-- There is a current connection and it has no login. -/
def Loginless (orb : Orb) : Prop :=
  ∃ conn, orb.getCurrentConnection = some conn ∧ (orb.connections conn).loginInfo = none

/-- There is a current connection and it has no login once `ref` has lost its own. -/
def LoginlessWithout (ref : ConnRef) (orb : Orb) : Prop :=
  ∃ conn, orb.getCurrentConnection = some conn ∧
    (conn = ref ∨ (orb.connections conn).loginInfo = none)

/-- The reads of `logout` that end at a null login. -/
inductive LogoutReadsNull (platform : Platform) (world : LogoutWorld) (ref : ConnRef)
    (orb : Orb) : Prop
  | saving (logged : (orb.connections ref).state = .logged)
      (login : (orb.connections ref).loginInfo.isSome)
      (null : ReadsNull ((orb.logoutSection ref).getJoinedChain platform))
  | restoring {login : LoginInfo} {accessControl : ObjectRef} {previous : CallerChain}
      (logged : LoggedIn (orb.connections ref) login accessControl)
      (saved : (orb.logoutSection ref).getJoinedChain platform = .ok previous)
      (absent : previous.equal (.none platform) = true)
      (null : ReadsNull ((restored world orb.getCurrentConnection
        (told world ref orb login accessControl)).getCallerChain platform))

/-- An operation that reads the chains of its context. A `logout` has a remote call in it. -/
inductive ContextCall where
  | getCallerChain
  | getJoinedChain
  | logout (world : LogoutWorld) (ref : ConnRef)

namespace ContextCall

/-- The remote call leaves the logins and the context of its caller alone. -/
def Quiet : ContextCall → Prop
  | .logout world _ => Undisturbed world
  | _ => True

/-- The ORB as the call leaves it. -/
def effect (platform : Platform) (orb : Orb) : ContextCall → Orb
  | .logout world ref => (orb.logout platform world ref).2
  | _ => orb

/-- The call reads a field of a null login. -/
def ReadsNull (platform : Platform) (orb : Orb) : ContextCall → Prop
  | .getCallerChain => Orb.ReadsNull (orb.getCallerChain platform)
  | .getJoinedChain => Orb.ReadsNull (orb.getJoinedChain platform)
  | .logout world ref => LogoutReadsNull platform world ref orb

/-- No chain is there for the call to read when the current connection has no login, or is about to
lose it by this `logout`. -/
def FindsLogin (platform : Platform) (orb : Orb) : ContextCall → Prop
  | .getCallerChain => orb.Loginless → ¬ orb.CallerDecodes platform
  | .getJoinedChain => orb.Loginless → ¬ orb.JoinedDecodes platform
  | .logout _ ref => (orb.connections ref).state = .logged →
      (orb.connections ref).loginInfo.isSome → orb.LoginlessWithout ref →
      ¬ orb.JoinedDecodes platform ∧
        ((orb.connections ref).accessControl.isSome → ¬ orb.CallerDecodes platform)

end ContextCall

/-- Dismantling a logged connection takes its login away and leaves all else of the context. -/
theorem loginless_logoutSection_iff {orb : Orb} (logged : (orb.connections ref).state = .logged) :
    (orb.logoutSection ref).Loginless ↔ orb.LoginlessWithout ref := by
  have logins (conn : ConnRef) : ((orb.logoutSection ref).connections conn).loginInfo = none ↔
      conn = ref ∨ (orb.connections conn).loginInfo = none := by
    rcases eq_or_ne conn ref with rfl | other
    · simp [loginInfo_logoutSection_self logged]
    · simp [connections_logoutSection_of_ne other, other]
  simp only [Loginless, LoginlessWithout, getCurrentConnection_logoutSection, logins]

/-- A current connection without login has no joined chain reported other than the empty one. -/
theorem absent_of_loginless {orb : Orb} (loginless : orb.Loginless) {chain : CallerChain}
    (read : orb.getJoinedChain platform = .ok chain) : chain.equal (.none platform) = true := by
  obtain ⟨conn, current, none⟩ := loginless
  rw [getJoinedChain_eq, current] at read
  split at read
  · next ref signedChain same _ =>
    obtain rfl := Option.some.inj same
    rcases reportHalf_eq_ok_iff.mp read with extracted | ⟨rfl, -⟩
    · exact absurd none (login_of_extractHalf extracted)
    · exact CallerChain.equal_none_self platform
  · obtain rfl := Except.ok.inj read
    exact CallerChain.equal_none_self platform

section Reads

variable (refuses : platform.CodecRefuses)
include refuses

theorem decodeValue_ne_fault (data : OctetSeq) (type : TypeCode) :
    platform.decodeValue data type ≠ .error .fault := by
  intro fault
  rcases refuses data type .fault fault with impossible | impossible <;> cases impossible

theorem extractHalf_readsNull_iff (conn : Connection) (half : Protocol × SignedData) :
    ReadsNull (extractHalf platform conn half) ↔
      Decodes platform half ∧ conn.loginInfo = none := by
  obtain ⟨protocol, signedChain⟩ := half
  have refused := decodeValue_ne_fault refuses signedChain.encoded
  cases protocol with
  | current =>
    have refused := refused .callChain
    simp only [ReadsNull, extractHalf, extractCallChain, decodeChainData, loginEntity, Decodes]
    cases decoded : platform.decodeValue signedChain.encoded .callChain with
    | error e =>
      rw [decoded] at refused
      simpa [Except.map, bind, Except.bind] using refused
    | ok any =>
      cases conn.loginInfo <;> simp [Except.map, bind, Except.bind, pure, Except.pure]
  | legacy =>
    have refused := refused .legacyCallChain
    simp only [ReadsNull, extractHalf, extractLegacyCallChain, decodeLegacyChainData, loginEntity,
      Decodes]
    cases decoded : platform.decodeValue signedChain.encoded .legacyCallChain with
    | error e =>
      rw [decoded] at refused
      simpa [Except.map, bind, Except.bind] using refused
    | ok any =>
      cases conn.loginInfo <;> simp [Except.map, bind, Except.bind, pure, Except.pure]

theorem reportHalf_readsNull_iff (conn : Connection) (signedChain : SignedData) :
    ReadsNull (reportHalf platform conn signedChain) ↔
      Decodes platform (.current, signedChain) ∧ conn.loginInfo = none := by
  have refused := decodeValue_ne_fault refuses signedChain.encoded .callChain
  simp only [ReadsNull, reportHalf, Decodes, loginEntity]
  cases decoded : platform.decodeValue signedChain.encoded .callChain with
  | error e =>
    rw [decoded] at refused
    simp only [reduceCtorEq, exists_false, false_and, iff_false]
    split
    · simp
    · simpa using refused
  | ok any =>
    cases conn.loginInfo <;> simp [Except.map]

theorem getCallerChain_readsNull_iff (orb : Orb) :
    ReadsNull (orb.getCallerChain platform) ↔ orb.Loginless ∧ orb.CallerDecodes platform := by
  rw [getCallerChain_eq, Loginless, CallerDecodes]
  cases orb.getCurrentConnection with
  | none => simp [ReadsNull]
  | some conn =>
    cases (orb.piCurrent .signedCallChain).half with
    | none => simp [ReadsNull]
    | some half => simp [extractHalf_readsNull_iff refuses, and_comm]

theorem getJoinedChain_readsNull_iff (orb : Orb) :
    ReadsNull (orb.getJoinedChain platform) ↔ orb.Loginless ∧ orb.JoinedDecodes platform := by
  rw [getJoinedChain_eq, Loginless, JoinedDecodes]
  cases orb.getCurrentConnection with
  | none => simp [ReadsNull]
  | some conn =>
    rcases (orb.piCurrent .joinedCallChain).half with _ | ⟨protocol, signedChain⟩
    · simp [ReadsNull]
    · cases protocol with
      | current => simp [reportHalf_readsNull_iff refuses, and_comm]
      | legacy => simp [ReadsNull]

/-- The codec's own exceptions are taken for the absence of a chain. -/
theorem getJoinedChain_error {orb : Orb} {e : Exception}
    (raised : orb.getJoinedChain platform = .error e) : e = .fault := by
  rw [getJoinedChain_eq] at raised
  split at raised
  · next conn signedChain _ _ =>
    simp only [reportHalf, loginEntity] at raised
    split at raised
    · next refusal decoded =>
      rcases refuses _ _ _ decoded with rfl | rfl <;> cases raised
    · split at raised <;> simp_all [Except.map]
  · cases raised

/-- Where no chain is put back, the reads of `logout` see the context as it was. -/
theorem restoring_readsNull_iff (quiet : Undisturbed world) (orb : Orb) (login : LoginInfo)
    (accessControl : ObjectRef) :
    ReadsNull ((restored world orb.getCurrentConnection
        (told world ref orb login accessControl)).getCallerChain platform) ↔
      (orb.logoutSection ref).Loginless ∧ orb.CallerDecodes platform := by
  rw [getCallerChain_congr (restored_surroundings ref quiet orb login accessControl),
    getCallerChain_readsNull_iff refuses]
  simp only [CallerDecodes, piCurrent_logoutSection]

theorem logoutReadsNull_iff (quiet : Undisturbed world) (orb : Orb) :
    LogoutReadsNull platform world ref orb ↔
      (orb.connections ref).state = .logged ∧ (orb.connections ref).loginInfo.isSome ∧
        orb.LoginlessWithout ref ∧ (orb.JoinedDecodes platform ∨
          (orb.connections ref).accessControl.isSome ∧ orb.CallerDecodes platform) := by
  have saving : ReadsNull ((orb.logoutSection ref).getJoinedChain platform) ↔
      (orb.logoutSection ref).Loginless ∧ orb.JoinedDecodes platform := by
    rw [getJoinedChain_readsNull_iff refuses]
    simp only [JoinedDecodes, piCurrent_logoutSection]
  constructor
  · rintro (⟨logged, login, null⟩ | ⟨logged, saved, absent, null⟩)
    · obtain ⟨loginless, decodes⟩ := saving.mp null
      exact ⟨logged, login, (loginless_logoutSection_iff logged).mp loginless, .inl decodes⟩
    · obtain ⟨loginless, decodes⟩ := (restoring_readsNull_iff refuses quiet orb _ _).mp null
      refine ⟨logged.state, by simp [logged.login],
        (loginless_logoutSection_iff logged.state).mp loginless, .inr ⟨?_, decodes⟩⟩
      simp [logged.accessControl]
  · rintro ⟨logged, login, without, reads⟩
    have loginless := (loginless_logoutSection_iff logged).mpr without
    cases read : (orb.logoutSection ref).getJoinedChain platform with
    | error e =>
      obtain rfl := getJoinedChain_error refuses read
      exact .saving logged login read
    | ok previous =>
      rcases reads with joined | ⟨present, caller⟩
      · exact .saving logged login (saving.mpr ⟨loginless, joined⟩)
      · obtain ⟨info, login⟩ := Option.isSome_iff_exists.mp login
        obtain ⟨accessControl, present⟩ := Option.isSome_iff_exists.mp present
        exact .restoring ⟨logged, login, present⟩ read (absent_of_loginless loginless read)
          ((restoring_readsNull_iff refuses quiet orb _ _).mpr ⟨loginless, caller⟩)

/-- A call reads a null login exactly where it finds a chain and no login. -/
theorem ContextCall.readsNull_iff {call : ContextCall} (quiet : call.Quiet) (orb : Orb) :
    call.ReadsNull platform orb ↔ ¬ call.FindsLogin platform orb := by
  cases call with
  | getCallerChain =>
    refine (getCallerChain_readsNull_iff refuses orb).trans ?_
    simp [FindsLogin]
  | getJoinedChain =>
    refine (getJoinedChain_readsNull_iff refuses orb).trans ?_
    simp [FindsLogin]
  | logout world ref =>
    refine (logoutReadsNull_iff refuses quiet orb).trans ?_
    simp only [FindsLogin, Classical.not_imp, not_and_or, not_not]

end Reads

/-- A `logout` that reads a null login does not return. -/
theorem logout_of_readsNull (quiet : Undisturbed world) {orb : Orb}
    (null : LogoutReadsNull platform world ref orb) :
    (orb.logout platform world ref).1 = .error .fault := by
  rcases null with ⟨logged, login, null⟩ | ⟨logged, saved, absent, null⟩
  · obtain ⟨info, login⟩ := Option.isSome_iff_exists.mp login
    simp only [ReadsNull] at null
    simp only [logout, Action.bind_apply, Action.get_apply, logged, login, Action.modify_apply,
      confirmLogout, Action.ofExcept_apply, null]
  · obtain ⟨success, same⟩ := logout_eq platform logged quiet
    simp only [ReadsNull] at null
    simp only [same, saved, joinChain, absent, if_true, Action.bind_apply, Action.get_apply,
      Action.ofExcept_apply, null]

end Orb

namespace Contexts

open Orb

/-- What the contexts do, and their calls. -/
inductive CallingEvent where
  | context (e : ContextEvent)
  | called (context : ℕ) (call : ContextCall)

/-- Any context in use may call in any state. -/
inductive CallingStep (platform : Platform) : Contexts → CallingEvent → Contexts → Prop
  | context {s t : Contexts} {e : ContextEvent} (step : ContextStep s e t) :
      CallingStep platform s (.context e) t
  | called {s : Contexts} {context : ℕ} (call : ContextCall) (here : context ∈ s.inUse)
      (quiet : call.Quiet) :
      CallingStep platform s (.called context call)
        (s.leave context (call.effect platform (s.view context)))

def callingMachine (platform : Platform) : Labeled Contexts CallingEvent where
  Init := contextMachine.Init
  Step := CallingStep platform

/-- No call of a run reads a null login. -/
def ReadsLogins (platform : Platform) (steps : List (Contexts × CallingEvent)) : Prop :=
  ∀ s context call, (s, .called context call) ∈ steps → ¬ call.ReadsNull platform (s.view context)

/-- No call of a run reads a null login exactly if each is made in a state where it finds no chain
that needs a login which the connection does not have. -/
theorem readsLogins_iff {platform : Platform} (refuses : platform.CodecRefuses)
    {steps : List (Contexts × CallingEvent)} {final : Contexts}
    (recorded : Recorded (callingMachine platform) steps final) :
    ReadsLogins platform steps ↔
      ∀ s context call, (s, .called context call) ∈ steps →
        call.FindsLogin platform (s.view context) := by
  have exact_at {s : Contexts} {context : ℕ} {call : ContextCall}
      (made : (s, .called context call) ∈ steps) :
      ¬ call.ReadsNull platform (s.view context) ↔ call.FindsLogin platform (s.view context) := by
    obtain ⟨t, step⟩ := recorded.step_of_mem made
    cases step with
    | called _ _ quiet => exact not_iff_comm.mp (ContextCall.readsNull_iff refuses quiet _).symm
  constructor
  · exact fun reads s context call made => (exact_at made).mp (reads s context call made)
  · exact fun finds s context call made => (exact_at made).mpr (finds s context call made)

namespace Reference

/-- One context, and the first connection as the default one. -/
def chosen : Contexts where
  orb := { Orb.init (fun _ => .init ⟨[2]⟩ true) fun _ => true with defConn := some 0 }
  slots _ _ := .empty
  inUse := {0}

/-- The connection has logged in. -/
def logged : Contexts :=
  chosen.leave 0 ((chosen.view 0).loginBy 0
    ⟨.ok ReferencePlatform.facets, none, .ok ⟨ascii "c", ascii "C"⟩⟩).2

/-- A call with a chain is being served. -/
def inCall : Contexts :=
  logged.leave 0 ((logged.view 0).setSlot .signedCallChain (.signedData
    ⟨.replicate 256 0, referencePlatform.encodeValue (.callChain default)⟩))

/-- The steps up to there. -/
def callSteps : List (Contexts × CallingEvent) :=
  [(logged, .context .other), (chosen, .context .other),
    (⟨Orb.init (fun _ => .init ⟨[2]⟩ true) fun _ => true, fun _ _ => .empty, {0}⟩,
      .context (.setDefault (some 0)))]

theorem recorded_callSteps : Recorded (callingMachine referencePlatform) callSteps inCall := by
  have start : Recorded (callingMachine referencePlatform) []
      ⟨Orb.init (fun _ => .init ⟨[2]⟩ true) fun _ => true, fun _ _ => .empty, {0}⟩ :=
    .start ⟨⟨_, _, rfl⟩, fun _ _ => rfl⟩
  have choose : Recorded (callingMachine referencePlatform) _ chosen :=
    start.step (.context (.setDefault (some 0) fun _ _ => rfl))
  have login : CallingStep referencePlatform chosen (.context .other) logged :=
    .context (.other (places_leave chosen 0 rfl rfl rfl rfl))
  exact (choose.step login).step (.context (.other (places_leave logged 0 rfl rfl rfl rfl)))

/-- The bus confirms every `logout`. -/
def world : LogoutWorld := ⟨fun _ => pure (), .replicate 16 1, .replicate 16 2⟩

theorem undisturbed_world : Undisturbed world := ⟨fun _ => .pure (), fun _ => .pure ()⟩

theorem caller_decodes : (inCall.view 0).CallerDecodes referencePlatform :=
  ⟨_, rfl, _, ReferencePlatform.codecInverts (.callChain default)⟩

/-- The servant reads the chain of its call and the joined chain. -/
def chainsRead : Contexts :=
  let first := inCall.leave 0 (inCall.view 0)
  first.leave 0 (first.view 0)

/-- The call has been served, and its chain is gone. -/
def afterCall : Contexts := chainsRead.leave 0 ((chainsRead.view 0).setSlot .signedCallChain .empty)

/-- A servant that reads its chains within the call, and logs out after it. -/
def patientSteps : List (Contexts × CallingEvent) :=
  [(afterCall, .called 0 (.logout world 0)), (chainsRead, .context .other),
    (inCall.leave 0 (inCall.view 0), .called 0 .getJoinedChain),
    (inCall, .called 0 .getCallerChain)] ++ callSteps

theorem recorded_patientSteps :
    ∃ final, Recorded (callingMachine referencePlatform) patientSteps final := by
  have caller : Recorded (callingMachine referencePlatform) _ (inCall.leave 0 (inCall.view 0)) :=
    recorded_callSteps.step (.called .getCallerChain (by decide) trivial)
  have joined : Recorded (callingMachine referencePlatform) _ chainsRead :=
    caller.step (.called .getJoinedChain (by decide) trivial)
  have ends : CallingStep referencePlatform chainsRead (.context .other) afterCall :=
    .context (.other (places_leave chainsRead 0 rfl rfl rfl rfl))
  exact ⟨_, (joined.step ends).step (.called (.logout world 0) (by decide) undisturbed_world)⟩

end Reference

open Reference in
/-- The chain of the call decodes, and the connection has a login while it is read. -/
theorem readsLogins_patientSteps :
    (inCall.view 0).CallerDecodes referencePlatform ∧ ReadsLogins referencePlatform patientSteps := by
  obtain ⟨final, recorded⟩ := recorded_patientSteps
  refine ⟨caller_decodes, (readsLogins_iff ReferencePlatform.codecRefuses recorded).mpr ?_⟩
  intro s context call made
  simp only [patientSteps, callSteps, List.cons_append, List.nil_append, List.mem_cons,
    List.not_mem_nil, Prod.mk.injEq, reduceCtorEq, and_false, false_or, or_false,
    CallingEvent.called.injEq] at made
  rcases made with ⟨rfl, rfl, rfl⟩ | ⟨rfl, rfl, rfl⟩ | ⟨rfl, rfl, rfl⟩
  · intro _ _ _
    have caller : ¬ (afterCall.view 0).CallerDecodes referencePlatform := by
      rintro ⟨half, impossible, -⟩
      cases impossible
    have joined : ¬ (afterCall.view 0).JoinedDecodes referencePlatform := by
      rintro ⟨signedChain, impossible, -⟩
      cases impossible
    exact ⟨joined, fun _ => caller⟩
  · rintro ⟨conn, current, none⟩
    cases current
    cases none
  · rintro ⟨conn, current, none⟩
    cases current
    cases none

open Reference in
/-- A servant that logs the connection of its call out: what it could read before, `logout` reads
again without a login. -/
theorem logout_reads_null :
    ((inCall.view 0).getCallerChain referencePlatform).isOk ∧
    ((inCall.view 0).logout referencePlatform world 0).1 = .error .fault ∧
    ∃ final, Recorded (callingMachine referencePlatform)
      ((inCall, .called 0 (.logout world 0)) :: callSteps) final ∧
      ¬ ReadsLogins referencePlatform ((inCall, .called 0 (.logout world 0)) :: callSteps) := by
  have null : LogoutReadsNull referencePlatform world 0 (inCall.view 0) :=
    (logoutReadsNull_iff ReferencePlatform.codecRefuses undisturbed_world _).mpr
      ⟨rfl, rfl, ⟨0, rfl, .inl rfl⟩, .inr ⟨rfl, caller_decodes⟩⟩
  refine ⟨rfl, logout_of_readsNull undisturbed_world null, _,
    recorded_callSteps.step (.called (.logout world 0) (by decide) undisturbed_world), ?_⟩
  exact fun reads => reads inCall 0 (.logout world 0) (List.mem_cons_self ..) null

end Contexts

end OpenBus
