import OpenBus.Soundness.DecodedSecret

/-! # How `startSharedAuth` fails

A failure should leave the context as it was and no login process behind. The handler cancels the
process through a variable that is set half-way through the `try` block, so before that point it
uses a pointer that has never been set; and the challenge is decrypted after the block, where
nothing cancels the process any more. Only a refusal of the converter is met as it should be.
-/

namespace OpenBus

open Machine

/-- The login processes that the bus has returned. -/
def SharedAuthRun.returned (run : SharedAuthRun) : List ObjectRef :=
  run.loginProcess.toList ++ run.legacyLoginProcess.toList

namespace SharedAuth

variable {platform : Platform} {world : SharedAuthWorld} {ref : ConnRef} {orb : Orb}

/-- What decides which connection is current, once one has been set. -/
def selection (orb : Orb) := (orb.piCurrent .currentConnection, orb.alive)

/-- The calls to the bus change neither the current connection of the thread nor the lifetime of a
connection. -/
structure KeepsSelection (world : SharedAuthWorld) : Prop where
  start : ∀ accessControl, Action.Keeps selection (world.startLoginBySharedAuth accessControl)
  convert : ∀ converter loginProcess,
    Action.Keeps selection (world.convertSharedAuth converter loginProcess)
  cancel : ∀ loginProcess, Action.Keeps selection (world.cancel loginProcess)

variable (platform world ref orb)

/-- The exception that is raised first: in the `try` block, or by the decryption after it. -/
inductive OriginalError : Exception → Prop
  | block {e : Exception} {run : SharedAuthRun}
      (ran : startProcess world ref orb.getCurrentConnection (.start orb) = (.error e, run)) :
      OriginalError e
  | decrypt {e : Exception} {challenge : EncryptedBlock} {run : SharedAuthRun}
      (ran : startProcess world ref orb.getCurrentConnection (.start orb) = (.ok challenge, run))
      (refused : platform.decrypt (run.orb.connections ref).key challenge.toList = .error e) :
      OriginalError e

/-- A failure that passes on the original exception, restores the current connection, and cancels
what the bus has returned and nothing else. -/
structure FailsCleanly (e : Exception) (run : SharedAuthRun) : Prop where
  original : OriginalError platform world ref orb e
  raised : e.isCatchable = true
  noLogin : (orb.connections ref).state = .loggedOut → e = .noPermission noLoginCode
  current : run.orb.getCurrentConnection = orb.getCurrentConnection
  invoked : ∀ pointer ∈ run.invoked, ∃ loginProcess ∈ run.returned, pointer = some loginProcess
  cancelled : ∀ loginProcess ∈ run.returned, loginProcess ∈ run.cancelled

/-- If `startSharedAuth` fails, it does so cleanly. -/
def FailsOnlyCleanly : Prop :=
  ∀ e run, startSharedAuth platform world ref (.start orb) = (.error e, run) →
    FailsCleanly platform world ref orb e run

/-- The bus starts a login, and either everything else succeeds, or the converter refuses the login
process and the bus lets it be cancelled. -/
inductive CleanAnswers : Prop
  | answered {accessControl loginProcess : ObjectRef} {legacyLoginProcess : Option ObjectRef}
      {challenge : EncryptedBlock} {secret : OctetSeq} {t u : Orb}
      (facet : (orb.connections ref).accessControl = some accessControl)
      (start : world.startLoginBySharedAuth accessControl (begun world ref orb) =
        (.ok (loginProcess, challenge), t))
      (convert : converting world ref loginProcess t = (.ok legacyLoginProcess, u))
      (decrypt : platform.decrypt (u.connections ref).key challenge.toList = .ok secret)
  | unconverted {accessControl loginProcess : ObjectRef} {challenge : EncryptedBlock}
      {e : Exception} {t u v : Orb}
      (facet : (orb.connections ref).accessControl = some accessControl)
      (start : world.startLoginBySharedAuth accessControl (begun world ref orb) =
        (.ok (loginProcess, challenge), t))
      (convert : converting world ref loginProcess t = (.error e, u))
      (caught : e.isCatchable = true)
      (noLogin : (orb.connections ref).state = .loggedOut → e = .noPermission noLoginCode)
      (cancel : world.cancel loginProcess (ignoring u) = (.ok (), v))

variable {platform world ref orb}

theorem selection_begun (world : SharedAuthWorld) (ref : ConnRef) (orb : Orb) :
    (begun world ref orb).currentId = some world.selfId := by
  simp [begun, Orb.setCurrentConnection_some, Orb.currentId, Orb.setSlot, Any.toUuid?]

theorem converting_keeps (keeps : KeepsSelection world) (loginProcess : ObjectRef) :
    Action.Keeps selection (converting world ref loginProcess) := by
  refine .bind .get fun orb => .ite ?_ (.pure _)
  cases (orb.connections ref).legacyConverter with
  | none => exact .throw _
  | some converter => exact .bind (keeps.convert _ _) fun _ => .pure _

/-- The handler restores the connection that was current before. -/
theorem getCurrentConnection_restored {t : Orb}
    (kept : selection t = selection (begun world ref orb)) :
    ((t.setCurrentConnection world.previousId orb.getCurrentConnection).setSlot .ignoreInterceptor
      (.boolean false)).getCurrentConnection = orb.getCurrentConnection := by
  obtain ⟨slot, alive⟩ := Prod.mk.inj kept
  have pinned : t.currentId = some world.selfId := by
    rw [← selection_begun world ref orb, Orb.currentId, Orb.currentId,
      slot]
  rw [Orb.getCurrentConnection_setSlot _ _ (by decide),
    Orb.getCurrentConnection_setCurrentConnection _ pinned]
  intro previous current
  rw [alive, begun, Orb.alive_setCurrentConnection]
  exact Orb.alive_of_getCurrentConnection current

/-- Before a login process has been returned, every exception ends in a fault. -/
theorem not_failsOnlyCleanly_of_unset {e : Exception} {t : Orb}
    (ran : startProcess world ref orb.getCurrentConnection (.start orb) = (.error e, .start t)) :
    ¬ FailsOnlyCleanly platform world ref orb := by
  intro clean
  cases caught : e.isCatchable with
  | false =>
    have failed := startSharedAuth_of_failed platform ran
      (abortSharedAuth_of_fault caught)
    have raised := (clean _ _ failed).raised
    rw [caught] at raised
    cases raised
  | true =>
    have failed := startSharedAuth_of_failed platform ran
      (abortSharedAuth_of_none caught rfl)
    cases (clean _ _ failed).raised

/-- With a login process, the handler fails cleanly if its call of `cancel` returns. -/
theorem failsOnlyCleanly_of_unconverted_iff {e : Exception} {loginProcess : ObjectRef} {u : Orb}
    (keeps : KeepsSelection world) (kept : selection u = selection (begun world ref orb))
    (ran : startProcess world ref orb.getCurrentConnection (.start orb) =
      (.error e, { SharedAuthRun.start u with loginProcess })) :
    FailsOnlyCleanly platform world ref orb ↔
      e.isCatchable = true ∧
        ((orb.connections ref).state = .loggedOut → e = .noPermission noLoginCode) ∧
        ∃ v, world.cancel loginProcess (ignoring u) = (.ok (), v) := by
  cases caught : e.isCatchable with
  | false =>
    refine iff_of_false (fun clean => ?_) (by simp)
    have failed := startSharedAuth_of_failed platform ran (abortSharedAuth_of_fault caught)
    have raised := (clean _ _ failed).raised
    rw [caught] at raised
    cases raised
  | true =>
    rcases called : world.cancel loginProcess (ignoring u) with ⟨raised | _, v⟩
    · refine iff_of_false (fun clean => ?_) (by simp)
      have failed := clean _ _ (startSharedAuth_of_failed platform ran
        (abortSharedAuth_of_uncancelled caught rfl called))
      have forgotten := failed.cancelled loginProcess (by simp [SharedAuthRun.returned])
      cases forgotten
    · have aborted := startSharedAuth_of_failed platform ran
        (abortSharedAuth_of_cancelled caught rfl called)
      constructor
      · exact fun clean => ⟨rfl, (clean _ _ aborted).noLogin, v, rfl⟩
      · rintro ⟨-, noLogin, -⟩ raised run failed
        cases aborted.symm.trans failed
        have still : selection v = selection (begun world ref orb) :=
          ((keeps.cancel loginProcess).of_run called).trans kept
        refine ⟨.block ran, caught, noLogin, getCurrentConnection_restored still, ?_, ?_⟩
        · simp [SharedAuthRun.returned, SharedAuthRun.start]
        · simp [SharedAuthRun.returned, SharedAuthRun.start]

/-- Once the `try` block is over, nothing cancels the login process. -/
theorem failsOnlyCleanly_of_answered_iff {challenge : EncryptedBlock} {loginProcess : ObjectRef}
    {run : SharedAuthRun} (set : run.loginProcess = some loginProcess) (none : run.cancelled = [])
    (ran : startProcess world ref orb.getCurrentConnection (.start orb) = (.ok challenge, run)) :
    FailsOnlyCleanly platform world ref orb ↔
      ∃ secret, platform.decrypt (run.orb.connections ref).key challenge.toList = .ok secret := by
  have started := startSharedAuth_of_answered platform ran
  cases decrypted : platform.decrypt (run.orb.connections ref).key challenge.toList with
  | ok secret =>
    refine iff_of_true ?_ ⟨secret, rfl⟩
    intro e t failed
    rw [started, decrypted] at failed
    cases failed
  | error e =>
    refine iff_of_false (fun clean => ?_) (by simp)
    rw [decrypted] at started
    have forgotten := (clean _ _ started).cancelled loginProcess
      (by simp [SharedAuthRun.returned, set])
    rw [none] at forgotten
    cases forgotten

/-- Answers are clean only if the bus has started a login. -/
theorem CleanAnswers.started (answers : CleanAnswers platform world ref orb) :
    ∃ accessControl started t, (orb.connections ref).accessControl = some accessControl ∧
      world.startLoginBySharedAuth accessControl (begun world ref orb) = (.ok started, t) := by
  cases answers with
  | answered facet start | unconverted facet start => exact ⟨_, _, _, facet, start⟩

section Started

variable {accessControl loginProcess : ObjectRef} {challenge : EncryptedBlock} {t u : Orb}

theorem cleanAnswers_of_unconverted_iff {e : Exception}
    (facet : (orb.connections ref).accessControl = some accessControl)
    (start : world.startLoginBySharedAuth accessControl (begun world ref orb) =
      (.ok (loginProcess, challenge), t))
    (convert : converting world ref loginProcess t = (.error e, u)) :
    CleanAnswers platform world ref orb ↔
      e.isCatchable = true ∧
        ((orb.connections ref).state = .loggedOut → e = .noPermission noLoginCode) ∧
        ∃ v, world.cancel loginProcess (ignoring u) = (.ok (), v) := by
  constructor
  · intro answers
    cases answers with
    | answered other started converted =>
      obtain rfl := Option.some.inj (facet.symm.trans other)
      cases start.symm.trans started
      cases convert.symm.trans converted
    | unconverted other started failed caught noLogin cancel =>
      obtain rfl := Option.some.inj (facet.symm.trans other)
      cases start.symm.trans started
      cases convert.symm.trans failed
      exact ⟨caught, noLogin, _, cancel⟩
  · rintro ⟨caught, noLogin, v, cancel⟩
    exact .unconverted facet start convert caught noLogin cancel

theorem cleanAnswers_of_answered_iff {legacyLoginProcess : Option ObjectRef}
    (facet : (orb.connections ref).accessControl = some accessControl)
    (start : world.startLoginBySharedAuth accessControl (begun world ref orb) =
      (.ok (loginProcess, challenge), t))
    (convert : converting world ref loginProcess t = (.ok legacyLoginProcess, u)) :
    CleanAnswers platform world ref orb ↔
      ∃ secret, platform.decrypt (u.connections ref).key challenge.toList = .ok secret := by
  constructor
  · intro answers
    cases answers with
    | answered other started converted decrypted =>
      obtain rfl := Option.some.inj (facet.symm.trans other)
      cases start.symm.trans started
      cases convert.symm.trans converted
      exact ⟨_, decrypted⟩
    | unconverted other started failed =>
      obtain rfl := Option.some.inj (facet.symm.trans other)
      cases start.symm.trans started
      cases convert.symm.trans failed
  · rintro ⟨secret, decrypted⟩
    exact .answered facet start convert decrypted

end Started

/-- A failure is clean exactly if it is the converter that refuses, and the process it has been
given is cancelled. -/
theorem failsOnlyCleanly_iff (keeps : KeepsSelection world) :
    FailsOnlyCleanly platform world ref orb ↔ CleanAnswers platform world ref orb := by
  have block := startProcess_cases world ref orb.getCurrentConnection orb
  rcases ran : startProcess world ref orb.getCurrentConnection (.start orb) with
    ⟨result, run⟩
  rw [ran] at block
  cases block with
  | nil absent =>
    refine iff_of_false (not_failsOnlyCleanly_of_unset ran) fun answers => ?_
    obtain ⟨_, _, _, facet, -⟩ := answers.started
    rw [absent] at facet
    cases facet
  | refused facet start =>
    refine iff_of_false (not_failsOnlyCleanly_of_unset ran) fun answers => ?_
    obtain ⟨_, _, _, other, started⟩ := answers.started
    obtain rfl := Option.some.inj (facet.symm.trans other)
    cases start.symm.trans started
  | unconverted facet start convert =>
    have kept := ((converting_keeps keeps _).of_run convert).trans ((keeps.start _).of_run start)
    rw [failsOnlyCleanly_of_unconverted_iff keeps kept ran,
      cleanAnswers_of_unconverted_iff facet start convert]
  | answered facet start convert =>
    rw [failsOnlyCleanly_of_answered_iff rfl rfl ran,
      cleanAnswers_of_answered_iff facet start convert]
    simp only [SharedAuthRun.start, Orb.connections_setCurrentConnection]

/-- A bus whose converter refuses the login process. -/
def refusingWorld : SharedAuthWorld :=
  { startingWorld with
    convertSharedAuth := fun _ _ => throw (.system .badParam 0 .completedNo) }

theorem failsOnlyCleanly_iff_refusingWorld :
    FailsOnlyCleanly referencePlatform refusingWorld 0 (loggedOrb true) ↔
      CleanAnswers referencePlatform refusingWorld 0 (loggedOrb true) :=
  failsOnlyCleanly_iff ⟨fun _ => .pure _, fun _ _ => .throw _, fun _ => .pure _⟩

/-- On a connection that is not logged in, the documented exception is not what comes out. -/
theorem startSharedAuth_without_login :
    ¬ FailsOnlyCleanly referencePlatform startingWorld 0
      (.init (fun _ => .init ⟨[]⟩ false) fun _ => true) := by
  intro clean
  have failed : (startSharedAuth referencePlatform startingWorld 0
      (.start (.init (fun _ => .init ⟨[]⟩ false) fun _ => true))).1 = .error .fault := by
    rfl
  cases (clean _ _ (Action.eq_of_fst failed)).raised

end SharedAuth

end OpenBus
