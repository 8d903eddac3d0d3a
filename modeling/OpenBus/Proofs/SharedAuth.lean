import OpenBus.Model.SharedAuth
import OpenBus.Proofs.Login

/-! # How `startSharedAuth` runs

The `try` block ends at one of four points, and what has been assigned by then tells them apart: the
access control facet is nil, the bus refuses to start a login, the converter refuses the process, or
all of them have answered. The handler runs in the state of the point reached.
-/

namespace OpenBus

open Machine

namespace SharedAuth

open SharedAuthRun

variable {platform : Platform} {world : SharedAuthWorld} {ref : ConnRef}

@[simp] theorem onOrb_apply {α : Type} (action : Action Orb Exception α) (run : SharedAuthRun) :
    onOrb action run = ((action run.orb).1, { run with orb := (action run.orb).2 }) := rfl

/-- The state in which the bus is called. -/
def begun (world : SharedAuthWorld) (ref : ConnRef) (orb : Orb) : Orb :=
  orb.setCurrentConnection world.selfId (some ref)

/-- The call of the converter for a login process, if there is one to make. -/
def converting (world : SharedAuthWorld) (ref : ConnRef) (loginProcess : ObjectRef) :
    Action Orb Exception (Option ObjectRef) :=
  Orb.ifSupported ref fun converter => world.convertSharedAuth converter loginProcess

/-- Where the `try` block ends. -/
inductive TryBlock (world : SharedAuthWorld) (ref : ConnRef) (previous : Option ConnRef)
    (orb : Orb) : Except Exception EncryptedBlock → SharedAuthRun → Prop
  | nil (absent : (orb.connections ref).accessControl = none) :
      TryBlock world ref previous orb (.error .fault) (.start (begun world ref orb))
  | refused {accessControl : ObjectRef} {e : Exception} {t : Orb}
      (facet : (orb.connections ref).accessControl = some accessControl)
      (start : world.startLoginBySharedAuth accessControl (begun world ref orb) = (.error e, t)) :
      TryBlock world ref previous orb (.error e) (.start t)
  | unconverted {accessControl loginProcess : ObjectRef} {challenge : EncryptedBlock}
      {e : Exception} {t u : Orb}
      (facet : (orb.connections ref).accessControl = some accessControl)
      (start : world.startLoginBySharedAuth accessControl (begun world ref orb) =
        (.ok (loginProcess, challenge), t))
      (convert : converting world ref loginProcess t = (.error e, u)) :
      TryBlock world ref previous orb (.error e) { SharedAuthRun.start u with loginProcess }
  | answered {accessControl loginProcess : ObjectRef} {legacyLoginProcess : Option ObjectRef}
      {challenge : EncryptedBlock} {t u : Orb}
      (facet : (orb.connections ref).accessControl = some accessControl)
      (start : world.startLoginBySharedAuth accessControl (begun world ref orb) =
        (.ok (loginProcess, challenge), t))
      (convert : converting world ref loginProcess t = (.ok legacyLoginProcess, u)) :
      TryBlock world ref previous orb (.ok challenge)
        { SharedAuthRun.start (u.setCurrentConnection world.previousId previous) with
          loginProcess, legacyLoginProcess }

theorem startProcess_cases (world : SharedAuthWorld) (ref : ConnRef) (previous : Option ConnRef)
    (orb : Orb) :
    TryBlock world ref previous orb (startProcess world ref previous (.start orb)).1
      (startProcess world ref previous (.start orb)).2 := by
  have same : (begun world ref orb).connections = orb.connections :=
    Orb.connections_setCurrentConnection ..
  cases facet : (orb.connections ref).accessControl with
  | none =>
    have ran : startProcess world ref previous (.start orb) =
        (.error .fault, .start (begun world ref orb)) := by
      simp [startProcess, Action.bind_apply, SharedAuthRun.start, facet, begun]
    rw [ran]
    exact .nil facet
  | some accessControl =>
    rcases start : world.startLoginBySharedAuth accessControl (begun world ref orb) with
      ⟨e | ⟨loginProcess, challenge⟩, t⟩
    · have ran : startProcess world ref previous (.start orb) = (.error e, .start t) := by
        rw [begun] at start
        simp [startProcess, Action.bind_apply, SharedAuthRun.start, facet, start]
      rw [ran]
      exact .refused facet start
    · rcases convert : converting world ref loginProcess t with ⟨e | legacyLoginProcess, u⟩
      · have ran : startProcess world ref previous (.start orb) =
            (.error e, { SharedAuthRun.start u with loginProcess }) := by
          rw [begun] at start
          rw [converting] at convert
          simp [startProcess, Action.bind_apply, SharedAuthRun.start, facet, start, convert]
        rw [ran]
        exact .unconverted facet start convert
      · have ran : startProcess world ref previous (.start orb) = (.ok challenge,
            { SharedAuthRun.start (u.setCurrentConnection world.previousId previous) with
              loginProcess, legacyLoginProcess }) := by
          rw [begun] at start
          rw [converting] at convert
          simp [startProcess, Action.bind_apply, SharedAuthRun.start, facet, start, convert]
        rw [ran]
        exact .answered facet start convert

theorem startSharedAuth_of_answered (platform : Platform) {orb : Orb} {challenge : EncryptedBlock}
    {run : SharedAuthRun}
    (ran : startProcess world ref orb.getCurrentConnection (.start orb) = (.ok challenge, run)) :
    startSharedAuth platform world ref (.start orb) =
      ((platform.decrypt (run.orb.connections ref).key challenge.toList).map fun secret =>
        ⟨(run.orb.connections ref).busid, run.loginProcess, run.legacyLoginProcess, secret, true⟩,
        run) := by
  have own : (SharedAuthRun.start orb).orb = orb := rfl
  simp only [startSharedAuth, Action.bind_apply, Action.get_apply, own, Action.tryCatch_apply, ran,
    Action.ofExcept_apply]
  cases platform.decrypt (run.orb.connections ref).key challenge.toList <;> rfl

theorem startSharedAuth_of_failed (platform : Platform) {orb : Orb} {e raised : Exception}
    {run t : SharedAuthRun}
    (ran : startProcess world ref orb.getCurrentConnection (.start orb) = (.error e, run))
    (aborted : abortSharedAuth world orb.getCurrentConnection e run =
      ((.error raised : Except Exception EncryptedBlock), t)) :
    startSharedAuth platform world ref (.start orb) = (.error raised, t) := by
  have own : (SharedAuthRun.start orb).orb = orb := rfl
  simp only [startSharedAuth, Action.bind_apply, Action.get_apply, own, Action.tryCatch_apply, ran,
    aborted]

section Abort

variable {previous : Option ConnRef} {e : Exception} {run : SharedAuthRun} {α : Type}

theorem abortSharedAuth_of_fault (fault : e.isCatchable = false) :
    abortSharedAuth world previous e run = ((.error e : Except Exception α), run) := by
  simp [abortSharedAuth, fault]

/-- Without a login process, the handler uses a pointer that has not been set. -/
theorem abortSharedAuth_of_none (caught : e.isCatchable = true) (unset : run.loginProcess = none) :
    abortSharedAuth world previous e run =
      ((.error .fault : Except Exception α), { run with invoked := none :: run.invoked }) := by
  simp [abortSharedAuth, caught, Action.bind_apply, unset]

/-- The state in which the handler calls `cancel`. -/
def ignoring (orb : Orb) : Orb := orb.setSlot .ignoreInterceptor (.boolean true)

theorem abortSharedAuth_of_cancelled {loginProcess : ObjectRef} {t : Orb}
    (caught : e.isCatchable = true) (set : run.loginProcess = some loginProcess)
    (cancelled : world.cancel loginProcess (ignoring run.orb) = (.ok (), t)) :
    abortSharedAuth world previous e run =
      ((.error e : Except Exception α),
        { run with
          orb := (t.setCurrentConnection world.previousId previous).setSlot .ignoreInterceptor
            (.boolean false)
          invoked := some loginProcess :: run.invoked
          cancelled := loginProcess :: run.cancelled }) := by
  rw [ignoring] at cancelled
  simp [abortSharedAuth, caught, Action.bind_apply, set, Orb.guarded, cancelled]

theorem abortSharedAuth_of_uncancelled {loginProcess : ObjectRef} {raised : Exception} {t : Orb}
    (caught : e.isCatchable = true) (set : run.loginProcess = some loginProcess)
    (failed : world.cancel loginProcess (ignoring run.orb) = (.error raised, t)) :
    abortSharedAuth world previous e run =
      ((.error raised : Except Exception α),
        { run with
          orb := t.setSlot .ignoreInterceptor (.boolean false)
          invoked := some loginProcess :: run.invoked }) := by
  rw [ignoring] at failed
  simp [abortSharedAuth, caught, Action.bind_apply, set, Orb.guarded, failed]

/-- The handler ends with an exception. -/
theorem abortSharedAuth_raises (world : SharedAuthWorld) (previous : Option ConnRef)
    (e : Exception) (run : SharedAuthRun) :
    ∃ raised t, abortSharedAuth world previous e run =
      ((.error raised : Except Exception α), t) := by
  cases caught : e.isCatchable with
  | false => exact ⟨e, run, abortSharedAuth_of_fault caught⟩
  | true =>
    cases set : run.loginProcess with
    | none => exact ⟨_, _, abortSharedAuth_of_none caught set⟩
    | some loginProcess =>
      rcases called : world.cancel loginProcess (ignoring run.orb) with ⟨raised | _, t⟩
      · exact ⟨raised, _, abortSharedAuth_of_uncancelled caught set called⟩
      · exact ⟨e, _, abortSharedAuth_of_cancelled caught set called⟩

end Abort

/-- What `startSharedAuth` returns has a login process and can be cancelled. -/
theorem startSharedAuth_ok {orb : Orb} {secret : SharedAuthSecret} {run : SharedAuthRun}
    (started : startSharedAuth platform world ref (.start orb) = (.ok secret, run)) :
    secret.orbInitializer = true ∧ ∃ loginProcess, secret.loginProcess = some loginProcess := by
  have block := startProcess_cases world ref orb.getCurrentConnection orb
  rcases ran : startProcess world ref orb.getCurrentConnection (.start orb) with
    ⟨e | challenge, reached⟩
  · obtain ⟨raised, t, aborted⟩ := abortSharedAuth_raises world orb.getCurrentConnection e reached
    rw [startSharedAuth_of_failed platform ran aborted] at started
    cases started
  · rw [startSharedAuth_of_answered platform ran, Prod.mk.injEq, map_eq_ok_iff] at started
    obtain ⟨⟨octets, -, rfl⟩, -⟩ := started
    rw [ran] at block
    cases block with
    | answered facet start convert => exact ⟨rfl, _, rfl⟩

section Login

variable (platform : Platform) (world : SharedLoginWorld) (secret : SharedAuthSecret)

/-- What a login with a secret is answered once it has reached the bus. -/
def sharedAnswers (conn : Connection) : LoginAnswers where
  component := world.component
  secretBus := some secret.busid
  grant := do
    let facets ← world.component
    let request ← loginRequest platform world (conn.loginInit facets) secret
    world.login request

variable {platform world secret}

/-- A call that cannot be made is a fault. -/
theorem eq_fault_of_loginRequest {conn : Connection} {e : Exception}
    (failed : loginRequest platform world conn secret = .error e) : e = .fault := by
  unfold loginRequest at failed
  split at failed
  · next buskey found =>
    dsimp only [bind, Except.bind] at failed
    split at failed
    · next raised copied =>
      cases failed
      exact eq_fault_of_memcpy copied
    · split at failed <;> cases failed
      rfl
  · cases failed
    rfl

variable (platform secret) in
/-- The grant is the answer to the call, with the exception for a login process that is gone. -/
theorem granted_sharedAnswers {facets : BusFacets} (component : world.component = .ok facets)
    (conn : Connection) :
    Orb.granted (sharedAnswers platform world secret conn) =
      loginRequest platform world (conn.loginInit facets) secret >>= sharedLogin world := by
  have grant : (sharedAnswers platform world secret conn).grant =
      loginRequest platform world (conn.loginInit facets) secret >>= world.login := by
    simp only [sharedAnswers, component]
    rfl
  rw [Orb.granted, grant]
  cases called : loginRequest platform world (conn.loginInit facets) secret with
  | error e =>
    obtain rfl := eq_fault_of_loginRequest called
    rfl
  | ok request =>
    have goesOn {β : Type} (f : LoginRequest → Except Exception β) :
        (Except.ok request >>= f) = f request := rfl
    rw [goesOn, goesOn, sharedLogin]
    rcases world.login request with e | info
    · cases e with
      | system kind minor completed => cases kind <;> rfl
      | _ => rfl
    · rfl

end Login

end SharedAuth

end OpenBus
