import OpenBus.Model.Login
import OpenBus.Proofs.Chains
import OpenBus.Proofs.Contexts

/-! # How `logout` runs

Once it has dismantled the connection, `logout` reads the context of its caller, leaves the chain,
makes the connection current, calls the bus, and puts back what it has read. The lemmas give the
state between these parts. What the context is at the end depends on what it was after the first
part alone, if the call to the bus leaves it as it was.
-/

namespace OpenBus

open Machine

namespace Orb

variable {platform : Platform} {world : LogoutWorld} {ref : ConnRef}

/-- What the chains of a context are read from, besides their slots. -/
def surroundings (orb : Orb) :=
  (orb.getCurrentConnection, orb.piCurrent .signedCallChain,
    fun ref => ((orb.connections ref).loginInfo, (orb.connections ref).busid))

theorem extractHalf_congr {conn other : Connection} (login : conn.loginInfo = other.loginInfo)
    (bus : conn.busid = other.busid) (half : Protocol × SignedData) :
    extractHalf platform conn half = extractHalf platform other half := by
  obtain ⟨protocol, signedChain⟩ := half
  cases protocol
  · simp only [extractHalf, extractCallChain, loginEntity, login]
  · simp only [extractHalf, extractLegacyCallChain, loginEntity, login, bus]

theorem getCallerChain_congr {orb other : Orb}
    (same : orb.surroundings = other.surroundings) :
    orb.getCallerChain platform = other.getCallerChain platform := by
  simp only [surroundings, Prod.mk.injEq] at same
  obtain ⟨current, slot, logins⟩ := same
  rw [getCallerChain_eq, getCallerChain_eq, current, slot]
  cases other.getCurrentConnection with
  | none => rfl
  | some ref =>
    cases (other.piCurrent .signedCallChain).half with
    | none => rfl
    | some half =>
      obtain ⟨login, bus⟩ := Prod.mk.inj (congrFun logins ref)
      exact extractHalf_congr login bus half

/-- What the call to the bus must leave alone for the context of its caller to stay as it is. -/
def callerContext (orb : Orb) :=
  (orb.piCurrent .currentConnection, orb.piCurrent .joinedCallChain,
    orb.piCurrent .signedCallChain, orb.id2conn, orb.defConn, orb.alive,
    fun ref => ((orb.connections ref).loginInfo, (orb.connections ref).busid))

/-- The call returns or raises an exception, and leaves the context of its caller alone. -/
structure Undisturbed (world : LogoutWorld) : Prop where
  keeps : ∀ accessControl, Action.Keeps callerContext (world.logout accessControl)
  raises : ∀ accessControl, Action.Raises (fun e => e.isCatchable = true)
    (world.logout accessControl)

/-- The state in which the bus is called: outside any chain, over the connection itself. -/
def calling (world : LogoutWorld) (ref : ConnRef) (orb : Orb) : Orb :=
  ((orb.logoutSection ref).exitChain).setCurrentConnection world.selfId (some ref)

theorem remoteLogout_keeps (quiet : Undisturbed world) (accessControl : ObjectRef)
    (login : LoginInfo) (busid : Identifier) :
    Action.Keeps callerContext (remoteLogout world (some accessControl) login busid) :=
  guarded_keeps (fun _ _ => rfl) <| guarded_keeps (fun _ _ => rfl) <|
    guarded_keeps (fun _ _ => rfl) <| quiet.keeps accessControl

theorem logoutSuccess_of_isCatchable {result : Except Exception Unit}
    (catchable : ∀ e, result = .error e → e.isCatchable = true) :
    ∃ success, logoutSuccess result = .ok success := by
  unfold logoutSuccess
  split
  · exact ⟨true, rfl⟩
  · exact ⟨_, rfl⟩
  · exact ⟨false, if_pos (catchable _ rfl)⟩

/-- The context to which the connection read before has been restored. -/
def restored (world : LogoutWorld) (previous : Option ConnRef) (told : Orb) : Orb :=
  told.setCurrentConnection world.previousId previous

/-- A logged connection with all that `logout` reads of it. -/
structure LoggedIn (conn : Connection) (login : LoginInfo) (accessControl : ObjectRef) : Prop where
  state : conn.state = .logged
  login : conn.loginInfo = some login
  accessControl : conn.accessControl = some accessControl

theorem guarded_apply {α : Type} (slot : Slot) (value reset : Any)
    (action : Action Orb Exception α) (orb : Orb) :
    guarded slot value reset action orb =
      ((action (orb.setSlot slot value)).1, (action (orb.setSlot slot value)).2.setSlot slot reset) :=
  rfl

theorem remoteLogout_raises (quiet : Undisturbed world) (accessControl : ObjectRef)
    (login : LoginInfo) (busid : Identifier) (orb : Orb) (e : Exception)
    (raised : (remoteLogout world (some accessControl) login busid orb).1 = .error e) :
    e.isCatchable = true := by
  simp only [remoteLogout, guarded_apply] at raised
  exact quiet.raises accessControl _ _ e (Prod.ext raised rfl)

/-- The state in which the bus has answered. -/
def told (world : LogoutWorld) (ref : ConnRef) (orb : Orb) (login : LoginInfo)
    (accessControl : ObjectRef) : Orb :=
  (remoteLogout world (some accessControl) login (orb.connections ref).busid
    (calling world ref orb)).2

variable (platform) in
/-- `logout` of a logged connection: it ends where the joined chain is read, or puts the context
back with what it has read. -/
theorem logout_eq {orb : Orb} {login : LoginInfo} {accessControl : ObjectRef}
    (logged : LoggedIn (orb.connections ref) login accessControl) (quiet : Undisturbed world) :
    ∃ success, orb.logout platform world ref =
      match (orb.logoutSection ref).getJoinedChain platform with
      | .error e => (.error e, orb.logoutSection ref)
      | .ok previous =>
        match joinChain platform previous
          (restored world orb.getCurrentConnection (told world ref orb login accessControl)) with
        | (.ok (), t) => (.ok success, t)
        | (.error _, t) => (.error .fault, t) := by
  rcases remote : remoteLogout world (some accessControl) login (orb.connections ref).busid
    (calling world ref orb) with ⟨result, told⟩
  obtain ⟨success, outcome⟩ := logoutSuccess_of_isCatchable fun e raised =>
    remoteLogout_raises quiet accessControl login _ _ e (by rw [remote]; exact raised)
  refine ⟨success, ?_⟩
  simp only [logout, Action.bind_apply, Action.get_apply, logged.state, logged.login,
    logged.accessControl, Action.modify_apply, confirmLogout, Action.ofExcept_apply,
    getCurrentConnection_logoutSection, Orb.told, remote]
  cases (orb.logoutSection ref).getJoinedChain platform with
  | error e => rfl
  | ok previous =>
    have state : setCurrentConnection world.selfId (some ref) (logoutSection ref orb).exitChain =
        calling world ref orb := rfl
    simp only [Action.attempt_apply, state, remote, outcome, restoreState, Action.bind_apply,
      Action.modify_apply, Action.tryCatch_apply]
    rw [restored]
    rcases joinChain platform previous
      (told.setCurrentConnection world.previousId orb.getCurrentConnection) with ⟨e | u, t⟩ <;> rfl

/-- What the caller's context is while the bus is called. -/
theorem callerContext_calling (world : LogoutWorld) (ref : ConnRef) (orb : Orb) :
    callerContext (calling world ref orb) =
      (.uuid world.selfId, .empty, orb.piCurrent .signedCallChain,
        Function.update orb.erased world.selfId (some (some ref)), orb.defConn, orb.alive,
        fun other => (((orb.logoutSection ref).connections other).loginInfo,
          ((orb.logoutSection ref).connections other).busid)) := by
  have still : (orb.logoutSection ref).exitChain.erased = orb.erased := by
    simp [erased, currentId, exitChain, setSlot]
  have slots : (orb.logoutSection ref).exitChain.piCurrent =
      Function.update orb.piCurrent .joinedCallChain .empty := by
    simp [exitChain, setSlot]
  simp only [callerContext, calling, setCurrentConnection_some, still, setSlot, slots]
  simp [exitChain, setSlot]

section Restored

variable (quiet : Undisturbed world) (ref) (orb : Orb) (login : LoginInfo) (accessControl : ObjectRef)
include quiet

theorem callerContext_told :
    callerContext (told world ref orb login accessControl) =
      callerContext (calling world ref orb) :=
  remoteLogout_keeps quiet accessControl login _ _

theorem currentId_told :
    (told world ref orb login accessControl).currentId = some world.selfId := by
  have kept := callerContext_told ref quiet orb login accessControl
  rw [callerContext_calling] at kept
  have slot : (told world ref orb login accessControl).piCurrent .currentConnection =
      .uuid world.selfId := (Prod.mk.inj kept).1
  rw [currentId, slot, Any.toUuid?]

/-- The context as it is once the connection has been put back, before the chain is. -/
theorem restored_surroundings :
    (restored world orb.getCurrentConnection (told world ref orb login accessControl)).surroundings =
      (orb.logoutSection ref).surroundings := by
  have pinned := currentId_told ref quiet orb login accessControl
  have kept := callerContext_told ref quiet orb login accessControl
  rw [callerContext_calling] at kept
  simp only [callerContext, Prod.mk.injEq] at kept
  obtain ⟨-, -, signed, -, -, alive, logins⟩ := kept
  have current := getCurrentConnection_setCurrentConnection world.previousId pinned
    orb.getCurrentConnection fun conn current => by
      rw [alive]
      exact alive_of_getCurrentConnection current
  simp only [surroundings, restored, current, getCurrentConnection_logoutSection,
    piCurrent_logoutSection]
  simp [piCurrent_setCurrentConnection, signed, logins]

/-- No chain is joined then. -/
theorem restored_joined :
    ((restored world orb.getCurrentConnection
      (told world ref orb login accessControl)).piCurrent .joinedCallChain).half = none := by
  have kept := callerContext_told ref quiet orb login accessControl
  rw [callerContext_calling] at kept
  simp only [callerContext, Prod.mk.injEq] at kept
  obtain ⟨-, joined, -⟩ := kept
  simp [restored, piCurrent_setCurrentConnection, joined, Any.half]

end Restored

end Orb

end OpenBus
