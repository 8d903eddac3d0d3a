import OpenBus.Model.Orb

/-! # Logging in and out

The operations of a connection that log in and out, as one thread runs them from beginning to
end. Their calls to the bus are inputs: those made under `ignore_interceptor` pass no interceptor
and are given by their answers, the call to `logout` passes them all and is an action.
-/

namespace OpenBus

open Machine

/-- What the calls of one login are answered. A login by shared authentication brings the bus
of its secret, and a bus which no longer knows the login process answers `OBJECT_NOT_EXIST`. -/
structure LoginAnswers where
  component : Except Exception BusFacets
  secretBus : Option Identifier
  grant : Except Exception LoginInfo

/-- What one `logout` meets: the call to the bus, and the random values drawn. -/
structure LogoutWorld where
  logout : ObjectRef → Action Orb Exception Unit
  selfId : Uuid
  previousId : Uuid

namespace Orb

/-- `login_init` -/
def loginInit (ref : ConnRef) (component : Except Exception BusFacets) : Action Orb Exception Unit := do
  let facets ← guarded .ignoreInterceptor (.boolean true) (.boolean false)
    (Action.ofExcept component)
  modify (updateConnection ref (Connection.loginInit facets))

/-- The section `login`. -/
def login (ref : ConnRef) (info : LoginInfo) : Action Orb Exception Unit := do
  let orb ← get
  match (orb.connections ref).login info with
  | none => throw .alreadyLoggedIn
  | some conn => modify (updateConnection ref fun _ => conn)

/-- The grant of a login, whose failure is renamed where the login process is gone. -/
def granted (answers : LoginAnswers) : Except Exception LoginInfo :=
  match answers.secretBus, answers.grant with
  | some _, .error (.system .objectNotExist _ _) => .error .invalidLoginProcess
  | _, grant => grant

/-- `loginByPassword`, `loginByCertificate` and `loginBySharedAuth`. -/
def loginBy (ref : ConnRef) (answers : LoginAnswers) : Action Orb Exception Unit := do
  let orb ← get
  if (orb.connections ref).state = .logged then throw .alreadyLoggedIn
  else
    loginInit ref answers.component
    let orb ← get
    if answers.secretBus.any (· ≠ (orb.connections ref).busid) then throw .wrongBus
    else
      guarded .ignoreInterceptor (.boolean true) (.boolean false) do
        let info ← Action.ofExcept (granted answers)
        login ref info

variable (platform : Platform) (world : LogoutWorld)

/-- The call of `_logout(false)` to the bus, on behalf of the login discarded before. -/
def remoteLogout (accessControl : Option ObjectRef) (login : LoginInfo) (busid : Identifier) :
    Action Orb Exception Unit :=
  guarded .ignoreInvalidLogin (.boolean true) (.boolean false) <|
    guarded .login (.loginInfo login) (.loginInfo default) <|
      guarded .busid (.string busid) (.string []) <|
        match accessControl with
        | some accessControl => world.logout accessControl
        | none => throw .fault

/-- The outcome of the call as `_logout` reports it. -/
def logoutSuccess : Except Exception Unit → Except Exception Bool
  | .ok () => .ok true
  | .error (.system .noPermission minor _) => .ok (minor == invalidLoginCode)
  | .error e => if e.isCatchable then .ok false else .error e

/-- The destructor of `save_state`, from which no exception may escape. -/
def restoreState (conn : Option ConnRef) (chain : CallerChain) : Action Orb Exception Unit := do
  modify (setCurrentConnection world.previousId conn)
  tryCatch (joinChain platform chain) fun _ => throw .fault

/-- What `_logout(false)` does once it has released the mutex: tell the bus, outside any chain and
over the connection itself. -/
def confirmLogout (ref : ConnRef) (accessControl : Option ObjectRef) (login : LoginInfo)
    (busid : Identifier) : Action Orb Exception Bool := do
  let orb ← get
  let previousConn := orb.getCurrentConnection
  let previousChain ← Action.ofExcept (orb.getJoinedChain platform)
  modify exitChain
  modify (setCurrentConnection world.selfId (some ref))
  let result ← Action.attempt (remoteLogout world accessControl login busid)
  let success ← Action.ofExcept (logoutSuccess result)
  restoreState platform world previousConn previousChain
  return success

/-- `logout`, that is `_logout(false)`: whether the bus has confirmed it. -/
def logout (ref : ConnRef) : Action Orb Exception Bool := do
  let orb ← get
  match (orb.connections ref).state with
  | .loggedOut => return false
  | .logged =>
    match (orb.connections ref).loginInfo with
    | none => throw .fault
    | some login =>
      modify (logoutSection ref)
      confirmLogout platform world ref (orb.connections ref).accessControl login
        (orb.connections ref).busid

end Orb

end OpenBus
