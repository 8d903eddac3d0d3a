import Mathlib.Data.Finset.Basic
import OpenBus.Model.ConnectionThreads

/-! # The logins that the bus has granted

Threads log in and out over one connection, as in the machine of its threads, and the bus keeps the
logins it has granted until it ends them. It never grants a login twice. The call by which `logout`
tells the bus is a step of its own, because other threads can log in meanwhile; a call of which the
answer is lost has done its work at the bus.
-/

namespace OpenBus

open Machine

namespace ConnectionThreads

/-- The threads of a connection, and the bus. -/
structure Grants where
  shared : Shared
  /-- The login of which a thread tells the bus in `logout`. -/
  telling : ℕ → Option LoginInfo
  /-- The logins granted that have not ended. -/
  live : Finset LoginInfo
  issued : Finset LoginInfo

namespace Grants

/-- A thread that is about nothing. -/
def Idle (s : Grants) (thread : ℕ) : Prop :=
  s.shared.task thread = .idle ∧ s.telling thread = none

/-- No operation is in progress. -/
def Quiescent (s : Grants) : Prop := ∀ thread, s.Idle thread

end Grants

/-- What happens to the logins of the bus. -/
inductive GrantEvent where
  | granted (thread : ℕ) (info : LoginInfo)
  /-- The bus has granted a login, but the call has ended with an exception. -/
  | lost (thread : ℕ) (info : LoginInfo)
  | login (thread : ℕ) (info : LoginInfo)
  /-- The operation ends with `AlreadyLoggedIn`. -/
  | refused (thread : ℕ) (info : LoginInfo)
  | logout (thread : ℕ) (info : LoginInfo)
  /-- What `logout` returns. -/
  | answered (thread : ℕ) (info : LoginInfo) (success : Bool)
  /-- The bus ends a login by itself. -/
  | ended (info : LoginInfo)
  | other
deriving DecidableEq

inductive GrantStep : Grants → GrantEvent → Grants → Prop
  | enter {s : Grants} {thread : ℕ} (secretBus : Option Identifier) (here : s.Idle thread)
      (out : s.shared.conn.state = .loggedOut) :
      GrantStep s .other { s with shared := s.shared.turn thread (.entered secretBus) }
  | init {s : Grants} {thread : ℕ} {secretBus : Option Identifier} (facets : BusFacets)
      (here : s.shared.task thread = .entered secretBus) :
      GrantStep s .other
        { s with
          shared := s.shared.act thread (.connected secretBus) (s.shared.conn.loginInit facets) }
  | call {s : Grants} {thread : ℕ} {accessControl : ObjectRef}
      (here : s.shared.task thread = .connected none)
      (present : s.shared.conn.accessControl = some accessControl) :
      GrantStep s .other { s with shared := s.shared.turn thread (.asking accessControl.bus) }
  | callShared {s : Grants} {thread : ℕ} {bus : Identifier}
      (here : s.shared.task thread = .connected (some bus)) (same : bus = s.shared.conn.busid) :
      GrantStep s .other { s with shared := s.shared.turn thread (.asking bus) }
  | fail {s : Grants} {thread : ℕ} (here : (s.shared.task thread).isLogin = true) :
      GrantStep s .other { s with shared := s.shared.turn thread .idle }
  | grant {s : Grants} {thread : ℕ} {bus : Identifier} {info : LoginInfo}
      (here : s.shared.task thread = .asking bus) (fresh : info ∉ s.issued) :
      GrantStep s (.granted thread info)
        { s with
          shared := s.shared.turn thread (.granted info bus)
          live := insert info s.live
          issued := insert info s.issued }
  | lose {s : Grants} {thread : ℕ} {bus : Identifier} {info : LoginInfo}
      (here : s.shared.task thread = .asking bus) (fresh : info ∉ s.issued) :
      GrantStep s (.lost thread info)
        { s with
          shared := s.shared.turn thread .idle
          live := insert info s.live
          issued := insert info s.issued }
  | login {s : Grants} {thread : ℕ} {bus : Identifier} {info : LoginInfo} {conn : Connection}
      (here : s.shared.task thread = .granted info bus) (free : s.shared.conn.login info = some conn) :
      GrantStep s (.login thread info) { s with shared := s.shared.act thread .idle conn }
  | refuse {s : Grants} {thread : ℕ} {bus : Identifier} {info : LoginInfo}
      (here : s.shared.task thread = .granted info bus)
      (taken : s.shared.conn.login info = none) :
      GrantStep s (.refused thread info) { s with shared := s.shared.turn thread .idle }
  | logout {s : Grants} {thread : ℕ} {info : LoginInfo} (here : s.Idle thread)
      (current : s.shared.conn.loginInfo = some info) :
      GrantStep s (.logout thread info)
        { s with
          shared := s.shared.act thread .idle s.shared.conn.logout
          telling := Function.update s.telling thread (some info) }
  /-- `logout` returns; the bus has ended the login if it returns true. -/
  | answer {s : Grants} {thread : ℕ} {info : LoginInfo} (success ended : Bool)
      (here : s.telling thread = some info) (told : success = true → ended = true) :
      GrantStep s (.answered thread info success)
        { s with
          telling := Function.update s.telling thread none
          live := if ended then s.live.erase info else s.live }
  | ended {s : Grants} {info : LoginInfo} (live : info ∈ s.live) :
      GrantStep s (.ended info) { s with live := s.live.erase info }

def grantMachine : Labeled Grants GrantEvent where
  Init s := threadMachine.Init s.shared ∧ (∀ thread, s.telling thread = none) ∧ s.live = ∅ ∧
    s.issued = ∅
  Step := GrantStep

end ConnectionThreads

end OpenBus
