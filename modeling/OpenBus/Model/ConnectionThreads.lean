import OpenBus.Machine.Run
import OpenBus.Model.ClientInterceptor

/-! # The threads of one connection

Any number of threads log in and out over one connection, send requests through it and react to
`InvalidLogin`. An operation holds the mutex of the connection only now and then: what it does
between two releases is one step, and between its steps those of other threads can come. An
operation that runs inside another one, such as a login by the callback, is a thread of its own.
-/

namespace OpenBus

open Machine

namespace ConnectionThreads

open ClientInterceptor (Reaction reaction)

/-- Where a thread stands in an operation on the connection. -/
inductive Task where
  | idle
  /-- Has found the connection logged out. A shared secret brings its bus. -/
  | entered (secretBus : Option Identifier)
  /-- Has run `login_init`. -/
  | connected (secretBus : Option Identifier)
  /-- Is logging in to the bus. -/
  | asking (bus : Identifier)
  /-- Holds a login which the bus has granted. -/
  | granted (info : LoginInfo) (bus : Identifier)
  /-- Before a turn of the loop of `get_login`. -/
  | resolving (login invalid : LoginInfo)
  /-- Has found no callback in a turn of the loop. -/
  | dropping (login : LoginInfo)
  /-- Runs the callback. -/
  | notifying (invalid : LoginInfo)
  /-- Has sent a request under a login. -/
  | sent (login : LoginInfo)
  /-- Handles `InvalidLogin`, which has answered a request sent under the first login. The second
  is the one it has read from the connection. -/
  | handling (sent invalid : LoginInfo)
  /-- Has learned from the registry that the login is invalid. -/
  | established (invalid : LoginInfo)
  /-- Has found the login still current. -/
  | discarding (invalid : LoginInfo)
  /-- Has logged the connection out. -/
  | recording (invalid : LoginInfo)
deriving DecidableEq

/-- A connection and the threads that use it. -/
structure Shared where
  conn : Connection
  task : ℕ → Task

namespace Shared

/-- A thread turns to another task, and leaves the connection in a given state. -/
def act (shared : Shared) (thread : ℕ) (task : Task) (conn : Connection) : Shared :=
  ⟨conn, Function.update shared.task thread task⟩

/-- A thread turns to another task. -/
def turn (shared : Shared) (thread : ℕ) (task : Task) : Shared :=
  shared.act thread task shared.conn

@[simp] theorem conn_act (shared : Shared) (thread : ℕ) (task : Task) (conn : Connection) :
    (shared.act thread task conn).conn = conn := rfl

@[simp] theorem conn_turn (shared : Shared) (thread : ℕ) (task : Task) :
    (shared.turn thread task).conn = shared.conn := rfl

@[simp] theorem task_act_self (shared : Shared) (thread : ℕ) (task : Task) (conn : Connection) :
    (shared.act thread task conn).task thread = task := Function.update_self ..

theorem task_act_ne (shared : Shared) {thread other : ℕ} (differ : other ≠ thread) (task : Task)
    (conn : Connection) : (shared.act thread task conn).task other = shared.task other :=
  Function.update_of_ne differ ..

@[simp] theorem act_act (shared : Shared) (thread : ℕ) (task after : Task)
    (conn next : Connection) :
    (shared.act thread task conn).act thread after next = shared.act thread after next := by
  simp [act]

@[simp] theorem turn_act (shared : Shared) (thread : ℕ) (task after : Task) (conn : Connection) :
    (shared.act thread task conn).turn thread after = shared.act thread after conn := by
  simp [turn]

end Shared

/-- The steps of which the order matters. -/
inductive ThreadEvent where
  | init (thread : ℕ) (bus : Identifier)
  | login (thread : ℕ) (info : LoginInfo) (bus : Identifier)
  /-- A `logout`, and the login that the connection had. -/
  | logout (thread : ℕ) (removed : Option LoginInfo)
  | asked (thread : ℕ) (sent invalid : LoginInfo) (answer : Except Exception ULong)
      (next : Reaction)
  | compared (thread : ℕ)
  /-- A login discarded as invalid, and the login that the connection had. -/
  | discarded (thread : ℕ) (invalid : LoginInfo) (removed : Option LoginInfo)
  /-- A login recorded as invalid, and the login that the connection has. -/
  | recorded (thread : ℕ) (invalid : LoginInfo) (current : Option LoginInfo)
  | other

/-- The login of a connection, as operations copy it. -/
def currentLogin (conn : Connection) : LoginInfo := conn.loginInfo.getD default

/-- What `get_login` returns lets a request be sent, or have it refused with `NoLogin`. -/
def returned (login : LoginInfo) : Task := if login.id = [] then .idle else .sent login

/-- One more turn of the loop of `get_login`, if the invalid login is not the default one. -/
def loop (login invalid : LoginInfo) : Task :=
  if invalid.id = [] then returned login else .resolving login invalid

/-- The login of a connection and what `login_init` installs for it. -/
def standing (conn : Connection) :=
  (conn.state, conn.loginInfo, conn.busid, conn.buskey, conn.accessControl, conn.loginRegistry,
    conn.offerRegistry, conn.loginCache.isSome)

/-- On the way to a login. -/
def Task.isLogin : Task → Bool
  | .entered _ | .connected _ | .asking _ => true
  | _ => false

inductive ThreadStep : Shared → ThreadEvent → Shared → Prop
  /-- The test at the start of `loginByPassword`, `loginByCertificate` and `loginBySharedAuth`. -/
  | enter {s : Shared} {thread : ℕ} (secretBus : Option Identifier)
      (here : s.task thread = .idle) (out : s.conn.state = .loggedOut) :
      ThreadStep s .other (s.turn thread (.entered secretBus))
  | init {s : Shared} {thread : ℕ} {secretBus : Option Identifier} (facets : BusFacets)
      (here : s.task thread = .entered secretBus) :
      ThreadStep s (.init thread facets.accessControl.bus)
        (s.act thread (.connected secretBus) (s.conn.loginInit facets))
  /-- A call of the access control facet, to log in or to start doing so. -/
  | call {s : Shared} {thread : ℕ} {accessControl : ObjectRef}
      (here : s.task thread = .connected none)
      (present : s.conn.accessControl = some accessControl) :
      ThreadStep s .other (s.turn thread (.asking accessControl.bus))
  /-- The test of the bus in `loginBySharedAuth`. -/
  | callShared {s : Shared} {thread : ℕ} {bus : Identifier}
      (here : s.task thread = .connected (some bus)) (same : bus = s.conn.busid) :
      ThreadStep s .other (s.turn thread (.asking bus))
  | grant {s : Shared} {thread : ℕ} {bus : Identifier} (info : LoginInfo)
      (here : s.task thread = .asking bus) : ThreadStep s .other (s.turn thread (.granted info bus))
  | login {s : Shared} {thread : ℕ} {info : LoginInfo} {bus : Identifier} {conn : Connection}
      (here : s.task thread = .granted info bus) (free : s.conn.login info = some conn) :
      ThreadStep s (.login thread info bus) (s.act thread .idle conn)
  | refuse {s : Shared} {thread : ℕ} {info : LoginInfo} {bus : Identifier}
      (here : s.task thread = .granted info bus) (taken : s.conn.login info = none) :
      ThreadStep s .other (s.turn thread .idle)
  /-- A login that ends with an exception. -/
  | fail {s : Shared} {thread : ℕ} (here : (s.task thread).isLogin = true) :
      ThreadStep s .other (s.turn thread .idle)
  /-- The section of `_logout(false)`. -/
  | logout {s : Shared} {thread : ℕ} (here : s.task thread = .idle) :
      ThreadStep s (.logout thread s.conn.loginInfo) (s.act thread .idle s.conn.logout)
  /-- The first section of `get_login`. -/
  | getLogin {s : Shared} {thread : ℕ} (here : s.task thread = .idle) :
      ThreadStep s .other (s.turn thread (if (currentLogin s.conn).id = [] then
        loop (currentLogin s.conn) (s.conn.invalidLogin.getD default)
        else .sent (currentLogin s.conn)))
  | unheard {s : Shared} {thread : ℕ} {login invalid : LoginInfo}
      (here : s.task thread = .resolving login invalid) (unset : s.conn.onInvalidLogin = false) :
      ThreadStep s .other (s.turn thread (.dropping login))
  | drop {s : Shared} {thread : ℕ} {login : LoginInfo} (here : s.task thread = .dropping login) :
      ThreadStep s .other (s.act thread (returned login) { s.conn with invalidLogin := none })
  | notify {s : Shared} {thread : ℕ} {login invalid : LoginInfo}
      (here : s.task thread = .resolving login invalid) (set : s.conn.onInvalidLogin = true) :
      ThreadStep s .other (s.turn thread (.notifying invalid))
  /-- The section after the callback, which has left the invalid login as it was. -/
  | ignored {s : Shared} {thread : ℕ} {invalid current : LoginInfo}
      (here : s.task thread = .notifying invalid) (still : s.conn.invalidLogin = some current)
      (named : current.id ≠ []) (same : current.equal invalid = true) :
      ThreadStep s .other (s.act thread (returned (currentLogin s.conn))
        { s.conn with invalidLogin := none })
  /-- The section after the callback, which has left another invalid login or none. -/
  | again {s : Shared} {thread : ℕ} {invalid : LoginInfo}
      (here : s.task thread = .notifying invalid)
      (changed : (s.conn.invalidLogin.getD default).id = [] ∨
        (s.conn.invalidLogin.getD default).equal invalid = false) :
      ThreadStep s .other (s.turn thread
        (loop (currentLogin s.conn) (s.conn.invalidLogin.getD default)))
  /-- A reply other than `InvalidLogin`. -/
  | reply {s : Shared} {thread : ℕ} {login : LoginInfo} (here : s.task thread = .sent login) :
      ThreadStep s .other (s.turn thread .idle)
  /-- The first section of the reaction to `InvalidLogin`. -/
  | read {s : Shared} {thread : ℕ} {login : LoginInfo} (here : s.task thread = .sent login) :
      ThreadStep s .other (s.turn thread (.handling login (currentLogin s.conn)))
  /-- The question to the registry; for want of a registry it counts as answered by the exception
  thrown then. -/
  | ask {s : Shared} {thread : ℕ} {sent invalid : LoginInfo} (answer : Except Exception ULong)
      (here : s.task thread = .handling sent invalid) :
      ThreadStep s (.asked thread sent invalid answer (reaction answer))
        (s.turn thread (if reaction answer = .compare then .established invalid else .idle))
  /-- The login is still the current one. -/
  | compare {s : Shared} {thread : ℕ} {invalid : LoginInfo}
      (here : s.task thread = .established invalid) (same : (currentLogin s.conn).id = invalid.id) :
      ThreadStep s (.compared thread) (s.turn thread (.discarding invalid))
  | changed {s : Shared} {thread : ℕ} {invalid : LoginInfo}
      (here : s.task thread = .established invalid) (other : (currentLogin s.conn).id ≠ invalid.id) :
      ThreadStep s .other (s.turn thread .idle)
  /-- `_logout(true)` -/
  | discard {s : Shared} {thread : ℕ} {invalid : LoginInfo}
      (here : s.task thread = .discarding invalid) :
      ThreadStep s (.discarded thread invalid s.conn.loginInfo)
        (s.act thread (.recording invalid) s.conn.logout)
  | record {s : Shared} {thread : ℕ} {invalid : LoginInfo}
      (here : s.task thread = .recording invalid) :
      ThreadStep s (.recorded thread invalid s.conn.loginInfo)
        (s.act thread .idle { s.conn with invalidLogin := some invalid })
  /-- Anything else that is done to the connection. -/
  | other {s : Shared} {conn : Connection} (same : standing conn = standing s.conn)
      (invalid : conn.invalidLogin = s.conn.invalidLogin) : ThreadStep s .other { s with conn }

/-- Threads that start on a new connection. -/
def threadMachine : Labeled Shared ThreadEvent where
  Init s := (∃ key legacySupport, s.conn = .init key legacySupport) ∧ ∀ thread, s.task thread = .idle
  Step := ThreadStep

end ConnectionThreads

end OpenBus
