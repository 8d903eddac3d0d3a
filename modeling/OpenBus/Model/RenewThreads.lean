import OpenBus.Proofs.ConnectionThreads

/-! # The threads that renew the logins of a connection

`login` starts a thread that renews the login whenever it is about to expire, and registers it under
the identifier of the login. `_logout` interrupts the thread of the login it discards, which the
thread notices the next time it sleeps. The destructors of a connection and of the context log out.
That of the context waits for all the threads registered, and so does that of a connection which has
been logged out before. A renewing thread may itself hold the last reference to a connection. Its
own interruption then ends the waiting, and the destructor swallows it. The threads run along with
the operations of the other ones, and the calls they make are operations of their own.
-/

namespace OpenBus

open Machine

namespace RenewThreads

open ConnectionThreads

/-- Where a thread stands in `renewLogin`. -/
inductive Phase where
  /-- It has not yet set the current connection. -/
  | starting
  | sleeping
  /-- It calls `renew`. -/
  | renewing
  | ended
deriving DecidableEq

/-- A thread of `renewLogin`: the login that has started it, the arguments, the interruption that a
logout has requested, and whether a destructor has swallowed it. -/
structure Renewer where
  login : LoginInfo
  accessControl : Option ObjectRef
  validityTime : ULong
  phase : Phase
  interrupted : Bool
  swallowed : Bool

/-- The thread has been interrupted and has not noticed yet. -/
def Renewer.pending (renewer : Renewer) : Bool := renewer.interrupted && !renewer.swallowed

/-- A connection with the threads that use it. Those which renew its logins have numbers of their
own among them, and are found in `_renew_threads`. -/
structure Renewal where
  shared : Shared
  renewer : ℕ → Option Renewer
  renewThreads : Identifier → Option ℕ
  destroyed : Bool

/-- The login that a step discards. -/
def removedLogin : ThreadEvent → Option LoginInfo
  | .logout _ removed | .discarded _ _ removed => removed
  | _ => none

namespace Renewal

/-- A thread is left in a given state. -/
def turn (s : Renewal) (thread : ℕ) (renewer : Renewer) : Renewal :=
  { s with renewer := Function.update s.renewer thread (some renewer) }

/-- `_renew_threads[login.id].interrupt()`, of which nothing comes if no thread is found. -/
def interrupt (s : Renewal) (login : Option LoginInfo) : Renewal :=
  match login.bind fun info => s.renewThreads info.id with
  | none => s
  | some thread =>
      { s with
        renewer := Function.update s.renewer thread
          ((s.renewer thread).map fun renewer =>
            { renewer with interrupted := true, swallowed := false }) }

/-- `_renew_threads[info.id] = boost::thread(...)`. A thread that has been there is detached. -/
def start (s : Renewal) (thread : ℕ) (info : LoginInfo) (validityTime : ULong) : Renewal :=
  { s with
    renewer := Function.update s.renewer thread
      (some ⟨info, s.shared.conn.accessControl, validityTime, .starting, false, false⟩)
    renewThreads := Function.update s.renewThreads info.id (some thread) }

/-- Nothing is done on the connection by a thread that does not call `renew`. -/
def Rests (s : Renewal) (t : Shared) : Prop :=
  ∀ thread renewer, s.renewer thread = some renewer → renewer.phase ≠ .renewing →
    t.task thread = s.shared.task thread

end Renewal

inductive RenewEvent where
  /-- A step of an operation, other than `login`. -/
  | operation (e : ThreadEvent)
  /-- A `login`, and the thread that it starts. -/
  | login (thread : ℕ) (info : LoginInfo)
  /-- The destructor of the connection has logged out. -/
  | destroyed
  | started (thread : ℕ)
  /-- The thread begins to renew. -/
  | woken (thread : ℕ)
  /-- `renew` has returned a validity, or failed. -/
  | renewed (thread : ℕ) (validityTime : Option ULong)
  /-- The thread has lost its interruption in a destructor. -/
  | swallowed (thread : ℕ)
  | ended (thread : ℕ)

inductive RenewStep : Renewal → RenewEvent → Renewal → Prop
  | operation {s : Renewal} {e : ThreadEvent} {t : Shared} (step : ThreadStep s.shared e t)
      (remains : s.destroyed = false) (rests : s.Rests t)
      (other : ∀ thread info bus, e ≠ .login thread info bus) :
      RenewStep s (.operation e) { s.interrupt (removedLogin e) with shared := t }
  | login {s : Renewal} {thread renewer : ℕ} {info : LoginInfo} {bus : Identifier} {t : Shared}
      (step : ThreadStep s.shared (.login thread info bus) t) (remains : s.destroyed = false)
      (rests : s.Rests t) (fresh : s.renewer renewer = none) (free : t.task renewer = .idle)
      (validityTime : ULong) :
      RenewStep s (.login renewer info) { s.start renewer info validityTime with shared := t }
  /-- An operation keeps the connection alive. -/
  | destroy {s : Renewal} (remains : s.destroyed = false)
      (unused : ∀ thread, s.shared.task thread = .idle) :
      RenewStep s .destroyed { s.interrupt s.shared.conn.loginInfo with
        shared := { s.shared with conn := s.shared.conn.logout }
        destroyed := true }
  | start {s : Renewal} {thread : ℕ} {renewer : Renewer} (here : s.renewer thread = some renewer)
      (starting : renewer.phase = .starting) :
      RenewStep s (.started thread) (s.turn thread { renewer with phase := .sleeping })
  /-- The thread has held the last reference to the connection. -/
  | leave {s : Renewal} {thread : ℕ} {renewer : Renewer} (here : s.renewer thread = some renewer)
      (starting : renewer.phase = .starting) (gone : s.destroyed = true) :
      RenewStep s (.ended thread) (s.turn thread { renewer with phase := .ended })
  | wake {s : Renewal} {thread : ℕ} {renewer : Renewer} (here : s.renewer thread = some renewer)
      (sleeping : renewer.phase = .sleeping) (undisturbed : renewer.pending = false) :
      RenewStep s (.woken thread) (s.turn thread { renewer with phase := .renewing })
  | stop {s : Renewal} {thread : ℕ} {renewer : Renewer} (here : s.renewer thread = some renewer)
      (sleeping : renewer.phase = .sleeping) (interrupted : renewer.pending = true) :
      RenewStep s (.ended thread) (s.turn thread { renewer with phase := .ended })
  /-- A failure is logged, and the thread sleeps as long as before. -/
  | renew {s : Renewal} {thread : ℕ} {renewer : Renewer} (validityTime : Option ULong)
      (here : s.renewer thread = some renewer) (renewing : renewer.phase = .renewing)
      (returned : s.shared.task thread = .idle) :
      RenewStep s (.renewed thread validityTime)
        (s.turn thread { renewer with
          phase := .sleeping
          validityTime := validityTime.getD renewer.validityTime })
  /-- The thread has held the last reference to a connection, to this one or to that of its request.
  The destructor joins a thread that has not ended, and swallows what the join throws. -/
  | swallow {s : Renewal} {thread : ℕ} {renewer : Renewer} (here : s.renewer thread = some renewer)
      (within : renewer.phase = .starting ∧ s.destroyed = true ∨ renewer.phase = .renewing)
      (interrupted : renewer.pending = true) :
      RenewStep s (.swallowed thread) (s.turn thread { renewer with swallowed := true })

/-- A new connection and the threads that use it. -/
def renewMachine : Labeled Renewal RenewEvent where
  Init s := threadMachine.Init s.shared ∧ (∀ thread, s.renewer thread = none) ∧
    (∀ id, s.renewThreads id = none) ∧ s.destroyed = false
  Step := RenewStep

end RenewThreads

end OpenBus
