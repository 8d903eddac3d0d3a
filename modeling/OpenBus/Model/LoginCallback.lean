import OpenBus.Model.ConnectionThreads

/-! # The callback of invalid logins

A thread that sends a request asks the connection for its login in `get_login`, and while there is
none, a callback may be called. The callback runs on the same thread and may use the connection,
also to send requests, so that `get_login` runs inside of itself. The machine has one thread with
the calls of `get_login` that are under way; nothing can come between two sections of a thread that
is alone, so an operation which calls nothing back is one step.
-/

namespace OpenBus

open Machine

namespace LoginCallback

open ConnectionThreads (currentLogin)

/-- Where a call of `get_login` stands. `Rest` is what its callback still has to do. -/
inductive Frame (Rest : Type) where
  /-- Before a turn of the loop, with its two variables. -/
  | resolving (login invalid : LoginInfo)
  /-- Has found a callback in a turn of the loop. -/
  | notifying (invalid : LoginInfo)
  /-- Runs the callback. -/
  | running (invalid : LoginInfo) (rest : Rest)
  /-- Has left the loop. -/
  | returning (login : LoginInfo)

/-- A thread and the connection it uses. -/
structure Thread (Rest : Type) where
  conn : Connection
  /-- The calls of `get_login` that are under way, the innermost first. -/
  frames : List (Frame Rest)
  /-- The identifiers of the logins that there have been. -/
  used : List Identifier

inductive CallbackEvent where
  | login (info : LoginInfo)
  | logout
  | invalidated (info : LoginInfo)
  /-- A call of `get_login` that returns the current login at once. -/
  | answered (login : LoginInfo) (conn : Connection)
  /-- A call of `get_login` that has found no login, inside as many others. -/
  | entered (depth : ℕ)
  /-- A turn of the loop, and whether a callback was registered. -/
  | read (invalid : LoginInfo) (registered : Bool)
  /-- The callback starts, with the login of the connection and the callbacks that are running. -/
  | called (invalid : LoginInfo) (current : Option LoginInfo) (running : List LoginInfo)
  | returned (depth : ℕ) (login : LoginInfo) (conn : Connection)
  | other

/-- One more turn of the loop, if the invalid login is not the default one. -/
def loop {Rest : Type} (login invalid : LoginInfo) : Frame Rest :=
  if invalid.id = [] then .returning login else .resolving login invalid

/-- The section after the callback. -/
def afterCallback {Rest : Type} (invalid : LoginInfo) (conn : Connection) :
    Connection × Frame Rest :=
  let login := currentLogin conn
  let current := conn.invalidLogin.getD default
  if current.id ≠ [] ∧ current.equal invalid then
    ({ conn with invalidLogin := none }, .returning login)
  else (conn, loop login current)

/-- The logins of the callbacks that are running. -/
def running {Rest : Type} (frames : List (Frame Rest)) : List LoginInfo :=
  frames.filterMap fun
    | .running invalid _ => some invalid
    | _ => none

/-- What `get_login` reads and decides by. -/
def standing (conn : Connection) :=
  (conn.state, conn.loginInfo, conn.invalidLogin, conn.onInvalidLogin)

variable {Rest : Type}

/-- The thread is outside of `get_login`, or in a callback, which goes on to something else. -/
inductive Acting : List (Frame Rest) → List (Frame Rest) → Prop
  | outside : Acting [] []
  | inside {invalid : LoginInfo} {rest : Rest} (rest' : Rest) {below : List (Frame Rest)} :
      Acting (.running invalid rest :: below) (.running invalid rest' :: below)

/-- What the thread does on the connection with its identifiers, calling nothing back. -/
inductive Operation : Connection × List Identifier → CallbackEvent →
    Connection × List Identifier → Prop
  | login {conn after : Connection} {used : List Identifier} (facets : BusFacets)
      (info : LoginInfo) (named : info.id ≠ []) (fresh : info.id ∉ used)
      (free : (conn.loginInit facets).login info = some after) :
      Operation (conn, used) (.login info) (after, info.id :: used)
  | logout {conn : Connection} {used : List Identifier} :
      Operation (conn, used) .logout (conn.logout, used)
  /-- `_logout(true)`, after which the login is recorded as invalid. -/
  | invalidated {conn : Connection} {used : List Identifier} {info : LoginInfo}
      (current : conn.loginInfo = some info) :
      Operation (conn, used) (.invalidated info)
        ({ conn.logout with invalidLogin := some info }, used)
  | setCallback {conn : Connection} {used : List Identifier} (registered : Bool) :
      Operation (conn, used) .other ({ conn with onInvalidLogin := registered }, used)
  /-- The first section of `get_login`, which finds a login. -/
  | answered {conn : Connection} {used : List Identifier} (found : (currentLogin conn).id ≠ []) :
      Operation (conn, used) (.answered (currentLogin conn) conn) (conn, used)
  /-- Anything else, such as a login that fails. -/
  | other {conn after : Connection} {used : List Identifier}
      (same : standing after = standing conn) : Operation (conn, used) .other (after, used)

inductive CallbackStep : Thread Rest → CallbackEvent → Thread Rest → Prop
  | operate {s : Thread Rest} {frames : List (Frame Rest)} {e : CallbackEvent} {conn : Connection}
      {used : List Identifier} (acting : Acting s.frames frames)
      (operation : Operation (s.conn, s.used) e (conn, used)) :
      CallbackStep s e ⟨conn, frames, used⟩
  /-- The first section of `get_login`, which finds no login. -/
  | enter {s : Thread Rest} {frames : List (Frame Rest)} (acting : Acting s.frames frames)
      (absent : (currentLogin s.conn).id = []) :
      CallbackStep s (.entered s.frames.length)
        ⟨s.conn, loop (currentLogin s.conn) (s.conn.invalidLogin.getD default) :: frames, s.used⟩
  | unheard {s : Thread Rest} {below : List (Frame Rest)} {login invalid : LoginInfo}
      (here : s.frames = .resolving login invalid :: below)
      (unset : s.conn.onInvalidLogin = false) :
      CallbackStep s (.read invalid false)
        ⟨{ s.conn with invalidLogin := none }, .returning login :: below, s.used⟩
  | heard {s : Thread Rest} {below : List (Frame Rest)} {login invalid : LoginInfo}
      (here : s.frames = .resolving login invalid :: below)
      (set : s.conn.onInvalidLogin = true) :
      CallbackStep s (.read invalid true) ⟨s.conn, .notifying invalid :: below, s.used⟩
  | call {s : Thread Rest} {below : List (Frame Rest)} {invalid : LoginInfo} (rest : Rest)
      (here : s.frames = .notifying invalid :: below) :
      CallbackStep s (.called invalid s.conn.loginInfo (running below))
        ⟨s.conn, .running invalid rest :: below, s.used⟩
  /-- The callback returns or throws. -/
  | finish {s : Thread Rest} {below : List (Frame Rest)} {invalid : LoginInfo} {rest : Rest}
      (here : s.frames = .running invalid rest :: below) :
      CallbackStep s .other
        ⟨(afterCallback invalid s.conn : Connection × Frame Rest).1,
          (afterCallback invalid s.conn).2 :: below, s.used⟩
  | leave {s : Thread Rest} {below frames : List (Frame Rest)} {login : LoginInfo}
      (here : s.frames = .returning login :: below) (acting : Acting below frames) :
      CallbackStep s (.returned below.length login s.conn) ⟨s.conn, frames, s.used⟩

/-- A connection that has come about with logins of these identifiers. -/
structure Sound (conn : Connection) (used : List Identifier) : Prop where
  out : conn.state = .loggedOut ↔ conn.loginInfo = none
  current : ∀ info, conn.loginInfo = some info → info.id ≠ [] ∧ info.id ∈ used
  invalid : ∀ info, conn.invalidLogin = some info → info.id ≠ [] ∧ info.id ∈ used

/-- A thread that starts on any connection. -/
def callbackMachine (Rest : Type) : Labeled (Thread Rest) CallbackEvent where
  Init s := Sound s.conn s.used ∧ s.frames = []
  Step := CallbackStep

end LoginCallback

end OpenBus
