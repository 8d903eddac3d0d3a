import OpenBus.Model.LoginCallback

/-! # Callbacks with a fixed body

A callback whose body is a sequence of actions, with what becomes of each of them, determines what
its thread does, and so does the thread itself wherever it is inside of `get_login`. The bus grants
logins with identifiers of its own choice, none of which there has been. An exception ends the
callback, unless the body catches it.
-/

namespace OpenBus

open Machine

namespace LoginCallback

open ConnectionThreads (currentLogin)

/-- What a callback does with the connection. -/
inductive Act where
  /-- A login that the bus grants. -/
  | login (facets : BusFacets)
  /-- A login that fails, before or after `login_init`. -/
  | refusedLogin (facets : Option BusFacets)
  | logout
  /-- The current login is found to be invalid. -/
  | invalidated
  | setCallback (registered : Bool)
  /-- A request through the connection. -/
  | request
  | raise
deriving DecidableEq

structure Deed where
  act : Act
  /-- Whether the body catches the exception that the action may end with. -/
  caught : Bool
deriving DecidableEq

structure Script where
  body : List Deed
  /-- The login that the bus grants when there have been certain ones. -/
  grant : List Identifier → LoginInfo
  fresh : ∀ used, (grant used).id ≠ [] ∧ (grant used).id ∉ used

/-- A thread that executes a script, and its history. -/
structure Execution where
  thread : Thread (List Deed)
  trace : List CallbackEvent

/-- How an action ends that calls nothing back: whether it throws, what is seen of it, and the
connection with the logins that there have been. -/
structure Performed where
  throws : Bool
  event : CallbackEvent
  conn : Connection
  used : List Identifier

/-- A request is performed if there is a login. -/
def Act.perform (script : Script) (conn : Connection) (used : List Identifier) : Act → Performed
  | .login facets =>
      match (conn.loginInit facets).login (script.grant used) with
      | none => ⟨true, .other, conn, used⟩
      | some after =>
          ⟨false, .login (script.grant used), after, (script.grant used).id :: used⟩
  | .refusedLogin facets =>
      match conn.state, facets with
      | .loggedOut, some facets => ⟨true, .other, conn.loginInit facets, used⟩
      | _, _ => ⟨true, .other, conn, used⟩
  | .logout => ⟨false, .logout, conn.logout, used⟩
  | .invalidated =>
      match conn.loginInfo with
      | none => ⟨false, .other, conn, used⟩
      | some info =>
          ⟨false, .invalidated info, { conn.logout with invalidLogin := some info }, used⟩
  | .setCallback registered =>
      ⟨false, .other, { conn with onInvalidLogin := registered }, used⟩
  | .request => ⟨false, .answered (currentLogin conn) conn, conn, used⟩
  | .raise => ⟨true, .other, conn, used⟩

/-- What is left of the body after an action. -/
def Deed.remaining (deed : Deed) (throws : Bool) (rest : List Deed) : List Deed :=
  if throws ∧ deed.caught = false then [] else rest

/-- The callback goes on when its request has its login, or is refused with `NoLogin`. -/
def resume (login : LoginInfo) : List (Frame (List Deed)) → List (Frame (List Deed))
  | .running invalid (deed :: rest) :: below =>
      .running invalid (deed.remaining (login.id = []) rest) :: below
  | frames => frames

/-- The next section of the thread, if it is still in `get_login`. -/
def Execution.step (script : Script) (c : Execution) : Option Execution :=
  let conn := c.thread.conn
  let used := c.thread.used
  match c.thread.frames with
  | [] => none
  | .resolving login invalid :: below =>
      if conn.onInvalidLogin then
        some ⟨⟨conn, .notifying invalid :: below, used⟩, .read invalid true :: c.trace⟩
      else
        some ⟨⟨{ conn with invalidLogin := none }, .returning login :: below, used⟩,
          .read invalid false :: c.trace⟩
  | .notifying invalid :: below =>
      some ⟨⟨conn, .running invalid script.body :: below, used⟩,
        .called invalid conn.loginInfo (running below) :: c.trace⟩
  | .running invalid [] :: below =>
      some ⟨⟨(afterCallback invalid conn : _ × Frame (List Deed)).1,
        (afterCallback invalid conn).2 :: below, used⟩, .other :: c.trace⟩
  | .running invalid (deed :: rest) :: below =>
      if deed.act = .request ∧ (currentLogin conn).id = [] then
        some ⟨⟨conn, loop (currentLogin conn) (conn.invalidLogin.getD default) ::
          .running invalid (deed :: rest) :: below, used⟩, .entered (below.length + 1) :: c.trace⟩
      else
        let performed := deed.act.perform script conn used
        some ⟨⟨performed.conn, .running invalid (deed.remaining performed.throws rest) :: below,
          performed.used⟩, performed.event :: c.trace⟩
  | .returning login :: below =>
      some ⟨⟨conn, resume login below, used⟩, .returned below.length login conn :: c.trace⟩

/-- A request outside of any callback, after the first section of its `get_login`. -/
def Execution.start (conn : Connection) (used : List Identifier) : Execution :=
  if (currentLogin conn).id ≠ [] then
    ⟨⟨conn, [], used⟩, [.answered (currentLogin conn) conn]⟩
  else
    ⟨⟨conn, [loop (currentLogin conn) (conn.invalidLogin.getD default)], used⟩, [.entered 0]⟩

end LoginCallback

end OpenBus
