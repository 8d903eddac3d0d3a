import OpenBus.Model.Locks

/-! # Who waits for whom

The mutex of the server is locked below those of connections and keys, and keys are locked in the
order of their addresses; no other mutex is locked together with another one, and no call is made
while one is held. Only where a reference is released under a mutex is there an exception: the last
one to a connection destroys it there, and joins threads that may wait for the mutex.
-/

namespace OpenBus

open Machine LockProgram LockStack

namespace Locks

/-- The order in which mutexes are locked. -/
def rank : Mutex → ℕ
  | .server => 0
  | .publicKey address | .privateKey address => address + 2
  | _ => 1

theorem ordered_assign {mutex : ℕ → Mutex} (above : ∀ address, rank (mutex address) = address + 2)
    (target source : ℕ) : (assign mutex target source).Ordered rank [] := by
  rw [assign]
  split
  · trivial
  · rename_i different
    refine ⟨nofun, ordered_region.mpr fun other mem => ?_⟩
    obtain rfl := List.mem_singleton.mp mem
    rw [above, above]
    omega

namespace Context

theorem ordered_getCurrentConnection : getCurrentConnection.Ordered rank [] := by
  simp [getCurrentConnection, getDefaultConnection]

theorem ordered_getCallerChain (conn : ConnRef) : (getCallerChain conn).Ordered rank [] := by
  simp [getCallerChain, extractCallChain, ordered_getCurrentConnection]

theorem ordered_getJoinedChain (conn : ConnRef) : (getJoinedChain conn).Ordered rank [] := by
  simp [getJoinedChain, ordered_getCurrentConnection]

theorem ordered_setCurrentConnection : setCurrentConnection.Ordered rank [] := by
  simp [setCurrentConnection]

end Context

open Context

theorem ordered_destroy (conn : ConnRef) : (destroy conn).Ordered rank [] := by
  simp [destroy, Ordered]

namespace Conn

theorem ordered_loginInit (conn : ConnRef) : (loginInit conn).Ordered rank [] := by
  simp [loginInit, Ordered]

theorem ordered_encryptedBlock (key busKey : ℕ) : (encryptedBlock key busKey).Ordered rank [] := by
  simp [encryptedBlock]

theorem ordered_getLogin (conn : ConnRef) : (getLogin conn).Ordered rank [] := by
  simp [getLogin, read, Ordered]

theorem ordered_logout (conn current : ConnRef) : (logout conn current).Ordered rank [] := by
  simp [logout, logoutLocal, joinChain, ordered_getCurrentConnection, ordered_getJoinedChain,
    ordered_setCurrentConnection, ordered_getCallerChain, Ordered]

end Conn

namespace Client

theorem ordered_fillCredential (conn : ConnRef) : (fillCredential conn).Ordered rank [] := by
  simp [fillCredential, getSignedChain, busid, Conn.read, Ordered]

theorem ordered_attachCredential (conn : ConnRef) : (attachCredential conn).Ordered rank [] := by
  simp [attachCredential, getSession, getJoinedChain, busid, Conn.read, ordered_fillCredential]

theorem ordered_invalidLogin (conn : ConnRef) : (invalidLogin conn).Ordered rank [] := by
  simp [invalidLogin, getLoginRegistry, Conn.logoutLocal, ordered_getCurrentConnection, Ordered]

end Client

namespace Server

/-- The mutex of the server is the one under which others are locked. -/
theorem ordered_sendCredentialReset (conn : ConnRef) (callerKey : ℕ) :
    (sendCredentialReset conn callerKey).Ordered rank [] := by
  refine ⟨nofun, ?_⟩
  simp [Conn.read, rank]

theorem ordered_getDispatcherConnection (conn : ConnRef) :
    (getDispatcherConnection conn).Ordered rank [] := by
  simp [getDispatcherConnection, onCallDispatch, getDefaultConnection, saveDispatcherConnection,
    Conn.read, ordered_setCurrentConnection, Ordered]

theorem ordered_validateLogin (cache : ℕ) : (validateLogin cache).Ordered rank [] := by
  simp [validateLogin, Ordered]

theorem ordered_validateChain (conn : ConnRef) (busKey callerKey : ℕ) :
    (validateChain conn busKey callerKey).Ordered rank [] := by
  simp [validateChain, checkChain, checkLegacyChain, Conn.read, ordered_sendCredentialReset, Ordered]

theorem ordered_handleCredential (conn : ConnRef) (cache busKey callerKey : ℕ) :
    (handleCredential conn cache busKey callerKey).Ordered rank [] := by
  simp [handleCredential, ordered_getDispatcherConnection, ordered_validateLogin,
    ordered_sendCredentialReset, ordered_validateChain]

end Server

/-- An operation that destroys no connection under a mutex locks in the order. -/
theorem Operation.ordered {operation : Operation} (kept : operation.released = none) :
    operation.program.Ordered rank [] := by
  cases operation with
  | unwound released | setOnCallDispatch released | setOnInvalidLogin conn released =>
    obtain rfl : released = none := kept
    exact ⟨nofun, trivial⟩
  | receiveReply released =>
    obtain rfl : released = none := kept
    exact ⟨⟨nofun, trivial⟩, trivial⟩
  | assignPublicKey target source | assignPrivateKey target source =>
    exact ordered_assign (fun _ => rfl) target source
  | receiveRequestServiceContexts conn cache busKey callerKey =>
    simp [program, Server.receiveRequestServiceContexts, Server.ordered_handleCredential]
  | sendRequest conn =>
    simp [program, Client.sendRequest, Client.getCurrentConnection, Context.getDefaultConnection,
      Conn.ordered_getLogin, Client.ordered_attachCredential]
  | receiveException conn key =>
    simp [program, Client.receiveException, Client.resetSession, Client.ordered_invalidLogin, Ordered]
  | logout conn current => exact Conn.ordered_logout conn current
  | destroy conn => exact ordered_destroy conn
  | destroyContext conns => simp [program, Context.destroyContext, ordered_destroy]
  | getCurrentConnection | getLoginRegistry => exact ordered_getCurrentConnection
  | getCallerChain conn => exact ordered_getCallerChain conn
  | joinChain conn => exact ordered_maybe.mpr (ordered_getCallerChain conn)
  | getJoinedChain conn => exact ordered_getJoinedChain conn
  | makeChainFor conn =>
    simp [program, Context.makeChainFor, ordered_getCurrentConnection, ordered_getJoinedChain, Ordered]
  | importChain busKey => simp [program, Context.importChain, ordered_getCurrentConnection, Ordered]
  | loginByPassword conn key busKey =>
    simp [program, Conn.loginByPassword, Conn.login, Conn.ordered_loginInit,
      Conn.ordered_encryptedBlock, Ordered]
  | loginByCertificate conn key busKey certificateKey =>
    simp [program, Conn.loginByCertificate, Conn.login, Conn.ordered_loginInit,
      Conn.ordered_encryptedBlock, Ordered]
  | loginBySharedAuth conn key busKey =>
    simp [program, Conn.loginBySharedAuth, Conn.login, Conn.read, Conn.ordered_loginInit,
      Conn.ordered_encryptedBlock, Ordered]
  | startSharedAuth conn key =>
    simp [program, Conn.startSharedAuth, Conn.read, ordered_getCurrentConnection,
      ordered_setCurrentConnection, Ordered]
  | renewLogin => simp [program, Conn.renewLogin, ordered_setCurrentConnection, Ordered]
  | orbInitializer | setDefaultConnection | getDefaultConnection | setCurrentConnection
  | onCallDispatch | readConnection conn | readPublicKey address | readPrivateKey address =>
    exact ordered_region.mpr nofun

theorem solo_of_none {stack next : List (LockFrame Mutex)} (step : Advance stack none next) :
    Solo stack next :=
  ⟨none, step, nofun⟩

theorem not_solo_outside {rest next : List (LockFrame Mutex)} : ¬ Solo (.run .outside :: rest) next := by
  rintro ⟨locks, step, -⟩
  cases step

/-- A connection is destroyed within a region. Its mutex may be the one that is held; else the
thread waits for those which renew. -/
theorem stuck_of_destroy (conn : ConnRef) {rest : List (LockFrame Mutex)} (holds : held rest ≠ []) :
    ∃ stack, Relation.ReflTransGen Solo (.run (destroy conn) :: rest) stack ∧ held stack ≠ [] ∧
      ∀ next, ¬ Solo stack next := by
  have begins : Solo (.run (destroy conn) :: rest)
      (.run (.region (.connection conn)) :: .run (.inOrder [.outside]) :: rest) := solo_of_none .seq
  by_cases taken : .connection conn ∈ held rest
  · refine ⟨_, .single begins, holds, ?_⟩
    rintro next ⟨locks, step, free⟩
    cases step
    exact free _ rfl taken
  · have locked : Solo (.run (.region (.connection conn)) :: .run (.inOrder [.outside]) :: rest)
        (.run .skip :: .unlock (.connection conn) :: .run (.inOrder [.outside]) :: rest) := by
      refine ⟨_, .lock, ?_⟩
      rintro mutex ⟨⟩
      exact taken
    refine ⟨.run .outside :: .run .skip :: rest, ?_, holds, fun next => not_solo_outside⟩
    exact ((((Relation.ReflTransGen.single begins).tail locked).tail (solo_of_none .skip)).tail
      (solo_of_none .unlock)).tail (solo_of_none .seq)

theorem stuck_of_locked (mutex : Mutex) (conn : ConnRef) : ∃ stack,
    Relation.ReflTransGen Solo [.run (.locked mutex (destroy conn))] stack ∧ held stack ≠ [] ∧
      ∀ next, ¬ Solo stack next := by
  have locked : Solo [.run (.locked mutex (destroy conn))] [.run (destroy conn), .unlock mutex] :=
    ⟨_, .lock, fun _ _ => List.not_mem_nil⟩
  have holds : held [.unlock mutex] ≠ [] := List.cons_ne_nil mutex []
  obtain ⟨stack, reached, stuck⟩ := stuck_of_destroy conn holds
  exact ⟨stack, reached.head locked, stuck⟩

/-- Each operation that destroys a connection under a mutex is such a one. -/
theorem Operation.stuck_of_released {operation : Operation} {conn : ConnRef}
    (released : operation.released = some conn) :
    ∃ stack, Relation.ReflTransGen Solo [.run operation.program] stack ∧ held stack ≠ [] ∧
      ∀ next, ¬ Solo stack next := by
  cases operation with
  | unwound other | setOnCallDispatch other =>
    obtain rfl : other = some conn := released
    exact stuck_of_locked .context conn
  | setOnInvalidLogin owner other =>
    obtain rfl : other = some conn := released
    exact stuck_of_locked (.connection owner) conn
  | receiveReply other =>
    obtain rfl : other = some conn := released
    obtain ⟨stack, reached, stuck⟩ := stuck_of_locked .client conn
    exact ⟨stack, reached.head (solo_of_none .first), stuck⟩
  | _ => cases released

/-- Whatever threads do with the library, those which hold its mutexes come to the ends of their
regions, exactly if no reference that is released under a mutex is the last one to a connection. -/
theorem regionsEnd_iff (operations : Set Operation) :
    (∀ history (s : ℕ → List (LockFrame Mutex)), Run (lockMachine Operation.program) history s →
      (∀ thread operation, .began thread operation ∈ history → operation ∈ operations) →
        RegionsEnd Operation.program s) ↔ ∀ operation ∈ operations, operation.released = none := by
  constructor
  · intro ends operation mem
    by_contra destroys
    obtain ⟨conn, released⟩ := Option.ne_none_iff_exists'.mp destroys
    obtain ⟨stack, reached, holds, stuck⟩ := Operation.stuck_of_released released
    obtain ⟨history, run, only⟩ := run_alone 0 operation reached
    refine not_regionsEnd_of_stuck holds stuck (ends history _ run fun thread begun began => ?_)
    rwa [only thread begun began]
  · intro kept history s run within
    exact regionsEnd_of_ordered run fun thread operation began =>
      Operation.ordered (kept operation (within thread operation began))

end Locks

end OpenBus
