import OpenBus.Machine.LockOrder
import OpenBus.Model.Orb

/-! # The mutexes of the library

Of each function, what it locks and what runs while it is locked. What the choices of a function
depend on is left out, and an exception may end it anywhere. A call of the bus, of a callback or of
`boost::thread::join` takes any time. The caches have mutexes of their own only if `_REENTRANT` is
defined, which `lru_cache.hpp` undoes.
-/

namespace OpenBus

open Machine LockProgram

namespace Locks

inductive Mutex where
  /-- That of `orb_init.cpp`. -/
  | orbInit
  | context
  | client
  | server
  | connection (conn : ConnRef)
  /-- Each login of a connection makes a new cache, with a mutex of its own. -/
  | loginCache (cache : ℕ)
  | publicKey (address : ℕ)
  | privateKey (address : ℕ)
deriving DecidableEq

abbrev Program := LockProgram Mutex

/-- `~Connection` logs out locally, and joins the threads that renew. -/
def destroy (conn : ConnRef) : Program := .inOrder [.region (.connection conn), .outside]

/-- Release a reference, which is perhaps the last one to a connection. -/
def release : Option ConnRef → Program
  | none => .skip
  | some conn => destroy conn

def orbInitializer : Program := .region .orbInit

namespace Context

def setDefaultConnection : Program := .region .context

def getDefaultConnection : Program := .region .context

def setCurrentConnection : Program := .region .context

def getCurrentConnection : Program := .inOrder [getDefaultConnection, .region .context]

/-- A section of `setDefaultConnection`, `getDefaultConnection` or `setCurrentConnection` that an
exception ends. What `old`, `def_conn` or `previous` refers to is released under the mutex. -/
def unwound (released : Option ConnRef) : Program := .locked .context (release released)

def onCallDispatch : Program := .region .context

/-- The callback set before is released under the mutex. -/
def setOnCallDispatch (released : Option ConnRef) : Program := .locked .context (release released)

/-- `extract_call_chain` and `extract_legacy_call_chain`; the latter also names the bus. -/
def extractCallChain (conn : ConnRef) : Program :=
  .inOrder [.maybe (.region (.connection conn)), .region (.connection conn)]

def getCallerChain (conn : ConnRef) : Program :=
  .inOrder [getCurrentConnection, .maybe (extractCallChain conn)]

def joinChain (conn : ConnRef) : Program := .maybe (getCallerChain conn)

def getJoinedChain (conn : ConnRef) : Program :=
  .inOrder [getCurrentConnection, .maybe (.region (.connection conn))]

def makeChainFor (conn : ConnRef) : Program :=
  .inOrder [getCurrentConnection,
    .maybe (.inOrder [getJoinedChain conn, .outside, .maybe .outside])]

/-- The certificate of the bus is made into a key. -/
def importChain (busKey : ℕ) : Program :=
  .inOrder [getCurrentConnection,
    .maybe (.inOrder [.outside, .region (.publicKey busKey), .outside])]

/-- `getLoginRegistry` and `getOfferRegistry` -/
def getLoginRegistry : Program := getCurrentConnection

/-- `~OpenBusContext` -/
def destroyContext (conns : List ConnRef) : Program := .inOrder (conns.map destroy)

end Context

namespace Conn

/-- `login`, `_login`, `busid` and `onInvalidLogin` read under the mutex. -/
def read (conn : ConnRef) : Program := .region (.connection conn)

/-- The callback set before is released under the mutex. -/
def setOnInvalidLogin (conn : ConnRef) (released : Option ConnRef) : Program :=
  .locked (.connection conn) (release released)

/-- The facets are got from the bus, and set at once. -/
def loginInit (conn : ConnRef) : Program := .inOrder [.outside, .region (.connection conn)]

/-- `login`, which starts the thread that renews. -/
def login (conn : ConnRef) : Program := .region (.connection conn)

/-- The hash of the own key, and its encryption with that of the bus. -/
def encryptedBlock (key busKey : ℕ) : Program :=
  .inOrder [.region (.privateKey key), .region (.privateKey key), .region (.publicKey busKey)]

def loginByPassword (conn : ConnRef) (key busKey : ℕ) : Program :=
  .inOrder [.region (.connection conn), loginInit conn, encryptedBlock key busKey,
    .region (.privateKey key), .outside, login conn]

/-- The challenge is decrypted with the key of the certificate. -/
def loginByCertificate (conn : ConnRef) (key busKey certificateKey : ℕ) : Program :=
  .inOrder [.region (.connection conn), loginInit conn, .outside,
    .region (.privateKey certificateKey), encryptedBlock key busKey, .region (.privateKey key),
    .outside, login conn]

/-- A legacy process is given the key field by field. -/
def loginBySharedAuth (conn : ConnRef) (key busKey : ℕ) : Program :=
  .inOrder [.region (.connection conn), loginInit conn, read conn, encryptedBlock key busKey,
    .region (.privateKey key),
    .maybe (.inOrder [.region (.privateKey key), .region (.privateKey key)]), .outside, login conn]

/-- The handler cancels the process before it sets the connection back. -/
def startSharedAuth (conn : ConnRef) (key : ℕ) : Program :=
  .inOrder [Context.getCurrentConnection, Context.setCurrentConnection, .outside, .maybe .outside,
    .either Context.setCurrentConnection (.inOrder [.outside, Context.setCurrentConnection]),
    .region (.privateKey key), read conn]

/-- `_logout(true)`. The caches of the interceptors are cleared without their mutexes. -/
def logoutLocal (conn : ConnRef) : Program := .region (.connection conn)

/-- `logout`, of a thread whose current connection is another one. -/
def logout (conn current : ConnRef) : Program :=
  .inOrder [logoutLocal conn,
    .maybe (.inOrder [Context.getCurrentConnection, Context.getJoinedChain current,
      Context.setCurrentConnection, .outside, Context.setCurrentConnection,
      Context.joinChain current])]

/-- Each invalid login is told to the callback, and looked up again. -/
def getLogin (conn : ConnRef) : Program :=
  .inOrder [.region (.connection conn),
    .loop (.inOrder [read conn,
      .either (.region (.connection conn)) (.inOrder [.outside, .region (.connection conn)])])]

/-- The thread that renews, until it is interrupted. -/
def renewLogin : Program := .inOrder [Context.setCurrentConnection, .loop .outside]

end Conn

namespace Client

def getCurrentConnection : Program :=
  .inOrder [.region .context, .maybe Context.getDefaultConnection]

def busid (conn : ConnRef) : Program := .maybe (Conn.read conn)

def getJoinedChain (conn : ConnRef) : Program := .maybe (busid conn)

/-- A chain that is not cached is asked for; the handlers of the call name the bus. -/
def getSignedChain (conn : ConnRef) : Program :=
  .inOrder [.region .client,
    .maybe (.inOrder [.outside, .either (busid conn) (.region .client)])]

def getSession : Program := .region .client

def fillCredential (conn : ConnRef) : Program :=
  .inOrder [busid conn, .maybe (getSignedChain conn)]

def attachCredential (conn : ConnRef) : Program :=
  .inOrder [getSession, getJoinedChain conn, .maybe (fillCredential conn), fillCredential conn]

def sendRequest (conn : ConnRef) : Program :=
  .maybe (.inOrder [getCurrentConnection, .maybe (Conn.getLogin conn), attachCredential conn,
    .region .client])

/-- The entry of the request is erased under the mutex. -/
def receiveReply (released : Option ConnRef) : Program :=
  .maybe (.locked .client (release released))

/-- The session is decrypted, and set under the mutex. -/
def resetSession (key : ℕ) : Program := .inOrder [.region (.privateKey key), .region .client]

def invalidLogin (conn : ConnRef) : Program :=
  .inOrder [.region (.connection conn), Context.getLoginRegistry, .outside,
    .maybe (.inOrder [.region (.connection conn),
      .maybe (.inOrder [Conn.logoutLocal conn, .region (.connection conn)])])]

/-- A reference to the connection is kept, so the entry that is erased never holds the last one. -/
def receiveException (conn : ConnRef) (key : ℕ) : Program :=
  .maybe (.inOrder [.region .client, .maybe (.either (resetSession key) (invalidLogin conn))])

end Client

namespace Server

/-- The session is made, encrypted and answered with the login, all under the mutex. -/
def sendCredentialReset (conn : ConnRef) (callerKey : ℕ) : Program :=
  .locked .server
    (.inOrder [.region (.publicKey callerKey), Conn.read conn, .maybe (Conn.read conn)])

def saveDispatcherConnection : Program :=
  .inOrder [.region .context, Context.setCurrentConnection]

def getDispatcherConnection (conn : ConnRef) : Program :=
  .inOrder [Context.onCallDispatch,
    .maybe (.inOrder [Context.onCallDispatch, .outside, .maybe (Conn.read conn)]),
    .maybe Context.getDefaultConnection, Conn.read conn, .maybe (Conn.read conn),
    saveDispatcherConnection]

/-- The cache is unlocked while the registry is asked. -/
def validateLogin (cache : ℕ) : Program :=
  .inOrder [.region (.loginCache cache),
    .maybe (.inOrder [.outside, .region (.loginCache cache)]), .maybe .outside]

def checkChain (conn : ConnRef) : Program := .maybe (Conn.read conn)

def checkLegacyChain (conn : ConnRef) (callerKey : ℕ) : Program :=
  .inOrder [Conn.read conn, .maybe (sendCredentialReset conn callerKey)]

def validateChain (conn : ConnRef) (busKey callerKey : ℕ) : Program :=
  .maybe (.inOrder [.region (.publicKey busKey),
    .maybe (.either (checkChain conn) (checkLegacyChain conn callerKey))])

def handleCredential (conn : ConnRef) (cache busKey callerKey : ℕ) : Program :=
  .inOrder [getDispatcherConnection conn, validateLogin cache, .region .server,
    .maybe (sendCredentialReset conn callerKey), validateChain conn busKey callerKey]

/-- A request without a credential of version 2.1 is judged by that of version 2.0. -/
def receiveRequestServiceContexts (conn : ConnRef) (cache busKey callerKey : ℕ) : Program :=
  .inOrder [.maybe (handleCredential conn cache busKey callerKey),
    .maybe (handleCredential conn cache busKey callerKey)]

end Server

/-- What the assignment of a key locks: both keys in the order of their addresses, and nothing if
they are the same. -/
def assign (mutex : ℕ → Mutex) (target source : ℕ) : Program :=
  if target = source then .skip
  else .locked (mutex (min target source)) (.region (mutex (max target source)))

/-- What threads may run, with the objects it is about. -/
inductive Operation where
  | orbInitializer
  | setDefaultConnection
  | getDefaultConnection
  | setCurrentConnection
  | getCurrentConnection
  | unwound (released : Option ConnRef)
  | onCallDispatch
  | setOnCallDispatch (released : Option ConnRef)
  | getCallerChain (conn : ConnRef)
  | joinChain (conn : ConnRef)
  | getJoinedChain (conn : ConnRef)
  | makeChainFor (conn : ConnRef)
  | importChain (busKey : ℕ)
  | getLoginRegistry
  | destroyContext (conns : List ConnRef)
  | readConnection (conn : ConnRef)
  | setOnInvalidLogin (conn : ConnRef) (released : Option ConnRef)
  | loginByPassword (conn : ConnRef) (key busKey : ℕ)
  | loginByCertificate (conn : ConnRef) (key busKey certificateKey : ℕ)
  | loginBySharedAuth (conn : ConnRef) (key busKey : ℕ)
  | startSharedAuth (conn : ConnRef) (key : ℕ)
  | logout (conn current : ConnRef)
  | renewLogin
  /-- A reference that is released outside of the regions may be the last one. -/
  | destroy (conn : ConnRef)
  | sendRequest (conn : ConnRef)
  | receiveReply (released : Option ConnRef)
  | receiveException (conn : ConnRef) (key : ℕ)
  | receiveRequestServiceContexts (conn : ConnRef) (cache busKey callerKey : ℕ)
  /-- The copy of a key, and the uses of one that are no part of the other operations. -/
  | readPublicKey (address : ℕ)
  | readPrivateKey (address : ℕ)
  | assignPublicKey (target source : ℕ)
  | assignPrivateKey (target source : ℕ)

namespace Operation

def program : Operation → Program
  | orbInitializer => Locks.orbInitializer
  | setDefaultConnection => Context.setDefaultConnection
  | getDefaultConnection => Context.getDefaultConnection
  | setCurrentConnection => Context.setCurrentConnection
  | getCurrentConnection => Context.getCurrentConnection
  | unwound released => Context.unwound released
  | onCallDispatch => Context.onCallDispatch
  | setOnCallDispatch released => Context.setOnCallDispatch released
  | getCallerChain conn => Context.getCallerChain conn
  | joinChain conn => Context.joinChain conn
  | getJoinedChain conn => Context.getJoinedChain conn
  | makeChainFor conn => Context.makeChainFor conn
  | importChain busKey => Context.importChain busKey
  | getLoginRegistry => Context.getLoginRegistry
  | destroyContext conns => Context.destroyContext conns
  | readConnection conn => Conn.read conn
  | setOnInvalidLogin conn released => Conn.setOnInvalidLogin conn released
  | loginByPassword conn key busKey => Conn.loginByPassword conn key busKey
  | loginByCertificate conn key busKey certificateKey =>
      Conn.loginByCertificate conn key busKey certificateKey
  | loginBySharedAuth conn key busKey => Conn.loginBySharedAuth conn key busKey
  | startSharedAuth conn key => Conn.startSharedAuth conn key
  | logout conn current => Conn.logout conn current
  | renewLogin => Conn.renewLogin
  | destroy conn => Locks.destroy conn
  | sendRequest conn => Client.sendRequest conn
  | receiveReply released => Client.receiveReply released
  | receiveException conn key => Client.receiveException conn key
  | receiveRequestServiceContexts conn cache busKey callerKey =>
      Server.receiveRequestServiceContexts conn cache busKey callerKey
  | readPublicKey address => .region (.publicKey address)
  | readPrivateKey address => .region (.privateKey address)
  | assignPublicKey target source => assign .publicKey target source
  | assignPrivateKey target source => assign .privateKey target source

/-- The connection that the operation destroys while it holds a mutex. -/
def released : Operation → Option ConnRef
  | unwound released | setOnCallDispatch released | setOnInvalidLogin _ released
  | receiveReply released => released
  | _ => none

end Operation

end Locks

end OpenBus
