import OpenBus.Model.LoginCache

/-! # Connections

The state of a connection and the parts of its operations that run under its mutex: the end of
`login_init`, `login` and the first half of `_logout`. Between these parts an operation calls the
bus with the mutex released, so each of them is a step of its own.
-/

namespace OpenBus

/-- The session of a client with one remote login. -/
structure SecretSession where
  id : ULong
  remoteId : Identifier
  entity : Identifier
  secret : Secret
  ticket : ULong
  isLegacy : Bool
deriving DecidableEq

/-- The default constructor. -/
def SecretSession.init : SecretSession := ⟨0, [], [], .replicate 16 0, 0, false⟩

inductive ConnectionState where
  | logged
  | loggedOut
deriving DecidableEq

/-- A connection; a reference that is nil and a scoped pointer that is null are absent. -/
structure Connection where
  key : PrivateKey
  legacySupport : Bool
  iComponent : Option ObjectRef
  accessControl : Option ObjectRef
  loginRegistry : Option ObjectRef
  offerRegistry : Option ObjectRef
  legacyAccessControl : Option ObjectRef
  legacyConverter : Option ObjectRef
  loginCache : Option LoginCache
  busid : Identifier
  buskey : Option PublicKey
  loginInfo : Option LoginInfo
  invalidLogin : Option LoginInfo
  /-- Whether a callback is registered. -/
  onInvalidLogin : Bool
  state : ConnectionState
  profile2login : LRUCache HashValue Identifier
  login2session : LRUCache Identifier SecretSession

/-- What `login_init` obtains from the component before it locks the mutex. -/
structure BusFacets where
  iComponent : ObjectRef
  accessControl : ObjectRef
  loginRegistry : ObjectRef
  offerRegistry : ObjectRef
  legacyAccessControl : ObjectRef
  legacyConverter : ObjectRef
  certificate : PublicKey
deriving DecidableEq

namespace Connection

/-- A connection as its constructors leave it. -/
def init (key : PrivateKey) (legacySupport : Bool) : Connection where
  key := key
  legacySupport := legacySupport
  iComponent := none
  accessControl := none
  loginRegistry := none
  offerRegistry := none
  legacyAccessControl := none
  legacyConverter := none
  loginCache := none
  busid := []
  buskey := none
  loginInfo := none
  invalidLogin := none
  onInvalidLogin := false
  state := .loggedOut
  profile2login := .ofSize 128
  login2session := .ofSize 128

/-- The section of `login_init`. The access control facet answers `busid()` for its bus. -/
def loginInit (facets : BusFacets) (conn : Connection) : Connection :=
  { conn with
    iComponent := some facets.iComponent
    accessControl := some facets.accessControl
    legacyAccessControl := if conn.legacySupport then some facets.legacyAccessControl else none
    legacyConverter := if conn.legacySupport then some facets.legacyConverter else none
    offerRegistry := some facets.offerRegistry
    loginRegistry := some facets.loginRegistry
    busid := facets.accessControl.bus
    loginCache := some .init
    buskey := some facets.certificate }

/-- `login`: refused while logged, which the caller sees as `AlreadyLoggedIn`. -/
def login (info : LoginInfo) (conn : Connection) : Option Connection :=
  match conn.state with
  | .logged => none
  | .loggedOut => some { conn with loginInfo := some info, invalidLogin := none, state := .logged }

/-- The section of `_logout` on the connection itself; a logged out connection is left alone. -/
def logout (conn : Connection) : Connection :=
  match conn.state with
  | .loggedOut => conn
  | .logged =>
      { conn with
        loginInfo := none
        invalidLogin := none
        iComponent := none
        accessControl := none
        offerRegistry := none
        loginRegistry := none
        legacyAccessControl := none
        legacyConverter := none
        busid := []
        loginCache := none
        buskey := none
        profile2login := conn.profile2login.clear
        login2session := conn.login2session.clear
        state := .loggedOut }

theorem login_of_loggedOut {conn : Connection} (out : conn.state = .loggedOut) (info : LoginInfo) :
    conn.login info =
      some { conn with loginInfo := some info, invalidLogin := none, state := .logged } := by
  simp only [login, out]

theorem login_eq_some_iff {conn after : Connection} {info : LoginInfo} :
    conn.login info = some after ↔ conn.state = .loggedOut ∧
      after = { conn with loginInfo := some info, invalidLogin := none, state := .logged } := by
  cases state : conn.state
  · simp [login, state]
  · rw [login_of_loggedOut state, Option.some.injEq, eq_comm]
    simp

theorem logout_of_loggedOut {conn : Connection} (out : conn.state = .loggedOut) :
    conn.logout = conn := by
  simp only [logout, out]

@[simp] theorem state_logout (conn : Connection) : conn.logout.state = .loggedOut := by
  unfold logout
  split <;> simp_all

end Connection

end OpenBus
