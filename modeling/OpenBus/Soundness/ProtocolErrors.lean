import OpenBus.Soundness.ServerVerdict

/-! # The errors of an incoming request

A request that is refused gets an error of the protocol, unless the interceptor meets what its
handlers do not expect: octets which the codec refuses, a public key which OpenSSL refuses, one
whose encryption does not fill the block of a challenge, or a logout of its connection while it asks
the registry. Each test of a request is taken at the state in which it is made.
-/

namespace OpenBus

open Machine

/-- A call of the registry raises what calls of a remote object do. -/
structure RegistryCalls.RaiseCorba (calls : RegistryCalls) : Prop where
  info : ∀ id, Action.Raises (·.isCorba = true) (calls.getLoginInfo id)
  validity : ∀ id, Action.Raises (·.isCorba = true) (calls.getLoginValidity id)

namespace ServerInterceptor

variable {platform : Platform} {world : ServerWorld RegistryCalls} {request : ServerRequest}

/-- The minor codes with which a request may be refused. -/
def refusalCodes : List ULong :=
  [noCredentialCode, unknownBusCode, unverifiedLoginCode, invalidLoginCode, invalidPublicKeyCode,
    invalidCredentialCode, invalidChainCode]

/-- `NO_PERMISSION` with one of these codes and `COMPLETED_NO`. -/
def ProtocolError (e : Exception) : Prop := ∃ minor ∈ refusalCodes, e = .noPermission minor

theorem protocolError_noPermission {minor : ULong} (listed : minor ∈ refusalCodes) :
    ProtocolError (.noPermission minor) := ⟨minor, listed, rfl⟩

theorem ProtocolError.isCorba {e : Exception} (error : ProtocolError e) : e.isCorba = true := by
  obtain ⟨minor, -, rfl⟩ := error
  rfl

theorem not_protocolError_fault : ¬ ProtocolError .fault := fun error => by cases error.isCorba

/-- What `decode_value` reports is none of these errors. -/
theorem not_protocolError_of_refused (codec : platform.CodecRefuses) {data : OctetSeq}
    {type : TypeCode} {e : Exception} (refused : platform.decodeValue data type = .error e) :
    ¬ ProtocolError e := by
  rintro ⟨minor, -, rfl⟩
  rcases codec _ _ _ refused with other | other <;> cases other

/-- The octets that stand for the credential are one. -/
def ReadableCredential (platform : Platform) (request : ServerRequest) (protocol : Protocol) :
    Prop :=
  ∀ data, request.contexts protocol.credentialContextId = some data →
    ∃ any, platform.decodeValue data (.credentialData protocol) = .ok any

theorem getCredential_protocolError_iff (codec : platform.CodecRefuses) {protocol : Protocol} :
    (∀ e, getCredential platform request protocol = .error e → ProtocolError e) ↔
      ReadableCredential platform request protocol := by
  unfold getCredential ReadableCredential
  cases request.contexts protocol.credentialContextId with
  | none =>
    have listed : ProtocolError (.noPermission noCredentialCode) :=
      protocolError_noPermission (by decide)
    simpa using listed
  | some data =>
    cases decoded : platform.decodeValue data (.credentialData protocol) with
    | error e =>
      have unlisted := not_protocolError_of_refused codec decoded
      rcases codec _ _ _ decoded with rfl | rfl <;> simpa [decoded] using unlisted
    | ok any => simp [decoded]

/-- A callback may throw, but it does not end the program. -/
def CallbackEnds (world : ServerWorld RegistryCalls) (request : ServerRequest) (credential : CredentialData)
    (s : Dispatch) : Prop :=
  ∀ callback, world.onCallDispatch = some callback →
    (callback credential.bus credential.login request.operation s.orb).1 ≠ .error .fault

theorem callDispatch_raisesFrom_iff {credential : CredentialData} {s : Dispatch} :
    Action.RaisesFrom ProtocolError
        (callDispatch world request credential.bus credential.login) s ↔
      CallbackEnds world request credential s := by
  unfold callDispatch CallbackEnds
  cases world.onCallDispatch with
  | none => simp
  | some callback =>
    rcases called : callback credential.bus credential.login request.operation s.orb with ⟨e | c, t⟩
    · cases e <;> simp [Action.RaisesFrom, Action.tryCatch_apply, Dispatch.onOrb, Action.zoom,
        called, Exception.isCatchable, ProtocolError, Exception.noPermission]
    · simp [Action.RaisesFrom, Action.tryCatch_apply, Dispatch.onOrb, Action.zoom, called]

theorem chooseConnection_raises (busid : Identifier) (chosen : Option ConnRef) :
    Action.Raises ProtocolError (chooseConnection world busid chosen) := by
  have unknownBus : ProtocolError (.noPermission unknownBusCode) :=
    protocolError_noPermission (by decide)
  refine .bind .get fun d => ?_
  split
  · exact .throw unknownBus
  · exact .ite (.throw unknownBus) (.bind (.modify _) fun _ => .pure _)

/-- What the registry tells of a login that is not cached finds the cache of the connection where it
was, and includes a public key, unless the login is cached by then. -/
def ReadableKey (platform : Platform) (calls : RegistryCalls) (conn : ConnRef) (id : Identifier)
    (orb : Orb) : Prop :=
  ∃ cache, (orb.connections conn).loginCache = some cache ∧
    (cache.find id = none → ∀ answer after,
      calls.getLoginInfo id (orb.setLoginCache conn (cache.fetch id).2) = (.ok answer, after) →
      answer.cacheKept = true ∧
      ∃ kept, (after.connections conn).loginCache = some kept ∧
        (kept.find id = none → ∃ pubKey, platform.byteSeq2PubKey answer.value.2 = .ok pubKey))

section Validation

variable {calls : RegistryCalls} {conn : ConnRef} {id : Identifier} {orb : Orb}

theorem checkValidity_raises (answers : calls.RaiseCorba) (login : Login) :
    Action.Raises (·.isCorba = true) (RegistryCalls.checkValidity calls conn id login) := by
  unfold RegistryCalls.checkValidity
  refine .ite (.pure _) (.bind (answers.validity id) fun validity => ?_)
  split
  · exact .bind (.modify _) fun _ => .pure _
  · exact .pure _

theorem loginCache_bind_raisesFrom_iff {α : Type} {f : LoginCache → Action Orb Exception α} :
    Action.RaisesFrom (·.isCorba = true) (RegistryCalls.loginCache conn >>= f) orb ↔
      ∃ cache, (orb.connections conn).loginCache = some cache ∧
        Action.RaisesFrom (·.isCorba = true) (f cache) orb := by
  rw [Action.raisesFrom_bind_iff, RegistryCalls.loginCache, Action.raisesFrom_get_bind_iff]
  simp only [Action.bind_apply, Action.get_apply]
  cases (orb.connections conn).loginCache with
  | none => simp [Exception.isCorba]
  | some cache => simp

theorem enterLogin_raisesFrom_iff (keys : platform.KeysRefuse) {told : LoginInfo × OctetSeq} :
    Action.RaisesFrom (·.isCorba = true) (RegistryCalls.enterLogin platform calls conn id told)
        orb ↔
      ∃ kept, (orb.connections conn).loginCache = some kept ∧
        (kept.find id = none → ∃ pubKey, platform.byteSeq2PubKey told.2 = .ok pubKey) := by
  unfold RegistryCalls.enterLogin
  rw [loginCache_bind_raisesFrom_iff]
  refine exists_congr fun kept => and_congr_right fun _ => ?_
  have fetched := LRUCache.fetch_fst kept id
  rcases fetch : kept.fetch id with ⟨again, moved⟩
  obtain rfl : again = kept.find id := by rw [← fetched, fetch]
  dsimp only
  rw [Action.raisesFrom_modify_bind_iff]
  cases kept.find id with
  | some again => simp
  | none =>
    rw [Action.raisesFrom_bind_iff, Action.raisesFrom_ofExcept_iff]
    cases read : platform.byteSeq2PubKey told.2 with
    | error e =>
      obtain rfl := keys _ _ read
      simp [Exception.isCorba]
    | ok pubKey => simp

theorem requestLogin_raisesFrom_iff (keys : platform.KeysRefuse) (answers : calls.RaiseCorba) :
    Action.RaisesFrom (·.isCorba = true) (RegistryCalls.requestLogin platform calls conn id) orb ↔
      ∀ answer after, calls.getLoginInfo id orb = (.ok answer, after) →
        answer.cacheKept = true ∧
        ∃ kept, (after.connections conn).loginCache = some kept ∧
          (kept.find id = none →
            ∃ pubKey, platform.byteSeq2PubKey answer.value.2 = .ok pubKey) := by
  unfold RegistryCalls.requestLogin
  rw [Action.raisesFrom_attempt_bind_iff]
  rcases asked : calls.getLoginInfo id orb with ⟨e | answer, after⟩
  · have corba : e.isCorba = true := answers.info id _ _ e asked
    refine iff_of_true ?_ fun _ _ impossible => by cases impossible
    dsimp only
    split
    · exact Action.raisesFrom_pure none after
    · next same =>
      cases same
      exact Action.raisesFrom_throw_iff.mpr corba
    · next impossible => cases impossible
  · simp only [Prod.mk.injEq, Except.ok.injEq]
    cases kept : answer.cacheKept with
    | false => simp [kept, Exception.isCorba]
    | true =>
      rw [if_pos rfl, enterLogin_raisesFrom_iff keys]
      constructor
      · rintro entered _ _ ⟨rfl, rfl⟩
        exact ⟨kept, entered⟩
      · exact fun entered => (entered answer after ⟨rfl, rfl⟩).2

theorem validateLogin_raisesFrom_iff (keys : platform.KeysRefuse) (answers : calls.RaiseCorba) :
    Action.RaisesFrom (·.isCorba = true) (RegistryCalls.validateLogin platform calls conn id) orb ↔
      ReadableKey platform calls conn id orb := by
  unfold RegistryCalls.validateLogin ReadableKey
  rw [loginCache_bind_raisesFrom_iff]
  refine exists_congr fun cache => and_congr_right fun _ => ?_
  have fetched := LRUCache.fetch_fst cache id
  rcases fetch : cache.fetch id with ⟨cached, moved⟩
  obtain rfl : cached = cache.find id := by rw [← fetched, fetch]
  dsimp only
  rw [Action.raisesFrom_modify_bind_iff]
  cases cache.find id with
  | some login =>
    refine iff_of_true (checkValidity_raises answers login _) fun absent => ?_
    cases absent
  | none =>
    rw [Action.raisesFrom_bind_iff, requestLogin_raisesFrom_iff keys answers]
    simp only [true_implies]
    refine and_iff_left fun found after _ => ?_
    cases found with
    | none => exact Action.raisesFrom_pure none after
    | some login => exact checkValidity_raises answers login after

end Validation

/-- The handlers around `validateLogin` expect the exceptions of CORBA. -/
theorem validationResult_protocolError_iff {result : Except Exception (Option Login)} :
    (∀ e, validationResult result = .error e → ProtocolError e) ↔
      ∀ e, result = .error e → e.isCorba = true := by
  have unknownBus : ProtocolError (.noPermission unknownBusCode) :=
    protocolError_noPermission (by decide)
  have unverified : ProtocolError (.noPermission unverifiedLoginCode) :=
    protocolError_noPermission (by decide)
  unfold validationResult
  split
  · simp
  · split <;> simp [unknownBus, Exception.isCorba]
  · next e other =>
    cases corba : e.isCorba
    · have unlisted : ¬ ProtocolError e := fun listed => by simp [listed.isCorba] at corba
      simp [corba, unlisted]
    · simp [corba, unverified]

theorem validateCaller_raisesFrom_iff (keys : platform.KeysRefuse)
    (answers : world.registry.RaiseCorba) {conn : ConnRef} {login : Identifier} {s : Dispatch} :
    Action.RaisesFrom ProtocolError (Calling.validateCaller platform world conn login) s ↔
      ReadableKey platform world.registry conn login s.orb := by
  rw [← validateLogin_raisesFrom_iff keys answers]
  unfold Calling.validateCaller
  rw [Action.raisesFrom_attempt_bind_iff, Action.raisesFrom_ofExcept_iff,
    validationResult_protocolError_iff]
  constructor
  · exact fun corba t e raised => corba e (congrArg Prod.fst raised)
  · exact fun corba e raised => corba.of_fst raised

/-- What the key of the caller makes of the secret fills the block of a challenge. -/
def FillsBlock (platform : Platform) (world : ServerWorld RegistryCalls) (caller : Login) : Prop :=
  256 ≤ (platform.encrypt caller.pubKey world.nonce world.secret.toList).length

/-- The connection is logged in, and the challenge can be built. -/
def Challenges (platform : Platform) (world : ServerWorld RegistryCalls) (caller : Login)
    (conn : Connection) : Prop :=
  conn.loginInfo ≠ none ∧ FillsBlock platform world caller

theorem sendCredentialReset_raisesFrom_iff {protocol : Protocol} {conn : ConnRef} {caller : Login}
    {s : Dispatch} :
    Action.RaisesFrom ProtocolError (sendCredentialReset platform world protocol conn caller) s ↔
      Challenges platform world caller (s.orb.connections conn) := by
  have invalidCredential : ProtocolError (.noPermission invalidCredentialCode) :=
    protocolError_noPermission (by decide)
  unfold sendCredentialReset Challenges
  simp only [Action.raisesFrom_modify_bind_iff, Action.raisesFrom_get_bind_iff,
    Dispatch.setSessions, Dispatch.updateOrb, Orb.setSessions]
  cases (s.orb.connections conn).loginInfo with
  | none => simpa using not_protocolError_fault
  | some login =>
    rw [Action.raisesFrom_bind_iff, Action.raisesFrom_ofExcept_iff]
    refine (and_iff_left fun challenge t _ =>
      Action.raisesFrom_throw_iff.mpr invalidCredential).trans ?_
    unfold memcpy FillsBlock
    split
    · next long =>
      refine iff_of_true (fun e impossible => ?_) ⟨Option.some_ne_none login, long⟩
      cases impossible
    · next short =>
      exact iff_of_false (fun listed => not_protocolError_fault (listed .fault rfl))
        fun challenges => short challenges.2

/-- A chain that is nonempty and verified is one. For one of version 2.0 the connection is logged
in, and a chain for another entity is answered with a challenge. -/
def ReadableChain (platform : Platform) (world : ServerWorld RegistryCalls) (protocol : Protocol)
    (credential : CredentialData) (caller : Login) (conn : Connection) : Prop :=
  credential.chain.encoded ≠ [] → ∃ buskey, conn.buskey = some buskey ∧
    (platform.verify buskey credential.chain.signature
        (platform.sha256 credential.chain.encoded) = true →
      match protocol with
      | .current => ∃ chain, Orb.decodeChainData platform credential.chain = .ok chain
      | .legacy => ∃ chain, Orb.decodeLegacyChainData platform credential.chain = .ok chain ∧
          ∃ login, conn.loginInfo = some login ∧
            (chain.target ≠ login.entity → FillsBlock platform world caller))

theorem decode_protocolError_iff (codec : platform.CodecRefuses) {α : Type} {f : Any → α}
    {data : OctetSeq} {type : TypeCode} :
    (∀ e, (platform.decodeValue data type).map f = .error e → ProtocolError e) ↔
      ∃ value, (platform.decodeValue data type).map f = .ok value := by
  cases decoded : platform.decodeValue data type with
  | error e =>
    have unlisted := not_protocolError_of_refused codec decoded
    simpa [Except.map] using unlisted
  | ok any => simp [Except.map]

theorem checkLegacyChain_raisesFrom_iff {chain : LegacyCallChain} {caller : Login} {conn : ConnRef}
    {s : Dispatch} :
    Action.RaisesFrom ProtocolError (checkLegacyChain platform world chain caller conn) s ↔
      ∃ login, (s.orb.connections conn).loginInfo = some login ∧
        (chain.target ≠ login.entity → FillsBlock platform world caller) := by
  unfold checkLegacyChain
  rw [Action.raisesFrom_get_bind_iff]
  cases info : (s.orb.connections conn).loginInfo with
  | none => simpa [info] using not_protocolError_fault
  | some login =>
    simp only [Option.some.injEq, exists_eq_left']
    by_cases other : chain.target ≠ login.entity
    · rw [if_pos other, Action.raisesFrom_bind_iff, sendCredentialReset_raisesFrom_iff]
      simp [other, Challenges, info]
    · rw [if_neg other]
      simp [other]

theorem validateChain_raisesFrom_iff (codec : platform.CodecRefuses) {protocol : Protocol}
    {credential : CredentialData} {caller : Login} {conn : ConnRef} {s : Dispatch} :
    Action.RaisesFrom ProtocolError
        (validateChain platform world protocol credential caller conn) s ↔
      ReadableChain platform world protocol credential caller (s.orb.connections conn) := by
  unfold validateChain ReadableChain
  by_cases empty : credential.chain.encoded = []
  · simp [empty]
  rw [if_neg (mt List.length_eq_zero_iff.mp empty), Action.raisesFrom_get_bind_iff]
  rcases (s.orb.connections conn).buskey with _ | buskey
  · simpa [empty] using not_protocolError_fault
  simp only [ne_eq, empty, not_false_eq_true, forall_const, Option.some.injEq, exists_eq_left']
  by_cases verified : platform.verify buskey credential.chain.signature
      (platform.sha256 credential.chain.encoded) = true
  · simp only [verified, if_true, forall_const]
    cases protocol with
    | current =>
      rw [Action.raisesFrom_bind_iff, Action.raisesFrom_ofExcept_iff]
      refine (and_iff_left fun chain t _ => Action.raisesFrom_pure _ t).trans ?_
      exact decode_protocolError_iff codec
    | legacy =>
      rw [Action.raisesFrom_bind_iff, Action.raisesFrom_ofExcept_iff]
      constructor
      · rintro ⟨decodes, checks⟩
        obtain ⟨chain, decoded⟩ := (decode_protocolError_iff codec).mp decodes
        refine ⟨chain, decoded, ?_⟩
        exact checkLegacyChain_raisesFrom_iff.mp (checks chain s (Prod.ext decoded rfl))
      · rintro ⟨chain, decoded, fills⟩
        refine ⟨(decode_protocolError_iff codec).mpr ⟨chain, decoded⟩, ?_⟩
        rintro other t same
        rw [Action.ofExcept_apply, decoded] at same
        cases same
        exact checkLegacyChain_raisesFrom_iff.mpr fills
  · simp [verified]

/-- The tests of a credential meet nothing that their handlers do not expect. The key is asked for
in the state `d` which the callback leaves, the rest is tested in the state `u` which the registry
leaves. -/
structure Foreseen (platform : Platform) (world : ServerWorld RegistryCalls)
    (request : ServerRequest) (protocol : Protocol) (credential : CredentialData)
    (s : Dispatch) : Prop where
  callback : CallbackEnds world request credential s
  key : ∀ d ref, Reaches world request credential s d ref →
    ReadableKey platform world.registry ref credential.login (saveDispatcherConnection world ref d).orb
  block : ∀ d u ref caller, Reaches world request credential s d ref →
    Calling.Validated platform world credential.login d u ref caller →
    ¬ SessionAccepts platform request protocol credential u.sessions →
    Challenges platform world caller (u.orb.connections ref)
  chain : ∀ d u ref caller, Reaches world request credential s d ref →
    Calling.Validated platform world credential.login d u ref caller →
    SessionAccepts platform request protocol credential u.sessions →
    ReadableChain platform world protocol credential caller (u.orb.connections ref)

theorem authenticateWith_raisesFrom_iff (keys : platform.KeysRefuse)
    (answers : world.registry.RaiseCorba) {protocol : Protocol} {credential : CredentialData}
    {s : Dispatch} :
    Action.RaisesFrom ProtocolError (authenticateWith platform world request
        (Calling.validateCaller platform world) protocol credential) s ↔
      CallbackEnds world request credential s ∧
      ∀ d ref, Reaches world request credential s d ref →
        ReadableKey platform world.registry ref credential.login
          (saveDispatcherConnection world ref d).orb := by
  have dispatching : Action.RaisesFrom ProtocolError
      (getDispatcherConnection world request credential.bus credential.login) s ↔
        CallbackEnds world request credential s := by
    rw [getDispatcherConnection, Action.raisesFrom_bind_iff, callDispatch_raisesFrom_iff]
    exact and_iff_left fun chosen d _ => chooseConnection_raises credential.bus chosen d
  rw [authenticateWith, Action.raisesFrom_bind_iff, dispatching]
  refine and_congr_right fun _ => ?_
  constructor
  · intro prepared d ref reaches
    have validating := prepared ref _ (getDispatcherConnection_reaches_iff.mpr ⟨d, reaches, rfl⟩)
    exact (validateCaller_raisesFrom_iff keys answers).mp
      (Action.raisesFrom_bind_iff.mp validating).1
  · intro prepared ref t dispatched
    obtain ⟨d, reaches, rfl⟩ := getDispatcherConnection_reaches_iff.mp dispatched
    refine Action.raisesFrom_bind_iff.mpr
      ⟨(validateCaller_raisesFrom_iff keys answers).mpr (prepared d ref reaches), fun found u _ => ?_⟩
    cases found with
    | none => exact Action.raisesFrom_throw_iff.mpr (protocolError_noPermission (by decide))
    | some caller =>
      have checks : Action.Raises ProtocolError
          (checkSession platform request protocol credential >>= fun valid =>
            pure (ref, caller, valid)) :=
        .bind (checkSession_raises platform request _ _ _) fun _ => .pure _
      exact checks u

theorem handleCredential_raisesFrom_iff (codec : platform.CodecRefuses)
    (keys : platform.KeysRefuse) (answers : world.registry.RaiseCorba) {protocol : Protocol}
    {credential : CredentialData} {s : Dispatch} :
    Action.RaisesFrom ProtocolError
        (Calling.handleCredential platform world request protocol credential) s ↔
      Foreseen platform world request protocol credential s := by
  rw [Calling.handleCredential, handleCredentialWith, Action.raisesFrom_bind_iff,
    authenticateWith_raisesFrom_iff keys answers]
  constructor
  · rintro ⟨⟨callback, key⟩, judging⟩
    refine ⟨callback, key, ?_, ?_⟩
    · intro d u ref caller reaches validated refused
      have authentic := Calling.authenticateWith_ok_iff.mpr
        ⟨d, u, reaches, validated, iff_of_false Bool.false_ne_true refused, rfl⟩
      have challenges := sendCredentialReset_raisesFrom_iff.mp (judging _ _ authentic)
      exact challenges
    · intro d u ref caller reaches validated accepted
      have authentic := Calling.authenticateWith_ok_iff.mpr
        ⟨d, u, reaches, validated, iff_of_true rfl accepted, rfl⟩
      have readable := (validateChain_raisesFrom_iff codec).mp
        (Action.raisesFrom_bind_iff.mp (judging _ _ authentic)).1
      exact readable
  · rintro ⟨callback, key, block, chain⟩
    refine ⟨⟨callback, key⟩, ?_⟩
    rintro ⟨ref, caller, valid⟩ t authentic
    obtain ⟨d, u, reaches, validated, verdict, rfl⟩ := Calling.authenticateWith_ok_iff.mp authentic
    cases valid with
    | false =>
      have refused := mt verdict.mpr Bool.false_ne_true
      exact sendCredentialReset_raisesFrom_iff.mpr (block d u ref caller reaches validated refused)
    | true =>
      have readable := chain d u ref caller reaches validated (verdict.mp rfl)
      refine Action.raisesFrom_bind_iff.mpr
        ⟨(validateChain_raisesFrom_iff codec).mpr readable, fun fits v _ => ?_⟩
      cases fits with
      | false => exact Action.raisesFrom_throw_iff.mpr (protocolError_noPermission (by decide))
      | true => exact Action.Raises.modify _ v

/-- A request fails with errors of the protocol only, exactly if the credential it carries can be
read and its tests meet nothing unforeseen. -/
theorem receiveRequestServiceContexts_protocolError_iff (codec : platform.CodecRefuses)
    (keys : platform.KeysRefuse) (answers : world.registry.RaiseCorba) (s : Dispatch) :
    Action.RaisesFrom ProtocolError
        (Calling.receiveRequestServiceContexts platform world request) s ↔
      ReadableCredential platform request (judged request) ∧
      ∀ credential, getCredential platform request (judged request) = .ok credential →
        Foreseen platform world request (judged request) credential s := by
  have same : Action.RaisesFrom ProtocolError
      (Calling.receiveRequestServiceContexts platform world request) s ↔
        Action.RaisesFrom ProtocolError (receiveCredentialWith platform world request
          (Calling.validateCaller platform world) (judged request)) s := by
    simp only [Action.RaisesFrom, Calling.receiveRequestServiceContexts_eq codec]
  rw [same, receiveCredentialWith, Action.raisesFrom_bind_iff, Action.raisesFrom_ofExcept_iff,
    getCredential_protocolError_iff codec]
  refine and_congr_right fun _ => ?_
  constructor
  · intro foreseen credential present
    exact (handleCredential_raisesFrom_iff codec keys answers).mp
      (foreseen credential s (Prod.ext present rfl))
  · intro foreseen credential t read
    obtain ⟨present, rfl⟩ := Prod.mk.inj read
    exact (handleCredential_raisesFrom_iff codec keys answers).mpr (foreseen credential present)

namespace Reference

theorem registry_raiseCorba : registry.calls.RaiseCorba where
  info _ _ _ _ raised := by cases raised
  validity _ _ _ _ raised := by cases raised

/-- The registry tells of a login without a public key. -/
def keyless : ServerWorld :=
  { environment with
    registry := { registry with getLoginInfo := fun id => .ok (⟨id, ascii "C"⟩, []) } }

/-- While the registry is asked for the login of a request, the connection is logged out. -/
def interrupted : ServerWorld RegistryCalls :=
  { environment.calling with
    registry := { registry.calls with
      getLoginInfo := fun id => do
        modify (Orb.logoutSection 0)
        return ⟨(⟨id, ascii "C"⟩, [3]), false⟩ } }

/-- A platform to which no octets are no public key. -/
def strictPlatform : Platform :=
  { referencePlatform with
    byteSeq2PubKey := fun data => if data = [] then .error .invalidPublicKey else .ok ⟨data⟩ }

/-- A request with a service context that is no credential. -/
def garbled : ServerRequest :=
  ⟨ascii "op", Function.update (fun _ => none) Protocol.current.credentialContextId (some [])⟩

end Reference

/-- A request without a session is answered with one, as it should. -/
theorem receiveRequestServiceContexts_protocolError_first :
    ReadableCredential referencePlatform (Reference.requestOf Reference.firstCredential)
        (judged (Reference.requestOf Reference.firstCredential)) ∧
      ∀ credential, getCredential referencePlatform (Reference.requestOf Reference.firstCredential)
          (judged (Reference.requestOf Reference.firstCredential)) = .ok credential →
        Foreseen referencePlatform Reference.environment.calling
          (Reference.requestOf Reference.firstCredential)
          (judged (Reference.requestOf Reference.firstCredential)) credential
          (.arrival Reference.orb) := by
  have keys : referencePlatform.KeysRefuse := fun _ _ refused => by cases refused
  apply (receiveRequestServiceContexts_protocolError_iff ReferencePlatform.codecRefuses keys
    Reference.registry_raiseCorba (.arrival Reference.orb)).mp
  intro t e raised
  have answer : (Reference.handled Reference.environment Reference.firstCredential
      Reference.orb).1 = .error (.noPermission invalidCredentialCode) := by decide +kernel
  rw [Calling.receiveRequestServiceContexts_calling, Reference.received] at raised
  rw [raised] at answer
  cases answer
  exact protocolError_noPermission (by decide)

/-- A malformed public key ends a request with `InvalidPublicKey`, and octets that are no
credential end it with `FormatMismatch`. A logout while the registry is asked leaves the program
with a mutex that has been destroyed. -/
theorem unforeseen_errors_escape :
    ¬ Action.RaisesFrom ProtocolError
        (Calling.receiveRequestServiceContexts Reference.strictPlatform Reference.keyless.calling
          (Reference.requestOf Reference.firstCredential)) (.arrival Reference.orb) ∧
    ¬ Action.RaisesFrom ProtocolError
        (Calling.receiveRequestServiceContexts referencePlatform Reference.environment.calling
          Reference.garbled) (.arrival Reference.orb) ∧
    ¬ Action.RaisesFrom ProtocolError
        (Calling.receiveRequestServiceContexts referencePlatform Reference.interrupted
          (Reference.requestOf Reference.firstCredential)) (.arrival Reference.orb) := by
  have key : (Calling.receiveRequestServiceContexts Reference.strictPlatform
      Reference.keyless.calling (Reference.requestOf Reference.firstCredential)
      (.arrival Reference.orb)).1 = .error .invalidPublicKey := by decide +kernel
  have octets : (Calling.receiveRequestServiceContexts referencePlatform
      Reference.environment.calling Reference.garbled (.arrival Reference.orb)).1 =
        .error .formatMismatch := by decide +kernel
  have lost : (Calling.receiveRequestServiceContexts referencePlatform Reference.interrupted
      (Reference.requestOf Reference.firstCredential) (.arrival Reference.orb)).1 =
        .error .fault := by decide +kernel
  refine ⟨?_, ?_, ?_⟩
  · intro raises
    cases (raises.of_fst key).isCorba
  · intro raises
    obtain ⟨minor, -, same⟩ := raises.of_fst octets
    cases same
  · exact fun raises => not_protocolError_fault (raises.of_fst lost)

end ServerInterceptor

end OpenBus
