import OpenBus.Model.ClientInterceptor

/-! # What each part of the client interceptor does

One lemma a function, as for the server. A request that is sent has found its connection and its
login, then its session, and last its credentials; the lemmas give the state between these
parts, because the calls to the bus which an ORB makes on the way can change it.
-/

namespace OpenBus

open Machine

namespace Invocation

variable {α : Type}

theorem onOrb_apply (action : Action Orb Exception α) (s : Invocation) :
    onOrb action s = ((action s.orb).1, { s with orb := (action s.orb).2 }) := rfl

end Invocation

namespace ClientInterceptor

variable {platform : Platform} {world : ClientWorld} {request : ClientRequest}

/-- Finding the connection of a request touches nothing but the map of connections. -/
theorem getCurrentConnection_snd (orb : Orb) :
    ∃ id2conn, (getCurrentConnection orb).2 = { orb with id2conn := id2conn } := by
  unfold getCurrentConnection
  split
  next found after same =>
  have only : ∃ id2conn, after = { orb with id2conn := id2conn } := by
    split at same
    · exact ⟨orb.id2conn, (Prod.mk.inj same).2.symm⟩
    · split at same
      · exact ⟨orb.id2conn, (Prod.mk.inj same).2.symm⟩
      · exact ⟨_, (Prod.mk.inj same).2.symm⟩
  split <;> exact only

/-- A request goes through the current connection of its context, or through the default one. -/
theorem getCurrentConnection_fst (orb : Orb) :
    (getCurrentConnection orb).1 = match orb.getCurrentConnection.or orb.getDefaultConnection with
      | some ref => .ok ref
      | none => .error (.noPermission noLoginCode) := by
  unfold getCurrentConnection Orb.getCurrentConnection
  cases (orb.piCurrent .currentConnection).toUuid? with
  | none =>
    rcases default : orb.getDefaultConnection <;> simp [default]
  | some id =>
    dsimp only
    cases orb.id2conn id with
    | none =>
      have same : Orb.getDefaultConnection
          { orb with id2conn := Function.update orb.id2conn id (some none) } =
        orb.getDefaultConnection := rfl
      simp only [Option.none_or, same]
      rcases orb.getDefaultConnection <;> rfl
    | some pointer =>
      dsimp only
      rcases (orb.lock pointer).or orb.getDefaultConnection <;> rfl

theorem sendRequest_ok_iff {s t : Invocation} (attends : ignoreRequest s.orb = false) :
    sendRequest platform world request s = (.ok (), t) ↔
      ∃ ref found login logged u, getCurrentConnection s.orb = (.ok ref, found) ∧
        currLogin world ref found = (.ok login, logged) ∧ login.id ≠ [] ∧
        attachCredential platform world request ref login.id { s with orb := logged } =
          (.ok (), u) ∧
        u.updateOrb (saveRequestConnection world ref) = t := by
  simp only [sendRequest, Action.bind_apply, Action.get_apply, attends, Bool.false_eq_true,
    if_false, Invocation.onOrb_apply]
  rcases getCurrentConnection s.orb with ⟨e | ref, found⟩
  · simp
  rcases logging : currLogin world ref found with ⟨e | login, logged⟩
  · simp [logging]
  by_cases identified : login.id = []
  · simp [logging, identified]
  · rcases attached : attachCredential platform world request ref login.id
      { s with orb := logged } with ⟨e | u, t'⟩ <;>
      simp [logging, identified, attached, Action.bind_apply]

/-- The credential of a request over a session, and the state after the chain has been found. -/
theorem sessionCredential_ok_iff {protocol : Protocol} {ref : ConnRef} {bus login : Identifier}
    {chain : CallerChain} {key : Identifier} {session : SecretSession} {orb after : Orb}
    {credential : CredentialData} :
    sessionCredential platform world request protocol ref bus login chain key session orb =
        (.ok credential, after) ↔
      ∃ signedChain,
        credentialChain platform world protocol ref login chain
            { session with ticket := session.ticket + 1 }
            (orb.setLogin2session ref ((orb.connections ref).login2session.assign key
              { session with ticket := session.ticket + 1 })) = (.ok signedChain, after) ∧
        credential = ⟨bus, login, session.id, session.ticket + 1,
          hash platform protocol request.operation (session.ticket + 1) session.secret,
          signedChain⟩ := by
  simp only [sessionCredential, Action.bind_apply, Action.modify_apply]
  rcases credentialChain platform world protocol ref login chain
      { session with ticket := session.ticket + 1 }
      (orb.setLogin2session ref ((orb.connections ref).login2session.assign key
        { session with ticket := session.ticket + 1 })) with ⟨e | signedChain, u⟩
  · simp
  · simp only [Action.pure_apply, Prod.mk.injEq, Except.ok.injEq]
    grind

/-- An invocation with one more credential attached. -/
def withCredential (platform : Platform) (protocol : Protocol) (credential : CredentialData) :
    Invocation → Invocation :=
  Invocation.addRequestServiceContext protocol.credentialContextId
    (platform.encodeValue (.credentialData protocol credential))

variable (platform world request) in
theorem fillCredential_none (protocol : Protocol) (ref : ConnRef) (login : Identifier)
    (chain : CallerChain) (s : Invocation) :
    fillCredential platform world request protocol ref login chain none s =
      (.ok (), withCredential platform protocol (emptyCredential (busid s.orb ref) login) s) := rfl

theorem fillCredential_some_ok_iff {protocol : Protocol} {ref : ConnRef} {login : Identifier}
    {chain : CallerChain} {key : Identifier} {session : SecretSession} {s t : Invocation} :
    fillCredential platform world request protocol ref login chain (some (key, session)) s =
        (.ok (), t) ↔
      ∃ credential after,
        sessionCredential platform world request protocol ref (busid s.orb ref) login chain key
          session s.orb = (.ok credential, after) ∧
        withCredential platform protocol credential { s with orb := after } = t := by
  simp only [fillCredential, Action.bind_apply, Action.get_apply, Invocation.onOrb_apply]
  rcases sessionCredential platform world request protocol ref (busid s.orb ref) login chain key
    session s.orb with ⟨e | credential, after⟩
  · simp
  · simp only [Action.modify_apply, Prod.mk.injEq, true_and]
    constructor
    · intro same
      exact ⟨credential, after, ⟨rfl, rfl⟩, same⟩
    · rintro ⟨_, _, ⟨same, rfl⟩, final⟩
      cases same
      exact final

/-- How credentials are attached: both empty ones, or one over the session of the profile. -/
theorem attachCredential_ok_iff {ref : ConnRef} {login : Identifier} {s t : Invocation} :
    attachCredential platform world request ref login s = (.ok (), t) ↔
      ∃ found orb chain, getSession platform request ref s.orb = (.ok found, orb) ∧
        getJoinedChain platform ref orb = .ok chain ∧
        match found with
        | none =>
          withCredential platform .legacy (emptyCredential (busid orb ref) login)
            (withCredential platform .current (emptyCredential (busid orb ref) login)
              { s with orb := orb }) = t
        | some (key, session) => ∃ credential after,
          sessionCredential platform world request (usedProtocol session chain) ref
            (busid orb ref) login chain key session orb = (.ok credential, after) ∧
          withCredential platform (usedProtocol session chain) credential
            { s with orb := after } = t := by
  simp only [attachCredential, Action.bind_apply, Action.get_apply, Invocation.onOrb_apply,
    Action.ofExcept_apply]
  rcases getSession platform request ref s.orb with ⟨e | found, orb⟩
  · simp
  rcases joined : getJoinedChain platform ref orb with e | chain
  · simp [joined]
  rcases found with _ | ⟨key, session⟩
  · simp only [joined, Action.bind_apply, fillCredential_none, Prod.mk.injEq, true_and]
    constructor
    · intro same
      exact ⟨none, orb, chain, ⟨rfl, rfl⟩, joined, same⟩
    · rintro ⟨_, _, _, ⟨same, rfl⟩, -, final⟩
      cases same
      exact final
  · simp only [joined]
    change fillCredential platform world request (usedProtocol session chain) ref login chain
      (some (key, session)) { s with orb := orb } = (.ok (), t) ↔ _
    rw [fillCredential_some_ok_iff]
    constructor
    · rintro ⟨credential, after, filled, final⟩
      exact ⟨some (key, session), orb, chain, rfl, joined, credential, after, filled, final⟩
    · rintro ⟨_, _, _, same, chained, rest⟩
      cases same
      rw [joined] at chained
      cases chained
      exact rest

/-- The session that a connection has cached for the profile of a request. -/
def cachedSession (platform : Platform) (request : ClientRequest) (conn : Connection) :
    Option (Identifier × SecretSession) :=
  let remoteId := (conn.profile2login.find (sessionKey platform request)).getD []
  if remoteId = [] then none
  else (conn.login2session.find remoteId).map fun session => (remoteId, session)

variable (platform request) in
theorem getSession_fst (ref : ConnRef) (orb : Orb) :
    (getSession platform request ref orb).1 =
      .ok (cachedSession platform request (orb.connections ref)) := by
  simp only [getSession, Action.bind_apply, Action.get_apply, Action.modify_apply,
    LRUCache.fetch_fst, cachedSession]
  split
  · rfl
  · simp [Action.bind_apply, Orb.setProfile2login, Orb.updateConnection]

/-- A logged connection has its own login, whatever else it holds. -/
theorem currLogin_of_logged {ref : ConnRef} {orb : Orb} {info : LoginInfo}
    (unscoped : LoginInfo.equal default (login orb) = true)
    (logged : (orb.connections ref).loginInfo = some info) (identified : info.id ≠ []) :
    currLogin world ref orb = (.ok info, orb) := by
  simp [currLogin, getLogin, Action.bind_apply, unscoped, logged, identified]

section Chains

/-- The part of the key that stands for the joined chain. -/
def keySignature (platform : Platform) (protocol : Protocol) (chain : CallerChain) : OctetSeq :=
  if chain.equal (.none platform) then List.replicate 256 0
  else (chain.signed protocol).signature.toList

theorem length_keySignature (protocol : Protocol) (chain : CallerChain) :
    (keySignature platform protocol chain).length = 256 := by
  unfold keySignature
  split
  · exact List.length_replicate
  · exact Vector.length_toList

theorem chainKeyBuffer_eq (protocol : Protocol) (login remoteId : Identifier)
    (chain : CallerChain) :
    chainKeyBuffer platform protocol login remoteId chain =
      login ++ remoteId ++ keySignature platform protocol chain := by
  unfold chainKeyBuffer
  change overwrite (overwrite (overwrite _ 0 login) login.length remoteId)
    (login.length + remoteId.length) (keySignature platform protocol chain) = _
  rw [overwrite_start, overwrite_filled _ _ _ rfl, overwrite_filled _ _ _ List.length_append.symm]
  simp only [List.drop_replicate, length_keySignature]
  rw [Nat.sub_eq_zero_of_le (by omega)]
  simp

/-- Logins of one length make the key determine all its parts. -/
theorem chainKeyBuffer_injective {protocol protocol' : Protocol}
    {login login' remoteId remoteId' : Identifier} {chain chain' : CallerChain}
    (length : login.length = login'.length)
    (same : chainKeyBuffer platform protocol login remoteId chain =
      chainKeyBuffer platform protocol' login' remoteId' chain') :
    login = login' ∧ remoteId = remoteId' ∧
      keySignature platform protocol chain = keySignature platform protocol' chain' := by
  rw [chainKeyBuffer_eq, chainKeyBuffer_eq] at same
  obtain ⟨front, signatures⟩ := List.append_inj' same (by simp only [length_keySignature])
  obtain ⟨logins, remotes⟩ := List.append_inj front length
  exact ⟨logins, remotes, signatures⟩

@[simp] theorem chainCache_setChainCache (orb : Orb) (protocol : Protocol)
    (cache : LRUCache HashValue SignedData) :
    (orb.setChainCache protocol cache).chainCache protocol = cache := by
  cases protocol <;> rfl

theorem chainCache_setChainCache_ne (orb : Orb) {protocol other : Protocol}
    (cache : LRUCache HashValue SignedData) (differ : other ≠ protocol) :
    (orb.setChainCache protocol cache).chainCache other = orb.chainCache other := by
  cases protocol <;> cases other <;> first | rfl | exact absurd rfl differ

/-- The ORB after a search of the cache of signed chains. -/
def searched (protocol : Protocol) (key : HashValue) (orb : Orb) : Orb :=
  orb.setChainCache protocol ((orb.chainCache protocol).fetch key).2

/-- The ORB after a signed chain has been cached. -/
def stored (protocol : Protocol) (key : HashValue) (chain : SignedData) (orb : Orb) : Orb :=
  orb.setChainCache protocol ((orb.chainCache protocol).insert key chain)

variable (world) in
/-- A chain comes from the cache, or from the bus and is cached then. -/
theorem getSignedChain_eq (protocol : Protocol) (ref : ConnRef) (key : HashValue)
    (target : Identifier) (orb : Orb) :
    getSignedChain world protocol ref key target orb =
      match (orb.chainCache protocol).find key with
      | some chain => (.ok chain, searched protocol key orb)
      | none =>
        match requestSignedChain world protocol ref target (searched protocol key orb) with
        | (.ok chain, after) => (.ok chain, stored protocol key chain after)
        | (.error e, after) => (.error e, after) := by
  have fetched := LRUCache.fetch_fst (orb.chainCache protocol) key
  simp only [getSignedChain, Action.bind_apply, Action.get_apply, Action.modify_apply, fetched]
  cases (orb.chainCache protocol).find key with
  | none =>
    simp only [Action.bind_apply, searched]
    rcases requestSignedChain world protocol ref target
      (orb.setChainCache protocol ((orb.chainCache protocol).fetch key).2) with
      ⟨e | chain, after⟩ <;> rfl
  | some chain => rfl

end Chains

section Frames

variable {β : Type} {observe : Orb → β} {ref : ConnRef}

/-- What the call that has a chain signed leaves alone. -/
def SigningKeeps (observe : Orb → β) (world : ClientWorld) (ref : ConnRef) : Prop :=
  ∀ protocol target, Action.Keeps observe (world.signChainFor protocol ref target)

/-- How a turn of the loop of `get_login` goes that leads to a result: there is no invalid login any
more, no callback is registered, or the callback leaves the invalid login alone or does not. -/
inductive LoopTurn (world : ClientWorld) (ref : ConnRef) (attempts calls : ℕ)
    (login invalid : LoginInfo) (s : Orb) (info : LoginInfo) (t : Orb) : Prop
  | settled (unnamed : invalid.id = []) (result : info = login) (state : t = s)
  | unheard (named : invalid.id ≠ []) (unset : (s.connections ref).onInvalidLogin = false)
      (result : info = login) (state : t = s.setInvalidLogin ref none)
  | ignored {after : Orb} (named : invalid.id ≠ [])
      (set : (s.connections ref).onInvalidLogin = true)
      (called : after = (world.onInvalidLogin ref invalid calls s).2)
      (same : ((after.connections ref).invalidLogin.getD default).id ≠ [] ∧
        ((after.connections ref).invalidLogin.getD default).equal invalid)
      (result : info = (after.connections ref).loginInfo.getD default)
      (state : t = after.setInvalidLogin ref none)
  | again {after : Orb} {remaining : ℕ} (named : invalid.id ≠ [])
      (set : (s.connections ref).onInvalidLogin = true)
      (called : after = (world.onInvalidLogin ref invalid calls s).2)
      (changed : ¬ (((after.connections ref).invalidLogin.getD default).id ≠ [] ∧
        ((after.connections ref).invalidLogin.getD default).equal invalid))
      (fewer : attempts = remaining + 1)
      (rest : getLoginLoop world ref remaining (calls + 1)
        ((after.connections ref).loginInfo.getD default)
        ((after.connections ref).invalidLogin.getD default) after = (.ok info, t))

/-- The state after a callback is the same whether it returns or throws. -/
theorem callback_ok {x : Action Orb Exception Unit} {s t : Orb}
    (ran : tryCatch x (fun e => if e.isCatchable then pure () else throw e) s = (.ok (), t)) :
    t = (x s).2 := by
  rw [Action.tryCatch_apply] at ran
  rcases called : x s with ⟨e | _, after⟩
  · rw [called] at ran
    dsimp only at ran
    split at ran <;> cases ran
    rfl
  · rw [called] at ran
    cases ran
    rfl

theorem getLoginLoop_turn {attempts calls : ℕ} {login invalid info : LoginInfo} {s t : Orb}
    (returned : getLoginLoop world ref attempts calls login invalid s = (.ok info, t)) :
    LoopTurn world ref attempts calls login invalid s info t := by
  unfold getLoginLoop at returned
  split at returned
  · next unnamed =>
    cases returned
    exact .settled unnamed rfl rfl
  · next named =>
    simp only [Action.bind_apply, Action.get_apply] at returned
    split at returned
    · next set =>
      cases attempts with
      | zero => cases returned
      | succ remaining =>
        obtain ⟨⟨⟩, after, ran, rest⟩ := Action.bind_ok_iff.mp returned
        simp only [Action.bind_apply, Action.get_apply] at rest
        split at rest
        · next same =>
          cases rest
          exact .ignored named set (callback_ok ran) same rfl rfl
        · next changed => exact .again named set (callback_ok ran) changed rfl rest
    · next unset =>
      cases returned
      exact .unheard named (by simpa using unset) rfl rfl

end Frames

end ClientInterceptor

end OpenBus
