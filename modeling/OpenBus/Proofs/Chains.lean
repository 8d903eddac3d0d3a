import OpenBus.Model.ClientInterceptor
import OpenBus.Proofs.Orb

/-! # The chains in the slots of a context

A slot has the half of a chain which the bus has signed for one protocol version, or none. The
context and the interceptor read the slots of the caller's chain and of the joined one in different
ways; what they make of them depends on that half and on the current connection alone.
-/

namespace OpenBus

open Machine

/-- The signed chain in a slot and its version, if the slot has one. -/
def Any.half : Any → Option (Protocol × SignedData)
  | .signedData chain => if chain.encoded = [] then none else some (.current, chain)
  | .signedCallChain chain => if chain.encoded = [] then none else some (.legacy, chain)
  | _ => none

/-- The half of a chain which `joinChain` puts into the slot. -/
def CallerChain.half (chain : CallerChain) : Option (Protocol × SignedData) :=
  if chain.signedChain.encoded ≠ [] then some (.current, chain.signedChain)
  else if chain.legacySignedChain.encoded ≠ [] then some (.legacy, chain.legacySignedChain)
  else Option.none

/-- The empty chain counts as absent. -/
@[simp] theorem CallerChain.equal_none_self (platform : Platform) :
    (CallerChain.none platform).equal (.none platform) = true := by
  simp [CallerChain.equal, CallerChain.none, LoginInfo.equalSeq, LoginInfo.equal]

theorem Any.half_eq (any : Any) :
    any.half = if any.extractSignedData.encoded.length ≠ 0 then
        some (.current, any.extractSignedData)
      else if any.extractSignedCallChain.encoded.length ≠ 0 then
        some (.legacy, any.extractSignedCallChain)
      else none := by
  have blank : (default : SignedData).encoded.length = 0 := rfl
  cases any <;>
    simp only [half, extractSignedData, extractSignedCallChain, blank, ne_eq, not_true_eq_false,
      if_false] <;>
    split <;> simp_all

theorem Any.nonempty_of_half {any : Any} {half : Protocol × SignedData}
    (slot : any.half = some half) : half.2.encoded ≠ [] := by
  unfold Any.half at slot
  split at slot
  · split at slot <;> cases slot
    assumption
  · split at slot <;> cases slot
    assumption
  · cases slot

namespace Orb

variable {platform : Platform}

/-- What the context makes of a signed chain for its current connection. -/
def extractHalf (platform : Platform) (conn : Connection) :
    Protocol × SignedData → Except Exception CallerChain
  | (.current, signedChain) => extractCallChain platform signedChain conn
  | (.legacy, signedChain) => extractLegacyCallChain platform signedChain conn

theorem getCallerChain_eq (orb : Orb) :
    orb.getCallerChain platform =
      match orb.getCurrentConnection, (orb.piCurrent .signedCallChain).half with
      | some ref, some half => extractHalf platform (orb.connections ref) half
      | _, _ => .ok (.none platform) := by
  unfold getCallerChain
  cases orb.getCurrentConnection with
  | none => rfl
  | some ref =>
    rw [Any.half_eq]
    dsimp only
    by_cases blank : (orb.piCurrent .signedCallChain).extractSignedData.encoded.length = 0
    · rw [if_pos blank, if_neg (not_not.mpr blank)]
      split <;> rfl
    · rw [if_neg blank, if_pos blank]
      rfl

/-- The joined chain as the context reports it, for its current connection. -/
def reportHalf (platform : Platform) (conn : Connection) (signedChain : SignedData) :
    Except Exception CallerChain :=
  match platform.decodeValue signedChain.encoded .callChain with
  | .error e => if e.isCorba then .ok (.none platform) else .error e
  | .ok any => (loginEntity conn).map fun entity =>
      .ofCallChain platform any.extractCallChain entity signedChain

theorem getJoinedChain_eq (orb : Orb) :
    orb.getJoinedChain platform =
      match orb.getCurrentConnection, (orb.piCurrent .joinedCallChain).half with
      | some ref, some (.current, signedChain) =>
          reportHalf platform (orb.connections ref) signedChain
      | _, _ => .ok (.none platform) := by
  unfold getJoinedChain
  cases orb.getCurrentConnection with
  | none => rfl
  | some ref =>
    rw [Any.half_eq]
    dsimp only
    by_cases blank : (orb.piCurrent .joinedCallChain).extractSignedData.encoded.length = 0
    · rw [if_pos blank, if_neg (not_not.mpr blank)]
      by_cases absent : (orb.piCurrent .joinedCallChain).extractSignedCallChain.encoded.length ≠ 0
      · rw [if_pos absent]
      · rw [if_neg absent]
    · rw [if_neg blank, if_pos blank]
      rfl

variable (platform) in
/-- Joining a chain puts its half into the slot, unless it counts as absent. -/
theorem setJoinedChain_apply (chain : CallerChain) (orb : Orb) :
    ∃ t, setJoinedChain platform chain orb = (.ok (), t) ∧
      t = orb.setSlot .joinedCallChain (t.piCurrent .joinedCallChain) ∧
      (t.piCurrent .joinedCallChain).half =
        if chain.equal (.none platform) then (orb.piCurrent .joinedCallChain).half
        else chain.half := by
  unfold setJoinedChain
  split
  · next absent =>
    refine ⟨orb, rfl, ?_, rfl⟩
    simp [setSlot]
  · next present =>
    refine ⟨_, rfl, by simp [setSlot], ?_⟩
    simp only [setSlot, Function.update_self, CallerChain.half, List.length_pos_iff]
    split
    · next current => simp [Any.half, current]
    · next blank => simp [Any.half]

variable (platform) in
/-- The chain that `joinChain` joins: the empty one stands for that of the caller. -/
def chainToJoin (chain : CallerChain) (orb : Orb) : Except Exception CallerChain :=
  if chain.equal (.none platform) then orb.getCallerChain platform else .ok chain

theorem joinChain_apply (chain : CallerChain) (orb : Orb) :
    joinChain platform chain orb = match chainToJoin platform chain orb with
      | .error e => (.error e, orb)
      | .ok chain => setJoinedChain platform chain orb := by
  unfold joinChain chainToJoin
  split
  · simp only [Action.bind_apply, Action.get_apply, Action.ofExcept_apply]
    cases orb.getCallerChain platform <;> rfl
  · rfl

theorem extractHalf_current_eq_ok_iff {conn : Connection} {signedChain : SignedData}
    {chain : CallerChain} :
    extractHalf platform conn (.current, signedChain) = .ok chain ↔
      ∃ call entity, decodeChainData platform signedChain = .ok call ∧
        loginEntity conn = .ok entity ∧ .ofCallChain platform call entity signedChain = chain := by
  simp [extractHalf, extractCallChain, bind_eq_ok_iff, pure, Except.pure]

theorem extractHalf_legacy_eq_ok_iff {conn : Connection} {signedChain : SignedData}
    {chain : CallerChain} :
    extractHalf platform conn (.legacy, signedChain) = .ok chain ↔
      ∃ call entity, decodeLegacyChainData platform signedChain = .ok call ∧
        loginEntity conn = .ok entity ∧
          .ofLegacyCallChain platform call conn.busid entity signedChain = chain := by
  simp [extractHalf, extractLegacyCallChain, bind_eq_ok_iff, pure, Except.pure]

/-- A chain is read for a connection with a login only. -/
theorem login_of_extractHalf {conn : Connection} {half : Protocol × SignedData} {chain : CallerChain}
    (read : extractHalf platform conn half = .ok chain) : conn.loginInfo ≠ none := by
  have entity : ∃ entity, loginEntity conn = .ok entity := by
    obtain ⟨protocol, signedChain⟩ := half
    cases protocol with
    | current =>
      obtain ⟨-, entity, -, found, -⟩ := extractHalf_current_eq_ok_iff.mp read
      exact ⟨entity, found⟩
    | legacy =>
      obtain ⟨-, entity, -, found, -⟩ := extractHalf_legacy_eq_ok_iff.mp read
      exact ⟨entity, found⟩
  intro absent
  simp [loginEntity, absent] at entity

/-- A chain that is read from the half in a slot has that half. -/
theorem half_of_extractHalf {any : Any} {half : Protocol × SignedData} (slot : any.half = some half)
    {conn : Connection} {chain : CallerChain} (read : extractHalf platform conn half = .ok chain) :
    chain.half = some half := by
  have nonempty := Any.nonempty_of_half slot
  obtain ⟨protocol, signedChain⟩ := half
  cases protocol with
  | current =>
    obtain ⟨call, entity, -, -, rfl⟩ := extractHalf_current_eq_ok_iff.mp read
    exact if_pos nonempty
  | legacy =>
    obtain ⟨call, entity, -, -, rfl⟩ := extractHalf_legacy_eq_ok_iff.mp read
    exact if_pos nonempty

/-- The joined chain is read as that of a caller would be, or it cannot be decoded. -/
theorem reportHalf_eq_ok_iff {conn : Connection} {signedChain : SignedData} {chain : CallerChain} :
    reportHalf platform conn signedChain = .ok chain ↔
      extractHalf platform conn (.current, signedChain) = .ok chain ∨
        chain = .none platform ∧ ∃ e, e.isCorba = true ∧
          platform.decodeValue signedChain.encoded .callChain = .error e := by
  rw [extractHalf_current_eq_ok_iff]
  unfold reportHalf decodeChainData
  cases platform.decodeValue signedChain.encoded .callChain with
  | error e =>
    by_cases corba : e.isCorba = true
    · simp only [corba, if_true, Except.ok.injEq, Except.map, reduceCtorEq, false_and, exists_false,
        false_or, Except.error.injEq, exists_eq_right', and_true]
      exact eq_comm
    · simp [corba, Except.map]
  | ok any =>
    have extracted : Except.map Any.extractCallChain (.ok any : Except Exception Any) =
        .ok any.extractCallChain := rfl
    simp [extracted, map_eq_ok_iff]

end Orb

namespace ClientInterceptor

variable {platform : Platform}

theorem getJoinedChain_eq (ref : ConnRef) (orb : Orb) :
    getJoinedChain platform ref orb =
      match (orb.piCurrent .joinedCallChain).half with
      | none => .ok (.none platform)
      | some (.current, signedChain) =>
          (Orb.decodeChainData platform signedChain).map fun chain =>
            .ofCallChain platform chain chain.target signedChain
      | some (.legacy, signedChain) =>
          (Orb.decodeLegacyChainData platform signedChain).map fun chain =>
            .ofLegacyCallChain platform chain (busid orb ref) chain.target signedChain := by
  unfold getJoinedChain
  rw [Any.half_eq]
  dsimp only
  split
  · rfl
  · split <;> rfl

end ClientInterceptor

end OpenBus
