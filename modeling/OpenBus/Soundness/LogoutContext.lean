import OpenBus.Model.ReferencePlatform
import OpenBus.Proofs.Login

/-! # What `logout` leaves of its caller's context

`logout` saves the current connection and the joined chain of its caller, and sets both again when
the bus has answered. What it saves is what the context reports, not what is in the slots: a default
connection comes back as one of the context's own, and where no chain is reported that of the caller
comes in its place. The context is left as it was found exactly if neither makes a difference.
-/

namespace OpenBus

open Machine

namespace Orb

variable {platform : Platform} {world : LogoutWorld} {ref : ConnRef} {orb : Orb}

/-- The context follows the default connection or its own as before, and has the same chain. -/
structure Kept (before after : Orb) : Prop where
  current : ∀ conn, (after.setDefaultConnection conn).getCurrentConnection =
    (before.setDefaultConnection conn).getCurrentConnection
  joined : (after.piCurrent .joinedCallChain).half = (before.piCurrent .joinedCallChain).half

/-- `logout` returns and leaves the context of its caller as it was. -/
def LeavesContext (platform : Platform) (world : LogoutWorld) (ref : ConnRef) (orb : Orb) : Prop :=
  ∃ success after, orb.logout platform world ref = (.ok success, after) ∧ Kept orb after

/-- The chain that a `logout` joins at its end is the one joined before. -/
inductive Restorable (platform : Platform) (ref : ConnRef) (orb : Orb) : Prop
  /-- There is no chain at all. -/
  | nothing (unjoined : (orb.piCurrent .joinedCallChain).half = none)
      (idle : orb.getCurrentConnection = none ∨ (orb.piCurrent .signedCallChain).half = none)
  /-- The chain of the caller is the empty one, signed. -/
  | empty {conn : ConnRef} {half : Protocol × SignedData} {chain : CallerChain}
      (unjoined : (orb.piCurrent .joinedCallChain).half = none)
      (current : orb.getCurrentConnection = some conn) (other : conn ≠ ref)
      (caller : (orb.piCurrent .signedCallChain).half = some half)
      (read : extractHalf platform (orb.connections conn) half = .ok chain)
      (absent : chain.equal (.none platform) = true)
  /-- The joined chain is of version 2.1, or the chain of the caller. -/
  | same {conn : ConnRef} {half : Protocol × SignedData} {chain : CallerChain}
      (joined : (orb.piCurrent .joinedCallChain).half = some half)
      (current : orb.getCurrentConnection = some conn) (other : conn ≠ ref)
      (caller : half.1 = .legacy → (orb.piCurrent .signedCallChain).half = some half)
      (read : extractHalf platform (orb.connections conn) half = .ok chain)
      (present : chain.equal (.none platform) = false)

/-- The chain that `logout` joins at its end, found in the context after the first part. -/
def chainPutBack (platform : Platform) (orb : Orb) : Except Exception CallerChain :=
  orb.getJoinedChain platform >>= fun previous => chainToJoin platform previous orb

/-- The chain to be put back leaves a half in the slot if it is not the empty one. -/
def PutsBack (platform : Platform) (orb : Orb) (half : Option (Protocol × SignedData)) : Prop :=
  ∃ chain, chainPutBack platform orb = .ok chain ∧
    (if chain.equal (.none platform) then none else chain.half) = half

theorem getCurrentConnection_setDefaultConnection (pinned : orb.currentId.isSome)
    (conn : Option ConnRef) :
    (orb.setDefaultConnection conn).getCurrentConnection = orb.getCurrentConnection := by
  obtain ⟨id, current⟩ := Option.isSome_iff_exists.mp pinned
  have still : (orb.setDefaultConnection conn).currentId = some id := current
  rw [getCurrentConnection_eq, getCurrentConnection_eq, current, still]
  rfl

/-- A context with no id in its slot follows the default connection. -/
theorem getCurrentConnection_setDefaultConnection_of_none (free : orb.currentId = none)
    {conn : ConnRef} (alive : orb.alive conn = true) :
    (orb.setDefaultConnection (some conn)).getCurrentConnection = some conn ∧
      (orb.setDefaultConnection none).getCurrentConnection = none := by
  have still (conn : Option ConnRef) : (orb.setDefaultConnection conn).currentId = none := free
  constructor
  · rw [getCurrentConnection_eq, still]
    simp [getDefaultConnection, setDefaultConnection, lock, alive]
  · rw [getCurrentConnection_eq, still]
    rfl

/-- The chain read from a half is there to be put back. -/
def Reads (platform : Platform) (orb : Orb) (half : Protocol × SignedData) : Prop :=
  ∃ conn chain, orb.getCurrentConnection = some conn ∧
    extractHalf platform (orb.connections conn) half = .ok chain ∧
    chain.equal (.none platform) = false

/-- The chain of the caller is put back under its own half. -/
theorem putsBack_caller_iff (orb : Orb) (half : Protocol × SignedData) :
    (∃ chain, orb.getCallerChain platform = .ok chain ∧
        (if chain.equal (.none platform) then none else chain.half) = some half) ↔
      (orb.piCurrent .signedCallChain).half = some half ∧ Reads platform orb half := by
  rw [getCallerChain_eq, Reads]
  cases orb.getCurrentConnection with
  | none => simp
  | some conn =>
    cases caller : (orb.piCurrent .signedCallChain).half with
    | none => simp
    | some found =>
      constructor
      · rintro ⟨chain, read, same⟩
        have present : chain.equal (.none platform) = false := by
          by_contra absent
          rw [if_pos (Bool.of_not_eq_false absent)] at same
          cases same
        simp only [present, Bool.false_eq_true, if_false, half_of_extractHalf caller read] at same
        obtain rfl := Option.some.inj same
        exact ⟨rfl, conn, chain, rfl, read, present⟩
      · rintro ⟨same, other, chain, current, read, present⟩
        obtain rfl := Option.some.inj same
        obtain rfl := Option.some.inj current
        refine ⟨chain, read, ?_⟩
        simp [present, half_of_extractHalf caller read]

theorem chainToJoin_none (orb : Orb) :
    chainToJoin platform (.none platform) orb = orb.getCallerChain platform :=
  if_pos (CallerChain.equal_none_self platform)

theorem putsBack_some_iff {orb : Orb} {half : Protocol × SignedData}
    (joined : (orb.piCurrent .joinedCallChain).half = some half) :
    PutsBack platform orb (some half) ↔
      (half.1 = .legacy → (orb.piCurrent .signedCallChain).half = some half) ∧
        Reads platform orb half := by
  obtain ⟨protocol, signedChain⟩ := half
  simp only [PutsBack, chainPutBack, bind_eq_ok_iff]
  cases protocol with
  | legacy =>
    have read : orb.getJoinedChain platform = .ok (.none platform) := by
      rw [getJoinedChain_eq, joined]
      cases orb.getCurrentConnection <;> rfl
    simp only [read, Except.ok.injEq, exists_eq_left', chainToJoin_none, putsBack_caller_iff,
      forall_const]
  | current =>
    constructor
    · rintro ⟨chain, ⟨previous, read, join⟩, same⟩
      refine ⟨fun impossible => (by cases impossible), ?_⟩
      cases present : previous.equal (.none platform) with
      | false =>
        rw [getJoinedChain_eq, joined] at read
        rcases current : orb.getCurrentConnection with _ | conn <;> rw [current] at read
        · obtain rfl := Except.ok.inj read
          simp at present
        · rcases reportHalf_eq_ok_iff.mp read with extracted | ⟨rfl, -⟩
          · exact ⟨conn, previous, current, extracted, present⟩
          · simp at present
      | true =>
        rw [chainToJoin, if_pos present] at join
        exact ((putsBack_caller_iff orb _).mp ⟨chain, join, same⟩).2
    · rintro ⟨-, conn, chain, current, read, present⟩
      refine ⟨chain, ⟨chain, ?_, ?_⟩, ?_⟩
      · rw [getJoinedChain_eq, joined, current]
        exact reportHalf_eq_ok_iff.mpr (.inl read)
      · simp [chainToJoin, present]
      · simp [present, half_of_extractHalf joined read]

theorem putsBack_none_iff {orb : Orb} (unjoined : (orb.piCurrent .joinedCallChain).half = none) :
    PutsBack platform orb none ↔
      orb.getCurrentConnection = none ∨ (orb.piCurrent .signedCallChain).half = none ∨
        ∃ conn half chain, orb.getCurrentConnection = some conn ∧
          (orb.piCurrent .signedCallChain).half = some half ∧
          extractHalf platform (orb.connections conn) half = .ok chain ∧
          chain.equal (.none platform) = true := by
  have read : orb.getJoinedChain platform = .ok (.none platform) := by
    rw [getJoinedChain_eq, unjoined]
    cases orb.getCurrentConnection <;> rfl
  simp only [PutsBack, chainPutBack, bind_eq_ok_iff, read, Except.ok.injEq, exists_eq_left',
    chainToJoin_none]
  rw [getCallerChain_eq]
  cases orb.getCurrentConnection with
  | none => simp
  | some conn =>
    cases caller : (orb.piCurrent .signedCallChain).half with
    | none => simp
    | some half =>
      constructor
      · rintro ⟨chain, read, same⟩
        refine .inr (.inr ⟨conn, half, chain, rfl, rfl, read, ?_⟩)
        by_contra present
        rw [if_neg present, half_of_extractHalf caller read] at same
        cases same
      · rintro (impossible | impossible | ⟨other, found, chain, current, same, read, absent⟩)
        · cases impossible
        · cases impossible
        · obtain rfl := Option.some.inj current
          obtain rfl := Option.some.inj same
          exact ⟨chain, read, if_pos absent⟩

/-- After its first part, `logout` puts the joined chain back if this could be told before. -/
theorem putsBack_logoutSection_iff (logged : (orb.connections ref).state = .logged) :
    PutsBack platform (orb.logoutSection ref) (orb.piCurrent .joinedCallChain).half ↔
      Restorable platform ref orb := by
  have reads (conn : ConnRef) (half : Protocol × SignedData) (chain : CallerChain) :
      extractHalf platform ((orb.logoutSection ref).connections conn) half = .ok chain ↔
        conn ≠ ref ∧ extractHalf platform (orb.connections conn) half = .ok chain := by
    rcases eq_or_ne conn ref with rfl | other
    · refine iff_of_false ?_ fun both => both.1 rfl
      exact fun read => login_of_extractHalf read (loginInfo_logoutSection_self logged)
    · rw [connections_logoutSection_of_ne other]
      exact (and_iff_right other).symm
  cases joined : (orb.piCurrent .joinedCallChain).half with
  | none =>
    rw [putsBack_none_iff (by rw [piCurrent_logoutSection, joined])]
    simp only [getCurrentConnection_logoutSection, piCurrent_logoutSection, reads]
    constructor
    · rintro (idle | idle | ⟨conn, half, chain, current, caller, ⟨other, read⟩, absent⟩)
      · exact .nothing joined (.inl idle)
      · exact .nothing joined (.inr idle)
      · exact .empty joined current other caller read absent
    · rintro (⟨-, idle | idle⟩ | ⟨-, current, other, caller, read, absent⟩ | ⟨some, -⟩)
      · exact .inl idle
      · exact .inr (.inl idle)
      · exact .inr (.inr ⟨_, _, _, current, caller, ⟨other, read⟩, absent⟩)
      · rw [joined] at some
        cases some
  | some half =>
    rw [putsBack_some_iff (by rw [piCurrent_logoutSection, joined])]
    simp only [Reads, getCurrentConnection_logoutSection, piCurrent_logoutSection, reads]
    constructor
    · rintro ⟨caller, conn, chain, current, ⟨other, read⟩, present⟩
      exact .same joined current other caller read present
    · rintro (⟨none, -⟩ | ⟨none, -⟩ | ⟨same, current, other, caller, read, present⟩)
      · rw [joined] at none
        cases none
      · rw [joined] at none
        cases none
      · obtain rfl := Option.some.inj (joined.symm.trans same)
        exact ⟨caller, _, _, current, ⟨other, read⟩, present⟩

section Ended

variable (platform) (quiet : Undisturbed world) {login : LoginInfo} {accessControl : ObjectRef}
  (logged : LoggedIn (orb.connections ref) login accessControl)
include quiet logged

variable (login accessControl) in
omit logged in
theorem chainToJoin_restored (previous : CallerChain) :
    chainToJoin platform previous
        (restored world orb.getCurrentConnection (told world ref orb login accessControl)) =
      chainToJoin platform previous (orb.logoutSection ref) := by
  unfold chainToJoin
  rw [getCallerChain_congr (restored_surroundings ref quiet orb login accessControl)]

/-- `logout` returns if it finds a chain to put back, in a context with a connection of its own. -/
theorem logout_of_chainPutBack {chain : CallerChain}
    (found : chainPutBack platform (orb.logoutSection ref) = .ok chain) :
    ∃ success after, orb.logout platform world ref = (.ok success, after) ∧
      after.currentId.isSome ∧ after.getCurrentConnection = orb.getCurrentConnection ∧
      (after.piCurrent .joinedCallChain).half =
        if chain.equal (.none platform) then none else chain.half := by
  obtain ⟨previous, read, join⟩ := bind_eq_ok_iff.mp found
  obtain ⟨success, same⟩ := logout_eq platform logged quiet
  rw [← chainToJoin_restored platform quiet login accessControl] at join
  obtain ⟨after, set, only, half⟩ := setJoinedChain_apply platform chain
    (restored world orb.getCurrentConnection (told world ref orb login accessControl))
  refine ⟨success, after, ?_, ?_, ?_, ?_⟩
  · simp only [same, read, joinChain_apply, join, set]
  · have slot : after.currentId =
        (restored world orb.getCurrentConnection (told world ref orb login accessControl)).currentId := by
      rw [only]
      simp [currentId, setSlot]
    rw [slot]
    apply currentId_setCurrentConnection
    rw [currentId_told ref quiet]
    rfl
  · rw [only, getCurrentConnection_setSlot _ _ (by decide)]
    have still := congrArg Prod.fst (restored_surroundings ref quiet orb login accessControl)
    exact still.trans (getCurrentConnection_logoutSection ref orb)
  · rw [half, restored_joined ref quiet]

theorem chainPutBack_of_logout {success : Bool} {after : Orb}
    (returned : orb.logout platform world ref = (.ok success, after)) :
    ∃ chain, chainPutBack platform (orb.logoutSection ref) = .ok chain := by
  obtain ⟨_, same⟩ := logout_eq platform logged quiet
  rw [same] at returned
  split at returned
  · cases returned
  · next previous read =>
    rw [joinChain_apply, chainToJoin_restored platform quiet] at returned
    cases join : chainToJoin platform previous (orb.logoutSection ref) with
    | error e =>
      rw [join] at returned
      cases returned
    | ok chain => exact ⟨chain, bind_eq_ok_iff.mpr ⟨previous, read, join⟩⟩

/-- `logout` of a logged connection leaves the context as it was exactly if it has a connection of
its own and the half that is put back is the one joined before. -/
theorem leavesContext_iff_putsBack (alive : orb.alive ref = true) :
    LeavesContext platform world ref orb ↔ orb.currentId.isSome ∧
      PutsBack platform (orb.logoutSection ref) (orb.piCurrent .joinedCallChain).half := by
  constructor
  · rintro ⟨success, after, returned, kept⟩
    obtain ⟨chain, found⟩ := chainPutBack_of_logout platform quiet logged returned
    obtain ⟨_, t, again, pinned, -, half⟩ := logout_of_chainPutBack platform quiet logged found
    obtain ⟨-, rfl⟩ := Prod.mk.inj (again.symm.trans returned)
    refine ⟨?_, chain, found, half.symm.trans kept.joined⟩
    -- A context that follows the default connection would no longer do so.
    by_contra free
    obtain ⟨followed, none⟩ := getCurrentConnection_setDefaultConnection_of_none
      (Option.not_isSome_iff_eq_none.mp free) alive
    have set := kept.current (some ref)
    have unset := kept.current Option.none
    rw [getCurrentConnection_setDefaultConnection pinned] at set unset
    rw [← set, unset, none] at followed
    cases followed
  · rintro ⟨pinned, chain, found, same⟩
    obtain ⟨success, after, returned, still, current, half⟩ :=
      logout_of_chainPutBack platform quiet logged found
    refine ⟨success, after, returned, fun conn => ?_, half.trans same⟩
    rw [getCurrentConnection_setDefaultConnection still,
      getCurrentConnection_setDefaultConnection pinned, current]

end Ended

/-- A connection that is logged but not with all that `logout` needs lets no `logout` return. -/
theorem loggedIn_of_logout (logged : (orb.connections ref).state = .logged) {success : Bool} {after : Orb}
    (returned : orb.logout platform world ref = (.ok success, after)) :
    ∃ login accessControl, LoggedIn (orb.connections ref) login accessControl := by
  simp only [logout, Action.bind_apply, Action.get_apply, logged] at returned
  rcases login : (orb.connections ref).loginInfo with _ | info <;> simp only [login] at returned
  · cases returned
  · cases present : (orb.connections ref).accessControl with
    | none =>
      simp only [present, Action.bind_apply, Action.modify_apply, confirmLogout, Action.get_apply,
        Action.ofExcept_apply] at returned
      rcases read : (orb.logoutSection ref).getJoinedChain platform with e | previous <;>
        simp only [read] at returned
      · cases returned
      · simp only [Action.attempt_apply, remoteLogout, guarded_apply, Action.throw_apply,
          logoutSuccess] at returned
        cases returned
    | some accessControl => exact ⟨info, accessControl, logged, login, present⟩

/-- `logout` leaves the context of its caller as it was exactly if it has nothing to do, or the
context has a connection of its own, and the chain that comes back is the one joined before. -/
theorem leavesContext_iff (quiet : Undisturbed world) (alive : orb.alive ref = true) :
    LeavesContext platform world ref orb ↔ (orb.connections ref).state = .loggedOut ∨
      (∃ login accessControl, LoggedIn (orb.connections ref) login accessControl) ∧
        orb.currentId.isSome ∧ Restorable platform ref orb := by
  cases state : (orb.connections ref).state with
  | logged =>
    simp only [reduceCtorEq, false_or]
    constructor
    · intro leaves
      have returned := leaves
      obtain ⟨success, after, returned, -⟩ := returned
      obtain ⟨login, accessControl, logged⟩ := loggedIn_of_logout state returned
      refine ⟨⟨login, accessControl, logged⟩, ?_⟩
      rwa [← putsBack_logoutSection_iff state, ← leavesContext_iff_putsBack platform quiet logged alive]
    · rintro ⟨⟨login, accessControl, logged⟩, kept⟩
      rw [leavesContext_iff_putsBack platform quiet logged alive, putsBack_logoutSection_iff state]
      exact kept
  | loggedOut =>
    refine iff_of_true ⟨false, orb, ?_, fun _ => rfl, rfl⟩ (.inl rfl)
    simp only [logout, Action.bind_apply, Action.get_apply, state, Action.pure_apply]

namespace Reference

/-- The bus confirms every `logout`. -/
def confirming : LogoutWorld := ⟨fun _ => pure (), .replicate 16 1, .replicate 16 2⟩

theorem undisturbed : Undisturbed confirming := ⟨fun _ => .pure (), fun _ => .pure ()⟩

/-- The default connection has logged in. -/
def byDefault : Orb :=
  (loginBy 0 ⟨.ok ReferencePlatform.facets, none, .ok ⟨ascii "c", ascii "C"⟩⟩
    { Orb.init (fun _ => .init ⟨[2]⟩ true) (fun _ => true) with defConn := some 0 }).2

/-- The same where the context has a connection of its own. -/
def byItself (conn : ConnRef) : Orb :=
  byDefault.setCurrentConnection (.replicate 16 3) (some conn)

/-- It has joined a chain of version 2.0. -/
def joinedLegacy : Orb :=
  (joinChain referencePlatform
    ⟨ascii "B", ascii "C", [], ⟨ascii "a", ascii "A"⟩, ⟨.replicate 256 0, []⟩,
      ⟨.replicate 256 0, referencePlatform.encodeValue (.legacyCallChain default)⟩⟩ (byItself 1)).2

end Reference

open Reference in
/-- A context with a connection of its own and no chain. -/
theorem leavesContext_byItself : LeavesContext referencePlatform confirming 0 (byItself 0) :=
  (leavesContext_iff undisturbed rfl).mpr
    (.inr ⟨⟨_, _, rfl, rfl, rfl⟩, rfl, .nothing rfl (.inr rfl)⟩)

open Reference in
/-- A context without a connection of its own no longer follows the default connection, and one that
has joined a chain of version 2.0 loses it. -/
theorem context_not_left :
    ¬ LeavesContext referencePlatform confirming 0 byDefault ∧
      ¬ LeavesContext referencePlatform confirming 0 joinedLegacy := by
  constructor
  · rintro ⟨success, after, returned, kept⟩
    have set := kept.current (some 1)
    have follows : (byDefault.setDefaultConnection (some 1)).getCurrentConnection = some 1 := rfl
    have pinned : ((byDefault.logout referencePlatform confirming 0).2.setDefaultConnection
        (some 1)).getCurrentConnection = some 0 := by decide +kernel
    rw [returned] at pinned
    rw [follows, pinned] at set
    cases set
  · rintro ⟨success, after, returned, kept⟩
    have same := kept.joined
    have joined : (joinedLegacy.piCurrent .joinedCallChain).half.isSome := by decide +kernel
    have lost : ((joinedLegacy.logout referencePlatform confirming 0).2.piCurrent
        .joinedCallChain).half.isSome = false := by decide +kernel
    rw [returned] at lost
    rw [← same, lost] at joined
    cases joined

end Orb

end OpenBus
