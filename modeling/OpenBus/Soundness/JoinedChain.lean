import OpenBus.Model.ReferencePlatform
import OpenBus.Proofs.Chains

/-! # What is joined, reported and sent

A chain that is joined leaves one of its halves in the slot. The context reports it with the entity
of the current connection as its target, and only if it is of version 2.1; the interceptor sends it
with the target that the bus has signed. Both have the chain that was joined exactly if it is of
version 2.1 and these targets are its own.
-/

namespace OpenBus

open Machine

namespace CallerChain

variable {platform : Platform}

/-- A chain that the bus has signed in some version, and that has the fields signed; which target
it has depends on how it was made. -/
structure Carries (platform : Platform) (chain : CallerChain) : Prop where
  signed : chain.half ≠ Option.none
  current : chain.signedChain.encoded ≠ [] → ∃ call,
    Orb.decodeChainData platform chain.signedChain = .ok call ∧ call.bus = chain.busid ∧
      call.originators = chain.originators ∧ call.caller = chain.caller
  legacy : chain.legacySignedChain.encoded ≠ [] → ∃ call,
    Orb.decodeLegacyChainData platform chain.legacySignedChain = .ok call ∧
      call.originators = chain.originators ∧ call.caller = chain.caller

/-- The chain found has the fields of a chain, and the half that was stored for it. -/
def SameAs (found chain : CallerChain) : Prop :=
  found.busid = chain.busid ∧ found.target = chain.target ∧
    found.originators = chain.originators ∧ found.caller = chain.caller ∧ found.half = chain.half

/-- The target that the bus has signed in version 2.1. -/
def SignedFor (platform : Platform) (chain : CallerChain) (target : Identifier) : Prop :=
  ∃ call, Orb.decodeChainData platform chain.signedChain = .ok call ∧ call.target = target

theorem half_of_current {chain : CallerChain} (nonempty : chain.signedChain.encoded ≠ []) :
    chain.half = some (.current, chain.signedChain) := if_pos nonempty

theorem half_ofCallChain (call : CallChain) (target : Identifier) {signedChain : SignedData}
    (nonempty : signedChain.encoded ≠ []) :
    (ofCallChain platform call target signedChain).half = some (.current, signedChain) :=
  half_of_current nonempty

variable (platform) in
/-- A chain made of what the bus has signed is the one joined, if it has its target. -/
theorem sameAs_ofCallChain_iff {chain : CallerChain} (nonempty : chain.signedChain.encoded ≠ [])
    {call : CallChain} (bus : call.bus = chain.busid)
    (originators : call.originators = chain.originators) (caller : call.caller = chain.caller)
    (target : Identifier) :
    (ofCallChain platform call target chain.signedChain).SameAs chain ↔ target = chain.target := by
  constructor
  · rintro ⟨-, same, -⟩
    exact same
  · intro same
    refine ⟨bus, same, originators, caller, ?_⟩
    rw [half_of_current nonempty, half_ofCallChain _ _ nonempty]

end CallerChain

namespace Orb

variable {platform : Platform}

/-- After `joinChain` both readers have the chain, and after `exitChain` neither has any. -/
def ReportedAndSent (platform : Platform) (ref : ConnRef) (orb : Orb) (chain : CallerChain) :
    Prop :=
  ∃ joined, orb.joinChain platform chain = (.ok (), joined) ∧
    (∃ reported, joined.getJoinedChain platform = .ok reported ∧ reported.SameAs chain) ∧
    (∃ sent, ClientInterceptor.getJoinedChain platform ref joined = .ok sent ∧
      sent.SameAs chain) ∧
    joined.exitChain.getJoinedChain platform = .ok (.none platform) ∧
    ClientInterceptor.getJoinedChain platform ref joined.exitChain = .ok (.none platform)

variable (platform) in
theorem getJoinedChain_exitChain (ref : ConnRef) (orb : Orb) :
    orb.exitChain.getJoinedChain platform = .ok (.none platform) ∧
      ClientInterceptor.getJoinedChain platform ref orb.exitChain = .ok (.none platform) := by
  have empty : (orb.exitChain.piCurrent .joinedCallChain).half = none := by
    simp [exitChain, setSlot, Any.half]
  constructor
  · rw [getJoinedChain_eq, empty]
    cases orb.exitChain.getCurrentConnection <;> rfl
  · rw [ClientInterceptor.getJoinedChain_eq, empty]

/-- Joining a chain that does not count as absent stores its half. -/
theorem joinChain_spec (orb : Orb) {chain : CallerChain}
    (present : chain.equal (.none platform) = false) :
    ∃ t, orb.joinChain platform chain = (.ok (), t) ∧
      (t.piCurrent .joinedCallChain).half = chain.half ∧ t.connections = orb.connections ∧
      t.getCurrentConnection = orb.getCurrentConnection := by
  obtain ⟨t, set, only, half⟩ := setJoinedChain_apply platform chain orb
  rw [present] at half
  refine ⟨t, ?_, half, ?_, ?_⟩
  · simp only [joinChain, present, Bool.false_eq_true, if_false]
    exact set
  · rw [only]
    rfl
  · rw [only]
    exact getCurrentConnection_setSlot orb _ (by decide)

/-- What is joined is reported and sent exactly if it is of version 2.1 and has as its target both
the one signed and the entity of the current connection. -/
theorem reportedAndSent_iff {orb : Orb} {ref : ConnRef} {info : LoginInfo} {chain : CallerChain}
    (current : orb.getCurrentConnection = some ref)
    (logged : (orb.connections ref).loginInfo = some info)
    (present : chain.equal (.none platform) = false) (carries : chain.Carries platform) :
    ReportedAndSent platform ref orb chain ↔ chain.signedChain.encoded ≠ [] ∧
      chain.target = info.entity ∧ chain.SignedFor platform chain.target := by
  obtain ⟨joined, ran, half, connections, still⟩ := joinChain_spec orb present
  have exited := getJoinedChain_exitChain platform ref joined
  have readers : ReportedAndSent platform ref orb chain ↔
      (∃ reported, joined.getJoinedChain platform = .ok reported ∧ reported.SameAs chain) ∧
        ∃ sent, ClientInterceptor.getJoinedChain platform ref joined = .ok sent ∧
          sent.SameAs chain := by
    constructor
    · rintro ⟨t, again, reported, sent, -⟩
      obtain ⟨-, rfl⟩ := Prod.mk.inj (ran.symm.trans again)
      exact ⟨reported, sent⟩
    · rintro ⟨reported, sent⟩
      exact ⟨joined, ran, reported, sent, exited.1, exited.2⟩
  rw [readers, getJoinedChain_eq, ClientInterceptor.getJoinedChain_eq, half, still, current]
  by_cases nonempty : chain.signedChain.encoded ≠ []
  · obtain ⟨call, decoded, bus, originators, caller⟩ := carries.current nonempty
    have value : ∃ any, platform.decodeValue chain.signedChain.encoded .callChain = .ok any ∧
        any.extractCallChain = call := map_eq_ok_iff.mp decoded
    obtain ⟨any, value, extracted⟩ := value
    have reported : reportHalf platform (joined.connections ref) chain.signedChain =
        .ok (.ofCallChain platform call info.entity chain.signedChain) := by
      simp only [reportHalf, value, extracted, connections, loginEntity, logged, Except.map]
    have same := CallerChain.sameAs_ofCallChain_iff platform nonempty bus
      originators caller
    rw [CallerChain.half_of_current nonempty]
    simp only [reported, decoded, Except.map, Except.ok.injEq, exists_eq_left', same,
      CallerChain.SignedFor, nonempty, ne_eq, not_false_eq_true, true_and]
    exact and_congr_left fun _ => eq_comm
  · -- The context does not report a chain of version 2.0.
    refine iff_of_false ?_ fun both => nonempty both.1
    rintro ⟨⟨reported, found, same⟩, -⟩
    have legacy : chain.half = some (.legacy, chain.legacySignedChain) := by
      have signed := carries.signed
      unfold CallerChain.half at signed ⊢
      rw [if_neg nonempty] at signed ⊢
      split at signed
      · next some => exact if_pos some
      · exact absurd rfl signed
    rw [legacy] at found
    cases found
    have absent := same.2.2.2.2
    rw [legacy] at absent
    cases absent

namespace Reference

/-- An ORB whose default connection is logged in for an entity. -/
def loggedAs (entity : Identifier) : Orb where
  connections _ := { (Connection.init ⟨[2]⟩ true).loginInit ReferencePlatform.facets with
    loginInfo := some ⟨ascii "c", entity⟩, state := .logged }
  alive _ := true
  defConn := some 0
  id2conn _ := none
  piCurrent _ := .empty
  sessionLRUCache := .ofSize 128
  callChainLRUCache := .ofSize 128
  legacyCallChainLRUCache := .ofSize 128
  requestId2conn _ := none

def call : CallChain := ⟨ascii "B", ascii "S", [], ⟨ascii "a", ascii "A"⟩⟩

/-- A chain made for a call to the entity `S`. -/
def chain : CallerChain :=
  .ofCallChain referencePlatform call (ascii "S")
    ⟨.replicate 256 1, referencePlatform.encodeValue (.callChain call)⟩

/-- The same chain as it is received in a call of version 2.0. -/
def legacyChain : CallerChain :=
  .ofLegacyCallChain referencePlatform ⟨ascii "S", [], ⟨ascii "a", ascii "A"⟩⟩ (ascii "B")
    (ascii "S") ⟨.replicate 256 1, referencePlatform.encodeValue
      (.legacyCallChain ⟨ascii "S", [], ⟨ascii "a", ascii "A"⟩⟩)⟩

theorem carries : chain.Carries referencePlatform :=
  ⟨by decide +kernel, fun _ => ⟨call, by decide +kernel, rfl, rfl, rfl⟩,
    fun signed => absurd rfl signed⟩

theorem legacyCarries : legacyChain.Carries referencePlatform :=
  ⟨by decide +kernel, fun signed => absurd rfl signed,
    fun _ => ⟨⟨ascii "S", [], ⟨ascii "a", ascii "A"⟩⟩, by decide +kernel, rfl, rfl⟩⟩

end Reference

open Reference in
theorem reportedAndSent_received :
    ReportedAndSent referencePlatform 0 (loggedAs (ascii "S")) chain ↔
      chain.signedChain.encoded ≠ [] ∧ chain.target = ascii "S" ∧
        chain.SignedFor referencePlatform chain.target := by
  have current : (loggedAs (ascii "S")).getCurrentConnection = some 0 := by decide +kernel
  exact reportedAndSent_iff current rfl (by decide +kernel) carries

open Reference in
/-- A chain made for another entity is reported with the entity of the connection as its target,
and a chain of version 2.0 is not reported at all. -/
theorem joined_not_reported :
    (chain.Carries referencePlatform ∧
      ¬ ReportedAndSent referencePlatform 0 (loggedAs (ascii "C")) chain) ∧
    legacyChain.Carries referencePlatform ∧
      ¬ ReportedAndSent referencePlatform 0 (loggedAs (ascii "S")) legacyChain := by
  refine ⟨⟨carries, ?_⟩, legacyCarries, ?_⟩
  · rintro ⟨joined, ran, ⟨reported, found, -, target, -⟩, -⟩
    have entity : (((loggedAs (ascii "C")).joinChain referencePlatform chain).2.getJoinedChain
        referencePlatform).map CallerChain.target = .ok (ascii "C") := by decide +kernel
    simp only [ran, found] at entity
    have differ : chain.target ≠ ascii "C" := by decide +kernel
    exact differ (target.symm.trans (Except.ok.inj entity))
  · rintro ⟨joined, ran, ⟨reported, found, -, target, -⟩, -⟩
    have absent : (((loggedAs (ascii "S")).joinChain referencePlatform legacyChain).2.getJoinedChain
        referencePlatform).map CallerChain.target = .ok [] := by decide +kernel
    simp only [ran, found] at absent
    have differ : legacyChain.target ≠ [] := by decide +kernel
    exact differ (target.symm.trans (Except.ok.inj absent))

end Orb

end OpenBus
