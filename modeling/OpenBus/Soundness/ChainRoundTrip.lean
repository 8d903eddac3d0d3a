import OpenBus.Model.ReferencePlatform
import OpenBus.Proofs.Chains
import OpenBus.Proofs.Exports

/-! # What survives an export

A chain with both halves, or with that of version 2.0 alone, is read back from its legacy entry.
A chain which the bus has signed in version 2.1 only is not read back at all: the legacy entry
comes first and holds an empty chain, which the codec refuses. What is read back has the target
which the bus has signed, while a chain that `getCallerChain` has read has the entity of the
connection which was current then. An exported chain therefore survives exactly if it has no half of
version 2.1 and its target is the signed one.
-/

namespace OpenBus

namespace ChainExport

variable {platform : Platform}

/-- The chains which the library makes out of what the bus has signed. -/
inductive Built (platform : Platform) : CallerChain → Prop
  /-- Received in a call, imported, or made with legacy support off. -/
  | current {chain : CallChain} {signedChain : SignedData} (target : Identifier)
      (nonempty : signedChain.encoded ≠ [])
      (signed : Orb.decodeChainData platform signedChain = .ok chain) :
      Built platform (.ofCallChain platform chain target signedChain)
  /-- Received in a call of version 2.0. The bus and the target are those of the connection that is
  current when the chain is read. -/
  | legacy {chain : LegacyCallChain} {signedChain : SignedData} (busid target : Identifier)
      (signed : Orb.decodeLegacyChainData platform signedChain = .ok chain) :
      Built platform (.ofLegacyCallChain platform chain busid target signedChain)
  /-- Made with legacy support on; the converter has the same chain signed for version 2.0. -/
  | both {chain : CallChain} {signedChain legacySignedChain : SignedData}
      (nonempty : signedChain.encoded ≠ [])
      (signed : Orb.decodeChainData platform signedChain = .ok chain)
      (converted : Orb.decodeLegacyChainData platform legacySignedChain =
        .ok ⟨chain.target, chain.originators, chain.caller⟩) :
      Built platform
        { CallerChain.ofCallChain platform chain chain.target signedChain with legacySignedChain }

/-- What `getCallerChain` reads is such a chain, with the entity of the current connection. -/
theorem getCallerChain_built {orb : Orb} {chain : CallerChain}
    (read : orb.getCallerChain platform = .ok chain) :
    chain = .none platform ∨ Built platform chain ∧
      ∃ ref info, orb.getCurrentConnection = some ref ∧
        (orb.connections ref).loginInfo = some info ∧ chain.target = info.entity := by
  rw [Orb.getCallerChain_eq] at read
  split at read
  · next ref half current slot =>
    right
    have nonempty := Any.nonempty_of_half slot
    obtain ⟨protocol, signedChain⟩ := half
    have named {entity : Identifier} (found : Orb.loginEntity (orb.connections ref) = .ok entity) :
        ∃ info, (orb.connections ref).loginInfo = some info ∧ entity = info.entity := by
      cases login : (orb.connections ref).loginInfo with
      | none => simp [Orb.loginEntity, login] at found
      | some info =>
        simp only [Orb.loginEntity, login, Except.ok.injEq] at found
        exact ⟨info, rfl, found.symm⟩
    cases protocol with
    | current =>
      obtain ⟨call, entity, signed, found, rfl⟩ := Orb.extractHalf_current_eq_ok_iff.mp read
      obtain ⟨info, login, rfl⟩ := named found
      exact ⟨.current info.entity nonempty signed, ref, info, current, login, rfl⟩
    | legacy =>
      obtain ⟨call, entity, signed, found, rfl⟩ := Orb.extractHalf_legacy_eq_ok_iff.mp read
      obtain ⟨info, login, rfl⟩ := named found
      exact ⟨.legacy _ info.entity signed, ref, info, current, login, rfl⟩
  · cases read
    exact .inl rfl

/-- The target that a chain of version 2.0 has is the one which the bus has signed. -/
def TargetSigned (platform : Platform) (chain : CallerChain) : Prop :=
  ∀ callChain, Orb.decodeLegacyChainData platform chain.legacySignedChain = .ok callChain →
    chain.target = callChain.target

/-- The decoded chain has the same fields, the same chain of version 2.1 if there was one, and
joining it has the same effect. -/
def RoundTrips (platform : Platform) (chain : CallerChain) : Prop :=
  ∃ decoded, decodeChain platform (encodeChain platform chain) = .ok decoded ∧
    decoded.busid = chain.busid ∧ decoded.target = chain.target ∧
    decoded.originators = chain.originators ∧ decoded.caller = chain.caller ∧
    (chain.signedChain.encoded ≠ [] → decoded.signedChain = chain.signedChain) ∧
    ∀ orb, Orb.joinChain platform decoded orb = Orb.joinChain platform chain orb

theorem decodeExportedVersions_callChain (inverts : platform.CodecInverts)
    (seq : List VersionedData) :
    decodeExportedVersions platform (encodeExportedVersions platform seq magicTagCallChain) =
      .ok (magicTagCallChain, seq) := by
  have tag : (magicTagCallChain.takeWhile (· ≠ 0)) = magicTagCallChain := by decide +kernel
  rw [decodeExportedVersions_encode inverts.entries (by decide +kernel), tag]

/-- The legacy entry comes first, so it is the one that is read. -/
theorem decodeChain_encodeChain (inverts : platform.CodecInverts) (chain : CallerChain) :
    decodeChain platform (encodeChain platform chain) =
      match Orb.decodeLegacyChainData platform chain.legacySignedChain with
      | .ok callChain => .ok (.ofLegacyCallChain platform callChain chain.busid callChain.target
          chain.legacySignedChain)
      | .error e => .error (if e.isSystem then .badFormatString else e) := by
  have exported := inverts (.legacyExportedCallChain ⟨chain.busid, chain.legacySignedChain⟩)
  rw [Any.type] at exported
  have differ : legacyCurrentVersion ≠ exportVersion := by decide
  rw [decodeChain, decodeStream, encodeChain, decodeExportedVersions_callChain inverts]
  simp only [bind, Except.bind, decodeEntries, legacyExport, decodeLegacy, exported,
    Any.extractLegacyExportedCallChain, ne_eq, not_true_eq_false, if_false, differ, if_true]
  rcases Orb.decodeLegacyChainData platform chain.legacySignedChain with e | callChain <;> rfl

/-- A chain that is read back has a half of version 2.0, and nothing else of it is left. -/
theorem decodeChain_encodeChain_ok_iff (inverts : platform.CodecInverts)
    {chain decoded : CallerChain} :
    decodeChain platform (encodeChain platform chain) = .ok decoded ↔
      ∃ callChain, Orb.decodeLegacyChainData platform chain.legacySignedChain = .ok callChain ∧
        decoded = .ofLegacyCallChain platform callChain chain.busid callChain.target
          chain.legacySignedChain := by
  rw [decodeChain_encodeChain inverts]
  cases Orb.decodeLegacyChainData platform chain.legacySignedChain with
  | error e => simp
  | ok callChain => simp [eq_comm]

/-- A call chain of the bus, and the signed chain of version 2.1 which carries it. -/
def importedCallChain : CallChain := ⟨ascii "bus", ascii "B", [], ⟨ascii "a", ascii "A"⟩⟩

def importedSignedChain : SignedData :=
  ⟨.replicate 256 1, referencePlatform.encodeValue (.callChain importedCallChain)⟩

def importedChain : CallerChain :=
  .ofCallChain referencePlatform importedCallChain (ascii "B") importedSignedChain

/-- An exported chain survives exactly if the bus has not signed it in version 2.1, and has signed
it for the target that it has. -/
theorem roundTrips_iff (inverts : platform.CodecInverts) (empty : platform.RefusesEmpty)
    {chain : CallerChain} (built : Built platform chain) :
    RoundTrips platform chain ↔
      chain.signedChain.encoded = [] ∧ TargetSigned platform chain := by
  cases built with
  | current target nonempty signed =>
    refine iff_of_false ?_ fun condition => nonempty condition.1
    rintro ⟨decoded, read, -⟩
    obtain ⟨callChain, legacy, -⟩ := (decodeChain_encodeChain_ok_iff inverts).mp read
    have refused := empty .legacyCallChain
    cases absent : platform.decodeValue [] .legacyCallChain with
    | error e =>
      simp [Orb.decodeLegacyChainData, CallerChain.ofCallChain, CallerChain.unsigned, absent,
        Except.map] at legacy
    | ok any => exact refused any absent
  | @legacy callChain signedChain busid target signed =>
    constructor
    · rintro ⟨decoded, read, -, sameTarget, -⟩
      obtain ⟨other, decodes, rfl⟩ := (decodeChain_encodeChain_ok_iff inverts).mp read
      refine ⟨rfl, fun callChain decodes' => ?_⟩
      obtain rfl : other = callChain := Except.ok.inj (decodes.symm.trans decodes')
      exact sameTarget.symm
    · rintro ⟨-, targetSigned⟩
      have same : target = callChain.target := targetSigned callChain signed
      refine ⟨.ofLegacyCallChain platform callChain busid callChain.target signedChain,
        ?_, rfl, same.symm, rfl, rfl, fun _ => rfl, fun orb => ?_⟩
      · exact (decodeChain_encodeChain_ok_iff inverts).mpr ⟨callChain, signed, rfl⟩
      · rw [same]
  | both nonempty signed converted =>
    refine iff_of_false ?_ fun condition => nonempty condition.1
    rintro ⟨decoded, read, -, -, -, -, same, -⟩
    obtain ⟨callChain, -, rfl⟩ := (decodeChain_encodeChain_ok_iff inverts).mp read
    -- The half of version 2.1 was there before and is not there afterwards.
    exact nonempty (congrArg SignedData.encoded (same nonempty)).symm

theorem built_importedChain : Built referencePlatform importedChain :=
  .current (ascii "B") (by decide +kernel) (by decide +kernel)

/-- A chain of version 2.0 which the bus has signed for calls to `B`. -/
def receivedCallChain : LegacyCallChain := ⟨ascii "B", [], ⟨ascii "a", ascii "A"⟩⟩

def receivedSignedChain : SignedData :=
  ⟨.replicate 256 1, referencePlatform.encodeValue (.legacyCallChain receivedCallChain)⟩

/-- The same chain as it is read while a connection with the entity `target` is current. -/
def receivedChain (target : Identifier) : CallerChain :=
  .ofLegacyCallChain referencePlatform receivedCallChain (ascii "bus") target receivedSignedChain

theorem decode_receivedSignedChain :
    Orb.decodeLegacyChainData referencePlatform receivedSignedChain = .ok receivedCallChain := by
  decide +kernel

theorem built_receivedChain (target : Identifier) :
    Built referencePlatform (receivedChain target) :=
  .legacy (ascii "bus") target decode_receivedSignedChain

theorem roundTrips_iff_receivedChain : RoundTrips referencePlatform (receivedChain (ascii "B")) := by
  apply (roundTrips_iff ReferencePlatform.codecInverts ReferencePlatform.refusesEmpty
    (built_receivedChain (ascii "B"))).mpr
  refine ⟨rfl, fun callChain decodes => ?_⟩
  obtain rfl : receivedCallChain = callChain :=
    Except.ok.inj (decode_receivedSignedChain.symm.trans decodes)
  rfl

/-- A chain of version 2.1 alone cannot be read back. One of version 2.0 that was read under another
entity comes back with another target. -/
theorem importedChain_not_roundTrips :
    (Built referencePlatform importedChain ∧ ¬ RoundTrips referencePlatform importedChain) ∧
    (Built referencePlatform (receivedChain (ascii "C")) ∧
      ¬ RoundTrips referencePlatform (receivedChain (ascii "C"))) := by
  refine ⟨⟨built_importedChain, ?_⟩, built_receivedChain (ascii "C"), ?_⟩
  · rintro ⟨decoded, read, -⟩
    obtain ⟨callChain, legacy, -⟩ :=
      (decodeChain_encodeChain_ok_iff ReferencePlatform.codecInverts).mp read
    cases legacy
  · rintro ⟨decoded, read, -, target, -⟩
    obtain ⟨callChain, legacy, rfl⟩ :=
      (decodeChain_encodeChain_ok_iff ReferencePlatform.codecInverts).mp read
    obtain rfl : receivedCallChain = callChain :=
      Except.ok.inj (decode_receivedSignedChain.symm.trans legacy)
    revert target
    decide +kernel

end ChainExport

end OpenBus
