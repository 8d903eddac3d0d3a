import OpenBus.Model.SharedAuth

/-! # How exports are read

The decoders read the tag and the entries of a stream in the same way. That of a chain then reads
the first entry of a version it knows, and that of a secret all of them, so entries of any other
version make no difference to either.
-/

namespace OpenBus

open Machine

namespace ChainExport

variable {platform : Platform} {stream : OctetSeq}

/-- An entry of a version which the library reads. -/
def IsKnown (entry : VersionedData) : Prop :=
  entry.version = exportVersion ∨ entry.version = legacyCurrentVersion

instance : DecidablePred IsKnown := fun _ => inferInstanceAs (Decidable (_ ∨ _))

theorem legacyCurrentVersion_ne_exportVersion : legacyCurrentVersion ≠ exportVersion := by decide

/-- The tag of a stream as a string. -/
def streamTag (stream : OctetSeq) : Identifier := (stream.take magicTagSize).takeWhile (· ≠ 0)

variable (platform) in
/-- What the codec makes of the octets after the tag. -/
def streamEntries (stream : OctetSeq) : Except Exception Any :=
  platform.decodeValue (stream.drop magicTagSize) .versionedDataSeq

theorem decodeExportedVersions_ok_iff {tag : Identifier} {seq : List VersionedData} :
    decodeExportedVersions platform stream = .ok (tag, seq) ↔
      magicTagSize ≤ stream.length ∧ tag = streamTag stream ∧
        streamEntries platform stream = .ok (.versionedDataSeq seq) := by
  unfold decodeExportedVersions streamEntries
  split
  · next short =>
    refine iff_of_false (by simp) ?_
    rintro ⟨long, -⟩
    omega
  · next long =>
    split
    · next found decoded =>
      simp only [decoded, Except.ok.injEq, Prod.mk.injEq, Any.versionedDataSeq.injEq]
      refine ⟨?_, ?_⟩
      · rintro ⟨rfl, rfl⟩
        exact ⟨by omega, rfl, rfl⟩
      · rintro ⟨-, rfl, rfl⟩
        exact ⟨rfl, rfl⟩
    · next any other decoded =>
      refine iff_of_false (by simp) ?_
      rintro ⟨-, -, read⟩
      rw [decoded] at read
      exact other _ (Except.ok.inj read)
    · next e refused => simp [refused]

/-- The tag of a stream and its entries are read back; a zero in the tag ends it. -/
theorem decodeExportedVersions_encode (inverts : platform.EntriesInvert)
    {tag : Identifier} (size : tag.length = magicTagSize) (seq : List VersionedData) :
    decodeExportedVersions platform (encodeExportedVersions platform seq tag) =
      .ok (tag.takeWhile (· ≠ 0), seq) := by
  rw [decodeExportedVersions_ok_iff, encodeExportedVersions]
  refine ⟨by simp [size], ?_, ?_⟩
  · rw [streamTag, List.take_left' size]
  · rw [streamEntries, List.drop_left' size]
    exact inverts seq

/-- Reading the tag and the entries fails on a short stream, and otherwise as the codec does, whose
system exceptions are renamed. -/
theorem errorsAmong_decodeExportedVersions_iff (typed : platform.CodecTyped)
    {allowed : Exception → Prop} (mismatch : ¬ allowed .formatMismatch)
    (invalid : allowed .invalidEncodedStream) :
    ErrorsAmong allowed (decodeExportedVersions platform stream) ↔
      magicTagSize ≤ stream.length ∧
        ErrorsAmong (fun e => e.isSystem = true ∨ allowed e) (streamEntries platform stream) := by
  unfold decodeExportedVersions streamEntries
  split
  · next short =>
    refine iff_of_false (fun errors => mismatch (errorsAmong_error_iff.mp errors)) ?_
    rintro ⟨long, -⟩
    omega
  · next long =>
    have enough : magicTagSize ≤ stream.length := by omega
    split
    · next found decoded => simp [decoded, enough]
    · next any other decoded =>
      have type := typed _ _ _ decoded
      cases any <;> cases type
      exact absurd rfl (other _)
    · next e refused =>
      simp only [refused, errorsAmong_error_iff, enough, true_and]
      cases system : e.isSystem <;> simp [invalid]

/-- Read an entry of a known version as a chain. -/
def decodeEntry (platform : Platform) (entry : VersionedData) : Except Exception CallerChain :=
  if entry.version = exportVersion then decodeCurrent platform entry.encoded
  else decodeLegacy platform entry.encoded

theorem decodeEntries_eq (seq : List VersionedData) :
    decodeEntries platform seq =
      match seq.find? fun entry => decide (IsKnown entry) with
      | some entry => decodeEntry platform entry
      | none => .error .invalidEncodedStream := by
  induction seq with
  | nil => rfl
  | cons entry rest ih =>
    rw [decodeEntries, List.find?_cons]
    split
    · next current =>
      have known : IsKnown entry := .inl current
      simp [known, decodeEntry, current]
    · next other =>
      split
      · next legacy =>
        have known : IsKnown entry := .inr legacy
        simp [known, decodeEntry, other]
      · next neither =>
        have unknown : ¬ IsKnown entry := by simp [IsKnown, other, neither]
        simp only [unknown, decide_false]
        exact ih

theorem decodeEntries_filter (seq : List VersionedData) :
    decodeEntries platform (seq.filter fun entry => decide (IsKnown entry)) =
      decodeEntries platform seq := by
  simp only [decodeEntries_eq, List.find?_filter, and_self, Bool.decide_eq_true]

end ChainExport

namespace SharedAuth

open ChainExport

variable {platform : Platform}

theorem readEntry_of_unknown {entry : VersionedData} (unknown : ¬ IsKnown entry)
    (read : SharedAuthSecret × Bool) : readEntry platform read entry = .ok read := by
  obtain ⟨other, neither⟩ := not_or.mp unknown
  rw [readEntry, if_neg other, if_neg neither]
  rfl

theorem foldlM_readEntry_filter (seq : List VersionedData) (read : SharedAuthSecret × Bool) :
    (seq.filter fun entry => decide (IsKnown entry)).foldlM (readEntry platform) read =
      seq.foldlM (readEntry platform) read := by
  rw [List.foldlM_filter]
  congr
  funext read entry
  by_cases known : IsKnown entry
  · simp [known]
  · simp [known, readEntry_of_unknown known, pure, Except.pure]

theorem decodeSharedAuth_sharedAuthEntry (inverts : platform.CodecInverts) (protocol : Protocol)
    (version : ULong) (attempt : Option ObjectRef) (secret : SharedAuthSecret) :
    decodeSharedAuth platform protocol
        (sharedAuthEntry platform protocol version attempt secret).encoded =
      .ok ⟨secret.busid, attempt, secret.secret⟩ := by
  have decoded := inverts (.exportedSharedAuth protocol ⟨secret.busid, attempt, secret.secret⟩)
  rw [Any.type] at decoded
  rw [decodeSharedAuth, sharedAuthEntry, decoded]
  simp [Except.map, Any.extractExportedSharedAuth]

/-- The protocol version of an entry of a known version. -/
def entryProtocol (entry : VersionedData) : Protocol :=
  if entry.version = exportVersion then .current else .legacy

/-- What an entry says, put into the secret made so far. -/
def withExported (protocol : Protocol) (exported : ExportedSharedAuth)
    (secret : SharedAuthSecret) : SharedAuthSecret :=
  match protocol with
  | .current =>
      { secret with
        busid := exported.bus, loginProcess := exported.attempt, secret := exported.secret }
  | .legacy =>
      { secret with
        busid := exported.bus, legacyLoginProcess := exported.attempt, secret := exported.secret }

theorem readEntry_of_known {entry : VersionedData} (known : IsKnown entry)
    (read : SharedAuthSecret × Bool) :
    readEntry platform read entry =
      (decodeSharedAuth platform (entryProtocol entry) entry.encoded).map fun exported =>
        (withExported (entryProtocol entry) exported read.1, true) := by
  rw [readEntry, entryProtocol]
  split
  · cases decodeSharedAuth platform .current entry.encoded <;> rfl
  · next other =>
    rw [if_pos (known.resolve_left other)]
    cases decodeSharedAuth platform .legacy entry.encoded <;> rfl

end SharedAuth

end OpenBus
