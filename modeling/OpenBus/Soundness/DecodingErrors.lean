import OpenBus.Model.ReferencePlatform
import OpenBus.Proofs.Exports

/-! # What decoding an export raises

A stream that is no export should be refused with `InvalidEncodedStream`. Both decoders rename the
system exceptions of the codec while they read the entries. What the codec itself declares they
never rename, and past the entries nothing is: that of a chain has a handler there which fails
itself. A stream without a whole tag is refused with one of the exceptions of the codec.
-/

namespace OpenBus

open Machine

namespace ChainExport

variable {platform : Platform} {stream : OctetSeq}

/-- How a stream should be refused. -/
def Refused (e : Exception) : Prop := e = .invalidEncodedStream

@[simp] theorem refused_invalidEncodedStream : Refused .invalidEncodedStream := rfl

/-- A decoder returns, or refuses its stream. -/
def ReturnsOrRefuses {α : Type} (result : Except Exception α) : Prop := ErrorsAmong Refused result

variable (platform) in
/-- The codec does not refuse the octets with an exception that it declares. -/
def Tolerated (data : OctetSeq) (type : TypeCode) : Prop :=
  ErrorsAmong (fun e => e.isSystem = true) (platform.decodeValue data type)

variable (platform) in
/-- What a chain is read from decodes on both levels. -/
def EntryDecodes (entry : VersionedData) : Prop :=
  if entry.version = exportVersion then
    ∃ any, platform.decodeValue entry.encoded .signedData = .ok any ∧
      ∃ chain, Orb.decodeChainData platform any.extractSignedData = .ok chain
  else
    ∃ any, platform.decodeValue entry.encoded .legacyExportedCallChain = .ok any ∧
      ∃ chain, Orb.decodeLegacyChainData platform
        any.extractLegacyExportedCallChain.signedChain = .ok chain

variable (platform) in
/-- The streams for which `decodeChain` does what is documented. -/
structure ChainStream (stream : OctetSeq) : Prop where
  long : magicTagSize ≤ stream.length
  entries : Tolerated platform (stream.drop magicTagSize) .versionedDataSeq
  first : ∀ seq entry, streamEntries platform stream = .ok (.versionedDataSeq seq) →
    streamTag stream = magicTagCallChain →
    seq.find? (fun entry => decide (IsKnown entry)) = some entry → EntryDecodes platform entry

variable (platform) in
/-- The streams for which `decodeSharedAuthSecret` does what is documented. -/
structure SecretStream (stream : OctetSeq) : Prop where
  long : magicTagSize ≤ stream.length
  entries : Tolerated platform (stream.drop magicTagSize) .versionedDataSeq
  known : ∀ seq, streamEntries platform stream = .ok (.versionedDataSeq seq) →
    streamTag stream = magicTagSharedAuth → ∀ entry ∈ seq, IsKnown entry →
      ∃ any, platform.decodeValue entry.encoded
        (.exportedSharedAuth (SharedAuth.entryProtocol entry)) = .ok any

/-- What the codec may raise. -/
def CodecError (e : Exception) : Prop :=
  e = .formatMismatch ∨ e = .typeMismatch ∨ e.isSystem = true

/-- No exception of the codec is the one that a decoder may raise. -/
theorem errorsAmong_refused_iff {α : Type} {result : Except Exception α}
    (errors : ErrorsAmong CodecError result) :
    ErrorsAmong Refused result ↔ ∃ a, result = .ok a := by
  cases result with
  | ok a => simp
  | error e =>
    refine iff_of_false ?_ (by simp)
    rw [errorsAmong_error_iff]
    rintro rfl
    rcases errors _ rfl with same | same | same <;> cases same

theorem errorsAmong_streamEntries_iff (fails : platform.CodecFails) :
    ErrorsAmong (fun e => e.isSystem = true ∨ Refused e) (streamEntries platform stream) ↔
      Tolerated platform (stream.drop magicTagSize) .versionedDataSeq := by
  constructor
  · intro errors e failed
    rcases errors e failed with system | rfl
    · exact system
    · rcases fails _ _ _ failed with same | same | same <;> cases same
  · exact fun errors => errors.mono fun _ => Or.inl

theorem decodeCurrent_errors (fails : platform.CodecFails) (encoded : OctetSeq) :
    ErrorsAmong CodecError (decodeCurrent platform encoded) := by
  refine errorsAmong_bind_iff.mpr ⟨fails _ _, fun any _ => ?_⟩
  refine errorsAmong_bind_iff.mpr ⟨errorsAmong_map_iff.mpr (fails _ _), fun _ _ => ?_⟩
  exact errorsAmong_ok _

theorem decodeLegacy_errors (fails : platform.CodecFails) (encoded : OctetSeq) :
    ErrorsAmong CodecError (decodeLegacy platform encoded) := by
  refine errorsAmong_bind_iff.mpr ⟨fails _ _, fun any _ => ?_⟩
  refine errorsAmong_bind_iff.mpr ⟨errorsAmong_map_iff.mpr (fails _ _), fun _ _ => ?_⟩
  exact errorsAmong_ok _

theorem errorsAmong_decodeEntry_iff (fails : platform.CodecFails) (entry : VersionedData) :
    ErrorsAmong Refused (decodeEntry platform entry) ↔ EntryDecodes platform entry := by
  unfold decodeEntry EntryDecodes
  split
  · rw [errorsAmong_refused_iff (decodeCurrent_errors fails _)]
    simp [decodeCurrent, bind_eq_ok_iff, pure, Except.pure]
  · rw [errorsAmong_refused_iff (decodeLegacy_errors fails _)]
    simp [decodeLegacy, bind_eq_ok_iff, pure, Except.pure]

/-- Only the first entry of a known version is read. -/
theorem errorsAmong_decodeEntries_iff (fails : platform.CodecFails) (seq : List VersionedData) :
    ErrorsAmong Refused (decodeEntries platform seq) ↔
      ∀ entry, seq.find? (fun entry => decide (IsKnown entry)) = some entry →
        EntryDecodes platform entry := by
  rw [decodeEntries_eq]
  cases seq.find? fun entry => decide (IsKnown entry) with
  | none => simp
  | some entry => simp [errorsAmong_decodeEntry_iff fails]

/-- The handler of `decodeChain` raises nothing that may be raised. -/
theorem returnsOrRefuses_decodeChain_iff_decodeStream :
    ReturnsOrRefuses (decodeChain platform stream) ↔
      ErrorsAmong Refused (decodeStream platform stream) := by
  unfold ReturnsOrRefuses decodeChain
  cases decodeStream platform stream with
  | ok chain => simp
  | error e =>
    cases system : e.isSystem with
    | false => simp [system]
    | true => cases e <;> simp_all [Refused, Exception.isSystem]

/-- A tag of another kind is refused whatever comes after it. -/
theorem errorsAmong_unless_iff {α : Type} {allowed : Exception → Prop}
    (invalid : allowed .invalidEncodedStream) {p : Prop} [Decidable p]
    {rest : Except Exception α} :
    ErrorsAmong allowed (if p then throw .invalidEncodedStream else rest) ↔
      (¬ p → ErrorsAmong allowed rest) := by
  split
  · next other => exact iff_of_true (errorsAmong_error_iff.mpr invalid) fun own => absurd other own
  · next own => exact ⟨fun errors _ => errors, fun errors => errors own⟩

theorem returnsOrRefuses_decodeChain_iff (fails : platform.CodecFails)
    (typed : platform.CodecTyped) :
    ReturnsOrRefuses (decodeChain platform stream) ↔ ChainStream platform stream := by
  have mismatch : ¬ Refused .formatMismatch := by simp [Refused]
  rw [returnsOrRefuses_decodeChain_iff_decodeStream, decodeStream, errorsAmong_bind_iff,
    errorsAmong_decodeExportedVersions_iff typed mismatch refused_invalidEncodedStream,
    errorsAmong_streamEntries_iff fails]
  constructor
  · rintro ⟨⟨long, tolerated⟩, rest⟩
    refine ⟨long, tolerated, fun seq entry read own found => ?_⟩
    have decoded := rest _ (decodeExportedVersions_ok_iff.mpr ⟨long, rfl, read⟩)
    have errors :=
      (errorsAmong_unless_iff refused_invalidEncodedStream).mp decoded (not_not.mpr own)
    exact (errorsAmong_decodeEntries_iff fails seq).mp errors entry found
  · rintro ⟨long, tolerated, first⟩
    refine ⟨⟨long, tolerated⟩, ?_⟩
    rintro ⟨tag, seq⟩ decoded
    obtain ⟨-, rfl, read⟩ := decodeExportedVersions_ok_iff.mp decoded
    refine (errorsAmong_unless_iff refused_invalidEncodedStream).mpr fun own => ?_
    apply (errorsAmong_decodeEntries_iff fails seq).mpr
    exact fun entry found => first seq entry read (not_not.mp own) found

theorem errorsAmong_decodeSharedAuth_iff (fails : platform.CodecFails) (protocol : Protocol)
    (encoded : OctetSeq) :
    ErrorsAmong Refused (SharedAuth.decodeSharedAuth platform protocol encoded) ↔
      ∃ any, platform.decodeValue encoded (.exportedSharedAuth protocol) = .ok any := by
  rw [SharedAuth.decodeSharedAuth, errorsAmong_map_iff]
  exact errorsAmong_refused_iff (fails _ _)

theorem errorsAmong_foldlM_readEntry_iff (fails : platform.CodecFails) (seq : List VersionedData)
    (read : SharedAuthSecret × Bool) :
    ErrorsAmong Refused (seq.foldlM (SharedAuth.readEntry platform) read) ↔
      ∀ entry ∈ seq, IsKnown entry →
        ∃ any, platform.decodeValue entry.encoded
          (.exportedSharedAuth (SharedAuth.entryProtocol entry)) = .ok any := by
  induction seq generalizing read with
  | nil => simp [pure, Except.pure]
  | cons entry rest ih =>
    rw [List.foldlM_cons, errorsAmong_bind_iff, List.forall_mem_cons]
    by_cases known : IsKnown entry
    · rw [SharedAuth.readEntry_of_known known, errorsAmong_map_iff,
        errorsAmong_decodeSharedAuth_iff fails]
      constructor
      · rintro ⟨⟨any, decoded⟩, others⟩
        refine ⟨fun _ => ⟨any, decoded⟩, ?_⟩
        apply (ih _).mp
        exact others _ (by rw [SharedAuth.decodeSharedAuth, decoded]; rfl)
      · rintro ⟨own, others⟩
        exact ⟨own known, fun next _ => (ih next).mpr others⟩
    · rw [SharedAuth.readEntry_of_unknown known]
      simp [known, ih]

theorem returnsOrRefuses_decodeSharedAuthSecret_iff (fails : platform.CodecFails)
    (typed : platform.CodecTyped) :
    ReturnsOrRefuses (SharedAuth.decodeSharedAuthSecret platform stream) ↔
      SecretStream platform stream := by
  have mismatch : ¬ Refused .formatMismatch := by simp [Refused]
  rw [ReturnsOrRefuses, SharedAuth.decodeSharedAuthSecret, errorsAmong_bind_iff,
    errorsAmong_decodeExportedVersions_iff typed mismatch refused_invalidEncodedStream,
    errorsAmong_streamEntries_iff fails]
  constructor
  · rintro ⟨⟨long, tolerated⟩, rest⟩
    refine ⟨long, tolerated, fun seq read own => ?_⟩
    have decoded := rest _ (decodeExportedVersions_ok_iff.mpr ⟨long, rfl, read⟩)
    have errors :=
      (errorsAmong_unless_iff refused_invalidEncodedStream).mp decoded (not_not.mpr own)
    exact (errorsAmong_foldlM_readEntry_iff fails seq _).mp (errorsAmong_bind_iff.mp errors).1
  · rintro ⟨long, tolerated, known⟩
    refine ⟨⟨long, tolerated⟩, ?_⟩
    rintro ⟨tag, seq⟩ decoded
    obtain ⟨-, rfl, read⟩ := decodeExportedVersions_ok_iff.mp decoded
    refine (errorsAmong_unless_iff refused_invalidEncodedStream).mpr fun own => ?_
    refine errorsAmong_bind_iff.mpr ⟨?_, ?_⟩
    · apply (errorsAmong_foldlM_readEntry_iff fails seq _).mpr
      exact known seq read (not_not.mp own)
    · rintro ⟨secret, found⟩ -
      cases found
      · exact errorsAmong_error_iff.mpr refused_invalidEncodedStream
      · exact errorsAmong_ok _

/-- Both decoders do what is documented exactly on these streams. -/
theorem decoding_returnsOrRefuses_iff (fails : platform.CodecFails) (typed : platform.CodecTyped)
    (stream : OctetSeq) :
    (ReturnsOrRefuses (decodeChain platform stream) ↔ ChainStream platform stream) ∧
      (ReturnsOrRefuses (SharedAuth.decodeSharedAuthSecret platform stream) ↔
        SecretStream platform stream) :=
  ⟨returnsOrRefuses_decodeChain_iff fails typed,
    returnsOrRefuses_decodeSharedAuthSecret_iff fails typed⟩

theorem decoding_returnsOrRefuses_iff_magicTag :
    (ReturnsOrRefuses (decodeChain referencePlatform magicTagCallChain) ↔
        ChainStream referencePlatform magicTagCallChain) ∧
      (ReturnsOrRefuses (SharedAuth.decodeSharedAuthSecret referencePlatform magicTagCallChain) ↔
        SecretStream referencePlatform magicTagCallChain) :=
  decoding_returnsOrRefuses_iff ReferencePlatform.codecFails ReferencePlatform.codecTyped
    magicTagCallChain

/-- A stream that ends before its tag does is refused with `FormatMismatch`. -/
theorem short_stream_mismatches :
    ¬ ReturnsOrRefuses (decodeChain referencePlatform []) ∧
      ¬ ReturnsOrRefuses (SharedAuth.decodeSharedAuthSecret referencePlatform []) := by
  have chain : decodeChain referencePlatform [] = .error .formatMismatch := by rfl
  have secret : SharedAuth.decodeSharedAuthSecret referencePlatform [] =
      .error .formatMismatch := by rfl
  constructor
  · rw [chain, ReturnsOrRefuses, errorsAmong_error_iff]
    exact fun refused => by cases refused
  · rw [secret, ReturnsOrRefuses, errorsAmong_error_iff]
    exact fun refused => by cases refused

end ChainExport

end OpenBus
