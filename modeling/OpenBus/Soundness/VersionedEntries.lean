import OpenBus.Model.ReferencePlatform
import OpenBus.Proofs.Exports

/-! # Entries of other versions

A stream may have entries which only later versions of the library read. Neither decoder looks at
them. Where a secret has an entry of each version that is read, and they agree on what both of them
say, it does not matter which of them comes first.
-/

namespace OpenBus

open Machine

namespace ChainExport

variable {platform : Platform}

/-- The second list is the first one with entries of unknown versions put in anywhere. -/
inductive WithUnknown : List VersionedData → List VersionedData → Prop
  | nil : WithUnknown [] []
  | keep {seq longer : List VersionedData} (entry : VersionedData) (rest : WithUnknown seq longer) :
      WithUnknown (entry :: seq) (entry :: longer)
  | insert {seq longer : List VersionedData} {entry : VersionedData} (unknown : ¬ IsKnown entry)
      (rest : WithUnknown seq longer) : WithUnknown seq (entry :: longer)

theorem WithUnknown.filter_eq {seq longer : List VersionedData}
    (inserted : WithUnknown seq longer) :
    longer.filter (fun entry => decide (IsKnown entry)) =
      seq.filter fun entry => decide (IsKnown entry) := by
  induction inserted with
  | nil => rfl
  | keep entry rest ih => simp only [List.filter_cons, ih]
  | insert unknown rest ih => simpa [List.filter_cons, unknown] using ih

theorem filter_eq_nil {seq : List VersionedData} (unknown : ∀ entry ∈ seq, ¬ IsKnown entry) :
    seq.filter (fun entry => decide (IsKnown entry)) = [] := by
  simpa [List.filter_eq_nil_iff] using unknown

/-- What `decodeChain` makes of a stream, by its entries. -/
theorem decodeStream_encode (inverts : platform.EntriesInvert) {tag : Identifier}
    (size : tag.length = magicTagSize) (seq : List VersionedData) :
    decodeStream platform (encodeExportedVersions platform seq tag) =
      if tag.takeWhile (· ≠ 0) ≠ magicTagCallChain then .error .invalidEncodedStream
      else decodeEntries platform seq := by
  rw [decodeStream, decodeExportedVersions_encode inverts size]
  rfl

/-- What `decodeSharedAuthSecret` makes of a stream, by its entries. -/
theorem decodeSharedAuthSecret_encode (inverts : platform.EntriesInvert) {tag : Identifier}
    (size : tag.length = magicTagSize) (seq : List VersionedData) :
    SharedAuth.decodeSharedAuthSecret platform (encodeExportedVersions platform seq tag) =
      if tag.takeWhile (· ≠ 0) ≠ magicTagSharedAuth then .error .invalidEncodedStream
      else seq.foldlM (SharedAuth.readEntry platform) (.init, false) >>=
        SharedAuth.secretRead := by
  rw [SharedAuth.decodeSharedAuthSecret, decodeExportedVersions_encode inverts size]
  rfl

/-- Both decoders read the entries of known versions only. -/
theorem decode_congr (inverts : platform.EntriesInvert) {tag : Identifier}
    (size : tag.length = magicTagSize) (seq other : List VersionedData)
    (same : other.filter (fun entry => decide (IsKnown entry)) =
      seq.filter fun entry => decide (IsKnown entry)) :
    decodeChain platform (encodeExportedVersions platform other tag) =
        decodeChain platform (encodeExportedVersions platform seq tag) ∧
      SharedAuth.decodeSharedAuthSecret platform (encodeExportedVersions platform other tag) =
        SharedAuth.decodeSharedAuthSecret platform (encodeExportedVersions platform seq tag) := by
  constructor
  · rw [decodeChain, decodeChain, decodeStream_encode inverts size,
      decodeStream_encode inverts size, ← decodeEntries_filter other, ← decodeEntries_filter seq,
      same]
  · rw [decodeSharedAuthSecret_encode inverts size, decodeSharedAuthSecret_encode inverts size,
      ← SharedAuth.foldlM_readEntry_filter other, ← SharedAuth.foldlM_readEntry_filter seq, same]

theorem decode_nil (inverts : platform.EntriesInvert) {tag : Identifier}
    (size : tag.length = magicTagSize) :
    decodeChain platform (encodeExportedVersions platform [] tag) = .error .invalidEncodedStream ∧
      SharedAuth.decodeSharedAuthSecret platform (encodeExportedVersions platform [] tag) =
        .error .invalidEncodedStream := by
  constructor
  · rw [decodeChain, decodeStream_encode inverts size]
    split_ifs <;> rfl
  · rw [decodeSharedAuthSecret_encode inverts size]
    split_ifs <;> rfl

variable (platform) in
/-- An entry of each version, with the same bus and the same secret. -/
structure Agree (current legacy : VersionedData) : Prop where
  current_version : current.version = exportVersion
  legacy_version : legacy.version = legacyCurrentVersion
  agree : ∃ exported other, SharedAuth.decodeSharedAuth platform .current current.encoded =
      .ok exported ∧ SharedAuth.decodeSharedAuth platform .legacy legacy.encoded = .ok other ∧
    exported.bus = other.bus ∧ exported.secret = other.secret

/-- What two entries that agree say is put together in either order. -/
theorem readEntry_comm {current legacy : VersionedData} (agree : Agree platform current legacy)
    (read : SharedAuthSecret × Bool) :
    (SharedAuth.readEntry platform read current >>= fun next =>
        SharedAuth.readEntry platform next legacy) =
      SharedAuth.readEntry platform read legacy >>= fun next =>
        SharedAuth.readEntry platform next current := by
  obtain ⟨exported, other, decoded, legacyDecoded, bus, secret⟩ := agree.agree
  have differ : legacyCurrentVersion ≠ exportVersion := legacyCurrentVersion_ne_exportVersion
  simp [SharedAuth.readEntry, agree.current_version, agree.legacy_version, differ, decoded,
    legacyDecoded, bus, secret, bind, Except.bind, pure, Except.pure]

theorem foldlM_readEntry_exchange {current legacy : VersionedData}
    (agree : Agree platform current legacy) {between : List VersionedData}
    (unknown : ∀ entry ∈ between, ¬ IsKnown entry) (before after : List VersionedData)
    (read : SharedAuthSecret × Bool) :
    (before ++ legacy :: (between ++ current :: after)).foldlM
        (SharedAuth.readEntry platform) read =
      (before ++ current :: (between ++ legacy :: after)).foldlM
        (SharedAuth.readEntry platform) read := by
  have known : IsKnown current := .inl agree.current_version
  have legacyKnown : IsKnown legacy := .inr agree.legacy_version
  rw [← SharedAuth.foldlM_readEntry_filter, ← SharedAuth.foldlM_readEntry_filter (before ++ _)]
  simp only [List.filter_append, List.filter_cons, known, legacyKnown, decide_true, if_true,
    filter_eq_nil unknown, List.nil_append, List.foldlM_append]
  congr
  funext next
  simp only [List.foldlM_cons, ← bind_assoc, readEntry_comm agree]

/-- Entries of unknown versions make no difference, and neither does the order of two entries that
agree. -/
theorem decode_knownVersions (inverts : platform.EntriesInvert) {tag : Identifier}
    (size : tag.length = magicTagSize) :
    (∀ seq longer, WithUnknown seq longer →
      decodeChain platform (encodeExportedVersions platform longer tag) =
          decodeChain platform (encodeExportedVersions platform seq tag) ∧
        SharedAuth.decodeSharedAuthSecret platform (encodeExportedVersions platform longer tag) =
          SharedAuth.decodeSharedAuthSecret platform (encodeExportedVersions platform seq tag)) ∧
    (∀ seq : List VersionedData, (∀ entry ∈ seq, ¬ IsKnown entry) →
      decodeChain platform (encodeExportedVersions platform seq tag) =
          .error .invalidEncodedStream ∧
        SharedAuth.decodeSharedAuthSecret platform (encodeExportedVersions platform seq tag) =
          .error .invalidEncodedStream) ∧
    ∀ current legacy between, Agree platform current legacy →
      (∀ entry ∈ between, ¬ IsKnown entry) → ∀ before after,
        SharedAuth.decodeSharedAuthSecret platform (encodeExportedVersions platform
            (before ++ legacy :: (between ++ current :: after)) tag) =
          SharedAuth.decodeSharedAuthSecret platform (encodeExportedVersions platform
            (before ++ current :: (between ++ legacy :: after)) tag) := by
  refine ⟨fun seq longer inserted => ?_, fun seq unknown => ?_, ?_⟩
  · exact decode_congr inverts size seq longer inserted.filter_eq
  · have same := decode_congr inverts size [] seq (filter_eq_nil unknown)
    rw [same.1, same.2]
    exact decode_nil inverts size
  · intro current legacy between agree unknown before after
    rw [decodeSharedAuthSecret_encode inverts size, decodeSharedAuthSecret_encode inverts size,
      foldlM_readEntry_exchange agree unknown]

/-- A secret that can be finished in both versions. -/
def exampleSecret : SharedAuthSecret :=
  ⟨ascii "B", some ⟨ascii "B", 1⟩, some ⟨ascii "B", 2⟩, [7, 9], true⟩

def exampleEntry (protocol : Protocol) : VersionedData :=
  match protocol with
  | .current => SharedAuth.sharedAuthEntry referencePlatform .current exportVersion
      exampleSecret.loginProcess exampleSecret
  | .legacy => SharedAuth.sharedAuthEntry referencePlatform .legacy legacyCurrentVersion
      exampleSecret.legacyLoginProcess exampleSecret

/-- An entry of a version to come. -/
def laterEntry : VersionedData := ⟨exportVersion + 1, [1]⟩

theorem decode_knownVersions_example :
    (decodeChain referencePlatform (encodeExportedVersions referencePlatform
          [laterEntry, exampleEntry .current] magicTagSharedAuth) =
        decodeChain referencePlatform (encodeExportedVersions referencePlatform
          [exampleEntry .current] magicTagSharedAuth) ∧
      SharedAuth.decodeSharedAuthSecret referencePlatform (encodeExportedVersions
          referencePlatform [laterEntry, exampleEntry .current] magicTagSharedAuth) =
        SharedAuth.decodeSharedAuthSecret referencePlatform (encodeExportedVersions
          referencePlatform [exampleEntry .current] magicTagSharedAuth)) ∧
    (decodeChain referencePlatform (encodeExportedVersions referencePlatform [laterEntry]
          magicTagSharedAuth) = .error .invalidEncodedStream ∧
      SharedAuth.decodeSharedAuthSecret referencePlatform (encodeExportedVersions
          referencePlatform [laterEntry] magicTagSharedAuth) = .error .invalidEncodedStream) ∧
    SharedAuth.decodeSharedAuthSecret referencePlatform (encodeExportedVersions referencePlatform
        ([] ++ exampleEntry .legacy :: ([laterEntry] ++ exampleEntry .current :: []))
        magicTagSharedAuth) =
      SharedAuth.decodeSharedAuthSecret referencePlatform (encodeExportedVersions referencePlatform
        ([] ++ exampleEntry .current :: ([laterEntry] ++ exampleEntry .legacy :: []))
        magicTagSharedAuth) := by
  have later : ∀ entry ∈ [laterEntry], ¬ IsKnown entry := by decide
  have agree : Agree referencePlatform (exampleEntry .current) (exampleEntry .legacy) :=
    ⟨rfl, rfl, _, _,
      SharedAuth.decodeSharedAuth_sharedAuthEntry ReferencePlatform.codecInverts .current ..,
      SharedAuth.decodeSharedAuth_sharedAuthEntry ReferencePlatform.codecInverts .legacy ..,
      rfl, rfl⟩
  have size : magicTagSharedAuth.length = magicTagSize := rfl
  obtain ⟨inserted, unknown, exchanged⟩ :=
    decode_knownVersions ReferencePlatform.codecInverts.entries size
  exact ⟨inserted _ _ (.insert (by decide) (.keep _ .nil)), unknown _ later,
    exchanged _ _ [laterEntry] agree later [] []⟩

end ChainExport

end OpenBus
