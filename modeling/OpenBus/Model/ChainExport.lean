import OpenBus.Model.Orb

/-! # Exported chains

`encodeChain` writes what the bus signed for a chain in both protocol versions, that of version
2.0 first, behind a magic tag; a half which the bus has not signed is written all the same.
`decodeChain` reads the first entry of a version it knows and does not come back to the others.
-/

namespace OpenBus

namespace ChainExport

variable (platform : Platform)

def magicTagSize : ℕ := 4

/-- `encode_exported_versions` -/
def encodeExportedVersions (exportedVersionSeq : List VersionedData) (tag : Identifier) :
    OctetSeq :=
  tag ++ platform.encodeValue (.versionedDataSeq exportedVersionSeq)

/-- The tag of a stream and its entries. A zero in the tag ends the string made of it. -/
def decodeExportedVersions (stream : OctetSeq) : Except Exception (Identifier × List VersionedData) :=
  if stream.length < magicTagSize then .error .formatMismatch
  else
    let tag := (stream.take magicTagSize).takeWhile (· ≠ 0)
    match platform.decodeValue (stream.drop magicTagSize) .versionedDataSeq with
    | .ok (.versionedDataSeq seq) => .ok (tag, seq)
    | .ok _ => .error .fault
    | .error e => .error (if e.isSystem then .invalidEncodedStream else e)

/-- The entry of version 2.0. -/
def legacyExport (chain : CallerChain) : VersionedData where
  version := legacyCurrentVersion
  encoded := platform.encodeValue (.legacyExportedCallChain ⟨chain.busid, chain.legacySignedChain⟩)

/-- The entry of version 2.1. -/
def currentExport (chain : CallerChain) : VersionedData where
  version := exportVersion
  encoded := platform.encodeValue (.signedData chain.signedChain)

def encodeChain (chain : CallerChain) : OctetSeq :=
  encodeExportedVersions platform [legacyExport platform chain, currentExport platform chain]
    magicTagCallChain

/-- Read an entry of version 2.1. -/
def decodeCurrent (encoded : OctetSeq) : Except Exception CallerChain := do
  let exported ← platform.decodeValue encoded .signedData
  let exportedChain := exported.extractSignedData
  let callChain ← Orb.decodeChainData platform exportedChain
  return .ofCallChain platform callChain callChain.target exportedChain

/-- Read an entry of version 2.0. -/
def decodeLegacy (encoded : OctetSeq) : Except Exception CallerChain := do
  let exported ← platform.decodeValue encoded .legacyExportedCallChain
  let exportedChain := exported.extractLegacyExportedCallChain
  let callChain ← Orb.decodeLegacyChainData platform exportedChain.signedChain
  return .ofLegacyCallChain platform callChain exportedChain.bus callChain.target
    exportedChain.signedChain

/-- The loop of `decodeChain`, which the first entry of a known version ends. -/
def decodeEntries : List VersionedData → Except Exception CallerChain
  | [] => .error .invalidEncodedStream
  | entry :: rest =>
      if entry.version = exportVersion then decodeCurrent platform entry.encoded
      else if entry.version = legacyCurrentVersion then decodeLegacy platform entry.encoded
      else decodeEntries rest

/-- What `decodeChain` runs under its handler. -/
def decodeStream (encoded : OctetSeq) : Except Exception CallerChain := do
  let (tag, seq) ← decodeExportedVersions platform encoded
  if tag ≠ magicTagCallChain then throw .invalidEncodedStream
  else decodeEntries platform seq

def decodeChain (encoded : OctetSeq) : Except Exception CallerChain :=
  match decodeStream platform encoded with
  | .ok chain => .ok chain
  -- The handler makes its message with the format string "... minor code '%2'", which is ill-formed.
  | .error e => .error (if e.isSystem then .badFormatString else e)

end ChainExport

end OpenBus
