import Mathlib.Data.Vector.Basic
import Mathlib.Data.List.Basic

/-! # Data exchanged with the bus

The structures, constants and exceptions of the two protocol versions, as the stubs generated
from the interface definitions declare them. A template parameter that ranges over the two
`CredentialData` types is a `Protocol`. `Any` is the universe of the values which the library
puts into slots and encapsulations; `extract` yields a default value when the type differs.
-/

namespace OpenBus

abbrev Octet := BitVec 8
abbrev OctetSeq := List Octet
abbrev ULong := BitVec 32

/-- The characters of a string, without the terminating zero. -/
abbrev Identifier := List Octet

abbrev HashValue := Vector Octet 32
abbrev EncryptedBlock := Vector Octet 256
abbrev Secret := Vector Octet 16
abbrev Uuid := Vector Octet 16

def ascii (text : String) : Identifier := text.toList.map fun c => BitVec.ofNat 8 c.toNat

/-- The template parameter `C`: `idl::creden::CredentialData` or its legacy namesake. -/
inductive Protocol where
  | current
  | legacy
deriving DecidableEq, Repr

namespace Protocol

def majorVersion : Protocol → Octet
  | current => 2
  | legacy => 2

def minorVersion : Protocol → Octet
  | current => 1
  | legacy => 0

def credentialContextId : Protocol → ULong
  | current => 0x42555301
  | legacy => 0x42555300

end Protocol

def busLogin : Identifier := ascii "00000000-0000-0000-0000-000000000000"

def exportVersion : ULong := 0x42555301
def legacyCurrentVersion : ULong := 0x42555300

def magicTagCallChain : Identifier := ascii "BUS" ++ [1]
def magicTagSharedAuth : Identifier := ascii "BUS" ++ [2]

def invalidCredentialCode : ULong := 0x42555300
def invalidChainCode : ULong := 0x42555301
def invalidLoginCode : ULong := 0x42555302
def unverifiedLoginCode : ULong := 0x42555303
def unknownBusCode : ULong := 0x42555304
def invalidPublicKeyCode : ULong := 0x42555305
def noCredentialCode : ULong := 0x42555306
def noLoginCode : ULong := 0x425553FF
def invalidRemoteCode : ULong := 0x425553FE
def unavailableBusCode : ULong := 0x425553FD
def invalidTargetCode : ULong := 0x425553FC

/-- `LoginInfo` of both versions. -/
structure LoginInfo where
  id : Identifier
  entity : Identifier
deriving DecidableEq, Inhabited

/-- `operator==` on logins compares the identifiers only. -/
def LoginInfo.equal (lhs rhs : LoginInfo) : Bool := lhs.id == rhs.id

/-- `operator==` on sequences of logins. -/
def LoginInfo.equalSeq (lhs rhs : List LoginInfo) : Bool :=
  lhs.length == rhs.length && (lhs.zip rhs).all fun pair => pair.1.equal pair.2

/-- `SignedData`, and the legacy `SignedCallChain` with the same fields. -/
structure SignedData where
  signature : EncryptedBlock
  encoded : OctetSeq
deriving DecidableEq, Inhabited

structure CallChain where
  bus : Identifier
  target : Identifier
  originators : List LoginInfo
  caller : LoginInfo
deriving DecidableEq, Inhabited

/-- The call chain of version 2.0 does not name its bus. -/
structure LegacyCallChain where
  target : Identifier
  originators : List LoginInfo
  caller : LoginInfo
deriving DecidableEq, Inhabited

/-- `CredentialData` of both versions. -/
structure CredentialData where
  bus : Identifier
  login : Identifier
  session : ULong
  ticket : ULong
  hash : HashValue
  chain : SignedData
deriving DecidableEq, Inhabited

structure CredentialReset where
  target : Identifier
  entity : Identifier
  session : ULong
  challenge : EncryptedBlock
deriving DecidableEq, Inhabited

/-- The reset of version 2.0 does not name the entity of its sender. -/
structure LegacyCredentialReset where
  target : Identifier
  session : ULong
  challenge : EncryptedBlock
deriving DecidableEq, Inhabited

structure VersionedData where
  version : ULong
  encoded : OctetSeq
deriving DecidableEq, Inhabited

/-- The exported chain of version 2.0; that of version 2.1 is the signed chain itself. -/
structure LegacyExportedCallChain where
  bus : Identifier
  signedChain : SignedData
deriving DecidableEq, Inhabited

/-- A reference to an object of a bus. -/
structure ObjectRef where
  bus : Identifier
  index : ℕ
deriving DecidableEq

/-- `ExportedSharedAuth` of both versions; the login process may be nil. -/
structure ExportedSharedAuth where
  bus : Identifier
  attempt : Option ObjectRef
  secret : OctetSeq
deriving DecidableEq, Inhabited

structure LoginAuthenticationInfo where
  hash : HashValue
  data : OctetSeq
deriving DecidableEq

inductive CompletionStatus where
  | completedYes
  | completedNo
  | completedMaybe
deriving DecidableEq

inductive SystemException where
  | noPermission
  | badParam
  | objectNotExist
  | other (repositoryId : Identifier)
deriving DecidableEq

/-- What may be thrown. A failed assertion or an access without defined behaviour ends the
program: this `fault` is caught by no handler. -/
inductive Exception where
  | system (kind : SystemException) (minor : ULong) (completed : CompletionStatus)
  | formatMismatch
  | typeMismatch
  | forwardRequest
  | invalidLogins
  | user (repositoryId : Identifier)
  | invalidPublicKey
  | invalidPrivateKey
  | invalidEncodedStream
  | badFormatString
  | alreadyLoggedIn
  | wrongBus
  | invalidLoginProcess
  | foreign
  | fault
deriving DecidableEq

namespace Exception

/-- `CORBA::NO_PERMISSION` with a minor code and `COMPLETED_NO`. -/
def noPermission (minor : ULong) : Exception := system .noPermission minor .completedNo

/-- Caught as `CORBA::SystemException`. -/
def isSystem : Exception → Bool
  | system .. => true
  | _ => false

/-- Caught as `CORBA::Exception`: the system exceptions and those declared in an interface. -/
def isCorba : Exception → Bool
  | system .. | formatMismatch | typeMismatch | forwardRequest | invalidLogins | user _ => true
  | _ => false

/-- Caught by an ellipsis. -/
def isCatchable : Exception → Bool
  | fault => false
  | _ => true

end Exception

/-- `CORBA::Any`, over the types the library inserts. A UUID stands for its text form. -/
inductive Any where
  | empty
  | boolean (value : Bool)
  | string (value : Identifier)
  | uuid (value : Uuid)
  | loginInfo (value : LoginInfo)
  | signedData (value : SignedData)
  | signedCallChain (value : SignedData)
  | callChain (value : CallChain)
  | legacyCallChain (value : LegacyCallChain)
  | credentialData (protocol : Protocol) (value : CredentialData)
  | credentialReset (value : CredentialReset)
  | legacyCredentialReset (value : LegacyCredentialReset)
  | versionedDataSeq (value : List VersionedData)
  | legacyExportedCallChain (value : LegacyExportedCallChain)
  | exportedSharedAuth (protocol : Protocol) (value : ExportedSharedAuth)
  | loginAuthenticationInfo (value : LoginAuthenticationInfo)
deriving DecidableEq

inductive TypeCode where
  | null
  | boolean
  | string
  | uuid
  | loginInfo
  | signedData
  | signedCallChain
  | callChain
  | legacyCallChain
  | credentialData (protocol : Protocol)
  | credentialReset
  | legacyCredentialReset
  | versionedDataSeq
  | legacyExportedCallChain
  | exportedSharedAuth (protocol : Protocol)
  | loginAuthenticationInfo
deriving DecidableEq

namespace Any

def type : Any → TypeCode
  | empty => .null
  | boolean _ => .boolean
  | string _ => .string
  | uuid _ => .uuid
  | loginInfo _ => .loginInfo
  | signedData _ => .signedData
  | signedCallChain _ => .signedCallChain
  | callChain _ => .callChain
  | legacyCallChain _ => .legacyCallChain
  | credentialData protocol _ => .credentialData protocol
  | credentialReset _ => .credentialReset
  | legacyCredentialReset _ => .legacyCredentialReset
  | versionedDataSeq _ => .versionedDataSeq
  | legacyExportedCallChain _ => .legacyExportedCallChain
  | exportedSharedAuth protocol _ => .exportedSharedAuth protocol
  | loginAuthenticationInfo _ => .loginAuthenticationInfo

/-- Extraction with `Any::to_boolean`, into a variable that is false beforehand. -/
def toBoolean : Any → Bool
  | boolean value => value
  | _ => false

/-- Extraction of a string other than a UUID's. -/
def toString? : Any → Option Identifier
  | string value => some value
  | _ => none

def toUuid? : Any → Option Uuid
  | uuid value => some value
  | _ => none

def extractLoginInfo : Any → LoginInfo
  | loginInfo value => value
  | _ => default

def extractSignedData : Any → SignedData
  | signedData value => value
  | _ => default

def extractSignedCallChain : Any → SignedData
  | signedCallChain value => value
  | _ => default

def extractCallChain : Any → CallChain
  | callChain value => value
  | _ => default

def extractLegacyCallChain : Any → LegacyCallChain
  | legacyCallChain value => value
  | _ => default

def extractCredentialData (protocol : Protocol) : Any → CredentialData
  | credentialData found value => if found = protocol then value else default
  | _ => default

def extractCredentialReset : Any → CredentialReset
  | credentialReset value => value
  | _ => default

def extractLegacyCredentialReset : Any → LegacyCredentialReset
  | legacyCredentialReset value => value
  | _ => default

def extractLegacyExportedCallChain : Any → LegacyExportedCallChain
  | legacyExportedCallChain value => value
  | _ => default

def extractExportedSharedAuth (protocol : Protocol) : Any → ExportedSharedAuth
  | exportedSharedAuth found value => if found = protocol then value else default
  | _ => default

/-- Insertion of a signed chain under the type of its version. -/
def ofSignedChain : Protocol → SignedData → Any
  | .current, chain => signedData chain
  | .legacy, chain => signedCallChain chain

end Any

/-- Copy the first `n` octets of a buffer; reading past its end is a fault. -/
def memcpy (n : ℕ) (buffer : OctetSeq) : Except Exception (Vector Octet n) :=
  if long : n ≤ buffer.length then
    .ok ⟨(buffer.take n).toArray, by simpa using long⟩
  else .error .fault

theorem memcpy_toList {n : ℕ} (block : Vector Octet n) : memcpy n block.toList = .ok block := by
  unfold memcpy
  rw [dif_pos (by simp)]
  congr 1
  apply Vector.toList_inj.mp
  simp [Vector.toList]

theorem eq_fault_of_memcpy {n : ℕ} {buffer : OctetSeq} {e : Exception}
    (short : memcpy n buffer = .error e) : e = .fault := by
  unfold memcpy at short
  split at short <;> cases short
  rfl

/-- The slots which the library allocates in every request and thread. -/
inductive Slot where
  | currentConnection
  | joinedCallChain
  | signedCallChain
  | ignoreInterceptor
  | ignoreInvalidLogin
  | requestId
  | login
  | busid
deriving DecidableEq

abbrev SlotTable := Slot → Any

/-- The service contexts of a request or a reply. -/
abbrev ServiceContexts := ULong → Option OctetSeq

structure PublicKey where
  keySeq : OctetSeq
deriving DecidableEq

structure PrivateKey where
  keySeq : OctetSeq
deriving DecidableEq

inductive Endian where
  | little
  | big
deriving DecidableEq

/-- What the library takes from the host, from the ORB and from OpenSSL. Padding makes encryption
random, so it takes a nonce; `uninitialized` is what a default-constructed signature holds. -/
structure Platform where
  endian : Endian
  encodeValue : Any → OctetSeq
  decodeValue : OctetSeq → TypeCode → Except Exception Any
  sha256 : OctetSeq → HashValue
  byteSeq2PubKey : OctetSeq → Except Exception PublicKey
  pubKey : PrivateKey → OctetSeq
  encrypt : PublicKey → ℕ → OctetSeq → OctetSeq
  decrypt : PrivateKey → OctetSeq → Except Exception OctetSeq
  verify : PublicKey → EncryptedBlock → HashValue → Bool
  uninitialized : EncryptedBlock

/-- The codec inverts its own encoding of every value. -/
def Platform.CodecInverts (platform : Platform) : Prop :=
  ∀ value : Any, platform.decodeValue (platform.encodeValue value) value.type = .ok value

/-- An empty sequence is not a valid encapsulation. -/
def Platform.RefusesEmpty (platform : Platform) : Prop :=
  ∀ type any, platform.decodeValue [] type ≠ .ok any

/-- `decode_value` refuses octets with the user exceptions of the codec. -/
def Platform.CodecRefuses (platform : Platform) : Prop :=
  ∀ data type e, platform.decodeValue data type = .error e → e = .formatMismatch ∨ e = .typeMismatch

/-- `decode_value` may also fail with a system exception. -/
def Platform.CodecFails (platform : Platform) : Prop :=
  ∀ data type e, platform.decodeValue data type = .error e →
    e = .formatMismatch ∨ e = .typeMismatch ∨ e.isSystem = true

/-- A value decoded has the type asked for. -/
def Platform.CodecTyped (platform : Platform) : Prop :=
  ∀ data type any, platform.decodeValue data type = .ok any → any.type = type

/-- The codec inverts its encoding of the entries of an export. -/
def Platform.EntriesInvert (platform : Platform) : Prop :=
  ∀ seq, platform.decodeValue (platform.encodeValue (.versionedDataSeq seq)) .versionedDataSeq =
    .ok (.versionedDataSeq seq)

theorem Platform.CodecInverts.entries {platform : Platform} (inverts : platform.CodecInverts) :
    platform.EntriesInvert := fun seq => inverts (.versionedDataSeq seq)

/-- `decrypt` fails with an exception of the library. -/
def Platform.DecryptRefuses (platform : Platform) : Prop :=
  ∀ key data e, platform.decrypt key data = .error e → e = .invalidPrivateKey

/-- OpenSSL refuses what is no public key, for which the library raises an exception of its own. -/
def Platform.KeysRefuse (platform : Platform) : Prop :=
  ∀ data e, platform.byteSeq2PubKey data = .error e → e = .invalidPublicKey

end OpenBus
