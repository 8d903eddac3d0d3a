import OpenBus.Machine.PrefixCodec
import OpenBus.Model.Connection
import OpenBus.Model.Hash

/-! # A platform to compute with

The library is modeled over any platform. This one can be evaluated: its codec puts the type of
a value before its fields, its digest is the beginning of the data, a signature is the digest
with the key, and encryption only pads. It meets what is assumed of the codec.
-/

namespace OpenBus

open Machine

namespace ReferencePlatform

open PrefixCodec

def octets : PrefixCodec Octet OctetSeq := list 1 0 symbol (by decide)

def boolean : PrefixCodec Octet Bool :=
  symbol.image (fun b => if b then 1 else 0) (fun o => o == 1) (by decide)

def uLong : PrefixCodec Octet ULong :=
  (symbol.prod (symbol.prod (symbol.prod symbol))).image
    (fun word => (word.extractLsb' 0 8, word.extractLsb' 8 8, word.extractLsb' 16 8,
      word.extractLsb' 24 8))
    (fun (b0, b1, b2, b3) => assemble b0 b1 b2 b3) assemble_extractLsb'

def loginInfo : PrefixCodec Octet LoginInfo :=
  (octets.prod octets).image (fun info => (info.id, info.entity)) (fun (id, entity) => ⟨id, entity⟩)
    fun _ => rfl

def logins : PrefixCodec Octet (List LoginInfo) :=
  list 1 0 loginInfo (by decide)

def signedData : PrefixCodec Octet SignedData :=
  ((vector 256).prod octets).image (fun data => (data.signature, data.encoded))
    (fun (signature, encoded) => ⟨signature, encoded⟩) fun _ => rfl

def legacyCallChain : PrefixCodec Octet LegacyCallChain :=
  (octets.prod (logins.prod loginInfo)).image
    (fun chain => (chain.target, chain.originators, chain.caller))
    (fun (target, originators, caller) => ⟨target, originators, caller⟩) fun _ => rfl

def callChain : PrefixCodec Octet CallChain :=
  (octets.prod legacyCallChain).image
    (fun chain => (chain.bus, ⟨chain.target, chain.originators, chain.caller⟩))
    (fun (bus, chain) => ⟨bus, chain.target, chain.originators, chain.caller⟩) fun _ => rfl

def credentialData : PrefixCodec Octet CredentialData :=
  (octets.prod (octets.prod (uLong.prod (uLong.prod ((vector 32).prod signedData))))).image
    (fun c => (c.bus, c.login, c.session, c.ticket, c.hash, c.chain))
    (fun (bus, login, session, ticket, hash, chain) => ⟨bus, login, session, ticket, hash, chain⟩)
    fun _ => rfl

def legacyCredentialReset : PrefixCodec Octet LegacyCredentialReset :=
  (octets.prod (uLong.prod (vector 256))).image
    (fun reset => (reset.target, reset.session, reset.challenge))
    (fun (target, session, challenge) => ⟨target, session, challenge⟩) fun _ => rfl

def credentialReset : PrefixCodec Octet CredentialReset :=
  (octets.prod legacyCredentialReset).image
    (fun reset => (reset.entity, ⟨reset.target, reset.session, reset.challenge⟩))
    (fun (entity, reset) => ⟨reset.target, entity, reset.session, reset.challenge⟩) fun _ => rfl

def versionedData : PrefixCodec Octet VersionedData :=
  (uLong.prod octets).image (fun data => (data.version, data.encoded))
    (fun (version, encoded) => ⟨version, encoded⟩) fun _ => rfl

def versionedDataSeq : PrefixCodec Octet (List VersionedData) :=
  list 1 0 versionedData (by decide)

def legacyExportedCallChain : PrefixCodec Octet LegacyExportedCallChain :=
  (octets.prod signedData).image (fun chain => (chain.bus, chain.signedChain))
    (fun (bus, signedChain) => ⟨bus, signedChain⟩) fun _ => rfl

/-- A number in unary. -/
def nat : PrefixCodec Octet ℕ :=
  (list 1 0 (symbol.image (fun _ : Unit => 0) (fun _ => ()) fun _ => rfl) (by decide)).image
    (fun n => List.replicate n ()) List.length fun _ => List.length_replicate

def objectRef : PrefixCodec Octet ObjectRef :=
  (octets.prod nat).image (fun ref => (ref.bus, ref.index)) (fun (bus, index) => ⟨bus, index⟩)
    fun _ => rfl

/-- A reference that may be nil. -/
def reference : PrefixCodec Octet (Option ObjectRef) :=
  (list 1 0 objectRef (by decide)).image Option.toList List.head? fun ref => by cases ref <;> rfl

def exportedSharedAuth : PrefixCodec Octet ExportedSharedAuth :=
  (octets.prod (reference.prod octets)).image (fun auth => (auth.bus, auth.attempt, auth.secret))
    (fun (bus, attempt, secret) => ⟨bus, attempt, secret⟩) fun _ => rfl

def loginAuthenticationInfo : PrefixCodec Octet LoginAuthenticationInfo :=
  ((vector 32).prod octets).image (fun info => (info.hash, info.data))
    (fun (hash, data) => ⟨hash, data⟩) fun _ => rfl

def tag : TypeCode → Octet
  | .null => 0
  | .boolean => 1
  | .string => 2
  | .uuid => 3
  | .loginInfo => 4
  | .signedData => 5
  | .signedCallChain => 6
  | .callChain => 7
  | .legacyCallChain => 8
  | .credentialData .current => 9
  | .credentialData .legacy => 10
  | .credentialReset => 11
  | .legacyCredentialReset => 12
  | .versionedDataSeq => 13
  | .legacyExportedCallChain => 14
  | .exportedSharedAuth .current => 15
  | .exportedSharedAuth .legacy => 16
  | .loginAuthenticationInfo => 17

def putValue : Any → OctetSeq
  | .empty => []
  | .boolean value => boolean.put value
  | .string value => octets.put value
  | .uuid value => (vector 16).put value
  | .loginInfo value => loginInfo.put value
  | .signedData value => signedData.put value
  | .signedCallChain value => signedData.put value
  | .callChain value => callChain.put value
  | .legacyCallChain value => legacyCallChain.put value
  | .credentialData _ value => credentialData.put value
  | .credentialReset value => credentialReset.put value
  | .legacyCredentialReset value => legacyCredentialReset.put value
  | .versionedDataSeq value => versionedDataSeq.put value
  | .legacyExportedCallChain value => legacyExportedCallChain.put value
  | .exportedSharedAuth _ value => exportedSharedAuth.put value
  | .loginAuthenticationInfo value => loginAuthenticationInfo.put value

def takeAs {α : Type} (codec : PrefixCodec Octet α) (any : α → Any) (input : OctetSeq) :
    Option (Any × OctetSeq) :=
  (codec.take input).map fun (value, rest) => (any value, rest)

def takeValue : TypeCode → OctetSeq → Option (Any × OctetSeq)
  | .null => fun input => some (.empty, input)
  | .boolean => takeAs boolean .boolean
  | .string => takeAs octets .string
  | .uuid => takeAs (vector 16) .uuid
  | .loginInfo => takeAs loginInfo .loginInfo
  | .signedData => takeAs signedData .signedData
  | .signedCallChain => takeAs signedData .signedCallChain
  | .callChain => takeAs callChain .callChain
  | .legacyCallChain => takeAs legacyCallChain .legacyCallChain
  | .credentialData protocol => takeAs credentialData (.credentialData protocol)
  | .credentialReset => takeAs credentialReset .credentialReset
  | .legacyCredentialReset => takeAs legacyCredentialReset .legacyCredentialReset
  | .versionedDataSeq => takeAs versionedDataSeq .versionedDataSeq
  | .legacyExportedCallChain => takeAs legacyExportedCallChain .legacyExportedCallChain
  | .exportedSharedAuth protocol => takeAs exportedSharedAuth (.exportedSharedAuth protocol)
  | .loginAuthenticationInfo => takeAs loginAuthenticationInfo .loginAuthenticationInfo

theorem takeValue_putValue (any : Any) (rest : OctetSeq) :
    takeValue any.type (putValue any ++ rest) = some (any, rest) := by
  cases any <;> simp [takeValue, putValue, takeAs, Any.type]

/-- The first `n` octets, followed by zeros if there are not as many. -/
def pad (n : ℕ) (data : OctetSeq) : Vector Octet n :=
  ⟨(data.take n ++ List.replicate (n - data.length) 0).toArray, by simp; omega⟩

def encodeValue (any : Any) : OctetSeq := tag any.type :: putValue any

def decodeValue : OctetSeq → TypeCode → Except Exception Any
  | [], _ => .error .formatMismatch
  | found :: input, type =>
      if found = tag type then
        match takeValue type input with
        | some (any, []) => .ok any
        | _ => .error .formatMismatch
      else .error .typeMismatch

def sign (key : PublicKey) (hash : HashValue) : EncryptedBlock :=
  pad 256 (hash.toList ++ key.keySeq)

end ReferencePlatform

open ReferencePlatform in
def referencePlatform : Platform where
  endian := .little
  encodeValue := encodeValue
  decodeValue := decodeValue
  sha256 := pad 32
  byteSeq2PubKey data := .ok ⟨data⟩
  pubKey key := key.keySeq
  encrypt _ _ data := (pad 256 data).toList
  decrypt _ data := .ok (data.take 16)
  verify key signature hash := signature.toList == (sign key hash).toList
  uninitialized := .replicate 256 0

namespace ReferencePlatform

theorem codecInverts : referencePlatform.CodecInverts := by
  intro value
  have taken := takeValue_putValue value []
  rw [List.append_nil] at taken
  simp [referencePlatform, encodeValue, decodeValue, taken]

theorem codecRefuses : referencePlatform.CodecRefuses := by
  intro data type e refused
  simp only [referencePlatform] at refused
  unfold decodeValue at refused
  split at refused
  · exact .inl (Except.error.inj refused).symm
  · split at refused
    · split at refused <;> cases refused
      exact .inl rfl
    · exact .inr (Except.error.inj refused).symm

theorem codecFails : referencePlatform.CodecFails := fun data type e refused =>
  (codecRefuses data type e refused).imp_right .inl

theorem type_of_takeValue {type : TypeCode} {input rest : OctetSeq} {any : Any}
    (taken : takeValue type input = some (any, rest)) : any.type = type := by
  have typed {α : Type} {codec : PrefixCodec Octet α} {wrap : α → Any}
      (own : ∀ a, (wrap a).type = type) (read : takeAs codec wrap input = some (any, rest)) :
      any.type = type := by
    simp only [takeAs, Option.map_eq_some_iff, Prod.mk.injEq] at read
    obtain ⟨⟨a, left⟩, -, rfl, -⟩ := read
    exact own a
  cases type with
  | null =>
    cases taken
    rfl
  | _ => exact typed (fun _ => rfl) taken

theorem codecTyped : referencePlatform.CodecTyped := by
  intro data type any decoded
  simp only [referencePlatform] at decoded
  unfold decodeValue at decoded
  split at decoded
  · cases decoded
  · split at decoded
    · split at decoded
      · next taken =>
        cases decoded
        exact type_of_takeValue taken
      · cases decoded
    · cases decoded

theorem refusesEmpty : referencePlatform.RefusesEmpty := by
  intro type any decoded
  cases decoded

/-- What a login finds at the bus `B`. -/
def facets : BusFacets :=
  let ref : ObjectRef := ⟨ascii "B", 0⟩
  ⟨ref, ref, ref, ref, ref, ref, ⟨[1]⟩⟩

end ReferencePlatform

end OpenBus
