import OpenBus.Model.Hash

/-! # What a credential is hashed from

The octets which `openbus::hash` gives to SHA-256 are the same on every host, and no two inputs
share them. The hash which a client puts into its credential is therefore the one its server
computes for the call, on whatever host; that of another call or of the other protocol version it
can only be if SHA-256 has a collision.
-/

namespace OpenBus

/-- The protocol version and the arguments of `openbus::hash`. -/
structure HashInput where
  protocol : Protocol
  operation : Identifier
  ticket : ULong
  secret : Secret
deriving DecidableEq

namespace HashInput

/-- What goes into SHA-256 on a host. -/
def preimage (input : HashInput) (endian : Endian) : OctetSeq :=
  hashBuffer endian input.protocol input.operation input.ticket input.secret

def hash (input : HashInput) (platform : Platform) : HashValue :=
  OpenBus.hash platform input.protocol input.operation input.ticket input.secret

/-- The room which `openbus::hash` allocates. -/
def size (input : HashInput) : ℕ := 1 + 1 + 16 + 4 + input.operation.length

/-- The fields one behind the other, the ticket with its least significant octet first. -/
def fields (input : HashInput) : OctetSeq :=
  [input.protocol.majorVersion, input.protocol.minorVersion] ++ input.secret.toList ++
    littleEndian input.ticket ++ input.operation

theorem preimage_eq_fields (input : HashInput) (endian : Endian) :
    input.preimage endian = input.fields :=
  hashBuffer_eq endian input.protocol input.operation input.ticket input.secret

theorem length_fields (input : HashInput) : input.fields.length = input.size := by
  simp only [fields, size, littleEndian, List.length_append, List.length_cons, List.length_nil,
    Vector.length_toList]

theorem preimage_eq_iff (client server : Endian) (input expected : HashInput) :
    input.preimage client = expected.preimage server ↔ input = expected := by
  constructor
  · intro same
    obtain ⟨protocols, operations, tickets, secrets⟩ := hashBuffer_injective same
    cases input
    cases expected
    subst protocols operations tickets secrets
    rfl
  · intro same
    rw [same, preimage_eq_fields, preimage_eq_fields]

/-- Two inputs of a hash function that have the same value. -/
def Collision (sha256 : OctetSeq → HashValue) (a b : OctetSeq) : Prop :=
  a ≠ b ∧ sha256 a = sha256 b

/-- A client and a server, each with the byte order of its host, use the same SHA-256. -/
theorem hash_eq_iff (platform : Platform) (client server : Endian) (input expected : HashInput) :
    input.hash { platform with endian := client } =
        expected.hash { platform with endian := server } ↔
      input = expected ∨ Collision platform.sha256 input.fields expected.fields := by
  change platform.sha256 (input.preimage client) = platform.sha256 (expected.preimage server) ↔ _
  have distinct : input = expected ↔ input.fields = expected.fields := by
    rw [← preimage_eq_iff client server, preimage_eq_fields, preimage_eq_fields]
  rw [preimage_eq_fields, preimage_eq_fields, distinct, Collision]
  constructor
  · intro same
    by_cases fields : input.fields = expected.fields
    · exact .inl fields
    · exact .inr ⟨fields, same⟩
  · intro agree
    cases agree with
    | inl same => rw [same]
    | inr collision => exact collision.2

/-- On every host the buffer is filled to its end with the fields of the input, two buffers are
equal only for equal inputs, and a server finds the hash of a client to be the one it expects
exactly if the inputs are equal, collisions apart. -/
theorem preimage_unambiguous (platform : Platform) (client server : Endian)
    (input expected : HashInput) :
    (input.preimage client = input.fields ∧ (input.preimage client).length = input.size) ∧
      input.preimage client = input.preimage server ∧
      (input.preimage client = expected.preimage server ↔
        input.protocol = expected.protocol ∧ input.secret = expected.secret ∧
          input.ticket = expected.ticket ∧ input.operation = expected.operation) ∧
      (input.hash { platform with endian := client } =
          expected.hash { platform with endian := server } ↔
        input = expected ∨ Collision platform.sha256 input.fields expected.fields) := by
  refine ⟨⟨preimage_eq_fields input client, ?_⟩, ?_, ?_, ?_⟩
  · rw [preimage_eq_fields, length_fields]
  · exact (preimage_eq_iff client server input input).mpr rfl
  · rw [preimage_eq_iff]
    constructor
    · intro same
      exact same ▸ ⟨rfl, rfl, rfl, rfl⟩
    · rintro ⟨protocols, secrets, tickets, operations⟩
      cases input
      cases expected
      simp only [mk.injEq]
      exact ⟨protocols, operations, tickets, secrets⟩
  · exact hash_eq_iff platform client server input expected

/-- The buffer does not depend on the byte order of the host. -/
example : (HashInput.mk .legacy (ascii "op") 0x01020304 (.replicate 16 7)).preimage .big =
    [2, 0] ++ List.replicate 16 7 ++ [4, 3, 2, 1] ++ ascii "op" := by decide

end HashInput

end OpenBus
