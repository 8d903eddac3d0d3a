import OpenBus.Model.Idl
import Mathlib.Tactic.IntervalCases

/-! # The hash of a credential

`openbus::hash` fills a buffer with the protocol version, the secret of the session, the ticket
and the operation, and hashes it. The ticket goes through the memory of the host twice, which
cancels its byte order; the buffer is therefore the same on every host, and it determines
everything that went into it.
-/

namespace OpenBus

/-- `memcpy` into a buffer at a position. -/
def overwrite (buffer : OctetSeq) (pos : ℕ) (octets : OctetSeq) : OctetSeq :=
  buffer.take pos ++ octets ++ buffer.drop (pos + octets.length)

/-- A write that starts where the filled part ends extends the filled part. -/
theorem overwrite_filled (filled octets rest : OctetSeq) {pos : ℕ} (start : pos = filled.length) :
    overwrite (filled ++ rest) pos octets = (filled ++ octets) ++ rest.drop octets.length := by
  subst start
  have tail : (filled ++ rest).drop (filled.length + octets.length) = rest.drop octets.length := by
    rw [← List.drop_drop, List.drop_left]
  rw [overwrite, List.take_left, tail]

theorem overwrite_start (octets rest : OctetSeq) :
    overwrite rest 0 octets = octets ++ rest.drop octets.length :=
  overwrite_filled [] octets rest rfl

/-- The octets of a word in order of significance, the least significant first. -/
def littleEndian (word : ULong) : OctetSeq :=
  [word.extractLsb' 0 8, word.extractLsb' 8 8, word.extractLsb' 16 8, word.extractLsb' 24 8]

/-- The octets of a word in the memory of a host. -/
def memory : Endian → ULong → OctetSeq
  | .little, word => littleEndian word
  | .big, word => (littleEndian word).reverse

/-- The word made of four octets, the least significant first. -/
def assemble (b0 b1 b2 b3 : Octet) : ULong :=
  b0.setWidth 32 <<< 0 ||| b1.setWidth 32 <<< 8 ||| b2.setWidth 32 <<< 16 ||| b3.setWidth 32 <<< 24

/-- The word assembled from the octets of the ticket as they stand in the memory of the host. -/
def littleEndianTicket (endian : Endian) (ticket : ULong) : ULong :=
  match memory endian ticket with
  | [b0, b1, b2, b3] => assemble b0 b1 b2 b3
  | _ => 0

/-- The buffer which `openbus::hash` passes to SHA-256. -/
def hashBuffer (endian : Endian) (protocol : Protocol) (operation : Identifier) (ticket : ULong)
    (secret : Secret) : OctetSeq :=
  let size := 1 + 1 + 16 + 4 + operation.length
  let buf := List.replicate size 0
  let buf := overwrite buf 0 [protocol.majorVersion]
  let buf := overwrite buf 1 [protocol.minorVersion]
  let buf := overwrite buf 2 secret.toList
  let buf := overwrite buf 18 (memory endian (littleEndianTicket endian ticket))
  overwrite buf 22 operation

def hash (platform : Platform) (protocol : Protocol) (operation : Identifier) (ticket : ULong)
    (secret : Secret) : HashValue :=
  platform.sha256 (hashBuffer platform.endian protocol operation ticket secret)

theorem littleEndian_assemble (b0 b1 b2 b3 : Octet) :
    littleEndian (assemble b0 b1 b2 b3) = [b0, b1, b2, b3] := by
  simp only [littleEndian, assemble, List.cons.injEq, and_true]
  refine ⟨?_, ?_, ?_, ?_⟩ <;> apply BitVec.eq_of_getLsbD_eq <;> intro i bound <;>
    simp only [BitVec.getLsbD_extractLsb', BitVec.getLsbD_or, BitVec.getLsbD_shiftLeft,
      BitVec.getLsbD_setWidth] <;>
    interval_cases i <;> simp

/-- Read as little-endian and written back, a ticket has its octets in order on every host. -/
theorem memory_littleEndianTicket (endian : Endian) (ticket : ULong) :
    memory endian (littleEndianTicket endian ticket) = littleEndian ticket := by
  cases endian
  · exact littleEndian_assemble _ _ _ _
  · exact congrArg List.reverse (littleEndian_assemble _ _ _ _)

theorem hashBuffer_eq (endian : Endian) (protocol : Protocol) (operation : Identifier)
    (ticket : ULong) (secret : Secret) :
    hashBuffer endian protocol operation ticket secret =
      [protocol.majorVersion, protocol.minorVersion] ++ secret.toList ++ littleEndian ticket ++
        operation := by
  simp only [hashBuffer, memory_littleEndianTicket]
  rw [overwrite_start, overwrite_filled _ _ _ (by simp), overwrite_filled _ _ _ (by simp),
    overwrite_filled _ _ _ (by simp), overwrite_filled _ _ _ (by simp [littleEndian])]
  -- The buffer has exactly the room that the last write takes.
  simp only [List.drop_replicate, List.length_cons, List.length_nil, Vector.length_toList,
    littleEndian]
  rw [Nat.sub_eq_zero_of_le (by omega)]
  simp

/-- A word is assembled from its own octets. -/
theorem assemble_extractLsb' (word : ULong) :
    assemble (word.extractLsb' 0 8) (word.extractLsb' 8 8) (word.extractLsb' 16 8)
      (word.extractLsb' 24 8) = word := by
  apply BitVec.eq_of_getLsbD_eq
  intro i bound
  simp only [assemble, BitVec.getLsbD_extractLsb', BitVec.getLsbD_or, BitVec.getLsbD_shiftLeft,
    BitVec.getLsbD_setWidth]
  interval_cases i <;> simp

theorem littleEndian_injective {a b : ULong} (same : littleEndian a = littleEndian b) : a = b := by
  simp only [littleEndian, List.cons.injEq, and_true] at same
  rw [← assemble_extractLsb' a, ← assemble_extractLsb' b, same.1, same.2.1, same.2.2.1,
    same.2.2.2]

/-- Hashed buffers agree only if all that went into them agrees. -/
theorem hashBuffer_injective {endian endian' : Endian} {protocol protocol' : Protocol}
    {operation operation' : Identifier} {ticket ticket' : ULong} {secret secret' : Secret}
    (same : hashBuffer endian protocol operation ticket secret =
      hashBuffer endian' protocol' operation' ticket' secret') :
    protocol = protocol' ∧ operation = operation' ∧ ticket = ticket' ∧ secret = secret' := by
  rw [hashBuffer_eq, hashBuffer_eq] at same
  obtain ⟨front, operations⟩ := List.append_inj same (by simp [littleEndian])
  obtain ⟨front, tickets⟩ := List.append_inj' front rfl
  obtain ⟨versions, secrets⟩ := List.append_inj front rfl
  refine ⟨?_, operations, littleEndian_injective tickets, Vector.toList_inj.mp secrets⟩
  cases protocol <;> cases protocol' <;> simp_all [Protocol.majorVersion, Protocol.minorVersion]

end OpenBus
