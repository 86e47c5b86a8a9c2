import MirrorPool.Core.Digest
import MirrorPool.Core.Protocol
import MirrorPool.Library.Fallible

/-!
# Join tickets

A ticket is a signed request to join a cohort.  Its commitment is the hash of
its compact JSON text, the signature included.  The curve arithmetic is a
parameter with two functions: whether 32 bytes are a public key, and whether a
signature of 64 bytes is accepted for a message.

Main results:

- Definition {lit}`JoinTicket.commitment`: the identity of a ticket.
- Definition {lit}`JoinTicket.verify`: the checks of schema, binding, expiry
  and signature, in order.
- Theorem {lit}`JoinTicket.verify_eq_ok`: a ticket verifies exactly when all
  checks pass.
-/

namespace MirrorPool

open Fallible JsonText

variable {D : Type}

/-- Public signed request to join a cohort. -/
structure JoinTicket (D : Type) where
  schemaVersion : UInt16
  poolId : D
  roundId : UInt64
  actionTemplateHash : D
  coordinationPublicKey : Vector UInt8 32
  nonceCommitment : D
  expirySlot : UInt64
  signature : List UInt8
deriving DecidableEq

/-- Expected immutable context for ticket verification. -/
structure TicketBinding (D : Type) where
  poolId : D
  roundId : UInt64
  actionTemplateHash : D
deriving DecidableEq

/-- Ticket validation failures. -/
inductive TicketError where
  | unsupportedVersion
  | wrongPool
  | wrongRound
  | wrongTemplate
  | expired
  | invalidPublicKey
  | invalidSignature
deriving DecidableEq, Repr

/-- The signature scheme: which byte arrays are public keys, and which
signatures of a message a public key accepts. -/
structure Ed25519 where
  isVerifyingKey : Vector UInt8 32 → Bool
  accepts : Vector UInt8 32 → List UInt8 → List UInt8 → Bool

namespace JoinTicket

/-- The named fields that are signed, in order. -/
def unsignedFields (h : Blake3 D) (ticket : JoinTicket D) : List (String × List UInt8) :=
  [("schema_version", jsonNumber ticket.schemaVersion.toNat),
    ("pool_id", jsonBytes (h.bytes ticket.poolId)),
    ("round_id", jsonNumber ticket.roundId.toNat),
    ("action_template_hash", jsonBytes (h.bytes ticket.actionTemplateHash)),
    ("coordination_public_key", jsonBytes ticket.coordinationPublicKey.toList),
    ("nonce_commitment", jsonBytes (h.bytes ticket.nonceCommitment)),
    ("expiry_slot", jsonNumber ticket.expirySlot.toNat)]

/-- The message that is signed. -/
def signingBytes (h : Blake3 D) (ticket : JoinTicket D) : List UInt8 :=
  jsonObject (ticket.unsignedFields h)

/-- The whole ticket as bytes. -/
def canonicalBytes (h : Blake3 D) (ticket : JoinTicket D) : List UInt8 :=
  jsonObject (ticket.unsignedFields h ++ [("signature", jsonBytes ticket.signature)])

/-- Stable identity for ticket deduplication.  The serialization of these
records does not fail. -/
def commitment (h : Blake3 D) (ticket : JoinTicket D) : D :=
  h.hash "join-ticket" (ticket.canonicalBytes h)

/-- Verify schema, binding, expiry and signature. -/
def verify [DecidableEq D] (h : Blake3 D) (ed : Ed25519) (ticket : JoinTicket D)
    (currentSlot : UInt64) (expected : TicketBinding D) : Except TicketError Unit := do
  failIf (ticket.schemaVersion ≠ MirrorPool.schemaVersion) .unsupportedVersion
  failIf (ticket.poolId ≠ expected.poolId) .wrongPool
  failIf (ticket.roundId ≠ expected.roundId) .wrongRound
  failIf (ticket.actionTemplateHash ≠ expected.actionTemplateHash) .wrongTemplate
  failIf (ticket.expirySlot ≤ currentSlot) .expired
  failIf (ed.isVerifyingKey ticket.coordinationPublicKey = false) .invalidPublicKey
  failIf (ticket.signature.length ≠ 64) .invalidSignature
  failIf (ed.accepts ticket.coordinationPublicKey (ticket.signingBytes h) ticket.signature =
    false) .invalidSignature

/-- A ticket verifies exactly when all checks pass. -/
theorem verify_eq_ok [DecidableEq D] {h : Blake3 D} {ed : Ed25519} {ticket : JoinTicket D}
    {currentSlot : UInt64} {expected : TicketBinding D} {u : Unit} :
    ticket.verify h ed currentSlot expected = .ok u ↔
      ticket.schemaVersion = MirrorPool.schemaVersion ∧ ticket.poolId = expected.poolId ∧
        ticket.roundId = expected.roundId ∧
        ticket.actionTemplateHash = expected.actionTemplateHash ∧
        currentSlot < ticket.expirySlot ∧
        ed.isVerifyingKey ticket.coordinationPublicKey = true ∧ ticket.signature.length = 64 ∧
        ed.accepts ticket.coordinationPublicKey (ticket.signingBytes h) ticket.signature =
          true := by
  simp only [verify, bind_eq_ok, failIf_eq_ok, exists_const, ne_eq, not_not, UInt64.not_le,
    Bool.not_eq_false]

end JoinTicket

/-- A ticket for the seventh round of a pool, under a key of equal bytes. -/
def sampleTicket (poolId actionTemplateHash nonceCommitment : D) (key : UInt8) :
    JoinTicket D where
  schemaVersion := schemaVersion
  poolId := poolId
  roundId := 7
  actionTemplateHash := actionTemplateHash
  coordinationPublicKey := .replicate 32 key
  nonceCommitment := nonceCommitment
  expirySlot := 100
  signature := List.replicate 64 0

end MirrorPool
