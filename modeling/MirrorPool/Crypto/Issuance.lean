import MirrorPool.Crypto.Ticket

/-!
# Issued tickets

The holder of a signing key issues tickets.  The signed message and the identity
of a ticket are two JSON texts, and both determine the fields they are made of.
So an issued ticket verifies until it expires, and a signature that is accepted
for one message only protects every field of its ticket.

Main results:

- Definition {lit}`JoinTicket.create`: issue a ticket.
- Theorem {lit}`JoinTicket.verify_create`: an issued ticket verifies exactly
  before its expiry.
- Theorem {lit}`JoinTicket.tickets_unaltered`: issued tickets verify, altered
  ones do not, and a commitment determines its ticket.
-/

namespace MirrorPool

open Fallible JsonText

variable {D : Type}

/-- The signature scheme with its signing keys.  Public keys are well formed, and
a signature is accepted for the message it was made for. -/
structure SignatureScheme extends Ed25519 where
  SigningKey : Type
  verifyingKey : SigningKey → Vector UInt8 32
  sign : SigningKey → List UInt8 → Vector UInt8 64
  isVerifyingKey_verifyingKey : ∀ key, isVerifyingKey (verifyingKey key) = true
  accepts_sign : ∀ key message,
    accepts (verifyingKey key) message (sign key message).toList = true

/-- Under the public key the signature is accepted for at most one message. -/
def Ed25519.BindsOne (ed : Ed25519) (publicKey : Vector UInt8 32) (signature : List UInt8) : Prop :=
  ∀ message message', ed.accepts publicKey message signature = true →
    ed.accepts publicKey message' signature = true → message = message'

namespace JoinTicket

/-- Create and sign a ticket with a fresh secret nonce, which is returned
beside it.  The serialization of these records does not fail. -/
def create (h : Blake3 D) (scheme : SignatureScheme) (nonce : Vector UInt8 32)
    (signingKey : scheme.SigningKey) (poolId : D) (roundId : UInt64) (templateHash : D)
    (expirySlot : UInt64) : JoinTicket D × Vector UInt8 32 :=
  let ticket : JoinTicket D :=
    { schemaVersion := MirrorPool.schemaVersion
      poolId
      roundId
      actionTemplateHash := templateHash
      coordinationPublicKey := scheme.verifyingKey signingKey
      nonceCommitment := h.hash "ticket-nonce" nonce.toList
      expirySlot
      signature := [] }
  let signature := scheme.sign signingKey (ticket.signingBytes h)
  ({ ticket with signature := signature.toList }, nonce)

section Create

variable {h : Blake3 D} {scheme : SignatureScheme} {nonce : Vector UInt8 32}
  {signingKey : scheme.SigningKey} {poolId templateHash : D} {roundId expirySlot : UInt64}

/-- An issued ticket verifies exactly before its expiry. -/
theorem verify_create [DecidableEq D] {slot : UInt64} {u : Unit} :
    (create h scheme nonce signingKey poolId roundId templateHash expirySlot).1.verify h
      scheme.toEd25519 slot ⟨poolId, roundId, templateHash⟩ = .ok u ↔ slot < expirySlot := by
  rw [verify_eq_ok]
  constructor
  · rintro ⟨-, -, -, -, hslot, -⟩
    exact hslot
  · intro hslot
    exact ⟨rfl, rfl, rfl, rfl, hslot, scheme.isVerifyingKey_verifyingKey signingKey,
      Vector.length_toList, scheme.accepts_sign signingKey _⟩

/-- The signature of an issued ticket is accepted for it. -/
theorem accepts_create {ticket : JoinTicket D}
    (hticket : (create h scheme nonce signingKey poolId roundId templateHash expirySlot).1 =
      ticket) :
    scheme.accepts ticket.coordinationPublicKey (ticket.signingBytes h) ticket.signature =
      true := by
  rw [← hticket]
  exact scheme.accepts_sign signingKey _

end Create

/-! ## The texts of a ticket -/

section Texts

variable {h : Blake3 D} {ticket ticket' : JoinTicket D}

/-- The signed fields of two tickets are told apart. -/
theorem sameNames_unsignedFields (hbytes : Function.Injective h.bytes)
    (ticket ticket' : JoinTicket D) :
    SameNames (ticket.unsignedFields h) (ticket'.unsignedFields h) := by
  have hdigest := (Blake3.readable_bytes hbytes).separates
  exact .cons ⟨rfl, readable_uint16.separates _ _⟩ <| .cons ⟨rfl, hdigest _ _⟩ <|
    .cons ⟨rfl, readable_uint64.separates _ _⟩ <| .cons ⟨rfl, hdigest _ _⟩ <|
    .cons ⟨rfl, readable_jsonBytes.separates _ _⟩ <| .cons ⟨rfl, hdigest _ _⟩ <|
    .cons ⟨rfl, readable_uint64.separates _ _⟩ .nil

/-- The signed fields determine the ticket up to its signature. -/
theorem eq_of_unsignedFields_eq (hbytes : Function.Injective h.bytes)
    (hfields : ticket.unsignedFields h = ticket'.unsignedFields h) :
    ticket' = { ticket with signature := ticket'.signature } := by
  have hdigest := (Blake3.readable_bytes hbytes).injective
  simp only [unsignedFields, List.cons.injEq, Prod.mk.injEq, true_and, and_true] at hfields
  rcases hfields with ⟨hversion, hpool, hround, htemplate, hkey, hnonce, hexpiry⟩
  rcases ticket
  rcases ticket'
  simp only [mk.injEq, and_true]
  exact ⟨(readable_uint16.injective hversion).symm, (hdigest hpool).symm,
    (readable_uint64.injective hround).symm, (hdigest htemplate).symm,
    (Vector.toList_inj.mp (readable_jsonBytes.injective hkey)).symm, (hdigest hnonce).symm,
    (readable_uint64.injective hexpiry).symm⟩

/-- The signed message determines the ticket up to its signature. -/
theorem eq_of_signingBytes_eq (hbytes : Function.Injective h.bytes)
    (hsigning : ticket.signingBytes h = ticket'.signingBytes h) :
    ticket' = { ticket with signature := ticket'.signature } := by
  have hfields := jsonObject_append_inj (s := []) (t := [])
    (sameNames_unsignedFields hbytes ticket ticket') (congrArg (· ++ []) hsigning)
  exact eq_of_unsignedFields_eq hbytes hfields.1

/-- The whole text determines the ticket. -/
theorem canonicalBytes_injective (hbytes : Function.Injective h.bytes) :
    Function.Injective (canonicalBytes h : JoinTicket D → List UInt8) := by
  intro ticket ticket' hsame
  have hnames : SameNames
      (ticket.unsignedFields h ++ [("signature", jsonBytes ticket.signature)])
      (ticket'.unsignedFields h ++ [("signature", jsonBytes ticket'.signature)]) :=
    List.rel_append (sameNames_unsignedFields hbytes ticket ticket')
      (.cons ⟨rfl, readable_jsonBytes.separates _ _⟩ .nil)
  have hfields := (jsonObject_append_inj (s := []) (t := []) hnames
    (congrArg (· ++ []) hsame)).1
  rcases List.append_inj hfields rfl with ⟨hunsigned, hsignature⟩
  simp only [List.cons.injEq, Prod.mk.injEq, true_and, and_true] at hsignature
  have hticket := eq_of_unsignedFields_eq hbytes hunsigned
  rw [← readable_jsonBytes.injective hsignature] at hticket
  exact hticket.symm

/-- Without collisions a commitment determines its ticket. -/
theorem commitment_injective (hfree : h.CollisionFree) :
    Function.Injective (commitment h : JoinTicket D → D) := by
  intro ticket ticket' hsame
  have htext := (hfree.hash_inj (by decide) (by decide) hsame).2
  exact canonicalBytes_injective hfree.bytes_injective htext

end Texts

/-! ## Altered tickets -/

section Altered

variable [DecidableEq D] {h : Blake3 D} {ed : Ed25519} {ticket other : JoinTicket D}

/-- A signature that is accepted for one message only protects every field of
its ticket. -/
theorem not_verify_of_altered (hbytes : Function.Injective h.bytes)
    (haccepts : ed.accepts ticket.coordinationPublicKey (ticket.signingBytes h) ticket.signature =
      true)
    (hbinds : ed.BindsOne ticket.coordinationPublicKey ticket.signature)
    (hkey : other.coordinationPublicKey = ticket.coordinationPublicKey)
    (hsignature : other.signature = ticket.signature) (hother : other ≠ ticket) (slot : UInt64)
    (expected : TicketBinding D) : ∃ error, other.verify h ed slot expected = .error error := by
  cases hverify : other.verify h ed slot expected with
  | error error => exact ⟨error, rfl⟩
  | ok u =>
      rcases verify_eq_ok.mp hverify with ⟨-, -, -, -, -, -, -, hother_accepts⟩
      rw [hkey, hsignature] at hother_accepts
      have hsame := eq_of_signingBytes_eq hbytes (hbinds _ _ haccepts hother_accepts)
      rw [hsignature] at hsame
      exact absurd hsame hother

/-- Issued tickets verify exactly before their expiry; whatever else is changed
under the same key and signature is refused; the signed message determines the
signed fields, the whole text determines the ticket, and so does its commitment
if there are no collisions. -/
theorem tickets_unaltered (hbytes : Function.Injective h.bytes) :
    (∀ (scheme : SignatureScheme) (nonce : Vector UInt8 32) (signingKey : scheme.SigningKey)
        (poolId : D) (roundId : UInt64) (templateHash : D) (expirySlot : UInt64)
        (ticket : JoinTicket D),
      (create h scheme nonce signingKey poolId roundId templateHash expirySlot).1 = ticket →
      (∀ slot, ticket.verify h scheme.toEd25519 slot ⟨poolId, roundId, templateHash⟩ = .ok () ↔
        slot < expirySlot) ∧
      (scheme.BindsOne ticket.coordinationPublicKey ticket.signature →
        ∀ other : JoinTicket D, other.coordinationPublicKey = ticket.coordinationPublicKey →
          other.signature = ticket.signature → other ≠ ticket →
          ∀ slot expected, ∃ error,
            other.verify h scheme.toEd25519 slot expected = .error error)) ∧
    (∀ ticket ticket' : JoinTicket D, ticket.signingBytes h = ticket'.signingBytes h →
      ticket' = { ticket with signature := ticket'.signature }) ∧
    Function.Injective (canonicalBytes h : JoinTicket D → List UInt8) ∧
    (h.CollisionFree → Function.Injective (commitment h : JoinTicket D → D)) := by
  refine ⟨fun scheme nonce signingKey poolId roundId templateHash expirySlot ticket hticket =>
    ⟨fun slot => ?_, fun hbinds other hkey hsignature hother => ?_⟩,
    fun _ _ => eq_of_signingBytes_eq hbytes, canonicalBytes_injective hbytes,
    commitment_injective⟩
  · rw [← hticket]
    exact verify_create
  · exact not_verify_of_altered hbytes (accepts_create hticket) hbinds hkey hsignature hother

end Altered

/-! ## A small scheme -/

/-- The signed fields of a ticket for the seventh round. -/
def issuedMessage : List UInt8 :=
  (sampleTicket (Blake3.oneByte 1) (Blake3.oneByte 2)
    (Blake3.verbatim.hash "ticket-nonce" (List.replicate 32 5)) 1).signingBytes Blake3.verbatim

/-- A scheme with one key, which has a signature for this message and another one
for all others. -/
def twoSignatures : SignatureScheme where
  isVerifyingKey _ := true
  SigningKey := Unit
  verifyingKey _ := .replicate 32 1
  sign _ message := .replicate 64 (if message = issuedMessage then 1 else 0)
  accepts _ message signature :=
    signature == List.replicate 64 (if message = issuedMessage then 1 else 0)
  isVerifyingKey_verifyingKey _ := rfl
  accepts_sign _ _ := by simp

/-- The ticket that the key issues for the seventh round. -/
def issuedTicket : JoinTicket (List (Fin 256)) :=
  (create Blake3.verbatim twoSignatures (.replicate 32 5) () (Blake3.oneByte 1) 7
    (Blake3.oneByte 2) 100).1

theorem issuedTicket_signature : issuedTicket.signature = List.replicate 64 1 := by
  have hmessage : twoSignatures.sign () issuedMessage = .replicate 64 1 := by
    simp [twoSignatures]
  exact congrArg Vector.toList hmessage

theorem twoSignatures_bindsOne :
    twoSignatures.BindsOne issuedTicket.coordinationPublicKey issuedTicket.signature := by
  have hmessage (message : List UInt8)
      (haccepts : twoSignatures.accepts issuedTicket.coordinationPublicKey message
        issuedTicket.signature = true) : message = issuedMessage := by
    rw [issuedTicket_signature] at haccepts
    by_contra hother
    simp [twoSignatures, hother] at haccepts
  intro message message' haccepts haccepts'
  rw [hmessage message haccepts, hmessage message' haccepts']

/-- The same ticket for the eighth round. -/
def movedTicket : JoinTicket (List (Fin 256)) := { issuedTicket with roundId := 8 }

theorem movedTicket_ne : movedTicket ≠ issuedTicket := by
  intro hsame
  have hround : (8 : UInt64) = 7 := congrArg roundId hsame
  exact absurd hround (by decide)

/-- The ticket verifies at slot 99, and the one for the eighth round is
refused. -/
theorem tickets_unaltered_demo :
    issuedTicket.verify Blake3.verbatim twoSignatures.toEd25519 99
        ⟨Blake3.oneByte 1, 7, Blake3.oneByte 2⟩ = .ok () ∧
      ∃ error, movedTicket.verify Blake3.verbatim twoSignatures.toEd25519 99
        ⟨Blake3.oneByte 1, 8, Blake3.oneByte 2⟩ = .error error := by
  have hunaltered := tickets_unaltered Blake3.verbatim_collisionFree.bytes_injective
  rcases hunaltered.1 twoSignatures (.replicate 32 5) () (Blake3.oneByte 1) 7
    (Blake3.oneByte 2) 100 issuedTicket rfl with ⟨hverify, haltered⟩
  have hrefused := haltered twoSignatures_bindsOne movedTicket rfl rfl movedTicket_ne
  exact ⟨(hverify 99).mpr (by decide), hrefused 99 _⟩

end JoinTicket

end MirrorPool
