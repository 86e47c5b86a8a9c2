import MirrorPool.Library.PrefixCodec

/-!
# On-chain account layouts

The coordination program stores three kinds of records in program-owned
accounts.  Each kind is a fixed sequence of fields in Borsh encoding; nothing in
the bytes says which kind they are.

Main results:

- Definitions {lit}`PoolAccount.codec`, {lit}`RoundAccount.codec`, and
  {lit}`ParticipantRecord.codec`: the three layouts, of 140, 167 and 66 bytes.
- Theorem {lit}`PoolAccount.head?_encode` and its companions: an encoding
  starts with the version byte.
- Theorem {lit}`pool_authority_eq_round_pool`: the authority of a pool and the
  pool of a round lie at the same offset.
- Theorem {lit}`state_tag_eq_of_overlay`: the state byte of a round lies on
  byte eight of the identifier of a pool.
-/

namespace MirrorPool

/-- A 32-byte array, such as a hash or an identifier. -/
abbrev Bytes32 := Vector UInt8 32

/-- An account address. -/
abbrev Pubkey := Vector UInt8 32

/-- Maximum cohort size of a pool policy. -/
def maxCohortSize : UInt32 := 100000

/-- Allocated size of a pool account. -/
def poolAccountSize : Nat := 256

/-- Allocated size of a round account. -/
def roundAccountSize : Nat := 256

/-- Allocated size of a participant record, a literal in the source. -/
def participantRecordSize : Nat := 96

/-! ## Tags -/

/-- On-chain privacy backend tag. -/
inductive Backend where
  | transparentRegistry
  | merkleCohort
deriving DecidableEq, Repr

/-- Round lifecycle tag. -/
inductive State where
  | registration
  | thresholdReached
  | sealed
  | releaseScheduled
  | executionWindow
  | finalizing
  | completed
  | cancelled
  | expired
deriving DecidableEq, Repr

/-- The byte that stands for a backend. -/
def Backend.tag : Backend → UInt8
  | .transparentRegistry => 0
  | .merkleCohort => 1

/-- The backend of a byte. -/
def Backend.ofTag (byte : UInt8) : Option Backend :=
  if byte = 0 then some .transparentRegistry
  else if byte = 1 then some .merkleCohort
  else none

theorem Backend.ofTag_eq_some {byte : UInt8} {backend : Backend} :
    Backend.ofTag byte = some backend ↔ byte = backend.tag := by
  cases backend
  · simp [Backend.ofTag, Backend.tag]
  · simp [Backend.ofTag, Backend.tag]
    grind

/-- The byte that stands for a lifecycle state. -/
def State.tag : State → UInt8
  | .registration => 0
  | .thresholdReached => 1
  | .sealed => 2
  | .releaseScheduled => 3
  | .executionWindow => 4
  | .finalizing => 5
  | .completed => 6
  | .cancelled => 7
  | .expired => 8

/-- The lifecycle state of a byte. -/
def State.ofTag (byte : UInt8) : Option State :=
  if byte = 0 then some .registration
  else if byte = 1 then some .thresholdReached
  else if byte = 2 then some .sealed
  else if byte = 3 then some .releaseScheduled
  else if byte = 4 then some .executionWindow
  else if byte = 5 then some .finalizing
  else if byte = 6 then some .completed
  else if byte = 7 then some .cancelled
  else if byte = 8 then some .expired
  else none

theorem State.ofTag_eq_some {byte : UInt8} {state : State} :
    State.ofTag byte = some state ↔ byte = state.tag := by
  cases state <;> simp [State.ofTag, State.tag] <;> grind

/-- There are nine lifecycle states, so every tag is below nine. -/
theorem State.tag_lt (state : State) : state.tag < 9 := by
  cases state <;> decide

namespace Backend

/-- A backend is stored as its tag. -/
def codec : FixedCodec Backend 1 :=
  FixedCodec.tag Backend.tag Backend.ofTag Backend.ofTag_eq_some

end Backend

namespace State

/-- A lifecycle state is stored as its tag. -/
def codec : FixedCodec State 1 :=
  FixedCodec.tag State.tag State.ofTag State.ofTag_eq_some

end State

/-! ## Records -/

/-- Bounded pool metadata. -/
structure PoolAccount where
  version : UInt8
  bump : UInt8
  authority : Pubkey
  poolId : Bytes32
  templateHash : Bytes32
  minParticipants : UInt32
  maxParticipants : UInt32
  minReleaseDelay : UInt64
  maxReleaseDelay : UInt64
  executionWindow : UInt64
  backend : Backend
  nextRound : UInt64
  paused : Bool
deriving DecidableEq, Repr

/-- Bounded round metadata.  Zero stands for an unset root, schedule or
metrics hash. -/
structure RoundAccount where
  version : UInt8
  bump : UInt8
  pool : Pubkey
  roundId : UInt64
  state : State
  registrationDeadline : UInt64
  templateHash : Bytes32
  acceptedCount : UInt32
  cohortRoot : Bytes32
  releaseSlot : UInt64
  windowEndSlot : UInt64
  metricsHash : Bytes32
deriving DecidableEq, Repr

/-- One-time public key record of the transparent backend. -/
structure ParticipantRecord where
  version : UInt8
  bump : UInt8
  round : Pubkey
  coordinationKey : Bytes32
deriving DecidableEq, Repr

open FixedCodec (u8 u32 u64)

namespace PoolAccount

/-- A pool account as the sequence of its fields. -/
def fields : (UInt8 × UInt8 × Pubkey × Bytes32 × Bytes32 × UInt32 × UInt32 × UInt64 × UInt64 ×
    UInt64 × Backend × UInt64 × Bool) ≃ PoolAccount where
  toFun := fun (version, bump, authority, poolId, templateHash, minParticipants,
    maxParticipants, minReleaseDelay, maxReleaseDelay, executionWindow, backend, nextRound,
    paused) =>
    { version, bump, authority, poolId, templateHash, minParticipants, maxParticipants,
      minReleaseDelay, maxReleaseDelay, executionWindow, backend, nextRound, paused }
  invFun p := (p.version, p.bump, p.authority, p.poolId, p.templateHash, p.minParticipants,
    p.maxParticipants, p.minReleaseDelay, p.maxReleaseDelay, p.executionWindow, p.backend,
    p.nextRound, p.paused)
  left_inv _ := rfl
  right_inv _ := rfl

/-- The Borsh layout of a pool account. -/
def codec : FixedCodec PoolAccount 140 :=
  (u8.pair <| u8.pair <| (FixedCodec.bytes 32).pair <| (FixedCodec.bytes 32).pair <|
    (FixedCodec.bytes 32).pair <| u32.pair <| u32.pair <| u64.pair <| u64.pair <| u64.pair <|
    Backend.codec.pair <| u64.pair FixedCodec.bool).iso fields

end PoolAccount

namespace RoundAccount

/-- A round account as the sequence of its fields. -/
def fields : (UInt8 × UInt8 × Pubkey × UInt64 × State × UInt64 × Bytes32 × UInt32 × Bytes32 ×
    UInt64 × UInt64 × Bytes32) ≃ RoundAccount where
  toFun := fun (version, bump, pool, roundId, state, registrationDeadline, templateHash,
    acceptedCount, cohortRoot, releaseSlot, windowEndSlot, metricsHash) =>
    { version, bump, pool, roundId, state, registrationDeadline, templateHash, acceptedCount,
      cohortRoot, releaseSlot, windowEndSlot, metricsHash }
  invFun r := (r.version, r.bump, r.pool, r.roundId, r.state, r.registrationDeadline,
    r.templateHash, r.acceptedCount, r.cohortRoot, r.releaseSlot, r.windowEndSlot,
    r.metricsHash)
  left_inv _ := rfl
  right_inv _ := rfl

/-- The Borsh layout of a round account. -/
def codec : FixedCodec RoundAccount 167 :=
  (u8.pair <| u8.pair <| (FixedCodec.bytes 32).pair <| u64.pair <| State.codec.pair <|
    u64.pair <| (FixedCodec.bytes 32).pair <| u32.pair <| (FixedCodec.bytes 32).pair <|
    u64.pair <| u64.pair (FixedCodec.bytes 32)).iso fields

end RoundAccount

namespace ParticipantRecord

/-- A participant record as the sequence of its fields. -/
def fields : (UInt8 × UInt8 × Pubkey × Bytes32) ≃ ParticipantRecord where
  toFun := fun (version, bump, round, coordinationKey) =>
    { version, bump, round, coordinationKey }
  invFun r := (r.version, r.bump, r.round, r.coordinationKey)
  left_inv _ := rfl
  right_inv _ := rfl

/-- The Borsh layout of a participant record. -/
def codec : FixedCodec ParticipantRecord 66 :=
  (u8.pair <| u8.pair <| (FixedCodec.bytes 32).pair (FixedCodec.bytes 32)).iso fields

end ParticipantRecord

/-! ## Overlaid layouts -/

/-- The bytes of a pool, up to the field that follows the identifier. -/
theorem PoolAccount.encode_eq (p : PoolAccount) :
    ∃ rest, codec.encode p =
      [p.version] ++ ([p.bump] ++ (p.authority.toList ++ (p.poolId.toList ++ rest))) :=
  ⟨_, rfl⟩

/-- The bytes of a round, up to the field that follows the state. -/
theorem RoundAccount.encode_eq (r : RoundAccount) :
    ∃ rest, codec.encode r =
      [r.version] ++ ([r.bump] ++ (r.pool.toList ++ (FixedCodec.leBytes 8 r.roundId.toNat ++
        ([r.state.tag] ++ rest)))) :=
  ⟨_, rfl⟩

/-- A pool encoding starts with the version byte. -/
theorem PoolAccount.head?_encode (p : PoolAccount) (rest : List UInt8) :
    (codec.encode p ++ rest).head? = some p.version := rfl

/-- A round encoding starts with the version byte. -/
theorem RoundAccount.head?_encode (r : RoundAccount) (rest : List UInt8) :
    (codec.encode r ++ rest).head? = some r.version := rfl

/-- A record encoding starts with the version byte. -/
theorem ParticipantRecord.head?_encode (r : ParticipantRecord) (rest : List UInt8) :
    (codec.encode r ++ rest).head? = some r.version := rfl

/-- The fields of a pool and of a round in the same bytes, up to the state of the
round. -/
theorem overlaid_fields {bytes : List UInt8} {p : PoolAccount} {r : RoundAccount}
    (hpool : PoolAccount.codec.read bytes = some p)
    (hround : RoundAccount.codec.read bytes = some r) :
    p.version = r.version ∧ p.authority = r.pool ∧
      ∃ ptail rtail, p.poolId.toList ++ ptail =
        FixedCodec.leBytes 8 r.roundId.toNat ++ (r.state.tag :: rtail) := by
  rcases PoolAccount.codec.read_eq_some.mp hpool with ⟨prest, hp⟩
  rcases RoundAccount.codec.read_eq_some.mp hround with ⟨rrest, hr⟩
  rcases p.encode_eq with ⟨ptail, hpe⟩
  rcases r.encode_eq with ⟨rtail, hre⟩
  rw [hp, hpe, hre] at hr
  simp only [List.append_assoc, List.cons_append, List.nil_append, List.cons.injEq] at hr
  rcases List.append_inj hr.2.2 (by simp) with ⟨hkeys, htail⟩
  exact ⟨hr.1, Vector.toList_inj.mp hkeys, _, _, htail⟩

/-- The authority of a pool and the pool of a round lie at the same offset. -/
theorem pool_authority_eq_round_pool {bytes : List UInt8} {p : PoolAccount} {r : RoundAccount}
    (hpool : PoolAccount.codec.read bytes = some p)
    (hround : RoundAccount.codec.read bytes = some r) :
    p.version = r.version ∧ p.authority = r.pool := by
  rcases overlaid_fields hpool hround with ⟨hversion, hkeys, -⟩
  exact ⟨hversion, hkeys⟩

/-- The byte of a pool that would be read as the state of a round. -/
def PoolAccount.stateByte (p : PoolAccount) : UInt8 := p.poolId[8]

/-- The state byte of a round lies on byte eight of the identifier of a pool. -/
theorem state_tag_eq_of_overlay {bytes : List UInt8} {p : PoolAccount} {r : RoundAccount}
    (hpool : PoolAccount.codec.read bytes = some p)
    (hround : RoundAccount.codec.read bytes = some r) :
    p.stateByte = r.state.tag := by
  unfold PoolAccount.stateByte
  rcases overlaid_fields hpool hround with ⟨-, -, ptail, rtail, htail⟩
  have hbyte := congrArg (List.head? ∘ List.drop 8) htail
  simp only [Function.comp_apply, List.head?_drop] at hbyte
  rw [List.getElem?_append_left (by simp),
    List.getElem?_append_right (by simp [FixedCodec.length_leBytes])] at hbyte
  simpa [FixedCodec.length_leBytes] using hbyte

/-- A pool whose identifier has no state tag at byte eight is not readable as
a round. -/
theorem round_read_eq_none_of_overlay {bytes : List UInt8} {p : PoolAccount}
    (hpool : PoolAccount.codec.read bytes = some p) (hbyte : (9 : UInt8) ≤ p.stateByte) :
    RoundAccount.codec.read bytes = none := by
  cases hround : RoundAccount.codec.read bytes with
  | none => rfl
  | some r =>
      have htag := state_tag_eq_of_overlay hpool hround
      have hlt := r.state.tag_lt
      rw [htag] at hbyte
      exact absurd hlt (UInt8.not_lt.mpr hbyte)

end MirrorPool
