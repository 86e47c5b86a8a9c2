import MirrorPool.Program.Accounts

/-!
# The closed instruction set

Instruction data is one tag byte followed by the fields of the variant in
order.  A decoder that leaves bytes over refuses the data.

Main results:

- Definition {lit}`CoordinationInstruction.codec`: the ten variants with their
  Borsh tags, as a prefix codec.
- Theorem {lit}`tryFromSlice_eq_some`: instruction data is accepted exactly
  when it is the encoding of the instruction.
-/

namespace MirrorPool

/-- Strict, closed instruction set of the program. -/
inductive CoordinationInstruction where
  | initializePool (poolId templateHash : Bytes32) (minParticipants maxParticipants : UInt32)
      (minReleaseDelay maxReleaseDelay executionWindow : UInt64) (backend : Backend)
      (bump : UInt8)
  | openRound (roundId registrationDeadline : UInt64) (templateHash : Bytes32) (bump : UInt8)
  | registerTransparent (coordinationKey : Bytes32) (recordBump : UInt8)
  | publishCohortRoot (root : Bytes32) (acceptedCount : UInt32)
  | sealRound
  | scheduleRelease (releaseSlot : UInt64)
  | beginExecutionWindow
  | finalizeRound (metricsHash : Bytes32)
  | cancelRound
  | closeRound
deriving DecidableEq, Repr

namespace CoordinationInstruction

open FixedCodec (u8 u32 u64)

/-- The fields of {lit}`InitializePool` in order. -/
def initializePoolCodec := (FixedCodec.bytes 32).pair <| (FixedCodec.bytes 32).pair <|
  u32.pair <| u32.pair <| u64.pair <| u64.pair <| u64.pair <| Backend.codec.pair u8

/-- The fields of {lit}`OpenRound` in order. -/
def openRoundCodec := u64.pair <| u64.pair <| (FixedCodec.bytes 32).pair u8

/-- The fields of {lit}`RegisterTransparent` in order. -/
def registerTransparentCodec := (FixedCodec.bytes 32).pair u8

/-- The fields of {lit}`PublishCohortRoot` in order. -/
def publishCohortRootCodec := (FixedCodec.bytes 32).pair u32

/-- The tag byte of the variant and its fields. -/
def encode : CoordinationInstruction → List UInt8
  | initializePool poolId templateHash minParticipants maxParticipants minReleaseDelay
      maxReleaseDelay executionWindow backend bump =>
      0 :: initializePoolCodec.encode (poolId, templateHash, minParticipants, maxParticipants,
        minReleaseDelay, maxReleaseDelay, executionWindow, backend, bump)
  | openRound roundId registrationDeadline templateHash bump =>
      1 :: openRoundCodec.encode (roundId, registrationDeadline, templateHash, bump)
  | registerTransparent coordinationKey recordBump =>
      2 :: registerTransparentCodec.encode (coordinationKey, recordBump)
  | publishCohortRoot root acceptedCount =>
      3 :: publishCohortRootCodec.encode (root, acceptedCount)
  | sealRound => [4]
  | scheduleRelease releaseSlot => 5 :: u64.encode releaseSlot
  | beginExecutionWindow => [6]
  | finalizeRound metricsHash => 7 :: (FixedCodec.bytes 32).encode metricsHash
  | cancelRound => [8]
  | closeRound => [9]

/-- Read the tag byte, then the fields of the variant it names. -/
def decode : List UInt8 → Option (CoordinationInstruction × List UInt8)
  | [] => none
  | tag :: bytes =>
      if tag = 0 then
        (initializePoolCodec.decode bytes).map
          fun ((poolId, templateHash, minParticipants, maxParticipants, minReleaseDelay,
            maxReleaseDelay, executionWindow, backend, bump), rest) =>
            (initializePool poolId templateHash minParticipants maxParticipants minReleaseDelay
              maxReleaseDelay executionWindow backend bump, rest)
      else if tag = 1 then
        (openRoundCodec.decode bytes).map
          fun ((roundId, registrationDeadline, templateHash, bump), rest) =>
            (openRound roundId registrationDeadline templateHash bump, rest)
      else if tag = 2 then
        (registerTransparentCodec.decode bytes).map
          fun ((coordinationKey, recordBump), rest) =>
            (registerTransparent coordinationKey recordBump, rest)
      else if tag = 3 then
        (publishCohortRootCodec.decode bytes).map
          fun ((root, acceptedCount), rest) => (publishCohortRoot root acceptedCount, rest)
      else if tag = 4 then some (sealRound, bytes)
      else if tag = 5 then
        (u64.decode bytes).map fun (releaseSlot, rest) => (scheduleRelease releaseSlot, rest)
      else if tag = 6 then some (beginExecutionWindow, bytes)
      else if tag = 7 then
        ((FixedCodec.bytes 32).decode bytes).map
          fun (metricsHash, rest) => (finalizeRound metricsHash, rest)
      else if tag = 8 then some (cancelRound, bytes)
      else if tag = 9 then some (closeRound, bytes)
      else none

/-- An encoded instruction is read back, with the following bytes untouched. -/
theorem decode_encode_append (instruction : CoordinationInstruction) (rest : List UInt8) :
    decode (encode instruction ++ rest) = some (instruction, rest) := by
  cases instruction <;> simp [encode, decode]

/-- Bytes that decode are the encoding of the value read, then the rest. -/
theorem eq_encode_of_decode {bytes : List UInt8} {instruction : CoordinationInstruction}
    {rest : List UInt8} (hdecode : decode bytes = some (instruction, rest)) :
    bytes = encode instruction ++ rest := by
  cases bytes with
  | nil => simp [decode] at hdecode
  | cons tag bytes =>
      simp only [decode] at hdecode
      -- the tag is compared with one number after another
      rcases ite_eq_iff.mp hdecode with ⟨h0, hdecode⟩ | ⟨-, hdecode⟩
      · rcases Option.map_eq_some_iff.mp hdecode with
          ⟨⟨⟨_, _, _, _, _, _, _, _, _⟩, rest⟩, hfields, hsame⟩
        cases hsame
        rw [(PrefixCodec.decode_eq_some _).mp hfields, h0]
        rfl
      rcases ite_eq_iff.mp hdecode with ⟨h1, hdecode⟩ | ⟨-, hdecode⟩
      · rcases Option.map_eq_some_iff.mp hdecode with ⟨⟨⟨_, _, _, _⟩, rest⟩, hfields, hsame⟩
        cases hsame
        rw [(PrefixCodec.decode_eq_some _).mp hfields, h1]
        rfl
      rcases ite_eq_iff.mp hdecode with ⟨h2, hdecode⟩ | ⟨-, hdecode⟩
      · rcases Option.map_eq_some_iff.mp hdecode with ⟨⟨⟨_, _⟩, rest⟩, hfields, hsame⟩
        cases hsame
        rw [(PrefixCodec.decode_eq_some _).mp hfields, h2]
        rfl
      rcases ite_eq_iff.mp hdecode with ⟨h3, hdecode⟩ | ⟨-, hdecode⟩
      · rcases Option.map_eq_some_iff.mp hdecode with ⟨⟨⟨_, _⟩, rest⟩, hfields, hsame⟩
        cases hsame
        rw [(PrefixCodec.decode_eq_some _).mp hfields, h3]
        rfl
      rcases ite_eq_iff.mp hdecode with ⟨h4, hdecode⟩ | ⟨-, hdecode⟩
      · cases hdecode
        rw [h4]
        rfl
      rcases ite_eq_iff.mp hdecode with ⟨h5, hdecode⟩ | ⟨-, hdecode⟩
      · rcases Option.map_eq_some_iff.mp hdecode with ⟨⟨_, rest⟩, hfields, hsame⟩
        cases hsame
        rw [(PrefixCodec.decode_eq_some _).mp hfields, h5]
        rfl
      rcases ite_eq_iff.mp hdecode with ⟨h6, hdecode⟩ | ⟨-, hdecode⟩
      · cases hdecode
        rw [h6]
        rfl
      rcases ite_eq_iff.mp hdecode with ⟨h7, hdecode⟩ | ⟨-, hdecode⟩
      · rcases Option.map_eq_some_iff.mp hdecode with ⟨⟨_, rest⟩, hfields, hsame⟩
        cases hsame
        rw [(PrefixCodec.decode_eq_some _).mp hfields, h7]
        rfl
      rcases ite_eq_iff.mp hdecode with ⟨h8, hdecode⟩ | ⟨-, hdecode⟩
      · cases hdecode
        rw [h8]
        rfl
      rcases ite_eq_iff.mp hdecode with ⟨h9, hdecode⟩ | ⟨-, hdecode⟩
      · cases hdecode
        rw [h9]
        rfl
      cases hdecode

/-- The Borsh format of the instruction set. -/
def codec : PrefixCodec CoordinationInstruction where
  encode := encode
  decode := decode
  decode_eq_some := by
    intro bytes instruction rest
    constructor
    · exact eq_encode_of_decode
    · rintro rfl
      exact decode_encode_append instruction rest

/-- Decode instruction data that must be used up. -/
def tryFromSlice (data : List UInt8) : Option CoordinationInstruction :=
  codec.readAll data

/-- Instruction data is accepted exactly when it is the encoding of the
instruction. -/
theorem tryFromSlice_eq_some {data : List UInt8} {instruction : CoordinationInstruction} :
    tryFromSlice data = some instruction ↔ data = encode instruction :=
  codec.readAll_eq_some

@[simp] theorem tryFromSlice_encode (instruction : CoordinationInstruction) :
    tryFromSlice (encode instruction) = some instruction :=
  tryFromSlice_eq_some.mpr rfl

end CoordinationInstruction

end MirrorPool
