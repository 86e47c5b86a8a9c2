import MirrorPool.Program.Instruction
import MirrorPool.Program.Ledger

/-!
# The instruction processor

The ten handlers of the program over an explicit ledger.  A handler reads and
writes accounts through the positions of its account list, so two positions with
one key see each other's writes.  A handler that fails returns no ledger.

Main results:

- Definition {lit}`processInstruction`: decode the instruction and run its
  handler.
- Definition {lit}`execute`: one call as the runtime carries it out, with the
  check that read-only accounts did not change.
-/

namespace MirrorPool

open Fallible

/-! ## Account checks and byte access -/

/-- The account at the given position of the list, as the successive calls of
{lit}`next_account_info` return it. -/
def nextAccountInfo (accounts : List AccountInfo) (position : Nat) :
    Except ProgramError AccountInfo :=
  okOr accounts[position]? .notEnoughAccountKeys

/-- The account must have signed the instruction. -/
def requireSigner (info : AccountInfo) : Except ProgramError Unit :=
  failIf (info.isSigner = false) .missingRequiredSignature

/-- The account must be owned by the program. -/
def requireOwned (L : Ledger) (info : AccountInfo) (programId : Pubkey) :
    Except ProgramError Unit :=
  failIf ((L info.key).owner ≠ programId) .illegalOwner

/-- Decode the front of an account's bytes with the layout the caller asks for. -/
def readAccount {α : Type} {width : Nat} (codec : FixedCodec α width) (L : Ledger)
    (info : AccountInfo) : Except ProgramError α :=
  okOr (codec.read (L info.key).data) .invalidAccountData

/-- Overwrite an account with an encoding and zeros up to the end. -/
def writeAccount {α : Type} {width : Nat} (codec : FixedCodec α width) (L : Ledger)
    (info : AccountInfo) (value : α) : Except ProgramError Ledger := do
  let size := (L info.key).data.length
  failIf (size < (codec.encode value).length) .accountDataTooSmall
  return L.setData info.key (codec.padded value size)

/-- The three accounts of an administrative instruction. -/
structure AdminAccounts where
  pool : AccountInfo
  round : AccountInfo
  authority : AccountInfo

/-- Take authority, pool and round from the list and check signer and owners. -/
def adminAccounts (rt : Runtime) (L : Ledger) (accounts : List AccountInfo) :
    Except ProgramError AdminAccounts := do
  let authority ← nextAccountInfo accounts 0
  let pool ← nextAccountInfo accounts 1
  let round ← nextAccountInfo accounts 2
  requireSigner authority
  requireOwned L pool rt.programId
  requireOwned L round rt.programId
  return { pool, round, authority }

/-- Make sure a derived account is allocated and unused: a program-owned
account is reused when its first byte is zero, a fresh one is created by the
System Program. -/
def createPdaAccount (rt : Runtime) (L : Ledger) (payer account system : AccountInfo)
    (space : Nat) (signerSeeds : List (List UInt8)) : Except ProgramError Ledger :=
  if (L account.key).owner = rt.programId then do
    failIf ((L account.key).data.head?.getD 0 ≠ 0) .accountAlreadyInitialized
    return L
  else do
    failIf (system.key ≠ systemProgramId ∨ (L account.key).owner ≠ systemProgramId ∨
      (L account.key).data ≠ []) .illegalOwner
    rt.createAccount L payer account (rt.minimumBalance space) space rt.programId signerSeeds

/-- The derived address must exist and be the key of the account. -/
def requireDerived (rt : Runtime) (seeds : List (List UInt8)) (info : AccountInfo) :
    Except ProgramError Unit := do
  let expected ← okOr (rt.createProgramAddress seeds rt.programId)
    CoordinationError.invalidPda.into
  failIf (expected ≠ info.key) CoordinationError.invalidPda.into

/-! ## Handlers -/

/-- {lit}`InitializePool`, the source's {lit}`initialize`. -/
def initializePool (rt : Runtime) (L : Ledger) (accounts : List AccountInfo)
    (poolId templateHash : Bytes32) (min max : UInt32) (minDelay maxDelay window : UInt64)
    (backend : Backend) (bump : UInt8) : Except ProgramError Ledger := do
  failIf (min < 2 ∨ max < min ∨ maxCohortSize < max ∨ window = 0 ∨ maxDelay < minDelay)
    CoordinationError.invalidPolicy.into
  let authority ← nextAccountInfo accounts 0
  let poolInfo ← nextAccountInfo accounts 1
  let systemInfo ← nextAccountInfo accounts 2
  requireSigner authority
  requireDerived rt (Runtime.poolSeeds poolId bump) poolInfo
  let L ← createPdaAccount rt L authority poolInfo systemInfo poolAccountSize
    (Runtime.poolSeeds poolId bump)
  let pool : PoolAccount :=
    { version := 1, bump, authority := authority.key, poolId, templateHash,
      minParticipants := min, maxParticipants := max, minReleaseDelay := minDelay,
      maxReleaseDelay := maxDelay, executionWindow := window, backend, nextRound := 0,
      paused := false }
  writeAccount PoolAccount.codec L poolInfo pool

/-- {lit}`OpenRound`. -/
def openRound (rt : Runtime) (slot : UInt64) (L : Ledger) (accounts : List AccountInfo)
    (roundId deadline : UInt64) (template : Bytes32) (bump : UInt8) :
    Except ProgramError Ledger := do
  let authority ← nextAccountInfo accounts 0
  let poolInfo ← nextAccountInfo accounts 1
  let roundInfo ← nextAccountInfo accounts 2
  let systemInfo ← nextAccountInfo accounts 3
  requireSigner authority
  requireOwned L poolInfo rt.programId
  let pool ← readAccount PoolAccount.codec L poolInfo
  failIf (pool.authority ≠ authority.key ∨ pool.paused = true ∨ pool.nextRound ≠ roundId ∨
    pool.templateHash ≠ template) CoordinationError.unauthorized.into
  failIf (deadline ≤ slot) CoordinationError.invalidTiming.into
  requireDerived rt (Runtime.roundSeeds poolInfo.key roundId bump) roundInfo
  let L ← createPdaAccount rt L authority roundInfo systemInfo roundAccountSize
    (Runtime.roundSeeds poolInfo.key roundId bump)
  let round : RoundAccount :=
    { version := 1, bump, pool := poolInfo.key, roundId, state := .registration,
      registrationDeadline := deadline, templateHash := template, acceptedCount := 0,
      cohortRoot := Vector.replicate 32 0, releaseSlot := 0, windowEndSlot := 0,
      metricsHash := Vector.replicate 32 0 }
  let nextRound ← okOr (add64 pool.nextRound 1) CoordinationError.overflow.into
  let L ← writeAccount PoolAccount.codec L poolInfo { pool with nextRound }
  writeAccount RoundAccount.codec L roundInfo round

/-- {lit}`RegisterTransparent`. -/
def registerTransparent (rt : Runtime) (slot : UInt64) (L : Ledger)
    (accounts : List AccountInfo) (key : Bytes32) (bump : UInt8) :
    Except ProgramError Ledger := do
  let payer ← nextAccountInfo accounts 0
  let poolInfo ← nextAccountInfo accounts 1
  let roundInfo ← nextAccountInfo accounts 2
  let recordInfo ← nextAccountInfo accounts 3
  let systemInfo ← nextAccountInfo accounts 4
  requireSigner payer
  requireOwned L poolInfo rt.programId
  requireOwned L roundInfo rt.programId
  let pool ← readAccount PoolAccount.codec L poolInfo
  let round ← readAccount RoundAccount.codec L roundInfo
  failIf (pool.backend ≠ .transparentRegistry ∨ round.pool ≠ poolInfo.key ∨
    ¬(round.state = .registration ∨ round.state = .thresholdReached) ∨
    round.registrationDeadline ≤ slot ∨ pool.maxParticipants ≤ round.acceptedCount)
    CoordinationError.invalidState.into
  requireDerived rt (Runtime.participantSeeds roundInfo.key key bump) recordInfo
  let L ← createPdaAccount rt L payer recordInfo systemInfo participantRecordSize
    (Runtime.participantSeeds roundInfo.key key bump)
  let acceptedCount ← okOr (add32 round.acceptedCount 1) CoordinationError.overflow.into
  let round :=
    { round with
      acceptedCount
      state := if pool.minParticipants ≤ acceptedCount then .thresholdReached else round.state }
  let L ← writeAccount ParticipantRecord.codec L recordInfo
    { version := 1, bump, round := roundInfo.key, coordinationKey := key }
  writeAccount RoundAccount.codec L roundInfo round

/-- {lit}`PublishCohortRoot`. -/
def publishRoot (rt : Runtime) (L : Ledger) (accounts : List AccountInfo) (root : Bytes32)
    (count : UInt32) : Except ProgramError Ledger := do
  let admin ← adminAccounts rt L accounts
  let pool ← readAccount PoolAccount.codec L admin.pool
  let round ← readAccount RoundAccount.codec L admin.round
  failIf (pool.backend ≠ .merkleCohort ∨ round.pool ≠ admin.pool.key ∨
    round.state ≠ .registration ∨ count < pool.minParticipants ∨ pool.maxParticipants < count ∨
    root = Vector.replicate 32 0 ∨ round.cohortRoot ≠ Vector.replicate 32 0 ∨
    pool.authority ≠ admin.authority.key) CoordinationError.invalidState.into
  writeAccount RoundAccount.codec L admin.round
    { round with cohortRoot := root, acceptedCount := count, state := .thresholdReached }

/-- {lit}`SealRound`, the source's {lit}`seal`. -/
def sealRound (rt : Runtime) (L : Ledger) (accounts : List AccountInfo) :
    Except ProgramError Ledger := do
  let admin ← adminAccounts rt L accounts
  let pool ← readAccount PoolAccount.codec L admin.pool
  let round ← readAccount RoundAccount.codec L admin.round
  failIf (pool.authority ≠ admin.authority.key ∨ round.pool ≠ admin.pool.key ∨
    round.state ≠ .thresholdReached ∨ round.acceptedCount < pool.minParticipants)
    CoordinationError.invalidState.into
  writeAccount RoundAccount.codec L admin.round { round with state := .sealed }

/-- {lit}`ScheduleRelease`.  The round is not compared with the pool. -/
def schedule (rt : Runtime) (slot : UInt64) (L : Ledger) (accounts : List AccountInfo)
    (release : UInt64) : Except ProgramError Ledger := do
  let admin ← adminAccounts rt L accounts
  let pool ← readAccount PoolAccount.codec L admin.pool
  let round ← readAccount RoundAccount.codec L admin.round
  let delay ← okOr (sub64 release slot) CoordinationError.invalidTiming.into
  failIf (pool.authority ≠ admin.authority.key ∨ round.state ≠ .sealed ∨
    round.releaseSlot ≠ 0 ∨ delay < pool.minReleaseDelay ∨ pool.maxReleaseDelay < delay)
    CoordinationError.invalidTiming.into
  let windowEndSlot ← okOr (add64 release pool.executionWindow) CoordinationError.overflow.into
  writeAccount RoundAccount.codec L admin.round
    { round with releaseSlot := release, windowEndSlot, state := .releaseScheduled }

/-- {lit}`BeginExecutionWindow`, which needs no signature. -/
def begin (rt : Runtime) (slot : UInt64) (L : Ledger) (accounts : List AccountInfo) :
    Except ProgramError Ledger := do
  let roundInfo ← nextAccountInfo accounts 0
  requireOwned L roundInfo rt.programId
  let round ← readAccount RoundAccount.codec L roundInfo
  failIf (round.state ≠ .releaseScheduled ∨ slot < round.releaseSlot ∨
    round.windowEndSlot < slot) CoordinationError.invalidTiming.into
  writeAccount RoundAccount.codec L roundInfo { round with state := .executionWindow }

/-- {lit}`FinalizeRound`.  The round is not compared with the pool. -/
def finalize (rt : Runtime) (slot : UInt64) (L : Ledger) (accounts : List AccountInfo)
    (metrics : Bytes32) : Except ProgramError Ledger := do
  let admin ← adminAccounts rt L accounts
  let pool ← readAccount PoolAccount.codec L admin.pool
  let round ← readAccount RoundAccount.codec L admin.round
  failIf (pool.authority ≠ admin.authority.key ∨ round.state ≠ .executionWindow ∨
    slot ≤ round.windowEndSlot ∨ metrics = Vector.replicate 32 0)
    CoordinationError.invalidState.into
  writeAccount RoundAccount.codec L admin.round
    { round with metricsHash := metrics, state := .completed }

/-- {lit}`CancelRound`.  The round is not compared with the pool. -/
def cancel (rt : Runtime) (L : Ledger) (accounts : List AccountInfo) :
    Except ProgramError Ledger := do
  let admin ← adminAccounts rt L accounts
  let pool ← readAccount PoolAccount.codec L admin.pool
  let round ← readAccount RoundAccount.codec L admin.round
  failIf (pool.authority ≠ admin.authority.key ∨
    (round.state = .completed ∨ round.state = .cancelled ∨ round.state = .expired))
    CoordinationError.invalidState.into
  writeAccount RoundAccount.codec L admin.round { round with state := .cancelled }

/-- {lit}`CloseRound`: the whole balance goes to the authority and the bytes
are zeroed.  The round is not compared with the pool. -/
def close (rt : Runtime) (L : Ledger) (accounts : List AccountInfo) :
    Except ProgramError Ledger := do
  let admin ← adminAccounts rt L accounts
  let pool ← readAccount PoolAccount.codec L admin.pool
  let round ← readAccount RoundAccount.codec L admin.round
  failIf (pool.authority ≠ admin.authority.key ∨
    ¬(round.state = .completed ∨ round.state = .cancelled ∨ round.state = .expired) ∨
    admin.authority.isWritable = false) CoordinationError.invalidState.into
  let rent := (L admin.round.key).lamports
  let credited ← okOr (add64 (L admin.authority.key).lamports rent)
    CoordinationError.overflow.into
  let L := L.setLamports admin.authority.key credited
  let L := L.setLamports admin.round.key 0
  return L.setData admin.round.key (List.replicate (L admin.round.key).data.length 0)

/-! ## Dispatch and execution -/

/-- Run the handler of a decoded instruction. -/
def dispatch (rt : Runtime) (slot : UInt64) (L : Ledger) (accounts : List AccountInfo) :
    CoordinationInstruction → Except ProgramError Ledger
  | .initializePool poolId templateHash minParticipants maxParticipants minReleaseDelay
      maxReleaseDelay executionWindow backend bump =>
      initializePool rt L accounts poolId templateHash minParticipants maxParticipants
        minReleaseDelay maxReleaseDelay executionWindow backend bump
  | .openRound roundId registrationDeadline templateHash bump =>
      openRound rt slot L accounts roundId registrationDeadline templateHash bump
  | .registerTransparent coordinationKey recordBump =>
      registerTransparent rt slot L accounts coordinationKey recordBump
  | .publishCohortRoot root acceptedCount => publishRoot rt L accounts root acceptedCount
  | .sealRound => sealRound rt L accounts
  | .scheduleRelease releaseSlot => schedule rt slot L accounts releaseSlot
  | .beginExecutionWindow => begin rt slot L accounts
  | .finalizeRound metricsHash => finalize rt slot L accounts metricsHash
  | .cancelRound => cancel rt L accounts
  | .closeRound => close rt L accounts

/-- Program entrypoint. -/
def processInstruction (rt : Runtime) (slot : UInt64) (L : Ledger)
    (accounts : List AccountInfo) (data : List UInt8) : Except ProgramError Ledger := do
  let instruction ← okOr (CoordinationInstruction.tryFromSlice data) .invalidInstructionData
  dispatch rt slot L accounts instruction

/-- One call of the program: the clock slot, the account list and the
instruction data.  No derived address is among the signers. -/
structure Call (rt : Runtime) where
  slot : UInt64
  accounts : List AccountInfo
  data : List UInt8
  derived_not_signer : ∀ info ∈ accounts, info.isSigner = true → ¬rt.IsDerived info.key

/-- One call as the runtime carries it out: the program runs, then every
account in a read-only position must be unchanged. -/
def execute (rt : Runtime) (L : Ledger) (call : Call rt) : Except ProgramError Ledger := do
  let L' ← processInstruction rt call.slot L call.accounts call.data
  failIf (∃ info ∈ call.accounts, info.isWritable = false ∧ L' info.key ≠ L info.key)
    .readonlyAccountModified
  return L'

/-- The ledger after a call; a failed call has no effect. -/
def applyCall (rt : Runtime) (L : Ledger) (call : Call rt) : Ledger :=
  match execute rt L call with
  | .ok L' => L'
  | .error _ => L

end MirrorPool
