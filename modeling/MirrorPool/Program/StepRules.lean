import MirrorPool.Program.HandlerRules

/-!
# What a call does to one account

Account lists are chosen by the sender, and one address may stand in several
positions.  This module reads the ten handlers from the side of a single
address: whatever the account list is, a successful call does one of eight
things to it.

Main results:

- Inductive {lit}`RoundStep`: the seven edits of a round record, with every
  guard that was passed.
- Inductive {lit}`AccountStep`: the effect of a successful call on an address.
- Theorem {lit}`accountStep_of_execute`: every successful call acts on every
  address by {lit}`AccountStep`.
-/

namespace MirrorPool

open Fallible

/-! ## Stored records -/

/-- The key in a position of an account list. -/
def keyAt (accounts : List AccountInfo) (position : Nat) : Option Pubkey :=
  accounts[position]?.map (·.key)

/-- The key at a position is that of the account there. -/
theorem keyAt_of_getElem? {accounts : List AccountInfo} {position : Nat} {info : AccountInfo}
    (hinfo : accounts[position]? = some info) : keyAt accounts position = some info.key := by
  rw [keyAt, hinfo, Option.map_some]

/-- The first account of the list signed and has the given key. -/
def SignedBy (accounts : List AccountInfo) (key : Pubkey) : Prop :=
  ∃ info, accounts[0]? = some info ∧ info.isSigner = true ∧ info.key = key

instance (accounts : List AccountInfo) (key : Pubkey) : Decidable (SignedBy accounts key) :=
  decidable_of_iff (∃ info ∈ accounts[0]?, info.isSigner = true ∧ info.key = key) Iff.rfl

/-- The address holds a program account that reads as the given pool. -/
structure PoolAt (rt : Runtime) (L : Ledger) (a : Pubkey) (pool : PoolAccount) : Prop where
  owned : (L a).owner = rt.programId
  read : PoolAccount.codec.read (L a).data = some pool

/-- The address holds a program account that reads as the given round. -/
structure RoundAt (rt : Runtime) (L : Ledger) (a : Pubkey) (round : RoundAccount) : Prop where
  owned : (L a).owner = rt.programId
  read : RoundAccount.codec.read (L a).data = some round

/-- An account is read as one pool at most. -/
theorem PoolAt.unique {rt : Runtime} {L : Ledger} {a : Pubkey} {p q : PoolAccount}
    (hp : PoolAt rt L a p) (hq : PoolAt rt L a q) : p = q :=
  Option.some.inj (hp.read.symm.trans hq.read)

/-- An account is read as one round at most. -/
theorem RoundAt.unique {rt : Runtime} {L : Ledger} {a : Pubkey} {r s : RoundAccount}
    (hr : RoundAt rt L a r) (hs : RoundAt rt L a s) : r = s :=
  Option.some.inj (hr.read.symm.trans hs.read)

/-- Overwrite the bytes of an account with a record. -/
def Account.store {α : Type} {width : Nat} (codec : FixedCodec α width) (account : Account)
    (value : α) : Account :=
  { account with data := codec.padded value account.data.length }

namespace Account

variable {α : Type} {width : Nat} {codec : FixedCodec α width} {account : Account} {value : α}

@[simp] theorem store_owner : (account.store codec value).owner = account.owner := rfl

@[simp] theorem store_lamports : (account.store codec value).lamports = account.lamports := rfl

/-- A record that fits does not change the length. -/
theorem length_store (hfits : width ≤ account.data.length) :
    (account.store codec value).data.length = account.data.length :=
  codec.length_padded _ hfits

/-- A stored record is read back. -/
theorem read_store : codec.read (account.store codec value).data = some value :=
  codec.read_padded ..

end Account

variable {rt : Runtime} {L L' : Ledger} {a b : Pubkey}

theorem Ledger.setRound_self (round : RoundAccount) :
    L.setRound a round a = (L a).store RoundAccount.codec round :=
  Ledger.setData_self ..

theorem Ledger.setRound_of_ne (round : RoundAccount) (hne : b ≠ a) :
    L.setRound a round b = L b :=
  Ledger.setData_of_ne _ _ hne

theorem Ledger.setPool_self (pool : PoolAccount) :
    L.setPool a pool a = (L a).store PoolAccount.codec pool :=
  Ledger.setData_self ..

theorem Ledger.setPool_of_ne (pool : PoolAccount) (hne : b ≠ a) : L.setPool a pool b = L b :=
  Ledger.setData_of_ne _ _ hne

theorem Ledger.setRecord_self (record : ParticipantRecord) :
    L.setRecord a record a = (L a).store ParticipantRecord.codec record :=
  Ledger.setData_self ..

theorem Ledger.setRecord_of_ne (record : ParticipantRecord) (hne : b ≠ a) :
    L.setRecord a record b = L b :=
  Ledger.setData_of_ne _ _ hne

/-- A round written last is stored whole, also over a pool written just before
at the same address. -/
theorem Ledger.setPool_setRound_self {pool : PoolAccount} (hfits : 140 ≤ (L b).data.length)
    (round : RoundAccount) :
    (L.setPool b pool).setRound a round a = (L a).store RoundAccount.codec round := by
  by_cases hab : a = b
  · subst hab
    rw [setRound_self, setPool_self, Account.store, Account.length_store hfits]
    rfl
  · rw [setRound_self, setPool_of_ne _ hab]

/-- A round written last is stored whole, also over a record written just
before at the same address. -/
theorem Ledger.setRecord_setRound_self {record : ParticipantRecord}
    (hfits : 66 ≤ (L b).data.length) (round : RoundAccount) :
    (L.setRecord b record).setRound a round a = (L a).store RoundAccount.codec round := by
  by_cases hab : a = b
  · subst hab
    rw [setRound_self, setRecord_self, Account.store, Account.length_store hfits]
    rfl
  · rw [setRound_self, setRecord_of_ne _ hab]

/-! ## Edits of a round -/

/-- The pool an instruction works with: the program account in position one. -/
structure PassedPool (rt : Runtime) (L : Ledger) (call : Call rt) (key : Pubkey)
    (pool : PoolAccount) : Prop extends PoolAt rt L key pool where
  position : keyAt call.accounts 1 = some key

/-- The seven edits of a round record, with the guards that were passed.  The
administrative edits carry the signature of the authority of the pool that was
passed; only three of them compare the round with that pool. -/
inductive RoundStep (rt : Runtime) (L : Ledger) (call : Call rt) :
    CoordinationInstruction → RoundAccount → RoundAccount → Prop where
  | registered {key : Bytes32} {bump : UInt8} {poolKey : Pubkey} {pool : PoolAccount}
      {round : RoundAccount} {acceptedCount : UInt32}
      (passed : PassedPool rt L call poolKey pool)
      (backend : pool.backend = .transparentRegistry) (own : round.pool = poolKey)
      (state : round.state = .registration ∨ round.state = .thresholdReached)
      (deadline : call.slot < round.registrationDeadline)
      (room : round.acceptedCount < pool.maxParticipants)
      (count : acceptedCount.toNat = round.acceptedCount.toNat + 1) :
      RoundStep rt L call (.registerTransparent key bump) round
        (round.registered pool acceptedCount)
  | published {root : Bytes32} {count : UInt32} {poolKey : Pubkey} {pool : PoolAccount}
      {round : RoundAccount} (passed : PassedPool rt L call poolKey pool)
      (signed : SignedBy call.accounts pool.authority) (backend : pool.backend = .merkleCohort)
      (own : round.pool = poolKey) (state : round.state = .registration)
      (min : pool.minParticipants ≤ count) (max : count ≤ pool.maxParticipants)
      (set : root ≠ Vector.replicate 32 0) (unset : round.cohortRoot = Vector.replicate 32 0) :
      RoundStep rt L call (.publishCohortRoot root count) round
        { round with cohortRoot := root, acceptedCount := count, state := .thresholdReached }
  | sealed {poolKey : Pubkey} {pool : PoolAccount} {round : RoundAccount}
      (passed : PassedPool rt L call poolKey pool)
      (signed : SignedBy call.accounts pool.authority) (own : round.pool = poolKey)
      (state : round.state = .thresholdReached)
      (min : pool.minParticipants ≤ round.acceptedCount) :
      RoundStep rt L call .sealRound round { round with state := .sealed }
  | scheduled {release delay windowEndSlot : UInt64} {poolKey : Pubkey} {pool : PoolAccount}
      {round : RoundAccount} (passed : PassedPool rt L call poolKey pool)
      (signed : SignedBy call.accounts pool.authority) (state : round.state = .sealed)
      (unset : round.releaseSlot = 0) (release_eq : release.toNat = call.slot.toNat + delay.toNat)
      (min : pool.minReleaseDelay ≤ delay) (max : delay ≤ pool.maxReleaseDelay)
      (window : windowEndSlot.toNat = release.toNat + pool.executionWindow.toNat) :
      RoundStep rt L call (.scheduleRelease release) round
        { round with releaseSlot := release, windowEndSlot, state := .releaseScheduled }
  | begun {round : RoundAccount} (state : round.state = .releaseScheduled)
      (released : round.releaseSlot ≤ call.slot) (inWindow : call.slot ≤ round.windowEndSlot) :
      RoundStep rt L call .beginExecutionWindow round { round with state := .executionWindow }
  | finalized {metrics : Bytes32} {poolKey : Pubkey} {pool : PoolAccount} {round : RoundAccount}
      (passed : PassedPool rt L call poolKey pool)
      (signed : SignedBy call.accounts pool.authority) (state : round.state = .executionWindow)
      (ended : round.windowEndSlot < call.slot) (set : metrics ≠ Vector.replicate 32 0) :
      RoundStep rt L call (.finalizeRound metrics) round
        { round with metricsHash := metrics, state := .completed }
  | cancelled {poolKey : Pubkey} {pool : PoolAccount} {round : RoundAccount}
      (passed : PassedPool rt L call poolKey pool)
      (signed : SignedBy call.accounts pool.authority) (live : ¬round.state.IsTerminal) :
      RoundStep rt L call .cancelRound round { round with state := .cancelled }

/-- The position in which an instruction expects the round it works on. -/
def CoordinationInstruction.roundPosition : CoordinationInstruction → Option Nat
  | .initializePool .. => none
  | .openRound .. => none
  | .beginExecutionWindow => some 0
  | .registerTransparent .. => some 2
  | .publishCohortRoot .. => some 2
  | .sealRound => some 2
  | .scheduleRelease .. => some 2
  | .finalizeRound .. => some 2
  | .cancelRound => some 2
  | .closeRound => some 2

/-- The address an instruction works on as a round. -/
def roundKey (instruction : CoordinationInstruction) (accounts : List AccountInfo) :
    Option Pubkey :=
  instruction.roundPosition.bind (keyAt accounts)

/-- The positions whose account bytes an instruction writes. -/
def CoordinationInstruction.writes : CoordinationInstruction → List Nat
  | .initializePool .. => [1]
  | .openRound .. => [1, 2]
  | .registerTransparent .. => [2, 3]
  | .beginExecutionWindow => [0]
  | .publishCohortRoot .. => [2]
  | .sealRound => [2]
  | .scheduleRelease .. => [2]
  | .finalizeRound .. => [2]
  | .cancelRound => [2]
  | .closeRound => [2]

/-- The address stands in no position whose bytes the instruction writes. -/
def Untouched (instruction : CoordinationInstruction) (accounts : List AccountInfo)
    (a : Pubkey) : Prop :=
  ∀ position ∈ instruction.writes, keyAt accounts position ≠ some a

/-- The round position is one of the written positions. -/
theorem CoordinationInstruction.mem_writes_of_roundPosition
    {instruction : CoordinationInstruction} {position : Nat}
    (hposition : instruction.roundPosition = some position) : position ∈ instruction.writes := by
  cases instruction <;> simp_all [roundPosition, writes]

/-- An untouched address is not the round worked on. -/
theorem Untouched.roundKey_ne {instruction : CoordinationInstruction}
    {accounts : List AccountInfo} (huntouched : Untouched instruction accounts a) :
    roundKey instruction accounts ≠ some a := by
  intro hkey
  rcases Option.bind_eq_some_iff.mp hkey with ⟨position, hposition, hat⟩
  exact huntouched position (CoordinationInstruction.mem_writes_of_roundPosition hposition) hat

/-! ## Effect on one address -/

/-- The effect of a successful call on an address. -/
inductive AccountStep (rt : Runtime) (L : Ledger) (call : Call rt) (a : Pubkey) :
    CoordinationInstruction → Account → Prop where
  | same {instruction : CoordinationInstruction}
      (untouched : Untouched instruction call.accounts a) :
      AccountStep rt L call a instruction (L a)
  | wallet {instruction : CoordinationInstruction} {lamports : UInt64}
      (untouched : Untouched instruction call.accounts a) (signed : SignedBy call.accounts a) :
      AccountStep rt L call a instruction { L a with lamports }
  | initialized {authority : Pubkey} {poolId templateHash : Bytes32} {min max : UInt32}
      {minDelay maxDelay window : UInt64} {backend : Backend} {bump : UInt8} {account : Account}
      (policy : ¬(min < 2 ∨ max < min ∨ maxCohortSize < max ∨ window = 0 ∨ maxDelay < minDelay))
      (position : keyAt call.accounts 1 = some a) (signed : SignedBy call.accounts authority)
      (derived : rt.createProgramAddress (Runtime.poolSeeds poolId bump) rt.programId = some a)
      (allocated : Allocated rt poolAccountSize (L a) account)
      (fits : 140 ≤ account.data.length) :
      AccountStep rt L call a
        (.initializePool poolId templateHash min max minDelay maxDelay window backend bump)
        (account.store PoolAccount.codec
          { version := 1, bump, authority, poolId, templateHash, minParticipants := min,
            maxParticipants := max, minReleaseDelay := minDelay, maxReleaseDelay := maxDelay,
            executionWindow := window, backend, nextRound := 0, paused := false })
  | opened {roundId deadline : UInt64} {template : Bytes32} {bump : UInt8} {poolKey : Pubkey}
      {pool : PoolAccount} {account : Account} (passed : PassedPool rt L call poolKey pool)
      (position : keyAt call.accounts 2 = some a)
      (signed : SignedBy call.accounts pool.authority) (unpaused : pool.paused = false)
      (next : pool.nextRound = roundId) (templateHash : pool.templateHash = template)
      (future : call.slot < deadline)
      (derived : rt.createProgramAddress (Runtime.roundSeeds poolKey roundId bump) rt.programId =
        some a)
      (allocated : Allocated rt roundAccountSize (L a) account)
      (fits : 167 ≤ account.data.length) :
      AccountStep rt L call a (.openRound roundId deadline template bump)
        (account.store RoundAccount.codec (.fresh poolKey roundId deadline template bump))
  | counted {roundId deadline nextRound : UInt64} {template : Bytes32} {bump : UInt8}
      {pool : PoolAccount} (passed : PassedPool rt L call a pool)
      (position : keyAt call.accounts 2 ≠ some a)
      (signed : SignedBy call.accounts pool.authority) (unpaused : pool.paused = false)
      (next : pool.nextRound = roundId)
      (next_eq : nextRound.toNat = roundId.toNat + 1) :
      AccountStep rt L call a (.openRound roundId deadline template bump)
        ((L a).store PoolAccount.codec { pool with nextRound })
  | recorded {key : Bytes32} {bump : UInt8} {round : Pubkey} {account : Account}
      (position : keyAt call.accounts 2 = some round) (other : a ≠ round)
      (record : keyAt call.accounts 3 = some a)
      (derived : rt.createProgramAddress (Runtime.participantSeeds round key bump)
        rt.programId = some a)
      (allocated : Allocated rt participantRecordSize (L a) account)
      (fits : 66 ≤ account.data.length) :
      AccountStep rt L call a (.registerTransparent key bump)
        (account.store ParticipantRecord.codec
          { version := 1, bump, round, coordinationKey := key })
  | edited {instruction : CoordinationInstruction} {round round' : RoundAccount}
      (position : roundKey instruction call.accounts = some a) (round_at : RoundAt rt L a round)
      (step : RoundStep rt L call instruction round round') :
      AccountStep rt L call a instruction ((L a).store RoundAccount.codec round')
  | closed {poolKey : Pubkey} {pool : PoolAccount} {round : RoundAccount}
      (passed : PassedPool rt L call poolKey pool)
      (position : keyAt call.accounts 2 = some a)
      (signed : SignedBy call.accounts pool.authority) (round_at : RoundAt rt L a round)
      (terminal : round.state.IsTerminal) :
      AccountStep rt L call a .closeRound
        { L a with lamports := 0, data := List.replicate (L a).data.length 0 }

/-- Another key is not at the position. -/
theorem keyAt_ne_of_getElem? {accounts : List AccountInfo} {position : Nat} {info : AccountInfo}
    (hinfo : accounts[position]? = some info) (hne : a ≠ info.key) :
    keyAt accounts position ≠ some a := by
  rw [keyAt_of_getElem? hinfo]
  exact fun h => hne (Option.some.inj h).symm

/-- The first account has signed when it is a signer. -/
theorem signedBy_of_getElem? {accounts : List AccountInfo} {info : AccountInfo}
    (hinfo : accounts[0]? = some info) (hsigned : info.isSigner = true) :
    SignedBy accounts info.key :=
  ⟨info, hinfo, hsigned, rfl⟩

/-- An account that was already owned by the program is allocated as it is. -/
theorem Allocated.eq_of_owned {space : Nat} {before after : Account}
    (halloc : Allocated rt space before after) (howned : before.owner = rt.programId) :
    after = before := by
  cases halloc with
  | reused => rfl
  | created owner other => exact absurd (owner.symm.trans howned) other

/-- Allocation leaves every program account as it was. -/
theorem createPdaAccount_owned {payer account system : AccountInfo} {space : Nat}
    {seeds : List (List UInt8)} {L₁ : Ledger} (hspace : space ≤ 10240)
    (hok : createPdaAccount rt L payer account system space seeds = .ok L₁)
    (howned : (L b).owner = rt.programId) : L₁ b = L b := by
  rcases createPdaAccount_frame hspace hok with ⟨halloc, hframe⟩
  by_cases hb : b = account.key
  · subst hb
    exact halloc.eq_of_owned howned
  · rcases hframe b hb with hsame | ⟨-, hother, -⟩
    · exact hsame
    · exact absurd howned hother

/-- Away from the allocated address, allocation moves at most the balance of
the signing payer. -/
theorem createPdaAccount_step {call : Call rt} {instruction : CoordinationInstruction}
    {payer account system : AccountInfo} {space : Nat} {seeds : List (List UInt8)} {L₁ : Ledger}
    (hspace : space ≤ 10240) (hpayer : call.accounts[0]? = some payer)
    (hsigned : payer.isSigner = true) (huntouched : Untouched instruction call.accounts b)
    (hok : createPdaAccount rt L payer account system space seeds = .ok L₁)
    (hb : b ≠ account.key) : AccountStep rt L call b instruction (L₁ b) := by
  rcases (createPdaAccount_frame hspace hok).2 b hb with hsame | ⟨hkey, -, hdebit⟩
  · rw [hsame]
    exact .same huntouched
  · rw [hdebit]
    exact .wallet huntouched (hkey ▸ signedBy_of_getElem? hpayer hsigned)

section Handlers

variable {call : Call rt}

/-- What the setup of a pool does to each account. -/
theorem initializePool_step {poolId templateHash : Bytes32} {min max : UInt32}
    {minDelay maxDelay window : UInt64} {backend : Backend} {bump : UInt8}
    (hok : initializePool rt L call.accounts poolId templateHash min max minDelay maxDelay window
      backend bump = .ok L') (a : Pubkey) :
    AccountStep rt L call a
      (.initializePool poolId templateHash min max minDelay maxDelay window backend bump)
      (L' a) := by
  obtain ⟨authority, poolInfo, systemInfo, L₁, hpolicy, hauthority, hpool, -, hsigned, hderived,
    hcreate, hfits, rfl⟩ := initializePool_eq_ok.mp hok
  have hspace : poolAccountSize ≤ 10240 := by decide
  by_cases ha : a = poolInfo.key
  · subst ha
    rw [Ledger.setPool_self]
    exact .initialized hpolicy (keyAt_of_getElem? hpool)
      (signedBy_of_getElem? hauthority hsigned) hderived
      (createPdaAccount_frame hspace hcreate).1 hfits
  · rw [Ledger.setPool_of_ne _ ha]
    exact createPdaAccount_step hspace hauthority hsigned
      (List.forall_mem_singleton.mpr (keyAt_ne_of_getElem? hpool ha)) hcreate ha

/-- What the opening of a round does to each account. -/
theorem openRound_step {roundId deadline : UInt64} {template : Bytes32} {bump : UInt8}
    (hok : openRound rt call.slot L call.accounts roundId deadline template bump = .ok L')
    (a : Pubkey) :
    AccountStep rt L call a (.openRound roundId deadline template bump) (L' a) := by
  obtain ⟨authority, poolInfo, roundInfo, systemInfo, pool, nextRound, L₁, hauthority, hpool,
    hround, -, hsigned, howned, hread, hkey, hunpaused, hnext, htemplate, hdeadline, hderived,
    hcreate, hadd, hpoolFits, hroundFits, rfl⟩ := openRound_eq_ok.mp hok
  have hspace : roundAccountSize ≤ 10240 := by decide
  have hpassed : PassedPool rt L call poolInfo.key pool :=
    { owned := howned, read := hread, position := keyAt_of_getElem? hpool }
  have hby : SignedBy call.accounts pool.authority :=
    hkey ▸ signedBy_of_getElem? hauthority hsigned
  by_cases ha : a = roundInfo.key
  · subst ha
    rw [Ledger.setPool_setRound_self hpoolFits]
    exact .opened hpassed (keyAt_of_getElem? hround) hby hunpaused hnext htemplate hdeadline
      hderived (createPdaAccount_frame hspace hcreate).1 hroundFits
  · rw [Ledger.setRound_of_ne _ ha]
    by_cases hpoolKey : a = poolInfo.key
    · subst hpoolKey
      rw [Ledger.setPool_self, createPdaAccount_owned hspace hcreate howned]
      refine .counted hpassed (keyAt_ne_of_getElem? hround ha) hby hunpaused hnext ?_
      rw [← hnext]
      simpa using add64_eq_some.mp hadd
    · rw [Ledger.setPool_of_ne _ hpoolKey]
      exact createPdaAccount_step hspace hauthority hsigned
        (List.forall_mem_cons.mpr ⟨keyAt_ne_of_getElem? hpool hpoolKey,
          List.forall_mem_singleton.mpr (keyAt_ne_of_getElem? hround ha)⟩) hcreate ha

/-- What a registration does to each account. -/
theorem registerTransparent_step {key : Bytes32} {bump : UInt8}
    (hok : registerTransparent rt call.slot L call.accounts key bump = .ok L') (a : Pubkey) :
    AccountStep rt L call a (.registerTransparent key bump) (L' a) := by
  obtain ⟨payer, poolInfo, roundInfo, recordInfo, systemInfo, pool, round, acceptedCount, L₁,
    hpayer, hpool, hround, hrecordInfo, -, hsigned, hpoolOwned, hroundOwned, hpoolRead, hroundRead,
    hbackend, hown, hstate, hdeadline, hroom, hderived, hcreate, hadd, hrecordFits, -,
    rfl⟩ := registerTransparent_eq_ok.mp hok
  have hspace : participantRecordSize ≤ 10240 := by decide
  have hpassed : PassedPool rt L call poolInfo.key pool :=
    { owned := hpoolOwned, read := hpoolRead, position := keyAt_of_getElem? hpool }
  by_cases ha : a = roundInfo.key
  · subst ha
    rw [Ledger.setRecord_setRound_self hrecordFits,
      createPdaAccount_owned hspace hcreate hroundOwned]
    exact .edited (keyAt_of_getElem? hround) ⟨hroundOwned, hroundRead⟩
      (.registered hpassed hbackend hown hstate hdeadline hroom
        (by simpa using add32_eq_some.mp hadd))
  · rw [Ledger.setRound_of_ne _ ha]
    by_cases hrecord : a = recordInfo.key
    · subst hrecord
      rw [Ledger.setRecord_self]
      exact .recorded (keyAt_of_getElem? hround) ha (keyAt_of_getElem? hrecordInfo) hderived
        (createPdaAccount_frame hspace hcreate).1 hrecordFits
    · rw [Ledger.setRecord_of_ne _ hrecord]
      exact createPdaAccount_step hspace hpayer hsigned
        (List.forall_mem_cons.mpr ⟨keyAt_ne_of_getElem? hround ha,
          List.forall_mem_singleton.mpr (keyAt_ne_of_getElem? hrecordInfo hrecord)⟩)
        hcreate hrecord

/-- An administrative instruction passes its pool with the authority's
signature. -/
theorem AdminContext.passed {admin : AdminAccounts} {pool : PoolAccount} {round : RoundAccount}
    (ctx : AdminContext rt L call.accounts admin pool round) :
    PassedPool rt L call admin.pool.key pool :=
  { owned := ctx.pool_owned, read := ctx.pool_read, position := keyAt_of_getElem? ctx.pool_at }

/-- The authority of the pool has signed. -/
theorem AdminContext.signedBy {admin : AdminAccounts} {pool : PoolAccount} {round : RoundAccount}
    (ctx : AdminContext rt L call.accounts admin pool round)
    (hauthority : pool.authority = admin.authority.key) :
    SignedBy call.accounts pool.authority :=
  hauthority ▸ signedBy_of_getElem? ctx.authority_at ctx.signed

/-- An administrative edit changes the round that was passed and nothing else. -/
theorem AdminContext.edit_step {instruction : CoordinationInstruction} {admin : AdminAccounts}
    {pool : PoolAccount} {round round' : RoundAccount}
    (ctx : AdminContext rt L call.accounts admin pool round)
    (hposition : instruction.roundPosition = some 2) (hwrites : instruction.writes = [2])
    (hstep : RoundStep rt L call instruction round round') (a : Pubkey) :
    AccountStep rt L call a instruction (L.setRound admin.round.key round' a) := by
  by_cases ha : a = admin.round.key
  · subst ha
    rw [Ledger.setRound_self]
    refine .edited ?_ ⟨ctx.round_owned, ctx.round_read⟩ hstep
    rw [roundKey, hposition]
    exact keyAt_of_getElem? ctx.round_at
  · rw [Ledger.setRound_of_ne _ ha]
    refine .same ?_
    rw [Untouched, hwrites]
    exact List.forall_mem_singleton.mpr (keyAt_ne_of_getElem? ctx.round_at ha)

/-- What the transition to the window does to each account. -/
theorem begin_step (hok : begin rt call.slot L call.accounts = .ok L') (a : Pubkey) :
    AccountStep rt L call a .beginExecutionWindow (L' a) := by
  obtain ⟨roundInfo, round, hround, howned, hread, ⟨hstate, hreleased, hwindow⟩, rfl⟩ :=
    begin_eq_ok.mp hok
  by_cases ha : a = roundInfo.key
  · subst ha
    rw [Ledger.setRound_self]
    exact .edited (keyAt_of_getElem? hround) ⟨howned, hread⟩ (.begun hstate hreleased hwindow)
  · rw [Ledger.setRound_of_ne _ ha]
    exact .same (List.forall_mem_singleton.mpr (keyAt_ne_of_getElem? hround ha))

/-- Closing empties the round, credits the authority, and leaves every other
account alone. -/
theorem close_step (hok : close rt L call.accounts = .ok L') (a : Pubkey) :
    AccountStep rt L call a .closeRound (L' a) := by
  obtain ⟨admin, pool, round, ctx, credited, ⟨hauthority, hterminal, -, -⟩, rfl⟩ :=
    close_eq_ok.mp hok
  by_cases ha : a = admin.round.key
  · subst ha
    have hsame : L.closeRound admin.authority.key admin.round.key credited admin.round.key =
        { L admin.round.key with
          lamports := 0, data := List.replicate (L admin.round.key).data.length 0 } := by
      rw [Ledger.closeRound, Ledger.setData_self, Ledger.setLamports_self]
      by_cases hkey : admin.round.key = admin.authority.key
      · rw [hkey, Ledger.setLamports_self]
      · rw [Ledger.setLamports_of_ne _ _ hkey]
    rw [hsame]
    exact .closed ctx.passed (keyAt_of_getElem? ctx.round_at) (ctx.signedBy hauthority)
      ⟨ctx.round_owned, ctx.round_read⟩ hterminal
  · rw [Ledger.closeRound, Ledger.setData_of_ne _ _ ha, Ledger.setLamports_of_ne _ _ ha]
    have huntouched : Untouched .closeRound call.accounts a :=
      List.forall_mem_singleton.mpr (keyAt_ne_of_getElem? ctx.round_at ha)
    by_cases hkey : a = admin.authority.key
    · subst hkey
      rw [Ledger.setLamports_self]
      exact .wallet huntouched (signedBy_of_getElem? ctx.authority_at ctx.signed)
    · rw [Ledger.setLamports_of_ne _ _ hkey]
      exact .same huntouched

/-- Whatever the instruction is, a successful handler acts on every address by
{lit}`AccountStep`. -/
theorem dispatch_step {instruction : CoordinationInstruction}
    (hok : dispatch rt call.slot L call.accounts instruction = .ok L') (a : Pubkey) :
    AccountStep rt L call a instruction (L' a) := by
  cases instruction with
  | initializePool => exact initializePool_step hok a
  | openRound => exact openRound_step hok a
  | registerTransparent => exact registerTransparent_step hok a
  | publishCohortRoot root count =>
      obtain ⟨admin, pool, round, ctx, ⟨hbackend, hown, hstate, hmin, hmax, hset, hunset,
        hauthority⟩, rfl⟩ := publishRoot_eq_ok.mp hok
      exact ctx.edit_step rfl rfl (.published ctx.passed (ctx.signedBy hauthority) hbackend hown
        hstate hmin hmax hset hunset) a
  | sealRound =>
      obtain ⟨admin, pool, round, ctx, ⟨hauthority, hown, hstate, hmin⟩, rfl⟩ :=
        sealRound_eq_ok.mp hok
      exact ctx.edit_step rfl rfl (.sealed ctx.passed (ctx.signedBy hauthority) hown hstate hmin) a
  | scheduleRelease release =>
      obtain ⟨admin, pool, round, ctx, delay, windowEnd, ⟨hdelay, hauthority, hstate, hunset,
        hmin, hmax, hwindow⟩, rfl⟩ := schedule_eq_ok.mp hok
      exact ctx.edit_step rfl rfl (.scheduled ctx.passed (ctx.signedBy hauthority) hstate hunset
        hdelay hmin hmax hwindow) a
  | beginExecutionWindow => exact begin_step hok a
  | finalizeRound metrics =>
      obtain ⟨admin, pool, round, ctx, ⟨hauthority, hstate, hover, hset⟩, rfl⟩ :=
        finalize_eq_ok.mp hok
      exact ctx.edit_step rfl rfl (.finalized ctx.passed (ctx.signedBy hauthority) hstate hover
        hset) a
  | cancelRound =>
      rcases cancel_eq_ok.mp hok with ⟨admin, pool, round, ctx, ⟨hauthority, hlive⟩, rfl⟩
      exact ctx.edit_step rfl rfl (.cancelled ctx.passed (ctx.signedBy hauthority) hlive) a
  | closeRound => exact close_step hok a

end Handlers

/-! ## Successful calls -/

/-- The call runs through with the given instruction and leaves the given
ledger. -/
structure Succeeds (rt : Runtime) (L : Ledger) (call : Call rt)
    (instruction : CoordinationInstruction) (L' : Ledger) : Prop where
  decoded : CoordinationInstruction.tryFromSlice call.data = some instruction
  executed : execute rt L call = .ok L'

/-- A call that runs through decoded some instruction and ran its handler. -/
theorem execute_eq_ok {call : Call rt} :
    execute rt L call = .ok L' ↔
      (∃ instruction, CoordinationInstruction.tryFromSlice call.data = some instruction ∧
        dispatch rt call.slot L call.accounts instruction = .ok L') ∧
      ∀ info ∈ call.accounts, info.isWritable = false → L' info.key = L info.key := by
  simp only [execute, processInstruction, bind_eq_ok, okOr_eq_ok, failIf_eq_ok, exists_const,
    pure, Except.pure, Except.ok.injEq, not_exists, not_and, ne_eq, not_not]
  constructor
  · rintro ⟨L₁, hdispatch, hreadonly, rfl⟩
    exact ⟨hdispatch, hreadonly⟩
  · rintro ⟨hdispatch, hreadonly⟩
    exact ⟨L', hdispatch, hreadonly, rfl⟩

/-- Every successful call acts on every address by {lit}`AccountStep`. -/
theorem accountStep_of_execute {call : Call rt} {instruction : CoordinationInstruction}
    (hok : Succeeds rt L call instruction L') (a : Pubkey) :
    AccountStep rt L call a instruction (L' a) := by
  rcases execute_eq_ok.mp hok.executed with ⟨⟨instruction', hdecoded, hdispatch⟩, -⟩
  obtain rfl : instruction' = instruction := Option.some.inj (hdecoded.symm.trans hok.decoded)
  exact dispatch_step hdispatch a

/-- A successful call leaves an address alone that neither signed nor stands in a
written position. -/
theorem AccountStep.eq_or_listed {call : Call rt} {account : Account}
    {instruction : CoordinationInstruction} (hstep : AccountStep rt L call a instruction account) :
    account = L a ∨ SignedBy call.accounts a ∨
      ∃ position ∈ instruction.writes, keyAt call.accounts position = some a := by
  by_cases huntouched : Untouched instruction call.accounts a
  · unfold Untouched at huntouched
    cases hstep with
    | same => exact .inl rfl
    | wallet _ signed => exact .inr (.inl signed)
    | initialized _ position => simp [CoordinationInstruction.writes, position] at huntouched
    | opened _ position => simp [CoordinationInstruction.writes, position] at huntouched
    | counted passed =>
        simp [CoordinationInstruction.writes, passed.position] at huntouched
    | recorded _ _ record => simp [CoordinationInstruction.writes, record] at huntouched
    | edited position => exact absurd position (Untouched.roundKey_ne huntouched)
    | closed _ position => simp [CoordinationInstruction.writes, position] at huntouched
  · unfold Untouched at huntouched
    push Not at huntouched
    exact .inr (.inr huntouched)

/-- A call either runs through with some instruction or changes nothing. -/
theorem applyCall_cases (rt : Runtime) (L : Ledger) (call : Call rt) :
    (∃ instruction, Succeeds rt L call instruction (applyCall rt L call)) ∨
      applyCall rt L call = L := by
  unfold applyCall
  cases hexec : execute rt L call with
  | error error => exact Or.inr rfl
  | ok L' =>
      rcases execute_eq_ok.mp hexec with ⟨⟨instruction, hdecoded, -⟩, -⟩
      exact Or.inl ⟨instruction, hdecoded, hexec⟩

end MirrorPool
