import MirrorPool.Program.Processor

/-!
# Rules of the handlers

One rule for each check, each byte access and each handler: it succeeds exactly
when its guards hold, and then the ledger is the stated update of the old one.
Later modules cite these rules and never unfold a handler.

Main results:

- Theorem {lit}`writeAccount_eq_ok`: a write succeeds exactly when the buffer
  is large enough.
- Theorem {lit}`createPdaAccount_eq_ok`: the reuse and the creation path of a
  derived account.
- Theorems {lit}`initializePool_eq_ok` to {lit}`close_eq_ok`: the exact guards
  and effect of the ten handlers.
-/

namespace MirrorPool

open Fallible

variable {rt : Runtime} {slot : UInt64} {L L' : Ledger} {accounts : List AccountInfo}

/-! ## Checks and byte access -/

theorem nextAccountInfo_eq_ok {position : Nat} {info : AccountInfo} :
    nextAccountInfo accounts position = .ok info ↔ accounts[position]? = some info :=
  okOr_eq_ok

theorem requireSigner_eq_ok {info : AccountInfo} {u : Unit} :
    requireSigner info = .ok u ↔ info.isSigner = true := by
  rw [requireSigner, failIf_eq_ok, Bool.not_eq_false]

theorem requireOwned_eq_ok {info : AccountInfo} {programId : Pubkey} {u : Unit} :
    requireOwned L info programId = .ok u ↔ (L info.key).owner = programId := by
  rw [requireOwned, failIf_eq_ok, not_not]

theorem readAccount_eq_ok {α : Type} {width : Nat} {codec : FixedCodec α width}
    {info : AccountInfo} {a : α} :
    readAccount codec L info = .ok a ↔ codec.read (L info.key).data = some a :=
  okOr_eq_ok

/-- A write succeeds exactly when the buffer is large enough. -/
theorem writeAccount_eq_ok {α : Type} {width : Nat} {codec : FixedCodec α width}
    {info : AccountInfo} {value : α} :
    writeAccount codec L info value = .ok L' ↔
      width ≤ (L info.key).data.length ∧
        L' = L.setData info.key (codec.padded value (L info.key).data.length) := by
  simp only [writeAccount, bind_eq_ok, failIf_eq_ok, codec.length_encode, not_lt, exists_const,
    pure, Except.pure, Except.ok.injEq]
  exact and_congr_right fun _ => eq_comm

/-- The accounts of an administrative instruction with everything that
{lit}`admin_accounts` and the two reads establish about them. -/
structure AdminContext (rt : Runtime) (L : Ledger) (accounts : List AccountInfo)
    (admin : AdminAccounts) (pool : PoolAccount) (round : RoundAccount) : Prop where
  authority_at : accounts[0]? = some admin.authority
  pool_at : accounts[1]? = some admin.pool
  round_at : accounts[2]? = some admin.round
  signed : admin.authority.isSigner = true
  pool_owned : (L admin.pool.key).owner = rt.programId
  round_owned : (L admin.round.key).owner = rt.programId
  pool_read : PoolAccount.codec.read (L admin.pool.key).data = some pool
  round_read : RoundAccount.codec.read (L admin.round.key).data = some round

/-- The account list and the ledger determine what an administrative instruction
works on. -/
theorem AdminContext.exists_iff {admin : AdminAccounts} {pool : PoolAccount}
    {round : RoundAccount} (ctx : AdminContext rt L accounts admin pool round)
    {P : AdminAccounts → PoolAccount → RoundAccount → Prop} :
    (∃ admin pool round, AdminContext rt L accounts admin pool round ∧ P admin pool round) ↔
      P admin pool round := by
  constructor
  · rintro ⟨⟨poolInfo, roundInfo, authority⟩, pool', round', ctx', h⟩
    rcases admin with ⟨poolInfo', roundInfo', authority'⟩
    rcases Option.some.inj (ctx.authority_at.symm.trans ctx'.authority_at) with rfl
    rcases Option.some.inj (ctx.pool_at.symm.trans ctx'.pool_at) with rfl
    rcases Option.some.inj (ctx.round_at.symm.trans ctx'.round_at) with rfl
    rcases Option.some.inj (ctx.pool_read.symm.trans ctx'.pool_read) with rfl
    rcases Option.some.inj (ctx.round_read.symm.trans ctx'.round_read) with rfl
    exact h
  · intro h
    exact ⟨admin, pool, round, ctx, h⟩

/-- A handler that checks a condition on the three accounts and then writes one
ledger succeeds exactly when the condition holds. -/
theorem AdminContext.succeeds_iff {admin : AdminAccounts} {pool : PoolAccount}
    {round : RoundAccount} (ctx : AdminContext rt L accounts admin pool round)
    {P : AdminAccounts → PoolAccount → RoundAccount → Prop}
    {written : AdminAccounts → PoolAccount → RoundAccount → Ledger}
    {handler : Except ProgramError Ledger}
    (hhandler : ∀ L', handler = .ok L' ↔ ∃ admin pool round,
      AdminContext rt L accounts admin pool round ∧ P admin pool round ∧
        L' = written admin pool round) :
    (∃ L', handler = .ok L') ↔ P admin pool round := by
  constructor
  · rintro ⟨L', hok⟩
    exact (ctx.exists_iff.mp ((hhandler L').mp hok)).1
  · intro h
    exact ⟨_, (hhandler _).mpr ⟨admin, pool, round, ctx, h, rfl⟩⟩

/-- The round buffer of an administrative instruction is large enough. -/
theorem AdminContext.round_fits {admin : AdminAccounts} {pool : PoolAccount}
    {round : RoundAccount} (ctx : AdminContext rt L accounts admin pool round) :
    167 ≤ (L admin.round.key).data.length :=
  RoundAccount.codec.width_le_of_read ctx.round_read

/-- An administrative handler succeeds exactly when its accounts are in order
and the rest of its body succeeds on them. -/
theorem adminHandler_eq_ok {body : AdminAccounts → PoolAccount → RoundAccount →
    Except ProgramError Ledger} :
    (do
      let admin ← adminAccounts rt L accounts
      let pool ← readAccount PoolAccount.codec L admin.pool
      let round ← readAccount RoundAccount.codec L admin.round
      body admin pool round) = .ok L' ↔
      ∃ admin pool round, AdminContext rt L accounts admin pool round ∧
        body admin pool round = .ok L' := by
  simp only [adminAccounts, bind_eq_ok, nextAccountInfo_eq_ok, requireSigner_eq_ok,
    requireOwned_eq_ok, readAccount_eq_ok, exists_const, pure, Except.pure, Except.ok.injEq]
  constructor
  · rintro ⟨admin, ⟨authority, hauthority, pool, hpool, round, hround, hsigned, hpoolOwned,
      hroundOwned, rfl⟩, p, hp, r, hr, hbody⟩
    exact ⟨_, p, r, ⟨hauthority, hpool, hround, hsigned, hpoolOwned, hroundOwned, hp, hr⟩, hbody⟩
  · rintro ⟨admin, p, r, ctx, hbody⟩
    exact ⟨admin, ⟨_, ctx.authority_at, _, ctx.pool_at, _, ctx.round_at, ctx.signed,
      ctx.pool_owned, ctx.round_owned, rfl⟩, p, ctx.pool_read, r, ctx.round_read, hbody⟩

/-- Replace the round stored at an address. -/
def Ledger.setRound (L : Ledger) (a : Pubkey) (round : RoundAccount) : Ledger :=
  L.setData a (RoundAccount.codec.padded round (L a).data.length)

/-- Replace the pool stored at an address. -/
def Ledger.setPool (L : Ledger) (a : Pubkey) (pool : PoolAccount) : Ledger :=
  L.setData a (PoolAccount.codec.padded pool (L a).data.length)

/-- Replace the participant record stored at an address. -/
def Ledger.setRecord (L : Ledger) (a : Pubkey) (record : ParticipantRecord) : Ledger :=
  L.setData a (ParticipantRecord.codec.padded record (L a).data.length)

/-- Writing a pool over a large enough buffer keeps every buffer length. -/
theorem Ledger.length_setPool {a : Pubkey} (pool : PoolAccount)
    (hfits : 140 ≤ (L a).data.length) (b : Pubkey) :
    (L.setPool a pool b).data.length = (L b).data.length := by
  by_cases hb : b = a
  · subst hb
    rw [setPool, setData_self]
    exact PoolAccount.codec.length_padded _ hfits
  · rw [setPool, setData_of_ne _ _ hb]

/-- Writing a record over a large enough buffer keeps every buffer length. -/
theorem Ledger.length_setRecord {a : Pubkey} (record : ParticipantRecord)
    (hfits : 66 ≤ (L a).data.length) (b : Pubkey) :
    (L.setRecord a record b).data.length = (L b).data.length := by
  by_cases hb : b = a
  · subst hb
    rw [setRecord, setData_self]
    exact ParticipantRecord.codec.length_padded _ hfits
  · rw [setRecord, setData_of_ne _ _ hb]

/-- The last write of an administrative handler always fits. -/
theorem AdminContext.write_eq_ok {admin : AdminAccounts} {pool : PoolAccount}
    {round round' : RoundAccount} (ctx : AdminContext rt L accounts admin pool round) :
    writeAccount RoundAccount.codec L admin.round round' = .ok L' ↔
      L' = L.setRound admin.round.key round' := by
  rw [writeAccount_eq_ok, and_iff_right ctx.round_fits, Ledger.setRound]

theorem requireDerived_eq_ok {seeds : List (List UInt8)} {info : AccountInfo} {u : Unit} :
    requireDerived rt seeds info = .ok u ↔
      rt.createProgramAddress seeds rt.programId = some info.key := by
  simp only [requireDerived, bind_eq_ok, okOr_eq_ok, failIf_eq_ok, not_not, exists_eq_right]

/-- The account left by the allocation of a derived address: either a
program-owned account whose first byte is zero is taken as it is, or the System
Program creates a zero-filled one. -/
inductive Allocated (rt : Runtime) (space : Nat) (before : Account) : Account → Prop where
  | reused (owned : before.owner = rt.programId) (blank : before.data.head?.getD 0 = 0) :
      Allocated rt space before before
  | created (owner : before.owner = systemProgramId) (other : systemProgramId ≠ rt.programId)
      (empty : before.data = []) (unfunded : before.lamports = 0) :
      Allocated rt space before
        { owner := rt.programId, lamports := rt.minimumBalance space,
          data := List.replicate space 0 }

/-- An allocated account is owned by the program. -/
theorem Allocated.owner_eq {space : Nat} {before after : Account}
    (halloc : Allocated rt space before after) : after.owner = rt.programId := by
  cases halloc with
  | reused owned => exact owned
  | created => rfl

/-- The reuse and the creation path of a derived account. -/
theorem createPdaAccount_eq_ok {payer account system : AccountInfo} {space : Nat}
    {seeds : List (List UInt8)} (hspace : space ≤ 10240) :
    createPdaAccount rt L payer account system space seeds = .ok L' ↔
      ((L account.key).owner = rt.programId ∧ (L account.key).data.head?.getD 0 = 0 ∧ L' = L) ∨
      ((L account.key).owner ≠ rt.programId ∧ system.key = systemProgramId ∧
        Creatable L payer account (rt.minimumBalance space)
          (rt.createProgramAddress seeds rt.programId) ∧
        L' = L.createAccount payer.key account.key (rt.minimumBalance space) space
          rt.programId) := by
  unfold createPdaAccount
  split
  · rename_i howned
    simp only [bind_eq_ok, failIf_eq_ok, not_not, exists_const, pure, Except.pure,
      Except.ok.injEq, howned, true_and, ne_eq, not_true_eq_false, false_and, or_false]
    exact and_congr_right fun _ => eq_comm
  · rename_i howned
    simp only [bind_eq_ok, failIf_eq_ok, not_or, not_not, exists_const,
      rt.createAccount_eq_ok hspace, howned, false_and, false_or, ne_eq, not_false_eq_true,
      true_and]
    constructor
    · rintro ⟨⟨hsystem, -, -⟩, hcreatable, rfl⟩
      exact ⟨hsystem, hcreatable, rfl⟩
    · rintro ⟨hsystem, hcreatable, rfl⟩
      exact ⟨⟨hsystem, hcreatable.account_unused⟩, hcreatable, rfl⟩

/-- Allocation changes the derived account and the balance of the payer, which
is no program account. -/
theorem createPdaAccount_frame {payer account system : AccountInfo} {space : Nat}
    {seeds : List (List UInt8)} (hspace : space ≤ 10240)
    (hok : createPdaAccount rt L payer account system space seeds = .ok L') :
    Allocated rt space (L account.key) (L' account.key) ∧
      ∀ b, b ≠ account.key → L' b = L b ∨
        (b = payer.key ∧ (L b).owner ≠ rt.programId ∧
          L' b = { L b with lamports := (L b).lamports - rt.minimumBalance space }) := by
  rcases (createPdaAccount_eq_ok hspace).mp hok with
    ⟨howned, hblank, rfl⟩ | ⟨hother, -, hcreatable, rfl⟩
  · exact ⟨.reused howned hblank, fun b _ => Or.inl rfl⟩
  · have hsystem : systemProgramId ≠ rt.programId := by
      rw [← hcreatable.account_unused.1]
      exact hother
    refine ⟨?_, fun b hb => ?_⟩
    · rw [Ledger.createAccount_self]
      exact .created hcreatable.account_unused.1 hsystem hcreatable.account_unused.2
        hcreatable.account_unfunded
    · by_cases hpayer : b = payer.key
      · subst hpayer
        refine Or.inr ⟨rfl, ?_, Ledger.createAccount_payer _ _ _ _ hcreatable.distinct⟩
        rw [hcreatable.payer_wallet.1]
        exact hsystem
      · exact Or.inl (Ledger.createAccount_of_ne _ _ _ _ hpayer hb)

/-! ## Handlers that create accounts -/

/-- {lit}`InitializePool` succeeds exactly on an admissible policy, a signing
authority and a free pool address. -/
theorem initializePool_eq_ok {poolId templateHash : Bytes32} {min max : UInt32}
    {minDelay maxDelay window : UInt64} {backend : Backend} {bump : UInt8} :
    initializePool rt L accounts poolId templateHash min max minDelay maxDelay window backend
        bump = .ok L' ↔
      ∃ authority poolInfo systemInfo L₁,
        ¬(min < 2 ∨ max < min ∨ maxCohortSize < max ∨ window = 0 ∨ maxDelay < minDelay) ∧
        accounts[0]? = some authority ∧ accounts[1]? = some poolInfo ∧
        accounts[2]? = some systemInfo ∧ authority.isSigner = true ∧
        rt.createProgramAddress (Runtime.poolSeeds poolId bump) rt.programId =
          some poolInfo.key ∧
        createPdaAccount rt L authority poolInfo systemInfo poolAccountSize
          (Runtime.poolSeeds poolId bump) = .ok L₁ ∧
        140 ≤ (L₁ poolInfo.key).data.length ∧
        L' = L₁.setPool poolInfo.key
          { version := 1, bump, authority := authority.key, poolId, templateHash,
            minParticipants := min, maxParticipants := max, minReleaseDelay := minDelay,
            maxReleaseDelay := maxDelay, executionWindow := window, backend, nextRound := 0,
            paused := false } := by
  simp only [initializePool, bind_eq_ok, failIf_eq_ok, nextAccountInfo_eq_ok,
    requireSigner_eq_ok, requireDerived_eq_ok, writeAccount_eq_ok, exists_const, Ledger.setPool]
  grind

/-- The round that {lit}`OpenRound` writes. -/
def RoundAccount.fresh (pool : Pubkey) (roundId deadline : UInt64) (template : Bytes32)
    (bump : UInt8) : RoundAccount :=
  { version := 1, bump, pool, roundId, state := .registration,
    registrationDeadline := deadline, templateHash := template, acceptedCount := 0,
    cohortRoot := Vector.replicate 32 0, releaseSlot := 0, windowEndSlot := 0,
    metricsHash := Vector.replicate 32 0 }

/-- {lit}`OpenRound` succeeds exactly for the authority of an unpaused pool, the
next round number, a future deadline and a free round address. -/
theorem openRound_eq_ok {roundId deadline : UInt64} {template : Bytes32} {bump : UInt8} :
    openRound rt slot L accounts roundId deadline template bump = .ok L' ↔
      ∃ authority poolInfo roundInfo systemInfo pool nextRound L₁,
        accounts[0]? = some authority ∧ accounts[1]? = some poolInfo ∧
        accounts[2]? = some roundInfo ∧ accounts[3]? = some systemInfo ∧
        authority.isSigner = true ∧ (L poolInfo.key).owner = rt.programId ∧
        PoolAccount.codec.read (L poolInfo.key).data = some pool ∧
        pool.authority = authority.key ∧ pool.paused = false ∧ pool.nextRound = roundId ∧
        pool.templateHash = template ∧ slot < deadline ∧
        rt.createProgramAddress (Runtime.roundSeeds poolInfo.key roundId bump) rt.programId =
          some roundInfo.key ∧
        createPdaAccount rt L authority roundInfo systemInfo roundAccountSize
          (Runtime.roundSeeds poolInfo.key roundId bump) = .ok L₁ ∧
        add64 pool.nextRound 1 = some nextRound ∧
        140 ≤ (L₁ poolInfo.key).data.length ∧ 167 ≤ (L₁ roundInfo.key).data.length ∧
        L' = (L₁.setPool poolInfo.key { pool with nextRound }).setRound roundInfo.key
          (.fresh poolInfo.key roundId deadline template bump) := by
  simp only [openRound, bind_eq_ok, failIf_eq_ok, nextAccountInfo_eq_ok, requireSigner_eq_ok,
    requireOwned_eq_ok, readAccount_eq_ok, requireDerived_eq_ok, okOr_eq_ok, writeAccount_eq_ok,
    exists_const, not_or, ne_eq, not_not, Bool.not_eq_true, UInt64.not_le]
  constructor
  · rintro ⟨authority, hauthority, poolInfo, hpoolInfo, roundInfo, hroundInfo, systemInfo,
      hsystemInfo, hsigned, howned, pool, hread, ⟨hauth, hpaused, hnext, htemplate⟩, hdeadline,
      hderived, L₁, hcreate, nextRound, hadd, L₂, ⟨hpoolFits, rfl⟩, hroundFits, rfl⟩
    have hlength := Ledger.length_setPool { pool with nextRound } hpoolFits roundInfo.key
    exact ⟨authority, poolInfo, roundInfo, systemInfo, pool, nextRound, L₁, hauthority,
      hpoolInfo, hroundInfo, hsystemInfo, hsigned, howned, hread, hauth, hpaused, hnext, htemplate,
      hdeadline, hderived, hcreate, hadd, hpoolFits, hlength ▸ hroundFits, rfl⟩
  · rintro ⟨authority, poolInfo, roundInfo, systemInfo, pool, nextRound, L₁, hauthority,
      hpoolInfo, hroundInfo, hsystemInfo, hsigned, howned, hread, hauth, hpaused, hnext, htemplate,
      hdeadline, hderived, hcreate, hadd, hpoolFits, hroundFits, rfl⟩
    have hlength := Ledger.length_setPool { pool with nextRound } hpoolFits roundInfo.key
    exact ⟨authority, hauthority, poolInfo, hpoolInfo, roundInfo, hroundInfo, systemInfo,
      hsystemInfo, hsigned, howned, pool, hread, ⟨hauth, hpaused, hnext, htemplate⟩, hdeadline,
      hderived, L₁, hcreate, nextRound, hadd, _, ⟨hpoolFits, rfl⟩, hlength.symm ▸ hroundFits, rfl⟩

/-- The round after one more registration. -/
def RoundAccount.registered (round : RoundAccount) (pool : PoolAccount)
    (acceptedCount : UInt32) : RoundAccount :=
  { round with
    acceptedCount
    state := if pool.minParticipants ≤ acceptedCount then .thresholdReached else round.state }

/-- {lit}`RegisterTransparent` succeeds exactly on an open round of a
transparent pool that is not full, with a free record address. -/
theorem registerTransparent_eq_ok {key : Bytes32} {bump : UInt8} :
    registerTransparent rt slot L accounts key bump = .ok L' ↔
      ∃ payer poolInfo roundInfo recordInfo systemInfo pool round acceptedCount L₁,
        accounts[0]? = some payer ∧ accounts[1]? = some poolInfo ∧
        accounts[2]? = some roundInfo ∧ accounts[3]? = some recordInfo ∧
        accounts[4]? = some systemInfo ∧ payer.isSigner = true ∧
        (L poolInfo.key).owner = rt.programId ∧ (L roundInfo.key).owner = rt.programId ∧
        PoolAccount.codec.read (L poolInfo.key).data = some pool ∧
        RoundAccount.codec.read (L roundInfo.key).data = some round ∧
        pool.backend = .transparentRegistry ∧ round.pool = poolInfo.key ∧
        (round.state = .registration ∨ round.state = .thresholdReached) ∧
        slot < round.registrationDeadline ∧ round.acceptedCount < pool.maxParticipants ∧
        rt.createProgramAddress (Runtime.participantSeeds roundInfo.key key bump) rt.programId =
          some recordInfo.key ∧
        createPdaAccount rt L payer recordInfo systemInfo participantRecordSize
          (Runtime.participantSeeds roundInfo.key key bump) = .ok L₁ ∧
        add32 round.acceptedCount 1 = some acceptedCount ∧
        66 ≤ (L₁ recordInfo.key).data.length ∧ 167 ≤ (L₁ roundInfo.key).data.length ∧
        L' = (L₁.setRecord recordInfo.key
          { version := 1, bump, round := roundInfo.key, coordinationKey := key }).setRound
            roundInfo.key (round.registered pool acceptedCount) := by
  simp only [registerTransparent, bind_eq_ok, failIf_eq_ok, nextAccountInfo_eq_ok,
    requireSigner_eq_ok, requireOwned_eq_ok, readAccount_eq_ok, requireDerived_eq_ok, okOr_eq_ok,
    writeAccount_eq_ok, exists_const, not_or, not_and_or, ne_eq, not_not, UInt64.not_le,
    UInt32.not_le]
  constructor
  · rintro ⟨payer, hpayer, poolInfo, hpoolInfo, roundInfo, hroundInfo, recordInfo, hrecordInfo,
      systemInfo, hsystemInfo, hsigned, hpoolOwned, hroundOwned, pool, hpool, round, hround,
      ⟨hbackend, hlink, hstate, hdeadline, hroom⟩, hderived, L₁, hcreate, count, hadd, L₂,
      ⟨hrecordFits, rfl⟩, hroundFits, rfl⟩
    have hlength := Ledger.length_setRecord
      { version := 1, bump, round := roundInfo.key, coordinationKey := key }
      hrecordFits roundInfo.key
    exact ⟨payer, poolInfo, roundInfo, recordInfo, systemInfo, pool, round, count, L₁, hpayer,
      hpoolInfo, hroundInfo, hrecordInfo, hsystemInfo, hsigned, hpoolOwned, hroundOwned, hpool,
      hround, hbackend, hlink, hstate, hdeadline, hroom, hderived, hcreate, hadd, hrecordFits,
      hlength ▸ hroundFits, rfl⟩
  · rintro ⟨payer, poolInfo, roundInfo, recordInfo, systemInfo, pool, round, count, L₁, hpayer,
      hpoolInfo, hroundInfo, hrecordInfo, hsystemInfo, hsigned, hpoolOwned, hroundOwned, hpool,
      hround, hbackend, hlink, hstate, hdeadline, hroom, hderived, hcreate, hadd, hrecordFits,
      hroundFits, rfl⟩
    have hlength := Ledger.length_setRecord
      { version := 1, bump, round := roundInfo.key, coordinationKey := key }
      hrecordFits roundInfo.key
    exact ⟨payer, hpayer, poolInfo, hpoolInfo, roundInfo, hroundInfo, recordInfo, hrecordInfo,
      systemInfo, hsystemInfo, hsigned, hpoolOwned, hroundOwned, pool, hpool, round, hround,
      ⟨hbackend, hlink, hstate, hdeadline, hroom⟩, hderived, L₁, hcreate, count, hadd, _,
      ⟨hrecordFits, rfl⟩, hlength.symm ▸ hroundFits, rfl⟩

/-! ## Handlers that edit a round -/

/-- A guarded edit of the round passes its guard and writes the new round. -/
theorem AdminContext.edit_eq_ok {admin : AdminAccounts} {pool : PoolAccount}
    {round round' : RoundAccount} (ctx : AdminContext rt L accounts admin pool round)
    {bad : Prop} [Decidable bad] {error : ProgramError} :
    (do
      failIf bad error
      writeAccount RoundAccount.codec L admin.round round') = .ok L' ↔
      ¬bad ∧ L' = L.setRound admin.round.key round' := by
  simp only [bind_eq_ok, failIf_eq_ok, exists_const, ctx.write_eq_ok]

/-- {lit}`PublishCohortRoot` succeeds exactly for the authority of the round's
own Merkle pool, on a fresh round, with an admissible count and a first
non-zero root. -/
theorem publishRoot_eq_ok {root : Bytes32} {count : UInt32} :
    publishRoot rt L accounts root count = .ok L' ↔
      ∃ admin pool round, AdminContext rt L accounts admin pool round ∧
        (pool.backend = .merkleCohort ∧ round.pool = admin.pool.key ∧
          round.state = .registration ∧ pool.minParticipants ≤ count ∧
          count ≤ pool.maxParticipants ∧ root ≠ Vector.replicate 32 0 ∧
          round.cohortRoot = Vector.replicate 32 0 ∧ pool.authority = admin.authority.key) ∧
        L' = L.setRound admin.round.key
          { round with
            cohortRoot := root, acceptedCount := count, state := .thresholdReached } := by
  rw [publishRoot, adminHandler_eq_ok]
  refine exists_congr fun admin => exists_congr fun pool => exists_congr fun round =>
    and_congr_right fun ctx => ?_
  rw [ctx.edit_eq_ok]
  simp only [not_or, ne_eq, not_not, UInt32.not_lt]

/-- {lit}`SealRound` succeeds exactly for the authority of the round's own pool
once the cohort has the minimum size. -/
theorem sealRound_eq_ok :
    sealRound rt L accounts = .ok L' ↔
      ∃ admin pool round, AdminContext rt L accounts admin pool round ∧
        (pool.authority = admin.authority.key ∧ round.pool = admin.pool.key ∧
          round.state = .thresholdReached ∧ pool.minParticipants ≤ round.acceptedCount) ∧
        L' = L.setRound admin.round.key { round with state := .sealed } := by
  rw [sealRound, adminHandler_eq_ok]
  refine exists_congr fun admin => exists_congr fun pool => exists_congr fun round =>
    and_congr_right fun ctx => ?_
  rw [ctx.edit_eq_ok]
  simp only [not_or, ne_eq, not_not, UInt32.not_lt]

/-- {lit}`ScheduleRelease` succeeds exactly for the authority of the pool that
was passed, on a sealed round without a schedule, with a delay in the bounds of
that pool and a window that ends in range. -/
theorem schedule_eq_ok {release : UInt64} :
    schedule rt slot L accounts release = .ok L' ↔
      ∃ admin pool round, AdminContext rt L accounts admin pool round ∧
        ∃ delay windowEndSlot,
          (release.toNat = slot.toNat + delay.toNat ∧ pool.authority = admin.authority.key ∧
            round.state = .sealed ∧ round.releaseSlot = 0 ∧ pool.minReleaseDelay ≤ delay ∧
            delay ≤ pool.maxReleaseDelay ∧
            windowEndSlot.toNat = release.toNat + pool.executionWindow.toNat) ∧
          L' = L.setRound admin.round.key
            { round with
              releaseSlot := release, windowEndSlot, state := .releaseScheduled } := by
  rw [schedule, adminHandler_eq_ok]
  refine exists_congr fun admin => exists_congr fun pool => exists_congr fun round =>
    and_congr_right fun ctx => ?_
  simp only [bind_eq_ok, okOr_eq_ok, sub64_eq_some, add64_eq_some, failIf_eq_ok, exists_const,
    ctx.write_eq_ok, not_or, ne_eq, not_not, UInt64.not_lt]
  constructor
  · rintro ⟨delay, hdelay, ⟨hauthority, hstate, hunset, hmin, hmax⟩, windowEnd, hwindow, hwrite⟩
    exact ⟨delay, windowEnd, ⟨hdelay, hauthority, hstate, hunset, hmin, hmax, hwindow⟩, hwrite⟩
  · rintro ⟨delay, windowEnd, ⟨hdelay, hauthority, hstate, hunset, hmin, hmax, hwindow⟩, hwrite⟩
    exact ⟨delay, hdelay, ⟨hauthority, hstate, hunset, hmin, hmax⟩, windowEnd, hwindow, hwrite⟩

/-- {lit}`BeginExecutionWindow` succeeds exactly on a scheduled round within
its window, whoever sends it. -/
theorem begin_eq_ok :
    begin rt slot L accounts = .ok L' ↔
      ∃ roundInfo round, accounts[0]? = some roundInfo ∧
        (L roundInfo.key).owner = rt.programId ∧
        RoundAccount.codec.read (L roundInfo.key).data = some round ∧
        (round.state = .releaseScheduled ∧ round.releaseSlot ≤ slot ∧
          slot ≤ round.windowEndSlot) ∧
        L' = L.setRound roundInfo.key { round with state := .executionWindow } := by
  simp only [begin, bind_eq_ok, failIf_eq_ok, nextAccountInfo_eq_ok, requireOwned_eq_ok,
    readAccount_eq_ok, writeAccount_eq_ok, exists_const, not_or, ne_eq, not_not, UInt64.not_lt,
    Ledger.setRound]
  constructor
  · rintro ⟨info, hinfo, howned, round, hread, hguards, -, hwrite⟩
    exact ⟨info, round, hinfo, howned, hread, hguards, hwrite⟩
  · rintro ⟨info, round, hinfo, howned, hread, hguards, hwrite⟩
    exact ⟨info, hinfo, howned, round, hread, hguards,
      RoundAccount.codec.width_le_of_read hread, hwrite⟩

/-- {lit}`FinalizeRound` succeeds exactly for the authority of the pool that was
passed, after the window of an executing round, with non-zero metrics. -/
theorem finalize_eq_ok {metrics : Bytes32} :
    finalize rt slot L accounts metrics = .ok L' ↔
      ∃ admin pool round, AdminContext rt L accounts admin pool round ∧
        (pool.authority = admin.authority.key ∧ round.state = .executionWindow ∧
          round.windowEndSlot < slot ∧ metrics ≠ Vector.replicate 32 0) ∧
        L' = L.setRound admin.round.key
          { round with metricsHash := metrics, state := .completed } := by
  rw [finalize, adminHandler_eq_ok]
  refine exists_congr fun admin => exists_congr fun pool => exists_congr fun round =>
    and_congr_right fun ctx => ?_
  rw [ctx.edit_eq_ok]
  simp only [not_or, ne_eq, not_not, UInt64.not_le]

/-- A round in a terminal state. -/
def State.IsTerminal (state : State) : Prop :=
  state = .completed ∨ state = .cancelled ∨ state = .expired

instance (state : State) : Decidable state.IsTerminal :=
  inferInstanceAs (Decidable (_ ∨ _))

/-- {lit}`CancelRound` succeeds exactly for the authority of the pool that was
passed, on a round in no terminal state. -/
theorem cancel_eq_ok :
    cancel rt L accounts = .ok L' ↔
      ∃ admin pool round, AdminContext rt L accounts admin pool round ∧
        (pool.authority = admin.authority.key ∧ ¬round.state.IsTerminal) ∧
        L' = L.setRound admin.round.key { round with state := .cancelled } := by
  rw [cancel, adminHandler_eq_ok]
  refine exists_congr fun admin => exists_congr fun pool => exists_congr fun round =>
    and_congr_right fun ctx => ?_
  rw [ctx.edit_eq_ok]
  simp only [not_or, ne_eq, not_not, State.IsTerminal]

/-- Move the balance of a round to its authority and zero its bytes. -/
def Ledger.closeRound (L : Ledger) (authority round : Pubkey) (credited : UInt64) : Ledger :=
  ((L.setLamports authority credited).setLamports round 0).setData round
    (List.replicate (L round).data.length 0)

/-- {lit}`CloseRound` succeeds exactly for the writable authority of the pool
that was passed, on a round in a terminal state, when the credit does not
overflow. -/
theorem close_eq_ok :
    close rt L accounts = .ok L' ↔
      ∃ admin pool round, AdminContext rt L accounts admin pool round ∧
        ∃ credited : UInt64,
          (pool.authority = admin.authority.key ∧ round.state.IsTerminal ∧
            admin.authority.isWritable = true ∧
            credited.toNat =
              (L admin.authority.key).lamports.toNat + (L admin.round.key).lamports.toNat) ∧
          L' = L.closeRound admin.authority.key admin.round.key credited := by
  rw [close, adminHandler_eq_ok]
  refine exists_congr fun admin => exists_congr fun pool => exists_congr fun round =>
    and_congr_right fun ctx => ?_
  have hlength (credited : UInt64) :
      (((L.setLamports admin.authority.key credited).setLamports admin.round.key 0)
        admin.round.key).data = (L admin.round.key).data := by
    by_cases hkey : admin.round.key = admin.authority.key
    · rw [hkey, Ledger.setLamports_self, Ledger.setLamports_self]
    · rw [Ledger.setLamports_self, Ledger.setLamports_of_ne _ _ hkey]
  simp only [bind_eq_ok, failIf_eq_ok, okOr_eq_ok, add64_eq_some, exists_const, not_or,
    not_and_or, ne_eq, not_not, Bool.not_eq_false, pure, Except.pure, Except.ok.injEq, hlength,
    State.IsTerminal]
  constructor
  · rintro ⟨⟨hauthority, hstate, hwritable⟩, credited, hcredit, rfl⟩
    exact ⟨credited, ⟨hauthority, hstate, hwritable, hcredit⟩, rfl⟩
  · rintro ⟨credited, ⟨hauthority, hstate, hwritable, hcredit⟩, rfl⟩
    exact ⟨⟨hauthority, hstate, hwritable⟩, credited, hcredit, rfl⟩

end MirrorPool
