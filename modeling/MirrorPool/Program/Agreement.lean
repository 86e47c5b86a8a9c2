import MirrorPool.Client.FailClosed
import MirrorPool.Program.ProtocolGraph

/-!
# Agreement of the two records of a round

A client keeps an off-chain record of a round beside the account of the chain.
The two records differ in form: one has an option where the other has zero, and
only the chain moves on by itself when the threshold is reached.  On related
records the registration and the schedule succeed on the same slots and counts.

Main results:

- Structures {lit}`RelatedRounds` and {lit}`RelatedPools`: what the records have
  in common.
- Theorem {lit}`RelatedRounds.opened`: the records are related at the opening.
- Theorems {lit}`register_iff_registerTransparent` and
  {lit}`scheduleRelease_iff_schedule`: one side succeeds exactly when the other
  one does.
- Theorem {lit}`rounds_agree`: the same, with the records afterwards.
-/

namespace MirrorPool

open Fallible

variable {D : Type} {rt : Runtime} {slot : UInt64} {L L' L₁ : Ledger}
  {accounts : List AccountInfo} {config : PoolConfig D} {pool : PoolAccount} {round : Round D}
  {account : RoundAccount}

/-! ## Related records -/

/-- A policy and a pool account with the same bounds. -/
structure RelatedPools (config : PoolConfig D) (pool : PoolAccount) : Prop where
  minimum : config.minParticipants = pool.minParticipants
  maximum : config.maxParticipants = pool.maxParticipants
  minDelay : config.minReleaseDelaySlots = pool.minReleaseDelay
  maxDelay : config.maxReleaseDelaySlots = pool.maxReleaseDelay
  window : config.executionWindowSlots = pool.executionWindow

/-- Two records of a round.  The account has zero where no release is set. -/
structure RelatedRounds (round : Round D) (account : RoundAccount) : Prop where
  state : round.state = account.state.toRoundState
  deadline : round.registrationDeadlineSlot = account.registrationDeadline
  count : round.acceptedCohortSize = account.acceptedCount
  unset : round.releaseSlot = none ↔ account.releaseSlot = 0

/-- The records are related at the opening. -/
theorem RelatedRounds.opened (config : PoolConfig D) (roundId roundId' openedAt deadline : UInt64)
    (key : Pubkey) (template : Bytes32) (bump : UInt8) :
    RelatedRounds (RoundCommand.openedRound config roundId openedAt deadline)
      (RoundAccount.fresh key roundId' deadline template bump) where
  state := rfl
  deadline := rfl
  count := rfl
  unset := iff_of_true rfl rfl

theorem State.toRoundState_injective : Function.Injective State.toRoundState := by
  intro state state' h
  revert h
  cases state <;> cases state' <;> decide

/-- Related records are in a state together. -/
theorem RelatedRounds.state_iff (hround : RelatedRounds round account) (state : State) :
    round.state = state.toRoundState ↔ account.state = state := by
  rw [hround.state, State.toRoundState_injective.eq_iff]

/-- Registration is open in both records or in none. -/
theorem RelatedRounds.registering_iff (hround : RelatedRounds round account) :
    (round.state = .registration ∨ round.state = .thresholdReached) ↔
      (account.state = .registration ∨ account.state = .thresholdReached) := by
  have hregistration := hround.state_iff .registration
  have hthreshold := hround.state_iff .thresholdReached
  rw [← hregistration, ← hthreshold]
  rfl

/-! ## Registration -/

/-- The five accounts of a registration. -/
structure RegistrationInfos where
  payer : AccountInfo
  pool : AccountInfo
  round : AccountInfo
  record : AccountInfo
  system : AccountInfo

/-- The accounts of a registration are in order: everything the handler checks
about them, on a transparent pool and a round of this pool, up to the ledger in
which the record is allocated. -/
structure RegistrationContext (rt : Runtime) (L : Ledger) (accounts : List AccountInfo)
    (key : Bytes32) (bump : UInt8) (infos : RegistrationInfos) (pool : PoolAccount)
    (account : RoundAccount) (L₁ : Ledger) : Prop where
  payer_at : accounts[0]? = some infos.payer
  pool_at : accounts[1]? = some infos.pool
  round_at : accounts[2]? = some infos.round
  record_at : accounts[3]? = some infos.record
  system_at : accounts[4]? = some infos.system
  signed : infos.payer.isSigner = true
  pool_owned : (L infos.pool.key).owner = rt.programId
  round_owned : (L infos.round.key).owner = rt.programId
  pool_read : PoolAccount.codec.read (L infos.pool.key).data = some pool
  round_read : RoundAccount.codec.read (L infos.round.key).data = some account
  backend : pool.backend = .transparentRegistry
  own : account.pool = infos.pool.key
  derived : rt.createProgramAddress (Runtime.participantSeeds infos.round.key key bump)
    rt.programId = some infos.record.key
  allocated : createPdaAccount rt L infos.payer infos.record infos.system participantRecordSize
    (Runtime.participantSeeds infos.round.key key bump) = .ok L₁
  record_fits : 66 ≤ (L₁ infos.record.key).data.length

variable {key : Bytes32} {bump : UInt8} {infos : RegistrationInfos}

/-- With the accounts in order, a registration depends on the state, the slot
and the count. -/
theorem RegistrationContext.registerTransparent_eq_ok
    (ctx : RegistrationContext rt L accounts key bump infos pool account L₁) :
    registerTransparent rt slot L accounts key bump = .ok L' ↔
      (account.state = .registration ∨ account.state = .thresholdReached) ∧
        slot < account.registrationDeadline ∧ account.acceptedCount < pool.maxParticipants ∧
        ∃ count, add32 account.acceptedCount 1 = some count ∧
          L' = (L₁.setRecord infos.record.key
            { version := 1, bump, round := infos.round.key, coordinationKey := key }).setRound
              infos.round.key (account.registered pool count) := by
  rw [MirrorPool.registerTransparent_eq_ok]
  constructor
  · rintro ⟨payer, poolInfo, roundInfo, recordInfo, systemInfo, pool', account', count, L₂, hpayer,
      hpool, hround, hrecord, hsystem, -, -, -, hpoolRead, hroundRead, -, -, hstate, hdeadline,
      hroom, -, hallocated, hcount, -, -, rfl⟩
    rcases Option.some.inj (hpayer.symm.trans ctx.payer_at) with rfl
    rcases Option.some.inj (hpool.symm.trans ctx.pool_at) with rfl
    rcases Option.some.inj (hround.symm.trans ctx.round_at) with rfl
    rcases Option.some.inj (hrecord.symm.trans ctx.record_at) with rfl
    rcases Option.some.inj (hsystem.symm.trans ctx.system_at) with rfl
    rcases Option.some.inj (hpoolRead.symm.trans ctx.pool_read) with rfl
    rcases Option.some.inj (hroundRead.symm.trans ctx.round_read) with rfl
    rcases Except.ok.inj (hallocated.symm.trans ctx.allocated) with rfl
    exact ⟨hstate, hdeadline, hroom, count, hcount, rfl⟩
  · rintro ⟨hstate, hdeadline, hroom, count, hcount, rfl⟩
    have hfits : 167 ≤ (L₁ infos.round.key).data.length := by
      rw [createPdaAccount_owned (by decide) ctx.allocated ctx.round_owned]
      exact RoundAccount.codec.width_le_of_read ctx.round_read
    exact ⟨infos.payer, infos.pool, infos.round, infos.record, infos.system, pool, account, count,
      L₁, ctx.payer_at, ctx.pool_at, ctx.round_at, ctx.record_at, ctx.system_at, ctx.signed,
      ctx.pool_owned, ctx.round_owned, ctx.pool_read, ctx.round_read, ctx.backend, ctx.own, hstate,
      hdeadline, hroom, ctx.derived, ctx.allocated, hcount, ctx.record_fits, hfits, rfl⟩

/-- The account that a registration leaves at the address of the round. -/
theorem RegistrationContext.roundAt
    (ctx : RegistrationContext rt L accounts key bump infos pool account L₁)
    {record : ParticipantRecord} (account' : RoundAccount) :
    RoundAt rt ((L₁.setRecord infos.record.key record).setRound infos.round.key account')
      infos.round.key account' := by
  have howned : (L₁ infos.round.key).owner = rt.programId := by
    rw [createPdaAccount_owned (by decide) ctx.allocated ctx.round_owned]
    exact ctx.round_owned
  have hstored : (L₁.setRecord infos.record.key record).setRound infos.round.key account'
      infos.round.key = (L₁ infos.round.key).store RoundAccount.codec account' :=
    Ledger.setRecord_setRound_self ctx.record_fits account'
  exact ⟨by rw [hstored, Account.store_owner, howned], by rw [hstored, Account.read_store]⟩

/-- One registration passes the checks on the round on both sides or on none. -/
theorem register_iff_registerTransparent (hpool : RelatedPools config pool)
    (hround : RelatedRounds round account)
    (ctx : RegistrationContext rt L accounts key bump infos pool account L₁) :
    (∃ round', Round.register slot config.maxParticipants round = (.ok (), round')) ↔
      ∃ L', registerTransparent rt slot L accounts key bump = .ok L' := by
  simp only [Round.register_eq_ok, ctx.registerTransparent_eq_ok, hround.registering_iff,
    hround.deadline, hround.count, hpool.maximum]
  constructor
  · rintro ⟨_, hstate, hdeadline, hroom, count, hcount, -⟩
    exact ⟨_, hstate, hdeadline, hroom, count, hcount, rfl⟩
  · rintro ⟨_, hstate, hdeadline, hroom, count, hcount, -⟩
    exact ⟨_, hstate, hdeadline, hroom, count, hcount, rfl⟩

namespace Round

/-- The transition that a client makes once the minimum is reached during
registration.  The chain makes it within the registration. -/
def afterThreshold (minimum : UInt32) (round : Round D) : Round D :=
  if minimum ≤ round.acceptedCohortSize ∧ round.state = .registration then
    (transition .thresholdReached round).2
  else round

end Round

/-- A registration that was counted on both sides keeps the records related. -/
theorem RelatedRounds.registered {count : UInt32} (hpool : RelatedPools config pool)
    (hround : RelatedRounds round account)
    (hstate : account.state = .registration ∨ account.state = .thresholdReached) :
    RelatedRounds
      (Round.afterThreshold config.minParticipants { round with acceptedCohortSize := count })
      (account.registered pool count) := by
  have hregistration := hround.state_iff .registration
  rw [Round.afterThreshold, RoundAccount.registered, hpool.minimum]
  by_cases hminimum : pool.minParticipants ≤ count
  · rcases hstate with hstate | hstate
    · have hopen : round.state = .registration := hregistration.mpr hstate
      rw [if_pos ⟨hminimum, hopen⟩, if_pos hminimum, Round.transition_of_edge (by rw [hopen]; rfl)]
      exact ⟨rfl, hround.deadline, rfl, hround.unset⟩
    · have hopen : ¬round.state = .registration := by
        rw [hround.state, hstate]
        intro h
        contradiction
      rw [if_neg (fun h => hopen h.2), if_pos hminimum]
      exact ⟨by rw [hround.state, hstate], hround.deadline, rfl, hround.unset⟩
  · rw [if_neg (fun h => hminimum h.1), if_neg hminimum]
    exact ⟨hround.state, hround.deadline, rfl, hround.unset⟩

/-! ## Schedule -/

variable {admin : AdminAccounts} {release : UInt64}

/-- With the accounts in order, a schedule by the authority depends on the
state, the slots and the bounds. -/
theorem AdminContext.schedule_eq_ok (ctx : AdminContext rt L accounts admin pool account)
    (hauthority : pool.authority = admin.authority.key) :
    schedule rt slot L accounts release = .ok L' ↔
      account.state = .sealed ∧ account.releaseSlot = 0 ∧ ∃ delay windowEndSlot,
        sub64 release slot = some delay ∧ pool.minReleaseDelay ≤ delay ∧
        delay ≤ pool.maxReleaseDelay ∧
        add64 release pool.executionWindow = some windowEndSlot ∧
        L' = L.setRound admin.round.key
          { account with releaseSlot := release, windowEndSlot, state := .releaseScheduled } := by
  rw [MirrorPool.schedule_eq_ok, ctx.exists_iff]
  simp only [sub64_eq_some, add64_eq_some]
  constructor
  · rintro ⟨delay, finish, ⟨hdelay, -, hstate, hunset, hmin, hmax, hfinish⟩, rfl⟩
    exact ⟨hstate, hunset, delay, finish, hdelay, hmin, hmax, hfinish, rfl⟩
  · rintro ⟨hstate, hunset, delay, finish, hdelay, hmin, hmax, hfinish, rfl⟩
    exact ⟨delay, finish, ⟨hdelay, hauthority, hstate, hunset, hmin, hmax, hfinish⟩, rfl⟩

/-- The account that an administrative edit leaves at the address of the
round. -/
theorem AdminContext.roundAt (ctx : AdminContext rt L accounts admin pool account)
    (account' : RoundAccount) :
    RoundAt rt (L.setRound admin.round.key account') admin.round.key account' := by
  have hstored : L.setRound admin.round.key account' admin.round.key = _ :=
    Ledger.setRound_self account'
  exact ⟨by rw [hstored, Account.store_owner, ctx.round_owned],
    by rw [hstored, Account.read_store]⟩

/-- One schedule by the authority of the pool passes the checks on both sides
or on none. -/
theorem scheduleRelease_iff_schedule (hpool : RelatedPools config pool)
    (hround : RelatedRounds round account)
    (ctx : AdminContext rt L accounts admin pool account)
    (hauthority : pool.authority = admin.authority.key) :
    (∃ round', Round.scheduleRelease slot release config round = (.ok (), round')) ↔
      ∃ L', schedule rt slot L accounts release = .ok L' := by
  have hsealed : round.state = .sealed ↔ account.state = .sealed := hround.state_iff .sealed
  simp only [Round.scheduleRelease_eq_ok, ctx.schedule_eq_ok hauthority, hsealed, hround.unset,
    hpool.minDelay, hpool.maxDelay, hpool.window]
  constructor
  · rintro ⟨_, hstate, hunset, delay, finish, hdelay, hmin, hmax, hfinish, -⟩
    exact ⟨_, hstate, hunset, delay, finish, hdelay, hmin, hmax, hfinish, rfl⟩
  · rintro ⟨_, hstate, hunset, delay, finish, hdelay, hmin, hmax, hfinish, -⟩
    exact ⟨_, hstate, hunset, delay, finish, hdelay, hmin, hmax, hfinish, rfl⟩

/-! ## Agreement -/

/-- On related records, every registration and every schedule of the pool's
authority succeeds off chain exactly when it does on chain.  Registration keeps
the records related, and both sides schedule the same window. -/
theorem rounds_agree (hpool : RelatedPools config pool) (hround : RelatedRounds round account)
    (rt : Runtime) (slot : UInt64) (L : Ledger) (accounts : List AccountInfo) :
    (∀ key bump infos L₁, RegistrationContext rt L accounts key bump infos pool account L₁ →
      ((∃ round', Round.register slot config.maxParticipants round = (.ok (), round')) ↔
        ∃ L', registerTransparent rt slot L accounts key bump = .ok L') ∧
      ∀ round' L', Round.register slot config.maxParticipants round = (.ok (), round') →
        registerTransparent rt slot L accounts key bump = .ok L' →
        ∃ account', RoundAt rt L' infos.round.key account' ∧
          RelatedRounds (round'.afterThreshold config.minParticipants) account') ∧
    (∀ release admin, AdminContext rt L accounts admin pool account →
      pool.authority = admin.authority.key →
      ((∃ round', Round.scheduleRelease slot release config round = (.ok (), round')) ↔
        ∃ L', schedule rt slot L accounts release = .ok L') ∧
      ∀ round' L', Round.scheduleRelease slot release config round = (.ok (), round') →
        schedule rt slot L accounts release = .ok L' →
        ∃ account', RoundAt rt L' admin.round.key account' ∧
          round'.state = .releaseScheduled ∧ account'.state = .releaseScheduled ∧
          round'.releaseSlot = some release ∧ account'.releaseSlot = release ∧
          round'.executionWindowStart = some release ∧
          round'.executionWindowEnd = some account'.windowEndSlot) := by
  constructor
  · intro key bump infos L₁ ctx
    refine ⟨register_iff_registerTransparent hpool hround ctx, ?_⟩
    intro round' L' hregister hregistered
    rcases Round.register_eq_ok.mp hregister with ⟨-, -, -, count, hcount, rfl⟩
    rcases ctx.registerTransparent_eq_ok.mp hregistered with ⟨hstate, -, -, count', hcount', rfl⟩
    rw [hround.count] at hcount
    rcases Option.some.inj (hcount.symm.trans hcount') with rfl
    exact ⟨_, ctx.roundAt _, hround.registered hpool hstate⟩
  · intro release admin ctx hauthority
    refine ⟨scheduleRelease_iff_schedule hpool hround ctx hauthority, ?_⟩
    intro round' L' hscheduleRelease hschedule
    rcases Round.scheduleRelease_eq_ok.mp hscheduleRelease with
      ⟨-, -, _, finish, -, -, -, hfinish, rfl⟩
    rcases (ctx.schedule_eq_ok hauthority).mp hschedule with
      ⟨-, -, _, finish', -, -, -, hfinish', rfl⟩
    rw [hpool.window] at hfinish
    rcases Option.some.inj (hfinish.symm.trans hfinish') with rfl
    exact ⟨_, ctx.roundAt _, rfl, rfl, rfl, rfl, rfl, rfl⟩

/-- The policy of the pool of the small chain. -/
def demoChainPolicy : PoolConfig Nat :=
  { demoPolicy with maxParticipants := 10, minReleaseDelaySlots := 5 }

/-- The round with one participant, off chain and on chain. -/
def demoJoined : Round Nat :=
  { RoundCommand.openedRound demoChainPolicy 0 6 100 with acceptedCohortSize := 1 }

def demoJoinedAccount : RoundAccount :=
  { RoundAccount.fresh (demoKey 11) 0 100 (demoKey 50) 255 with acceptedCount := 1 }

/-- The ledger with this account. -/
def demoJoinedLedger : Ledger :=
  ledgerAfter demoRuntime demoLedger [demoInitialize, demoOpen, demoRegister]

/-- The round after its seal, off chain and on chain. -/
def demoSealedRound : Round Nat :=
  { RoundCommand.openedRound demoChainPolicy 0 6 100 with
    state := .sealed
    acceptedCohortSize := 2
    cohortMerkleRoot := some 5 }

def demoSealedAccount : RoundAccount :=
  { RoundAccount.fresh (demoKey 11) 0 100 (demoKey 50) 255 with
    state := .sealed
    acceptedCount := 2 }

/-- The ledger with this account. -/
def demoSealedLedger : Ledger :=
  ledgerAfter demoRuntime demoLedger
    [demoInitialize, demoOpen, demoRegister, demoRegisterOther, demoSeal]

/-- What the chain holds before the second registration: the pool, the round, an
unused record address, and a wallet that can pay; and what it holds before the
schedule. -/
theorem demoLedgers_evaluated :
    (((demoJoinedLedger (demoKey 11)).owner = demoRuntime.programId ∧
        PoolAccount.codec.read (demoJoinedLedger (demoKey 11)).data = some demoPoolAccount) ∧
      ((demoJoinedLedger (demoKey 21)).owner = demoRuntime.programId ∧
        RoundAccount.codec.read (demoJoinedLedger (demoKey 21)).data = some demoJoinedAccount) ∧
      demoJoinedLedger (demoKey 33) = ⟨systemProgramId, 0, []⟩ ∧
      ((demoJoinedLedger (demoKey 102)).owner = systemProgramId ∧
        (demoJoinedLedger (demoKey 102)).data = [] ∧
        demoRuntime.minimumBalance 96 ≤ (demoJoinedLedger (demoKey 102)).lamports)) ∧
    (((demoSealedLedger (demoKey 11)).owner = demoRuntime.programId ∧
        PoolAccount.codec.read (demoSealedLedger (demoKey 11)).data = some demoPoolAccount) ∧
      (demoSealedLedger (demoKey 21)).owner = demoRuntime.programId ∧
        RoundAccount.codec.read (demoSealedLedger (demoKey 21)).data = some demoSealedAccount) := by
  decide +kernel

/-- The accounts of the second registration. -/
def demoRegistrationInfos : RegistrationInfos where
  payer := demoSigner 102
  pool := demoAccount 11
  round := demoAccount 21
  record := demoAccount 33
  system := demoSystem

theorem demoRegisterOther_creatable :
    Creatable demoJoinedLedger (demoSigner 102) (demoAccount 33) (demoRuntime.minimumBalance 96)
      (some (demoKey 33)) := by
  rcases demoLedgers_evaluated with ⟨⟨-, -, hunused, howner, hdata, hfunded⟩, -⟩
  have hrecord : demoJoinedLedger (demoAccount 33).key = ⟨systemProgramId, 0, []⟩ := hunused
  constructor
  case payer_signs => rfl
  case payer_writable => rfl
  case account_writable => rfl
  case account_signs => exact Or.inr rfl
  case distinct => decide
  case payer_wallet => exact ⟨howner, hdata⟩
  case payer_funded => exact hfunded
  case account_unused => rw [hrecord]; exact ⟨rfl, rfl⟩
  case account_unfunded => rw [hrecord]

theorem demoRegisterOther_context :
    RegistrationContext demoRuntime demoJoinedLedger demoRegisterOther.accounts (demoKey 62) 255
      demoRegistrationInfos demoPoolAccount demoJoinedAccount
      (demoJoinedLedger.createAccount (demoKey 102) (demoKey 33)
        (demoRuntime.minimumBalance 96) 96 demoRuntime.programId) where
  payer_at := rfl
  pool_at := rfl
  round_at := rfl
  record_at := rfl
  system_at := rfl
  signed := rfl
  pool_owned := demoLedgers_evaluated.1.1.1
  round_owned := demoLedgers_evaluated.1.2.1.1
  pool_read := demoLedgers_evaluated.1.1.2
  round_read := demoLedgers_evaluated.1.2.1.2
  backend := rfl
  own := rfl
  derived := by decide +kernel
  allocated := by
    have hrecord : demoJoinedLedger (demoAccount 33).key = ⟨systemProgramId, 0, []⟩ :=
      demoLedgers_evaluated.1.2.2.1
    rw [createPdaAccount_eq_ok (by decide)]
    refine Or.inr ⟨?_, rfl, demoRegisterOther_creatable, rfl⟩
    rw [show demoRegistrationInfos.record = demoAccount 33 from rfl, hrecord]
    decide
  record_fits := by decide +kernel

theorem demoSchedule_context :
    AdminContext demoRuntime demoSealedLedger demoAdmin
      ⟨demoAccount 11, demoAccount 21, demoSigner 101⟩ demoPoolAccount demoSealedAccount where
  authority_at := rfl
  pool_at := rfl
  round_at := rfl
  signed := rfl
  pool_owned := demoLedgers_evaluated.2.1.1
  round_owned := demoLedgers_evaluated.2.2.1
  pool_read := demoLedgers_evaluated.2.1.2
  round_read := demoLedgers_evaluated.2.2.2

theorem rounds_agree_demo :
    (∃ L', registerTransparent demoRuntime 8 demoJoinedLedger demoRegisterOther.accounts
      (demoKey 62) 255 = .ok L') ∧
      ∃ L', schedule demoRuntime 10 demoSealedLedger demoAdmin 20 = .ok L' := by
  have hpool : RelatedPools demoChainPolicy demoPoolAccount := ⟨rfl, rfl, rfl, rfl, rfl⟩
  have hjoined : RelatedRounds demoJoined demoJoinedAccount :=
    ⟨rfl, rfl, rfl, iff_of_true rfl rfl⟩
  have hsealed : RelatedRounds demoSealedRound demoSealedAccount :=
    ⟨rfl, rfl, rfl, iff_of_true rfl rfl⟩
  have hregister := (rounds_agree hpool hjoined demoRuntime 8 demoJoinedLedger
    demoRegisterOther.accounts).1 _ _ _ _ demoRegisterOther_context
  have hschedule := (rounds_agree hpool hsealed demoRuntime 10 demoSealedLedger demoAdmin).2
    20 _ demoSchedule_context rfl
  exact ⟨hregister.1.mp ⟨_, rfl⟩, hschedule.1.mp ⟨_, rfl⟩⟩

end MirrorPool
