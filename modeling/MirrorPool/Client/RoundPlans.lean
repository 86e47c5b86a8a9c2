import MirrorPool.Client.BuilderAgreement
import MirrorPool.Program.Lifecycle

/-!
# Rounds that are driven to their end

The builders and the processor are put together to run whole rounds: open,
publish, seal, schedule, begin, finalize.  A plan fixes the slots and the data of
one round.  A pool whose policy the plans respect can run any number of them, and
nothing the program checks stands in the way.

Main results:

- Definition {lit}`executeAll`: calls that must all run through.
- Definition {lit}`buildRounds`: the built instructions of consecutive rounds.
- Theorem {lit}`RoundPlan.completes`: one round is driven to its end.
- Theorem {lit}`plans_complete`: so are all rounds of a list of plans.
-/

namespace MirrorPool

open Fallible

/-! ## Calls that all run through -/

/-- The ledger after calls all of which ran through. -/
def executeAll (rt : Runtime) (L : Ledger) (calls : List (Call rt)) : Except ProgramError Ledger :=
  calls.foldlM (execute rt) L

section ExecuteAll

variable {rt : Runtime} {L L' L'' : Ledger} {call : Call rt} {calls later : List (Call rt)}

theorem executeAll_cons (hfirst : execute rt L call = .ok L')
    (hrest : executeAll rt L' calls = .ok L'') : executeAll rt L (call :: calls) = .ok L'' := by
  rw [executeAll, List.foldlM_cons, hfirst]
  exact hrest

theorem executeAll_append (hfirst : executeAll rt L calls = .ok L')
    (hrest : executeAll rt L' later = .ok L'') : executeAll rt L (calls ++ later) = .ok L'' := by
  rw [executeAll, List.foldlM_append, show calls.foldlM (execute rt) L = .ok L' from hfirst]
  exact hrest

end ExecuteAll

/-! ## Plans -/

/-- The slots and the data of one round. -/
structure RoundPlan where
  openedAt : UInt64
  publishedAt : UInt64
  sealedAt : UInt64
  scheduledAt : UInt64
  begunAt : UInt64
  finalizedAt : UInt64
  deadline : UInt64
  root : Bytes32
  acceptedCount : UInt32
  release : UInt64
  metrics : Bytes32
deriving DecidableEq, Repr

/-- The policy of a pool admits the slots of a plan and its metrics. -/
structure RoundPlan.Timed (plan : RoundPlan) (pool : PoolAccount) : Prop where
  future : plan.openedAt < plan.deadline
  min_delay : plan.scheduledAt.toNat + pool.minReleaseDelay.toNat ≤ plan.release.toNat
  max_delay : plan.release.toNat ≤ plan.scheduledAt.toNat + pool.maxReleaseDelay.toNat
  in_range : plan.release.toNat + pool.executionWindow.toNat < 2 ^ 64
  released : plan.release ≤ plan.begunAt
  in_window : plan.begunAt.toNat ≤ plan.release.toNat + pool.executionWindow.toNat
  ended : plan.release.toNat + pool.executionWindow.toNat < plan.finalizedAt.toNat
  metrics_set : plan.metrics ≠ Vector.replicate 32 0

/-- The next identifier of the pool makes no difference. -/
theorem RoundPlan.Timed.later {plan : RoundPlan} {pool : PoolAccount} (htimed : plan.Timed pool)
    (nextRound : UInt64) : plan.Timed { pool with nextRound } :=
  ⟨htimed.future, htimed.min_delay, htimed.max_delay, htimed.in_range, htimed.released,
    htimed.in_window, htimed.ended, htimed.metrics_set⟩

/-- The policy of a pool admits a plan. -/
structure RoundPlan.Fits (plan : RoundPlan) (pool : PoolAccount) : Prop
    extends plan.Timed pool where
  min_count : pool.minParticipants ≤ plan.acceptedCount
  max_count : plan.acceptedCount ≤ pool.maxParticipants
  root_set : plan.root ≠ Vector.replicate 32 0

/-- The round account a plan leads to. -/
def RoundPlan.completed (plan : RoundPlan) (poolKey : Pubkey) (pool : PoolAccount)
    (roundId : UInt64) (bump : UInt8) : RoundAccount :=
  { version := 1, bump, pool := poolKey, roundId, state := .completed,
    registrationDeadline := plan.deadline, templateHash := pool.templateHash,
    acceptedCount := plan.acceptedCount, cohortRoot := plan.root, releaseSlot := plan.release,
    windowEndSlot := plan.release + pool.executionWindow, metricsHash := plan.metrics }

/-- The instructions of one round with their slots, and the address of the
round. -/
structure BuiltRound where
  address : Pubkey
  steps : List (UInt64 × Instruction)
deriving DecidableEq

variable {rt : Runtime}

/-- The instructions that drive a round with its cohort to its end. -/
def RoundPlan.finishing (plan : RoundPlan) (programId authority poolKey round : Pubkey) :
    List (UInt64 × Instruction) :=
  let admin := adminRoundInstruction programId authority poolKey round
  [(plan.sealedAt, admin .sealRound), (plan.scheduledAt, admin (.scheduleRelease plan.release)),
    (plan.begunAt, beginWindowInstruction programId round),
    (plan.finalizedAt, admin (.finalizeRound plan.metrics))]

/-- Build the six instructions of a round. -/
def buildRound (finder : AddressFinder rt) (authority poolKey : Pubkey) (templateHash : Bytes32)
    (roundId : UInt64) (plan : RoundPlan) : Option BuiltRound := do
  let (opening, round) ← openRoundInstruction finder rt.programId authority poolKey roundId
    plan.deadline templateHash
  let publishing := adminRoundInstruction rt.programId authority poolKey round
    (.publishCohortRoot plan.root plan.acceptedCount)
  return {
    address := round
    steps := (plan.openedAt, opening) :: (plan.publishedAt, publishing) ::
      plan.finishing rt.programId authority poolKey round }

/-- Build consecutive rounds from the given identifier on. -/
def buildRounds (finder : AddressFinder rt) (authority poolKey : Pubkey) (templateHash : Bytes32) :
    UInt64 → List RoundPlan → Option (List BuiltRound)
  | _, [] => some []
  | roundId, plan :: plans => do
      let round ← buildRound finder authority poolKey templateHash roundId plan
      let rounds ← buildRounds finder authority poolKey templateHash (roundId + 1) plans
      return round :: rounds

/-- A call carries a built instruction at its slot. -/
structure Carries (call : Call rt) (step : UInt64 × Instruction) : Prop where
  slot : call.slot = step.1
  sends : Sends call step.2

/-! ## Effects of the built instructions -/

section Effects

variable {L L' : Ledger} {call : Call rt} {poolKey roundKey : Pubkey} {pool : PoolAccount}
variable {round : RoundAccount}

/-- An address that was never used. -/
structure Unused (L : Ledger) (a : Pubkey) : Prop where
  owner : (L a).owner = systemProgramId
  empty : (L a).data = []
  unfunded : (L a).lamports = 0

/-- The built opening has the accounts and the data of its instruction. -/
theorem openRoundInstruction_eq_some {finder : AddressFinder rt} {authority address : Pubkey}
    {roundId deadline : UInt64} {template : Bytes32} {built : Instruction}
    (hbuilt : openRoundInstruction finder rt.programId authority poolKey roundId deadline template =
      some (built, address)) :
    ∃ bump, rt.createProgramAddress (Runtime.roundSeeds poolKey roundId bump) rt.programId =
        some address ∧
      built.accounts = [.new authority true, .new poolKey false, .new address false,
        .newReadonly systemProgramId false] ∧
      built.data = (CoordinationInstruction.openRound roundId deadline template bump).encode := by
  rcases Option.bind_eq_some_iff.mp hbuilt with ⟨⟨round, bump⟩, hfind, hreturn⟩
  rcases Prod.mk.inj (Option.some.inj hreturn) with ⟨rfl, rfl⟩
  exact ⟨bump, finder.find_eq_some hfind, rfl, rfl⟩

/-- An administrative call on the round of its own pool does what the handler
does for the writable authority. -/
theorem execute_admin {instruction : CoordinationInstruction}
    (hadmin : instruction.isAdmin = true) (hpool : PoolAt rt L poolKey pool)
    (hround : RoundAt rt L roundKey round)
    (hsends : Sends call
      (adminRoundInstruction rt.programId pool.authority poolKey roundKey instruction))
    (hdispatch : ∀ admin : AdminAccounts, admin.authority.key = pool.authority →
      admin.pool.key = poolKey → admin.round.key = roundKey →
      AdminContext rt L call.accounts admin pool round → admin.authority.isWritable = true →
      dispatch rt call.slot L call.accounts instruction = .ok L') :
    execute rt L call = .ok L' := by
  have hwrites : instruction.writes = [2] := by
    cases instruction <;> first | rfl | cases hadmin
  have hcovers : (adminRoundInstruction rt.programId pool.authority poolKey roundKey
      instruction).CoversWrites instruction := by
    simp [Instruction.CoversWrites, hwrites, adminRoundInstruction, AccountMeta.new]
  have hsigned : ((adminRoundInstruction rt.programId pool.authority poolKey roundKey
      instruction).accountInfo (.new pool.authority true)).isSigner = true :=
    Instruction.isSigner_accountInfo List.mem_cons_self rfl
  have hwritable : ((adminRoundInstruction rt.programId pool.authority poolKey roundKey
      instruction).accountInfo (.new pool.authority true)).isWritable = true :=
    Instruction.isWritable_accountInfo List.mem_cons_self rfl
  rw [hsends.execute_eq (CoordinationInstruction.tryFromSlice_encode instruction) hcovers]
  exact hdispatch ⟨_, _, _⟩ rfl rfl rfl
    ⟨hsends.account_at rfl, hsends.account_at rfl, hsends.account_at rfl, hsigned, hpool.owned,
      hround.owned, hpool.read, hround.read⟩ hwritable

/-- The round of a pool, both at their addresses. -/
structure RoundInPool (rt : Runtime) (L : Ledger) (poolKey : Pubkey) (pool : PoolAccount)
    (roundKey : Pubkey) (round : RoundAccount) : Prop where
  pool_at : PoolAt rt L poolKey pool
  round_at : RoundAt rt L roundKey round
  own : round.pool = poolKey
  distinct : poolKey ≠ roundKey

namespace RoundInPool

variable {finder : AddressFinder rt} {round' : RoundAccount}

/-- An edit of the round leaves it the round of the pool. -/
theorem edit (hin : RoundInPool rt L poolKey pool roundKey round) (hown : round'.pool = poolKey) :
    RoundInPool rt (L.setRound roundKey round') poolKey pool roundKey round' where
  pool_at := by
    refine ⟨?_, ?_⟩
    · rw [Ledger.setRound_of_ne _ hin.distinct]
      exact hin.pool_at.owned
    · rw [Ledger.setRound_of_ne _ hin.distinct]
      exact hin.pool_at.read
  round_at := by
    refine ⟨?_, ?_⟩
    · rw [Ledger.setRound_self, Account.store_owner]
      exact hin.round_at.owned
    · rw [Ledger.setRound_self]
      exact Account.read_store
  own := hown
  distinct := hin.distinct

/-- A call that edits the round keeps the pair of pool and round, and touches
nothing else. -/
structure Turns (rt : Runtime) (L L' : Ledger) (call : Call rt) (poolKey : Pubkey)
    (pool : PoolAccount) (roundKey : Pubkey) (round' : RoundAccount) : Prop where
  executed : execute rt L call = .ok L'
  state : RoundInPool rt L' poolKey pool roundKey round'
  frame : ∀ b, b ≠ roundKey → L' b = L b

theorem turns (hin : RoundInPool rt L poolKey pool roundKey round)
    (hexecuted : execute rt L call = .ok (L.setRound roundKey round'))
    (hown : round'.pool = poolKey) : ∃ L', Turns rt L L' call poolKey pool roundKey round' :=
  ⟨_, hexecuted, hin.edit hown, fun _ hb => Ledger.setRound_of_ne _ hb⟩

/-- Publishing runs through on a fresh round of a Merkle pool. -/
theorem execute_publish (hin : RoundInPool rt L poolKey pool roundKey round) {root : Bytes32}
    {count : UInt32} (hbackend : pool.backend = .merkleCohort)
    (hstate : round.state = .registration) (hmin : pool.minParticipants ≤ count)
    (hmax : count ≤ pool.maxParticipants)
    (hset : root ≠ Vector.replicate 32 0) (hunset : round.cohortRoot = Vector.replicate 32 0)
    (hsends : Sends call (adminRoundInstruction rt.programId pool.authority poolKey roundKey
      (.publishCohortRoot root count))) :
    execute rt L call = .ok (L.setRound roundKey
      { round with cohortRoot := root, acceptedCount := count, state := .thresholdReached }) := by
  refine execute_admin rfl hin.pool_at hin.round_at hsends ?_
  rintro admin hauthority hpool rfl ctx -
  exact publishRoot_eq_ok.mpr ⟨admin, pool, round, ctx, ⟨hbackend, hin.own.trans hpool.symm, hstate,
    hmin, hmax, hset, hunset, hauthority.symm⟩, rfl⟩

/-- Sealing runs through on a round that has its cohort. -/
theorem execute_seal (hin : RoundInPool rt L poolKey pool roundKey round)
    (hstate : round.state = .thresholdReached)
    (hmin : pool.minParticipants ≤ round.acceptedCount)
    (hsends : Sends call (adminRoundInstruction rt.programId pool.authority poolKey roundKey
      .sealRound)) :
    execute rt L call = .ok (L.setRound roundKey { round with state := .sealed }) := by
  refine execute_admin rfl hin.pool_at hin.round_at hsends ?_
  rintro admin hauthority hpool rfl ctx -
  exact sealRound_eq_ok.mpr ⟨admin, pool, round, ctx,
    ⟨hauthority.symm, hin.own.trans hpool.symm, hstate, hmin⟩, rfl⟩

/-- Scheduling runs through on a sealed round, at a release the policy admits. -/
theorem execute_schedule (hin : RoundInPool rt L poolKey pool roundKey round) {release : UInt64}
    (hstate : round.state = .sealed) (hunset : round.releaseSlot = 0)
    (hmin : call.slot.toNat + pool.minReleaseDelay.toNat ≤ release.toNat)
    (hmax : release.toNat ≤ call.slot.toNat + pool.maxReleaseDelay.toNat)
    (hrange : release.toNat + pool.executionWindow.toNat < 2 ^ 64)
    (hsends : Sends call (adminRoundInstruction rt.programId pool.authority poolKey roundKey
      (.scheduleRelease release))) :
    execute rt L call = .ok (L.setRound roundKey
      { round with
        releaseSlot := release, windowEndSlot := release + pool.executionWindow,
        state := .releaseScheduled }) := by
  have hslot : call.slot ≤ release := UInt64.le_iff_toNat_le.mpr (by omega)
  have hdelay : (release - call.slot).toNat = release.toNat - call.slot.toNat :=
    UInt64.toNat_sub_of_le _ _ hslot
  have hslotNat := UInt64.le_iff_toNat_le.mp hslot
  refine execute_admin rfl hin.pool_at hin.round_at hsends ?_
  rintro admin hauthority hpool rfl ctx -
  refine schedule_eq_ok.mpr ⟨admin, pool, round, ctx, release - call.slot,
    release + pool.executionWindow, ⟨?_, hauthority.symm, hstate, hunset, ?_, ?_, ?_⟩, rfl⟩
  · omega
  · exact UInt64.le_iff_toNat_le.mpr (by omega)
  · exact UInt64.le_iff_toNat_le.mpr (by omega)
  · rw [UInt64.toNat_add, Nat.mod_eq_of_lt hrange]

/-- The window begins at any slot inside it. -/
theorem execute_begin (hin : RoundInPool rt L poolKey pool roundKey round)
    (hstate : round.state = .releaseScheduled) (hreleased : round.releaseSlot ≤ call.slot)
    (hwindow : call.slot ≤ round.windowEndSlot)
    (hsends : Sends call (beginWindowInstruction rt.programId roundKey)) :
    execute rt L call = .ok (L.setRound roundKey { round with state := .executionWindow }) := by
  have hcovers : (beginWindowInstruction rt.programId roundKey).CoversWrites
      .beginExecutionWindow := by
    simp [Instruction.CoversWrites, CoordinationInstruction.writes, beginWindowInstruction,
      AccountMeta.new]
  rw [hsends.execute_eq (CoordinationInstruction.tryFromSlice_encode .beginExecutionWindow) hcovers]
  exact begin_eq_ok.mpr ⟨_, round, hsends.account_at rfl, hin.round_at.owned, hin.round_at.read,
    ⟨hstate, hreleased, hwindow⟩, rfl⟩

/-- The round is finalized after its window. -/
theorem execute_finalize (hin : RoundInPool rt L poolKey pool roundKey round) {metrics : Bytes32}
    (hstate : round.state = .executionWindow) (hended : round.windowEndSlot < call.slot)
    (hset : metrics ≠ Vector.replicate 32 0)
    (hsends : Sends call (adminRoundInstruction rt.programId pool.authority poolKey roundKey
      (.finalizeRound metrics))) :
    execute rt L call = .ok (L.setRound roundKey
      { round with metricsHash := metrics, state := .completed }) := by
  refine execute_admin rfl hin.pool_at hin.round_at hsends ?_
  rintro admin hauthority hpool rfl ctx -
  exact finalize_eq_ok.mpr ⟨admin, pool, round, ctx, ⟨hauthority.symm, hstate, hended, hset⟩, rfl⟩

/-- The slots of a plan drive a round that has its cohort to its end. -/
theorem finish {plan : RoundPlan} {calls : List (Call rt)} (hplan : plan.Timed pool)
    (hin : RoundInPool rt L poolKey pool roundKey round)
    (hstate : round.state = .thresholdReached) (hunset : round.releaseSlot = 0)
    (hmin : pool.minParticipants ≤ round.acceptedCount)
    (hcalls : List.Forall₂ Carries calls
      (plan.finishing rt.programId pool.authority poolKey roundKey)) :
    ∃ L', executeAll rt L calls = .ok L' ∧
      RoundInPool rt L' poolKey pool roundKey
        { round with
          state := .completed, releaseSlot := plan.release,
          windowEndSlot := plan.release + pool.executionWindow, metricsHash := plan.metrics } ∧
      ∀ b, b ≠ roundKey → L' b = L b := by
  rcases hcalls with _ | ⟨hseal, _ | ⟨hschedule, _ | ⟨hbegin, _ | ⟨hfinalize, _ | _⟩⟩⟩⟩
  have hend : (plan.release + pool.executionWindow).toNat =
      plan.release.toNat + pool.executionWindow.toNat := by
    rw [UInt64.toNat_add, Nat.mod_eq_of_lt hplan.in_range]
  have hinWindow : plan.begunAt ≤ plan.release + pool.executionWindow :=
    UInt64.le_iff_toNat_le.mpr (hend ▸ hplan.in_window)
  have hended : plan.release + pool.executionWindow < plan.finalizedAt :=
    UInt64.lt_iff_toNat_lt.mpr (hend ▸ hplan.ended)
  rcases hin.turns (hin.execute_seal hstate hmin hseal.sends) hin.own with ⟨L₁, hsealed⟩
  rcases hsealed.state.turns (hsealed.state.execute_schedule rfl hunset
    (hschedule.slot ▸ hplan.min_delay) (hschedule.slot ▸ hplan.max_delay) hplan.in_range
    hschedule.sends) hin.own with ⟨L₂, hscheduled⟩
  rcases hscheduled.state.turns (hscheduled.state.execute_begin rfl
    (hbegin.slot ▸ hplan.released) (hbegin.slot ▸ hinWindow) hbegin.sends) hin.own with
    ⟨L₃, hbegun⟩
  rcases hbegun.state.turns (hbegun.state.execute_finalize rfl (hfinalize.slot ▸ hended)
    hplan.metrics_set hfinalize.sends) hin.own with ⟨L₄, hfinalized⟩
  refine ⟨L₄, ?_, hfinalized.state, fun b hb => ?_⟩
  · exact executeAll_cons hsealed.executed (executeAll_cons hscheduled.executed
      (executeAll_cons hbegun.executed (executeAll_cons hfinalized.executed rfl)))
  · rw [hfinalized.frame b hb, hbegun.frame b hb, hscheduled.frame b hb, hsealed.frame b hb]

end RoundInPool

/-! ## Opening -/

/-- The ledger after an opening that created the round account. -/
def Ledger.opened (L : Ledger) (rt : Runtime) (poolKey : Pubkey) (pool : PoolAccount)
    (roundKey : Pubkey) (round : RoundAccount) : Ledger :=
  ((L.createAccount pool.authority roundKey (rt.minimumBalance roundAccountSize) roundAccountSize
      rt.programId).setPool poolKey { pool with nextRound := pool.nextRound + 1 }).setRound
    roundKey round

/-- What an opening needs: the pool is stored and not paused, its authority is a
wallet that can pay the rent, and the address of the round was never used. -/
structure CanOpen (rt : Runtime) (L : Ledger) (poolKey : Pubkey) (pool : PoolAccount)
    (roundKey : Pubkey) : Prop where
  pool_at : PoolAt rt L poolKey pool
  unpaused : pool.paused = false
  more : pool.nextRound.toNat + 1 < 2 ^ 64
  wallet : (L pool.authority).owner = systemProgramId ∧ (L pool.authority).data = []
  funded : rt.minimumBalance roundAccountSize ≤ (L pool.authority).lamports
  unused : Unused L roundKey
  other : systemProgramId ≠ rt.programId

namespace CanOpen

variable {finder : AddressFinder rt} {deadline : UInt64} {built : Instruction}

theorem pool_ne_round (hcan : CanOpen rt L poolKey pool roundKey) : poolKey ≠ roundKey := by
  rintro rfl
  exact hcan.other (hcan.unused.owner.symm.trans hcan.pool_at.owned)

theorem pool_ne_authority (hcan : CanOpen rt L poolKey pool roundKey) :
    poolKey ≠ pool.authority := by
  intro hkey
  have howned := hcan.pool_at.owned
  rw [hkey, hcan.wallet.1] at howned
  exact hcan.other howned

/-- The built opening runs through and creates the round. -/
theorem execute_open (hcan : CanOpen rt L poolKey pool roundKey)
    (hbuilt : openRoundInstruction finder rt.programId pool.authority poolKey pool.nextRound
      deadline pool.templateHash = some (built, roundKey))
    (hsends : Sends call built) (hfuture : call.slot < deadline) :
    ∃ bump, rt.createProgramAddress (Runtime.roundSeeds poolKey pool.nextRound bump)
        rt.programId = some roundKey ∧ ¬rt.IsDerived pool.authority ∧
      execute rt L call = .ok (L.opened rt poolKey pool roundKey
        (.fresh poolKey pool.nextRound deadline pool.templateHash bump)) := by
  rcases openRoundInstruction_eq_some hbuilt with ⟨bump, hderived, haccounts, hdata⟩
  have hauthority : built.accounts[0]? = some (.new pool.authority true) := by rw [haccounts]; rfl
  have hpool : built.accounts[1]? = some (.new poolKey false) := by rw [haccounts]; rfl
  have hround : built.accounts[2]? = some (.new roundKey false) := by rw [haccounts]; rfl
  have hsystem : built.accounts[3]? = some (.newReadonly systemProgramId false) := by
    rw [haccounts]; rfl
  have hsigned := Instruction.isSigner_accountInfo (List.mem_of_getElem? hauthority) rfl
  have hpayer := Instruction.isWritable_accountInfo (List.mem_of_getElem? hauthority) rfl
  have hwritable := Instruction.isWritable_accountInfo (List.mem_of_getElem? hround) rfl
  have hdecodes : CoordinationInstruction.tryFromSlice built.data =
      some (.openRound pool.nextRound deadline pool.templateHash bump) := by
    rw [hdata, CoordinationInstruction.tryFromSlice_encode]
  have hcovers : built.CoversWrites
      (.openRound pool.nextRound deadline pool.templateHash bump) := by
    simp [Instruction.CoversWrites, CoordinationInstruction.writes, haccounts, AccountMeta.new]
  have hcreation : PayableCreation rt L call.accounts (built.accountInfo (.new pool.authority true))
      (built.accountInfo (.new roundKey false))
      (built.accountInfo (.newReadonly systemProgramId false)) roundAccountSize :=
    ⟨hsends.account_at hauthority, hsigned, rfl, hcan.wallet, hcan.funded,
      ⟨hcan.unused.owner, hcan.unused.empty⟩, hcan.other⟩
  have hsigner : ¬rt.IsDerived pool.authority :=
    call.derived_not_signer _ (List.mem_of_getElem? (hsends.account_at hauthority)) hsigned
  have hcreate := (hcreation.createPdaAccount_eq_ok (by decide) hderived hpayer hwritable).mpr
    ⟨hcan.unused.unfunded, rfl⟩
  have hpoolSame : L.createAccount pool.authority roundKey (rt.minimumBalance roundAccountSize)
      roundAccountSize rt.programId poolKey = L poolKey :=
    Ledger.createAccount_of_ne _ _ _ _ hcan.pool_ne_authority hcan.pool_ne_round
  have hcounter : add64 pool.nextRound 1 = some (pool.nextRound + 1) := by
    refine add64_eq_some.mpr ?_
    rw [UInt64.toNat_add]
    exact Nat.mod_eq_of_lt hcan.more
  refine ⟨bump, hderived, hsigner, ?_⟩
  rw [hsends.execute_eq hdecodes hcovers]
  refine openRound_eq_ok.mpr ⟨_, _, _, _, pool, _, _, hsends.account_at hauthority,
    hsends.account_at hpool, hsends.account_at hround, hsends.account_at hsystem, hsigned,
    hcan.pool_at.owned, hcan.pool_at.read, rfl, hcan.unpaused, rfl, rfl, hfuture, hderived, hcreate,
    hcounter, ?_, ?_, rfl⟩
  · show 140 ≤ (L.createAccount pool.authority roundKey (rt.minimumBalance roundAccountSize)
      roundAccountSize rt.programId poolKey).data.length
    rw [hpoolSame]
    exact PoolAccount.codec.width_le_of_read hcan.pool_at.read
  · show 167 ≤ (L.createAccount pool.authority roundKey (rt.minimumBalance roundAccountSize)
      roundAccountSize rt.programId roundKey).data.length
    rw [Ledger.createAccount_self, List.length_replicate]
    decide

/-- After the opening the new round is the round of the pool. -/
theorem roundInPool_opened (hcan : CanOpen rt L poolKey pool roundKey) (deadline : UInt64)
    (template : Bytes32) (bump : UInt8) :
    RoundInPool rt
      (L.opened rt poolKey pool roundKey (.fresh poolKey pool.nextRound deadline template bump))
      poolKey { pool with nextRound := pool.nextRound + 1 } roundKey
      (.fresh poolKey pool.nextRound deadline template bump) where
  pool_at := by
    have hpoolSame : L.createAccount pool.authority roundKey (rt.minimumBalance roundAccountSize)
        roundAccountSize rt.programId poolKey = L poolKey :=
      Ledger.createAccount_of_ne _ _ _ _ hcan.pool_ne_authority hcan.pool_ne_round
    refine ⟨?_, ?_⟩
    · rw [Ledger.opened, Ledger.setRound_of_ne _ hcan.pool_ne_round, Ledger.setPool_self,
        Account.store_owner, hpoolSame]
      exact hcan.pool_at.owned
    · rw [Ledger.opened, Ledger.setRound_of_ne _ hcan.pool_ne_round, Ledger.setPool_self]
      exact Account.read_store
  round_at := by
    refine ⟨?_, ?_⟩
    · rw [Ledger.opened, Ledger.setRound_self, Account.store_owner,
        Ledger.setPool_of_ne _ hcan.pool_ne_round.symm, Ledger.createAccount_self]
    · rw [Ledger.opened, Ledger.setRound_self]
      exact Account.read_store
  own := rfl
  distinct := hcan.pool_ne_round

/-- Apart from the pool and the round, the opening moves the rent. -/
theorem opened_frame (hcan : CanOpen rt L poolKey pool roundKey)
    (hdistinct : pool.authority ≠ roundKey) (round : RoundAccount) :
    L.opened rt poolKey pool roundKey round pool.authority =
        { L pool.authority with
          lamports := (L pool.authority).lamports - rt.minimumBalance roundAccountSize } ∧
      ∀ b, b ≠ pool.authority → b ≠ poolKey → b ≠ roundKey →
        L.opened rt poolKey pool roundKey round b = L b := by
  constructor
  · rw [Ledger.opened, Ledger.setRound_of_ne _ hdistinct,
      Ledger.setPool_of_ne _ hcan.pool_ne_authority.symm,
      Ledger.createAccount_payer _ _ _ _ hdistinct]
  · intro b hauthority hpool hround
    rw [Ledger.opened, Ledger.setRound_of_ne _ hround, Ledger.setPool_of_ne _ hpool,
      Ledger.createAccount_of_ne _ _ _ _ hauthority hround]

end CanOpen

end Effects

/-! ## One round -/

section OneRound

variable {L L' : Ledger} {calls : List (Call rt)} {poolKey : Pubkey} {pool : PoolAccount}
variable {finder : AddressFinder rt} {plan : RoundPlan} {built : BuiltRound}

/-- The built round consists of the opening, the publication and the rest. -/
theorem buildRound_eq_some {authority : Pubkey} {templateHash : Bytes32} {roundId : UInt64}
    (hbuilt : buildRound finder authority poolKey templateHash roundId plan = some built) :
    ∃ opening, openRoundInstruction finder rt.programId authority poolKey roundId plan.deadline
        templateHash = some (opening, built.address) ∧
      built.steps = (plan.openedAt, opening) ::
        (plan.publishedAt, adminRoundInstruction rt.programId authority poolKey built.address
          (.publishCohortRoot plan.root plan.acceptedCount)) ::
        plan.finishing rt.programId authority poolKey built.address := by
  rcases Option.bind_eq_some_iff.mp hbuilt with ⟨⟨opening, round⟩, hopening, hreturn⟩
  rcases Option.some.inj hreturn with rfl
  exact ⟨opening, hopening, rfl⟩

/-- What one round leaves behind: the completed round, the pool with the next
identifier, the rent taken from the authority, and everything else as before. -/
structure RoundDone (rt : Runtime) (L L' : Ledger) (poolKey : Pubkey) (pool : PoolAccount)
    (plan : RoundPlan) (roundKey : Pubkey) (bump : UInt8) : Prop where
  derived : rt.createProgramAddress (Runtime.roundSeeds poolKey pool.nextRound bump) rt.programId =
    some roundKey
  signer : ¬rt.IsDerived pool.authority
  pool_at : PoolAt rt L' poolKey { pool with nextRound := pool.nextRound + 1 }
  round_at : RoundAt rt L' roundKey (plan.completed poolKey pool pool.nextRound bump)
  rent : L' pool.authority = { L pool.authority with
    lamports := (L pool.authority).lamports - rt.minimumBalance roundAccountSize }
  others : ∀ b, b ≠ pool.authority → b ≠ poolKey → b ≠ roundKey → L' b = L b

/-- The calls of a plan that fits the pool drive the round to its end. -/
theorem RoundPlan.completes (hfits : plan.Fits pool)
    (hcan : CanOpen rt L poolKey pool built.address) (hbackend : pool.backend = .merkleCohort)
    (hbuilt : buildRound finder pool.authority poolKey pool.templateHash pool.nextRound plan =
      some built)
    (hcalls : List.Forall₂ Carries calls built.steps) :
    ∃ L' bump, executeAll rt L calls = .ok L' ∧
      RoundDone rt L L' poolKey pool plan built.address bump := by
  rcases buildRound_eq_some hbuilt with ⟨opening, hopening, hsteps⟩
  rw [hsteps] at hcalls
  rcases hcalls with _ | ⟨hopen, _ | ⟨hpublish, hfinish⟩⟩
  rcases hcan.execute_open hopening hopen.sends (hopen.slot ▸ hfits.future) with
    ⟨bump, hderived, hsigner, hopened⟩
  have hdistinct : pool.authority ≠ built.address := by
    intro hkey
    exact hsigner (hkey ▸ ⟨_, hderived⟩)
  have hin := hcan.roundInPool_opened plan.deadline pool.templateHash bump
  rcases hin.turns (hin.execute_publish hbackend rfl hfits.min_count hfits.max_count
    hfits.root_set rfl hpublish.sends) rfl with ⟨L₂, hpublished⟩
  rcases hpublished.state.finish (hfits.toTimed.later _) rfl rfl hfits.min_count
    hfinish with ⟨L₃, hfinished, hend, hlast⟩
  have hframe (b : Pubkey) (hb : b ≠ built.address) : L₃ b = L.opened rt poolKey pool built.address
      (.fresh poolKey pool.nextRound plan.deadline pool.templateHash bump) b := by
    rw [hlast b hb, hpublished.frame b hb]
  refine ⟨L₃, bump, ?_, hderived, hsigner, hend.pool_at, hend.round_at, ?_, ?_⟩
  · exact executeAll_cons hopened (executeAll_cons hpublished.executed hfinished)
  · rw [hframe _ hdistinct]
    exact (hcan.opened_frame hdistinct _).1
  · intro b hauthority hpool hround
    rw [hframe b hround]
    exact (hcan.opened_frame hdistinct _).2 b hauthority hpool hround

end OneRound

/-! ## All rounds of a list -/

section AllRounds

variable {L L' : Ledger} {calls : List (Call rt)} {poolKey : Pubkey} {pool : PoolAccount}
variable {finder : AddressFinder rt} {plans : List RoundPlan} {rounds : List BuiltRound}

theorem toNat_add_one (id : UInt64) (hroom : id.toNat + 1 < 2 ^ 64) :
    (id + 1).toNat = id.toNat + 1 := by
  rw [UInt64.toNat_add]
  exact Nat.mod_eq_of_lt hroom

/-- Each built round has an address of its own identifier. -/
theorem derived_of_mem_buildRounds {authority : Pubkey} {templateHash : Bytes32} {id : UInt64}
    (hbuilt : buildRounds finder authority poolKey templateHash id plans = some rounds)
    (hroom : id.toNat + plans.length < 2 ^ 64) {round : BuiltRound} (hround : round ∈ rounds) :
    ∃ (later : UInt64) (bump : UInt8), id ≤ later ∧
      rt.createProgramAddress (Runtime.roundSeeds poolKey later bump) rt.programId =
        some round.address := by
  induction plans generalizing id rounds with
  | nil =>
      rcases Option.some.inj hbuilt with rfl
      cases hround
  | cons plan plans ih =>
      rcases Option.bind_eq_some_iff.mp hbuilt with ⟨first, hfirst, hrest⟩
      rcases Option.bind_eq_some_iff.mp hrest with ⟨rest, hbuiltRest, hreturn⟩
      rcases Option.some.inj hreturn with rfl
      rw [List.length_cons] at hroom
      rcases List.mem_cons.mp hround with rfl | hround
      · rcases buildRound_eq_some hfirst with ⟨opening, hopening, -⟩
        rcases openRoundInstruction_eq_some hopening with ⟨bump, hderived, -⟩
        exact ⟨id, bump, UInt64.le_refl id, hderived⟩
      · have hnext := toNat_add_one id (by omega)
        rcases ih hbuiltRest (by omega) hround with ⟨later, bump, hlater, hderived⟩
        have hlaterNat := UInt64.le_iff_toNat_le.mp hlater
        exact ⟨later, bump, UInt64.le_iff_toNat_le.mpr (by omega), hderived⟩

theorem length_buildRounds {authority : Pubkey} {templateHash : Bytes32} {id : UInt64}
    (hbuilt : buildRounds finder authority poolKey templateHash id plans = some rounds) :
    rounds.length = plans.length := by
  induction plans generalizing id rounds with
  | nil =>
      rcases Option.some.inj hbuilt with rfl
      rfl
  | cons plan plans ih =>
      rcases Option.bind_eq_some_iff.mp hbuilt with ⟨first, -, hrest⟩
      rcases Option.bind_eq_some_iff.mp hrest with ⟨rest, hbuiltRest, hreturn⟩
      rcases Option.some.inj hreturn with rfl
      rw [List.length_cons, List.length_cons, ih hbuiltRest]

/-- What a list of rounds needs: the pool is stored and not paused, it has enough
identifiers, its authority is a wallet that can pay every rent, and the addresses
of the rounds were never used. -/
structure CanRun (rt : Runtime) (L : Ledger) (poolKey : Pubkey) (pool : PoolAccount)
    (rounds : List BuiltRound) : Prop where
  pool_at : PoolAt rt L poolKey pool
  unpaused : pool.paused = false
  more : pool.nextRound.toNat + rounds.length < 2 ^ 64
  wallet : (L pool.authority).owner = systemProgramId ∧ (L pool.authority).data = []
  funded : rounds.length * (rt.minimumBalance roundAccountSize).toNat ≤
    (L pool.authority).lamports.toNat
  unused : ∀ round ∈ rounds, Unused L round.address
  other : systemProgramId ≠ rt.programId

theorem CanRun.first {round : BuiltRound} (hcan : CanRun rt L poolKey pool (round :: rounds)) :
    CanOpen rt L poolKey pool round.address where
  pool_at := hcan.pool_at
  unpaused := hcan.unpaused
  more := by
    have hmore := hcan.more
    rw [List.length_cons] at hmore
    omega
  wallet := hcan.wallet
  funded := by
    have hfunded := hcan.funded
    rw [List.length_cons, Nat.succ_mul] at hfunded
    exact UInt64.le_iff_toNat_le.mpr (by omega)
  unused := hcan.unused round List.mem_cons_self
  other := hcan.other

/-- The rent of the first round is taken, and the rest can still be paid. -/
theorem RoundDone.rent_toNat {plan : RoundPlan} {round : BuiltRound} {bump : UInt8}
    (hdone : RoundDone rt L L' poolKey pool plan round.address bump)
    (hcan : CanRun rt L poolKey pool (round :: rounds)) :
    (L' pool.authority).lamports.toNat + (rt.minimumBalance roundAccountSize).toNat =
      (L pool.authority).lamports.toNat := by
  have hfunded := UInt64.le_iff_toNat_le.mp hcan.first.funded
  rw [hdone.rent]
  show ((L pool.authority).lamports - rt.minimumBalance roundAccountSize).toNat + _ = _
  rw [UInt64.toNat_sub_of_le _ _ hcan.first.funded]
  omega

/-- One round leaves the pool able to run the rest. -/
theorem CanRun.rest {plan : RoundPlan} {round : BuiltRound} {bump : UInt8}
    (hcan : CanRun rt L poolKey pool (round :: rounds))
    (hdone : RoundDone rt L L' poolKey pool plan round.address bump)
    (hlater : ∀ other ∈ rounds, rt.IsDerived other.address ∧ other.address ≠ round.address) :
    CanRun rt L' poolKey { pool with nextRound := pool.nextRound + 1 } rounds where
  pool_at := hdone.pool_at
  unpaused := hcan.unpaused
  more := by
    have hmore := hcan.more
    rw [List.length_cons] at hmore
    show (pool.nextRound + 1).toNat + rounds.length < 2 ^ 64
    rw [toNat_add_one _ (by omega)]
    omega
  wallet := by
    rw [hdone.rent]
    exact hcan.wallet
  funded := by
    have hfunded := hcan.funded
    have hrent := hdone.rent_toNat hcan
    rw [List.length_cons, Nat.succ_mul] at hfunded
    show _ ≤ (L' pool.authority).lamports.toNat
    omega
  unused other hother := by
    have hunused := hcan.unused other (List.mem_cons_of_mem _ hother)
    have hsame : L' other.address = L other.address := by
      refine hdone.others _ ?_ ?_ (hlater other hother).2
      · intro hkey
        exact hdone.signer (hkey ▸ (hlater other hother).1)
      · intro hkey
        have howned := hcan.pool_at.owned
        rw [← hkey, hunused.owner] at howned
        exact hcan.other howned
    exact ⟨hsame ▸ hunused.owner, hsame ▸ hunused.empty, hsame ▸ hunused.unfunded⟩
  other := hcan.other

/-- A plan fits a pool by its policy, whatever its next identifier is. -/
theorem RoundPlan.Fits.later {plan : RoundPlan} (hfits : plan.Fits pool) (nextRound : UInt64) :
    plan.Fits { pool with nextRound } :=
  ⟨hfits.toTimed.later nextRound, hfits.min_count, hfits.max_count, hfits.root_set⟩

/-- What a list of rounds leaves behind. -/
structure RoundsDone (rt : Runtime) (L L' : Ledger) (poolKey : Pubkey) (pool : PoolAccount)
    (plans : List RoundPlan) (rounds : List BuiltRound) : Prop where
  pool_at : PoolAt rt L' poolKey
    { pool with nextRound := pool.nextRound + UInt64.ofNat plans.length }
  rounds_at : ∀ (i : Nat) (plan : RoundPlan) (round : BuiltRound), plans[i]? = some plan →
    rounds[i]? = some round → ∃ bump, RoundAt rt L' round.address
      (plan.completed poolKey pool (pool.nextRound + UInt64.ofNat i) bump)
  rent : (L' pool.authority).lamports.toNat +
      plans.length * (rt.minimumBalance roundAccountSize).toNat =
    (L pool.authority).lamports.toNat
  others : ∀ b, b ≠ pool.authority → b ≠ poolKey → (∀ round ∈ rounds, b ≠ round.address) →
    L' b = L b

/-- A Merkle pool runs any number of rounds whose plans fit its policy: every
call of every round runs through, and each round ends completed with the data of
its plan. -/
theorem plans_complete (hcan : CanRun rt L poolKey pool rounds)
    (hbackend : pool.backend = .merkleCohort) (hfits : ∀ plan ∈ plans, plan.Fits pool)
    (hbuilt : buildRounds finder pool.authority poolKey pool.templateHash pool.nextRound plans =
      some rounds)
    (hcalls : List.Forall₂ Carries calls (rounds.flatMap (·.steps))) :
    ∃ L', executeAll rt L calls = .ok L' ∧ RoundsDone rt L L' poolKey pool plans rounds := by
  induction plans generalizing pool rounds calls L with
  | nil =>
      rcases Option.some.inj hbuilt with rfl
      cases hcalls
      refine ⟨L, rfl, ?_, fun i plan round hplan => by simp at hplan, by simp, fun _ _ _ _ => rfl⟩
      simpa using hcan.pool_at
  | cons plan plans ih =>
      rcases Option.bind_eq_some_iff.mp hbuilt with ⟨first, hfirst, hbuiltRest⟩
      rcases Option.bind_eq_some_iff.mp hbuiltRest with ⟨rest, hrest, hreturn⟩
      rcases Option.some.inj hreturn with rfl
      rw [List.flatMap_cons] at hcalls
      have hlength := length_buildRounds hrest
      have hmore := hcan.more
      rw [List.length_cons, hlength] at hmore
      have hnext := toNat_add_one pool.nextRound (by omega)
      rcases RoundPlan.completes (hfits plan List.mem_cons_self) hcan.first hbackend hfirst
        (List.forall₂_take_append _ _ _ hcalls) with ⟨L₁, bump, hall, hdone⟩
      have hlater (other : BuiltRound) (hother : other ∈ rest) :
          rt.IsDerived other.address ∧ other.address ≠ first.address := by
        rcases derived_of_mem_buildRounds hrest (by omega) hother with ⟨id, bump', hid, hderived⟩
        have hidNat := UInt64.le_iff_toNat_le.mp hid
        refine ⟨⟨_, hderived⟩, fun hkey => ?_⟩
        have hsame := Runtime.roundSeeds_inj (hkey ▸ hderived) hdone.derived
        rw [hsame.2.1] at hidNat
        omega
      rcases ih (hcan.rest hdone hlater) hbackend
        (fun later hmem => (hfits later (List.mem_cons_of_mem _ hmem)).later _) hrest
        (List.forall₂_drop_append _ _ _ hcalls) with ⟨L₂, hallRest, hrestDone⟩
      have hcallsAll : executeAll rt L calls = .ok L₂ := by
        rw [← List.take_append_drop first.steps.length calls]
        exact executeAll_append hall hallRest
      have hcount (i : Nat) : pool.nextRound + 1 + UInt64.ofNat i =
          pool.nextRound + UInt64.ofNat (i + 1) := by
        rw [UInt64.ofNat_add, UInt64.add_assoc, UInt64.add_comm 1]
        rfl
      refine ⟨L₂, hcallsAll, ?_, ?_, ?_, ?_⟩
      · rw [List.length_cons, ← hcount]
        exact hrestDone.pool_at
      · intro i later round hplan hround
        cases i with
        | zero =>
            rcases Option.some.inj hplan with rfl
            rcases Option.some.inj hround with rfl
            have hsame : L₂ first.address = L₁ first.address := by
              refine hrestDone.others _ ?_ hcan.first.pool_ne_round.symm fun round hround => ?_
              · intro hkey
                exact hdone.signer (hkey ▸ ⟨_, hdone.derived⟩)
              · exact (hlater round hround).2.symm
            refine ⟨bump, ?_, ?_⟩
            · rw [hsame]
              exact hdone.round_at.owned
            · rw [hsame, show pool.nextRound + UInt64.ofNat 0 = pool.nextRound by simp]
              exact hdone.round_at.read
        | succ i =>
            rcases hrestDone.rounds_at i later round hplan hround with ⟨bump', hround⟩
            refine ⟨bump', ?_⟩
            rw [← hcount i]
            exact hround
      · have hrent := hdone.rent_toNat hcan
        have hrestRent := hrestDone.rent
        rw [List.length_cons, Nat.succ_mul]
        change (L₂ pool.authority).lamports.toNat + _ = (L₁ pool.authority).lamports.toNat
          at hrestRent
        omega
      · intro b hauthority hpool hb
        rw [hrestDone.others b hauthority hpool fun round hround =>
          hb round (List.mem_cons_of_mem _ hround)]
        exact hdone.others b hauthority hpool (hb first List.mem_cons_self)

end AllRounds

theorem demoCreator_signers :
    TableSigners demoTable [demoSigner 101, demoAccount 11, demoSystem] := by decide

theorem demoBegin_signers : TableSigners demoTable [demoAccount 21] := by decide

/-- The first wallet sets up a Merkle pool. -/
def demoInitializeMerkle : Call demoRuntime :=
  tableCall 5 [demoSigner 101, demoAccount 11, demoSystem]
    (.initializePool (demoKey 1) (demoKey 50) 2 10 5 50 20 .merkleCohort 255) demoCreator_signers

/-- The account of this pool. -/
def demoMerklePool : PoolAccount :=
  { demoPoolAccount with backend := .merkleCohort, nextRound := 0 }

/-- The chain with this pool. -/
abbrev demoMerkleLedger : Ledger :=
  ledgerAfter demoRuntime demoLedger [demoInitializeMerkle]

/-- Three participants, released ten slots after scheduling. -/
def demoPlan : RoundPlan :=
  { openedAt := 6, publishedAt := 7, sealedAt := 8, scheduledAt := 10, begunAt := 25,
    finalizedAt := 41, deadline := 100, root := demoKey 70, acceptedCount := 3, release := 20,
    metrics := demoKey 80 }

/-- Five participants in the round after it, released thirty slots after
scheduling. -/
def demoLaterPlan : RoundPlan :=
  { openedAt := 50, publishedAt := 51, sealedAt := 51, scheduledAt := 52, begunAt := 90,
    finalizedAt := 120, deadline := 60, root := demoKey 71, acceptedCount := 5, release := 82,
    metrics := demoKey 81 }

/-- The instructions of a plan for the round with an identifier and an address. -/
def demoBuiltRound (roundId : UInt64) (address : Pubkey) (plan : RoundPlan) : BuiltRound where
  address
  steps :=
    (plan.openedAt,
        { programId := demoKey 200
          accounts :=
            [.new (demoKey 101) true, .new (demoKey 11) false, .new address false,
              .newReadonly systemProgramId false]
          data := (CoordinationInstruction.openRound roundId plan.deadline (demoKey 50) 255).encode
        }) ::
      (plan.publishedAt, adminRoundInstruction (demoKey 200) (demoKey 101) (demoKey 11) address
        (.publishCohortRoot plan.root plan.acceptedCount)) ::
      plan.finishing (demoKey 200) (demoKey 101) (demoKey 11) address

/-- The two rounds that are built from these plans. -/
def demoBuiltRounds : List BuiltRound :=
  [demoBuiltRound 0 (demoKey 21) demoPlan, demoBuiltRound 1 (demoKey 22) demoLaterPlan]

/-- The accounts that the opening of a round is called with. -/
def demoRoundAccounts (byte : UInt8) : List AccountInfo :=
  [demoSigner 101, demoAccount 11, demoAccount byte, demoSystem]

/-- Only the first wallet signs the calls about a round. -/
theorem demoRound_signers {accounts : List AccountInfo} (byte : UInt8)
    (haccounts : accounts ⊆ demoRoundAccounts byte) : TableSigners demoTable accounts := by
  intro info hinfo hsigned
  have hlisted := haccounts hinfo
  simp only [demoRoundAccounts, List.mem_cons, List.not_mem_nil, or_false] at hlisted
  rcases hlisted with rfl | rfl | rfl | rfl
  · decide
  all_goals contradiction

/-- An administrative call about a round. -/
def demoRoundCall (byte : UInt8) (slot : UInt64) (instruction : CoordinationInstruction) :
    Call demoRuntime :=
  tableCall slot [demoSigner 101, demoAccount 11, demoAccount byte] instruction
    (demoRound_signers byte (by simp [demoRoundAccounts]))

/-- The calls that carry the instructions of a plan. -/
def demoRoundCalls (roundId : UInt64) (byte : UInt8) (plan : RoundPlan) :
    List (Call demoRuntime) :=
  [tableCall plan.openedAt (demoRoundAccounts byte)
      (.openRound roundId plan.deadline (demoKey 50) 255)
      (demoRound_signers byte (List.Subset.refl _)),
    demoRoundCall byte plan.publishedAt (.publishCohortRoot plan.root plan.acceptedCount),
    demoRoundCall byte plan.sealedAt .sealRound,
    demoRoundCall byte plan.scheduledAt (.scheduleRelease plan.release),
    tableCall plan.begunAt [demoAccount byte] .beginExecutionWindow
      (demoRound_signers byte (by simp [demoRoundAccounts])),
    demoRoundCall byte plan.finalizedAt (.finalizeRound plan.metrics)]

/-- The calls of both plans, one round after the other. -/
def demoPlanCalls : List (Call demoRuntime) :=
  demoRoundCalls 0 21 demoPlan ++ demoRoundCalls 1 22 demoLaterPlan

theorem demoRoundCalls_carry (roundId : UInt64) {byte : UInt8} (hbyte : byte = 21 ∨ byte = 22)
    (plan : RoundPlan) :
    List.Forall₂ Carries (demoRoundCalls roundId byte plan)
      (demoBuiltRound roundId (demoKey byte) plan).steps := by
  rcases hbyte with rfl | rfl
  all_goals
    exact .cons ⟨rfl, rfl, rfl⟩ <| .cons ⟨rfl, rfl, rfl⟩ <| .cons ⟨rfl, rfl, rfl⟩ <|
      .cons ⟨rfl, rfl, rfl⟩ <| .cons ⟨rfl, rfl, rfl⟩ <| .cons ⟨rfl, rfl, rfl⟩ .nil

theorem demoPlanCalls_carry :
    List.Forall₂ Carries demoPlanCalls (demoBuiltRounds.flatMap (·.steps)) := by
  have hfirst := demoRoundCalls_carry 0 (.inl rfl) demoPlan
  have hlater := demoRoundCalls_carry 1 (.inr rfl) demoLaterPlan
  rw [demoBuiltRounds, List.flatMap_cons, List.flatMap_singleton]
  exact List.rel_append hfirst hlater

theorem demoMerkleLedger_canRun :
    CanRun demoRuntime demoMerkleLedger (demoKey 11) demoMerklePool demoBuiltRounds where
  pool_at := ⟨by decide +kernel, by decide +kernel⟩
  unpaused := rfl
  more := by decide
  wallet := by decide +kernel
  funded := by decide +kernel
  unused := List.forall_mem_cons.mpr ⟨⟨by decide +kernel, by decide +kernel, by decide +kernel⟩,
    List.forall_mem_singleton.mpr ⟨by decide +kernel, by decide +kernel, by decide +kernel⟩⟩
  other := by decide

theorem plans_complete_demo :
    ∃ L', executeAll demoRuntime demoMerkleLedger demoPlanCalls = .ok L' ∧
      RoundsDone demoRuntime demoMerkleLedger L' (demoKey 11) demoMerklePool
        [demoPlan, demoLaterPlan] demoBuiltRounds := by
  have hfits : ∀ plan ∈ [demoPlan, demoLaterPlan], plan.Fits demoMerklePool :=
    List.forall_mem_cons.mpr ⟨⟨⟨by decide, by decide, by decide, by decide, by decide, by decide,
        by decide, by decide⟩, by decide, by decide, by decide⟩,
      List.forall_mem_singleton.mpr ⟨⟨by decide, by decide, by decide, by decide, by decide,
        by decide, by decide, by decide⟩, by decide, by decide, by decide⟩⟩
  have hbuilt : buildRounds demoFinder (demoKey 101) (demoKey 11) (demoKey 50) 0
      [demoPlan, demoLaterPlan] = some demoBuiltRounds := by
    decide +kernel
  exact plans_complete demoMerkleLedger_canRun rfl hfits hbuilt demoPlanCalls_carry

end MirrorPool
