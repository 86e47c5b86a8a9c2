import MirrorPool.Program.TableRuntime

/-!
# Pool accounts

A pool is written once by {lit}`InitializePool`; afterwards only its round
counter moves.  The program has no mark that tells a pool from a round, and the
instructions that edit rounds accept a pool in the position of the round when
its bytes read as a round in the right state.  As long as no call makes use of
this, a pool is immutable.

Main results:

- Inductive {lit}`TakenForRound`: the calls that take an account for a round.
- Theorem {lit}`not_takenForRound_of_poolId`: no call takes a pool for a round
  whose identifier has no state tag at byte eight.
- Theorem {lit}`LivePool.step`: a live pool is counted up by its authority,
  left alone, or taken for a round.
- Theorem {lit}`pool_immutable`: pools are immutable over every run that takes
  no pool for a round.
-/

namespace MirrorPool

variable {rt : Runtime} {L : Ledger} {calls : List (Call rt)} {v : CallVisit rt} {a : Pubkey}

/-! ## Live pools -/

/-- The address holds an initialized pool: it is a pool address, and the
version byte is set. -/
structure LivePool (rt : Runtime) (L : Ledger) (a : Pubkey) (pool : PoolAccount) : Prop
    extends PoolAt rt L a pool where
  version : pool.version = 1
  derived : ∃ poolId bump,
    rt.createProgramAddress (Runtime.poolSeeds poolId bump) rt.programId = some a

theorem LivePool.isDerived {pool : PoolAccount} (hlive : LivePool rt L a pool) :
    rt.IsDerived a := by
  rcases hlive.derived with ⟨poolId, bump, hderived⟩
  exact ⟨_, hderived⟩

/-- A pool that is passed with the signature of its authority and a set version
byte is live: a round would have its pool as authority, and a record is too
short. -/
theorem PassedPool.live {call : Call rt} {poolKey : Pubkey} {pool : PoolAccount}
    (hconsistent : Consistent rt L) (hpassed : PassedPool rt L call poolKey pool)
    (hsigned : SignedBy call.accounts pool.authority) (hversion : pool.version = 1) :
    LivePool rt L poolKey pool := by
  refine { hpassed.toPoolAt with version := hversion, derived := ?_ }
  cases hconsistent poolKey hpassed.owned with
  | pool derived => exact ⟨_, _, derived⟩
  | round _ _ holds =>
      rcases holds (hversion ▸ hpassed.head?) with ⟨round, hread, hderived⟩
      rw [(pool_authority_eq_round_pool hpassed.read hread).2] at hsigned
      exact absurd hsigned (not_signedBy_of_isDerived hderived)
  | record _ size =>
      have hfits := PoolAccount.codec.width_le_of_read hpassed.read
      rw [size] at hfits
      exact absurd hfits (by decide)

/-- The call takes the account at the address for the round it works on: the
account stands in the position of the round, its bytes read as a round, and the
guards of the instruction hold for that round. -/
inductive TakenForRound (rt : Runtime) (L : Ledger) (call : Call rt) (a : Pubkey) : Prop where
  | edited {instruction : CoordinationInstruction} {round round' : RoundAccount}
      (decoded : CoordinationInstruction.tryFromSlice call.data = some instruction)
      (position : roundKey instruction call.accounts = some a) (round_at : RoundAt rt L a round)
      (step : RoundStep rt L call instruction round round')
  | closed {poolKey : Pubkey} {pool : PoolAccount} {round : RoundAccount}
      (decoded : CoordinationInstruction.tryFromSlice call.data = some .closeRound)
      (position : keyAt call.accounts 2 = some a) (round_at : RoundAt rt L a round)
      (passed : PassedPool rt L call poolKey pool)
      (signed : SignedBy call.accounts pool.authority) (terminal : round.state.IsTerminal)

/-- No call takes a pool for a round whose identifier has no state tag at byte
eight. -/
theorem not_takenForRound_of_poolId {call : Call rt} {pool : PoolAccount}
    (hpool : PoolAt rt L a pool) (hbyte : (9 : UInt8) ≤ pool.stateByte) :
    ¬TakenForRound rt L call a := by
  have hnone := round_read_eq_none_of_overlay hpool.read hbyte
  intro htaken
  cases htaken with
  | edited _ _ round_at => exact absurd (hnone.symm.trans round_at.read) nofun
  | closed _ _ round_at => exact absurd (hnone.symm.trans round_at.read) nofun

/-- No call takes an account for a round that it does not pass in the position
of the round. -/
theorem not_takenForRound_of_roundKey {call : Call rt}
    (hposition : ∀ instruction, CoordinationInstruction.tryFromSlice call.data =
      some instruction → roundKey instruction call.accounts ≠ some a) :
    ¬TakenForRound rt L call a := by
  intro htaken
  cases htaken with
  | edited decoded position => exact hposition _ decoded position
  | closed decoded position => exact hposition _ decoded position

/-- The same for a call that was made of an instruction. -/
theorem not_takenForRound_tableCall {programId : Pubkey} {table : AddressTable}
    {hnodup : (table.map (·.2)).Nodup} {slot : UInt64} {accounts : List AccountInfo}
    {instruction : CoordinationInstruction} {hsigners : TableSigners table accounts}
    (hposition : roundKey instruction accounts ≠ some a) :
    ¬TakenForRound (tableRuntime programId table hnodup) L
      (tableCall slot accounts instruction hsigners) a := by
  refine not_takenForRound_of_roundKey fun decoded hdecoded => ?_
  rcases tableCall_decoded.mp hdecoded with rfl
  exact hposition

/-- A live pool is counted up by its authority, left alone, or taken for a
round. -/
theorem LivePool.step {call : Call rt} {instruction : CoordinationInstruction}
    {account : Account} {pool : PoolAccount} (hlive : LivePool rt L a pool)
    (hdecoded : CoordinationInstruction.tryFromSlice call.data = some instruction)
    (hstep : AccountStep rt L call a instruction account) :
    (account = L a ∧ Untouched instruction call.accounts a) ∨
      (∃ roundId deadline template bump nextRound,
        instruction = .openRound roundId deadline template bump ∧
        keyAt call.accounts 1 = some a ∧ SignedBy call.accounts pool.authority ∧
        pool.nextRound = roundId ∧ UInt64.toNat nextRound = roundId.toNat + 1 ∧
        account = (L a).store PoolAccount.codec { pool with nextRound }) ∨
      TakenForRound rt L call a := by
  have hhead : (L a).data.head? = some 1 := hlive.version ▸ hlive.toPoolAt.head?
  rcases hlive.derived with ⟨poolId, bump, hderived⟩
  cases hstep with
  | same untouched => exact Or.inl ⟨rfl, untouched⟩
  | wallet _ signed => exact absurd signed (not_signedBy_of_isDerived hlive.isDerived)
  | initialized _ _ _ _ allocated => exact (allocated.not_of_head? hlive.owned hhead).elim
  | opened _ _ _ _ _ _ _ derived => exact (Runtime.pool_ne_round hderived derived).elim
  | counted passed _ signed _ next next_eq =>
      rcases passed.toPoolAt.unique hlive.toPoolAt with rfl
      exact Or.inr (Or.inl ⟨_, _, _, _, _, rfl, passed.position, signed, next, next_eq, rfl⟩)
  | recorded _ _ _ derived => exact (Runtime.participant_ne_pool derived hderived).elim
  | edited position round_at step =>
      exact Or.inr (Or.inr (.edited hdecoded position round_at step))
  | closed passed position signed round_at terminal =>
      exact Or.inr (Or.inr (.closed hdecoded position round_at passed signed terminal))

/-- A pool is initialized at the address. -/
def Initializes (v : CallVisit rt) (a : Pubkey) : Prop :=
  ∃ poolId templateHash min max minDelay maxDelay window backend bump,
    Succeeded v (.initializePool poolId templateHash min max minDelay maxDelay window backend
      bump) ∧ keyAt v.input.accounts 1 = some a

/-- An initialized pool is live, has opened no round, and its address is
derived from the identifier and the bump it stores. -/
theorem Initializes.live (hinit : Initializes v a) :
    ∃ pool, LivePool rt v.after a pool ∧ pool.nextRound = 0 ∧
      SignedBy v.input.accounts pool.authority ∧
      rt.createProgramAddress (Runtime.poolSeeds pool.poolId pool.bump) rt.programId = some a := by
  obtain ⟨poolId, templateHash, min, max, minDelay, maxDelay, window, backend, bump, hok,
    hposition⟩ := hinit
  have hwrites : 1 ∈ (CoordinationInstruction.initializePool poolId templateHash min max minDelay
      maxDelay window backend bump).writes := List.mem_singleton_self 1
  have hstep := accountStep_of_execute hok a
  generalize hafter : v.after a = account at hstep
  cases hstep with
  | same untouched => exact absurd hposition (untouched 1 hwrites)
  | wallet untouched => exact absurd hposition (untouched 1 hwrites)
  | @initialized authority _ _ _ _ _ _ _ _ _ _ _ _ signed derived allocated =>
      let pool : PoolAccount :=
        { version := 1, bump, authority, poolId, templateHash, minParticipants := min,
          maxParticipants := max, minReleaseDelay := minDelay, maxReleaseDelay := maxDelay,
          executionWindow := window, backend, nextRound := 0, paused := false }
      have hlive : LivePool rt v.after a pool :=
        { owned := by rw [hafter]; exact allocated.owner_eq
          read := by rw [hafter]; exact Account.read_store
          version := rfl
          derived := ⟨_, _, derived⟩ }
      exact ⟨pool, hlive, rfl, signed, derived⟩
  | edited _ _ step => cases step

/-! ## Runs -/

/-- The number of the round that the call opens on the pool at the address, if
it opens one. -/
def roundOpened (a : Pubkey) (v : CallVisit rt) : Option UInt64 :=
  match ran v with
  | some (.openRound roundId _ _ _) =>
      if keyAt v.input.accounts 1 = some a then some roundId else none
  | _ => none

/-- What a call that does not take a live pool for a round does to it; the
index is the round counter afterwards. -/
inductive PoolVisit (v : CallVisit rt) (a : Pubkey) (pool : PoolAccount) : UInt64 → Prop where
  | kept (same : v.after a = v.before a) (idle : roundOpened a v = none) :
      PoolVisit v a pool pool.nextRound
  | counted {nextRound : UInt64} (opened : roundOpened a v = some pool.nextRound)
      (signed : SignedBy v.input.accounts pool.authority)
      (next_eq : nextRound.toNat = pool.nextRound.toNat + 1)
      (stored : v.after a = (v.before a).store PoolAccount.codec { pool with nextRound }) :
      PoolVisit v a pool nextRound

/-- A live pool stays live, with the same policy, until it is taken for a
round. -/
theorem LivePool.visit {pool : PoolAccount} (hv : v ∈ history rt L calls)
    (hlive : LivePool rt v.before a pool) (hplace : ¬TakenForRound rt v.before v.input a) :
    ∃ nextRound, LivePool rt v.after a { pool with nextRound } ∧ PoolVisit v a pool nextRound := by
  have hkept (hsame : v.after a = v.before a) : LivePool rt v.after a pool :=
    { hlive with owned := hsame ▸ hlive.owned, read := hsame ▸ hlive.read }
  rcases succeeded_or_unchanged hv with ⟨instruction, hok⟩ | ⟨hsame, hnone⟩
  · have hran : ran v = some instruction := (ran_eq_some hv).mpr hok
    rcases hlive.step hok.decoded (accountStep_of_execute hok a) with
      ⟨hsame, huntouched⟩ |
      ⟨roundId, deadline, template, bump, nextRound, rfl, hposition, hsigned, rfl, hnext,
        hstore⟩ | htaken
    · refine ⟨pool.nextRound, hkept hsame, .kept hsame ?_⟩
      rw [roundOpened, hran]
      cases instruction with
      | openRound => exact if_neg (huntouched 1 List.mem_cons_self)
      | _ => rfl
    · refine ⟨nextRound, ?_, .counted ?_ hsigned hnext hstore⟩
      · exact
          { owned := by rw [hstore]; exact hlive.owned
            read := by rw [hstore]; exact Account.read_store
            version := hlive.version
            derived := hlive.derived }
      · rw [roundOpened, hran]
        exact if_pos hposition
    · exact absurd htaken hplace
  · have hran : ran v = none := by
      rw [Option.eq_none_iff_forall_ne_some]
      exact fun instruction h => hnone instruction ((ran_eq_some hv).mp h)
    refine ⟨pool.nextRound, hkept (by rw [hsame]), .kept (by rw [hsame]) ?_⟩
    rw [roundOpened, hran]

/-- A pool that is never taken for a round is live with the same policy at
every moment. -/
theorem LivePool.run {pool : PoolAccount} {life : List (Call rt)} (hlive : LivePool rt L a pool)
    (hplace : ∀ v ∈ history rt L life, ¬TakenForRound rt v.before v.input a) :
    (∃ last, LivePool rt (ledgerAfter rt L life) a { pool with nextRound := last }) ∧
      ∀ v ∈ history rt L life, ∃ number next,
        LivePool rt v.before a { pool with nextRound := number } ∧
        LivePool rt v.after a { pool with nextRound := next } ∧
        PoolVisit v a { pool with nextRound := number } next := by
  induction life generalizing L pool with
  | nil => exact ⟨⟨pool.nextRound, hlive⟩, by simp⟩
  | cons call life ih =>
      rw [forall_mem_history_cons] at hplace
      rcases hlive.visit (callVisit_mem_history rt L call) hplace.1 with ⟨next, hnext, hvisit⟩
      rcases ih hnext hplace.2 with ⟨hlast, hmoments⟩
      refine ⟨hlast, ?_⟩
      rw [forall_mem_history_cons]
      exact ⟨⟨pool.nextRound, next, hlive, hnext, hvisit⟩, hmoments⟩

/-- The numbers of the rounds opened on a pool count up from its counter. -/
theorem LivePool.roundOpened_eq_range' {pool : PoolAccount} {life : List (Call rt)}
    (hlive : LivePool rt L a pool)
    (hplace : ∀ v ∈ history rt L life, ¬TakenForRound rt v.before v.input a) :
    ((history rt L life).filterMap (roundOpened a)).map UInt64.toNat =
      List.range' pool.nextRound.toNat ((history rt L life).filterMap (roundOpened a)).length := by
  induction life generalizing L pool with
  | nil => rfl
  | cons call life ih =>
      rw [forall_mem_history_cons] at hplace
      rcases hlive.visit (callVisit_mem_history rt L call) hplace.1 with ⟨next, hnext, hvisit⟩
      have hrest := ih hnext hplace.2
      cases hvisit with
      | kept _ idle => rwa [history_cons, List.filterMap_cons_none idle]
      | counted opened _ next_eq =>
          rw [history_cons, List.filterMap_cons_some opened, List.map_cons, List.length_cons,
            List.range'_succ, ← next_eq, hrest]

/-- The whole life of the pool at an address over a list of calls: the policy
is fixed, nothing is drained, the counter is moved by the authority alone, and
round numbers are handed out in order. -/
structure PoolLife (a : Pubkey) (pool : PoolAccount) (vs : List (CallVisit rt)) : Prop where
  derived : rt.createProgramAddress (Runtime.poolSeeds pool.poolId pool.bump) rt.programId = some a
  stored : ∀ v ∈ vs, ∃ nextRound, PoolAt rt v.after a { pool with nextRound }
  undrained : ∀ v ∈ vs, (v.after a).lamports = (v.before a).lamports
  counted : ∀ v ∈ vs, v.after a ≠ v.before a → ∃ roundId nextRound,
    roundOpened a v = some roundId ∧ SignedBy v.input.accounts pool.authority ∧
      PoolAt rt v.before a { pool with nextRound := roundId } ∧
      PoolAt rt v.after a { pool with nextRound } ∧ nextRound.toNat = roundId.toNat + 1
  numbers : (vs.filterMap (roundOpened a)).map UInt64.toNat =
    List.range (vs.filterMap (roundOpened a)).length

/-- A pool is immutable but for its counter, from the call that initializes it
over any calls that do not take it for a round. -/
theorem pool_immutable (before life : List (Call rt)) (creation : Call rt)
    (hinit : Initializes (callVisit rt (ledgerAfter rt L before) creation) a)
    (hplace : ∀ v ∈ history rt (ledgerAfter rt L (before ++ [creation])) life,
      ¬TakenForRound rt v.before v.input a) :
    ∃ pool, PoolAt rt (ledgerAfter rt L (before ++ [creation])) a pool ∧ pool.nextRound = 0 ∧
      PoolLife a pool (history rt (ledgerAfter rt L (before ++ [creation])) life) := by
  rcases hinit.live with ⟨pool, hlive, hzero, -, hderived⟩
  rw [← ledgerAfter_concat] at hlive
  have hmoments := (hlive.run hplace).2
  refine ⟨pool, hlive.toPoolAt, hzero, ?_⟩
  constructor
  case derived => exact hderived
  case stored =>
    intro v hv
    rcases hmoments v hv with ⟨number, next, -, hafter, -⟩
    exact ⟨next, hafter.toPoolAt⟩
  case undrained =>
    intro v hv
    rcases hmoments v hv with ⟨number, next, -, -, hvisit⟩
    cases hvisit with
    | kept same => rw [same]
    | counted _ _ _ stored => rw [stored, Account.store_lamports]
  case counted =>
    intro v hv hchange
    rcases hmoments v hv with ⟨number, next, hbefore, hafter, hvisit⟩
    cases hvisit with
    | kept same => exact absurd same hchange
    | counted opened signed next_eq =>
        exact ⟨number, next, opened, signed, hbefore.toPoolAt, hafter.toPoolAt, next_eq⟩
  case numbers =>
    rw [hlive.roundOpened_eq_range' hplace, hzero, List.range_eq_range']
    rfl

theorem demoInitialize_initializes :
    Initializes (callVisit demoRuntime demoLedger demoInitialize) (demoKey 11) := by
  have hran : ran (callVisit demoRuntime demoLedger demoInitialize) =
      some (.initializePool (demoKey 1) (demoKey 50) 2 10 5 50 20 .transparentRegistry 255) := by
    decide +kernel
  exact ⟨_, _, _, _, _, _, _, _, _, (ran_eq_some (callVisit_mem_history ..)).mp hran, rfl⟩

theorem pool_immutable_demo :
    ∃ pool, PoolAt demoRuntime (ledgerAfter demoRuntime demoLedger [demoInitialize]) (demoKey 11)
        pool ∧ pool.nextRound = 0 ∧
      PoolLife (demoKey 11) pool
        (history demoRuntime (ledgerAfter demoRuntime demoLedger [demoInitialize])
          [demoOpen, demoRegister]) := by
  refine pool_immutable [] [demoOpen, demoRegister] demoInitialize demoInitialize_initializes ?_
  simp only [forall_mem_history_cons]
  exact ⟨not_takenForRound_tableCall (by decide), not_takenForRound_tableCall (by decide),
    by simp⟩

/-- The authority of a pool cancels the pool itself: it stands in both
positions, and byte eight of its identifier reads as {lit}`ThresholdReached`. -/
def demoCancelPool : Call demoRuntime :=
  tableCall 9 [demoSigner 101, demoAccount 11, demoAccount 11] .cancelRound (by decide)

/-- A pool that is taken for a round is changed: the cancellation overwrites
byte eight of its identifier. -/
theorem pool_mutable :
    Genesis demoRuntime demoLedger ∧
      Initializes (callVisit demoRuntime demoLedger demoInitialize) (demoKey 11) ∧
      ¬∃ pool, PoolAt demoRuntime (ledgerAfter demoRuntime demoLedger [demoInitialize])
          (demoKey 11) pool ∧ pool.nextRound = 0 ∧
        PoolLife (demoKey 11) pool
          (history demoRuntime (ledgerAfter demoRuntime demoLedger [demoInitialize])
            [demoCancelPool]) := by
  refine ⟨demoLedger_genesis, demoInitialize_initializes, ?_⟩
  rintro ⟨pool, -, -, hlife⟩
  have hmem := callVisit_mem_history demoRuntime
    (ledgerAfter demoRuntime demoLedger [demoInitialize]) demoCancelPool
  have hnone : roundOpened (demoKey 11)
      (callVisit demoRuntime (ledgerAfter demoRuntime demoLedger [demoInitialize])
        demoCancelPool) = none := by
    decide +kernel
  rcases hlife.counted _ hmem (by decide +kernel) with ⟨roundId, nextRound, hopened, -⟩
  exact nomatch hnone.symm.trans hopened

end MirrorPool
