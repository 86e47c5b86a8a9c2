import MirrorPool.Program.TableRuntime

/-!
# Creation of accounts at funded addresses

Anybody may send lamports to any address, also to the address of an account that
does not exist yet.  The program admits every target that the System Program
owns and that holds no data; the System Program only creates an account at a
target without lamports.

Main results:

- Definition {lit}`Ledger.transfer`: a plain transfer between two addresses.
- Inductive {lit}`CreationChecks`: a creation that passes every check, with a
  payer who can pay.
- Theorem {lit}`creation_succeeds_iff`: after any transfers by others, a valid
  creation succeeds exactly when its target holds no lamports.
- Theorem {lit}`transfer_blocks_creation`: one lamport blocks a creation.
-/

namespace MirrorPool

open Fallible

variable {rt : Runtime} {L L' : Ledger}

/-! ## Plain transfers -/

/-- A transfer of lamports between two addresses. -/
structure Transfer where
  source : Pubkey
  target : Pubkey
  amount : UInt64
deriving DecidableEq, Repr

namespace Ledger

/-- What the System Program does for a plain transfer: the source is a wallet
that holds the amount.  A transfer that fails changes nothing. -/
def transfer (L : Ledger) (t : Transfer) : Ledger :=
  if (L t.source).owner = systemProgramId ∧ (L t.source).data = [] then
    match sub64 (L t.source).lamports t.amount with
    | none => L
    | some rest =>
      match add64 (L.setLamports t.source rest t.target).lamports t.amount with
      | none => L
      | some credited => (L.setLamports t.source rest).setLamports t.target credited
  else L

/-- The ledger after some transfers. -/
def afterTransfers (L : Ledger) (transfers : List Transfer) : Ledger :=
  transfers.foldl transfer L

/-- The second ledger differs in balances only, and an account is not poorer
in it. -/
structure BalancesOnly (payer : Pubkey) (L L' : Ledger) : Prop where
  owner (a : Pubkey) : (L' a).owner = (L a).owner
  data (a : Pubkey) : (L' a).data = (L a).data
  payer : (L payer).lamports ≤ (L' payer).lamports

namespace BalancesOnly

variable {payer a : Pubkey}

theorem refl (payer : Pubkey) (L : Ledger) : BalancesOnly payer L L :=
  ⟨fun _ => rfl, fun _ => rfl, UInt64.le_refl _⟩

theorem trans {L₁ L₂ L₃ : Ledger} (hfirst : BalancesOnly payer L₁ L₂)
    (hsecond : BalancesOnly payer L₂ L₃) : BalancesOnly payer L₁ L₃ :=
  ⟨fun a => (hsecond.owner a).trans (hfirst.owner a),
    fun a => (hsecond.data a).trans (hfirst.data a),
    UInt64.le_trans hfirst.payer hsecond.payer⟩

/-- Setting a balance, which for the account in question does not sink. -/
theorem setLamports {lamports : UInt64}
    (hpayer : a = payer → (L payer).lamports ≤ lamports) :
    BalancesOnly payer L (L.setLamports a lamports) where
  owner b := by
    by_cases hb : b = a
    · rw [hb, setLamports_self]
    · rw [setLamports_of_ne _ _ hb]
  data b := by
    by_cases hb : b = a
    · rw [hb, setLamports_self]
    · rw [setLamports_of_ne _ _ hb]
  payer := by
    by_cases ha : a = payer
    · rw [ha, setLamports_self]
      exact hpayer ha
    · rw [setLamports_of_ne _ _ (Ne.symm ha)]
      exact UInt64.le_refl _

end BalancesOnly

/-- A transfer from another account changes balances only. -/
theorem balancesOnly_transfer {payer : Pubkey} {t : Transfer} (hother : t.source ≠ payer) :
    BalancesOnly payer L (L.transfer t) := by
  unfold transfer
  split
  · split
    · exact .refl payer L
    · rename_i rest hrest
      split
      · exact .refl payer L
      · rename_i credited hcredited
        refine .trans (.setLamports fun h => absurd h hother) (.setLamports fun h => ?_)
        rw [UInt64.le_iff_toNat_le, ← h, add64_eq_some.mp hcredited]
        exact Nat.le_add_right ..
  · exact .refl payer L

/-- Transfers from other accounts change balances only. -/
theorem balancesOnly_afterTransfers {payer : Pubkey} {transfers : List Transfer}
    (hothers : ∀ t ∈ transfers, t.source ≠ payer) :
    BalancesOnly payer L (L.afterTransfers transfers) := by
  induction transfers generalizing L with
  | nil => exact .refl payer L
  | cons t transfers ih =>
      rcases List.forall_mem_cons.mp hothers with ⟨hother, hrest⟩
      exact .trans (balancesOnly_transfer hother) (ih hrest)

end Ledger

/-! ## Valid creations -/

/-- A payer who can pay for an account at an unused address.  The balance of the
address may be anything. -/
structure PayableCreation (rt : Runtime) (L : Ledger) (accounts : List AccountInfo)
    (payer target system : AccountInfo) (space : Nat) : Prop where
  payer_at : accounts[0]? = some payer
  payer_signs : payer.isSigner = true
  system_key : system.key = systemProgramId
  payer_wallet : (L payer.key).owner = systemProgramId ∧ (L payer.key).data = []
  payer_funded : rt.minimumBalance space ≤ (L payer.key).lamports
  target_unused : (L target.key).owner = systemProgramId ∧ (L target.key).data = []
  other : systemProgramId ≠ rt.programId

/-- The accounts at the given addresses are writable wherever they are
listed. -/
def Writable (accounts : List AccountInfo) (keys : List Pubkey) : Prop :=
  ∀ info ∈ accounts, info.key ∈ keys → info.isWritable = true

instance (accounts : List AccountInfo) (keys : List Pubkey) : Decidable (Writable accounts keys) :=
  inferInstanceAs (Decidable (∀ info ∈ accounts, _))

/-- An instruction that creates an account at the given address, with all its
checks passed: signer, authority, numbers, addresses, timing, state, and
policy. -/
inductive CreationChecks (rt : Runtime) (L : Ledger) (call : Call rt) :
    CoordinationInstruction → Pubkey → Prop where
  | initialized {poolId templateHash : Bytes32} {min max : UInt32}
      {minDelay maxDelay window : UInt64} {backend : Backend} {bump : UInt8}
      {authority poolInfo systemInfo : AccountInfo}
      (creation : PayableCreation rt L call.accounts authority poolInfo systemInfo poolAccountSize)
      (pool_at : call.accounts[1]? = some poolInfo)
      (system_at : call.accounts[2]? = some systemInfo)
      (writable : Writable call.accounts [authority.key, poolInfo.key])
      (policy : ¬(min < 2 ∨ max < min ∨ maxCohortSize < max ∨ window = 0 ∨ maxDelay < minDelay))
      (derived : rt.createProgramAddress (Runtime.poolSeeds poolId bump) rt.programId =
        some poolInfo.key) :
      CreationChecks rt L call
        (.initializePool poolId templateHash min max minDelay maxDelay window backend bump)
        poolInfo.key
  | opened {roundId deadline nextRound : UInt64} {template : Bytes32} {bump : UInt8}
      {authority poolInfo roundInfo systemInfo : AccountInfo} {pool : PoolAccount}
      (creation : PayableCreation rt L call.accounts authority roundInfo systemInfo
        roundAccountSize)
      (pool_at : call.accounts[1]? = some poolInfo)
      (round_at : call.accounts[2]? = some roundInfo)
      (system_at : call.accounts[3]? = some systemInfo)
      (writable : Writable call.accounts [authority.key, poolInfo.key, roundInfo.key])
      (pool_holds : PoolAt rt L poolInfo.key pool) (authority_eq : pool.authority = authority.key)
      (unpaused : pool.paused = false) (next : pool.nextRound = roundId)
      (counter : add64 pool.nextRound 1 = some nextRound)
      (template_eq : pool.templateHash = template) (future : call.slot < deadline)
      (derived : rt.createProgramAddress (Runtime.roundSeeds poolInfo.key roundId bump)
        rt.programId = some roundInfo.key) :
      CreationChecks rt L call (.openRound roundId deadline template bump) roundInfo.key
  | registered {key : Bytes32} {bump : UInt8}
      {payer poolInfo roundInfo recordInfo systemInfo : AccountInfo} {pool : PoolAccount}
      {round : RoundAccount}
      (creation : PayableCreation rt L call.accounts payer recordInfo systemInfo
        participantRecordSize)
      (pool_at : call.accounts[1]? = some poolInfo)
      (round_at : call.accounts[2]? = some roundInfo)
      (record_at : call.accounts[3]? = some recordInfo)
      (system_at : call.accounts[4]? = some systemInfo)
      (writable : Writable call.accounts [payer.key, roundInfo.key, recordInfo.key])
      (pool_holds : PoolAt rt L poolInfo.key pool) (round_holds : RoundAt rt L roundInfo.key round)
      (backend : pool.backend = .transparentRegistry) (own : round.pool = poolInfo.key)
      (state : round.state = .registration ∨ round.state = .thresholdReached)
      (deadline : call.slot < round.registrationDeadline)
      (room : round.acceptedCount < pool.maxParticipants)
      (derived : rt.createProgramAddress (Runtime.participantSeeds roundInfo.key key bump)
        rt.programId = some recordInfo.key) :
      CreationChecks rt L call (.registerTransparent key bump) recordInfo.key

/-- A call with a valid creation at the given address. -/
structure ValidCreation (rt : Runtime) (L : Ledger) (call : Call rt)
    (instruction : CoordinationInstruction) (target : Pubkey) : Prop where
  decoded : CoordinationInstruction.tryFromSlice call.data = some instruction
  checks : CreationChecks rt L call instruction target

namespace PayableCreation

variable {call : Call rt} {payer target system : AccountInfo} {space : Nat}
  {seeds : List (List UInt8)}

/-- Transfers by others leave the payer able to pay. -/
theorem balancesOnly (h : PayableCreation rt L call.accounts payer target system space)
    (hbalances : Ledger.BalancesOnly payer.key L L') :
    PayableCreation rt L' call.accounts payer target system space :=
  { h with
    payer_wallet := by rw [hbalances.owner, hbalances.data]; exact h.payer_wallet
    payer_funded := UInt64.le_trans h.payer_funded hbalances.payer
    target_unused := by rw [hbalances.owner, hbalances.data]; exact h.target_unused }

/-- The payer signs, and nobody signs for the target. -/
theorem distinct (h : PayableCreation rt L call.accounts payer target system space)
    (hderived : rt.createProgramAddress seeds rt.programId = some target.key) :
    payer.key ≠ target.key := by
  intro hkey
  have hmem := List.mem_of_getElem? h.payer_at
  exact call.derived_not_signer payer hmem h.payer_signs ⟨seeds, hkey ▸ hderived⟩

/-- The target is no program account. -/
theorem target_not_owned (h : PayableCreation rt L call.accounts payer target system space) :
    (L target.key).owner ≠ rt.programId := by
  rw [h.target_unused.1]
  exact h.other

/-- The account is allocated exactly when the target holds no lamports. -/
theorem createPdaAccount_eq_ok {L₁ : Ledger}
    (h : PayableCreation rt L call.accounts payer target system space) (hspace : space ≤ 10240)
    (hderived : rt.createProgramAddress seeds rt.programId = some target.key)
    (hpayer : payer.isWritable = true) (htarget : target.isWritable = true) :
    createPdaAccount rt L payer target system space seeds = .ok L₁ ↔
      (L target.key).lamports = 0 ∧
        L₁ = L.createAccount payer.key target.key (rt.minimumBalance space) space
          rt.programId := by
  have hother := h.target_not_owned
  rw [MirrorPool.createPdaAccount_eq_ok hspace, hderived]
  constructor
  · rintro (⟨howned, -⟩ | ⟨-, -, hcreatable, hcreated⟩)
    · exact absurd howned hother
    · exact ⟨hcreatable.account_unfunded, hcreated⟩
  · rintro ⟨hunfunded, hcreated⟩
    have hcreatable : Creatable L payer target (rt.minimumBalance space) (some target.key) :=
      { payer_signs := h.payer_signs
        payer_writable := hpayer
        account_writable := htarget
        account_signs := .inr rfl
        distinct := h.distinct hderived
        payer_wallet := h.payer_wallet
        payer_funded := h.payer_funded
        account_unused := h.target_unused
        account_unfunded := hunfunded }
    exact .inr ⟨hother, h.system_key, hcreatable, hcreated⟩

end PayableCreation

/-! ## The System Program decides -/

section Outcome

variable {call : Call rt} {instruction : CoordinationInstruction} {target : Pubkey}

theorem Writable.of_getElem? {accounts : List AccountInfo} {keys : List Pubkey} {position : Nat}
    {info : AccountInfo} (hwritable : Writable accounts keys)
    (hinfo : accounts[position]? = some info) (hkey : info.key ∈ keys) :
    info.isWritable = true :=
  hwritable info (List.mem_of_getElem? hinfo) hkey

/-- A read-only account is at none of the writable addresses. -/
theorem Writable.ne_of_readOnly {accounts : List AccountInfo} {keys : List Pubkey}
    {info : AccountInfo} (hwritable : Writable accounts keys) (hinfo : info ∈ accounts)
    (hreadOnly : info.isWritable = false) : ∀ key ∈ keys, info.key ≠ key := by
  intro key hkey hsame
  have htrue := hwritable info hinfo (hsame ▸ hkey)
  rw [hreadOnly] at htrue
  exact Bool.false_ne_true htrue

/-- A handler that creates an account found its address without lamports. -/
theorem CreationChecks.unfunded_of_dispatch (h : CreationChecks rt L call instruction target)
    (hok : dispatch rt call.slot L call.accounts instruction = .ok L') :
    (L target).lamports = 0 := by
  cases h with
  | initialized creation pool_at system_at writable policy derived =>
      obtain ⟨authority, poolInfo, systemInfo, L₁, -, hauthority, hpool, hsystem, -, -, hcreate,
        -⟩ := initializePool_eq_ok.mp hok
      rcases Option.some.inj (hauthority.symm.trans creation.payer_at) with rfl
      rcases Option.some.inj (hpool.symm.trans pool_at) with rfl
      rcases Option.some.inj (hsystem.symm.trans system_at) with rfl
      exact ((creation.createPdaAccount_eq_ok (by decide) derived
        (writable.of_getElem? hauthority (by simp)) (writable.of_getElem? hpool (by simp))).mp
          hcreate).1
  | opened creation pool_at round_at system_at writable pool_holds _ _ _ _ _ _ derived =>
      obtain ⟨authority, poolInfo, roundInfo, systemInfo, _, _, L₁, hauthority, hpool, hround,
        hsystem, -, -, -, -, -, -, -, -, -, hcreate, -⟩ := openRound_eq_ok.mp hok
      rcases Option.some.inj (hauthority.symm.trans creation.payer_at) with rfl
      rcases Option.some.inj (hpool.symm.trans pool_at) with rfl
      rcases Option.some.inj (hround.symm.trans round_at) with rfl
      rcases Option.some.inj (hsystem.symm.trans system_at) with rfl
      exact ((creation.createPdaAccount_eq_ok (by decide) derived
        (writable.of_getElem? hauthority (by simp)) (writable.of_getElem? hround (by simp))).mp
          hcreate).1
  | registered creation pool_at round_at record_at system_at writable _ _ _ _ _ _ _ derived =>
      obtain ⟨payer, poolInfo, roundInfo, recordInfo, systemInfo, _, _, _, L₁, hpayer, hpool,
        hround, hrecord, hsystem, -, -, -, -, -, -, -, -, -, -, -, hcreate, -⟩ :=
        registerTransparent_eq_ok.mp hok
      rcases Option.some.inj (hpayer.symm.trans creation.payer_at) with rfl
      rcases Option.some.inj (hround.symm.trans round_at) with rfl
      rcases Option.some.inj (hrecord.symm.trans record_at) with rfl
      rcases Option.some.inj (hsystem.symm.trans system_at) with rfl
      exact ((creation.createPdaAccount_eq_ok (by decide) derived
        (writable.of_getElem? hpayer (by simp)) (writable.of_getElem? hrecord (by simp))).mp
          hcreate).1

/-- A count below a maximum can be raised. -/
theorem exists_add32_of_lt {count max : UInt32} (hroom : count < max) :
    ∃ next, add32 count 1 = some next := by
  have hmax := max.toNat_lt
  have hlt : count.toNat < max.toNat := UInt32.lt_iff_toNat_lt.mp hroom
  have hone : (1 : UInt32).toNat = 1 := rfl
  exact ⟨count + 1, if_pos (by omega)⟩

/-- An address without lamports lets the handler run through, and only accounts
that are writable change. -/
theorem CreationChecks.dispatch_of_unfunded (h : CreationChecks rt L call instruction target)
    (hunfunded : (L target).lamports = 0) :
    ∃ L', dispatch rt call.slot L call.accounts instruction = .ok L' ∧
      ∀ info ∈ call.accounts, info.isWritable = false → L' info.key = L info.key := by
  cases h with
  | initialized creation pool_at system_at writable policy derived =>
      have hcreate := (creation.createPdaAccount_eq_ok (by decide) derived
        (writable.of_getElem? creation.payer_at (by simp))
        (writable.of_getElem? pool_at (by simp))).mpr ⟨hunfunded, rfl⟩
      refine ⟨_, initializePool_eq_ok.mpr ⟨_, _, _, _, policy, creation.payer_at, pool_at,
        system_at, creation.payer_signs, derived, hcreate, ?_, rfl⟩, ?_⟩
      · rw [Ledger.createAccount_self, List.length_replicate]
        decide
      · intro info hinfo hreadOnly
        have hne := writable.ne_of_readOnly hinfo hreadOnly
        rw [Ledger.setPool_of_ne _ (hne _ (by simp)),
          Ledger.createAccount_of_ne _ _ _ _ (hne _ (by simp)) (hne _ (by simp))]
  | opened creation pool_at round_at system_at writable pool_holds authority_eq unpaused next
      counter template_eq future derived =>
      have hcreate := (creation.createPdaAccount_eq_ok (by decide) derived
        (writable.of_getElem? creation.payer_at (by simp))
        (writable.of_getElem? round_at (by simp))).mpr ⟨hunfunded, rfl⟩
      have hpool := createPdaAccount_owned (by decide) hcreate pool_holds.owned
      have hpoolFits := PoolAccount.codec.width_le_of_read pool_holds.read
      refine ⟨_, openRound_eq_ok.mpr ⟨_, _, _, _, _, _, _, creation.payer_at, pool_at, round_at,
        system_at, creation.payer_signs, pool_holds.owned, pool_holds.read, authority_eq, unpaused,
        next, template_eq, future, derived, hcreate, counter, ?_, ?_, rfl⟩, ?_⟩
      · rw [hpool]
        exact hpoolFits
      · rw [Ledger.createAccount_self, List.length_replicate]
        decide
      · intro info hinfo hreadOnly
        have hne := writable.ne_of_readOnly hinfo hreadOnly
        rw [Ledger.setRound_of_ne _ (hne _ (by simp)), Ledger.setPool_of_ne _ (hne _ (by simp)),
          Ledger.createAccount_of_ne _ _ _ _ (hne _ (by simp)) (hne _ (by simp))]
  | registered creation pool_at round_at record_at system_at writable pool_holds round_holds
      backend own state deadline room derived =>
      have hcreate := (creation.createPdaAccount_eq_ok (by decide) derived
        (writable.of_getElem? creation.payer_at (by simp))
        (writable.of_getElem? record_at (by simp))).mpr ⟨hunfunded, rfl⟩
      have hround := createPdaAccount_owned (by decide) hcreate round_holds.owned
      have hroundFits := RoundAccount.codec.width_le_of_read round_holds.read
      rcases exists_add32_of_lt room with ⟨count, hcount⟩
      refine ⟨_, registerTransparent_eq_ok.mpr ⟨_, _, _, _, _, _, _, _, _, creation.payer_at,
        pool_at, round_at, record_at, system_at, creation.payer_signs, pool_holds.owned,
        round_holds.owned, pool_holds.read, round_holds.read, backend, own, state, deadline, room,
        derived, hcreate, hcount, ?_, ?_, rfl⟩, ?_⟩
      · rw [Ledger.createAccount_self, List.length_replicate]
        decide
      · rw [hround]
        exact hroundFits
      · intro info hinfo hreadOnly
        have hne := writable.ne_of_readOnly hinfo hreadOnly
        rw [Ledger.setRound_of_ne _ (hne _ (by simp)), Ledger.setRecord_of_ne _ (hne _ (by simp)),
          Ledger.createAccount_of_ne _ _ _ _ (hne _ (by simp)) (hne _ (by simp))]

/-- A valid creation succeeds exactly when its target holds no lamports. -/
theorem ValidCreation.succeeds_iff (h : ValidCreation rt L call instruction target) :
    (∃ L', Succeeds rt L call instruction L') ↔ (L target).lamports = 0 := by
  constructor
  · rintro ⟨L', hok⟩
    rcases execute_eq_ok.mp hok.executed with ⟨⟨instruction', hdecoded, hdispatch⟩, -⟩
    rcases Option.some.inj (hdecoded.symm.trans h.decoded) with rfl
    exact h.checks.unfunded_of_dispatch hdispatch
  · intro hunfunded
    rcases h.checks.dispatch_of_unfunded hunfunded with ⟨L', hdispatch, hreadOnly⟩
    exact ⟨L', h.decoded, execute_eq_ok.mpr ⟨⟨instruction, h.decoded, hdispatch⟩, hreadOnly⟩⟩

/-- Balances of others do not matter for the checks. -/
theorem CreationChecks.balancesOnly {payer : Pubkey}
    (h : CreationChecks rt L call instruction target)
    (hpayer : keyAt call.accounts 0 = some payer)
    (hbalances : Ledger.BalancesOnly payer L L') :
    CreationChecks rt L' call instruction target := by
  have hpool {a : Pubkey} {pool : PoolAccount} (hat : PoolAt rt L a pool) : PoolAt rt L' a pool :=
    ⟨by rw [hbalances.owner, hat.owned], by rw [hbalances.data, hat.read]⟩
  have hround {a : Pubkey} {round : RoundAccount} (hat : RoundAt rt L a round) :
      RoundAt rt L' a round :=
    ⟨by rw [hbalances.owner, hat.owned], by rw [hbalances.data, hat.read]⟩
  cases h with
  | initialized creation pool_at system_at writable policy derived =>
      rcases Option.some.inj ((keyAt_of_getElem? creation.payer_at).symm.trans hpayer) with rfl
      exact .initialized (creation.balancesOnly hbalances) pool_at system_at writable policy derived
  | opened creation pool_at round_at system_at writable pool_holds authority_eq unpaused next
      counter template_eq future derived =>
      rcases Option.some.inj ((keyAt_of_getElem? creation.payer_at).symm.trans hpayer) with rfl
      exact .opened (creation.balancesOnly hbalances) pool_at round_at system_at writable
        (hpool pool_holds) authority_eq unpaused next counter template_eq future derived
  | registered creation pool_at round_at record_at system_at writable pool_holds round_holds
      backend own state deadline room derived =>
      rcases Option.some.inj ((keyAt_of_getElem? creation.payer_at).symm.trans hpayer) with rfl
      exact .registered (creation.balancesOnly hbalances) pool_at round_at record_at system_at
        writable (hpool pool_holds) (hround round_holds) backend own state deadline room derived

/-- After any transfers by others, a valid creation succeeds exactly when its
target holds no lamports. -/
theorem creation_succeeds_iff {payer : Pubkey} {transfers : List Transfer}
    (h : ValidCreation rt L call instruction target)
    (hpayer : keyAt call.accounts 0 = some payer)
    (hothers : ∀ t ∈ transfers, t.source ≠ payer) :
    (∃ L', Succeeds rt (L.afterTransfers transfers) call instruction L') ↔
      (L.afterTransfers transfers target).lamports = 0 := by
  have hbalances : Ledger.BalancesOnly payer L (L.afterTransfers transfers) :=
    Ledger.balancesOnly_afterTransfers hothers
  exact ValidCreation.succeeds_iff ⟨h.decoded, h.checks.balancesOnly hpayer hbalances⟩

end Outcome

/-! ## One lamport -/

/-- The second wallet sends one lamport to the address of the pool. -/
def demoDonation : Transfer := ⟨demoKey 102, demoKey 11, 1⟩

theorem demoInitialize_valid :
    ValidCreation demoRuntime demoLedger demoInitialize
      (.initializePool (demoKey 1) (demoKey 50) 2 10 5 50 20 .transparentRegistry 255)
      (demoKey 11) where
  decoded := tableCall_decoded.mpr rfl
  checks := by
    have hcreation : PayableCreation demoRuntime demoLedger demoInitialize.accounts
        (demoSigner 101) (demoAccount 11) demoSystem poolAccountSize := by
      constructor <;> decide +kernel
    exact .initialized hcreation rfl rfl (by decide) (by decide) (by decide)

theorem creation_succeeds_iff_demo :
    ∃ L', Succeeds demoRuntime
      (demoLedger.afterTransfers [⟨demoKey 102, demoKey 101, 5⟩]) demoInitialize
      (.initializePool (demoKey 1) (demoKey 50) 2 10 5 50 20 .transparentRegistry 255) L' :=
  (creation_succeeds_iff demoInitialize_valid rfl (by decide)).mpr (by decide +kernel)

/-- Before the first call of the program, one lamport at the address of the
first pool makes its creation fail, which succeeds without it. -/
theorem transfer_blocks_creation :
    Genesis demoRuntime demoLedger ∧
      ValidCreation demoRuntime demoLedger demoInitialize
        (.initializePool (demoKey 1) (demoKey 50) 2 10 5 50 20 .transparentRegistry 255)
        (demoKey 11) ∧
      demoDonation.source ≠ demoKey 101 ∧
      ¬∃ L', Succeeds demoRuntime (demoLedger.afterTransfers [demoDonation]) demoInitialize
        (.initializePool (demoKey 1) (demoKey 50) 2 10 5 50 20 .transparentRegistry 255) L' := by
  refine ⟨demoLedger_genesis, demoInitialize_valid, by decide, ?_⟩
  have hbalances : Ledger.BalancesOnly (demoKey 101) demoLedger
      (demoLedger.afterTransfers [demoDonation]) :=
    Ledger.balancesOnly_afterTransfers (by decide)
  have hvalid := demoInitialize_valid.checks.balancesOnly rfl hbalances
  rw [ValidCreation.succeeds_iff ⟨demoInitialize_valid.decoded, hvalid⟩]
  decide +kernel

end MirrorPool
