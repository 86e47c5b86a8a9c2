import MirrorPool.Client.Builders

/-!
# Builders and processor

The builders and the processor write down the layout of an instruction twice: its
tag and fields, the seeds of its addresses, the order of its accounts, and the
privileges.  A call that passes a built instruction fails for the state of the
chain or not at all.

Main results:

- Definition {lit}`ProgramError.IsMalformed`: the errors of a call that was put
  together wrongly.
- Theorem {lit}`dispatch_avoids`: the handlers report none of them on accounts in
  order.
- Structure {lit}`Agrees`: what a builder and the processor agree on.
- Theorem {lit}`builders_agree`: the four builders agree with the processor.
-/

namespace MirrorPool

open Fallible

/-! ## Malformed calls -/

/-- The errors of a call that was put together wrongly. -/
def ProgramError.IsMalformed (error : ProgramError) : Prop :=
  error = .invalidInstructionData ∨ error = .notEnoughAccountKeys ∨
    error = .missingRequiredSignature ∨ error = CoordinationError.invalidPda.into ∨
    error = .readonlyAccountModified

instance : DecidablePred ProgramError.IsMalformed :=
  fun _ => inferInstanceAs (Decidable (_ ∨ _))

/-- The System Program refuses an authorized request, if it does, with an error
of its own. -/
def SystemErrors (rt : Runtime) : Prop :=
  ∀ L payer account lamports space owner seeds error, payer.isSigner = true →
    payer.isWritable = true → account.isWritable = true →
    rt.createProgramAddress seeds rt.programId = some account.key →
    rt.createAccount L payer account lamports space owner seeds = .error error →
    ∃ code, error = .systemProgram code

variable {rt : Runtime} {L : Ledger} {slot : UInt64} {accounts : List AccountInfo}

section Avoids

/-- The account at a position is there, and the rest of the body goes on with
it. -/
theorem nextAccountInfo_bind_avoids {position : Nat} {info : AccountInfo} {α : Type}
    {next : AccountInfo → Except ProgramError α} (hinfo : accounts[position]? = some info)
    (hnext : Avoids ProgramError.IsMalformed (next info)) :
    Avoids ProgramError.IsMalformed (nextAccountInfo accounts position >>= next) := by
  rw [nextAccountInfo_eq_ok.mpr hinfo]
  exact hnext

/-- The check of the signature passes. -/
theorem requireSigner_avoids {info : AccountInfo} (hsigned : info.isSigner = true) :
    Avoids ProgramError.IsMalformed (requireSigner info) :=
  avoids_of_eq_ok (a := ()) (requireSigner_eq_ok.mpr hsigned)

/-- The check of the owner may fail, but not for the instruction. -/
theorem requireOwned_avoids {info : AccountInfo} {programId : Pubkey} :
    Avoids ProgramError.IsMalformed (requireOwned L info programId) :=
  avoids_failIf (by decide)

/-- Reading an account may fail, but not for the instruction. -/
theorem readAccount_avoids {α : Type} {width : Nat} {codec : FixedCodec α width}
    {info : AccountInfo} : Avoids ProgramError.IsMalformed (readAccount codec L info) :=
  avoids_okOr (by decide)

/-- Writing an account may fail, but not for the instruction. -/
theorem writeAccount_avoids {α : Type} {width : Nat} {codec : FixedCodec α width}
    {info : AccountInfo} {value : α} :
    Avoids ProgramError.IsMalformed (writeAccount codec L info value) :=
  .bind (avoids_failIf (by decide)) fun _ _ => avoids_of_eq_ok rfl

/-- The check of the address passes. -/
theorem requireDerived_avoids {seeds : List (List UInt8)} {info : AccountInfo}
    (hderived : rt.createProgramAddress seeds rt.programId = some info.key) :
    Avoids ProgramError.IsMalformed (requireDerived rt seeds info) :=
  avoids_of_eq_ok (a := ()) (requireDerived_eq_ok.mpr hderived)

/-- The allocation of an authorized address fails for the state of the
chain. -/
theorem createPdaAccount_avoids {payer account system : AccountInfo} {space : Nat}
    {seeds : List (List UInt8)} (hsystem : SystemErrors rt) (hsigned : payer.isSigner = true)
    (hpayer : payer.isWritable = true) (haccount : account.isWritable = true)
    (hderived : rt.createProgramAddress seeds rt.programId = some account.key) :
    Avoids ProgramError.IsMalformed (createPdaAccount rt L payer account system space seeds) := by
  unfold createPdaAccount
  split
  · exact .bind (avoids_failIf (by decide)) fun _ _ => avoids_of_eq_ok rfl
  · refine .bind (avoids_failIf (by decide)) fun _ _ => ?_
    intro error herror
    rcases hsystem _ _ _ _ _ _ _ _ hsigned hpayer haccount hderived herror with ⟨code, rfl⟩
    simp [ProgramError.IsMalformed, CoordinationError.into]

theorem initializePool_avoids {poolId templateHash : Bytes32} {min max : UInt32}
    {minDelay maxDelay window : UInt64} {backend : Backend} {bump : UInt8}
    {authority pool system : AccountInfo} (hsystem : SystemErrors rt)
    (hauthority : accounts[0]? = some authority) (hpool : accounts[1]? = some pool)
    (hprogram : accounts[2]? = some system) (hsigned : authority.isSigner = true)
    (hpayer : authority.isWritable = true) (hwritable : pool.isWritable = true)
    (hderived : rt.createProgramAddress (Runtime.poolSeeds poolId bump) rt.programId =
      some pool.key) :
    Avoids ProgramError.IsMalformed (initializePool rt L accounts poolId templateHash min max
      minDelay maxDelay window backend bump) := by
  refine .bind (avoids_failIf (by decide)) fun _ _ => ?_
  refine nextAccountInfo_bind_avoids hauthority ?_
  refine nextAccountInfo_bind_avoids hpool ?_
  refine nextAccountInfo_bind_avoids hprogram ?_
  refine .bind (requireSigner_avoids hsigned) fun _ _ => ?_
  refine .bind (requireDerived_avoids hderived) fun _ _ => ?_
  refine .bind (createPdaAccount_avoids hsystem hsigned hpayer hwritable hderived) fun _ _ => ?_
  exact writeAccount_avoids

theorem openRound_avoids {roundId deadline : UInt64} {template : Bytes32} {bump : UInt8}
    {authority pool round system : AccountInfo} (hsystem : SystemErrors rt)
    (hauthority : accounts[0]? = some authority) (hpool : accounts[1]? = some pool)
    (hround : accounts[2]? = some round) (hprogram : accounts[3]? = some system)
    (hsigned : authority.isSigner = true) (hpayer : authority.isWritable = true)
    (hwritable : round.isWritable = true)
    (hderived : rt.createProgramAddress (Runtime.roundSeeds pool.key roundId bump) rt.programId =
      some round.key) :
    Avoids ProgramError.IsMalformed
      (openRound rt slot L accounts roundId deadline template bump) := by
  refine nextAccountInfo_bind_avoids hauthority ?_
  refine nextAccountInfo_bind_avoids hpool ?_
  refine nextAccountInfo_bind_avoids hround ?_
  refine nextAccountInfo_bind_avoids hprogram ?_
  refine .bind (requireSigner_avoids hsigned) fun _ _ => ?_
  refine .bind requireOwned_avoids fun _ _ => ?_
  refine .bind readAccount_avoids fun _ _ => ?_
  refine .bind (avoids_failIf (by decide)) fun _ _ => ?_
  refine .bind (avoids_failIf (by decide)) fun _ _ => ?_
  refine .bind (requireDerived_avoids hderived) fun _ _ => ?_
  refine .bind (createPdaAccount_avoids hsystem hsigned hpayer hwritable hderived) fun _ _ => ?_
  refine .bind (avoids_okOr (by decide)) fun _ _ => ?_
  exact .bind writeAccount_avoids fun _ _ => writeAccount_avoids

/-- An administrative handler avoids what the rest of its body avoids. -/
theorem adminHandler_avoids {authority pool round : AccountInfo}
    {body : AdminAccounts → PoolAccount → RoundAccount → Except ProgramError Ledger}
    (hauthority : accounts[0]? = some authority) (hpool : accounts[1]? = some pool)
    (hround : accounts[2]? = some round) (hsigned : authority.isSigner = true)
    (hbody : ∀ admin pool round, Avoids ProgramError.IsMalformed (body admin pool round)) :
    Avoids ProgramError.IsMalformed (do
      let admin ← adminAccounts rt L accounts
      let pool ← readAccount PoolAccount.codec L admin.pool
      let round ← readAccount RoundAccount.codec L admin.round
      body admin pool round) := by
  refine .bind ?_ fun _ _ => .bind readAccount_avoids fun _ _ => .bind readAccount_avoids
    fun _ _ => hbody _ _ _
  refine nextAccountInfo_bind_avoids hauthority ?_
  refine nextAccountInfo_bind_avoids hpool ?_
  refine nextAccountInfo_bind_avoids hround ?_
  refine .bind (requireSigner_avoids hsigned) fun _ _ => ?_
  refine .bind requireOwned_avoids fun _ _ => .bind requireOwned_avoids fun _ _ => ?_
  exact avoids_of_eq_ok rfl

/-- The administrative instructions, sent with three accounts and a
signature. -/
theorem dispatch_avoids {instruction : CoordinationInstruction}
    {authority pool round : AccountInfo} (hadmin : instruction.isAdmin = true)
    (hauthority : accounts[0]? = some authority) (hpool : accounts[1]? = some pool)
    (hround : accounts[2]? = some round) (hsigned : authority.isSigner = true) :
    Avoids ProgramError.IsMalformed (dispatch rt slot L accounts instruction) := by
  cases instruction with
  | publishCohortRoot root count =>
      refine adminHandler_avoids hauthority hpool hround hsigned fun _ _ _ => ?_
      exact .bind (avoids_failIf (by decide)) fun _ _ => writeAccount_avoids
  | sealRound =>
      refine adminHandler_avoids hauthority hpool hround hsigned fun _ _ _ => ?_
      exact .bind (avoids_failIf (by decide)) fun _ _ => writeAccount_avoids
  | scheduleRelease release =>
      refine adminHandler_avoids hauthority hpool hround hsigned fun _ _ _ => ?_
      refine .bind (avoids_okOr (by decide)) fun _ _ => ?_
      refine .bind (avoids_failIf (by decide)) fun _ _ => ?_
      exact .bind (avoids_okOr (by decide)) fun _ _ => writeAccount_avoids
  | finalizeRound metrics =>
      refine adminHandler_avoids hauthority hpool hround hsigned fun _ _ _ => ?_
      exact .bind (avoids_failIf (by decide)) fun _ _ => writeAccount_avoids
  | cancelRound =>
      refine adminHandler_avoids hauthority hpool hround hsigned fun _ _ _ => ?_
      exact .bind (avoids_failIf (by decide)) fun _ _ => writeAccount_avoids
  | closeRound =>
      refine adminHandler_avoids hauthority hpool hround hsigned fun _ _ _ => ?_
      refine .bind (avoids_failIf (by decide)) fun _ _ => ?_
      exact .bind (avoids_okOr (by decide)) fun _ _ => avoids_of_eq_ok rfl
  | _ => cases hadmin

/-- The transition to the window finds its account. -/
theorem begin_avoids {round : AccountInfo} (hround : accounts[0]? = some round) :
    Avoids ProgramError.IsMalformed (begin rt slot L accounts) := by
  refine nextAccountInfo_bind_avoids hround ?_
  refine .bind requireOwned_avoids fun _ _ => .bind readAccount_avoids fun _ _ => ?_
  exact .bind (avoids_failIf (by decide)) fun _ _ => writeAccount_avoids

end Avoids

/-! ## Agreement -/

/-- What a builder and the processor agree on.  The built data is that of the
intended instruction, the first account and all written ones are writable, no
call fails as malformed, and a call on the records it is meant for succeeds
exactly under the guards. -/
structure Agrees (rt : Runtime) (built : Instruction) (intended : CoordinationInstruction)
    (Under : Ledger → PoolAccount → RoundAccount → Prop)
    (Guards : UInt64 → Ledger → PoolAccount → RoundAccount → Prop) : Prop where
  program : built.programId = rt.programId
  decodes : CoordinationInstruction.tryFromSlice built.data = some intended
  writable : ∀ position ∈ 0 :: intended.writes, ∀ info,
    built.accountInfos[position]? = some info → info.isWritable = true
  wellFormed : ∀ (L : Ledger) (call : Call rt), Sends call built →
    ∀ error, execute rt L call = .error error → ¬error.IsMalformed
  succeeds : ∀ (L : Ledger) (call : Call rt) pool round, Sends call built →
    Under L pool round → ((∃ L', execute rt L call = .ok L') ↔ Guards call.slot L pool round)

/-- The positions that were asked for as writable are seen as such. -/
theorem Instruction.CoversWrites.isWritable {built : Instruction}
    {instruction : CoordinationInstruction} (hcovers : built.CoversWrites instruction)
    {position : Nat} (hposition : position ∈ 0 :: instruction.writes) {info : AccountInfo}
    (hinfo : built.accountInfos[position]? = some info) : info.isWritable = true := by
  rw [Instruction.accountInfos, List.getElem?_map, Option.map_eq_some_iff] at hinfo
  rcases hinfo with ⟨m, hm, rfl⟩
  exact Instruction.isWritable_accountInfo (List.mem_of_getElem? hm) (hcovers _ hposition m hm)

/-! ## The execution window -/

/-- The release is scheduled, and the slot lies in the window. -/
def WindowGuards (slot : UInt64) (round : RoundAccount) : Prop :=
  round.state = .releaseScheduled ∧ round.releaseSlot ≤ slot ∧ slot ≤ round.windowEndSlot

/-- What the builder of the transition to the window makes. -/
theorem beginWindowInstruction_agrees (rt : Runtime) (roundKey : Pubkey) :
    Agrees rt (beginWindowInstruction rt.programId roundKey) .beginExecutionWindow
      (fun L _ round => RoundAt rt L roundKey round)
      (fun slot _ _ round => WindowGuards slot round) := by
  have hdecodes := CoordinationInstruction.tryFromSlice_encode .beginExecutionWindow
  have hcovers : (beginWindowInstruction rt.programId roundKey).CoversWrites
      .beginExecutionWindow := by
    simp [Instruction.CoversWrites, CoordinationInstruction.writes, beginWindowInstruction,
      AccountMeta.new]
  refine ⟨rfl, hdecodes, fun _ hposition _ => hcovers.isWritable hposition, ?_, ?_⟩
  · intro L call hsends
    rw [hsends.execute_eq hdecodes hcovers]
    exact begin_avoids (hsends.account_at rfl)
  · intro L call pool round hsends hround
    rw [hsends.execute_eq hdecodes hcovers]
    simp only [dispatch, begin_eq_ok]
    constructor
    · rintro ⟨_, info, round', hinfo, -, hread, hguards, -⟩
      rcases Option.some.inj (hinfo.symm.trans (hsends.account_at rfl)) with rfl
      rcases Option.some.inj (hread.symm.trans hround.read) with rfl
      exact hguards
    · intro hguards
      exact ⟨_, _, round, hsends.account_at rfl, hround.owned, hround.read, hguards, rfl⟩

/-! ## Administrative instructions -/

/-- The guards of an administrative instruction, for the authority of the
round's own pool. -/
def AdminGuards (L : Ledger) (slot : UInt64) (authority roundKey : Pubkey) (pool : PoolAccount)
    (round : RoundAccount) : CoordinationInstruction → Prop
  | .publishCohortRoot root count =>
      pool.backend = .merkleCohort ∧ round.state = .registration ∧
        pool.minParticipants ≤ count ∧ count ≤ pool.maxParticipants ∧
        root ≠ Vector.replicate 32 0 ∧ round.cohortRoot = Vector.replicate 32 0
  | .sealRound => round.state = .thresholdReached ∧ pool.minParticipants ≤ round.acceptedCount
  | .scheduleRelease release =>
      round.state = .sealed ∧ round.releaseSlot = 0 ∧
        ∃ delay windowEndSlot : UInt64, release.toNat = slot.toNat + delay.toNat ∧
          pool.minReleaseDelay ≤ delay ∧ delay ≤ pool.maxReleaseDelay ∧
          windowEndSlot.toNat = release.toNat + pool.executionWindow.toNat
  | .finalizeRound metrics =>
      round.state = .executionWindow ∧ round.windowEndSlot < slot ∧
        metrics ≠ Vector.replicate 32 0
  | .cancelRound => ¬round.state.IsTerminal
  | .closeRound =>
      round.state.IsTerminal ∧ ∃ credited : UInt64,
        credited.toNat = (L authority).lamports.toNat + (L roundKey).lamports.toNat
  | _ => False

/-- On the round's own pool, with its authority, an administrative handler
succeeds exactly under its guards. -/
theorem AdminContext.dispatch_iff {instruction : CoordinationInstruction} {admin : AdminAccounts}
    {pool : PoolAccount} {round : RoundAccount} (hadmin : instruction.isAdmin = true)
    (ctx : AdminContext rt L accounts admin pool round)
    (hauthority : pool.authority = admin.authority.key) (hown : round.pool = admin.pool.key)
    (hwritable : admin.authority.isWritable = true) :
    (∃ L', dispatch rt slot L accounts instruction = .ok L') ↔
      AdminGuards L slot admin.authority.key admin.round.key pool round instruction := by
  cases instruction with
  | publishCohortRoot root count =>
      refine (ctx.succeeds_iff fun _ => publishRoot_eq_ok).trans ?_
      constructor
      · rintro ⟨hbackend, -, hstate, hmin, hmax, hset, hunset, -⟩
        exact ⟨hbackend, hstate, hmin, hmax, hset, hunset⟩
      · rintro ⟨hbackend, hstate, hmin, hmax, hset, hunset⟩
        exact ⟨hbackend, hown, hstate, hmin, hmax, hset, hunset, hauthority⟩
  | sealRound =>
      refine (ctx.succeeds_iff fun _ => sealRound_eq_ok).trans ?_
      constructor
      · rintro ⟨-, -, hguards⟩
        exact hguards
      · exact fun hguards => ⟨hauthority, hown, hguards⟩
  | scheduleRelease release =>
      constructor
      · rintro ⟨L', hok⟩
        rcases ctx.exists_iff.mp (schedule_eq_ok.mp hok) with
          ⟨delay, finish, ⟨hdelay, -, hstate, hunset, hmin, hmax, hfinish⟩, -⟩
        exact ⟨hstate, hunset, delay, finish, hdelay, hmin, hmax, hfinish⟩
      · rintro ⟨hstate, hunset, delay, finish, hdelay, hmin, hmax, hfinish⟩
        exact ⟨_, schedule_eq_ok.mpr (ctx.exists_iff.mpr
          ⟨delay, finish, ⟨hdelay, hauthority, hstate, hunset, hmin, hmax, hfinish⟩, rfl⟩)⟩
  | finalizeRound metrics =>
      refine (ctx.succeeds_iff fun _ => finalize_eq_ok).trans ?_
      exact and_iff_right hauthority
  | cancelRound =>
      refine (ctx.succeeds_iff fun _ => cancel_eq_ok).trans ?_
      exact and_iff_right hauthority
  | closeRound =>
      constructor
      · rintro ⟨L', hok⟩
        rcases ctx.exists_iff.mp (close_eq_ok.mp hok) with ⟨credited, ⟨-, hterminal, -, hcredit⟩, -⟩
        exact ⟨hterminal, credited, hcredit⟩
      · rintro ⟨hterminal, credited, hcredit⟩
        exact ⟨_, close_eq_ok.mpr (ctx.exists_iff.mpr
          ⟨credited, ⟨hauthority, hterminal, hwritable, hcredit⟩, rfl⟩)⟩
  | _ => cases hadmin

/-- What the builder of the administrative instructions makes. -/
theorem adminRoundInstruction_agrees (rt : Runtime) (authority poolKey roundKey : Pubkey)
    {instruction : CoordinationInstruction} (hadmin : instruction.isAdmin = true) :
    Agrees rt (adminRoundInstruction rt.programId authority poolKey roundKey instruction)
      instruction
      (fun L pool round => PoolAt rt L poolKey pool ∧ pool.authority = authority ∧
        RoundAt rt L roundKey round ∧ round.pool = poolKey)
      (fun slot L pool round => AdminGuards L slot authority roundKey pool round instruction) := by
  have hdecodes := CoordinationInstruction.tryFromSlice_encode instruction
  have hwrites : instruction.writes = [2] := by
    cases instruction <;> first | rfl | cases hadmin
  have hcovers : (adminRoundInstruction rt.programId authority poolKey roundKey
      instruction).CoversWrites instruction := by
    simp [Instruction.CoversWrites, hwrites, adminRoundInstruction, AccountMeta.new]
  have hsigned : ((adminRoundInstruction rt.programId authority poolKey roundKey
      instruction).accountInfo (.new authority true)).isSigner = true :=
    Instruction.isSigner_accountInfo (List.mem_cons_self) rfl
  refine ⟨rfl, hdecodes, fun _ hposition _ => hcovers.isWritable hposition, ?_, ?_⟩
  · intro L call hsends
    rw [hsends.execute_eq hdecodes hcovers]
    exact dispatch_avoids hadmin (hsends.account_at rfl) (hsends.account_at rfl)
      (hsends.account_at rfl) hsigned
  · rintro L call pool round hsends ⟨hpool, hauthority, hround, hown⟩
    rw [hsends.execute_eq hdecodes hcovers]
    have ctx : AdminContext rt L call.accounts ⟨_, _, _⟩ pool round :=
      ⟨hsends.account_at rfl, hsends.account_at rfl, hsends.account_at rfl, hsigned, hpool.owned,
        hround.owned, hpool.read, hround.read⟩
    exact ctx.dispatch_iff hadmin hauthority hown
      (Instruction.isWritable_accountInfo List.mem_cons_self (Eq.refl true))

/-! ## Creations -/

/-- An address can take a new record: it is a blank program account with enough
room, or it is unused and holds no lamports, and the payer can pay. -/
def CanAllocate (rt : Runtime) (L : Ledger) (payer target : Pubkey) (space width : Nat) : Prop :=
  ((L target).owner = rt.programId ∧ (L target).data.head?.getD 0 = 0 ∧
    width ≤ (L target).data.length) ∨
  (systemProgramId ≠ rt.programId ∧
    ((L payer).owner = systemProgramId ∧ (L payer).data = []) ∧
    rt.minimumBalance space ≤ (L payer).lamports ∧
    ((L target).owner = systemProgramId ∧ (L target).data = []) ∧ (L target).lamports = 0)

/-- A derived address is allocated for a signing payer exactly when it can take
the record. -/
theorem canAllocate_iff {call : Call rt} {payer target system : AccountInfo} {space width : Nat}
    {seeds : List (List UInt8)} (hspace : space ≤ 10240) (hwidth : width ≤ space)
    (hpayer : call.accounts[0]? = some payer) (hsigned : payer.isSigner = true)
    (hpayerWritable : payer.isWritable = true) (hwritable : target.isWritable = true)
    (hsystem : system.key = systemProgramId)
    (hderived : rt.createProgramAddress seeds rt.programId = some target.key) :
    (∃ L₁, createPdaAccount rt L payer target system space seeds = .ok L₁ ∧
      width ≤ (L₁ target.key).data.length) ↔
      CanAllocate rt L payer.key target.key space width := by
  constructor
  · rintro ⟨L₁, hcreate, hfits⟩
    rcases (createPdaAccount_eq_ok hspace).mp hcreate with
      ⟨howned, hblank, rfl⟩ | ⟨hother, -, hcreatable, -⟩
    · exact .inl ⟨howned, hblank, hfits⟩
    · exact .inr ⟨hcreatable.account_unused.1 ▸ hother, hcreatable.payer_wallet,
        hcreatable.payer_funded, hcreatable.account_unused, hcreatable.account_unfunded⟩
  · rintro (⟨howned, hblank, hfits⟩ | ⟨hother, hwallet, hfunded, hunused, hunfunded⟩)
    · exact ⟨L, (createPdaAccount_eq_ok hspace).mpr (.inl ⟨howned, hblank, rfl⟩), hfits⟩
    · have hcreation : PayableCreation rt L call.accounts payer target system space :=
        ⟨hpayer, hsigned, hsystem, hwallet, hfunded, hunused, hother⟩
      refine ⟨_, (hcreation.createPdaAccount_eq_ok hspace hderived hpayerWritable hwritable).mpr
        ⟨hunfunded, rfl⟩, ?_⟩
      rw [Ledger.createAccount_self, List.length_replicate]
      exact hwidth

/-- The same for the accounts that a builder asks for: the authority as a signing
payer, the writable target, and the System Program. -/
theorem Sends.canAllocate_iff {call : Call rt} {built : Instruction} {authority target : Pubkey}
    {position space width : Nat} {seeds : List (List UInt8)} (hsends : Sends call built)
    (hspace : space ≤ 10240) (hwidth : width ≤ space)
    (hauthority : built.accounts[0]? = some (.new authority true))
    (htarget : built.accounts[position]? = some (.new target false))
    (hderived : rt.createProgramAddress seeds rt.programId = some target) :
    (∃ L₁, createPdaAccount rt L (built.accountInfo (.new authority true))
        (built.accountInfo (.new target false))
        (built.accountInfo (.newReadonly systemProgramId false)) space seeds = .ok L₁ ∧
      width ≤ (L₁ target).data.length) ↔ CanAllocate rt L authority target space width := by
  have hmember := List.mem_of_getElem? hauthority
  have hsigned := Instruction.isSigner_accountInfo hmember rfl
  have hpayer := Instruction.isWritable_accountInfo hmember rfl
  have hwritable := Instruction.isWritable_accountInfo (List.mem_of_getElem? htarget) rfl
  exact MirrorPool.canAllocate_iff hspace hwidth (hsends.account_at hauthority) hsigned hpayer
    hwritable rfl hderived

/-- The guards of a pool initialization at the given address. -/
def InitializeGuards (rt : Runtime) (L : Ledger) (authority address : Pubkey)
    (minParticipants maxParticipants : UInt32)
    (minReleaseDelay maxReleaseDelay executionWindow : UInt64) : Prop :=
  (2 ≤ minParticipants ∧ minParticipants ≤ maxParticipants ∧
    maxParticipants ≤ maxCohortSize ∧ executionWindow ≠ 0 ∧ minReleaseDelay ≤ maxReleaseDelay) ∧
  CanAllocate rt L authority address poolAccountSize 140

/-- What the builder of pools makes. -/
theorem initializePoolInstruction_agrees {finder : AddressFinder rt} (hsystem : SystemErrors rt)
    {authority address : Pubkey} {poolId templateHash : Bytes32} {min max : UInt32}
    {minDelay maxDelay window : UInt64} {backend : Backend} {built : Instruction}
    (hbuilt : initializePoolInstruction finder rt.programId authority poolId templateHash min max
      minDelay maxDelay window backend = some (built, address)) :
    ∃ bump, Agrees rt built
      (.initializePool poolId templateHash min max minDelay maxDelay window backend bump)
      (fun _ _ _ => True)
      (fun _ L _ _ =>
        InitializeGuards rt L authority address min max minDelay maxDelay window) := by
  rcases Option.bind_eq_some_iff.mp hbuilt with ⟨⟨pool, bump⟩, hfind, hreturn⟩
  rcases Prod.mk.inj (Option.some.inj hreturn) with ⟨hinstruction, rfl⟩
  have hderived : rt.createProgramAddress (Runtime.poolSeeds poolId bump) rt.programId =
      some pool := finder.find_eq_some hfind
  have haccounts : built.accounts =
      [.new authority true, .new pool false, .newReadonly systemProgramId false] := by
    rw [← hinstruction]
  have hdata : built.data = (CoordinationInstruction.initializePool poolId templateHash min max
      minDelay maxDelay window backend bump).encode := by
    rw [← hinstruction]
  have hdecodes : CoordinationInstruction.tryFromSlice built.data = some (.initializePool poolId
      templateHash min max minDelay maxDelay window backend bump) := by
    rw [hdata, CoordinationInstruction.tryFromSlice_encode]
  have hauthority : built.accounts[0]? = some (.new authority true) := by rw [haccounts]; rfl
  have hpool : built.accounts[1]? = some (.new pool false) := by rw [haccounts]; rfl
  have hprogram : built.accounts[2]? = some (.newReadonly systemProgramId false) := by
    rw [haccounts]; rfl
  have hsigned := Instruction.isSigner_accountInfo (List.mem_of_getElem? hauthority) rfl
  have hpayer := Instruction.isWritable_accountInfo (List.mem_of_getElem? hauthority) rfl
  have hwritable := Instruction.isWritable_accountInfo (List.mem_of_getElem? hpool) rfl
  have hcovers : built.CoversWrites (.initializePool poolId templateHash min max minDelay maxDelay
      window backend bump) := by
    simp [Instruction.CoversWrites, CoordinationInstruction.writes, haccounts, AccountMeta.new]
  refine ⟨bump, by rw [← hinstruction], hdecodes,
    fun _ hposition _ => hcovers.isWritable hposition, ?_, ?_⟩
  · intro L call hsends
    rw [hsends.execute_eq hdecodes hcovers]
    exact initializePool_avoids hsystem (hsends.account_at hauthority) (hsends.account_at hpool)
      (hsends.account_at hprogram) hsigned hpayer hwritable hderived
  · intro L call _ _ hsends _
    rw [hsends.execute_eq hdecodes hcovers]
    have hpolicy : (2 ≤ min ∧ min ≤ max ∧ max ≤ maxCohortSize ∧ window ≠ 0 ∧
        minDelay ≤ maxDelay) ↔
        ¬(min < 2 ∨ max < min ∨ maxCohortSize < max ∨ window = 0 ∨ maxDelay < minDelay) := by
      simp only [not_or, UInt32.not_lt, UInt64.not_lt, ne_eq]
    rw [InitializeGuards, hpolicy,
      ← hsends.canAllocate_iff (by decide) (by decide) hauthority hpool hderived]
    simp only [dispatch, initializePool_eq_ok]
    constructor
    · rintro ⟨_, _, _, _, L₁, hguards, hauthority', hpool', hprogram', -, -, hcreate, hfits, -⟩
      rcases Option.some.inj (hauthority'.symm.trans (hsends.account_at hauthority)) with rfl
      rcases Option.some.inj (hpool'.symm.trans (hsends.account_at hpool)) with rfl
      rcases Option.some.inj (hprogram'.symm.trans (hsends.account_at hprogram)) with rfl
      exact ⟨hguards, L₁, hcreate, hfits⟩
    · rintro ⟨hguards, L₁, hcreate, hfits⟩
      exact ⟨_, _, _, _, L₁, hguards, hsends.account_at hauthority, hsends.account_at hpool,
        hsends.account_at hprogram, hsigned, hderived, hcreate, hfits, rfl⟩

/-- The guards of a round opening at the given address. -/
def OpenGuards (rt : Runtime) (slot : UInt64) (L : Ledger) (authority address : Pubkey)
    (pool : PoolAccount) (roundId registrationDeadline : UInt64) (templateHash : Bytes32) : Prop :=
  (pool.paused = false ∧ pool.nextRound = roundId ∧ pool.templateHash = templateHash ∧
    slot < registrationDeadline ∧ ∃ nextRound, add64 pool.nextRound 1 = some nextRound) ∧
  CanAllocate rt L authority address roundAccountSize 167

/-- What the builder of rounds makes. -/
theorem openRoundInstruction_agrees {finder : AddressFinder rt} (hsystem : SystemErrors rt)
    {authority poolKey address : Pubkey} {roundId deadline : UInt64} {template : Bytes32}
    {built : Instruction}
    (hbuilt : openRoundInstruction finder rt.programId authority poolKey roundId deadline template =
      some (built, address)) :
    ∃ bump, Agrees rt built (.openRound roundId deadline template bump)
      (fun L pool _ => PoolAt rt L poolKey pool ∧ pool.authority = authority)
      (fun slot L pool _ =>
        OpenGuards rt slot L authority address pool roundId deadline template) := by
  rcases Option.bind_eq_some_iff.mp hbuilt with ⟨⟨round, bump⟩, hfind, hreturn⟩
  rcases Prod.mk.inj (Option.some.inj hreturn) with ⟨hinstruction, rfl⟩
  have hderived : rt.createProgramAddress (Runtime.roundSeeds poolKey roundId bump) rt.programId =
      some round := finder.find_eq_some hfind
  have haccounts : built.accounts = [.new authority true, .new poolKey false, .new round false,
      .newReadonly systemProgramId false] := by
    rw [← hinstruction]
  have hdata : built.data =
      (CoordinationInstruction.openRound roundId deadline template bump).encode := by
    rw [← hinstruction]
  have hdecodes : CoordinationInstruction.tryFromSlice built.data =
      some (.openRound roundId deadline template bump) := by
    rw [hdata, CoordinationInstruction.tryFromSlice_encode]
  have hauthority : built.accounts[0]? = some (.new authority true) := by rw [haccounts]; rfl
  have hpool : built.accounts[1]? = some (.new poolKey false) := by rw [haccounts]; rfl
  have hround : built.accounts[2]? = some (.new round false) := by rw [haccounts]; rfl
  have hprogram : built.accounts[3]? = some (.newReadonly systemProgramId false) := by
    rw [haccounts]; rfl
  have hsigned := Instruction.isSigner_accountInfo (List.mem_of_getElem? hauthority) rfl
  have hpayer := Instruction.isWritable_accountInfo (List.mem_of_getElem? hauthority) rfl
  have hwritable := Instruction.isWritable_accountInfo (List.mem_of_getElem? hround) rfl
  have hcovers : built.CoversWrites (.openRound roundId deadline template bump) := by
    simp [Instruction.CoversWrites, CoordinationInstruction.writes, haccounts, AccountMeta.new]
  refine ⟨bump, by rw [← hinstruction], hdecodes,
    fun _ hposition _ => hcovers.isWritable hposition, ?_, ?_⟩
  · intro L call hsends
    rw [hsends.execute_eq hdecodes hcovers]
    exact openRound_avoids hsystem (hsends.account_at hauthority) (hsends.account_at hpool)
      (hsends.account_at hround) (hsends.account_at hprogram) hsigned hpayer hwritable hderived
  · rintro L call pool _ hsends ⟨hpoolAt, hkey⟩
    rw [hsends.execute_eq hdecodes hcovers]
    rw [OpenGuards, ← hsends.canAllocate_iff (by decide) (by decide) hauthority hround hderived]
    simp only [dispatch, openRound_eq_ok]
    constructor
    · rintro ⟨_, _, _, _, _, _, nextRound, L₁, hauthority', hpool', hround', hprogram', -, -, hread,
        -, hunpaused, hnext, htemplate, hfuture, -, hcreate, hcounter, -, hfits, -⟩
      rcases Option.some.inj (hauthority'.symm.trans (hsends.account_at hauthority)) with rfl
      rcases Option.some.inj (hpool'.symm.trans (hsends.account_at hpool)) with rfl
      rcases Option.some.inj (hround'.symm.trans (hsends.account_at hround)) with rfl
      rcases Option.some.inj (hprogram'.symm.trans (hsends.account_at hprogram)) with rfl
      rcases Option.some.inj (hread.symm.trans hpoolAt.read) with rfl
      exact ⟨⟨hunpaused, hnext, htemplate, hfuture, nextRound, hcounter⟩, L₁, hcreate, hfits⟩
    · rintro ⟨⟨hunpaused, hnext, htemplate, hfuture, nextRound, hcounter⟩, L₁, hcreate, hfits⟩
      have hpoolFits : 140 ≤ (L₁ poolKey).data.length := by
        rw [createPdaAccount_owned (by decide) hcreate hpoolAt.owned]
        exact PoolAccount.codec.width_le_of_read hpoolAt.read
      exact ⟨_, _, _, _, _, pool, nextRound, L₁, hsends.account_at hauthority,
        hsends.account_at hpool, hsends.account_at hround, hsends.account_at hprogram, hsigned,
        hpoolAt.owned, hpoolAt.read, hkey, hunpaused, hnext, htemplate, hfuture, hderived, hcreate,
        hcounter, hpoolFits, hfits, rfl⟩

/-! ## The four builders -/

/-- For every program, authority, and parameter, the four builders agree with
the processor. -/
theorem builders_agree (finder : AddressFinder rt) (hsystem : SystemErrors rt)
    (authority : Pubkey) :
    (∀ poolId templateHash min max minDelay maxDelay window backend built address,
      initializePoolInstruction finder rt.programId authority poolId templateHash min max minDelay
        maxDelay window backend = some (built, address) →
      ∃ bump, Agrees rt built
        (.initializePool poolId templateHash min max minDelay maxDelay window backend bump)
        (fun _ _ _ => True)
        (fun _ L _ _ =>
          InitializeGuards rt L authority address min max minDelay maxDelay window)) ∧
    (∀ poolKey roundId deadline template built address,
      openRoundInstruction finder rt.programId authority poolKey roundId deadline template =
        some (built, address) →
      ∃ bump, Agrees rt built (.openRound roundId deadline template bump)
        (fun L pool _ => PoolAt rt L poolKey pool ∧ pool.authority = authority)
        (fun slot L pool _ =>
          OpenGuards rt slot L authority address pool roundId deadline template)) ∧
    (∀ poolKey roundKey (instruction : CoordinationInstruction), instruction.isAdmin = true →
      Agrees rt (adminRoundInstruction rt.programId authority poolKey roundKey instruction)
        instruction
        (fun L pool round => PoolAt rt L poolKey pool ∧ pool.authority = authority ∧
          RoundAt rt L roundKey round ∧ round.pool = poolKey)
        (fun slot L pool round =>
          AdminGuards L slot authority roundKey pool round instruction)) ∧
    ∀ roundKey, Agrees rt (beginWindowInstruction rt.programId roundKey) .beginExecutionWindow
      (fun L _ round => RoundAt rt L roundKey round)
      (fun slot _ _ round => WindowGuards slot round) := by
  refine ⟨?_, ?_, ?_, ?_⟩
  · intro poolId templateHash min max minDelay maxDelay window backend built address hbuilt
    exact initializePoolInstruction_agrees hsystem hbuilt
  · intro poolKey roundId deadline template built address hbuilt
    exact openRoundInstruction_agrees hsystem hbuilt
  · intro poolKey roundKey instruction hadmin
    exact adminRoundInstruction_agrees rt authority poolKey roundKey hadmin
  · intro roundKey
    exact beginWindowInstruction_agrees rt roundKey

/-- The search on the small chain, which tries the highest bump only. -/
def demoFinder : AddressFinder demoRuntime where
  findProgramAddress seeds programId :=
    (demoRuntime.createProgramAddress (seeds ++ [[255]]) programId).map fun key => (key, 255)
  find_eq_some hfind := by
    rcases Option.map_eq_some_iff.mp hfind with ⟨key, hkey, hpair⟩
    rcases Prod.mk.inj hpair with ⟨rfl, rfl⟩
    exact hkey

/-- The System Program of the small chain reports its own errors only. -/
theorem demoRuntime_systemErrors : SystemErrors demoRuntime := by
  intro L payer account lamports space owner seeds error _ _ _ _ herror
  simp only [demoRuntime, tableRuntime] at herror
  split at herror
  · contradiction
  · exact ⟨0, (Except.error.inj herror).symm⟩

/-- The instruction that opens the first round, as it is built. -/
def demoBuiltOpen : Instruction where
  programId := demoKey 200
  accounts :=
    [.new (demoKey 101) true, .new (demoKey 11) false, .new (demoKey 21) false,
      .newReadonly systemProgramId false]
  data := (CoordinationInstruction.openRound 0 100 (demoKey 50) 255).encode

/-- The built opening of the first round runs through. -/
theorem builders_agree_demo :
    Sends demoOpen demoBuiltOpen ∧
      ∃ L', execute demoRuntime (ledgerAfter demoRuntime demoLedger [demoInitialize]) demoOpen =
        .ok L' := by
  have hbuilt : openRoundInstruction demoFinder demoRuntime.programId (demoKey 101) (demoKey 11) 0
      100 (demoKey 50) = some (demoBuiltOpen, demoKey 21) := by
    decide +kernel
  have hsends : Sends demoOpen demoBuiltOpen := ⟨by decide, rfl⟩
  have hpool : PoolAt demoRuntime (ledgerAfter demoRuntime demoLedger [demoInitialize]) (demoKey 11)
      { demoPoolAccount with nextRound := 0 } :=
    ⟨by decide +kernel, by decide +kernel⟩
  have hagree := builders_agree demoFinder demoRuntime_systemErrors (demoKey 101)
  rcases hagree.2.1 _ _ _ _ _ _ hbuilt with ⟨bump, hopen⟩
  have hsucceeds := hopen.succeeds _ _ _ (.fresh (demoKey 11) 0 100 (demoKey 50) 255) hsends
    ⟨hpool, rfl⟩
  refine ⟨hsends, hsucceeds.mpr ?_⟩
  refine ⟨⟨rfl, rfl, rfl, by decide, 1, rfl⟩, .inr ?_⟩
  decide +kernel

end MirrorPool
