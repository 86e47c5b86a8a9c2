import MirrorPool.Client.RoundPlans
import MirrorPool.Program.Lamports
import MirrorPool.Program.ReleaseWindow

/-!
# Rounds that are given up

A round need not come to its end: its window may pass before anybody begins it,
or its authority may want the lamports of its account back.  A missed window is
final, and the only way out is to cancel.  Until the account is closed, two built
instructions of the authority always get its balance back, wherever the round
stands.

Main results:

- Definition {lit}`recoveryInstructions`: the instructions that end a round.
- Theorem {lit}`missed_window_final`: a round that missed its window is never
  changed again but by cancelling it.
- Theorem {lit}`recovery_possible`: the balance of a round can be recovered at
  every point of its life.
-/

namespace MirrorPool

variable {rt : Runtime} {L : Ledger} {a : Pubkey}

/-! ## Missed windows -/

section MissedWindow

variable {call : Call rt} {instruction : CoordinationInstruction} {round round' : RoundAccount}

/-- After its window, a scheduled round can only be cancelled. -/
theorem RoundStep.after_window (hstep : RoundStep rt L call instruction round round')
    (hstate : round.state = .releaseScheduled) (hlate : round.windowEndSlot < call.slot) :
    instruction = .cancelRound ∧ round' = { round with state := .cancelled } := by
  cases hstep with
  | registered _ _ _ state =>
      rw [hstate] at state
      exact absurd state (by decide)
  | cancelled => exact ⟨rfl, rfl⟩
  | published _ _ _ _ state => exact absurd (hstate.symm.trans state) (by decide)
  | sealed _ _ _ state => exact absurd (hstate.symm.trans state) (by decide)
  | scheduled _ _ state => exact absurd (hstate.symm.trans state) (by decide)
  | begun _ _ inWindow => exact absurd inWindow (UInt64.not_le.mpr hlate)
  | finalized _ _ state => exact absurd (hstate.symm.trans state) (by decide)

/-- A round that is as it was, or the same round cancelled. -/
def RoundAccount.KeptOrCancelled (round round' : RoundAccount) : Prop :=
  round' = round ∨ round' = { round with state := .cancelled }

/-- A call after the window keeps the round, or cancels it. -/
theorem RoundAccount.KeptOrCancelled.visit {missed : RoundAccount} {v : CallVisit rt}
    {calls : List (Call rt)} (hv : v ∈ history rt L calls)
    (hmissed : missed.state = .releaseScheduled) (hlate : missed.windowEndSlot < v.input.slot)
    (hround : missed.KeptOrCancelled round) (hvisit : RoundVisit v a round round') :
    missed.KeptOrCancelled round' ∧ (ranOn v a = none ∨ ranOn v a = some .cancelRound) := by
  rcases hvisit.step hv with ⟨-, rfl, hnone⟩ | ⟨instruction, hran, hstep⟩
  · exact ⟨hround, Or.inl hnone⟩
  · rcases hround with rfl | rfl
    · rcases hstep.after_window hmissed hlate with ⟨rfl, rfl⟩
      exact ⟨Or.inr rfl, Or.inr hran⟩
    · exact absurd (Or.inr (Or.inl rfl)) hstep.not_terminal

/-- The same over calls all of which come after the window. -/
theorem RoundAccount.KeptOrCancelled.run {missed : RoundAccount} {late : List (Call rt)}
    (hmissed : missed.state = .releaseScheduled)
    (hlate : ∀ call ∈ late, missed.windowEndSlot < call.slot)
    (hround : missed.KeptOrCancelled round) (hlive : LiveRound rt L a round)
    (hopen : ∀ v ∈ history rt L late, ¬Closes v a) :
    (∃ last, LiveRound rt (ledgerAfter rt L late) a last ∧ missed.KeptOrCancelled last) ∧
      ∀ v ∈ history rt L late, ranOn v a = none ∨ ranOn v a = some .cancelRound := by
  induction late generalizing L round with
  | nil => exact ⟨⟨round, hlive, hround⟩, by simp⟩
  | cons call late ih =>
      rw [forall_mem_history_cons] at hopen
      have hmem := callVisit_mem_history rt L call
      rcases hlive.visit hmem hopen.1 with ⟨next, hnext, hvisit⟩
      have hslot := hlate call List.mem_cons_self
      rcases hround.visit hmem hmissed hslot hvisit with ⟨hkept, hran⟩
      rcases ih (fun later hlater => hlate later (List.mem_cons_of_mem _ hlater)) hkept hnext
        hopen.2 with ⟨hlast, hrest⟩
      refine ⟨hlast, ?_⟩
      rw [forall_mem_history_cons]
      exact ⟨hran, hrest⟩

end MissedWindow

/-- A round that misses its window never executes and never completes: while the
calls that come after the window do not close it, it is left as it is or
cancelled, whoever sends them. -/
theorem missed_window_final (hgenesis : Genesis rt L) (before life late : List (Call rt))
    (opening : Call rt) (hopens : Opens (callVisit rt (ledgerAfter rt L before) opening) a)
    (hopen : ∀ v ∈ history rt (ledgerAfter rt L (before ++ [opening])) (life ++ late),
      ¬Closes v a)
    {missed : RoundAccount}
    (hmissed : RoundAt rt (ledgerAfter rt L (before ++ opening :: life)) a missed)
    (hstate : missed.state = .releaseScheduled)
    (hlate : ∀ call ∈ late, missed.windowEndSlot < call.slot) :
    (∃ last, RoundAt rt (ledgerAfter rt L (before ++ opening :: (life ++ late))) a last ∧
      missed.KeptOrCancelled last) ∧
      ∀ v ∈ history rt (ledgerAfter rt L (before ++ opening :: life)) late,
        ranOn v a = none ∨ ranOn v a = some .cancelRound := by
  rcases hopens.live (consistent_of_genesis hgenesis before).1 with ⟨opened, -, hlive, -⟩
  rw [← ledgerAfter_concat] at hlive
  have hsplit : history rt (ledgerAfter rt L (before ++ [opening])) (life ++ late) =
      history rt (ledgerAfter rt L (before ++ [opening])) life ++
        history rt (ledgerAfter rt L (before ++ opening :: life)) late := by
    rw [ledgerAfter_append_cons before life opening]
    exact Runs.visits_append ..
  rw [hsplit] at hopen
  rcases hlive.run fun v hv => hopen v (List.mem_append_left _ hv) with ⟨now, hnow, -⟩
  rw [← ledgerAfter_append_cons] at hnow
  rcases hnow.toRoundAt.unique hmissed with rfl
  rcases RoundAccount.KeptOrCancelled.run hstate hlate (Or.inl rfl) hnow
    fun v hv => hopen v (List.mem_append_right _ hv) with ⟨⟨last, hlast, hkept⟩, hran⟩
  refine ⟨⟨last, ?_, hkept⟩, hran⟩
  have hlater : ledgerAfter rt L (before ++ opening :: (life ++ late)) =
      ledgerAfter rt (ledgerAfter rt L (before ++ opening :: life)) late := by
    rw [← ledgerAfter_append]
    simp
  rw [hlater]
  exact hlast.toRoundAt

/-- The round of the small chain with its release scheduled. -/
def demoScheduledRound : RoundAccount :=
  { RoundAccount.fresh (demoKey 11) 0 100 (demoKey 50) 255 with
    state := .releaseScheduled, acceptedCount := 2, releaseSlot := 20, windowEndSlot := 40 }

/-- The window is begun one slot too late, and the round is cancelled. -/
def demoMissingCalls : List (Call demoRuntime) :=
  [tableCall 41 [demoAccount 21] .beginExecutionWindow demoBegin_signers,
    tableCall 42 demoAdmin .cancelRound demoAdmin_signers]

/-- The chain with the scheduled round, and the calls of its life.  One evaluation
of the chain gives all of this. -/
theorem demoMissing_evaluated :
    ((ledgerAfter demoRuntime demoLedger (demoInitialize :: demoOpen :: demoScheduling)
        (demoKey 21)).owner = demoRuntime.programId ∧
      RoundAccount.codec.read (ledgerAfter demoRuntime demoLedger
        (demoInitialize :: demoOpen :: demoScheduling) (demoKey 21)).data =
          some demoScheduledRound) ∧
      ∀ v ∈ history demoRuntime (ledgerAfter demoRuntime demoLedger [demoInitialize, demoOpen])
        (demoScheduling ++ demoMissingCalls), ran v ≠ some .closeRound := by
  decide +kernel

theorem missed_window_final_demo :
    (∃ last, RoundAt demoRuntime (ledgerAfter demoRuntime demoLedger
        (demoInitialize :: demoOpen :: (demoScheduling ++ demoMissingCalls))) (demoKey 21) last ∧
      demoScheduledRound.KeptOrCancelled last) ∧
      ∀ v ∈ history demoRuntime (ledgerAfter demoRuntime demoLedger
          (demoInitialize :: demoOpen :: demoScheduling)) demoMissingCalls,
        ranOn v (demoKey 21) = none ∨ ranOn v (demoKey 21) = some .cancelRound := by
  rcases demoMissing_evaluated with ⟨⟨howned, hread⟩, hopen⟩
  exact missed_window_final demoLedger_genesis [demoInitialize] demoScheduling demoMissingCalls
    demoOpen demoOpen_opens (fun v hv => not_closes_of_ran hv (hopen v hv)) ⟨howned, hread⟩ rfl
    (by decide)

/-! ## Recovery -/

/-- The instructions that end a round and give its balance back: a round in no
terminal state is cancelled first. -/
def recoveryInstructions (state : State) : List CoordinationInstruction :=
  if state.IsTerminal then [.closeRound] else [.cancelRound, .closeRound]

/-- The account of a round is emptied and zeroed, its balance is with the
authority, and nothing else changed. -/
structure Recovered (L L' : Ledger) (authority a : Pubkey) : Prop where
  emptied : (L' a).lamports = 0
  zeroed : (L' a).data = List.replicate (L a).data.length 0
  credited : (L' authority).lamports.toNat =
    (L authority).lamports.toNat + (L a).lamports.toNat
  others : ∀ b, b ≠ authority → b ≠ a → L' b = L b

section Recovery

variable {L' : Ledger} {call : Call rt} {poolKey : Pubkey} {pool : PoolAccount}
variable {round : RoundAccount}

/-- The authority of a built administrative instruction signs. -/
theorem Sends.authority_signed {instruction : CoordinationInstruction}
    (hsends : Sends call
      (adminRoundInstruction rt.programId pool.authority poolKey a instruction)) :
    SignedBy call.accounts pool.authority :=
  ⟨_, hsends.account_at rfl, Instruction.isSigner_accountInfo List.mem_cons_self rfl, rfl⟩

/-- The authority that ends a live round is not the round, which has a derived
address. -/
theorem LiveRound.authority_ne (hlive : LiveRound rt L a round)
    (hsigned : SignedBy call.accounts pool.authority) : pool.authority ≠ a := by
  intro hsame
  rw [hsame] at hsigned
  exact not_signedBy_of_isDerived hlive.isDerived hsigned

/-- Neither is the round its own pool: read as a pool, it would have its pool as
authority. -/
theorem LiveRound.pool_ne (hlive : LiveRound rt L a round) (hpool : PoolAt rt L poolKey pool)
    (hsigned : SignedBy call.accounts pool.authority) : poolKey ≠ a := by
  rintro rfl
  rcases pool_authority_eq_round_pool hpool.read hlive.read with ⟨-, hkey⟩
  rw [hkey] at hsigned
  exact not_signedBy_of_isDerived hlive.pool_derived hsigned

/-- The authority cancels a round in no terminal state. -/
theorem execute_cancel (hpool : PoolAt rt L poolKey pool) (hround : RoundAt rt L a round)
    (hlive : ¬round.state.IsTerminal)
    (hsends : Sends call
      (adminRoundInstruction rt.programId pool.authority poolKey a .cancelRound)) :
    execute rt L call = .ok (L.setRound a { round with state := .cancelled }) := by
  refine execute_admin rfl hpool hround hsends ?_
  rintro admin hauthority - rfl ctx -
  exact cancel_eq_ok.mpr ⟨admin, pool, round, ctx, ⟨hauthority.symm, hlive⟩, rfl⟩

/-- The authority closes a round in a terminal state. -/
theorem execute_close (hpool : PoolAt rt L poolKey pool) (hround : RoundAt rt L a round)
    (hterminal : round.state.IsTerminal) (hne : pool.authority ≠ a)
    (hroom : (L pool.authority).lamports.toNat + (L a).lamports.toNat < 2 ^ 64)
    (hsends : Sends call
      (adminRoundInstruction rt.programId pool.authority poolKey a .closeRound)) :
    ∃ L', execute rt L call = .ok L' ∧ Recovered L L' pool.authority a := by
  have hcredited : ((L pool.authority).lamports + (L a).lamports).toNat =
      (L pool.authority).lamports.toNat + (L a).lamports.toNat := by
    rw [UInt64.toNat_add, Nat.mod_eq_of_lt hroom]
  refine ⟨L.closeRound pool.authority a ((L pool.authority).lamports + (L a).lamports), ?_, ?_⟩
  · refine execute_admin rfl hpool hround hsends ?_
    rintro admin hauthority - rfl ctx hwritable
    rw [← hauthority] at hcredited ⊢
    exact close_eq_ok.mpr ⟨admin, pool, round, ctx, _,
      ⟨hauthority.symm, hterminal, hwritable, hcredited⟩, rfl⟩
  · refine ⟨?_, ?_, ?_, fun b hauthority hb => ?_⟩
    · rw [Ledger.closeRound, (Ledger.setData_frame ..).2, Ledger.setLamports_self]
    · rw [Ledger.closeRound, Ledger.setData_self]
    · rw [Ledger.closeRound, Ledger.setData_of_ne _ _ hne, Ledger.setLamports_of_ne _ _ hne,
        Ledger.setLamports_self]
      exact hcredited
    · rw [Ledger.closeRound, Ledger.setData_of_ne _ _ hb, Ledger.setLamports_of_ne _ _ hb,
        Ledger.setLamports_of_ne _ _ hauthority]

/-- Writing a round before it is closed makes no difference to what is
recovered. -/
theorem Recovered.of_setRound {authority : Pubkey} (hne : authority ≠ a)
    (hfits : (L.setRound a round a).data.length = (L a).data.length)
    (hrecovered : Recovered (L.setRound a round) L' authority a) :
    Recovered L L' authority a where
  emptied := hrecovered.emptied
  zeroed := by rw [hrecovered.zeroed, hfits]
  credited := by
    have hbalance := congrFun (Ledger.balance_setRound (L := L) a round) a
    have hcredited := hrecovered.credited
    rw [Ledger.setRound_of_ne _ hne] at hcredited
    exact hcredited.trans (congrArg _ hbalance)
  others b hauthority hb := by
    rw [hrecovered.others b hauthority hb, Ledger.setRound_of_ne _ hb]

/-- The recovery instructions of a live round run through. -/
theorem LiveRound.recover (hlive : LiveRound rt L a round) (hpool : PoolAt rt L poolKey pool)
    (hroom : (L pool.authority).lamports.toNat + (L a).lamports.toNat < 2 ^ 64)
    {calls : List (Call rt)}
    (hcalls : List.Forall₂ (fun call instruction => Sends call
      (adminRoundInstruction rt.programId pool.authority poolKey a instruction))
      calls (recoveryInstructions round.state)) :
    ∃ L', executeAll rt L calls = .ok L' ∧ Recovered L L' pool.authority a := by
  by_cases hterminal : round.state.IsTerminal
  · rw [recoveryInstructions, if_pos hterminal] at hcalls
    rcases hcalls with _ | ⟨hclosing, hnil⟩
    cases hnil
    have hne := hlive.authority_ne hclosing.authority_signed
    rcases execute_close hpool hlive.toRoundAt hterminal hne hroom hclosing with
      ⟨L', hclosed, hrecovered⟩
    exact ⟨L', executeAll_cons hclosed rfl, hrecovered⟩
  · rw [recoveryInstructions, if_neg hterminal] at hcalls
    rcases hcalls with _ | ⟨hcancelling, hrest⟩
    rcases hrest with _ | ⟨hclosing, hnil⟩
    cases hnil
    have hsigned := hclosing.authority_signed
    have hne := hlive.authority_ne hsigned
    have hdistinct := hlive.pool_ne hpool hsigned
    have hcancelled := execute_cancel hpool hlive.toRoundAt hterminal hcancelling
    set cancelled : RoundAccount := { round with state := .cancelled } with hcancelledRound
    have hfits : (L.setRound a cancelled a).data.length = (L a).data.length := by
      rw [Ledger.setRound_self]
      exact Account.length_store (RoundAccount.codec.width_le_of_read hlive.read)
    have hpool' : PoolAt rt (L.setRound a cancelled) poolKey pool := by
      refine ⟨?_, ?_⟩
      · rw [Ledger.setRound_of_ne _ hdistinct]
        exact hpool.owned
      · rw [Ledger.setRound_of_ne _ hdistinct]
        exact hpool.read
    have hround' : RoundAt rt (L.setRound a cancelled) a cancelled := by
      refine ⟨?_, ?_⟩
      · rw [Ledger.setRound_self]
        exact hlive.owned
      · rw [Ledger.setRound_self]
        exact Account.read_store
    have hroom' : (L.setRound a cancelled pool.authority).lamports.toNat +
        (L.setRound a cancelled a).lamports.toNat < 2 ^ 64 := by
      rw [Ledger.setRound_of_ne _ hne, Ledger.setRound_self]
      exact hroom
    rcases execute_close hpool' hround' (Or.inr (Or.inl rfl)) hne hroom' hclosing with
      ⟨L', hclosed, hrecovered⟩
    exact ⟨L', executeAll_cons hcancelled (executeAll_cons hclosed rfl),
      hrecovered.of_setRound hne hfits⟩

end Recovery

/-- From the call that opens a round on, until its account is closed, the
recovery instructions of its state run through for the authority of its pool,
whatever happened in between: the account is emptied and zeroed, its balance is
with the authority, and no other account changes. -/
theorem recovery_possible (hgenesis : Genesis rt L) (before life : List (Call rt))
    (opening : Call rt) (hopens : Opens (callVisit rt (ledgerAfter rt L before) opening) a)
    (hopen : ∀ v ∈ history rt (ledgerAfter rt L (before ++ [opening])) life, ¬Closes v a) :
    ∃ round, RoundAt rt (ledgerAfter rt L (before ++ opening :: life)) a round ∧
      ∀ pool, PoolAt rt (ledgerAfter rt L (before ++ opening :: life)) round.pool pool →
        (ledgerAfter rt L (before ++ opening :: life) pool.authority).lamports.toNat +
          (ledgerAfter rt L (before ++ opening :: life) a).lamports.toNat < 2 ^ 64 →
        ∀ calls : List (Call rt), List.Forall₂ (fun call instruction => Sends call
            (adminRoundInstruction rt.programId pool.authority round.pool a instruction))
            calls (recoveryInstructions round.state) →
          ∃ L', executeAll rt (ledgerAfter rt L (before ++ opening :: life)) calls = .ok L' ∧
            Recovered (ledgerAfter rt L (before ++ opening :: life)) L' pool.authority a := by
  rcases hopens.live (consistent_of_genesis hgenesis before).1 with ⟨opened, -, hlive, -⟩
  rw [← ledgerAfter_concat] at hlive
  rcases hlive.run hopen with ⟨round, hround, -⟩
  rw [← ledgerAfter_append_cons] at hround
  exact ⟨round, hround.toRoundAt, fun pool hpool hroom calls hcalls =>
    hround.recover hpool hroom hcalls⟩

/-- The chain before the recovery. -/
abbrev demoRegistering : Ledger :=
  ledgerAfter demoRuntime demoLedger ([demoInitialize] ++ demoOpen :: [demoRegister])

/-- What it holds.  One evaluation of the chain gives all of this. -/
theorem demoRegistering_evaluated :
    ((demoRegistering (demoKey 21)).owner = demoRuntime.programId ∧
      RoundAccount.codec.read (demoRegistering (demoKey 21)).data = some
        { RoundAccount.fresh (demoKey 11) 0 100 (demoKey 50) 255 with acceptedCount := 1 }) ∧
      ((demoRegistering (demoKey 11)).owner = demoRuntime.programId ∧
        PoolAccount.codec.read (demoRegistering (demoKey 11)).data = some demoPoolAccount) ∧
      (demoRegistering demoPoolAccount.authority).lamports.toNat +
        (demoRegistering (demoKey 21)).lamports.toNat < 2 ^ 64 ∧
      ∀ v ∈ history demoRuntime (ledgerAfter demoRuntime demoLedger [demoInitialize, demoOpen])
        [demoRegister], ran v ≠ some .closeRound := by
  decide +kernel

theorem recovery_possible_demo :
    ∃ L', executeAll demoRuntime demoRegistering [demoCancel, demoClosing] = .ok L' ∧
      Recovered demoRegistering L' (demoKey 101) (demoKey 21) := by
  rcases demoRegistering_evaluated with ⟨⟨howned, hread⟩, ⟨hpoolOwned, hpoolRead⟩, hroom, hopen⟩
  rcases recovery_possible demoLedger_genesis [demoInitialize] [demoRegister] demoOpen
    demoOpen_opens fun v hv => not_closes_of_ran hv (hopen v hv) with ⟨round, hlast, hrecover⟩
  rcases RoundAt.unique ⟨howned, hread⟩ hlast with rfl
  unfold demoRegistering at hroom
  exact hrecover demoPoolAccount ⟨hpoolOwned, hpoolRead⟩ hroom [demoCancel, demoClosing]
    (.cons ⟨by decide, rfl⟩ <| .cons ⟨by decide, rfl⟩ .nil)

end MirrorPool
