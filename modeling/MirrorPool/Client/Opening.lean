import MirrorPool.Core.Rounds

/-!
# Opening a round

The command line opens a round from a validated configuration: registration is
open, nobody is registered, and neither the root nor the release is set.

Main results:

- Definition {lit}`RoundCommand.openRound`: the record of a new round.
- Theorem {lit}`RoundCommand.openRound_eq_ok`: when a round is opened.
-/

namespace MirrorPool

open Fallible

variable {D : Type} [Inhabited D] [DecidableEq D]

/-- Failures of the participant's client. -/
inductive ClientError where
  | ticket
  | merkle
  | configuration
  | executionDisabled
  | unsupportedAction
  | invalidProgram
  | outsideExecutionWindow
  | safetyPolicy
  | wallet
  | rpc
  | serialization
deriving DecidableEq, Repr

/-- Verify fetched state against participant intent. -/
def verifyRoundConfiguration (h : Blake3 D) (pool : PoolConfig D) (round : Round D) :
    Except ClientError Unit := do
  (pool.validate h).mapError fun _ => ClientError.configuration
  failIf (pool.poolId ≠ round.poolId ∨ pool.actionTemplateHash ≠ round.actionTemplateHash ∨
    pool.privacyBackend ≠ round.privacyBackend) .configuration

namespace RoundCommand

/-- Failures of the command that opens a round. -/
inductive OpenError where
  | protocol (error : ProtocolError)
  | deadlineOverflow
  | client (error : ClientError)
deriving DecidableEq, Repr

/-- The record of a round at its opening. -/
def openedRound (config : PoolConfig D) (roundId slot deadline : UInt64) : Round D where
  poolId := config.poolId
  roundId := roundId
  state := .registration
  registrationStartSlot := slot
  registrationDeadlineSlot := deadline
  releaseSlot := none
  executionWindowStart := none
  executionWindowEnd := none
  expectedCohortSize := config.minParticipants
  acceptedCohortSize := 0
  cohortMerkleRoot := none
  actionTemplateHash := config.actionTemplateHash
  privacyBackend := config.privacyBackend
  cancellationReason := none
  finalMetricsHash := none

/-- Open a round at a slot that was given or read. -/
def openRound (h : Blake3 D) (config : PoolConfig D) (roundId slot : UInt64) :
    Except OpenError (Round D) := do
  (config.validate h).mapError .protocol
  let deadline ← okOr (add64 slot config.registrationDurationSlots) .deadlineOverflow
  let value := openedRound config roundId slot deadline
  (verifyRoundConfiguration h config value).mapError .client
  return value

/-- A round is opened from a valid configuration, unless its deadline would
overflow. -/
theorem openRound_eq_ok {h : Blake3 D} {config : PoolConfig D} {roundId slot : UInt64}
    {round : Round D} :
    openRound h config roundId slot = .ok round ↔
      config.validate h = .ok () ∧ ∃ deadline,
        add64 slot config.registrationDurationSlots = some deadline ∧
          round = openedRound config roundId slot deadline := by
  simp only [openRound, verifyRoundConfiguration, bind_eq_ok, mapError_eq_ok, okOr_eq_ok,
    failIf_eq_ok, pure_eq_ok, exists_const, openedRound, ne_eq, not_true_eq_false, or_self,
    not_false_eq_true, and_true]
  constructor
  · rintro ⟨_, hvalid, deadline, hdeadline, -, rfl⟩
    exact ⟨hvalid, deadline, hdeadline, rfl⟩
  · rintro ⟨hvalid, deadline, hdeadline, rfl⟩
    exact ⟨(), hvalid, deadline, hdeadline, ⟨(), hvalid⟩, rfl⟩

end RoundCommand

end MirrorPool
