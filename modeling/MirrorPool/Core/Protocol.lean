import Mathlib.Data.Finset.Defs
import Mathlib.Data.UInt

/-!
# Protocol domain types

The policy of a pool and the public state of one of its rounds, as the
off-chain services exchange and store them.  The on-chain accounts have types
of their own.

Main results:

- Structures {lit}`PoolConfig` and {lit}`Round`: the two records.
- Definition {lit}`RoundState.debugName`: the name of a state as it is printed.
-/

namespace MirrorPool

/-- Current wire schema version. -/
def schemaVersion : UInt16 := 1

/-- Implemented privacy coordination backends. -/
inductive PrivacyBackend where
  | transparentRegistry
  | merkleCohort
deriving DecidableEq, Repr

/-- Authority policy for pool administration. -/
inductive GovernancePolicy where
  | singleAuthority (authority : Vector UInt8 32)
deriving DecidableEq

/-- Whether and how completion may be reported. -/
inductive CompletionPolicy where
  | disabled
  | redactedReceipt
  | publicObservationOnly
deriving DecidableEq, Repr

/-- Supported cluster policies. -/
inductive Cluster where
  | localnet
  | devnet
  | testnet
  | mainnetBeta
deriving DecidableEq, Repr

/-- Validated immutable policy for a coordination pool. -/
structure PoolConfig (D : Type) where
  poolId : D
  version : UInt16
  governance : GovernancePolicy
  actionTemplateHash : D
  minParticipants : UInt32
  maxParticipants : UInt32
  registrationDurationSlots : UInt64
  minReleaseDelaySlots : UInt64
  maxReleaseDelaySlots : UInt64
  executionWindowSlots : UInt64
  maxTimingDispersionSlots : UInt64
  privacyBackend : PrivacyBackend
  allowedClusters : Finset Cluster
  allowedProgramIds : Finset (Vector UInt8 32)
  completionPolicy : CompletionPolicy
  createdAtUnix : Int64
  configurationHash : D
deriving DecidableEq

/-- Explicit round lifecycle. -/
inductive RoundState where
  | draft
  | registration
  | thresholdReached
  | sealed
  | releaseScheduled
  | executionWindow
  | finalizing
  | completed
  | cancelled
  | expired
deriving DecidableEq, Repr

/-- The name of a state as it is printed for debugging. -/
def RoundState.debugName : RoundState → String
  | draft => "Draft"
  | registration => "Registration"
  | thresholdReached => "ThresholdReached"
  | sealed => "Sealed"
  | releaseScheduled => "ReleaseScheduled"
  | executionWindow => "ExecutionWindow"
  | finalizing => "Finalizing"
  | completed => "Completed"
  | cancelled => "Cancelled"
  | expired => "Expired"

/-- Public coordination state for one pool round. -/
structure Round (D : Type) where
  poolId : D
  roundId : UInt64
  state : RoundState
  registrationStartSlot : UInt64
  registrationDeadlineSlot : UInt64
  releaseSlot : Option UInt64
  executionWindowStart : Option UInt64
  executionWindowEnd : Option UInt64
  expectedCohortSize : UInt32
  acceptedCohortSize : UInt32
  cohortMerkleRoot : Option D
  actionTemplateHash : D
  privacyBackend : PrivacyBackend
  cancellationReason : Option String
  finalMetricsHash : Option D
deriving DecidableEq

end MirrorPool
