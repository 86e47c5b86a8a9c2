import Mathlib.Data.Finset.Sort
import Mathlib.Data.List.Lex
import MirrorPool.Core.Digest
import MirrorPool.Core.Protocol
import MirrorPool.Library.Fallible

/-!
# Validation of pool configurations

A configuration carries the hash of its compact JSON text with the hash field
zeroed.  The validation checks the version, the bounds, and this hash.

Main results:

- Definition {lit}`PoolConfig.validate`: the checks in order.
- Theorem {lit}`PoolConfig.validate_eq_ok`: a configuration is valid exactly
  when all checks pass.
- Theorem {lit}`PoolConfig.validate_withHash`: admissible bounds make a valid
  configuration once the hash is computed.
-/

namespace MirrorPool

open Fallible JsonText

variable {D : Type}

/-- Typed protocol validation failures. -/
inductive ProtocolError where
  | unsupportedVersion (version : UInt16)
  | invalidParticipantBounds
  | invalidTimingBounds
  | emptyAllowlist
  | configurationHashMismatch
  | serialization
  | invalidTransition (source target : RoundState)
  | registrationClosed
  | cohortFull
  | arithmeticOverflow
  | prematureSeal
  | rootImmutable
  | releaseImmutable
  | invalidReleaseDelay
deriving DecidableEq, Repr

/-! ## JSON text -/

def PrivacyBackend.json : PrivacyBackend → List UInt8
  | transparentRegistry => jsonString "transparent_registry"
  | merkleCohort => jsonString "merkle_cohort"

def GovernancePolicy.json : GovernancePolicy → List UInt8
  | singleAuthority authority =>
      jsonObject [("single_authority", jsonObject [("authority", jsonBytes authority.toList)])]

def CompletionPolicy.json : CompletionPolicy → List UInt8
  | disabled => jsonString "disabled"
  | redactedReceipt => jsonString "redacted_receipt"
  | publicObservationOnly => jsonString "public_observation_only"

def Cluster.json : Cluster → List UInt8
  | localnet => jsonString "localnet"
  | devnet => jsonString "devnet"
  | testnet => jsonString "testnet"
  | mainnetBeta => jsonString "mainnet_beta"

/-- The members of a set of clusters in ascending order. -/
def sortedClusters (clusters : Finset Cluster) : List Cluster :=
  [.localnet, .devnet, .testnet, .mainnetBeta].filter fun cluster => cluster ∈ clusters

/-- The bytes of a program identifier as numbers, whose lists have a linear
order. -/
def programIdDigits (programId : Vector UInt8 32) : List Nat :=
  programId.toList.map UInt8.toNat

/-- The members of a set of program identifiers in ascending order. -/
def sortedProgramIds (programIds : Finset (Vector UInt8 32)) : List (List Nat) :=
  (programIds.image programIdDigits).sort

namespace PoolConfig

/-- The named fields of a configuration in order. -/
def fields (h : Blake3 D) (config : PoolConfig D) : List (String × List UInt8) :=
  [("pool_id", jsonBytes (h.bytes config.poolId)),
    ("version", jsonNumber config.version.toNat),
    ("governance", config.governance.json),
    ("action_template_hash", jsonBytes (h.bytes config.actionTemplateHash)),
    ("min_participants", jsonNumber config.minParticipants.toNat),
    ("max_participants", jsonNumber config.maxParticipants.toNat),
    ("registration_duration_slots", jsonNumber config.registrationDurationSlots.toNat),
    ("min_release_delay_slots", jsonNumber config.minReleaseDelaySlots.toNat),
    ("max_release_delay_slots", jsonNumber config.maxReleaseDelaySlots.toNat),
    ("execution_window_slots", jsonNumber config.executionWindowSlots.toNat),
    ("max_timing_dispersion_slots", jsonNumber config.maxTimingDispersionSlots.toNat),
    ("privacy_backend", config.privacyBackend.json),
    ("allowed_clusters", jsonArray ((sortedClusters config.allowedClusters).map Cluster.json)),
    ("allowed_program_ids", jsonArray ((sortedProgramIds config.allowedProgramIds).map
      fun digits => jsonArray (digits.map jsonNumber))),
    ("completion_policy", config.completionPolicy.json),
    ("created_at_unix", jsonInteger config.createdAtUnix.toInt),
    ("configuration_hash", jsonBytes (h.bytes config.configurationHash))]

/-- The hash of a configuration with the hash field zeroed.  The serialization
of these records does not fail. -/
def computeHash [Inhabited D] (h : Blake3 D) (config : PoolConfig D) : D :=
  h.hash "pool-config" (jsonObject ({ config with configurationHash := default }.fields h))

/-- Validate all timing, size, cluster and integrity constraints. -/
def validate [Inhabited D] [DecidableEq D] (h : Blake3 D) (config : PoolConfig D) :
    Except ProtocolError Unit := do
  failIf (config.version ≠ schemaVersion) (.unsupportedVersion config.version)
  failIf (config.minParticipants < 2 ∨ config.maxParticipants < config.minParticipants)
    .invalidParticipantBounds
  failIf (100000 < config.maxParticipants) .invalidParticipantBounds
  failIf (config.registrationDurationSlots = 0 ∨ config.executionWindowSlots = 0 ∨
    config.maxReleaseDelaySlots < config.minReleaseDelaySlots ∨
    config.executionWindowSlots < config.maxTimingDispersionSlots) .invalidTimingBounds
  failIf (config.allowedClusters = ∅ ∨ config.allowedProgramIds = ∅) .emptyAllowlist
  failIf (config.computeHash h ≠ config.configurationHash) .configurationHashMismatch

/-- The bounds that the validation checks. -/
structure Admissible (config : PoolConfig D) : Prop where
  version_eq : config.version = schemaVersion
  two_le : 2 ≤ config.minParticipants
  participants_le : config.minParticipants ≤ config.maxParticipants
  maximum_le : config.maxParticipants ≤ 100000
  duration_ne : config.registrationDurationSlots ≠ 0
  window_ne : config.executionWindowSlots ≠ 0
  delay_le : config.minReleaseDelaySlots ≤ config.maxReleaseDelaySlots
  dispersion_le : config.maxTimingDispersionSlots ≤ config.executionWindowSlots
  clusters_ne : config.allowedClusters ≠ ∅
  programs_ne : config.allowedProgramIds ≠ ∅

variable [Inhabited D] [DecidableEq D] {h : Blake3 D} {config : PoolConfig D}

/-- A configuration is valid exactly when its bounds are admissible and it
carries its own hash. -/
theorem validate_eq_ok {u : Unit} :
    config.validate h = .ok u ↔
      config.Admissible ∧ config.computeHash h = config.configurationHash := by
  simp only [validate, bind_eq_ok, failIf_eq_ok, exists_const, not_or, ne_eq, not_not,
    UInt32.not_lt, UInt64.not_lt]
  constructor
  · rintro ⟨hversion, ⟨htwo, hparticipants⟩, hmaximum, ⟨hduration, hwindow, hdelay, hdispersion⟩,
      ⟨hclusters, hprograms⟩, hhash⟩
    exact ⟨⟨hversion, htwo, hparticipants, hmaximum, hduration, hwindow, hdelay, hdispersion,
      hclusters, hprograms⟩, hhash⟩
  · rintro ⟨hbounds, hhash⟩
    exact ⟨hbounds.version_eq, ⟨hbounds.two_le, hbounds.participants_le⟩, hbounds.maximum_le,
      ⟨hbounds.duration_ne, hbounds.window_ne, hbounds.delay_le, hbounds.dispersion_le⟩,
      ⟨hbounds.clusters_ne, hbounds.programs_ne⟩, hhash⟩

/-- The configuration with its own hash. -/
def withHash (h : Blake3 D) (config : PoolConfig D) : PoolConfig D :=
  { config with configurationHash := config.computeHash h }

/-- Admissible bounds make a valid configuration once the hash is computed. -/
theorem validate_withHash (hbounds : config.Admissible) :
    (config.withHash h).validate h = .ok () := by
  rw [validate_eq_ok]
  exact ⟨{ hbounds with }, rfl⟩

end PoolConfig

end MirrorPool
