import Mathlib.Data.Rat.Floor
import MirrorPool.Core.Digest
import MirrorPool.Core.Protocol
import MirrorPool.Library.Fallible

/-!
# Scenarios of the simulator

The data of a synthetic experiment: the scenario, the observations of a run, and
the report about them.  Double-precision numbers and the seeded generator are
parameters.  A dropout rate is the exact value of a finite double; the validation
refuses the others.

Main results:

- Definition {lit}`Scenario.validate`: the scenarios that are run.
- Theorem {lit}`Scenario.validate_eq_ok`: their bounds.
-/

namespace MirrorPool

open Fallible

/-! ## Parameters -/

/-- Double-precision numbers with the operations of the simulator.  No law is
assumed. -/
structure Float64 (F : Type) where
  ofRat : Rat → F
  ofNat : Nat → F
  add : F → F → F
  sub : F → F → F
  mul : F → F → F
  div : F → F → F
  abs : F → F
  ln : F → F
  exp : F → F
  lt : F → F → Bool
  le : F → F → Bool
  roundToIndex : F → Nat
  json : F → List UInt8

/-- The seeded generator: its seeding, a draw of 64 bits, a value up to an upper
bound, and a number between two others. -/
structure Generator (F : Type) where
  State : Type
  seedFromU64 : UInt64 → State
  nextU64 : State → UInt64 × State
  genRange : UInt64 → State → UInt64 × State
  genRangeF64 : F → F → State → F × State

/-! ## Scenarios -/

/-- Release scheduling strategies. -/
inductive ReleaseStrategy where
  | fixedSlot
  | narrowWindow
  | randomizedWithinWindow
  | latencyAware
deriving DecidableEq, Repr

/-- Feature groups available to the declared synthetic observer. -/
structure ObserverFeatures where
  timing : Bool
  instructionShape : Bool
  feeBehavior : Bool
  fundingGraph : Bool
  amountBucket : Bool
  historicalBehavior : Bool
deriving DecidableEq, Repr

/-- All features are available. -/
def ObserverFeatures.default : ObserverFeatures :=
  ⟨true, true, true, true, true, true⟩

/-- Reproducible scenario configuration. -/
structure Scenario where
  scenarioVersion : UInt16
  seed : UInt64
  participantCount : UInt32
  backend : PrivacyBackend
  releaseStrategy : ReleaseStrategy
  executionWindowSlots : UInt64
  dropoutRate : Rat
  longitudinalPeriods : UInt16
  observerFeatures : ObserverFeatures
deriving DecidableEq

/-- Invalid or unserializable evaluation. -/
inductive EvaluationError where
  | invalidScenario
  | serialization
deriving DecidableEq, Repr

/-- How an evaluation ends without a report: with an error, or aborted by a
checked addition or a checked index. -/
inductive EvaluationStop where
  | failed (error : EvaluationError)
  | overflow
  | outOfBounds
deriving DecidableEq, Repr

/-- Bounds of the version, the participants, the window and the dropout. -/
def Scenario.validate (s : Scenario) : Except EvaluationError Unit :=
  failIf (s.scenarioVersion ≠ 1 ∨ s.participantCount < 2 ∨ 100000 < s.participantCount ∨
    s.executionWindowSlots = 0 ∨ ¬(0 ≤ s.dropoutRate ∧ s.dropoutRate < 1)) .invalidScenario

/-- The scenarios that are run. -/
theorem Scenario.validate_eq_ok {s : Scenario} {u : Unit} :
    s.validate = .ok u ↔ s.scenarioVersion = 1 ∧ 2 ≤ s.participantCount ∧
      s.participantCount ≤ 100000 ∧ s.executionWindowSlots ≠ 0 ∧ 0 ≤ s.dropoutRate ∧
        s.dropoutRate < 1 := by
  simp only [validate, failIf_eq_ok, not_or, ne_eq, not_not, UInt32.not_lt]

/-! ## Observations and reports -/

/-- One synthetic public observation. -/
structure Observation (F : Type) where
  participant : UInt32
  executed : Bool
  slot : UInt64
  fingerprint : String
  score : F
  trueLink : Bool
deriving DecidableEq

/-- Required privacy and synchronization metrics. -/
structure EvaluationMetrics (F : Type) where
  announcedCohortSize : UInt32
  observedCohortSize : Nat
  completionRate : F
  executionSpreadSlots : UInt64
  medianTimingDeviation : F
  p95TimingDeviation : F
  uniqueFingerprintRate : F
  minimumKAnonymity : Nat
  shannonEntropy : F
  effectiveAnonymitySet : F
  normalizedEntropy : F
  linkagePrecision : F
  linkageRecall : F
  linkageF1 : F
  rocAuc : F
  falsePositiveRate : F
  falseNegativeRate : F

/-- Complete deterministic report row. -/
structure EvaluationReport (F D : Type) where
  scenario : Scenario
  metrics : EvaluationMetrics F
  traceHash : D
  limitations : List String

end MirrorPool
