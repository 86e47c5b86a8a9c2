import Mathlib.Data.UInt
import MirrorPool.Library.Fallible

/-!
# Safety policy

The central guard in front of the simulation and the sending of a participant's
action.  It looks at what an action declares about itself, at the target, and at
the results of the simulation.

Main results:

- Structure {lit}`PreparedAction`: an action with its declared properties.
- Definition {lit}`SafetyPolicy.validate`: the checks in order.
- Theorem {lit}`SafetyPolicy.validate_eq_ok`: an action is admitted exactly when
  all checks pass.
- Theorem {lit}`SafetyPolicy.refuses_iff`: a call is refused exactly when one of
  the checks refuses it.
-/

namespace MirrorPool

open Fallible

/-- Action risk category. -/
inductive SafetyClassification where
  | localOnly
  | lowRisk
  | prohibited
deriving DecidableEq, Repr

/-- Sanitized plan of an action.  It contains no signer material. -/
structure PreparedAction where
  templateId : String
  programIds : List (Vector UInt8 32)
  instructionCount : UInt8
  payload : List UInt8
  computeUnits : UInt32
  priorityFeeMicroLamports : UInt64
  value : UInt64
  estimatedSize : UInt16
  safety : SafetyClassification
deriving DecidableEq, Repr

/-- Action policy failures. -/
inductive ActionError where
  | emergencyStop
  | templateNotAllowed
  | programNotAllowed
  | computeLimitExceeded
  | priorityFeeExceeded
  | transactionFeeExceeded
  | valueLimitExceeded
  | nonLoopbackRpc
  | sendingDisabled
  | simulationRequired
  | confirmationRequired
  | publicClusterCompileGuard
  | wrongParameters
  | invalidMemo
  | sizeExceeded
  | instructionShapeInvalid
deriving DecidableEq, Repr

/-- A parsed URL, of which the policy reads the host. -/
structure Url where
  hostStr : Option String
deriving DecidableEq, Repr

/-- The host is the machine itself. -/
def isLoopback (url : Url) : Bool :=
  url.hostStr = some "localhost" ∨ url.hostStr = some "127.0.0.1" ∨
    url.hostStr = some "[::1]" ∨ url.hostStr = some "::1"

/-- Central runtime guard applied before simulation and sending. -/
structure SafetyPolicy where
  dryRun : Bool
  sendingEnabled : Bool
  loopbackOnly : Bool
  simulationRequired : Bool
  maxComputeUnits : UInt32
  maxPriorityFeeMicroLamports : UInt64
  maxTransactionFeeLamports : UInt64
  maxLocalValue : UInt64
  maxConcurrentSends : UInt16
  maxSendsPerRound : UInt32
  allowedProgramIds : List (Vector UInt8 32)
  allowedTemplates : List String
  emergencyStop : Bool
deriving DecidableEq, Repr

namespace SafetyPolicy

/-- The policy that a client starts from. -/
def default : SafetyPolicy where
  dryRun := true
  sendingEnabled := false
  loopbackOnly := true
  simulationRequired := true
  maxComputeUnits := 200000
  maxPriorityFeeMicroLamports := 1000
  maxTransactionFeeLamports := 20000
  maxLocalValue := 1000000
  maxConcurrentSends := 4
  maxSendsPerRound := 50
  allowedProgramIds := []
  allowedTemplates := ["memo-v1", "compute-budget-shape-v1"]
  emergencyStop := false

/-- Validate a prepared action and its target before it may be simulated or
sent.  The last check of a sending is left out of a build with the feature
{lit}`public-cluster-execution`. -/
def validate (publicClusterExecution : Bool) (policy : SafetyPolicy) (action : PreparedAction)
    (rpcUrl : Url) (sending simulationSucceeded : Bool) (estimatedFeeLamports : UInt64)
    (explicitConfirmation : Bool) : Except ActionError Unit := do
  failIf (policy.emergencyStop = true) .emergencyStop
  failIf (action.templateId ∉ policy.allowedTemplates) .templateNotAllowed
  failIf (∃ program ∈ action.programIds, program ∉ policy.allowedProgramIds) .programNotAllowed
  failIf (policy.maxComputeUnits < action.computeUnits) .computeLimitExceeded
  failIf (policy.maxPriorityFeeMicroLamports < action.priorityFeeMicroLamports)
    .priorityFeeExceeded
  failIf (policy.maxLocalValue < action.value) .valueLimitExceeded
  failIf (action.instructionCount ≠ 1 ∨ action.programIds.length ≠ 1) .instructionShapeInvalid
  failIf (1232 < action.estimatedSize) .sizeExceeded
  failIf (policy.maxTransactionFeeLamports < estimatedFeeLamports) .transactionFeeExceeded
  failIf (policy.loopbackOnly = true ∧ isLoopback rpcUrl = false) .nonLoopbackRpc
  if sending then
    failIf (policy.dryRun = true ∨ policy.sendingEnabled = false) .sendingDisabled
    failIf (policy.simulationRequired = true ∧ simulationSucceeded = false) .simulationRequired
    failIf (explicitConfirmation = false) .confirmationRequired
    failIf (publicClusterExecution = false ∧ isLoopback rpcUrl = false) .publicClusterCompileGuard

/-- What an action declares about itself is within the policy. -/
structure Declares (policy : SafetyPolicy) (action : PreparedAction) : Prop where
  template : action.templateId ∈ policy.allowedTemplates
  programs : ∀ program ∈ action.programIds, program ∈ policy.allowedProgramIds
  computeUnits : action.computeUnits ≤ policy.maxComputeUnits
  priorityFee : action.priorityFeeMicroLamports ≤ policy.maxPriorityFeeMicroLamports
  value : action.value ≤ policy.maxLocalValue
  shape : action.instructionCount = 1 ∧ action.programIds.length = 1
  size : action.estimatedSize ≤ 1232

/-- An action is admitted exactly when all checks pass. -/
theorem validate_eq_ok {publicClusterExecution : Bool} {policy : SafetyPolicy}
    {action : PreparedAction} {rpcUrl : Url} {sending simulationSucceeded : Bool}
    {estimatedFeeLamports : UInt64} {explicitConfirmation : Bool} {u : Unit} :
    policy.validate publicClusterExecution action rpcUrl sending simulationSucceeded
        estimatedFeeLamports explicitConfirmation = .ok u ↔
      policy.emergencyStop = false ∧ policy.Declares action ∧
        estimatedFeeLamports ≤ policy.maxTransactionFeeLamports ∧
        (policy.loopbackOnly = true → isLoopback rpcUrl = true) ∧
        (sending = true →
          (policy.dryRun = false ∧ policy.sendingEnabled = true) ∧
          (policy.simulationRequired = true → simulationSucceeded = true) ∧
          explicitConfirmation = true ∧
          (publicClusterExecution = false → isLoopback rpcUrl = true)) := by
  simp only [validate, bind_eq_ok, failIf_eq_ok, exists_const, Bool.not_eq_true, not_not,
    not_exists, not_and, not_or, ne_eq, UInt16.not_lt, UInt32.not_lt, UInt64.not_lt,
    Bool.not_eq_false]
  constructor
  · rintro ⟨hstop, htemplate, hprograms, hunits, hpriority, hvalue, hshape, hsize, hfee, hloopback,
      hsending⟩
    refine ⟨hstop, ⟨htemplate, hprograms, hunits, hpriority, hvalue, hshape, hsize⟩, hfee,
      hloopback, ?_⟩
    rintro rfl
    simpa only [if_true, bind_eq_ok, failIf_eq_ok, exists_const, not_and, not_or,
      Bool.not_eq_false, Bool.not_eq_true] using hsending
  · rintro ⟨hstop, hdeclares, hfee, hloopback, hsending⟩
    refine ⟨hstop, hdeclares.template, hdeclares.programs, hdeclares.computeUnits,
      hdeclares.priorityFee, hdeclares.value, hdeclares.shape, hdeclares.size, hfee, hloopback, ?_⟩
    split
    · rename_i hsend
      simpa only [bind_eq_ok, failIf_eq_ok, exists_const, not_and, not_or, Bool.not_eq_false,
        Bool.not_eq_true] using hsending hsend
    · rfl

/-- One of the checks refuses the call.  There is a case for each check, in their
order; the last four are about sending. -/
inductive Refuses (publicClusterExecution : Bool) (policy : SafetyPolicy) (action : PreparedAction)
    (rpcUrl : Url) (sending simulationSucceeded : Bool) (estimatedFeeLamports : UInt64)
    (explicitConfirmation : Bool) : Prop where
  | stopped (hstop : policy.emergencyStop = true)
  | template (htemplate : action.templateId ∉ policy.allowedTemplates)
  | program {program : Vector UInt8 32} (hused : program ∈ action.programIds)
      (hlisted : program ∉ policy.allowedProgramIds)
  | computeUnits (hunits : policy.maxComputeUnits < action.computeUnits)
  | priorityFee (hpriority : policy.maxPriorityFeeMicroLamports < action.priorityFeeMicroLamports)
  | value (hvalue : policy.maxLocalValue < action.value)
  | shape (hshape : action.instructionCount ≠ 1 ∨ action.programIds.length ≠ 1)
  | size (hsize : 1232 < action.estimatedSize)
  | transactionFee (hfee : policy.maxTransactionFeeLamports < estimatedFeeLamports)
  | target (honly : policy.loopbackOnly = true) (hpublic : isLoopback rpcUrl = false)
  | disabled (hsending : sending = true)
      (hdisabled : policy.dryRun = true ∨ policy.sendingEnabled = false)
  | simulation (hsending : sending = true) (hrequired : policy.simulationRequired = true)
      (hfailed : simulationSucceeded = false)
  | confirmation (hsending : sending = true) (hmissing : explicitConfirmation = false)
  | compileGuard (hsending : sending = true) (hbuild : publicClusterExecution = false)
      (hpublic : isLoopback rpcUrl = false)

/-- A call is refused exactly when one of the checks refuses it. -/
theorem refuses_iff {publicClusterExecution : Bool} {policy : SafetyPolicy}
    {action : PreparedAction} {rpcUrl : Url} {sending simulationSucceeded : Bool}
    {estimatedFeeLamports : UInt64} {explicitConfirmation : Bool} :
    Refuses publicClusterExecution policy action rpcUrl sending simulationSucceeded
        estimatedFeeLamports explicitConfirmation ↔
      policy.validate publicClusterExecution action rpcUrl sending simulationSucceeded
        estimatedFeeLamports explicitConfirmation ≠ .ok () := by
  rw [ne_eq, validate_eq_ok]
  constructor
  · rintro hrefuses ⟨hstop, hdeclares, hfee, htarget, hsend⟩
    cases hrefuses with
    | stopped h => simp [h] at hstop
    | template h => exact h hdeclares.template
    | program hused hlisted => exact hlisted (hdeclares.programs _ hused)
    | computeUnits h => exact absurd hdeclares.computeUnits (UInt32.not_le.mpr h)
    | priorityFee h => exact absurd hdeclares.priorityFee (UInt64.not_le.mpr h)
    | value h => exact absurd hdeclares.value (UInt64.not_le.mpr h)
    | shape h => exact h.elim (absurd hdeclares.shape.1) (absurd hdeclares.shape.2)
    | size h => exact absurd hdeclares.size (UInt16.not_le.mpr h)
    | transactionFee h => exact absurd hfee (UInt64.not_le.mpr h)
    | target honly hpublic => simp [htarget honly] at hpublic
    | disabled hsending h => simp [(hsend hsending).1] at h
    | simulation hsending hrequired h => simp [(hsend hsending).2.1 hrequired] at h
    | confirmation hsending h => simp [(hsend hsending).2.2.1] at h
    | compileGuard hsending hbuild h => simp [(hsend hsending).2.2.2 hbuild] at h
  · intro hfails
    by_contra hnone
    refine hfails ⟨?_, ?_, ?_, ?_, ?_⟩
    · exact Bool.eq_false_of_not_eq_true fun h => hnone (.stopped h)
    · exact
        { template := of_not_not fun h => hnone (.template h)
          programs := fun _ hused => of_not_not fun h => hnone (.program hused h)
          computeUnits := UInt32.not_lt.mp fun h => hnone (.computeUnits h)
          priorityFee := UInt64.not_lt.mp fun h => hnone (.priorityFee h)
          value := UInt64.not_lt.mp fun h => hnone (.value h)
          shape := ⟨of_not_not fun h => hnone (.shape (.inl h)),
            of_not_not fun h => hnone (.shape (.inr h))⟩
          size := UInt16.not_lt.mp fun h => hnone (.size h) }
    · exact UInt64.not_lt.mp fun h => hnone (.transactionFee h)
    · exact fun honly => Bool.eq_true_of_not_eq_false fun h => hnone (.target honly h)
    · intro hsending
      refine ⟨⟨?_, ?_⟩, fun hrequired => ?_, ?_, fun hbuild => ?_⟩
      · exact Bool.eq_false_of_not_eq_true fun h => hnone (.disabled hsending (.inl h))
      · exact Bool.eq_true_of_not_eq_false fun h => hnone (.disabled hsending (.inr h))
      · exact Bool.eq_true_of_not_eq_false fun h => hnone (.simulation hsending hrequired h)
      · exact Bool.eq_true_of_not_eq_false fun h => hnone (.confirmation hsending h)
      · exact Bool.eq_true_of_not_eq_false fun h => hnone (.compileGuard hsending hbuild h)

end SafetyPolicy

end MirrorPool
