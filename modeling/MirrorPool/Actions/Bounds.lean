import Mathlib.Order.Bounds.Defs
import MirrorPool.Actions.BuiltIn

/-!
# Templates within the safety policy

The limits are written down twice: as literals in the templates, and as fields of
the default policy.  What a template prepares stays within the policy, also where
it rounds up, so that the policy extended by the template admits it on a local
node.

Main results:

- Definition {lit}`SafetyPolicy.admitting`: the default policy, extended by a
  template.
- Structure {lit}`StaysInside`: an action within the policy.
- Theorem {lit}`prepare_stays_inside`: every prepared action is.
-/

namespace MirrorPool

open Fallible

/-- The default policy, extended by the name and the program of a template. -/
def SafetyPolicy.admitting (template : BuiltInTemplate) : SafetyPolicy :=
  { SafetyPolicy.default with
    allowedTemplates := SafetyPolicy.default.allowedTemplates ++ [template.identifier]
    allowedProgramIds := SafetyPolicy.default.allowedProgramIds ++ template.requiredProgramIds }

/-- The policy with sending switched on. -/
def SafetyPolicy.forSending (policy : SafetyPolicy) : SafetyPolicy :=
  { policy with dryRun := false, sendingEnabled := true }

/-- The action is within the limits of the default policy, its simulation
succeeds, and the extended policy admits it on a local node.  Budgets are rounded
up to a multiple of a bucket, and memos are padded to the least size that
fits. -/
structure StaysInside (template : BuiltInTemplate) (parameters : ActionParameters)
    (action : PreparedAction) : Prop where
  instruction_count : action.instructionCount = 1
  programs : action.programIds.length = 1
  size_eq : action.estimatedSize.toNat = 100 + action.payload.length
  size_le : action.estimatedSize ≤ 1232
  compute_units : action.computeUnits ≤ SafetyPolicy.default.maxComputeUnits
  priority_fee :
    action.priorityFeeMicroLamports ≤ SafetyPolicy.default.maxPriorityFeeMicroLamports
  value : action.value ≤ SafetyPolicy.default.maxLocalValue
  rounded : ∀ units priorityFee, parameters = .computeBudget units priorityFee →
    action.computeUnits.toNat = (divCeil units 25000).toNat * 25000 ∧
      IsLeast {n | 25000 ∣ n ∧ units.toNat ≤ n} action.computeUnits.toNat
  padded : ∀ text, parameters = .memo text →
    IsLeast {n | n ∈ [16, 32, 64] ∧ text.utf8ByteSize ≤ n} action.payload.length ∧
      asBytes text <+: action.payload
  admitted : ∃ result, template.simulate action = .ok result ∧ result.succeeded = true ∧
    result.estimatedFeeLamports ≤ SafetyPolicy.default.maxTransactionFeeLamports ∧
    ∀ publicClusterExecution rpcUrl, isLoopback rpcUrl = true →
      (∀ simulationSucceeded explicitConfirmation,
        (SafetyPolicy.admitting template).validate publicClusterExecution action rpcUrl false
          simulationSucceeded result.estimatedFeeLamports explicitConfirmation = .ok ()) ∧
      (SafetyPolicy.admitting template).forSending.validate publicClusterExecution action rpcUrl
        true result.succeeded result.estimatedFeeLamports true = .ok ()

namespace MemoTemplate

/-- The bucket of a text is the least one that fits. -/
theorem isLeast_bucket {length : Nat} (hlength : length ≤ 64) :
    IsLeast {n | n ∈ [16, 32, 64] ∧ length ≤ n} (bucket length) := by
  constructor
  · have hcases := bucket_cases length
    exact ⟨by simpa using hcases, le_bucket hlength⟩
  · rintro n ⟨hn, hle⟩
    unfold bucket
    split
    · simp at hn
      omega
    · split <;> simp at hn <;> omega

/-- A padded text starts with its bytes. -/
theorem asBytes_prefix_paddedBytes (text : String) : asBytes text <+: paddedBytes text := by
  rw [paddedBytes, List.rightpad]
  exact List.prefix_append ..

end MemoTemplate

namespace BuiltInTemplate

variable {template : BuiltInTemplate} {parameters : ActionParameters} {action : PreparedAction}

/-- What a prepared action declares is within the extended policy. -/
theorem Prepares.declares (hprepares : Prepares template parameters action) :
    (SafetyPolicy.admitting template).Declares action := by
  have hsize : action.estimatedSize ≤ 1232 := by
    rw [UInt16.le_iff_toNat_le, hprepares.size.2]
    exact Nat.le_trans (Nat.add_le_add_left hprepares.size.1 100) (by decide)
  have htemplate : action.templateId = template.identifier := by
    cases hprepares <;> rfl
  have hprograms : action.programIds = template.requiredProgramIds := by
    cases hprepares <;> rfl
  have hshape : action.instructionCount = 1 ∧ action.programIds.length = 1 := by
    cases hprepares <;> exact ⟨rfl, rfl⟩
  refine
    { template := ?_
      programs := ?_
      computeUnits := ?_
      priorityFee := ?_
      value := ?_
      shape := hshape
      size := hsize }
  · rw [htemplate]
    exact List.mem_append_right _ (List.mem_singleton_self _)
  · rw [hprograms]
    exact fun _ hprogram => List.mem_append_right _ hprogram
  · show action.computeUnits ≤ 200000
    cases hprepares with
    | memo => exact (by decide : (10000 : UInt32) ≤ 200000)
    | computeBudget template hlow hhigh =>
        exact UInt32.le_iff_toNat_le.mpr
          (ComputeBudgetShapeTemplate.toNat_canonicalUnits hhigh).2
    | localTokenHousekeeping => exact (by decide : (50000 : UInt32) ≤ 200000)
    | localStakeLifecycle => exact (by decide : (100000 : UInt32) ≤ 200000)
  · show action.priorityFeeMicroLamports ≤ 1000
    cases hprepares with
    | computeBudget template hlow hhigh hfee => exact hfee
    | _ => exact (by decide : (0 : UInt64) ≤ 1000)
  · show action.value ≤ 1000000
    cases hprepares with
    | memo => exact (by decide : (0 : UInt64) ≤ 1000000)
    | computeBudget => exact (by decide : (0 : UInt64) ≤ 1000000)
    | localTokenHousekeeping template hlimit => exact hlimit
    | localStakeLifecycle template hpositive hlimit => exact hlimit

/-- The extended policy admits a prepared action on a local node. -/
theorem Prepares.admitted (hprepares : Prepares template parameters action)
    {publicClusterExecution : Bool} {rpcUrl : Url} {fee : UInt64} (hfee : fee ≤ 20000)
    (hloopback : isLoopback rpcUrl = true) :
    (∀ simulationSucceeded explicitConfirmation,
      (SafetyPolicy.admitting template).validate publicClusterExecution action rpcUrl false
        simulationSucceeded fee explicitConfirmation = .ok ()) ∧
    (SafetyPolicy.admitting template).forSending.validate publicClusterExecution action rpcUrl
      true true fee true = .ok () := by
  have hdeclares := hprepares.declares
  constructor
  · intro simulationSucceeded explicitConfirmation
    exact SafetyPolicy.validate_eq_ok.mpr
      ⟨rfl, hdeclares, hfee, fun _ => hloopback, fun hsending => absurd hsending (by decide)⟩
  · exact SafetyPolicy.validate_eq_ok.mpr
      ⟨rfl, { hdeclares with }, hfee, fun _ => hloopback,
        fun _ => ⟨⟨rfl, rfl⟩, fun _ => rfl, rfl, fun _ => hloopback⟩⟩

end BuiltInTemplate

/-- Whatever a built-in template prepares stays inside the safety policy. -/
theorem prepare_stays_inside (template : BuiltInTemplate) (parameters : ActionParameters)
    (action : PreparedAction) (hprepare : template.prepare parameters = .ok action) :
    StaysInside template parameters action := by
  have hprepares := BuiltInTemplate.prepare_eq_ok.mp hprepare
  have hdeclares := hprepares.declares
  have hfee : (5000 : UInt64) ≤ 20000 := by decide
  rcases hprepares.simulates with ⟨consumed, hsimulated⟩
  refine
    { instruction_count := hdeclares.shape.1
      programs := hdeclares.shape.2
      size_eq := hprepares.size.2
      size_le := hdeclares.size
      compute_units := hdeclares.computeUnits
      priority_fee := hdeclares.priorityFee
      value := hdeclares.value
      rounded := ?_
      padded := ?_
      admitted := ⟨_, hsimulated, rfl, hfee,
        fun _ _ hloopback => hprepares.admitted hfee hloopback⟩ }
  · rintro units priorityFee rfl
    cases hprepares with
    | computeBudget template hlow hhigh =>
        exact ⟨ComputeBudgetShapeTemplate.canonicalUnits_exact hhigh,
          ComputeBudgetShapeTemplate.isLeast_canonicalUnits hhigh⟩
  · rintro text rfl
    cases hprepares with
    | memo template haccepts =>
        refine ⟨?_, MemoTemplate.asBytes_prefix_paddedBytes text⟩
        show IsLeast _ (MemoTemplate.paddedBytes text).length
        rw [MemoTemplate.length_paddedBytes haccepts.2.1]
        exact MemoTemplate.isLeast_bucket haccepts.2.1

/-- The highest budget is prepared within the policy. -/
theorem prepare_stays_inside_demo :
    StaysInside (.computeBudget ⟨Vector.replicate 32 1⟩) (.computeBudget 199999 1000)
      (ComputeBudgetShapeTemplate.budgetAction ⟨Vector.replicate 32 1⟩ 199999 1000) :=
  prepare_stays_inside _ _ _
    (ComputeBudgetShapeTemplate.prepare_eq_ok.mpr
      ⟨_, _, rfl, by decide, by decide, by decide, rfl⟩)

end MirrorPool
