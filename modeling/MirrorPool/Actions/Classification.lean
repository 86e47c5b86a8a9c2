import MirrorPool.Actions.BuiltIn

/-!
# Risk classes and the safety policy

Every action declares a risk class: it may be low-risk, for a local node only, or
prohibited.  The safety policy never looks at this class.  A class is respected
only where the other checks happen to refuse the target or the shape of the
action.

Main results:

- Structure {lit}`RespectsClass`: an action is not prohibited, and a local one
  has a local target.
- Theorem {lit}`respects_class_iff`: for which calls the class is respected.
- Theorem {lit}`token_admitted_publicly`: a local action that a policy admits for
  a public node.
- Theorem {lit}`class_respected_by_every_policy_iff`: for which actions and
  targets no policy admits a call against the class.
-/

namespace MirrorPool

open Fallible

/-- The action is not prohibited, and an action for a local node has a local
target. -/
structure RespectsClass (action : PreparedAction) (rpcUrl : Url) : Prop where
  not_prohibited : action.safety ≠ .prohibited
  local_target : action.safety = .localOnly → isLoopback rpcUrl = true

/-- The class as it is written: a low-risk action, or a local one with a local
target. -/
theorem respectsClass_iff {action : PreparedAction} {rpcUrl : Url} :
    RespectsClass action rpcUrl ↔
      action.safety = .lowRisk ∨ (action.safety = .localOnly ∧ isLoopback rpcUrl = true) := by
  constructor
  · rintro ⟨hallowed, hlocal⟩
    cases hsafety : action.safety with
    | localOnly => exact .inr ⟨rfl, hlocal hsafety⟩
    | lowRisk => exact .inl rfl
    | prohibited => exact absurd hsafety hallowed
  · rintro (hsafety | ⟨hsafety, hloopback⟩)
    · exact ⟨by simp [hsafety], by simp [hsafety]⟩
    · exact ⟨by simp [hsafety], fun _ => hloopback⟩

/-- The class is not respected by an action that is prohibited, or by a local one
with a public target. -/
theorem not_respectsClass_iff {action : PreparedAction} {rpcUrl : Url} :
    ¬RespectsClass action rpcUrl ↔
      action.safety = .prohibited ∨
        (action.safety = .localOnly ∧ isLoopback rpcUrl = false) := by
  rw [respectsClass_iff]
  cases action.safety <;> simp

/-- A call respects the class of its action exactly when one of the other checks
refuses it wherever the class would have to: if the action is prohibited, or if
it is local and its target is public. -/
theorem respects_class_iff (publicClusterExecution : Bool) (policy : SafetyPolicy)
    (action : PreparedAction) (rpcUrl : Url) (sending simulationSucceeded : Bool)
    (estimatedFeeLamports : UInt64) (explicitConfirmation : Bool) :
    (policy.validate publicClusterExecution action rpcUrl sending simulationSucceeded
        estimatedFeeLamports explicitConfirmation = .ok () →
      RespectsClass action rpcUrl) ↔
      (action.safety = .prohibited ∨ (action.safety = .localOnly ∧ isLoopback rpcUrl = false) →
        policy.Refuses publicClusterExecution action rpcUrl sending simulationSucceeded
          estimatedFeeLamports explicitConfirmation) := by
  rw [← not_respectsClass_iff, SafetyPolicy.refuses_iff]
  exact not_imp_not.symm

/-! ## A local action for a public node -/

/-- The token template of a small program. -/
def demoToken : LocalTokenHousekeepingTemplate := ⟨Vector.replicate 32 2⟩

/-- The default policy with the token template and its program listed, and
without the check of the target. -/
def demoTokenPolicy : SafetyPolicy :=
  { SafetyPolicy.default with
    loopbackOnly := false
    allowedProgramIds := [Vector.replicate 32 2]
    allowedTemplates := ["local-token-housekeeping-v1"] }

/-- The action of the token template, which is for a local node only, is admitted
for a public one; and so is a prohibited action of its shape. -/
theorem token_admitted_publicly :
    let action := demoToken.tokenAction 10 true
    let rpcUrl : Url := ⟨some "api.mainnet-beta.solana.com"⟩
    demoToken.prepare (.localTokenHousekeeping 10 true) = .ok action ∧
      demoTokenPolicy.validate false action rpcUrl false true 5000 false = .ok () ∧
      ¬RespectsClass action rpcUrl ∧
      demoTokenPolicy.validate false { action with safety := .prohibited } rpcUrl false true 5000
        false = .ok () ∧
      ¬RespectsClass { action with safety := .prohibited } rpcUrl := by
  refine ⟨?_, by decide, fun h => ?_, by decide, fun h => ?_⟩
  · exact LocalTokenHousekeepingTemplate.prepare_eq_ok.mpr ⟨_, _, rfl, by decide, rfl⟩
  · exact absurd (h.local_target rfl) (by decide)
  · exact h.not_prohibited rfl

/-! ## Every policy -/

/-- The shape that the policy asks for: one instruction of one program, in one
packet. -/
structure PreparedAction.HasShape (action : PreparedAction) : Prop where
  instruction_count : action.instructionCount = 1
  programs : action.programIds.length = 1
  size : action.estimatedSize ≤ 1232

/-- The policy that asks for nothing but the shape of an action, and maybe for a
local target. -/
def SafetyPolicy.tailored (action : PreparedAction) (loopbackOnly : Bool) : SafetyPolicy where
  dryRun := false
  sendingEnabled := true
  loopbackOnly := loopbackOnly
  simulationRequired := false
  maxComputeUnits := action.computeUnits
  maxPriorityFeeMicroLamports := action.priorityFeeMicroLamports
  maxTransactionFeeLamports := 0
  maxLocalValue := action.value
  maxConcurrentSends := 1
  maxSendsPerRound := 1
  allowedProgramIds := action.programIds
  allowedTemplates := [action.templateId]
  emergencyStop := false

/-- The tailored policy admits every action of the right shape whose target it
does not refuse. -/
theorem validate_tailored {publicClusterExecution loopbackOnly sending : Bool}
    {action : PreparedAction} {rpcUrl : Url} (hshape : action.HasShape)
    (htarget : isLoopback rpcUrl = true ∨
      (loopbackOnly = false ∧ (sending = true → publicClusterExecution = true))) :
    (SafetyPolicy.tailored action loopbackOnly).validate publicClusterExecution action rpcUrl
      sending true 0 true = .ok () := by
  rw [SafetyPolicy.validate_eq_ok]
  refine ⟨rfl, ?_, UInt64.le_refl _, ?_, ?_⟩
  · exact
      { template := List.mem_singleton_self _
        programs := fun _ hprogram => hprogram
        computeUnits := UInt32.le_refl _
        priorityFee := UInt64.le_refl _
        value := UInt64.le_refl _
        shape := ⟨hshape.instruction_count, hshape.programs⟩
        size := hshape.size }
  · intro hloopbackOnly
    rcases htarget with hloopback | ⟨hoff, -⟩
    · exact hloopback
    · exact absurd (hoff.symm.trans hloopbackOnly) (by decide)
  · intro hsending
    refine ⟨⟨rfl, rfl⟩, fun _ => rfl, rfl, fun hfeature => ?_⟩
    rcases htarget with hloopback | ⟨-, hpublic⟩
    · exact hloopback
    · exact absurd ((hpublic hsending).symm.trans hfeature) (by decide)

/-- Every policy, with the given answer to whether the target has to be local,
respects the class of an action exactly when the class asks for nothing here,
when no policy admits the shape of the action, or when the target is refused for
being public. -/
theorem class_respected_by_every_policy_iff (publicClusterExecution loopbackOnly sending : Bool)
    (action : PreparedAction) (rpcUrl : Url) :
    (∀ (policy : SafetyPolicy) simulationSucceeded estimatedFeeLamports explicitConfirmation,
      policy.loopbackOnly = loopbackOnly →
      policy.validate publicClusterExecution action rpcUrl sending simulationSucceeded
        estimatedFeeLamports explicitConfirmation = .ok () →
      RespectsClass action rpcUrl) ↔
      action.safety = .lowRisk ∨ (action.safety = .localOnly ∧ isLoopback rpcUrl = true) ∨
        ¬action.HasShape ∨
        (isLoopback rpcUrl = false ∧
          (loopbackOnly = true ∨ (sending = true ∧ publicClusterExecution = false))) := by
  rw [← or_assoc, ← respectsClass_iff]
  constructor
  · intro hrespects
    by_contra hrefused
    simp only [not_or, not_not, not_and, Bool.not_eq_false, Bool.not_eq_true] at hrefused
    rcases hrefused with ⟨hclass, hshape, htarget⟩
    refine hclass (hrespects (.tailored action loopbackOnly) true 0 true rfl
      (validate_tailored hshape ?_))
    rcases hloopback : isLoopback rpcUrl with _ | _
    · exact .inr (htarget hloopback)
    · exact .inl rfl
  · intro hrefused policy simulationSucceeded fee confirmation hpolicy hvalidate
    rcases SafetyPolicy.validate_eq_ok.mp hvalidate with
      ⟨-, hdeclares, -, hloopback, hsending⟩
    rcases hrefused with hclass | hshape | ⟨hpublic, hrefuses⟩
    · exact hclass
    · exact absurd ⟨hdeclares.shape.1, hdeclares.shape.2, hdeclares.size⟩ hshape
    · have hlocal : isLoopback rpcUrl = true := by
        rcases hrefuses with hlocal | ⟨hsend, hfeature⟩
        · exact hloopback (hpolicy.trans hlocal)
        · exact (hsending hsend).2.2.2 hfeature
      exact absurd (hpublic.symm.trans hlocal) (by decide)

end MirrorPool
