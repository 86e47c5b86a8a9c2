import MirrorPool.Actions.Templates
import MirrorPool.Core.Digest
import MirrorPool.Library.PrefixCodec

/-!
# The built-in templates

Besides the memo there are three templates with fixed shapes: a compute budget,
whose units are rounded up to a bucket, and two local ones for test tokens and
for stake.  Each one prepares an action, simulates it, and takes a redacted
fingerprint of it.

Main results:

- Inductive {lit}`BuiltInTemplate`: the four templates behind one interface.
- Theorem {lit}`BuiltInTemplate.prepare_eq_ok`: which parameters a template
  prepares, and how.
- Theorem {lit}`BuiltInTemplate.Prepares.size`: prepared actions are short, and
  declare their exact size.
- Theorem {lit}`BuiltInTemplate.Prepares.simulates`: what the simulation of a
  prepared action reports.
-/

namespace MirrorPool

open Fallible

/-- Simulation result used as a mandatory send precondition. -/
structure SimulationResult where
  succeeded : Bool
  estimatedFeeLamports : UInt64
  computeUnitsConsumed : UInt32
  redactedError : Option String
deriving DecidableEq, Repr

/-- The quotient of two words, rounded up. -/
def divCeil (a b : UInt32) : UInt32 :=
  if 0 < a % b then a / b + 1 else a / b

/-- The size of a transaction with a payload.  The source adds with saturation,
which is the exact sum for every payload that fits into memory. -/
def declaredSize (payload : List UInt8) : UInt16 :=
  (toUInt16 (100 + payload.length)).getD 65535

/-- An action with a single instruction. -/
def prepared (template : String) (programIds : List (Vector UInt8 32)) (payload : List UInt8)
    (computeUnits : UInt32) (priorityFee value : UInt64) (safety : SafetyClassification) :
    PreparedAction where
  templateId := template
  programIds := programIds
  instructionCount := 1
  payload := payload
  computeUnits := computeUnits
  priorityFeeMicroLamports := priorityFee
  value := value
  estimatedSize := declaredSize payload
  safety := safety

/-- The simulation of the templates with fixed shapes. -/
def boundedSimulation (action : PreparedAction) : Except ActionError SimulationResult := do
  failIf (1232 < action.estimatedSize) .sizeExceeded
  return {
    succeeded := true
    estimatedFeeLamports := 5000
    computeUnitsConsumed := action.computeUnits / 2
    redactedError := none }

/-! ## Compute budget -/

/-- Bounded compute-budget shape; it cannot include arbitrary instructions. -/
structure ComputeBudgetShapeTemplate where
  computeBudgetProgramId : Vector UInt8 32
deriving DecidableEq, Repr

namespace ComputeBudgetShapeTemplate

/-- The name of the template. -/
def identifier : String := "compute-budget-shape-v1"

/-- The one program of the template. -/
def requiredProgramIds (template : ComputeBudgetShapeTemplate) : List (Vector UInt8 32) :=
  [template.computeBudgetProgramId]

/-- The requested units, rounded up to a bucket. -/
def canonicalUnits (units : UInt32) : UInt32 :=
  divCeil units 25000 * 25000

/-- The units and the fee, least significant bytes first. -/
def payload (units : UInt32) (priorityFee : UInt64) : List UInt8 :=
  FixedCodec.leBytes 4 units.toNat ++ FixedCodec.leBytes 8 priorityFee.toNat

/-- Prepare the shape of a compute budget. -/
def prepare (template : ComputeBudgetShapeTemplate) :
    ActionParameters → Except ActionError PreparedAction
  | .computeBudget units priorityFee => do
      failIf (¬(10000 ≤ units ∧ units ≤ 200000) ∨ 1000 < priorityFee) .computeLimitExceeded
      let canonicalUnits := canonicalUnits units
      return prepared identifier template.requiredProgramIds (payload canonicalUnits priorityFee)
        canonicalUnits priorityFee 0 .lowRisk
  | _ => .error .wrongParameters

def redactedFingerprint {D : Type} (h : Blake3 D) (action : PreparedAction) : D :=
  h.hash "compute-shape" action.payload

end ComputeBudgetShapeTemplate

/-! ## Local shapes -/

/-- An amount and a flag, as the two local templates write them. -/
def flaggedAmount (amount : UInt64) (flag : Bool) : List UInt8 :=
  FixedCodec.leBytes 8 amount.toNat ++ [if flag then 1 else 0]

/-- Localnet-only lifecycle of a test-token account. -/
structure LocalTokenHousekeepingTemplate where
  tokenProgramId : Vector UInt8 32
deriving DecidableEq, Repr

namespace LocalTokenHousekeepingTemplate

/-- The name of the template. -/
def identifier : String := "local-token-housekeeping-v1"

/-- The one program of the template. -/
def requiredProgramIds (template : LocalTokenHousekeepingTemplate) : List (Vector UInt8 32) :=
  [template.tokenProgramId]

/-- Prepare the lifecycle of a token account. -/
def prepare (template : LocalTokenHousekeepingTemplate) :
    ActionParameters → Except ActionError PreparedAction
  | .localTokenHousekeeping amount closeAccount => do
      failIf (1000000 < amount) .valueLimitExceeded
      return prepared identifier template.requiredProgramIds (flaggedAmount amount closeAccount)
        50000 0 amount .localOnly
  | _ => .error .wrongParameters

def redactedFingerprint {D : Type} (h : Blake3 D) (action : PreparedAction) : D :=
  h.hash "token-housekeeping-shape" [action.payload.getLast?.getD 0]

end LocalTokenHousekeepingTemplate

/-- Localnet-only create and deactivate shape of native stake. -/
structure LocalStakeLifecycleTemplate where
  stakeProgramId : Vector UInt8 32
deriving DecidableEq, Repr

namespace LocalStakeLifecycleTemplate

/-- The name of the template. -/
def identifier : String := "local-stake-lifecycle-v1"

/-- The one program of the template. -/
def requiredProgramIds (template : LocalStakeLifecycleTemplate) : List (Vector UInt8 32) :=
  [template.stakeProgramId]

/-- Prepare the lifecycle of a stake. -/
def prepare (template : LocalStakeLifecycleTemplate) :
    ActionParameters → Except ActionError PreparedAction
  | .localStakeLifecycle lamports deactivate => do
      failIf (lamports = 0 ∨ 1000000 < lamports) .valueLimitExceeded
      return prepared identifier template.requiredProgramIds (flaggedAmount lamports deactivate)
        100000 0 lamports .localOnly
  | _ => .error .wrongParameters

def redactedFingerprint {D : Type} (h : Blake3 D) (action : PreparedAction) : D :=
  h.hash "stake-lifecycle-shape" [action.payload.getLast?.getD 0]

end LocalStakeLifecycleTemplate

/-! ## Memo -/

namespace MemoTemplate

/-- The simulation of a memo, which reports an oversized action instead of
refusing it. -/
def simulate (action : PreparedAction) : Except ActionError SimulationResult :=
  return {
    succeeded := action.estimatedSize ≤ 1232
    estimatedFeeLamports := 5000
    computeUnitsConsumed := 4000
    redactedError := none }

def redactedFingerprint {D : Type} (h : Blake3 D) (action : PreparedAction) : D :=
  h.hash "memo-shape"
    [if action.payload.length < 256 then UInt8.ofNat action.payload.length else 255]

end MemoTemplate

/-! ## One interface -/

/-- The four built-in templates. -/
inductive BuiltInTemplate where
  | memo (template : MemoTemplate)
  | computeBudget (template : ComputeBudgetShapeTemplate)
  | localTokenHousekeeping (template : LocalTokenHousekeepingTemplate)
  | localStakeLifecycle (template : LocalStakeLifecycleTemplate)
deriving DecidableEq, Repr

namespace BuiltInTemplate

/-- The name of a template. -/
def identifier : BuiltInTemplate → String
  | memo _ => MemoTemplate.identifier
  | computeBudget _ => ComputeBudgetShapeTemplate.identifier
  | localTokenHousekeeping _ => LocalTokenHousekeepingTemplate.identifier
  | localStakeLifecycle _ => LocalStakeLifecycleTemplate.identifier

/-- The programs of a template. -/
def requiredProgramIds : BuiltInTemplate → List (Vector UInt8 32)
  | memo template => template.requiredProgramIds
  | computeBudget template => template.requiredProgramIds
  | localTokenHousekeeping template => template.requiredProgramIds
  | localStakeLifecycle template => template.requiredProgramIds

/-- The risk class of a template. -/
def safetyClassification : BuiltInTemplate → SafetyClassification
  | memo _ => MemoTemplate.safetyClassification
  | computeBudget _ => .lowRisk
  | localTokenHousekeeping _ => .localOnly
  | localStakeLifecycle _ => .localOnly

/-- The action of a template, from parameters of its kind. -/
def prepare : BuiltInTemplate → ActionParameters → Except ActionError PreparedAction
  | memo template => template.prepare
  | computeBudget template => template.prepare
  | localTokenHousekeeping template => template.prepare
  | localStakeLifecycle template => template.prepare

/-- The simulation of a template. -/
def simulate : BuiltInTemplate → PreparedAction → Except ActionError SimulationResult
  | memo _ => MemoTemplate.simulate
  | _ => boundedSimulation

/-- The fingerprint under a template. -/
def redactedFingerprint {D : Type} (h : Blake3 D) : BuiltInTemplate → PreparedAction → D
  | memo _ => MemoTemplate.redactedFingerprint h
  | computeBudget _ => ComputeBudgetShapeTemplate.redactedFingerprint h
  | localTokenHousekeeping _ => LocalTokenHousekeepingTemplate.redactedFingerprint h
  | localStakeLifecycle _ => LocalStakeLifecycleTemplate.redactedFingerprint h

end BuiltInTemplate

/-! ## Successful preparations -/

/-- The quotient of two words rounded up, as a number. -/
theorem toNat_divCeil {a b : UInt32} (hb : 1 < b.toNat) :
    (divCeil a b).toNat = a.toNat / b.toNat + if 0 < a.toNat % b.toNat then 1 else 0 := by
  have hquot : a.toNat / b.toNat < 2 ^ 31 := by
    have ha := a.toNat_lt
    have htwo : a.toNat / b.toNat ≤ a.toNat / 2 := Nat.div_le_div_left hb (by decide)
    omega
  have hmod : (0 < a % b) ↔ 0 < a.toNat % b.toNat := by
    rw [UInt32.lt_iff_toNat_lt, UInt32.toNat_mod]
    rfl
  unfold divCeil
  simp only [hmod]
  split
  · rw [UInt32.toNat_add, UInt32.toNat_div]
    exact Nat.mod_eq_of_lt (by simp; omega)
  · rw [UInt32.toNat_div, Nat.add_zero]

/-- A small payload declares its exact size. -/
theorem toNat_declaredSize {payload : List UInt8} (hsmall : payload.length ≤ 1132) :
    (declaredSize payload).toNat = 100 + payload.length := by
  have hfits : 100 + payload.length < 2 ^ 16 := by omega
  rw [declaredSize, toUInt16, if_pos hfits, Option.getD_some, UInt16.toNat_ofNat_of_lt' hfits]

/-- An action with a short payload declares its exact size. -/
theorem size_prepared {template : String} {programIds : List (Vector UInt8 32)}
    {payload : List UInt8} {computeUnits : UInt32} {priorityFee value : UInt64}
    {safety : SafetyClassification} (hshort : payload.length ≤ 64) :
    (prepared template programIds payload computeUnits priorityFee value safety).payload.length ≤
        64 ∧
      (prepared template programIds payload computeUnits priorityFee value
        safety).estimatedSize.toNat = 100 + payload.length :=
  ⟨hshort, toNat_declaredSize (hshort.trans (by decide))⟩

namespace ComputeBudgetShapeTemplate

theorem toNat_divCeil_bucket (units : UInt32) :
    (divCeil units 25000).toNat = (units.toNat + 24999) / 25000 := by
  rw [toNat_divCeil (by decide)]
  show units.toNat / 25000 + (if 0 < units.toNat % 25000 then 1 else 0) = _
  split <;> omega

/-- The product of admissible units does not overflow. -/
theorem canonicalUnits_exact {units : UInt32} (hhigh : units ≤ 200000) :
    (canonicalUnits units).toNat = (divCeil units 25000).toNat * 25000 := by
  have hle : units.toNat ≤ 200000 := UInt32.le_iff_toNat_le.mp hhigh
  have hceil := toNat_divCeil_bucket units
  rw [canonicalUnits, UInt32.toNat_mul]
  exact Nat.mod_eq_of_lt (by simp; omega)

/-- The rounding of admissible units stays within the limit. -/
theorem toNat_canonicalUnits {units : UInt32} (hhigh : units ≤ 200000) :
    (canonicalUnits units).toNat = (units.toNat + 24999) / 25000 * 25000 ∧
      (canonicalUnits units).toNat ≤ 200000 := by
  have hle : units.toNat ≤ 200000 := UInt32.le_iff_toNat_le.mp hhigh
  rw [canonicalUnits_exact hhigh, toNat_divCeil_bucket]
  omega

/-- The prepared units are the least bucket that holds the requested ones. -/
theorem isLeast_canonicalUnits {units : UInt32} (hhigh : units ≤ 200000) :
    IsLeast {n | 25000 ∣ n ∧ units.toNat ≤ n} (canonicalUnits units).toNat := by
  rw [(toNat_canonicalUnits hhigh).1]
  constructor
  · exact ⟨Nat.dvd_mul_left .., by omega⟩
  · rintro n ⟨⟨k, rfl⟩, hn⟩
    omega

/-- The payload of a compute budget has twelve bytes. -/
theorem length_payload (units : UInt32) (priorityFee : UInt64) :
    (payload units priorityFee).length = 12 := by
  rw [payload, List.length_append, FixedCodec.length_leBytes, FixedCodec.length_leBytes]

/-- The action prepared for a budget. -/
def budgetAction (template : ComputeBudgetShapeTemplate) (units : UInt32) (priorityFee : UInt64) :
    PreparedAction :=
  prepared identifier template.requiredProgramIds (payload (canonicalUnits units) priorityFee)
    (canonicalUnits units) priorityFee 0 .lowRisk

/-- Exactly the budgets within the bounds are prepared. -/
theorem prepare_eq_ok {template : ComputeBudgetShapeTemplate} {parameters : ActionParameters}
    {action : PreparedAction} :
    template.prepare parameters = .ok action ↔
      ∃ units priorityFee, parameters = .computeBudget units priorityFee ∧ 10000 ≤ units ∧
        units ≤ 200000 ∧ priorityFee ≤ 1000 ∧ action = template.budgetAction units priorityFee := by
  cases parameters with
  | computeBudget units priorityFee =>
      simp only [prepare, bind_eq_ok, failIf_eq_ok, exists_const, pure_eq_ok, not_or, not_not,
        UInt64.not_lt, ActionParameters.computeBudget.injEq]
      constructor
      · rintro ⟨⟨⟨hlow, hhigh⟩, hfee⟩, haction⟩
        exact ⟨units, priorityFee, ⟨rfl, rfl⟩, hlow, hhigh, hfee, haction.symm⟩
      · rintro ⟨_, _, ⟨rfl, rfl⟩, hlow, hhigh, hfee, haction⟩
        exact ⟨⟨⟨hlow, hhigh⟩, hfee⟩, haction.symm⟩
  | memo => simp [prepare]
  | localTokenHousekeeping => simp [prepare]
  | localStakeLifecycle => simp [prepare]

end ComputeBudgetShapeTemplate

/-- An amount and a flag take nine bytes. -/
theorem length_flaggedAmount (amount : UInt64) (flag : Bool) :
    (flaggedAmount amount flag).length = 9 := by
  rw [flaggedAmount, List.length_append, FixedCodec.length_leBytes, List.length_singleton]

namespace LocalTokenHousekeepingTemplate

/-- The action prepared for a token account. -/
def tokenAction (template : LocalTokenHousekeepingTemplate) (amount : UInt64)
    (closeAccount : Bool) : PreparedAction :=
  prepared identifier template.requiredProgramIds (flaggedAmount amount closeAccount) 50000 0 amount
    .localOnly

/-- Exactly the amounts up to the limit are prepared. -/
theorem prepare_eq_ok {template : LocalTokenHousekeepingTemplate} {parameters : ActionParameters}
    {action : PreparedAction} :
    template.prepare parameters = .ok action ↔
      ∃ amount closeAccount, parameters = .localTokenHousekeeping amount closeAccount ∧
        amount ≤ 1000000 ∧ action = template.tokenAction amount closeAccount := by
  cases parameters with
  | localTokenHousekeeping amount closeAccount =>
      simp only [prepare, bind_eq_ok, failIf_eq_ok, exists_const, pure_eq_ok, UInt64.not_lt,
        ActionParameters.localTokenHousekeeping.injEq]
      constructor
      · rintro ⟨hlimit, haction⟩
        exact ⟨amount, closeAccount, ⟨rfl, rfl⟩, hlimit, haction.symm⟩
      · rintro ⟨_, _, ⟨rfl, rfl⟩, hlimit, haction⟩
        exact ⟨hlimit, haction.symm⟩
  | memo => simp [prepare]
  | computeBudget => simp [prepare]
  | localStakeLifecycle => simp [prepare]

end LocalTokenHousekeepingTemplate

namespace LocalStakeLifecycleTemplate

/-- The action prepared for a stake. -/
def stakeAction (template : LocalStakeLifecycleTemplate) (lamports : UInt64)
    (deactivate : Bool) : PreparedAction :=
  prepared identifier template.requiredProgramIds (flaggedAmount lamports deactivate) 100000 0
    lamports .localOnly

/-- Exactly the positive amounts up to the limit are prepared. -/
theorem prepare_eq_ok {template : LocalStakeLifecycleTemplate} {parameters : ActionParameters}
    {action : PreparedAction} :
    template.prepare parameters = .ok action ↔
      ∃ lamports deactivate, parameters = .localStakeLifecycle lamports deactivate ∧
        lamports ≠ 0 ∧ lamports ≤ 1000000 ∧ action = template.stakeAction lamports deactivate := by
  cases parameters with
  | localStakeLifecycle lamports deactivate =>
      simp only [prepare, bind_eq_ok, failIf_eq_ok, exists_const, pure_eq_ok, not_or,
        UInt64.not_lt, ActionParameters.localStakeLifecycle.injEq]
      constructor
      · rintro ⟨⟨hpositive, hlimit⟩, haction⟩
        exact ⟨lamports, deactivate, ⟨rfl, rfl⟩, hpositive, hlimit, haction.symm⟩
      · rintro ⟨_, _, ⟨rfl, rfl⟩, hpositive, hlimit, haction⟩
        exact ⟨⟨hpositive, hlimit⟩, haction.symm⟩
  | memo => simp [prepare]
  | computeBudget => simp [prepare]
  | localTokenHousekeeping => simp [prepare]

end LocalStakeLifecycleTemplate

namespace BuiltInTemplate

/-- The parameters that a template prepares, with the actions it makes of
them. -/
inductive Prepares : BuiltInTemplate → ActionParameters → PreparedAction → Prop where
  | memo (template : MemoTemplate) {text : String} (accepts : MemoTemplate.Accepts text) :
      Prepares (.memo template) (.memo text) (template.memoAction text)
  | computeBudget (template : ComputeBudgetShapeTemplate) {units : UInt32} {priorityFee : UInt64}
      (low : 10000 ≤ units) (high : units ≤ 200000) (fee : priorityFee ≤ 1000) :
      Prepares (.computeBudget template) (.computeBudget units priorityFee)
        (template.budgetAction units priorityFee)
  | localTokenHousekeeping (template : LocalTokenHousekeepingTemplate) {amount : UInt64}
      {closeAccount : Bool} (limit : amount ≤ 1000000) :
      Prepares (.localTokenHousekeeping template) (.localTokenHousekeeping amount closeAccount)
        (template.tokenAction amount closeAccount)
  | localStakeLifecycle (template : LocalStakeLifecycleTemplate) {lamports : UInt64}
      {deactivate : Bool} (positive : lamports ≠ 0) (limit : lamports ≤ 1000000) :
      Prepares (.localStakeLifecycle template) (.localStakeLifecycle lamports deactivate)
        (template.stakeAction lamports deactivate)

variable {template : BuiltInTemplate} {parameters : ActionParameters} {action : PreparedAction}

/-- A template prepares exactly the parameters of its own kind within its
bounds. -/
theorem prepare_eq_ok :
    template.prepare parameters = .ok action ↔ Prepares template parameters action := by
  constructor
  · intro hprepare
    cases template with
    | memo template =>
        rcases MemoTemplate.prepare_eq_ok.mp hprepare with ⟨text, rfl, haccepts, rfl⟩
        exact .memo template haccepts
    | computeBudget template =>
        rcases ComputeBudgetShapeTemplate.prepare_eq_ok.mp hprepare with
          ⟨units, priorityFee, rfl, hlow, hhigh, hfee, rfl⟩
        exact .computeBudget template hlow hhigh hfee
    | localTokenHousekeeping template =>
        rcases LocalTokenHousekeepingTemplate.prepare_eq_ok.mp hprepare with
          ⟨amount, closeAccount, rfl, hlimit, rfl⟩
        exact .localTokenHousekeeping template hlimit
    | localStakeLifecycle template =>
        rcases LocalStakeLifecycleTemplate.prepare_eq_ok.mp hprepare with
          ⟨lamports, deactivate, rfl, hpositive, hlimit, rfl⟩
        exact .localStakeLifecycle template hpositive hlimit
  · intro hprepares
    cases hprepares with
    | memo template haccepts =>
        exact MemoTemplate.prepare_eq_ok.mpr ⟨_, rfl, haccepts, rfl⟩
    | computeBudget template hlow hhigh hfee =>
        exact ComputeBudgetShapeTemplate.prepare_eq_ok.mpr ⟨_, _, rfl, hlow, hhigh, hfee, rfl⟩
    | localTokenHousekeeping template hlimit =>
        exact LocalTokenHousekeepingTemplate.prepare_eq_ok.mpr ⟨_, _, rfl, hlimit, rfl⟩
    | localStakeLifecycle template hpositive hlimit =>
        exact LocalStakeLifecycleTemplate.prepare_eq_ok.mpr
          ⟨_, _, rfl, hpositive, hlimit, rfl⟩

/-- A prepared action has a short payload and declares its exact size. -/
theorem Prepares.size (hprepares : Prepares template parameters action) :
    action.payload.length ≤ 64 ∧ action.estimatedSize.toNat = 100 + action.payload.length := by
  cases hprepares with
  | @memo template text haccepts =>
      have hlength := MemoTemplate.length_paddedBytes haccepts.2.1
      have hbucket := MemoTemplate.bucket_cases text.utf8ByteSize
      have hsmall : 100 + MemoTemplate.bucket text.utf8ByteSize < 2 ^ 16 := by omega
      constructor
      · show (MemoTemplate.paddedBytes text).length ≤ 64
        omega
      · show (UInt16.ofNat (100 + MemoTemplate.bucket text.utf8ByteSize)).toNat = _
        rw [UInt16.toNat_ofNat_of_lt' hsmall, ← hlength]
        rfl
  | computeBudget template =>
      exact size_prepared ((ComputeBudgetShapeTemplate.length_payload ..).trans_le (by decide))
  | localTokenHousekeeping template =>
      exact size_prepared ((length_flaggedAmount ..).trans_le (by decide))
  | localStakeLifecycle template =>
      exact size_prepared ((length_flaggedAmount ..).trans_le (by decide))

/-- The simulation of a prepared action succeeds, with a fixed fee. -/
theorem Prepares.simulates (hprepares : Prepares template parameters action) :
    ∃ consumed, template.simulate action = .ok
      { succeeded := true, estimatedFeeLamports := 5000, computeUnitsConsumed := consumed,
        redactedError := none } := by
  have hsize : action.estimatedSize ≤ 1232 := by
    rw [UInt16.le_iff_toNat_le, hprepares.size.2]
    exact Nat.le_trans (Nat.add_le_add_left hprepares.size.1 100) (by decide)
  have hbounded : boundedSimulation action = .ok
      { succeeded := true, estimatedFeeLamports := 5000,
        computeUnitsConsumed := action.computeUnits / 2, redactedError := none } := by
    simp only [boundedSimulation, bind_eq_ok, failIf_eq_ok, exists_const, pure_eq_ok, and_true,
      UInt16.not_lt]
    exact hsize
  cases hprepares with
  | memo template =>
      refine ⟨4000, ?_⟩
      rw [simulate, MemoTemplate.simulate, pure_eq_ok, decide_eq_true hsize]
  | computeBudget template => exact ⟨_, hbounded⟩
  | localTokenHousekeeping template => exact ⟨_, hbounded⟩
  | localStakeLifecycle template => exact ⟨_, hbounded⟩

end BuiltInTemplate

end MirrorPool
