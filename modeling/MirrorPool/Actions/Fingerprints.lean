import MirrorPool.Actions.BuiltIn

/-!
# What a redacted fingerprint reveals

The fingerprint of a prepared action is taken from the length of its payload,
from its last byte, or from all of it.  In each case the hashed bytes are a
function of the public shape of the parameters, and determine it.

Main results:

- Inductive {lit}`PublicShape`: what is public about the parameters of an action.
- Theorem {lit}`BuiltInTemplate.Prepares.fingerprint_eq`: a fingerprint is the
  hash of a public shape.
- Theorem {lit}`fingerprints_eq_iff`: without collisions, two fingerprints agree
  exactly when the templates and the public shapes do.
-/

namespace MirrorPool

open Fallible

/-- What is public about the parameters of an action: the bucket of a memo, the
bucket of 25,000 units and the fee of a budget, and the flags of the local
shapes. -/
inductive PublicShape where
  | memo (bucket : Nat)
  | computeBudget (bucket : Nat) (priorityFee : UInt64)
  | localTokenHousekeeping (closeAccount : Bool)
  | localStakeLifecycle (deactivate : Bool)
deriving DecidableEq, Repr

/-- The public shape of some parameters. -/
def ActionParameters.publicShape : ActionParameters → PublicShape
  | memo text => .memo (MemoTemplate.bucket text.utf8ByteSize)
  | computeBudget units priorityFee => .computeBudget ((units.toNat + 24999) / 25000) priorityFee
  | localTokenHousekeeping _ closeAccount => .localTokenHousekeeping closeAccount
  | localStakeLifecycle _ deactivate => .localStakeLifecycle deactivate

namespace PublicShape

/-- The template that prepares actions of a shape. -/
def identifier : PublicShape → String
  | memo _ => MemoTemplate.identifier
  | computeBudget .. => ComputeBudgetShapeTemplate.identifier
  | localTokenHousekeeping _ => LocalTokenHousekeepingTemplate.identifier
  | localStakeLifecycle _ => LocalStakeLifecycleTemplate.identifier

/-- The domain in which a shape is hashed. -/
def domain : PublicShape → String
  | memo _ => "memo-shape"
  | computeBudget .. => "compute-shape"
  | localTokenHousekeeping _ => "token-housekeeping-shape"
  | localStakeLifecycle _ => "stake-lifecycle-shape"

/-- The bytes that are hashed for a shape. -/
def disclosed : PublicShape → List UInt8
  | memo bucket => [UInt8.ofNat bucket]
  | computeBudget bucket priorityFee =>
      FixedCodec.leBytes 4 (bucket * 25000) ++ FixedCodec.leBytes 8 priorityFee.toNat
  | localTokenHousekeeping closeAccount => [if closeAccount then 1 else 0]
  | localStakeLifecycle deactivate => [if deactivate then 1 else 0]

/-- Buckets that a template can produce. -/
def Bounded : PublicShape → Prop
  | memo bucket => bucket < 256
  | computeBudget bucket _ => bucket * 25000 < 2 ^ 32
  | _ => True

theorem zero_notMem_domain (shape : PublicShape) : 0 ∉ ascii shape.domain := by
  cases shape <;> simp [domain, ascii]

/-- The hashed bytes determine a shape within its domain. -/
theorem disclosed_inj {shape shape' : PublicShape} (hbounded : shape.Bounded)
    (hbounded' : shape'.Bounded) (hdomain : ascii shape.domain = ascii shape'.domain)
    (hdisclosed : shape.disclosed = shape'.disclosed) : shape = shape' := by
  cases shape with
  | memo bucket =>
      cases shape' with
      | memo bucket' =>
          have hbyte := congrArg UInt8.toNat (List.singleton_inj.mp hdisclosed)
          rw [UInt8.toNat_ofNat_of_lt' hbounded, UInt8.toNat_ofNat_of_lt' hbounded'] at hbyte
          rw [hbyte]
      | _ => simp [domain, ascii] at hdomain
  | computeBudget bucket priorityFee =>
      cases shape' with
      | computeBudget bucket' priorityFee' =>
          rcases List.append_inj hdisclosed (by simp [FixedCodec.length_leBytes]) with
            ⟨hunits, hfee⟩
          have hbucket := congrArg FixedCodec.ofLeBytes hunits
          rw [FixedCodec.ofLeBytes_leBytes hbounded, FixedCodec.ofLeBytes_leBytes hbounded']
            at hbucket
          have hpriority := congrArg FixedCodec.ofLeBytes hfee
          rw [FixedCodec.ofLeBytes_leBytes priorityFee.toNat_lt,
            FixedCodec.ofLeBytes_leBytes priorityFee'.toNat_lt] at hpriority
          rw [Nat.eq_of_mul_eq_mul_right (by decide) hbucket, UInt64.toNat_inj.mp hpriority]
      | _ => simp [domain, ascii] at hdomain
  | localTokenHousekeeping closeAccount =>
      cases shape' with
      | localTokenHousekeeping closeAccount' =>
          cases closeAccount <;> cases closeAccount' <;> simp_all [disclosed]
      | _ => simp [domain, ascii] at hdomain
  | localStakeLifecycle deactivate =>
      cases shape' with
      | localStakeLifecycle deactivate' =>
          cases deactivate <;> cases deactivate' <;> simp_all [disclosed]
      | _ => simp [domain, ascii] at hdomain

end PublicShape

namespace BuiltInTemplate

variable {D : Type} {h : Blake3 D} {template : BuiltInTemplate} {parameters : ActionParameters}
  {action : PreparedAction}

/-- The flag of a local shape is the last byte of its payload. -/
theorem getLast?_flaggedAmount (amount : UInt64) (flag : Bool) :
    (flaggedAmount amount flag).getLast?.getD 0 = if flag then 1 else 0 := by
  rw [flaggedAmount, List.getLast?_append, List.getLast?_singleton, Option.some_or,
    Option.getD_some]

/-- The fingerprint of a prepared action is the hash of its public shape. -/
theorem Prepares.fingerprint_eq (hprepares : Prepares template parameters action) :
    template.redactedFingerprint h action =
      h.hash parameters.publicShape.domain parameters.publicShape.disclosed := by
  cases hprepares with
  | @memo template text haccepts =>
      have hlength : (template.memoAction text).payload.length =
          MemoTemplate.bucket text.utf8ByteSize :=
        MemoTemplate.length_paddedBytes haccepts.2.1
      have hcases := MemoTemplate.bucket_cases text.utf8ByteSize
      rw [redactedFingerprint, MemoTemplate.redactedFingerprint, hlength, if_pos (by omega)]
      rfl
  | computeBudget template hlow hhigh =>
      rw [redactedFingerprint, ComputeBudgetShapeTemplate.redactedFingerprint,
        ActionParameters.publicShape, PublicShape.disclosed,
        ← (ComputeBudgetShapeTemplate.toNat_canonicalUnits hhigh).1]
      rfl
  | localTokenHousekeeping template =>
      exact congrArg (fun flag => h.hash "token-housekeeping-shape" [flag])
        (getLast?_flaggedAmount ..)
  | localStakeLifecycle template =>
      exact congrArg (fun flag => h.hash "stake-lifecycle-shape" [flag])
        (getLast?_flaggedAmount ..)

/-- The public shape of prepared parameters is one of the template's. -/
theorem Prepares.publicShape_bounded (hprepares : Prepares template parameters action) :
    parameters.publicShape.Bounded ∧ parameters.publicShape.identifier = template.identifier := by
  cases hprepares with
  | @memo template text =>
      have hcases := MemoTemplate.bucket_cases text.utf8ByteSize
      exact ⟨show MemoTemplate.bucket text.utf8ByteSize < 256 by omega, rfl⟩
  | @computeBudget template units priorityFee hlow hhigh =>
      have hlimit := (ComputeBudgetShapeTemplate.toNat_canonicalUnits hhigh).2
      rw [(ComputeBudgetShapeTemplate.toNat_canonicalUnits hhigh).1] at hlimit
      exact ⟨show (units.toNat + 24999) / 25000 * 25000 < 2 ^ 32 by omega, rfl⟩
  | localTokenHousekeeping => exact ⟨trivial, rfl⟩
  | localStakeLifecycle => exact ⟨trivial, rfl⟩

end BuiltInTemplate

/-- Without collisions, the fingerprints of two prepared actions agree exactly
when the templates and the public shapes of the parameters do. -/
theorem fingerprints_eq_iff {D : Type} {h : Blake3 D} (hfree : h.CollisionFree)
    {template template' : BuiltInTemplate} {parameters parameters' : ActionParameters}
    {action action' : PreparedAction} (hprepare : template.prepare parameters = .ok action)
    (hprepare' : template'.prepare parameters' = .ok action') :
    template.redactedFingerprint h action = template'.redactedFingerprint h action' ↔
      template.identifier = template'.identifier ∧
        parameters.publicShape = parameters'.publicShape := by
  have hprepares := BuiltInTemplate.prepare_eq_ok.mp hprepare
  have hprepares' := BuiltInTemplate.prepare_eq_ok.mp hprepare'
  rcases hprepares.publicShape_bounded with ⟨hbounded, hidentifier⟩
  rcases hprepares'.publicShape_bounded with ⟨hbounded', hidentifier'⟩
  rw [hprepares.fingerprint_eq, hprepares'.fingerprint_eq]
  constructor
  · intro hhash
    rcases hfree.hash_inj (PublicShape.zero_notMem_domain _) (PublicShape.zero_notMem_domain _)
      hhash with ⟨hdomain, hdisclosed⟩
    have hshape := PublicShape.disclosed_inj hbounded hbounded' hdomain hdisclosed
    exact ⟨by rw [← hidentifier, ← hidentifier', hshape], hshape⟩
  · rintro ⟨-, hshape⟩
    rw [hshape]

/-- The action of a stake under the template of some program. -/
def demoStake (program : UInt8) (lamports : UInt64) (deactivate : Bool) : PreparedAction :=
  LocalStakeLifecycleTemplate.stakeAction ⟨Vector.replicate 32 program⟩ lamports deactivate

/-- Two amounts with one flag have one fingerprint. -/
theorem fingerprints_eq_iff_demo :
    LocalStakeLifecycleTemplate.redactedFingerprint Blake3.verbatim (demoStake 3 10 true) =
      LocalStakeLifecycleTemplate.redactedFingerprint Blake3.verbatim
        (demoStake 4 1000000 true) := by
  have hfirst : (BuiltInTemplate.localStakeLifecycle ⟨Vector.replicate 32 3⟩).prepare
      (.localStakeLifecycle 10 true) = .ok (demoStake 3 10 true) :=
    BuiltInTemplate.prepare_eq_ok.mpr (.localStakeLifecycle _ (by decide) (by decide))
  have hsecond : (BuiltInTemplate.localStakeLifecycle ⟨Vector.replicate 32 4⟩).prepare
      (.localStakeLifecycle 1000000 true) = .ok (demoStake 4 1000000 true) :=
    BuiltInTemplate.prepare_eq_ok.mpr (.localStakeLifecycle _ (by decide) (by decide))
  exact (fingerprints_eq_iff Blake3.verbatim_collisionFree hfirst hsecond).mpr ⟨rfl, rfl⟩

end MirrorPool
