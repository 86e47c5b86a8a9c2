import MirrorPool.Actions.Policy

/-!
# Action templates

A template turns the parameters of a participant into a prepared action.  The
memo template pads a short text with spaces, so that the length of the payload
gives away only a bucket.

Main results:

- Definition {lit}`MemoTemplate.prepare`: the memo action of a text.
- Theorem {lit}`MemoTemplate.prepare_eq_ok`: which texts are prepared, and how.
- Definition {lit}`PreparedAction.IsCanonicalMemo`: the shape of a memo action.
- Theorem {lit}`PreparedAction.isCanonicalMemo_iff`: the shape in terms of the
  bytes.
-/

namespace MirrorPool

open Fallible

/-- Parameters accepted by the built-in templates. -/
inductive ActionParameters where
  | memo (text : String)
  | computeBudget (units : UInt32) (priorityFee : UInt64)
  | localTokenHousekeeping (amount : UInt64) (closeAccount : Bool)
  | localStakeLifecycle (lamports : UInt64) (deactivate : Bool)
deriving DecidableEq, Repr

/-- The character is a control character. -/
def isControl (c : Char) : Bool :=
  c.val ≤ 0x1F ∨ (0x7F ≤ c.val ∧ c.val ≤ 0x9F)

/-- The bytes of a text. -/
def asBytes (text : String) : List UInt8 := text.toByteArray.data.toList

theorem length_asBytes (text : String) : (asBytes text).length = text.utf8ByteSize :=
  Array.length_toList

/-- Cut a list of bytes, or fill it up, to the given size. -/
def resize (bytes : List UInt8) (size : Nat) (value : UInt8) : List UInt8 :=
  (bytes.take size).rightpad size value

theorem resize_of_length_le {bytes : List UInt8} {size : Nat} (value : UInt8)
    (hlength : bytes.length ≤ size) : resize bytes size value = bytes.rightpad size value := by
  rw [resize, List.take_of_length_le hlength]

/-- A size as a 16-bit word. -/
def toUInt16 (size : Nat) : Option UInt16 :=
  if size < 2 ^ 16 then some (UInt16.ofNat size) else none

/-- Safe bounded memo-shape template. -/
structure MemoTemplate where
  memoProgramId : Vector UInt8 32
deriving DecidableEq, Repr

namespace MemoTemplate

def identifier : String := "memo-v1"

def requiredProgramIds (template : MemoTemplate) : List (Vector UInt8 32) :=
  [template.memoProgramId]

def safetyClassification : SafetyClassification := .lowRisk

/-- The padded length of a text. -/
def bucket (length : Nat) : Nat :=
  if length ≤ 16 then 16 else if length ≤ 32 then 32 else 64

/-- A text of the bounded content policy. -/
def Accepts (text : String) : Prop :=
  text ≠ "" ∧ text.utf8ByteSize ≤ 64 ∧ ∀ c ∈ text.toList, isControl c = false

/-- Prepare the memo action of a text. -/
def prepare (template : MemoTemplate) : ActionParameters → Except ActionError PreparedAction
  | .memo text => do
      failIf (text = "" ∨ 64 < text.utf8ByteSize ∨ text.toList.any isControl = true) .invalidMemo
      let bucket := bucket text.utf8ByteSize
      let payload := resize (asBytes text) bucket 32
      let estimatedSize ← okOr (toUInt16 (100 + bucket)) .sizeExceeded
      return {
        templateId := identifier
        programIds := template.requiredProgramIds
        instructionCount := 1
        payload
        computeUnits := 10000
        priorityFeeMicroLamports := 0
        value := 0
        estimatedSize
        safety := safetyClassification }
  | _ => .error .wrongParameters

/-- The bytes of a text, padded with spaces to its bucket. -/
def paddedBytes (text : String) : List UInt8 :=
  (asBytes text).rightpad (bucket text.utf8ByteSize) 32

theorem le_bucket {length : Nat} (hlength : length ≤ 64) : length ≤ bucket length := by
  unfold bucket
  split
  · assumption
  · split <;> omega

theorem bucket_cases (length : Nat) :
    bucket length = 16 ∨ bucket length = 32 ∨ bucket length = 64 := by
  unfold bucket
  split
  · exact .inl rfl
  · split
    · exact .inr (.inl rfl)
    · exact .inr (.inr rfl)

theorem length_paddedBytes {text : String} (hlength : text.utf8ByteSize ≤ 64) :
    (paddedBytes text).length = bucket text.utf8ByteSize := by
  have hle := le_bucket hlength
  rw [paddedBytes, List.length_rightpad, length_asBytes]
  omega

/-- The action prepared for a text. -/
def memoAction (template : MemoTemplate) (text : String) : PreparedAction where
  templateId := identifier
  programIds := template.requiredProgramIds
  instructionCount := 1
  payload := paddedBytes text
  computeUnits := 10000
  priorityFeeMicroLamports := 0
  value := 0
  estimatedSize := UInt16.ofNat (100 + bucket text.utf8ByteSize)
  safety := safetyClassification

/-- Exactly the texts of the content policy are prepared. -/
theorem prepare_eq_ok {template : MemoTemplate} {parameters : ActionParameters}
    {action : PreparedAction} :
    template.prepare parameters = .ok action ↔
      ∃ text, parameters = .memo text ∧ Accepts text ∧ action = template.memoAction text := by
  cases parameters with
  | memo text =>
      have hsize : toUInt16 (100 + bucket text.utf8ByteSize) =
          some (UInt16.ofNat (100 + bucket text.utf8ByteSize)) := by
        have hcases := bucket_cases text.utf8ByteSize
        exact if_pos (by omega)
      simp only [prepare, bind_eq_ok, failIf_eq_ok, okOr_eq_ok, exists_const, pure_eq_ok, hsize,
        Option.some.injEq, exists_eq_left', not_or, not_lt, List.any_eq_true, not_exists, not_and,
        Bool.not_eq_true, ActionParameters.memo.injEq]
      refine and_congr_right fun haccepts => ?_
      have hlength := le_bucket haccepts.2.1
      rw [← length_asBytes] at hlength
      rw [memoAction, paddedBytes, ← length_asBytes, resize_of_length_le 32 hlength]
      exact eq_comm
  | computeBudget => simp [prepare]
  | localTokenHousekeeping => simp [prepare]
  | localStakeLifecycle => simp [prepare]

end MemoTemplate

/-- The payload and the declared size are those of a memo action. -/
def PreparedAction.IsCanonicalMemo (action : PreparedAction) : Prop :=
  ∃ (template : MemoTemplate) (text : String) (prepared : PreparedAction),
    template.prepare (.memo text) = .ok prepared ∧ action.payload = prepared.payload ∧
      action.estimatedSize = prepared.estimatedSize

namespace PreparedAction

open MemoTemplate

variable {action : PreparedAction}

/-- A canonical payload is an accepted text, padded with spaces to its bucket,
and the declared size is one hundred more than its length. -/
theorem isCanonicalMemo_iff :
    action.IsCanonicalMemo ↔
      ∃ text, Accepts text ∧ action.payload = paddedBytes text ∧
        action.estimatedSize = UInt16.ofNat (100 + action.payload.length) := by
  constructor
  · rintro ⟨template, text, prepared, hprepare, hpayload, hsize⟩
    rcases prepare_eq_ok.mp hprepare with ⟨text', htext, haccepts, rfl⟩
    rcases ActionParameters.memo.inj htext with rfl
    refine ⟨text, haccepts, hpayload, ?_⟩
    rw [hsize, hpayload, memoAction, length_paddedBytes haccepts.2.1]
  · rintro ⟨text, haccepts, hpayload, hsize⟩
    refine ⟨⟨Vector.replicate 32 0⟩, text, _,
      prepare_eq_ok.mpr ⟨text, rfl, haccepts, rfl⟩, hpayload, ?_⟩
    rw [hsize, hpayload, memoAction, length_paddedBytes haccepts.2.1]

/-- A canonical payload has the length of a bucket. -/
theorem IsCanonicalMemo.length_payload (hcanonical : action.IsCanonicalMemo) :
    action.payload.length = 16 ∨ action.payload.length = 32 ∨ action.payload.length = 64 := by
  rcases isCanonicalMemo_iff.mp hcanonical with ⟨text, haccepts, hpayload, -⟩
  rw [hpayload, length_paddedBytes haccepts.2.1]
  exact bucket_cases _

end PreparedAction

end MirrorPool
