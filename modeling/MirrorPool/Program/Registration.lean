import Mathlib.Data.Finset.Card
import MirrorPool.Program.Lifecycle

/-!
# Registrations of the transparent backend

A registration creates the record of a coordination key at the address derived
from the round, the key and a bump byte.  The record is never removed, so a
second registration under the same bump finds the address taken.  The bump comes
from the sender; with one bump for each key, no key is registered twice and the
participant count is the number of registered keys.

Main results:

- Theorem {lit}`registration_creates_record`: a registration takes a record
  address that was free and writes the record there.
- Theorem {lit}`countP_recordKey_le_one`: no record address is used twice.
- Theorem {lit}`countP_registeredKey_le_one`: with one bump no key is registered
  twice.
- Theorem {lit}`one_registration_per_key`: the same together with the count of
  the registered keys.
-/

namespace MirrorPool

open Fallible

variable {rt : Runtime} {L : Ledger} {calls : List (Call rt)} {v : CallVisit rt} {a : Pubkey}

/-! ## Records -/

/-- A program account stays one. -/
theorem AccountStep.owner_eq {call : Call rt} {instruction : CoordinationInstruction}
    {account : Account} (hstep : AccountStep rt L call a instruction account)
    (howned : (L a).owner = rt.programId) : account.owner = rt.programId := by
  cases hstep with
  | initialized _ _ _ _ allocated => exact allocated.owner_eq
  | opened _ _ _ _ _ _ _ _ allocated => exact allocated.owner_eq
  | recorded _ _ _ _ allocated => exact allocated.owner_eq
  | _ => exact howned

/-- The positions of the round and the record of a registration. -/
theorem Succeeds.record_at {call : Call rt} {key : Bytes32} {bump : UInt8} {L' : Ledger}
    (hok : Succeeds rt L call (.registerTransparent key bump) L') :
    ∃ round record, keyAt call.accounts 2 = some round ∧ keyAt call.accounts 3 = some record ∧
      rt.createProgramAddress (Runtime.participantSeeds round key bump) rt.programId =
        some record := by
  rcases execute_eq_ok.mp hok.executed with ⟨⟨instruction, hdecoded, hdispatch⟩, -⟩
  rcases Option.some.inj (hdecoded.symm.trans hok.decoded) with rfl
  obtain ⟨_, _, roundInfo, recordInfo, _, _, _, _, _, _, _, hround, hrecord, _, _, _, _, _, _, _,
    _, _, _, _, hderived, -⟩ := registerTransparent_eq_ok.mp hdispatch
  exact ⟨roundInfo.key, recordInfo.key, keyAt_of_getElem? hround, keyAt_of_getElem? hrecord,
    hderived⟩

/-- The address holds a program account that reads as the given record. -/
structure RecordAt (rt : Runtime) (L : Ledger) (a : Pubkey) (record : ParticipantRecord) :
    Prop where
  owned : (L a).owner = rt.programId
  read : ParticipantRecord.codec.read (L a).data = some record

/-- A registration takes a record address that was free and writes the record
of the round and the key there. -/
theorem registration_creates_record {key : Bytes32} {bump : UInt8}
    (hconsistent : Consistent rt v.before)
    (hok : Succeeded v (.registerTransparent key bump))
    (hround : keyAt v.input.accounts 2 = some a) :
    ∃ record, keyAt v.input.accounts 3 = some record ∧
      rt.createProgramAddress (Runtime.participantSeeds a key bump) rt.programId = some record ∧
      (v.before record).owner ≠ rt.programId ∧
      RecordAt rt v.after record { version := 1, bump, round := a, coordinationKey := key } := by
  rcases hok.record_at with ⟨round, record, hround', hrecord, hderived⟩
  rcases Option.some.inj (hround'.symm.trans hround) with rfl
  refine ⟨record, hrecord, hderived, ?_⟩
  have hwrites : 3 ∈ (CoordinationInstruction.registerTransparent key bump).writes := by
    simp [CoordinationInstruction.writes]
  have hstep := accountStep_of_execute hok record
  generalize hafter : v.after record = account at hstep
  cases hstep with
  | same untouched => exact absurd hrecord (untouched 3 hwrites)
  | wallet untouched => exact absurd hrecord (untouched 3 hwrites)
  | recorded position _ _ _ allocated =>
      rcases Option.some.inj (position.symm.trans hround) with rfl
      refine ⟨fun howned => ?_, ?_⟩
      · exact allocated.not_of_head? howned
          ((hconsistent record howned).record_written hderived).2
      · exact
          { owned := by rw [hafter]; exact allocated.owner_eq
            read := by rw [hafter]; exact Account.read_store }
  | edited _ round_at =>
      -- a record is too short to be read as a round
      have hsize := ((hconsistent record round_at.owned).record_written hderived).1
      have hfits := RoundAccount.codec.width_le_of_read round_at.read
      rw [hsize] at hfits
      exact absurd hfits (by decide)

/-! ## Registered keys -/

/-- The key that the call registers for the round at the address, if it
registers one. -/
def registeredKey (a : Pubkey) (v : CallVisit rt) : Option Bytes32 :=
  match ranOn v a with
  | some (.registerTransparent key _) => some key
  | _ => none

theorem registeredKey_eq_some (hv : v ∈ history rt L calls) {key : Bytes32} :
    registeredKey a v = some key ↔
      ∃ bump, Succeeded v (.registerTransparent key bump) ∧
        keyAt v.input.accounts 2 = some a := by
  unfold registeredKey
  constructor
  · intro hkey
    split at hkey
    · rename_i key' bump hran
      rcases Option.some.inj hkey with rfl
      exact ⟨bump, (ranOn_eq_some hv).mp hran⟩
    · contradiction
  · rintro ⟨bump, hok⟩
    rw [(ranOn_eq_some hv).mpr hok]

/-- The address of the record that the call creates for the round at the given
address, if it creates one. -/
def recordKey (a : Pubkey) (v : CallVisit rt) : Option Pubkey :=
  (registeredKey a v).bind fun _ => keyAt v.input.accounts 3

/-- No record address is used twice: it is free before a registration and taken
after it. -/
theorem countP_recordKey_le_one (hgenesis : Genesis rt L) (record : Pubkey) :
    (history rt L calls).countP (fun v => recordKey a v = some record) ≤ 1 := by
  have hconsistent := (consistent_of_genesis hgenesis calls).2
  refine Runs.countP_visits_le_one (fun L => (L record).owner ≠ rt.programId)
    (fun v hv hfire => ?_) fun v hv hnot => ?_
  · rcases Option.bind_eq_some_iff.mp (of_decide_eq_true hfire) with ⟨key, hkey, hrecord⟩
    rcases (registeredKey_eq_some hv).mp hkey with ⟨bump, hok, hround⟩
    rcases registration_creates_record (hconsistent v hv).1 hok hround with
      ⟨record', hrecord', -, hfree, htaken⟩
    rcases Option.some.inj (hrecord'.symm.trans hrecord) with rfl
    exact ⟨hfree, not_not.mpr htaken.owned⟩
  · rw [not_not] at hnot ⊢
    rcases succeeded_or_unchanged hv with ⟨instruction, hok⟩ | ⟨hsame, -⟩
    · exact (accountStep_of_execute hok record).owner_eq hnot
    · rw [hsame]
      exact hnot

/-- The calls register keys for the round at an address under one bump for each
key, among the bumps that give an address. -/
def OneBump (a : Pubkey) (bumpOf : Bytes32 → UInt8) (v : CallVisit rt) : Prop :=
  ∀ key bump, CoordinationInstruction.tryFromSlice v.input.data =
      some (.registerTransparent key bump) →
    keyAt v.input.accounts 2 = some a →
    (rt.createProgramAddress (Runtime.participantSeeds a key bump) rt.programId).isSome = true →
    bump = bumpOf key

/-- With one bump for each key no key is registered twice. -/
theorem countP_registeredKey_le_one (hgenesis : Genesis rt L) {bumpOf : Bytes32 → UInt8}
    (hbump : ∀ v ∈ history rt L calls, OneBump a bumpOf v) (key : Bytes32) :
    (history rt L calls).countP (fun v => registeredKey a v = some key) ≤ 1 := by
  have hconsistent := (consistent_of_genesis hgenesis calls).2
  -- all registrations of the key use the record address of its bump
  have hrecord : ∀ v ∈ history rt L calls, registeredKey a v = some key →
      ∃ record, rt.createProgramAddress (Runtime.participantSeeds a key (bumpOf key))
        rt.programId = some record ∧ recordKey a v = some record := by
    intro v hv hkey
    rcases (registeredKey_eq_some hv).mp hkey with ⟨bump, hok, hround⟩
    rcases registration_creates_record (hconsistent v hv).1 hok hround with
      ⟨record, hrecord, hderived, -⟩
    rcases hbump v hv key bump hok.decoded hround (by rw [hderived]; rfl) with rfl
    exact ⟨record, hderived, Option.bind_eq_some_iff.mpr ⟨key, hkey, hrecord⟩⟩
  cases hderived : rt.createProgramAddress (Runtime.participantSeeds a key (bumpOf key))
      rt.programId with
  | none =>
      rw [List.countP_eq_zero.mpr fun v hv hkey => ?_]
      · exact Nat.zero_le 1
      · rcases hrecord v hv (of_decide_eq_true hkey) with ⟨record, hsome, -⟩
        exact nomatch hderived.symm.trans hsome
  | some record =>
      have honce : (history rt L calls).countP (fun v => recordKey a v = some record) ≤ 1 :=
        countP_recordKey_le_one hgenesis record
      refine (List.countP_mono_left fun v hv hkey => ?_).trans honce
      rcases hrecord v hv (of_decide_eq_true hkey) with ⟨record', hsome, hused⟩
      rcases Option.some.inj (hderived.symm.trans hsome) with rfl
      exact decide_eq_true hused

/-! ## The participant count -/

/-- The pool of the round at the address has the transparent backend. -/
def TransparentRound (rt : Runtime) (L : Ledger) (a : Pubkey) : Prop :=
  ∀ round pool, RoundAt rt L a round → PoolAt rt L round.pool pool →
    pool.backend = .transparentRegistry

/-- On a transparent round the count goes up by one with each registration and
is not changed otherwise. -/
theorem RoundStep.acceptedCount {call : Call rt} {instruction : CoordinationInstruction}
    {round round' : RoundAccount} (hround : RoundAt rt L a round)
    (htransparent : TransparentRound rt L a)
    (hstep : RoundStep rt L call instruction round round') :
    (∃ key bump, instruction = .registerTransparent key bump ∧
        round'.acceptedCount.toNat = round.acceptedCount.toNat + 1) ∨
      ((∀ key bump, instruction ≠ .registerTransparent key bump) ∧
        round'.acceptedCount = round.acceptedCount) := by
  cases hstep with
  | registered _ _ _ _ _ _ count => exact Or.inl ⟨_, _, rfl, count⟩
  | published passed _ backend own =>
      have hbackend := htransparent round _ hround (own ▸ passed.toPoolAt)
      exact nomatch backend.symm.trans hbackend
  | _ => exact Or.inr ⟨nofun, rfl⟩

/-- The count of a transparent round goes up by the number of registrations. -/
theorem LiveRound.acceptedCount {opened : RoundAccount} {life : List (Call rt)}
    (hlive : LiveRound rt L a opened) (hopen : ∀ v ∈ history rt L life, ¬Closes v a)
    (htransparent : ∀ v ∈ history rt L life, TransparentRound rt v.before a) :
    ∃ last, LiveRound rt (ledgerAfter rt L life) a last ∧
      last.acceptedCount.toNat = opened.acceptedCount.toNat +
        ((history rt L life).filterMap (registeredKey a)).length := by
  induction life generalizing L opened with
  | nil => exact ⟨opened, hlive, rfl⟩
  | cons call life ih =>
      rw [forall_mem_history_cons] at hopen htransparent
      have hmem := callVisit_mem_history rt L call
      rcases hlive.visit hmem hopen.1 with ⟨next, hnext, hvisit⟩
      rcases ih hnext hopen.2 htransparent.2 with ⟨last, hlast, hcount⟩
      refine ⟨last, hlast, ?_⟩
      rcases hvisit.step hmem with ⟨-, rfl, hran⟩ | ⟨instruction, hran, hstep⟩
      · have hnone : registeredKey a (callVisit rt L call) = none := by
          rw [registeredKey, hran]
        rw [hcount, history_cons, List.filterMap_cons_none hnone]
      · rcases hstep.acceptedCount hlive.toRoundAt htransparent.1 with
          ⟨key, bump, rfl, hnextCount⟩ | ⟨hother, hnextCount⟩
        · have hsome : registeredKey a (callVisit rt L call) = some key := by
            rw [registeredKey, hran]
          rw [hcount, hnextCount, history_cons, List.filterMap_cons_some hsome,
            List.length_cons, Nat.add_assoc, Nat.add_comm 1]
        · have hnone : registeredKey a (callVisit rt L call) = none := by
            rw [registeredKey, hran]
            cases instruction with
            | registerTransparent key bump => exact absurd rfl (hother key bump)
            | _ => rfl
          rw [hcount, hnextCount, history_cons, List.filterMap_cons_none hnone]

/-- Values that come up at most once in a run are distinct in its last part. -/
theorem nodup_filterMap_history {β : Type} [DecidableEq β] {f : CallVisit rt → Option β}
    (before life : List (Call rt)) (opening : Call rt)
    (honce : ∀ x, (history rt L (before ++ opening :: life)).countP (fun v => f v = some x) ≤ 1) :
    ((history rt (ledgerAfter rt L (before ++ [opening])) life).filterMap f).Nodup := by
  rw [List.nodup_iff_count_le_one]
  intro x
  simp only [List.count_filterMap, beq_eq_decide]
  have hx := honce x
  rw [history_append_cons, List.countP_append] at hx
  exact (Nat.le_add_left ..).trans hx

/-- With one bump for each key, every key is registered at most once for the
round at an address, and the participant count of a transparent round is the
number of its registered keys. -/
theorem one_registration_per_key (hgenesis : Genesis rt L) (before life : List (Call rt))
    (opening : Call rt) (hopens : Opens (callVisit rt (ledgerAfter rt L before) opening) a)
    (hopen : ∀ v ∈ history rt (ledgerAfter rt L (before ++ [opening])) life, ¬Closes v a)
    (htransparent : ∀ v ∈ history rt (ledgerAfter rt L (before ++ [opening])) life,
      TransparentRound rt v.before a)
    (bumpOf : Bytes32 → UInt8)
    (hbump : ∀ v ∈ history rt L (before ++ opening :: life), OneBump a bumpOf v) :
    (∀ key, (history rt L (before ++ opening :: life)).countP
        (fun v => registeredKey a v = some key) ≤ 1) ∧
      ∃ round, RoundAt rt (ledgerAfter rt L (before ++ opening :: life)) a round ∧
        round.acceptedCount.toNat =
          ((history rt (ledgerAfter rt L (before ++ [opening])) life).filterMap
            (registeredKey a)).toFinset.card := by
  have honce := countP_registeredKey_le_one hgenesis hbump
  refine ⟨honce, ?_⟩
  rcases hopens.live (consistent_of_genesis hgenesis before).1 with ⟨opened, -, hlive, -, hzero, -⟩
  rw [← ledgerAfter_concat] at hlive
  rcases hlive.acceptedCount hopen htransparent with ⟨last, hlast, hcount⟩
  rw [ledgerAfter_append_cons before life opening]
  refine ⟨last, hlast.toRoundAt, ?_⟩
  have hnodup := nodup_filterMap_history before life opening honce
  rw [List.toFinset_card_of_nodup hnodup, hcount, hzero]
  exact Nat.zero_add _

/-- Two keys are registered on the small chain. -/
def demoRegistrations : List (Call demoRuntime) := [demoRegister, demoRegisterOther]

theorem one_registration_per_key_demo :
    (∀ key, (history demoRuntime demoLedger
          (demoInitialize :: demoOpen :: demoRegistrations)).countP
        (fun v => registeredKey (demoKey 21) v = some key) ≤ 1) ∧
      ∃ round, RoundAt demoRuntime (ledgerAfter demoRuntime demoLedger
          (demoInitialize :: demoOpen :: demoRegistrations)) (demoKey 21) round ∧
        round.acceptedCount.toNat =
          ((history demoRuntime (ledgerAfter demoRuntime demoLedger [demoInitialize, demoOpen])
            demoRegistrations).filterMap (registeredKey (demoKey 21))).toFinset.card := by
  have hvisits : ∀ v ∈ history demoRuntime
      (ledgerAfter demoRuntime demoLedger [demoInitialize, demoOpen]) demoRegistrations,
      ran v ≠ some .closeRound ∧
        fieldAt RoundAccount.pool v.before (demoKey 21) = some (demoKey 11) ∧
        (PoolAccount.codec.read (v.before (demoKey 11)).data).map (·.backend) =
          some .transparentRegistry := by
    decide +kernel
  refine one_registration_per_key demoLedger_genesis [demoInitialize] demoRegistrations demoOpen
    demoOpen_opens (fun v hv => ?_) (fun v hv round pool hround hpool => ?_) (fun _ => 255) ?_
  · exact not_closes_of_ran hv (hvisits v hv).1
  · rcases (hvisits v hv).2 with ⟨hkey, hbackend⟩
    rw [Option.some.inj (hround.fieldAt_eq.symm.trans hkey)] at hpool
    rw [hpool.read] at hbackend
    exact Option.some.inj hbackend
  · have hbumps (v) (hv : v ∈ history demoRuntime demoLedger
        (demoInitialize :: demoOpen :: demoRegistrations)) :
        ∀ key bump, CoordinationInstruction.tryFromSlice v.input.data =
          some (.registerTransparent key bump) → bump = 255 := by
      revert v
      simp only [demoRegistrations, forall_mem_history_cons]
      refine ⟨?_, ?_, ?_, ?_, by simp⟩
      all_goals
        intro key bump hdecoded
        cases tableCall_decoded.mp hdecoded
      · rfl
      · rfl
    exact fun v hv key bump hdecoded _ _ => hbumps v hv key bump hdecoded

/-- The first key is registered again, under another bump. -/
def demoRegisterAgain : Call demoRuntime :=
  tableCall 8 [demoSigner 102, demoAccount 11, demoAccount 21, demoAccount 32, demoSystem]
    (.registerTransparent (demoKey 61) 254) (by decide)

/-- Two bumps register one key twice, and the threshold of two is reached with
a single key. -/
theorem two_registrations_of_one_key :
    Genesis demoRuntime demoLedger ∧
      Opens (callVisit demoRuntime (ledgerAfter demoRuntime demoLedger [demoInitialize]) demoOpen)
        (demoKey 21) ∧
      (history demoRuntime demoLedger
          [demoInitialize, demoOpen, demoRegister, demoRegisterAgain]).countP
        (fun v => registeredKey (demoKey 21) v = some (demoKey 61)) = 2 ∧
      fieldAt (fun round => (round.acceptedCount, round.state)) (ledgerAfter demoRuntime demoLedger
        [demoInitialize, demoOpen, demoRegister, demoRegisterAgain]) (demoKey 21) =
        some (2, .thresholdReached) ∧
      ((history demoRuntime demoLedger
          [demoInitialize, demoOpen, demoRegister, demoRegisterAgain]).filterMap
        (registeredKey (demoKey 21))).dedup = [demoKey 61] := by
  refine ⟨demoLedger_genesis, demoOpen_opens, ?_⟩
  decide +kernel

end MirrorPool
