import MirrorPool.Client.RoundPlans
import MirrorPool.Program.Registration

/-!
# Rounds of the transparent backend

A transparent pool counts its participants on chain.  Keys that differ register
in any number up to the maximum, whoever pays for their records, and a round that
has its minimum by then is driven to its end like a Merkle round whose cohort was
published.

Main results:

- Definition {lit}`Enrollment.instruction`: the instruction of a registration.
- Theorem {lit}`Enrollable.enroll`: all registrations run through.
- Theorem {lit}`transparent_round_completes`: so does a whole round.
-/

namespace MirrorPool

open Fallible

variable {rt : Runtime}

/-! ## Registrations -/

/-- One registration: who pays, the key with its bump, and the address of the
record. -/
structure Enrollment where
  payer : Pubkey
  key : Bytes32
  bump : UInt8
  record : Pubkey
deriving DecidableEq

namespace Enrollment

/-- The accounts in the order in which the handler takes them.  The client has no
builder for registrations. -/
def accounts (enrollment : Enrollment) (poolKey roundKey : Pubkey) : List AccountMeta :=
  [.new enrollment.payer true, .newReadonly poolKey false, .new roundKey false,
    .new enrollment.record false, .newReadonly systemProgramId false]

/-- The instruction of a registration. -/
def instruction (enrollment : Enrollment) (programId poolKey roundKey : Pubkey) : Instruction where
  programId
  accounts := enrollment.accounts poolKey roundKey
  data := (CoordinationInstruction.registerTransparent enrollment.key enrollment.bump).encode

/-- The record that a registration leaves behind. -/
def participant (enrollment : Enrollment) (roundKey : Pubkey) : ParticipantRecord where
  version := 1
  bump := enrollment.bump
  round := roundKey
  coordinationKey := enrollment.key

end Enrollment

/-- How many of the registrations somebody pays for. -/
def paidBy (payer : Pubkey) (enrollments : List Enrollment) : Nat :=
  enrollments.countP fun enrollment => enrollment.payer = payer

/-- The rent of a record. -/
def recordRent (rt : Runtime) : Nat := (rt.minimumBalance participantRecordSize).toNat

/-- What some registrations for a round need: distinct keys, record addresses that
are derived from them and were never used, and payers that are wallets and can
pay for all of their registrations. -/
structure Enrollable (rt : Runtime) (L : Ledger) (roundKey : Pubkey)
    (enrollments : List Enrollment) : Prop where
  distinct : (enrollments.map (·.key)).Nodup
  derived : ∀ e ∈ enrollments, rt.createProgramAddress
    (Runtime.participantSeeds roundKey e.key e.bump) rt.programId = some e.record
  unused : ∀ e ∈ enrollments, Unused L e.record
  wallets : ∀ e ∈ enrollments, (L e.payer).owner = systemProgramId ∧ (L e.payer).data = []
  funded : ∀ e ∈ enrollments,
    paidBy e.payer enrollments * recordRent rt ≤ (L e.payer).lamports.toNat
  other : systemProgramId ≠ rt.programId

/-- The round after a number of registrations. -/
def RoundAccount.enrolled (round : RoundAccount) (pool : PoolAccount) (n : Nat) : RoundAccount :=
  if n = 0 then round else round.registered pool (round.acceptedCount + UInt32.ofNat n)

theorem toNat_add_ofNat {n : Nat} (count : UInt32) (hfits : count.toNat + n < 2 ^ 32) :
    (count + UInt32.ofNat n).toNat = count.toNat + n := by
  have hn : n < 2 ^ 32 := by omega
  rw [UInt32.toNat_add, UInt32.toNat_ofNat_of_lt' hn, Nat.mod_eq_of_lt hfits]

/-- One registration and then some more. -/
theorem RoundAccount.enrolled_succ {round : RoundAccount} {pool : PoolAccount} {n : Nat}
    (hfits : round.acceptedCount.toNat + (n + 1) < 2 ^ 32) :
    (round.registered pool (round.acceptedCount + 1)).enrolled pool n =
      round.enrolled pool (n + 1) := by
  have hcount : round.acceptedCount + 1 + UInt32.ofNat n =
      round.acceptedCount + UInt32.ofNat (n + 1) := by
    rw [UInt32.ofNat_add, UInt32.add_assoc, UInt32.add_comm 1]
    rfl
  rw [enrolled, enrolled, if_neg (Nat.succ_ne_zero n)]
  split
  · rename_i hn
    subst hn
    rfl
  · show (round.registered pool (round.acceptedCount + 1)).registered pool
        (round.acceptedCount + 1 + UInt32.ofNat n) = _
    rw [hcount]
    simp only [registered, mk.injEq, true_and, and_true]
    split
    · rfl
    · rename_i hbelow
      -- the minimum was not reached earlier either
      rw [if_neg]
      intro hreached
      apply hbelow
      rw [UInt32.le_iff_toNat_le] at hreached ⊢
      have hone := toNat_add_ofNat (n := 1) round.acceptedCount (by omega)
      have hall := toNat_add_ofNat _ hfits
      rw [show round.acceptedCount + 1 = round.acceptedCount + UInt32.ofNat 1 from rfl] at hreached
      omega

/-! ## One registration -/

section Registration

variable {L : Ledger} {call : Call rt} {poolKey roundKey : Pubkey} {pool : PoolAccount}
variable {round : RoundAccount} {e : Enrollment} {enrollments : List Enrollment}

/-- The ledger after a registration that created its record. -/
def Ledger.registered (L : Ledger) (rt : Runtime) (e : Enrollment) (roundKey : Pubkey)
    (round : RoundAccount) : Ledger :=
  ((L.createAccount e.payer e.record (rt.minimumBalance participantRecordSize)
      participantRecordSize rt.programId).setRecord e.record (e.participant roundKey)).setRound
    roundKey round

/-- The addresses of a registration are different from one another. -/
structure Apart (e : Enrollment) (poolKey roundKey : Pubkey) : Prop where
  payer_record : e.payer ≠ e.record
  payer_pool : e.payer ≠ poolKey
  payer_round : e.payer ≠ roundKey
  record_pool : e.record ≠ poolKey
  record_round : e.record ≠ roundKey

/-- Whoever pays for a registration signs it, and is no derived address. -/
theorem Sends.payer_not_derived
    (hsends : Sends call (e.instruction rt.programId poolKey roundKey)) :
    ¬rt.IsDerived e.payer := by
  have hmeta : (e.instruction rt.programId poolKey roundKey).accounts[0]? =
      some (.new e.payer true) := rfl
  have hsigned : ((e.instruction rt.programId poolKey roundKey).accountInfo
      (.new e.payer true)).isSigner = true :=
    Instruction.isSigner_accountInfo List.mem_cons_self rfl
  exact call.derived_not_signer _ (List.mem_of_getElem? (hsends.account_at hmeta)) hsigned

theorem Enrollable.apart (hcan : Enrollable rt L roundKey (e :: enrollments))
    (hin : RoundInPool rt L poolKey pool roundKey round)
    (hsends : Sends call (e.instruction rt.programId poolKey roundKey)) :
    Apart e poolKey roundKey := by
  have hpayer := hsends.payer_not_derived
  have hwallet := (hcan.wallets e List.mem_cons_self).1
  have hunused := (hcan.unused e List.mem_cons_self).owner
  refine ⟨?_, ?_, ?_, ?_, ?_⟩
  · intro hkey
    exact hpayer (hkey ▸ ⟨_, hcan.derived e List.mem_cons_self⟩)
  · intro hkey
    exact hcan.other (hwallet.symm.trans (hkey ▸ hin.pool_at.owned))
  · intro hkey
    exact hcan.other (hwallet.symm.trans (hkey ▸ hin.round_at.owned))
  · intro hkey
    exact hcan.other (hunused.symm.trans (hkey ▸ hin.pool_at.owned))
  · intro hkey
    exact hcan.other (hunused.symm.trans (hkey ▸ hin.round_at.owned))

/-- A registration runs through on an open round with room. -/
theorem Enrollable.execute_register (hcan : Enrollable rt L roundKey (e :: enrollments))
    (hin : RoundInPool rt L poolKey pool roundKey round)
    (hbackend : pool.backend = .transparentRegistry)
    (hstate : round.state = .registration ∨ round.state = .thresholdReached)
    (hroom : round.acceptedCount < pool.maxParticipants)
    (hsends : Sends call (e.instruction rt.programId poolKey roundKey))
    (hslot : call.slot < round.registrationDeadline) :
    execute rt L call = .ok (L.registered rt e roundKey
      (round.registered pool (round.acceptedCount + 1))) := by
  have hapart := hcan.apart hin hsends
  have hunused := hcan.unused e List.mem_cons_self
  have hfunded : rt.minimumBalance participantRecordSize ≤ (L e.payer).lamports := by
    have hpaid := hcan.funded e List.mem_cons_self
    have hshare : 1 ≤ paidBy e.payer (e :: enrollments) :=
      List.countP_pos_iff.mpr ⟨e, List.mem_cons_self, by simp⟩
    have hrent := Nat.mul_le_mul_right (recordRent rt) hshare
    rw [Nat.one_mul] at hrent
    exact UInt64.le_iff_toNat_le.mpr (hrent.trans hpaid)
  have hsigned : ((e.instruction rt.programId poolKey roundKey).accountInfo
      (.new e.payer true)).isSigner = true :=
    Instruction.isSigner_accountInfo List.mem_cons_self rfl
  have hpayer : ((e.instruction rt.programId poolKey roundKey).accountInfo
      (.new e.payer true)).isWritable = true :=
    Instruction.isWritable_accountInfo List.mem_cons_self rfl
  have hwritable : ((e.instruction rt.programId poolKey roundKey).accountInfo
      (.new e.record false)).isWritable = true :=
    Instruction.isWritable_accountInfo (by simp [Enrollment.instruction, Enrollment.accounts]) rfl
  have hcreation : PayableCreation rt L call.accounts
      ((e.instruction rt.programId poolKey roundKey).accountInfo (.new e.payer true))
      ((e.instruction rt.programId poolKey roundKey).accountInfo (.new e.record false))
      ((e.instruction rt.programId poolKey roundKey).accountInfo
        (.newReadonly systemProgramId false)) participantRecordSize :=
    ⟨hsends.account_at rfl, hsigned, rfl, hcan.wallets e List.mem_cons_self, hfunded,
      ⟨hunused.owner, hunused.empty⟩, hcan.other⟩
  have hcreate := (hcreation.createPdaAccount_eq_ok (by decide)
    (hcan.derived e List.mem_cons_self) hpayer hwritable).mpr ⟨hunused.unfunded, rfl⟩
  have hcounter : add32 round.acceptedCount 1 = some (round.acceptedCount + 1) := by
    have hbound := pool.maxParticipants.toNat_lt
    rw [UInt32.lt_iff_toNat_lt] at hroom
    refine add32_eq_some.mpr ?_
    rw [UInt32.toNat_add]
    exact Nat.mod_eq_of_lt (by show _ + 1 < _; omega)
  have hcovers : (e.instruction rt.programId poolKey roundKey).CoversWrites
      (.registerTransparent e.key e.bump) := by
    simp [Instruction.CoversWrites, CoordinationInstruction.writes, Enrollment.instruction,
      Enrollment.accounts, AccountMeta.new]
  have hroundSame : L.createAccount e.payer e.record (rt.minimumBalance participantRecordSize)
      participantRecordSize rt.programId roundKey = L roundKey :=
    Ledger.createAccount_of_ne _ _ _ _ hapart.payer_round.symm hapart.record_round.symm
  rw [hsends.execute_eq (CoordinationInstruction.tryFromSlice_encode
    (.registerTransparent e.key e.bump)) hcovers]
  refine registerTransparent_eq_ok.mpr ⟨_, _, _, _, _, pool, round, _, _, hsends.account_at rfl,
    hsends.account_at rfl, hsends.account_at rfl, hsends.account_at rfl, hsends.account_at rfl,
    hsigned, hin.pool_at.owned, hin.round_at.owned, hin.pool_at.read, hin.round_at.read, hbackend,
    hin.own, hstate, hslot, hroom, hcan.derived e List.mem_cons_self, hcreate, hcounter, ?_, ?_,
    rfl⟩
  · show 66 ≤ (L.createAccount e.payer e.record (rt.minimumBalance participantRecordSize)
      participantRecordSize rt.programId e.record).data.length
    rw [Ledger.createAccount_self, List.length_replicate]
    decide
  · show 167 ≤ (L.createAccount e.payer e.record (rt.minimumBalance participantRecordSize)
      participantRecordSize rt.programId roundKey).data.length
    rw [hroundSame]
    exact RoundAccount.codec.width_le_of_read hin.round_at.read

/-- What the registration does to each account. -/
theorem Ledger.registered_at (L : Ledger) (rt : Runtime) (round : RoundAccount)
    (hapart : Apart e poolKey roundKey) :
    L.registered rt e roundKey round e.record =
        Account.store ParticipantRecord.codec
          { owner := rt.programId, lamports := rt.minimumBalance participantRecordSize,
            data := List.replicate participantRecordSize 0 } (e.participant roundKey) ∧
      L.registered rt e roundKey round roundKey = (L roundKey).store RoundAccount.codec round ∧
      L.registered rt e roundKey round e.payer = { L e.payer with
        lamports := (L e.payer).lamports - rt.minimumBalance participantRecordSize } ∧
      ∀ b, b ≠ e.record → b ≠ roundKey → b ≠ e.payer →
        L.registered rt e roundKey round b = L b := by
  refine ⟨?_, ?_, ?_, fun b hrecord hround hpayer => ?_⟩
  · rw [registered, setRound_of_ne _ hapart.record_round, setRecord_self, createAccount_self]
  · rw [registered, setRound_self, setRecord_of_ne _ hapart.record_round.symm,
      createAccount_of_ne _ _ _ _ hapart.payer_round.symm hapart.record_round.symm]
  · rw [registered, setRound_of_ne _ hapart.payer_round, setRecord_of_ne _ hapart.payer_record,
      createAccount_payer _ _ _ _ hapart.payer_record]
  · rw [registered, setRound_of_ne _ hround, setRecord_of_ne _ hrecord,
      createAccount_of_ne _ _ _ _ hpayer hrecord]

/-- After a registration the round is still that of the pool. -/
theorem RoundInPool.registered (round' : RoundAccount)
    (hin : RoundInPool rt L poolKey pool roundKey round) (hapart : Apart e poolKey roundKey)
    (hown : round'.pool = poolKey) :
    RoundInPool rt (L.registered rt e roundKey round') poolKey pool roundKey round' := by
  rcases L.registered_at rt round' hapart with
    ⟨-, hround, -, hothers⟩
  have hpool := hothers poolKey hapart.record_pool.symm hin.distinct hapart.payer_pool.symm
  refine ⟨⟨?_, ?_⟩, ⟨?_, ?_⟩, hown, hin.distinct⟩
  · rw [hpool]
    exact hin.pool_at.owned
  · rw [hpool]
    exact hin.pool_at.read
  · rw [hround, Account.store_owner]
    exact hin.round_at.owned
  · rw [hround]
    exact Account.read_store

end Registration

/-! ## All registrations -/

section Enrolling

variable {L L' : Ledger} {calls : List (Call rt)} {poolKey roundKey : Pubkey} {pool : PoolAccount}
variable {round : RoundAccount} {e : Enrollment} {enrollments : List Enrollment}

/-- The calls carry the registrations before the deadline. -/
structure CarriesEnrollment (poolKey roundKey : Pubkey) (deadline : UInt64) (call : Call rt)
    (e : Enrollment) : Prop where
  sends : Sends call (e.instruction rt.programId poolKey roundKey)
  in_time : call.slot < deadline

theorem payers_not_derived {deadline : UInt64}
    (hcalls : List.Forall₂ (CarriesEnrollment poolKey roundKey deadline) calls enrollments) :
    ∀ e ∈ enrollments, ¬rt.IsDerived e.payer := by
  induction hcalls with
  | nil => simp
  | cons hfirst _ ih => exact List.forall_mem_cons.mpr ⟨hfirst.sends.payer_not_derived, ih⟩

theorem paidBy_cons (p : Pubkey) :
    paidBy p (e :: enrollments) = paidBy p enrollments + if e.payer = p then 1 else 0 := by
  simp [paidBy, List.countP_cons]

/-- The records of different registrations have different addresses. -/
theorem Enrollable.record_ne (hcan : Enrollable rt L roundKey (e :: enrollments))
    {other : Enrollment} (hother : other ∈ enrollments) : other.record ≠ e.record := by
  intro hkey
  have hderived := hcan.derived other (List.mem_cons_of_mem _ hother)
  rw [hkey] at hderived
  have hsame := (Runtime.participantSeeds_inj hderived (hcan.derived e List.mem_cons_self)).2.1
  have hdistinct := hcan.distinct
  rw [List.map_cons, List.nodup_cons] at hdistinct
  exact hdistinct.1 (hsame ▸ List.mem_map_of_mem hother)

/-- One registration leaves the others possible. -/
theorem Enrollable.rest (hcan : Enrollable rt L roundKey (e :: enrollments))
    (hin : RoundInPool rt L poolKey pool roundKey round) (hapart : Apart e poolKey roundKey)
    (hpayers : ∀ other ∈ e :: enrollments, ¬rt.IsDerived other.payer) (round' : RoundAccount) :
    Enrollable rt (L.registered rt e roundKey round') roundKey enrollments := by
  rcases L.registered_at rt round' hapart with
    ⟨-, -, hpayer, hothers⟩
  -- the payer of a later registration has its account, with the rent taken if it is the same
  have hwallet (other : Enrollment) (hother : other ∈ enrollments) (hne : other.payer ≠ e.payer) :
      L.registered rt e roundKey round' other.payer = L other.payer := by
    refine hothers _ ?_ ?_ hne
    · intro hkey
      exact hpayers other (List.mem_cons_of_mem _ hother)
        (hkey ▸ ⟨_, hcan.derived e List.mem_cons_self⟩)
    · intro hkey
      exact hcan.other ((hcan.wallets other (List.mem_cons_of_mem _ hother)).1.symm.trans
        (hkey ▸ hin.round_at.owned))
  constructor
  case distinct =>
    have hdistinct := hcan.distinct
    rw [List.map_cons, List.nodup_cons] at hdistinct
    exact hdistinct.2
  case derived => exact fun other hother => hcan.derived other (List.mem_cons_of_mem _ hother)
  case unused =>
    intro other hother
    have hunused := hcan.unused other (List.mem_cons_of_mem _ hother)
    have hsame : L.registered rt e roundKey round' other.record = L other.record := by
      refine hothers _ (hcan.record_ne hother) ?_ ?_
      · intro hkey
        exact hcan.other (hunused.owner.symm.trans (hkey ▸ hin.round_at.owned))
      · intro hkey
        exact hpayers e List.mem_cons_self
          (hkey ▸ ⟨_, hcan.derived other (List.mem_cons_of_mem _ hother)⟩)
    exact ⟨hsame ▸ hunused.owner, hsame ▸ hunused.empty, hsame ▸ hunused.unfunded⟩
  case wallets =>
    intro other hother
    have hplain := hcan.wallets other (List.mem_cons_of_mem _ hother)
    by_cases hsame : other.payer = e.payer
    · rw [hsame, hpayer]
      rwa [hsame] at hplain
    · rwa [hwallet other hother hsame]
  case funded =>
    intro other hother
    have hfunded := hcan.funded other (List.mem_cons_of_mem _ hother)
    rw [paidBy_cons] at hfunded
    by_cases hsame : other.payer = e.payer
    · rw [hsame] at hfunded ⊢
      rw [if_pos rfl, Nat.succ_mul] at hfunded
      rw [hpayer]
      show _ ≤ ((L e.payer).lamports - rt.minimumBalance participantRecordSize).toNat
      have hrent : recordRent rt ≤ (L e.payer).lamports.toNat := by omega
      rw [UInt64.toNat_sub_of_le _ _ (UInt64.le_iff_toNat_le.mpr hrent)]
      exact Nat.le_sub_of_add_le hfunded
    · rw [if_neg (Ne.symm hsame), Nat.add_zero] at hfunded
      rwa [hwallet other hother hsame]
  case other => exact hcan.other

/-- What some registrations leave behind: the counted round, their records, the
rents taken from their payers, and everything else as before. -/
structure Enrolled (rt : Runtime) (L L' : Ledger) (poolKey : Pubkey) (pool : PoolAccount)
    (roundKey : Pubkey) (round : RoundAccount) (enrollments : List Enrollment) : Prop where
  in_pool : RoundInPool rt L' poolKey pool roundKey (round.enrolled pool enrollments.length)
  records : ∀ e ∈ enrollments, RecordAt rt L' e.record (e.participant roundKey)
  others : ∀ b, b ≠ roundKey → (∀ e ∈ enrollments, b ≠ e.record) →
    ((L' b).owner = (L b).owner ∧ (L' b).data = (L b).data) ∧
      (L' b).lamports.toNat + paidBy b enrollments * recordRent rt = (L b).lamports.toNat

/-- All registrations run through, up to the maximum of the pool. -/
theorem Enrollable.enroll (hcan : Enrollable rt L roundKey enrollments)
    (hin : RoundInPool rt L poolKey pool roundKey round)
    (hbackend : pool.backend = .transparentRegistry)
    (hstate : round.state = .registration ∨ round.state = .thresholdReached)
    (hroom : round.acceptedCount.toNat + enrollments.length ≤ pool.maxParticipants.toNat)
    (hcalls : List.Forall₂ (CarriesEnrollment poolKey roundKey round.registrationDeadline) calls
      enrollments) :
    ∃ L', executeAll rt L calls = .ok L' ∧
      Enrolled rt L L' poolKey pool roundKey round enrollments := by
  induction enrollments generalizing L calls round with
  | nil =>
      cases hcalls
      exact ⟨L, rfl, hin, by simp, by simp [paidBy]⟩
  | cons e enrollments ih =>
      have hpayers := payers_not_derived hcalls
      rcases hcalls with _ | ⟨hfirst, hrest⟩
      rw [List.length_cons] at hroom
      have hmax := pool.maxParticipants.toNat_lt
      have hcount : (round.acceptedCount + 1).toNat = round.acceptedCount.toNat + 1 :=
        toNat_add_ofNat (n := 1) _ (by omega)
      have hapart := hcan.apart hin hfirst.sends
      have hran := hcan.execute_register hin hbackend hstate
        (UInt32.lt_iff_toNat_lt.mpr (by omega)) hfirst.sends hfirst.in_time
      have hstate' : (round.registered pool (round.acceptedCount + 1)).state = .registration ∨
          (round.registered pool (round.acceptedCount + 1)).state = .thresholdReached := by
        rw [RoundAccount.registered]
        split
        · exact Or.inr rfl
        · exact hstate
      have hnext := hin.registered (round.registered pool (round.acceptedCount + 1)) hapart hin.own
      rcases ih (hcan.rest hin hapart hpayers _) hnext hstate'
        (by show (round.acceptedCount + 1).toNat + _ ≤ _; omega) hrest with ⟨L', hall, hdone⟩
      rcases L.registered_at rt (round.registered pool (round.acceptedCount + 1)) hapart
        with
        ⟨hrecord, -, hpayer, hothers⟩
      refine ⟨L', executeAll_cons hran hall, ?_, ?_, fun b hround hb => ?_⟩
      · rw [List.length_cons, ← RoundAccount.enrolled_succ (by omega)]
        exact hdone.in_pool
      · rw [List.forall_mem_cons]
        refine ⟨?_, hdone.records⟩
        rcases (hdone.others e.record hapart.record_round fun other hother =>
          (hcan.record_ne hother).symm).1 with ⟨howner, hdata⟩
        refine ⟨?_, ?_⟩
        · rw [howner, hrecord]
          rfl
        · rw [hdata, hrecord]
          exact Account.read_store
      · rw [List.forall_mem_cons] at hb
        rcases hdone.others b hround hb.2 with ⟨hsame, hpaid⟩
        rw [paidBy_cons]
        by_cases hkey : b = e.payer
        · subst hkey
          rw [hpayer] at hsame hpaid
          have hfunded := hcan.funded e List.mem_cons_self
          rw [paidBy_cons, if_pos rfl, Nat.succ_mul] at hfunded
          have hrent : recordRent rt ≤ (L e.payer).lamports.toNat := by omega
          have hleft : ((L e.payer).lamports - rt.minimumBalance participantRecordSize).toNat =
              (L e.payer).lamports.toNat - recordRent rt :=
            UInt64.toNat_sub_of_le _ _ (UInt64.le_iff_toNat_le.mpr hrent)
          rw [if_pos rfl, Nat.succ_mul]
          change _ = ((L e.payer).lamports - rt.minimumBalance participantRecordSize).toNat at hpaid
          exact ⟨hsame, by omega⟩
        · rw [hothers b hb.1 hround hkey] at hsame hpaid
          rw [if_neg (Ne.symm hkey), Nat.add_zero]
          exact ⟨hsame, hpaid⟩

end Enrolling

/-! ## A whole round -/

section WholeRound

variable {L : Ledger} {poolKey roundKey : Pubkey} {pool : PoolAccount} {plan : RoundPlan}
variable {finder : AddressFinder rt} {enrollments : List Enrollment} {opening : Call rt}
variable {built : Instruction} {registering finishing : List (Call rt)}

/-- The opening leaves the registrations possible, if the authority keeps the rent
of the round apart from those of its registrations. -/
theorem Enrollable.opened (hcan : CanOpen rt L poolKey pool roundKey)
    (henroll : Enrollable rt L roundKey enrollments) (deadline : UInt64) {bump : UInt8}
    (hderived : rt.createProgramAddress (Runtime.roundSeeds poolKey pool.nextRound bump)
      rt.programId = some roundKey)
    (hauthority : ¬rt.IsDerived pool.authority)
    (hpayers : ∀ e ∈ enrollments, ¬rt.IsDerived e.payer)
    (hreserve : paidBy pool.authority enrollments * recordRent rt +
      (rt.minimumBalance roundAccountSize).toNat ≤ (L pool.authority).lamports.toNat) :
    Enrollable rt (L.opened rt poolKey pool roundKey
      (.fresh poolKey pool.nextRound deadline pool.templateHash bump)) roundKey enrollments := by
  have hdistinct : pool.authority ≠ roundKey := by
    intro hkey
    exact hauthority (hkey ▸ ⟨_, hderived⟩)
  rcases hcan.opened_frame hdistinct
    (.fresh poolKey pool.nextRound deadline pool.templateHash bump) with ⟨hpaid, hothers⟩
  have hpayer (e : Enrollment) (he : e ∈ enrollments) (hne : e.payer ≠ pool.authority) :
      L.opened rt poolKey pool roundKey
        (.fresh poolKey pool.nextRound deadline pool.templateHash bump) e.payer = L e.payer := by
    refine hothers _ hne ?_ ?_
    · intro hkey
      exact henroll.other ((henroll.wallets e he).1.symm.trans (hkey ▸ hcan.pool_at.owned))
    · intro hkey
      exact hpayers e he (hkey ▸ ⟨_, hderived⟩)
  constructor
  case distinct => exact henroll.distinct
  case derived => exact henroll.derived
  case unused =>
    intro e he
    have hunused := henroll.unused e he
    have hsame : L.opened rt poolKey pool roundKey
        (.fresh poolKey pool.nextRound deadline pool.templateHash bump) e.record = L e.record := by
      refine hothers _ ?_ ?_ ?_
      · intro hkey
        exact hauthority (hkey ▸ ⟨_, henroll.derived e he⟩)
      · intro hkey
        exact henroll.other (hunused.owner.symm.trans (hkey ▸ hcan.pool_at.owned))
      · intro hkey
        exact Runtime.participant_ne_round (hkey ▸ henroll.derived e he) hderived
    exact ⟨hsame ▸ hunused.owner, hsame ▸ hunused.empty, hsame ▸ hunused.unfunded⟩
  case wallets =>
    intro e he
    by_cases hsame : e.payer = pool.authority
    · rw [hsame, hpaid]
      exact hcan.wallet
    · rw [hpayer e he hsame]
      exact henroll.wallets e he
  case funded =>
    intro e he
    by_cases hsame : e.payer = pool.authority
    · rw [hsame, hpaid]
      show _ ≤ ((L pool.authority).lamports - rt.minimumBalance roundAccountSize).toNat
      rw [UInt64.toNat_sub_of_le _ _ hcan.funded]
      exact Nat.le_sub_of_add_le hreserve
    · rw [hpayer e he hsame]
      exact henroll.funded e he
  case other => exact henroll.other

/-- What a transparent round leaves behind: the completed round with its count,
the records of its participants, and the rents taken from whoever paid them. -/
structure TransparentRoundDone (rt : Runtime) (L L' : Ledger) (poolKey : Pubkey)
    (pool : PoolAccount) (plan : RoundPlan) (roundKey : Pubkey) (bump : UInt8)
    (enrollments : List Enrollment) : Prop where
  pool_at : PoolAt rt L' poolKey { pool with nextRound := pool.nextRound + 1 }
  round_at : RoundAt rt L' roundKey
    { RoundAccount.fresh poolKey pool.nextRound plan.deadline pool.templateHash bump with
      state := .completed, acceptedCount := UInt32.ofNat enrollments.length,
      releaseSlot := plan.release, windowEndSlot := plan.release + pool.executionWindow,
      metricsHash := plan.metrics }
  records : ∀ e ∈ enrollments, RecordAt rt L' e.record (e.participant roundKey)
  rents : ∀ b, b ≠ poolKey → b ≠ roundKey → (∀ e ∈ enrollments, b ≠ e.record) →
    (L' b).lamports.toNat + paidBy b enrollments * recordRent rt +
        (if b = pool.authority then (rt.minimumBalance roundAccountSize).toNat else 0) =
      (L b).lamports.toNat

/-- A transparent pool drives a round to its end with any number of participants
between its bounds: the opening, the registrations of distinct keys before the
deadline, whoever pays for them, and the calls of the plan all run through. -/
theorem transparent_round_completes (hcan : CanOpen rt L poolKey pool roundKey)
    (hbackend : pool.backend = .transparentRegistry) (htimed : plan.Timed pool)
    (henroll : Enrollable rt L roundKey enrollments)
    (hreserve : paidBy pool.authority enrollments * recordRent rt +
      (rt.minimumBalance roundAccountSize).toNat ≤ (L pool.authority).lamports.toNat)
    (hsome : enrollments ≠ []) (hmin : pool.minParticipants.toNat ≤ enrollments.length)
    (hmax : enrollments.length ≤ pool.maxParticipants.toNat)
    (hbuilt : openRoundInstruction finder rt.programId pool.authority poolKey pool.nextRound
      plan.deadline pool.templateHash = some (built, roundKey))
    (hopening : Carries opening (plan.openedAt, built))
    (hregistering : List.Forall₂ (CarriesEnrollment poolKey roundKey plan.deadline) registering
      enrollments)
    (hfinishing : List.Forall₂ Carries finishing
      (plan.finishing rt.programId pool.authority poolKey roundKey)) :
    ∃ L' bump, executeAll rt L (opening :: (registering ++ finishing)) = .ok L' ∧
      TransparentRoundDone rt L L' poolKey pool plan roundKey bump enrollments := by
  rcases hcan.execute_open hbuilt hopening.sends (hopening.slot ▸ htimed.future) with
    ⟨bump, hderived, hauthority, hopened⟩
  have hdistinct : pool.authority ≠ roundKey := by
    intro hkey
    exact hauthority (hkey ▸ ⟨_, hderived⟩)
  have hin := hcan.roundInPool_opened plan.deadline pool.templateHash bump
  have henroll' := henroll.opened hcan plan.deadline hderived hauthority
    (payers_not_derived hregistering) hreserve
  have hroom : (0 : UInt32).toNat + enrollments.length ≤ pool.maxParticipants.toNat := by
    rwa [UInt32.toNat_zero, Nat.zero_add]
  rcases henroll'.enroll hin hbackend (Or.inl rfl) hroom hregistering with
    ⟨L₂, hregistered, hdone⟩
  have hbound := pool.maxParticipants.toNat_lt
  have hfits : (UInt32.ofNat enrollments.length).toNat = enrollments.length :=
    UInt32.toNat_ofNat_of_lt' (show enrollments.length < 2 ^ 32 by omega)
  have hreached : pool.minParticipants ≤ UInt32.ofNat enrollments.length :=
    UInt32.le_iff_toNat_le.mpr (hfits.symm ▸ hmin)
  have hround : RoundAccount.enrolled
      (.fresh poolKey pool.nextRound plan.deadline pool.templateHash bump)
      { pool with nextRound := pool.nextRound + 1 } enrollments.length =
        { RoundAccount.fresh poolKey pool.nextRound plan.deadline pool.templateHash bump with
          state := .thresholdReached, acceptedCount := UInt32.ofNat enrollments.length } := by
    have hcount : (0 : UInt32) + UInt32.ofNat enrollments.length =
        UInt32.ofNat enrollments.length := UInt32.zero_add _
    rw [RoundAccount.enrolled, if_neg fun hzero => hsome (List.length_eq_zero_iff.mp hzero)]
    simp only [RoundAccount.registered, RoundAccount.fresh, hcount, if_pos hreached]
  have hready := hdone.in_pool
  rw [hround] at hready
  rcases hready.finish (htimed.later _) rfl rfl hreached hfinishing with
    ⟨L₃, hfinished, hend, hlast⟩
  refine ⟨L₃, bump, executeAll_cons hopened (executeAll_append hregistered hfinished),
    hend.pool_at, hend.round_at, fun e he => ?_, fun b hpool hroundKey hrecords => ?_⟩
  · have hne : e.record ≠ roundKey := fun hkey =>
      Runtime.participant_ne_round (hkey ▸ henroll.derived e he) hderived
    have hrecord := hdone.records e he
    refine ⟨?_, ?_⟩
    · rw [hlast _ hne]
      exact hrecord.owned
    · rw [hlast _ hne]
      exact hrecord.read
  · have hpaid := (hdone.others b hroundKey hrecords).2
    rw [hlast b hroundKey]
    rcases hcan.opened_frame hdistinct
      (.fresh poolKey pool.nextRound plan.deadline pool.templateHash bump) with ⟨hrent, hsame⟩
    by_cases hkey : b = pool.authority
    · subst hkey
      rw [if_pos rfl]
      rw [hrent] at hpaid
      have hfunded := UInt64.le_iff_toNat_le.mp hcan.funded
      have hleft : ((L pool.authority).lamports - rt.minimumBalance roundAccountSize).toNat =
          (L pool.authority).lamports.toNat - (rt.minimumBalance roundAccountSize).toNat :=
        UInt64.toNat_sub_of_le _ _ hcan.funded
      change _ = ((L pool.authority).lamports - rt.minimumBalance roundAccountSize).toNat at hpaid
      omega
    · rw [if_neg hkey, Nat.add_zero]
      rw [hsame b hkey hpool hroundKey] at hpaid
      exact hpaid

end WholeRound

/-- The chain with the transparent pool. -/
abbrev demoTransparentLedger : Ledger :=
  ledgerAfter demoRuntime demoLedger [demoInitialize]

/-- The account of this pool. -/
def demoTransparentPool : PoolAccount := { demoPoolAccount with nextRound := 0 }

/-- Two keys, one of which the authority pays for. -/
def demoEnrollments : List Enrollment :=
  [⟨demoKey 102, demoKey 61, 255, demoKey 31⟩, ⟨demoKey 101, demoKey 62, 255, demoKey 33⟩]

/-- The pool of the small chain in a list where it is only read. -/
def demoPoolRead : AccountInfo := ⟨demoKey 11, false, false⟩

/-- The accounts of the two registrations. -/
def demoFirstRegistration : List AccountInfo :=
  [demoSigner 102, demoPoolRead, demoAccount 21, demoAccount 31, demoSystem]

def demoSecondRegistration : List AccountInfo :=
  [demoSigner 101, demoPoolRead, demoAccount 21, demoAccount 33, demoSystem]

theorem demoFirstRegistration_signers : TableSigners demoTable demoFirstRegistration := by decide

theorem demoSecondRegistration_signers : TableSigners demoTable demoSecondRegistration := by
  decide

/-- The calls of the two registrations. -/
def demoEnrolling : List (Call demoRuntime) :=
  [tableCall 7 demoFirstRegistration (.registerTransparent (demoKey 61) 255)
      demoFirstRegistration_signers,
    tableCall 8 demoSecondRegistration (.registerTransparent (demoKey 62) 255)
      demoSecondRegistration_signers]

/-- The calls of the plan after them. -/
def demoFinishing : List (Call demoRuntime) :=
  [tableCall 8 demoAdmin .sealRound demoAdmin_signers,
    tableCall 10 demoAdmin (.scheduleRelease 20) demoAdmin_signers,
    tableCall 25 [demoAccount 21] .beginExecutionWindow demoBegin_signers,
    tableCall 41 demoAdmin (.finalizeRound (demoKey 80)) demoAdmin_signers]

theorem demoTransparent_canOpen :
    CanOpen demoRuntime demoTransparentLedger (demoKey 11) demoTransparentPool (demoKey 21) where
  pool_at := ⟨by decide +kernel, by decide +kernel⟩
  unpaused := rfl
  more := by decide
  wallet := by decide +kernel
  funded := by decide +kernel
  unused := ⟨by decide +kernel, by decide +kernel, by decide +kernel⟩
  other := by decide

theorem demoTransparent_enrollable :
    Enrollable demoRuntime demoTransparentLedger (demoKey 21) demoEnrollments where
  distinct := by decide
  derived := by decide +kernel
  unused := by
    simp only [demoEnrollments, List.forall_mem_cons]
    exact ⟨⟨by decide +kernel, by decide +kernel, by decide +kernel⟩,
      ⟨by decide +kernel, by decide +kernel, by decide +kernel⟩, by simp⟩
  wallets := by decide +kernel
  funded := by decide +kernel
  other := by decide

theorem transparent_round_completes_demo :
    ∃ L' bump, executeAll demoRuntime demoTransparentLedger
        (demoOpen :: (demoEnrolling ++ demoFinishing)) = .ok L' ∧
      TransparentRoundDone demoRuntime demoTransparentLedger L' (demoKey 11) demoTransparentPool
        demoPlan (demoKey 21) bump demoEnrollments := by
  have hregistering : List.Forall₂ (CarriesEnrollment (demoKey 11) (demoKey 21) 100)
      demoEnrolling demoEnrollments :=
    .cons ⟨⟨by decide, rfl⟩, by decide⟩ <| .cons ⟨⟨by decide, rfl⟩, by decide⟩ .nil
  have hfinishing : List.Forall₂ Carries demoFinishing
      (demoPlan.finishing (demoKey 200) (demoKey 101) (demoKey 11) (demoKey 21)) :=
    .cons ⟨rfl, by decide, rfl⟩ <| .cons ⟨rfl, by decide, rfl⟩ <| .cons ⟨rfl, by decide, rfl⟩ <|
      .cons ⟨rfl, by decide, rfl⟩ .nil
  have hbuilt : openRoundInstruction demoFinder demoRuntime.programId (demoKey 101) (demoKey 11) 0
      100 (demoKey 50) = some (demoBuiltOpen, demoKey 21) := by
    decide +kernel
  have htimed : demoPlan.Timed demoTransparentPool :=
    ⟨by decide, by decide, by decide, by decide, by decide, by decide, by decide, by decide⟩
  exact transparent_round_completes demoTransparent_canOpen rfl htimed demoTransparent_enrollable
    (by decide +kernel) (by decide) (by decide) (by decide) hbuilt ⟨rfl, by decide, rfl⟩
    hregistering hfinishing

end MirrorPool
