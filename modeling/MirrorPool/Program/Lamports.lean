import MirrorPool.Library.Balances
import MirrorPool.Program.TableRuntime

/-!
# Lamports

A handler writes balances in two places: the creation of an account, which the
payer pays for, and the closing of a round.  Closing credits the authority
before it empties the round, which loses the balance when the two are one
account.  No check excludes this; it is excluded because program accounts stand
at derived addresses, which never sign.

Main results:

- Inductive {lit}`Reachable`: ledgers reached by calls of the program and by
  anything that other programs do.
- Inductive {lit}`LamportMove`: the movements of lamports in one instruction.
- Theorem {lit}`lamports_accounted`: on a reachable ledger an instruction moves
  lamports in no other way, and their sum stays the same.
- Theorem {lit}`close_of_own_authority`: what closing does to a round that is
  its own authority.
-/

namespace MirrorPool

open Fallible

variable {rt : Runtime} {slot : UInt64} {L L' : Ledger} {accounts : List AccountInfo}
  {instruction : CoordinationInstruction}

/-! ## Reachable ledgers -/

/-- Other programs act: they change the accounts of the program in nothing but
the balance, and hand none over to it.  Plain transfers are of this kind. -/
structure OutsideStep (rt : Runtime) (L L' : Ledger) : Prop where
  owned : ∀ a, (L' a).owner = rt.programId → (L a).owner = rt.programId
  data : ∀ a, (L' a).owner = rt.programId → (L' a).data = (L a).data

/-- Ledgers that calls of the program lead to, with other programs acting in
between, from a ledger in which the program owns nothing. -/
inductive Reachable (rt : Runtime) : Ledger → Prop
  | genesis {L : Ledger} (start : Genesis rt L) : Reachable rt L
  | call {L : Ledger} (before : Reachable rt L) (call : Call rt) :
      Reachable rt (applyCall rt L call)
  | outside {L L' : Ledger} (before : Reachable rt L) (step : OutsideStep rt L L') :
      Reachable rt L'

/-- The kind of an account does not depend on its balance. -/
theorem AccountKind.of_data_eq {a : Pubkey} {account account' : Account}
    (hkind : AccountKind rt a account) (hdata : account'.data = account.data) :
    AccountKind rt a account' := by
  cases hkind with
  | pool derived size => exact .pool derived (by rw [hdata, size])
  | round derived size holds => exact .round derived (by rw [hdata, size]) (by rwa [hdata])
  | record derived size written =>
      exact .record derived (by rw [hdata, size]) (by rw [hdata, written])

/-- Every account of the program has a kind on every reachable ledger. -/
theorem Reachable.consistent (hreach : Reachable rt L) : Consistent rt L := by
  induction hreach with
  | genesis start => exact fun a howned => absurd howned (start a)
  | call _ call ih => exact consistent_step (callVisit_mem_history rt _ call) ih
  | outside _ step ih =>
      exact fun a howned => (ih a (step.owned a howned)).of_data_eq (step.data a howned)

/-- The calls of a run lead to reachable ledgers. -/
theorem Reachable.run {calls : List (Call rt)} (hreach : Reachable rt L) :
    Reachable rt (ledgerAfter rt L calls) := by
  induction calls generalizing L with
  | nil => exact hreach
  | cons call calls ih => exact ih (hreach.call call)

/-! ## Movements -/

namespace Ledger

/-- The balance of every account. -/
def balance (L : Ledger) (a : Pubkey) : Nat := (L a).lamports.toNat

/-- The lamports of all accounts together. -/
noncomputable def totalLamports (L : Ledger) : Nat := Balances.total L.balance

/-- Writing bytes leaves the owner and the balance of every account. -/
theorem setData_frame (a b : Pubkey) (data : List UInt8) :
    (L.setData a data b).owner = (L b).owner ∧ (L.setData a data b).lamports = (L b).lamports := by
  by_cases hb : b = a
  · subst hb
    rw [setData_self]
    exact ⟨rfl, rfl⟩
  · rw [setData_of_ne _ _ hb]
    exact ⟨rfl, rfl⟩

@[simp] theorem balance_setData (a : Pubkey) (data : List UInt8) :
    (L.setData a data).balance = L.balance :=
  funext fun b => congrArg UInt64.toNat (setData_frame a b data).2

@[simp] theorem balance_setPool (a : Pubkey) (pool : PoolAccount) :
    (L.setPool a pool).balance = L.balance :=
  balance_setData ..

@[simp] theorem balance_setRound (a : Pubkey) (round : RoundAccount) :
    (L.setRound a round).balance = L.balance :=
  balance_setData ..

@[simp] theorem balance_setRecord (a : Pubkey) (record : ParticipantRecord) :
    (L.setRecord a record).balance = L.balance :=
  balance_setData ..

end Ledger

/-- There are finitely many addresses. -/
instance : Finite Pubkey :=
  Finite.of_injective (fun (key : Pubkey) (i : Fin 32) => key[i].toFin) fun _ _ hsame =>
    Vector.ext fun i hi => UInt8.toFin_inj.mp (congrFun hsame ⟨i, hi⟩)

/-- The position of the account that an instruction creates, and its size. -/
def CoordinationInstruction.creates : CoordinationInstruction → Option (Nat × Nat)
  | initializePool .. => some (1, poolAccountSize)
  | openRound .. => some (2, roundAccountSize)
  | registerTransparent .. => some (3, participantRecordSize)
  | _ => none

/-- The movements of lamports in an instruction that ran through: none, the rent
of a created account, or the balance of a closed round. -/
inductive LamportMove (rt : Runtime) (L : Ledger) (accounts : List AccountInfo)
    (instruction : CoordinationInstruction) (L' : Ledger) : Prop where
  | still (keeps : instruction ≠ .closeRound) (same : L'.balance = L.balance)
  | rent {position space : Nat} {payer target : AccountInfo}
      (creates : instruction.creates = some (position, space))
      (payer_at : accounts[0]? = some payer) (signed : payer.isSigner = true)
      (target_at : accounts[position]? = some target)
      (unused : (L target.key).owner = systemProgramId ∧ (L target.key).data = [] ∧
        (L target.key).lamports = 0)
      (created : (L' target.key).owner = rt.programId)
      (moves : Balances.Moves L.balance L'.balance payer.key target.key
        (rt.minimumBalance space).toNat)
  | closed {authority round : AccountInfo} (closes : instruction = .closeRound)
      (authority_at : accounts[0]? = some authority) (signed : authority.isSigner = true)
      (round_at : accounts[2]? = some round)
      (zeroed : (L' round.key).data = List.replicate (L round.key).data.length 0)
      (moves : Balances.Moves L.balance L'.balance round.key authority.key (L.balance round.key))

/-- Every movement conserves the sum. -/
theorem LamportMove.totalLamports_eq (hmove : LamportMove rt L accounts instruction L') :
    L'.totalLamports = L.totalLamports := by
  cases hmove with
  | still _ same => exact congrArg Balances.total same
  | rent _ _ _ _ _ _ moves => exact moves.total_eq
  | closed _ _ _ _ _ moves => exact moves.total_eq

/-! ## Creation -/

/-- A creation takes the rent from the payer. -/
theorem Creatable.moves {payer account : AccountInfo} {lamports : UInt64} {space : Nat}
    {owner : Pubkey} {derived : Option Pubkey}
    (hcreatable : Creatable L payer account lamports derived) :
    Balances.Moves L.balance (L.createAccount payer.key account.key lamports space owner).balance
      payer.key account.key lamports.toNat where
  distinct := hcreatable.distinct
  debited := by
    have hfunded := UInt64.le_iff_toNat_le.mp hcreatable.payer_funded
    rw [Ledger.balance, Ledger.createAccount_payer _ _ _ _ hcreatable.distinct, Ledger.balance]
    show ((L payer.key).lamports - lamports).toNat + lamports.toNat = _
    rw [UInt64.toNat_sub_of_le _ _ hcreatable.payer_funded]
    exact Nat.sub_add_cancel hfunded
  credited := by
    rw [Ledger.balance, Ledger.createAccount_self, Ledger.balance, hcreatable.account_unfunded]
    exact (Nat.zero_add _).symm
  others a hpayer haccount := by
    rw [Ledger.balance, Ledger.createAccount_of_ne _ _ _ _ hpayer haccount, Ledger.balance]

/-- The handlers that create an account write only bytes after it. -/
theorem LamportMove.of_creation {payer target system : AccountInfo} {position space : Nat}
    {seeds : List (List UInt8)} {L₁ : Ledger}
    (hcreates : instruction.creates = some (position, space)) (hspace : space ≤ 10240)
    (hpayer : accounts[0]? = some payer) (hsigned : payer.isSigner = true)
    (htarget : accounts[position]? = some target)
    (hcreate : createPdaAccount rt L payer target system space seeds = .ok L₁)
    (hbalance : L'.balance = L₁.balance)
    (howner : (L' target.key).owner = (L₁ target.key).owner) :
    LamportMove rt L accounts instruction L' := by
  rcases (createPdaAccount_eq_ok hspace).mp hcreate with
    ⟨-, -, rfl⟩ | ⟨-, -, hcreatable, rfl⟩
  · refine .still ?_ hbalance
    rintro rfl
    cases hcreates
  · have hunused := hcreatable.account_unused
    refine .rent hcreates hpayer hsigned htarget
      ⟨hunused.1, hunused.2, hcreatable.account_unfunded⟩ ?_ ?_
    · rw [howner, Ledger.createAccount_self]
    · rw [hbalance]
      exact hcreatable.moves

/-! ## Closing -/

/-- Closing takes the whole balance to the authority, if this is another
account. -/
theorem LamportMove.of_close {admin : AdminAccounts} {pool : PoolAccount} {round : RoundAccount}
    {credited : UInt64} (ctx : AdminContext rt L accounts admin pool round)
    (hdistinct : admin.round.key ≠ admin.authority.key)
    (hcredited : credited.toNat =
      (L admin.authority.key).lamports.toNat + (L admin.round.key).lamports.toNat) :
    LamportMove rt L accounts .closeRound
      (L.closeRound admin.authority.key admin.round.key credited) := by
  refine .closed rfl ctx.authority_at ctx.signed ctx.round_at ?_ ⟨hdistinct, ?_, ?_, ?_⟩
  · rw [Ledger.closeRound, Ledger.setData_self]
  · rw [Ledger.closeRound, Ledger.balance_setData, Ledger.balance, Ledger.setLamports_self]
    exact Nat.zero_add _
  · rw [Ledger.closeRound, Ledger.balance_setData, Ledger.balance,
      Ledger.setLamports_of_ne _ _ hdistinct.symm, Ledger.setLamports_self]
    exact hcredited
  · intro a hround hauthority
    rw [Ledger.closeRound, Ledger.balance_setData, Ledger.balance,
      Ledger.setLamports_of_ne _ _ hround, Ledger.setLamports_of_ne _ _ hauthority, Ledger.balance]

/-- A round that is its own authority loses its balance when it is closed, and
nobody gets it. -/
theorem close_of_own_authority {admin : AdminAccounts} {pool : PoolAccount} {round : RoundAccount}
    (ctx : AdminContext rt L accounts admin pool round)
    (hown : admin.round.key = admin.authority.key) (hok : close rt L accounts = .ok L') :
    (L' admin.round.key).lamports = 0 ∧ ∀ a, a ≠ admin.round.key → L' a = L a := by
  rcases ctx.exists_iff.mp (close_eq_ok.mp hok) with ⟨credited, -, rfl⟩
  refine ⟨?_, fun a hne => ?_⟩
  · rw [Ledger.closeRound, (Ledger.setData_frame ..).2, Ledger.setLamports_self]
  · rw [Ledger.closeRound, Ledger.setData_of_ne _ _ hne, Ledger.setLamports_of_ne _ _ hne,
      Ledger.setLamports_of_ne _ _ (hown ▸ hne)]

/-! ## Instructions -/

/-- The round of the administrative handlers is written, and no balance. -/
theorem LamportMove.of_edit {P : AdminAccounts → PoolAccount → RoundAccount → Prop}
    {edited : AdminAccounts → PoolAccount → RoundAccount → RoundAccount}
    (hkeeps : instruction ≠ .closeRound)
    (hedit : ∃ admin pool round, AdminContext rt L accounts admin pool round ∧
      P admin pool round ∧ L' = L.setRound admin.round.key (edited admin pool round)) :
    LamportMove rt L accounts instruction L' := by
  rcases hedit with ⟨admin, pool, round, -, -, rfl⟩
  exact .still hkeeps (Ledger.balance_setRound ..)

/-- An instruction moves lamports in one of the three ways, unless it closes a
round that is its own authority. -/
theorem LamportMove.of_dispatch (hok : dispatch rt slot L accounts instruction = .ok L')
    (hdistinct : ∀ admin pool round, AdminContext rt L accounts admin pool round →
      admin.round.key ≠ admin.authority.key) :
    LamportMove rt L accounts instruction L' := by
  cases instruction with
  | initializePool =>
      rcases initializePool_eq_ok.mp hok with
        ⟨_, _, _, L₁, -, hpayer, htarget, -, hsigned, -, hcreate, -, rfl⟩
      exact .of_creation rfl (by decide) hpayer hsigned htarget hcreate
        (Ledger.balance_setPool ..) (Ledger.setData_frame ..).1
  | openRound =>
      rcases openRound_eq_ok.mp hok with
        ⟨_, _, _, _, _, _, L₁, hpayer, -, htarget, -, hsigned, -, -, -, -, -, -, -, -, hcreate, -,
          -, -, rfl⟩
      refine .of_creation rfl (by decide) hpayer hsigned htarget hcreate ?_ ?_
      · rw [Ledger.balance_setRound, Ledger.balance_setPool]
      · exact (Ledger.setData_frame ..).1.trans (Ledger.setData_frame ..).1
  | registerTransparent =>
      rcases registerTransparent_eq_ok.mp hok with
        ⟨_, _, _, _, _, _, _, _, L₁, hpayer, -, -, htarget, -, hsigned, -, -, -, -, -, -, -, -, -,
          -, hcreate, -, -, -, rfl⟩
      refine .of_creation rfl (by decide) hpayer hsigned htarget hcreate ?_ ?_
      · rw [Ledger.balance_setRound, Ledger.balance_setRecord]
      · exact (Ledger.setData_frame ..).1.trans (Ledger.setData_frame ..).1
  | publishCohortRoot => exact .of_edit (by simp) (publishRoot_eq_ok.mp hok)
  | sealRound => exact .of_edit (by simp) (sealRound_eq_ok.mp hok)
  | scheduleRelease =>
      rcases schedule_eq_ok.mp hok with ⟨_, _, _, -, _, _, -, rfl⟩
      exact .still (by simp) (Ledger.balance_setRound ..)
  | beginExecutionWindow =>
      rcases begin_eq_ok.mp hok with ⟨_, _, -, -, -, -, rfl⟩
      exact .still (by simp) (Ledger.balance_setRound ..)
  | finalizeRound => exact .of_edit (by simp) (finalize_eq_ok.mp hok)
  | cancelRound => exact .of_edit (by simp) (cancel_eq_ok.mp hok)
  | closeRound =>
      rcases close_eq_ok.mp hok with
        ⟨admin, pool, round, ctx, credited, ⟨-, -, -, hcredited⟩, rfl⟩
      exact .of_close ctx (hdistinct admin pool round ctx) hcredited

/-- On a reachable ledger the round of an administrative instruction is not its
authority: it stands at a derived address. -/
theorem Reachable.round_ne_authority (hreach : Reachable rt L) (call : Call rt)
    {admin : AdminAccounts} {pool : PoolAccount} {round : RoundAccount}
    (ctx : AdminContext rt L call.accounts admin pool round) :
    admin.round.key ≠ admin.authority.key := by
  intro hsame
  have hderived := (hreach.consistent admin.round.key ctx.round_owned).isDerived
  exact not_signedBy_of_isDerived hderived ⟨_, ctx.authority_at, ctx.signed, hsame.symm⟩

/-- On a reachable ledger, whatever the account list, an instruction that runs
through moves the rent of a created account or the balance of a closed round or
nothing, and the sum of all lamports stays the same. -/
theorem lamports_accounted (hreach : Reachable rt L) (call : Call rt)
    (hok : processInstruction rt call.slot L call.accounts call.data = .ok L') :
    (∃ instruction, CoordinationInstruction.tryFromSlice call.data = some instruction ∧
      LamportMove rt L call.accounts instruction L') ∧
      L'.totalLamports = L.totalLamports := by
  simp only [processInstruction, bind_eq_ok, okOr_eq_ok] at hok
  rcases hok with ⟨instruction, hdecoded, hdispatch⟩
  have hmove : LamportMove rt L call.accounts instruction L' :=
    .of_dispatch hdispatch fun _ _ _ ctx => hreach.round_ne_authority call ctx
  exact ⟨⟨instruction, hdecoded, hmove⟩, hmove.totalLamports_eq⟩

/-- A call that runs through is an instruction that runs through. -/
theorem processed_of_ran {call : Call rt} (hran : ran (callVisit rt L call) = some instruction) :
    processInstruction rt call.slot L call.accounts call.data = .ok (applyCall rt L call) := by
  have hok := (ran_eq_some (callVisit_mem_history rt L call)).mp hran
  rcases execute_eq_ok.mp hok.executed with ⟨⟨decoded, hdecoded, hdispatch⟩, -⟩
  simp only [processInstruction, bind_eq_ok, okOr_eq_ok]
  exact ⟨decoded, hdecoded, hdispatch⟩

/-- The authority closes the round of the small chain, once it is cancelled. -/
def demoClosing : Call demoRuntime :=
  tableCall 10 demoAdmin .closeRound demoAdmin_signers

/-- The ledger with the cancelled round, before it is closed. -/
def demoCancelledLedger : Ledger :=
  ledgerAfter demoRuntime demoLedger [demoInitialize, demoOpen, demoCancel]

theorem demoClosing_processed :
    processInstruction demoRuntime demoClosing.slot demoCancelledLedger demoClosing.accounts
      demoClosing.data = .ok (applyCall demoRuntime demoCancelledLedger demoClosing) := by
  have hran : ran (callVisit demoRuntime demoCancelledLedger demoClosing) = some .closeRound := by
    decide +kernel
  exact processed_of_ran hran

theorem lamports_accounted_demo :
    (∃ instruction, CoordinationInstruction.tryFromSlice demoClosing.data = some instruction ∧
      LamportMove demoRuntime demoCancelledLedger demoClosing.accounts instruction
        (applyCall demoRuntime demoCancelledLedger demoClosing)) ∧
      (applyCall demoRuntime demoCancelledLedger demoClosing).totalLamports =
        demoCancelledLedger.totalLamports :=
  lamports_accounted (Reachable.run (.genesis demoLedger_genesis)) demoClosing
    demoClosing_processed

end MirrorPool
