import MirrorPool.Library.Runs
import MirrorPool.Program.StepRules

/-!
# Histories of calls

A history is the list of all calls of the program with the ledgers around them,
from a ledger in which the program owns nothing.  The bytes of an account do not
say what it is, but its address does: every program account was derived for one
of three purposes and keeps the size it was created with.

Main results:

- Theorem {lit}`consistent_of_genesis`: at every moment every program account
  is a pool, a round or a written participant record by its address.
- Theorem {lit}`ran_eq_some`: the instruction that ran through in a visit.
-/

namespace MirrorPool

/-! ## Calls in a run -/

/-- One call with the ledgers on its two sides. -/
abbrev CallVisit (rt : Runtime) := Runs.Visit Ledger (Call rt)

/-- All calls of a run in order. -/
abbrev history (rt : Runtime) (L : Ledger) (calls : List (Call rt)) : List (CallVisit rt) :=
  Runs.visits (applyCall rt) L calls

/-- The ledger at the end of a run. -/
abbrev ledgerAfter (rt : Runtime) (L : Ledger) (calls : List (Call rt)) : Ledger :=
  Runs.run (applyCall rt) L calls

/-- The call of the visit ran through with the given instruction. -/
abbrev Succeeded {rt : Runtime} (v : CallVisit rt) (instruction : CoordinationInstruction) :
    Prop :=
  Succeeds rt v.before v.input instruction v.after

/-- Before the first call the program owns no account. -/
def Genesis (rt : Runtime) (L : Ledger) : Prop :=
  ∀ a, (L a).owner ≠ rt.programId

variable {rt : Runtime} {L : Ledger} {calls : List (Call rt)} {v : CallVisit rt} {a : Pubkey}

/-- The visit of a single call. -/
abbrev callVisit (rt : Runtime) (L : Ledger) (call : Call rt) : CallVisit rt :=
  ⟨L, call, applyCall rt L call⟩

theorem history_cons (call : Call rt) (calls : List (Call rt)) :
    history rt L (call :: calls) =
      callVisit rt L call :: history rt (applyCall rt L call) calls := rfl

theorem forall_mem_history_cons {P : CallVisit rt → Prop} {call : Call rt} :
    (∀ v ∈ history rt L (call :: calls), P v) ↔
      P (callVisit rt L call) ∧ ∀ v ∈ history rt (applyCall rt L call) calls, P v :=
  List.forall_mem_cons

theorem callVisit_mem_history (rt : Runtime) (L : Ledger) (call : Call rt) :
    callVisit rt L call ∈ history rt L [call] :=
  List.mem_singleton_self _

/-- Each call of a history ran through, or none of its instructions did and it
changed nothing. -/
theorem succeeded_or_unchanged (hv : v ∈ history rt L calls) :
    (∃ instruction, Succeeded v instruction) ∨
      (v.after = v.before ∧ ∀ instruction, ¬Succeeded v instruction) := by
  have hafter := Runs.after_of_mem_visits hv
  by_cases hran : ∃ instruction, Succeeded v instruction
  · exact Or.inl hran
  · refine Or.inr ⟨?_, not_exists.mp hran⟩
    rcases applyCall_cases rt v.before v.input with ⟨instruction, hok⟩ | hsame
    · rw [← hafter] at hok
      exact absurd ⟨instruction, hok⟩ hran
    · exact hafter.trans hsame

/-- The instruction that ran through, if one did. -/
def ran (v : CallVisit rt) : Option CoordinationInstruction :=
  match CoordinationInstruction.tryFromSlice v.input.data, execute rt v.before v.input with
  | some instruction, .ok _ => some instruction
  | _, _ => none

theorem ran_eq_some (hv : v ∈ history rt L calls) {instruction : CoordinationInstruction} :
    ran v = some instruction ↔ Succeeded v instruction := by
  have hafter := Runs.after_of_mem_visits hv
  unfold ran applyCall at *
  constructor
  · intro hran
    split at hran
    · rename_i decoded L' hdecoded hexecuted
      rw [hexecuted] at hafter
      rcases Option.some.inj hran with rfl
      exact ⟨hdecoded, hexecuted.trans (by rw [hafter])⟩
    · contradiction
  · rintro ⟨hdecoded, hexecuted⟩
    rw [hdecoded, hexecuted]

/-- The instruction that ran through on the round at the given address, if
one did. -/
def ranOn (v : CallVisit rt) (a : Pubkey) : Option CoordinationInstruction :=
  (ran v).filter fun instruction => roundKey instruction v.input.accounts = some a

theorem ranOn_eq_some (hv : v ∈ history rt L calls) {instruction : CoordinationInstruction} :
    ranOn v a = some instruction ↔
      Succeeded v instruction ∧ roundKey instruction v.input.accounts = some a := by
  rw [ranOn, Option.filter_eq_some_iff, ran_eq_some hv, decide_eq_true_iff]

theorem ledgerAfter_append (first second : List (Call rt)) :
    ledgerAfter rt L (first ++ second) = ledgerAfter rt (ledgerAfter rt L first) second :=
  Runs.run_append ..

theorem ledgerAfter_concat (before : List (Call rt)) (call : Call rt) :
    ledgerAfter rt L (before ++ [call]) = (callVisit rt (ledgerAfter rt L before) call).after :=
  ledgerAfter_append before [call]

theorem ledgerAfter_append_cons (before life : List (Call rt)) (call : Call rt) :
    ledgerAfter rt L (before ++ call :: life) =
      ledgerAfter rt (ledgerAfter rt L (before ++ [call])) life := by
  rw [← ledgerAfter_append, List.append_assoc, List.singleton_append]

/-- The history of a run ends with the history of its last part. -/
theorem history_append_cons (before life : List (Call rt)) (call : Call rt) :
    history rt L (before ++ call :: life) =
      history rt L (before ++ [call]) ++ history rt (ledgerAfter rt L (before ++ [call])) life := by
  rw [← Runs.visits_append, List.append_assoc, List.singleton_append]

/-- Two instructions of one visit are equal. -/
theorem Succeeds.instruction_unique {L L₁ L₂ : Ledger} {call : Call rt}
    {first second : CoordinationInstruction} (hfirst : Succeeds rt L call first L₁)
    (hsecond : Succeeds rt L call second L₂) : first = second :=
  Option.some.inj (hfirst.decoded.symm.trans hsecond.decoded)

/-! ## Account kinds -/

/-- The version byte of a stored round comes first. -/
theorem RoundAt.head? {round : RoundAccount} (hround : RoundAt rt L a round) :
    (L a).data.head? = some round.version := by
  rcases RoundAccount.codec.read_eq_some.mp hround.read with ⟨rest, hdata⟩
  rw [hdata]
  exact round.head?_encode rest

/-- The version byte of a stored pool comes first. -/
theorem PoolAt.head? {pool : PoolAccount} (hpool : PoolAt rt L a pool) :
    (L a).data.head? = some pool.version := by
  rcases PoolAccount.codec.read_eq_some.mp hpool.read with ⟨rest, hdata⟩
  rw [hdata]
  exact pool.head?_encode rest

/-- The bytes read as a round whose pool is a derived address. -/
def HoldsRound (rt : Runtime) (bytes : List UInt8) : Prop :=
  ∃ round, RoundAccount.codec.read bytes = some round ∧ rt.IsDerived round.pool

/-- What a program account is, by its address.  A round account is blank or
holds a round with a derived pool.  A participant record is never rewritten, so
it keeps the version byte it was written with. -/
inductive AccountKind (rt : Runtime) (a : Pubkey) (account : Account) : Prop where
  | pool {poolId : Bytes32} {bump : UInt8}
      (derived : rt.createProgramAddress (Runtime.poolSeeds poolId bump) rt.programId = some a)
      (size : account.data.length = poolAccountSize)
  | round {pool : Pubkey} {roundId : UInt64} {bump : UInt8}
      (derived : rt.createProgramAddress (Runtime.roundSeeds pool roundId bump) rt.programId =
        some a)
      (size : account.data.length = roundAccountSize)
      (holds : account.data.head? = some 1 → HoldsRound rt account.data)
  | record {round : Pubkey} {key : Bytes32} {bump : UInt8}
      (derived : rt.createProgramAddress (Runtime.participantSeeds round key bump) rt.programId =
        some a)
      (size : account.data.length = participantRecordSize)
      (written : account.data.head? = some 1)

namespace AccountKind

variable {account account' : Account}

/-- No private key exists for the address of a program account. -/
theorem isDerived (hkind : AccountKind rt a account) : rt.IsDerived a := by
  cases hkind with
  | pool derived => exact ⟨_, derived⟩
  | round derived => exact ⟨_, derived⟩
  | record derived => exact ⟨_, derived⟩

/-- A pool address holds a pool-sized buffer. -/
theorem pool_size {poolId : Bytes32} {bump : UInt8} (hkind : AccountKind rt a account)
    (hderived : rt.createProgramAddress (Runtime.poolSeeds poolId bump) rt.programId = some a) :
    account.data.length = poolAccountSize := by
  cases hkind with
  | pool _ size => exact size
  | round derived => exact (Runtime.pool_ne_round hderived derived).elim
  | record derived => exact (Runtime.participant_ne_pool derived hderived).elim

/-- A round address holds a round-sized buffer. -/
theorem round_size {pool : Pubkey} {roundId : UInt64} {bump : UInt8}
    (hkind : AccountKind rt a account)
    (hderived : rt.createProgramAddress (Runtime.roundSeeds pool roundId bump) rt.programId =
      some a) : account.data.length = roundAccountSize := by
  cases hkind with
  | pool derived => exact (Runtime.pool_ne_round derived hderived).elim
  | round _ size => exact size
  | record derived => exact (Runtime.participant_ne_round derived hderived).elim

/-- A record address holds a written record. -/
theorem record_written {round : Pubkey} {key : Bytes32} {bump : UInt8}
    (hkind : AccountKind rt a account)
    (hderived : rt.createProgramAddress (Runtime.participantSeeds round key bump) rt.programId =
      some a) :
    account.data.length = participantRecordSize ∧ account.data.head? = some 1 := by
  cases hkind with
  | pool derived => exact (Runtime.participant_ne_pool hderived derived).elim
  | round derived => exact (Runtime.participant_ne_round hderived derived).elim
  | record _ size written => exact ⟨size, written⟩

/-- A buffer with room for a pool is no record, and keeps its kind when bytes
of the same length replace it that hold a round again if it held one. -/
theorem of_length_eq (hkind : AccountKind rt a account)
    (hlength : account'.data.length = account.data.length)
    (hroom : participantRecordSize < account.data.length)
    (hholds : (account.data.head? = some 1 → HoldsRound rt account.data) →
      account'.data.head? = some 1 → HoldsRound rt account'.data) :
    AccountKind rt a account' := by
  cases hkind with
  | pool derived size => exact .pool derived (hlength.trans size)
  | round derived size holds => exact .round derived (hlength.trans size) (hholds holds)
  | record _ size => exact absurd size (Nat.ne_of_gt hroom)

end AccountKind

/-- Every program account has a kind. -/
def Consistent (rt : Runtime) (L : Ledger) : Prop :=
  ∀ a, (L a).owner = rt.programId → AccountKind rt a (L a)

/-- The address of a program account never signs. -/
theorem not_signedBy_of_isDerived {call : Call rt} (hderived : rt.IsDerived a) :
    ¬SignedBy call.accounts a := by
  rintro ⟨info, hinfo, hsigned, rfl⟩
  exact call.derived_not_signer info (List.mem_of_getElem? hinfo) hsigned hderived

/-- The size of an allocated buffer is the requested one, given that a reused
account already has it. -/
theorem Allocated.length_eq {space : Nat} {before after : Account}
    (halloc : Allocated rt space before after)
    (hreused : before.owner = rt.programId → before.data.length = space) :
    after.data.length = space := by
  cases halloc with
  | reused owned => exact hreused owned
  | created => exact List.length_replicate

/-- An account that starts with a set version byte is not allocated again. -/
theorem Allocated.not_of_head? {space : Nat} {before after : Account}
    (halloc : Allocated rt space before after) (howned : before.owner = rt.programId)
    (hhead : before.data.head? = some 1) : False := by
  cases halloc with
  | reused _ blank =>
      rw [hhead] at blank
      exact absurd blank (by decide)
  | created owner other => exact other (owner.symm.trans howned)

/-- The fields of a round that are fixed when it is opened. -/
def RoundAccount.identity (round : RoundAccount) : Pubkey × UInt64 × UInt8 × UInt64 × Bytes32 :=
  (round.pool, round.roundId, round.bump, round.registrationDeadline, round.templateHash)

/-- The edits keep the version and the identity of a round: its pool, number,
bump, deadline and template. -/
theorem RoundStep.identity {call : Call rt} {instruction : CoordinationInstruction}
    {round round' : RoundAccount} (hstep : RoundStep rt L call instruction round round') :
    round'.version = round.version ∧ round'.identity = round.identity := by
  cases hstep <;> exact ⟨rfl, rfl⟩

/-- The edits keep the pool of a round. -/
theorem RoundStep.pool_eq {call : Call rt} {instruction : CoordinationInstruction}
    {round round' : RoundAccount} (hstep : RoundStep rt L call instruction round round') :
    round'.pool = round.pool :=
  congrArg Prod.fst hstep.identity.2

/-- A successful call keeps the kind of every program account. -/
theorem AccountStep.kind {call : Call rt} {instruction : CoordinationInstruction}
    {account : Account} (hstep : AccountStep rt L call a instruction account)
    (hconsistent : Consistent rt L) (howned : account.owner = rt.programId) :
    AccountKind rt a account := by
  cases hstep with
  | same => exact hconsistent a howned
  | wallet _ signed =>
      exact absurd signed (not_signedBy_of_isDerived (hconsistent a howned).isDerived)
  | initialized _ _ _ derived allocated fits =>
      refine .pool derived ?_
      rw [Account.length_store fits]
      exact allocated.length_eq fun h => (hconsistent a h).pool_size derived
  | opened passed _ _ _ _ _ _ derived allocated fits =>
      refine .round derived ?_ fun _ => ?_
      · rw [Account.length_store fits]
        exact allocated.length_eq fun h => (hconsistent a h).round_size derived
      · exact ⟨_, Account.read_store, (hconsistent _ passed.owned).isDerived⟩
  | counted passed _ signed =>
      have hfits := PoolAccount.codec.width_le_of_read passed.read
      refine (hconsistent a howned).of_length_eq (Account.length_store hfits)
        (lt_of_lt_of_le (by decide) hfits) fun holds hhead => ?_
      -- a round taken for a pool has its pool as authority, which never signs
      rcases holds (passed.head?.trans hhead) with ⟨round, hread, hderived⟩
      rw [(pool_authority_eq_round_pool passed.read hread).2] at signed
      exact absurd signed (not_signedBy_of_isDerived hderived)
  | recorded _ _ _ derived allocated fits =>
      refine .record derived ?_ (ParticipantRecord.head?_encode ..)
      rw [Account.length_store fits]
      exact allocated.length_eq fun h => ((hconsistent a h).record_written derived).1
  | edited _ round_at step =>
      have hfits := RoundAccount.codec.width_le_of_read round_at.read
      refine (hconsistent a howned).of_length_eq (Account.length_store hfits)
        (lt_of_lt_of_le (by decide) hfits) fun holds hhead => ⟨_, Account.read_store, ?_⟩
      have hversion : some _ = some (1 : UInt8) :=
        (RoundAccount.head?_encode ..).symm.trans hhead
      obtain ⟨round, hread, hderived⟩ := holds (by
        rw [round_at.head?, ← step.identity.1]
        exact hversion)
      rcases Option.some.inj (hread.symm.trans round_at.read) with rfl
      exact step.pool_eq ▸ hderived
  | closed _ _ _ round_at =>
      have hfits := RoundAccount.codec.width_le_of_read round_at.read
      refine (hconsistent a howned).of_length_eq List.length_replicate
        (lt_of_lt_of_le (by decide) hfits) fun _ hhead => ?_
      have hone := List.eq_of_mem_replicate (List.mem_of_head? hhead)
      exact absurd hone (by decide)

/-- A call keeps a consistent ledger consistent. -/
theorem consistent_step (hv : v ∈ history rt L calls) (hbefore : Consistent rt v.before) :
    Consistent rt v.after := by
  rcases succeeded_or_unchanged hv with ⟨instruction, hok⟩ | ⟨hsame, -⟩
  · intro a howned
    exact (accountStep_of_execute hok a).kind hbefore howned
  · rw [hsame]
    exact hbefore

/-- Every moment of a run from a genesis ledger is consistent. -/
theorem consistent_of_genesis (hgenesis : Genesis rt L) (calls : List (Call rt)) :
    Consistent rt (ledgerAfter rt L calls) ∧
      ∀ v ∈ history rt L calls, Consistent rt v.before ∧ Consistent rt v.after :=
  Runs.run_invariant (Consistent rt) (fun a howned => absurd howned (hgenesis a))
    fun _ hv hbefore => consistent_step hv hbefore

end MirrorPool
