import MirrorPool.Program.History

/-!
# A runtime with a table of addresses

The laws of {lit}`Runtime` can be met: address derivation by a finite table of
seeds without repeated addresses has no collisions, and the reference System
Program creates an account whenever it may.  Runs over such a runtime can be
evaluated.

Main results:

- Definition {lit}`tableRuntime`: the runtime of a table.
- Theorem {lit}`not_isDerived_of_notMem`: an address outside the table is not
  derived, so that it may sign.
-/

namespace MirrorPool

/-- The table assigns addresses to joined seeds. -/
abbrev AddressTable := List (List UInt8 × Pubkey)

/-- The address of a seed list, looked up by its joined bytes. -/
def AddressTable.lookup (table : AddressTable) (seeds : List (List UInt8)) : Option Pubkey :=
  (table.find? fun entry => entry.1 = seeds.flatten).map (·.2)

namespace AddressTable

variable {table : AddressTable} {seeds seeds' : List (List UInt8)} {key : Pubkey}

/-- A looked up address stands in the table beside the joined seeds. -/
theorem mem_of_lookup (hlookup : table.lookup seeds = some key) :
    (seeds.flatten, key) ∈ table := by
  rcases Option.map_eq_some_iff.mp hlookup with ⟨entry, hfind, rfl⟩
  have hseeds : entry.1 = seeds.flatten := by simpa using List.find?_some hfind
  rw [← hseeds]
  exact List.mem_of_find?_eq_some hfind

/-- A table without repeated addresses has no collisions. -/
theorem lookup_inj (hnodup : (table.map (·.2)).Nodup) (hkey : table.lookup seeds = some key)
    (hkey' : table.lookup seeds' = some key) : seeds.flatten = seeds'.flatten :=
  congrArg Prod.fst
    (List.inj_on_of_nodup_map hnodup (mem_of_lookup hkey) (mem_of_lookup hkey') rfl)

end AddressTable

instance (L : Ledger) (payer account : AccountInfo) (lamports : UInt64)
    (derived : Option Pubkey) : Decidable (Creatable L payer account lamports derived) :=
  decidable_of_iff
    (payer.isSigner = true ∧ payer.isWritable = true ∧ account.isWritable = true ∧
      (account.isSigner = true ∨ derived = some account.key) ∧ payer.key ≠ account.key ∧
      ((L payer.key).owner = systemProgramId ∧ (L payer.key).data = []) ∧
      lamports ≤ (L payer.key).lamports ∧
      ((L account.key).owner = systemProgramId ∧ (L account.key).data = []) ∧
      (L account.key).lamports = 0)
    ⟨fun ⟨h₁, h₂, h₃, h₄, h₅, h₆, h₇, h₈, h₉⟩ => ⟨h₁, h₂, h₃, h₄, h₅, h₆, h₇, h₈, h₉⟩,
      fun ⟨h₁, h₂, h₃, h₄, h₅, h₆, h₇, h₈, h₉⟩ => ⟨h₁, h₂, h₃, h₄, h₅, h₆, h₇, h₈, h₉⟩⟩

/-- The runtime of a table: seeds are looked up, the rent grows with the size,
and the System Program creates an account whenever it may. -/
def tableRuntime (programId : Pubkey) (table : AddressTable)
    (hnodup : (table.map (·.2)).Nodup) : Runtime where
  programId
  createProgramAddress seeds program := if program = programId then table.lookup seeds else none
  minimumBalance space := UInt64.ofNat ((128 + space) * 6960)
  createAccount L payer account lamports space owner seeds :=
    if Creatable L payer account lamports (table.lookup seeds) then
      .ok (L.createAccount payer.key account.key lamports space owner)
    else .error (.systemProgram 0)
  createProgramAddress_inj hkey hkey' := by
    rcases Option.ite_none_right_eq_some.mp hkey with ⟨hprogram, hlookup⟩
    rcases Option.ite_none_right_eq_some.mp hkey' with ⟨hprogram', hlookup'⟩
    exact ⟨AddressTable.lookup_inj hnodup hlookup hlookup', hprogram.trans hprogram'.symm⟩
  createAccount_eq_ok _ := by
    rw [if_pos rfl]
    split
    · rename_i hcreatable
      simp only [hcreatable, true_and, Except.ok.injEq]
      exact eq_comm
    · rename_i hcreatable
      simp only [hcreatable, false_and, reduceCtorEq]

/-- An address outside the table is not derived, so that it may sign. -/
theorem not_isDerived_of_notMem {programId key : Pubkey} {table : AddressTable}
    {hnodup : (table.map (·.2)).Nodup} (hkey : key ∉ table.map (·.2)) :
    ¬(tableRuntime programId table hnodup).IsDerived key := by
  rintro ⟨seeds, hderived⟩
  rcases Option.ite_none_right_eq_some.mp hderived with ⟨-, hlookup⟩
  exact hkey (List.mem_map_of_mem (AddressTable.mem_of_lookup hlookup))

/-- No address of the table is among the signers. -/
def TableSigners (table : AddressTable) (accounts : List AccountInfo) : Prop :=
  ∀ info ∈ accounts, info.isSigner = true → info.key ∉ table.map (·.2)

instance (table : AddressTable) (accounts : List AccountInfo) :
    Decidable (TableSigners table accounts) :=
  inferInstanceAs (Decidable (∀ info ∈ accounts, _))

/-- A call on the runtime of a table. -/
def tableCall {programId : Pubkey} {table : AddressTable} {hnodup : (table.map (·.2)).Nodup}
    (slot : UInt64) (accounts : List AccountInfo) (instruction : CoordinationInstruction)
    (hsigners : TableSigners table accounts) : Call (tableRuntime programId table hnodup) where
  slot
  accounts
  data := instruction.encode
  derived_not_signer info hinfo hsigned :=
    not_isDerived_of_notMem (hsigners info hinfo hsigned)

/-- A call carries the instruction it was made of. -/
theorem tableCall_decoded {programId : Pubkey} {table : AddressTable}
    {hnodup : (table.map (·.2)).Nodup} {slot : UInt64} {accounts : List AccountInfo}
    {instruction decoded : CoordinationInstruction} {hsigners : TableSigners table accounts} :
    CoordinationInstruction.tryFromSlice (tableCall slot accounts instruction hsigners :
        Call (tableRuntime programId table hnodup)).data = some decoded ↔
      instruction = decoded := by
  rw [tableCall, CoordinationInstruction.tryFromSlice_encode, Option.some.injEq]

/-! ## A small chain -/

/-- An address or identifier with one repeated byte. -/
def demoKey (byte : UInt8) : Pubkey := Vector.replicate 32 byte

/-- Two pools, the first two rounds of the first one, and the records of two keys,
one of them under two bumps. -/
def demoTable : AddressTable :=
  [((Runtime.poolSeeds (demoKey 1) 255).flatten, demoKey 11),
    ((Runtime.poolSeeds (demoKey 2) 255).flatten, demoKey 12),
    ((Runtime.roundSeeds (demoKey 11) 0 255).flatten, demoKey 21),
    ((Runtime.roundSeeds (demoKey 11) 1 255).flatten, demoKey 22),
    ((Runtime.participantSeeds (demoKey 21) (demoKey 61) 255).flatten, demoKey 31),
    ((Runtime.participantSeeds (demoKey 21) (demoKey 61) 254).flatten, demoKey 32),
    ((Runtime.participantSeeds (demoKey 21) (demoKey 62) 255).flatten, demoKey 33)]

theorem demoTable_nodup : (demoTable.map (·.2)).Nodup := by decide

/-- The program and its addresses on the small chain. -/
def demoRuntime : Runtime :=
  tableRuntime (demoKey 200) demoTable demoTable_nodup

/-- Two funded wallets and nothing else. -/
def demoLedger : Ledger := fun a =>
  { owner := systemProgramId
    lamports := if a = demoKey 101 ∨ a = demoKey 102 then 1000000000 else 0
    data := [] }

/-- A signing and paying account. -/
def demoSigner (byte : UInt8) : AccountInfo := ⟨demoKey byte, true, true⟩

/-- An account that is written. -/
def demoAccount (byte : UInt8) : AccountInfo := ⟨demoKey byte, false, true⟩

/-- The System Program in an account list. -/
def demoSystem : AccountInfo := ⟨systemProgramId, false, false⟩

/-- The first wallet sets up a pool. -/
def demoInitialize : Call demoRuntime :=
  tableCall 5 [demoSigner 101, demoAccount 11, demoSystem]
    (.initializePool (demoKey 1) (demoKey 50) 2 10 5 50 20 .transparentRegistry 255) (by decide)

/-- The account of this pool once its first round is open. -/
def demoPoolAccount : PoolAccount :=
  { version := 1, bump := 255, authority := demoKey 101, poolId := demoKey 1,
    templateHash := demoKey 50, minParticipants := 2, maxParticipants := 10,
    minReleaseDelay := 5, maxReleaseDelay := 50, executionWindow := 20,
    backend := .transparentRegistry, nextRound := 1, paused := false }

/-- The first wallet opens the first round of the pool. -/
def demoOpen : Call demoRuntime :=
  tableCall 6 [demoSigner 101, demoAccount 11, demoAccount 21, demoSystem]
    (.openRound 0 100 (demoKey 50) 255) (by decide)

/-- A first key is registered. -/
def demoRegister : Call demoRuntime :=
  tableCall 7
    [demoSigner 102, demoAccount 11, demoAccount 21, demoAccount 31, demoSystem]
    (.registerTransparent (demoKey 61) 255) (by decide)

/-- A second key is registered. -/
def demoRegisterOther : Call demoRuntime :=
  tableCall 8
    [demoSigner 102, demoAccount 11, demoAccount 21, demoAccount 33, demoSystem]
    (.registerTransparent (demoKey 62) 255) (by decide)

/-- The account list of an administrative call by the first wallet. -/
def demoAdmin : List AccountInfo := [demoSigner 101, demoAccount 11, demoAccount 21]

theorem demoAdmin_signers : TableSigners demoTable demoAdmin := by decide

/-- The round is sealed. -/
def demoSeal : Call demoRuntime := tableCall 9 demoAdmin .sealRound demoAdmin_signers

/-- Its release is scheduled. -/
def demoSchedule : Call demoRuntime :=
  tableCall 10 demoAdmin (.scheduleRelease 20) demoAdmin_signers

/-- The first wallet cancels the round instead, with its own pool. -/
def demoCancel : Call demoRuntime := tableCall 9 demoAdmin .cancelRound demoAdmin_signers

theorem demoLedger_genesis : Genesis demoRuntime demoLedger := by
  intro a
  show systemProgramId ≠ demoKey 200
  decide

end MirrorPool
