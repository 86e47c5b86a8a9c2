import MirrorPool.Program.Creation
import MirrorPool.Program.OwnPool

/-!
# Instruction builders

The client builds the instructions of the administrator and of the execution
window.  It derives the addresses by a search for a bump, and asks for the
privileges of every account; the runtime hands the accounts to the program in
this order.

Main results:

- Definitions {lit}`initializePoolInstruction`, {lit}`openRoundInstruction`,
  {lit}`adminRoundInstruction`, and {lit}`beginWindowInstruction`: the builders.
- Theorem {lit}`Instruction.writable_accountInfos`: what was asked for as
  writable is writable wherever it is listed.
- Theorem {lit}`Sends.execute_eq`: on such accounts a call does what the handler
  does.
-/

namespace MirrorPool

open Fallible

/-! ## Instructions -/

/-- One account of an instruction with the privileges it asks for. -/
structure AccountMeta where
  pubkey : Pubkey
  isSigner : Bool
  isWritable : Bool
deriving DecidableEq, Repr

namespace AccountMeta

/-- A writable account. -/
def new (pubkey : Pubkey) (isSigner : Bool) : AccountMeta := ⟨pubkey, isSigner, true⟩

/-- A read-only account. -/
def newReadonly (pubkey : Pubkey) (isSigner : Bool) : AccountMeta := ⟨pubkey, isSigner, false⟩

end AccountMeta

/-- An instruction of the client. -/
structure Instruction where
  programId : Pubkey
  accounts : List AccountMeta
  data : List UInt8
deriving DecidableEq, Repr

namespace Instruction

variable {built : Instruction}

/-- An account as the program sees it: a key that is listed several times has
the privileges of all its positions. -/
def accountInfo (built : Instruction) (m : AccountMeta) : AccountInfo where
  key := m.pubkey
  isSigner := built.accounts.any fun other => other.pubkey = m.pubkey ∧ other.isSigner = true
  isWritable := built.accounts.any fun other => other.pubkey = m.pubkey ∧ other.isWritable = true

/-- The account list that the runtime hands to the program. -/
def accountInfos (built : Instruction) : List AccountInfo :=
  built.accounts.map built.accountInfo

/-- The keys that are asked for as writable. -/
def writableKeys (built : Instruction) : List Pubkey :=
  (built.accounts.filter (·.isWritable)).map (·.pubkey)

theorem accountInfos_getElem? {position : Nat} {m : AccountMeta}
    (hm : built.accounts[position]? = some m) :
    built.accountInfos[position]? = some (built.accountInfo m) := by
  rw [accountInfos, List.getElem?_map, hm, Option.map_some]

/-- A signature that is asked for is seen. -/
theorem isSigner_accountInfo {m : AccountMeta} (hm : m ∈ built.accounts)
    (hsigner : m.isSigner = true) : (built.accountInfo m).isSigner = true := by
  rw [accountInfo, List.any_eq_true]
  exact ⟨m, hm, by simp [hsigner]⟩

/-- A writable position is seen as such. -/
theorem isWritable_accountInfo {m : AccountMeta} (hm : m ∈ built.accounts)
    (hwritable : m.isWritable = true) : (built.accountInfo m).isWritable = true := by
  rw [accountInfo, List.any_eq_true]
  exact ⟨m, hm, by simp [hwritable]⟩

/-- What was asked for as writable is writable wherever it is listed. -/
theorem writable_accountInfos (built : Instruction) :
    Writable built.accountInfos built.writableKeys := by
  intro info hinfo hkey
  rcases List.mem_map.mp hinfo with ⟨m, -, rfl⟩
  rcases List.mem_map.mp hkey with ⟨other, hother, hsame⟩
  rcases List.mem_filter.mp hother with ⟨hmem, hwritable⟩
  rw [accountInfo, List.any_eq_true]
  exact ⟨other, hmem, by simpa using ⟨hsame, hwritable⟩⟩

end Instruction

/-! ## Builders -/

/-- The search for an address and its bump, which stops the program when it
finds none. -/
structure AddressFinder (rt : Runtime) where
  findProgramAddress : List (List UInt8) → Pubkey → Option (Pubkey × UInt8)
  find_eq_some : ∀ {seeds : List (List UInt8)} {programId address : Pubkey} {bump : UInt8},
    findProgramAddress seeds programId = some (address, bump) →
    rt.createProgramAddress (seeds ++ [[bump]]) programId = some address

variable {rt : Runtime}

/-- Build pool initialization and derive its address. -/
def initializePoolInstruction (finder : AddressFinder rt) (programId authority : Pubkey)
    (poolId templateHash : Bytes32) (minParticipants maxParticipants : UInt32)
    (minReleaseDelay maxReleaseDelay executionWindow : UInt64) (backend : Backend) :
    Option (Instruction × Pubkey) := do
  let (pool, bump) ← finder.findProgramAddress [ascii "pool", poolId.toList] programId
  let data := (CoordinationInstruction.initializePool poolId templateHash minParticipants
    maxParticipants minReleaseDelay maxReleaseDelay executionWindow backend bump).encode
  let accounts :=
    [.new authority true, .new pool false, .newReadonly systemProgramId false]
  return ({ programId, accounts, data }, pool)

/-- Build a round-open instruction and derive its address. -/
def openRoundInstruction (finder : AddressFinder rt) (programId authority pool : Pubkey)
    (roundId registrationDeadline : UInt64) (templateHash : Bytes32) :
    Option (Instruction × Pubkey) := do
  let (round, bump) ← finder.findProgramAddress
    [ascii "round", pool.toList, FixedCodec.leBytes 8 roundId.toNat] programId
  let data :=
    (CoordinationInstruction.openRound roundId registrationDeadline templateHash bump).encode
  let accounts :=
    [.new authority true, .new pool false, .new round false, .newReadonly systemProgramId false]
  return ({ programId, accounts, data }, round)

/-- Build an authority-controlled transition. -/
def adminRoundInstruction (programId authority pool round : Pubkey)
    (instruction : CoordinationInstruction) : Instruction where
  programId
  accounts := [.new authority true, .new pool false, .new round false]
  data := instruction.encode

/-- Build the transition to the execution window, which anybody may send. -/
def beginWindowInstruction (programId round : Pubkey) : Instruction where
  programId
  accounts := [.new round false]
  data := CoordinationInstruction.beginExecutionWindow.encode

/-! ## Calls with built instructions -/

/-- The call passes the instruction to the program. -/
structure Sends (call : Call rt) (built : Instruction) : Prop where
  accounts : call.accounts = built.accountInfos
  data : call.data = built.data

theorem Sends.account_at {call : Call rt} {built : Instruction} {position : Nat}
    {m : AccountMeta} (hsends : Sends call built) (hm : built.accounts[position]? = some m) :
    call.accounts[position]? = some (built.accountInfo m) := by
  rw [hsends.accounts]
  exact Instruction.accountInfos_getElem? hm

/-- The first account and all written ones are asked for as writable. -/
def Instruction.CoversWrites (built : Instruction) (instruction : CoordinationInstruction) :
    Prop :=
  ∀ position ∈ 0 :: instruction.writes, ∀ m, built.accounts[position]? = some m →
    m.isWritable = true

/-- What stands in a covered position was asked for as writable. -/
theorem Instruction.CoversWrites.mem_writableKeys {built : Instruction}
    {instruction : CoordinationInstruction} {position : Nat} {a : Pubkey}
    (hcovers : built.CoversWrites instruction) (hposition : position ∈ 0 :: instruction.writes)
    (hkey : keyAt built.accountInfos position = some a) : a ∈ built.writableKeys := by
  rw [keyAt, Instruction.accountInfos, List.getElem?_map, Option.map_map,
    Option.map_eq_some_iff] at hkey
  rcases hkey with ⟨m, hm, rfl⟩
  have hwritable := hcovers position hposition m hm
  have hmem := List.mem_of_getElem? hm
  exact List.mem_map.mpr ⟨m, List.mem_filter.mpr ⟨hmem, hwritable⟩, rfl⟩

/-- On accounts that cover the writes, a call does what the handler does: no
read-only account changes. -/
theorem Sends.execute_eq {L : Ledger} {call : Call rt} {built : Instruction}
    {instruction : CoordinationInstruction} (hsends : Sends call built)
    (hdecodes : CoordinationInstruction.tryFromSlice built.data = some instruction)
    (hcovers : built.CoversWrites instruction) :
    execute rt L call = dispatch rt call.slot L call.accounts instruction := by
  have hdecoded : CoordinationInstruction.tryFromSlice call.data = some instruction := by
    rw [hsends.data, hdecodes]
  cases hdispatch : dispatch rt call.slot L call.accounts instruction with
  | error error =>
      simp only [execute, processInstruction, hdecoded, okOr, hdispatch, bind, Except.bind]
  | ok L' =>
      refine execute_eq_ok.mpr ⟨⟨instruction, hdecoded, hdispatch⟩, ?_⟩
      intro info hinfo hreadOnly
      have hne : info.key ∉ built.writableKeys := by
        intro hkey
        have hwritable := built.writable_accountInfos info (hsends.accounts ▸ hinfo) hkey
        rw [hreadOnly] at hwritable
        exact Bool.false_ne_true hwritable
      rcases (dispatch_step hdispatch info.key).eq_or_listed with
        hsame | ⟨payer, hpayer, -, hkey⟩ | ⟨position, hposition, hkey⟩
      · exact hsame
      · have hfirst : keyAt call.accounts 0 = some info.key := by
          rw [keyAt_of_getElem? hpayer, hkey]
        rw [hsends.accounts] at hfirst
        exact absurd (hcovers.mem_writableKeys List.mem_cons_self hfirst) hne
      · rw [hsends.accounts] at hkey
        exact absurd (hcovers.mem_writableKeys (List.mem_cons_of_mem _ hposition) hkey) hne

end MirrorPool
