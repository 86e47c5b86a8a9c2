import Mathlib.Logic.Function.Basic
import MirrorPool.Library.Fallible
import MirrorPool.Library.JsonText
import MirrorPool.Program.Accounts

/-!
# Ledger and runtime services

A ledger maps every address to an account.  The program reaches the rest of the
chain through four services: address derivation, the rent table, the System
Program's account creation, and the check that read-only accounts stay as they
were.  The services are parameters; their documented behavior is carried by the
structure that holds them.

Main results:

- Structure {lit}`Runtime`: the services with their laws.
- Theorem {lit}`Runtime.poolSeeds_inj` and its companions: derived addresses of
  the three kinds are disjoint and determine their seeds.
- Definitions {lit}`Ledger.setData` and {lit}`Ledger.setLamports`: the two
  writes a handler makes, with their frame rules.
-/

namespace MirrorPool

/-! ## Accounts and errors -/

/-- What the chain stores at an address. -/
structure Account where
  owner : Pubkey
  lamports : UInt64
  data : List UInt8
deriving DecidableEq, Repr

/-- The content of every address. -/
abbrev Ledger := Pubkey → Account

/-- One position of an instruction's account list.  Positions with the same key
share the account in the ledger. -/
structure AccountInfo where
  key : Pubkey
  isSigner : Bool
  isWritable : Bool
deriving DecidableEq, Repr

/-- Failures of a program call. -/
inductive ProgramError where
  | custom (code : UInt32)
  | invalidInstructionData
  | invalidAccountData
  | accountDataTooSmall
  | accountAlreadyInitialized
  | missingRequiredSignature
  | notEnoughAccountKeys
  | illegalOwner
  | systemProgram (code : UInt32)
  | readonlyAccountModified
deriving DecidableEq, Repr

/-- Program-specific failures. -/
inductive CoordinationError where
  | invalidPolicy
  | invalidPda
  | unauthorized
  | invalidTiming
  | invalidState
  | overflow
deriving DecidableEq, Repr

/-- The custom error number of a program-specific failure. -/
def CoordinationError.code : CoordinationError → UInt32
  | .invalidPolicy => 1
  | .invalidPda => 2
  | .unauthorized => 3
  | .invalidTiming => 4
  | .invalidState => 5
  | .overflow => 6

/-- A program-specific failure as the program reports it. -/
def CoordinationError.into (error : CoordinationError) : ProgramError :=
  .custom error.code

/-- The System Program, which owns every account that was never assigned. -/
def systemProgramId : Pubkey := Vector.replicate 32 0

/-! ## Ledger writes -/

namespace Ledger

/-- Replace the bytes of one account. -/
def setData (L : Ledger) (a : Pubkey) (data : List UInt8) : Ledger :=
  Function.update L a { L a with data := data }

/-- Replace the balance of one account. -/
def setLamports (L : Ledger) (a : Pubkey) (lamports : UInt64) : Ledger :=
  Function.update L a { L a with lamports := lamports }

@[simp] theorem setData_self (L : Ledger) (a : Pubkey) (data : List UInt8) :
    L.setData a data a = { L a with data := data } :=
  Function.update_self ..

theorem setData_of_ne (L : Ledger) {a b : Pubkey} (data : List UInt8) (hne : b ≠ a) :
    L.setData a data b = L b :=
  Function.update_of_ne hne ..

@[simp] theorem setLamports_self (L : Ledger) (a : Pubkey) (lamports : UInt64) :
    L.setLamports a lamports a = { L a with lamports := lamports } :=
  Function.update_self ..

theorem setLamports_of_ne (L : Ledger) {a b : Pubkey} (lamports : UInt64) (hne : b ≠ a) :
    L.setLamports a lamports b = L b :=
  Function.update_of_ne hne ..

/-- What the System Program does for {lit}`create_account`: the payer is
debited, and the new account holds the amount and a zero-filled buffer. -/
def createAccount (L : Ledger) (payer account : Pubkey) (lamports : UInt64) (space : Nat)
    (owner : Pubkey) : Ledger :=
  Function.update (L.setLamports payer ((L payer).lamports - lamports)) account
    { owner, lamports, data := List.replicate space 0 }

@[simp] theorem createAccount_self (L : Ledger) (payer account : Pubkey) (lamports : UInt64)
    (space : Nat) (owner : Pubkey) :
    L.createAccount payer account lamports space owner account =
      { owner, lamports, data := List.replicate space 0 } :=
  Function.update_self ..

theorem createAccount_of_ne (L : Ledger) {payer account a : Pubkey} (lamports : UInt64)
    (space : Nat) (owner : Pubkey) (hpayer : a ≠ payer) (haccount : a ≠ account) :
    L.createAccount payer account lamports space owner a = L a := by
  rw [createAccount, Function.update_of_ne haccount, setLamports_of_ne _ _ hpayer]

/-- The payer keeps its owner and its bytes. -/
theorem createAccount_payer (L : Ledger) {payer account : Pubkey} (lamports : UInt64)
    (space : Nat) (owner : Pubkey) (hne : payer ≠ account) :
    L.createAccount payer account lamports space owner payer =
      { L payer with lamports := (L payer).lamports - lamports } := by
  rw [createAccount, Function.update_of_ne hne, setLamports_self]

end Ledger

/-! ## Runtime services -/

/-- The condition under which the System Program creates an account on behalf
of the program: both accounts are writable and authorized, the payer is a plain
funded wallet, and the target was never used and holds no lamports. -/
structure Creatable (L : Ledger) (payer account : AccountInfo) (lamports : UInt64)
    (derived : Option Pubkey) : Prop where
  payer_signs : payer.isSigner = true
  payer_writable : payer.isWritable = true
  account_writable : account.isWritable = true
  account_signs : account.isSigner = true ∨ derived = some account.key
  distinct : payer.key ≠ account.key
  payer_wallet : (L payer.key).owner = systemProgramId ∧ (L payer.key).data = []
  payer_funded : lamports ≤ (L payer.key).lamports
  account_unused : (L account.key).owner = systemProgramId ∧ (L account.key).data = []
  account_unfunded : (L account.key).lamports = 0

/-- The chain services used by the program.

Address derivation is a partial function without collisions of the joined seeds
and the program.  The System Program creates an account exactly under
{lit}`Creatable`, within the growth limit of one instruction. -/
structure Runtime where
  programId : Pubkey
  createProgramAddress : List (List UInt8) → Pubkey → Option Pubkey
  minimumBalance : Nat → UInt64
  createAccount : Ledger → (payer account : AccountInfo) → UInt64 → Nat → Pubkey →
    List (List UInt8) → Except ProgramError Ledger
  createProgramAddress_inj : ∀ {seeds seeds' : List (List UInt8)} {program program' key : Pubkey},
    createProgramAddress seeds program = some key →
    createProgramAddress seeds' program' = some key →
    seeds.flatten = seeds'.flatten ∧ program = program'
  createAccount_eq_ok : ∀ {L L' : Ledger} {payer account : AccountInfo} {lamports : UInt64}
    {space : Nat} {owner : Pubkey} {seeds : List (List UInt8)}, space ≤ 10240 →
    (createAccount L payer account lamports space owner seeds = .ok L' ↔
      Creatable L payer account lamports (createProgramAddress seeds programId) ∧
        L' = L.createAccount payer.key account.key lamports space owner)

namespace Runtime

variable (rt : Runtime)

/-- An address derived from the program; no private key exists for it. -/
def IsDerived (key : Pubkey) : Prop :=
  ∃ seeds, rt.createProgramAddress seeds rt.programId = some key

/-! ## The three address kinds -/

/-- Seeds of a pool account. -/
def poolSeeds (poolId : Bytes32) (bump : UInt8) : List (List UInt8) :=
  [ascii "pool", poolId.toList, [bump]]

/-- Seeds of a round account. -/
def roundSeeds (pool : Pubkey) (roundId : UInt64) (bump : UInt8) : List (List UInt8) :=
  [ascii "round", pool.toList, FixedCodec.leBytes 8 roundId.toNat, [bump]]

/-- Seeds of a participant record. -/
def participantSeeds (round : Pubkey) (coordinationKey : Bytes32) (bump : UInt8) :
    List (List UInt8) :=
  [ascii "participant", round.toList, coordinationKey.toList, [bump]]

theorem flatten_poolSeeds (poolId : Bytes32) (bump : UInt8) :
    (poolSeeds poolId bump).flatten = [112, 111, 111, 108] ++ (poolId.toList ++ [bump]) := by
  simp [poolSeeds, ascii]

theorem flatten_roundSeeds (pool : Pubkey) (roundId : UInt64) (bump : UInt8) :
    (roundSeeds pool roundId bump).flatten =
      [114, 111, 117, 110, 100] ++
        (pool.toList ++ (FixedCodec.leBytes 8 roundId.toNat ++ [bump])) := by
  simp [roundSeeds, ascii]

theorem flatten_participantSeeds (round : Pubkey) (coordinationKey : Bytes32) (bump : UInt8) :
    (participantSeeds round coordinationKey bump).flatten =
      [112, 97, 114, 116, 105, 99, 105, 112, 97, 110, 116] ++
        (round.toList ++ (coordinationKey.toList ++ [bump])) := by
  simp [participantSeeds, ascii]

variable {rt}

/-- A participant record address is never a pool address. -/
theorem participant_ne_pool {round : Pubkey} {key poolId : Bytes32} {bump bump' : UInt8}
    {address : Pubkey}
    (hrecord : rt.createProgramAddress (participantSeeds round key bump) rt.programId =
      some address)
    (hpool : rt.createProgramAddress (poolSeeds poolId bump') rt.programId = some address) :
    False := by
  have hseeds := (rt.createProgramAddress_inj hrecord hpool).1
  rw [flatten_participantSeeds, flatten_poolSeeds] at hseeds
  simp at hseeds

/-- A participant record address is never a round address. -/
theorem participant_ne_round {round pool : Pubkey} {key : Bytes32} {id : UInt64}
    {bump bump' : UInt8} {address : Pubkey}
    (hrecord : rt.createProgramAddress (participantSeeds round key bump) rt.programId =
      some address)
    (hround : rt.createProgramAddress (roundSeeds pool id bump') rt.programId = some address) :
    False := by
  have hseeds := (rt.createProgramAddress_inj hrecord hround).1
  rw [flatten_participantSeeds, flatten_roundSeeds] at hseeds
  simp at hseeds

/-- A pool address is never a round address. -/
theorem pool_ne_round {pool : Pubkey} {poolId : Bytes32} {id : UInt64} {bump bump' : UInt8}
    {address : Pubkey}
    (hpool : rt.createProgramAddress (poolSeeds poolId bump) rt.programId = some address)
    (hround : rt.createProgramAddress (roundSeeds pool id bump') rt.programId = some address) :
    False := by
  have hseeds := (rt.createProgramAddress_inj hpool hround).1
  rw [flatten_poolSeeds, flatten_roundSeeds] at hseeds
  simp at hseeds

/-- A pool address determines the identifier and the bump it came from. -/
theorem poolSeeds_inj {poolId poolId' : Bytes32} {bump bump' : UInt8} {address : Pubkey}
    (hpool : rt.createProgramAddress (poolSeeds poolId bump) rt.programId = some address)
    (hpool' : rt.createProgramAddress (poolSeeds poolId' bump') rt.programId = some address) :
    poolId = poolId' ∧ bump = bump' := by
  have hseeds := (rt.createProgramAddress_inj hpool hpool').1
  rw [flatten_poolSeeds, flatten_poolSeeds] at hseeds
  have hbytes := List.append_inj (List.append_cancel_left hseeds) (by simp)
  exact ⟨Vector.toList_inj.mp hbytes.1, by simpa using hbytes.2⟩

/-- A round address determines the pool, the number and the bump it came
from. -/
theorem roundSeeds_inj {pool pool' : Pubkey} {id id' : UInt64} {bump bump' : UInt8}
    {address : Pubkey}
    (hround : rt.createProgramAddress (roundSeeds pool id bump) rt.programId = some address)
    (hround' : rt.createProgramAddress (roundSeeds pool' id' bump') rt.programId = some address) :
    pool = pool' ∧ id = id' ∧ bump = bump' := by
  have hseeds := (rt.createProgramAddress_inj hround hround').1
  rw [flatten_roundSeeds, flatten_roundSeeds] at hseeds
  have hpool := List.append_inj (List.append_cancel_left hseeds) (by simp)
  have hid := List.append_inj hpool.2 (by rw [FixedCodec.length_leBytes, FixedCodec.length_leBytes])
  have hnat := congrArg FixedCodec.ofLeBytes hid.1
  rw [FixedCodec.ofLeBytes_leBytes id.toNat_lt, FixedCodec.ofLeBytes_leBytes id'.toNat_lt] at hnat
  exact ⟨Vector.toList_inj.mp hpool.1, UInt64.toNat_inj.mp hnat, by simpa using hid.2⟩

/-- A record address determines the round, the key and the bump it came from. -/
theorem participantSeeds_inj {round round' : Pubkey} {key key' : Bytes32} {bump bump' : UInt8}
    {address : Pubkey}
    (hrecord : rt.createProgramAddress (participantSeeds round key bump) rt.programId =
      some address)
    (hrecord' : rt.createProgramAddress (participantSeeds round' key' bump') rt.programId =
      some address) : round = round' ∧ key = key' ∧ bump = bump' := by
  have hseeds := (rt.createProgramAddress_inj hrecord hrecord').1
  rw [flatten_participantSeeds, flatten_participantSeeds] at hseeds
  have hround := List.append_inj (List.append_cancel_left hseeds) (by simp)
  have hkey := List.append_inj hround.2 (by simp)
  exact ⟨Vector.toList_inj.mp hround.1, Vector.toList_inj.mp hkey.1, by simpa using hkey.2⟩

end Runtime

end MirrorPool
