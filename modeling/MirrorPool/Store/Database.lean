import MirrorPool.Core.Protocol
import MirrorPool.Crypto.Ticket
import MirrorPool.Library.Sessions
import MirrorPool.Library.Tables
import MirrorPool.Merkle.Cohort

/-!
# The coordinator's database

The tables of the schema with their uniqueness constraints, and the statements
the store runs on them.  Columns with JSON text hold the value that was
written, and columns with integers hold integers in the range of 64 signed bits.
Columns with the time of a row are left out.

Main results:

- Structure {lit}`Database`: the tables.
- Definitions {lit}`asI64`, {lit}`u64Column`, and {lit}`u32Column`: what is
  written to an integer column, and how it is read back.
- Theorem {lit}`asI64_eq_ok`: only half of the 64-bit words can be written.
-/

namespace MirrorPool

open Fallible Sessions Tables

variable {D : Type}

/-! ## Errors -/

/-- Failures of the database engine. -/
inductive SqliteError where
  | constraintViolation
  | integralValueOutOfRange
deriving DecidableEq, Repr

/-- Durable store failures.  The last one stands for a call that panics. -/
inductive StoreError where
  | sqlite (error : SqliteError)
  | serialization
  | invalidTicket
  | duplicateTicket
  | thresholdNotReached
  | merkle
  | conflictingSchedule
  | countOverflow
  | corruptDatabase
  | panicked
deriving DecidableEq, Repr

/-! ## Integer columns -/

/-- The value that an integer column holds for a word. -/
def asI64 (value : UInt64) : Except StoreError Int :=
  if value.toNat < 2 ^ 63 then .ok value.toNat else .error .countOverflow

/-- Read a 64-bit word from an integer column. -/
def u64Column (value : Int) : Except SqliteError UInt64 :=
  if 0 ≤ value ∧ value < 2 ^ 64 then .ok (.ofNat value.toNat) else .error .integralValueOutOfRange

/-- Read a 32-bit word from an integer column. -/
def u32Column (value : Int) : Except SqliteError UInt32 :=
  if 0 ≤ value ∧ value < 2 ^ 32 then .ok (.ofNat value.toNat) else .error .integralValueOutOfRange

/-- A word can be written when it is in the range of 64 signed bits. -/
theorem asI64_eq_ok {value : UInt64} {column : Int} :
    asI64 value = .ok column ↔ value.toNat < 2 ^ 63 ∧ column = value.toNat := by
  unfold asI64
  split <;> simp_all [eq_comm]

/-- Different words are written as different integers. -/
theorem asI64_inj {first second : UInt64} {column : Int} (hfirst : asI64 first = .ok column)
    (hsecond : asI64 second = .ok column) : first = second := by
  rw [asI64_eq_ok] at hfirst hsecond
  rw [← UInt64.toNat_inj]
  omega

/-- A 64-bit word is read back as it was written. -/
theorem u64Column_of_asI64 {value : UInt64} {column : Int} (hwritten : asI64 value = .ok column) :
    u64Column column = .ok value := by
  rcases asI64_eq_ok.mp hwritten with ⟨hfits, rfl⟩
  unfold u64Column
  rw [if_pos (by omega), Int.toNat_natCast, UInt64.ofNat_toNat]

/-- A 32-bit word is read from a column that holds it, and from no other. -/
theorem u32Column_eq_ok {column : Int} {value : UInt32} :
    u32Column column = .ok value ↔ column = value.toNat := by
  have hfits := value.toNat_lt
  unfold u32Column
  split
  · rename_i hrange
    have hcolumn : column.toNat < 2 ^ 32 := by omega
    rw [Except.ok.injEq, ← UInt32.toNat_inj, UInt32.toNat_ofNat_of_lt' hcolumn]
    omega
  · simp only [reduceCtorEq, false_iff]
    omega

/-! ## Rows -/

/-- A pool with its configuration. -/
structure PoolRow (D : Type) where
  poolId : D
  configJson : PoolConfig D
deriving DecidableEq

/-- A round as it was put last, with its state as text. -/
structure RoundRow (D : Type) where
  poolId : D
  roundId : Int
  roundJson : Round D
  state : String
deriving DecidableEq

/-- An accepted ticket, with the two values that must be new. -/
structure JoinTicketRow (D : Type) where
  poolId : D
  roundId : Int
  commitment : D
  coordinationKey : Vector UInt8 32
  ticketJson : JoinTicket D
deriving DecidableEq

/-- The root and the size of a sealed cohort. -/
structure CohortRootRow (D : Type) where
  poolId : D
  roundId : Int
  root : D
  cohortSize : Int
deriving DecidableEq

/-- The proof of a leaf of a sealed cohort. -/
structure CohortProofRow (D : Type) where
  poolId : D
  roundId : Int
  commitment : D
  proofJson : CohortProof D
deriving DecidableEq

/-- The slots of a release. -/
structure ReleaseScheduleRow (D : Type) where
  poolId : D
  roundId : Int
  releaseSlot : Int
  windowEndSlot : Int
deriving DecidableEq

/-- A configuration under its hash. -/
structure ConfigurationSnapshotRow (D : Type) where
  hash : D
  configJson : PoolConfig D
deriving DecidableEq

/-- An event.  Its sequence number is its place in the table. -/
structure ImmutableEventRow (D : Type) where
  poolId : Option D
  roundId : Option Int
  eventType : String
  payloadHash : D
deriving DecidableEq

/-- A ticket is in conflict with one of the same commitment, and with one of the
same key in the same round. -/
def TicketConflict (a b : JoinTicketRow D) : Prop :=
  a.commitment = b.commitment ∨
    (a.poolId = b.poolId ∧ a.roundId = b.roundId ∧ a.coordinationKey = b.coordinationKey)

/-- Conflicts are decided by comparing the columns. -/
instance [DecidableEq D] : DecidableRel (TicketConflict (D := D)) := fun a b =>
  inferInstanceAs (Decidable (a.commitment = b.commitment ∨
    (a.poolId = b.poolId ∧ a.roundId = b.roundId ∧ a.coordinationKey = b.coordinationKey)))

/-- The tables of the schema. -/
structure Database (D : Type) where
  schemaMigrations : Table (SameKey (id : Int → Int)) := .empty
  pools : Table (SameKey (PoolRow.poolId (D := D))) := .empty
  rounds : Table (SameKey fun row : RoundRow D => (row.poolId, row.roundId)) := .empty
  joinTickets : Table (TicketConflict (D := D)) := .empty
  cohortRoots : Table (SameKey fun row : CohortRootRow D => (row.poolId, row.roundId)) := .empty
  cohortProofs :
    Table (SameKey fun row : CohortProofRow D => (row.poolId, row.roundId, row.commitment)) :=
      .empty
  releaseSchedules :
    Table (SameKey fun row : ReleaseScheduleRow D => (row.poolId, row.roundId)) := .empty
  configurationSnapshots : Table (SameKey (ConfigurationSnapshotRow.hash (D := D))) := .empty
  immutableEvents : List (ImmutableEventRow D) := []

/-! ## Statements -/

namespace Database

variable [DecidableEq D]

/-- Insert a row, or report the violated constraint. -/
def insertInto {ρ : Type} {conflict : ρ → ρ → Prop} [DecidableRel conflict]
    (table : Table conflict) (row : ρ) : Except SqliteError (Table conflict) :=
  okOr (table.insert row) .constraintViolation

/-- Note a version of the schema, unless it is there. -/
def insertMigration (version : Int) (db : Database D) : Except SqliteError (Database D) :=
  .ok { db with schemaMigrations := db.schemaMigrations.insertOrIgnore version }

/-- Insert a pool; its identifier must be new. -/
def insertPool (row : PoolRow D) (db : Database D) : Except SqliteError (Database D) := do
  return { db with pools := ← insertInto db.pools row }

/-- Insert a configuration, unless its hash is there. -/
def insertSnapshot (row : ConfigurationSnapshotRow D) (db : Database D) :
    Except SqliteError (Database D) :=
  .ok { db with configurationSnapshots := db.configurationSnapshots.insertOrIgnore row }

/-- Insert a round or replace the one of the same key; its pool must exist. -/
def upsertRound (row : RoundRow D) (db : Database D) : Except SqliteError (Database D) := do
  failIf (∀ pool ∈ db.pools.rows, pool.poolId ≠ row.poolId) .constraintViolation
  return { db with rounds := db.rounds.upsert row }

/-- Insert a ticket; its commitment must be new, and its key in its round. -/
def insertTicket (row : JoinTicketRow D) (db : Database D) : Except SqliteError (Database D) := do
  return { db with joinTickets := ← insertInto db.joinTickets row }

/-- Insert a root; a round has one at most. -/
def insertRoot (row : CohortRootRow D) (db : Database D) : Except SqliteError (Database D) := do
  return { db with cohortRoots := ← insertInto db.cohortRoots row }

/-- Insert a proof; a leaf of a round has one at most. -/
def insertProof (row : CohortProofRow D) (db : Database D) :
    Except SqliteError (Database D) := do
  return { db with cohortProofs := ← insertInto db.cohortProofs row }

/-- Insert a schedule; a round has one at most. -/
def insertSchedule (row : ReleaseScheduleRow D) (db : Database D) :
    Except SqliteError (Database D) := do
  return { db with releaseSchedules := ← insertInto db.releaseSchedules row }

/-- Append an event. -/
def insertEvent (row : ImmutableEventRow D) (db : Database D) : Except SqliteError (Database D) :=
  .ok { db with immutableEvents := db.immutableEvents ++ [row] }

end Database

end MirrorPool
