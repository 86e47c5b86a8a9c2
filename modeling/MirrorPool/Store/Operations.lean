import MirrorPool.Store.Database

/-!
# Store operations

The operations of the durable store as database sessions, with the transactions
where the source opens them.  An operation that writes with one statement runs
without a transaction of its own.

Main results:

- Definitions {lit}`Store.acceptTicket`, {lit}`Store.sealCohort`, and
  {lit}`Store.scheduleRelease`: the operations on a cohort.
- Definition {lit}`StoreCall.perform`: every writing call, with its reply.
- Theorem {lit}`StoreCall.atomic_perform`: a call that fails changes nothing.
-/

namespace MirrorPool

open Fallible Sessions Tables

variable {D : Type} [LinearOrder D]

namespace Store

/-- A session of the store. -/
abbrev StoreSession (D α : Type) : Type := Session (Database D) StoreError α

/-- Run one statement; what the database reports is passed on. -/
def execute (write : Database D → Except SqliteError (Database D)) : StoreSession D Unit :=
  statement fun db => (write db).mapError .sqlite

/-- Append an audit event. -/
def event (pool : Option D) (round : Option UInt64) (kind : String) (payload : D) :
    StoreSession D Unit := do
  let roundId ← (round.mapM asI64 : Except StoreError (Option Int))
  execute (Database.insertEvent { poolId := pool, roundId, eventType := kind,
                                  payloadHash := payload })

/-- Bring the schema up to date, at every opening of the database. -/
def migrate : StoreSession D Unit :=
  transaction (execute (Database.insertMigration 1))

/-- Store a validated pool configuration snapshot. -/
def insertPool (pool : PoolConfig D) : StoreSession D Unit :=
  transaction do
    execute (Database.insertPool { poolId := pool.poolId, configJson := pool })
    execute (Database.insertSnapshot { hash := pool.configurationHash, configJson := pool })

/-- Insert or replace mutable round state before completion. -/
def putRound (round : Round D) : StoreSession D Unit := do
  let state := round.state.debugName.toLower
  let roundId ← asI64 round.roundId
  execute (Database.upsertRound { poolId := round.poolId, roundId, roundJson := round, state })

/-- Fetch a round. -/
def round (pool : D) (roundId : UInt64) : StoreSession D (Option (Round D)) := do
  let id ← asI64 roundId
  query fun db =>
    .ok ((db.rounds.rows.find? fun row => row.poolId = pool ∧ row.roundId = id).map
      RoundRow.roundJson)

/-- What a failed insertion of a ticket is reported as. -/
def ticketError : SqliteError → StoreError
  | .constraintViolation => .duplicateTicket
  | error => .sqlite error

/-- Accept one public ticket atomically. -/
def acceptTicket (h : Blake3 D) (ticket : JoinTicket D) : StoreSession D D := do
  let commitment := ticket.commitment h
  transaction do
    let roundId ← asI64 ticket.roundId
    statement fun db =>
      (Database.insertTicket
        { poolId := ticket.poolId, roundId, commitment,
          coordinationKey := ticket.coordinationPublicKey, ticketJson := ticket } db).mapError
        ticketError
    event (some ticket.poolId) (some ticket.roundId) "ticket_accepted" commitment
    return commitment

/-- Read the immutable root and count. -/
def root (pool : D) (roundId : UInt64) : StoreSession D (Option (D × UInt32)) := do
  let id ← asI64 roundId
  query fun db =>
    match db.cohortRoots.rows.find? fun row => row.poolId = pool ∧ row.roundId = id with
    | none => .ok none
    | some row => do
        let count ← (u32Column row.cohortSize).mapError .sqlite
        return some (row.root, count)

theorem readOnly_root (pool : D) (roundId : UInt64) : ReadOnly (root pool roundId) :=
  (readOnly_lift _).bind_readOnly fun _ => readOnly_query _

/-- The ticket rows of a round. -/
def ticketsOf (db : Database D) (pool : D) (id : Int) : List (JoinTicketRow D) :=
  db.joinTickets.select fun row => row.poolId = pool ∧ row.roundId = id

/-- Write the proof of a leaf. -/
def persistProof {h : Blake3 D} (tree : MerkleCohort h) (pool : D) (roundId : UInt64) (leaf : D) :
    StoreSession D Unit := do
  let generated ← okOr (tree.proof leaf roundId) StoreError.panicked
  let proof ← generated.mapError fun _ => StoreError.merkle
  let id ← asI64 roundId
  execute (Database.insertProof { poolId := pool, roundId := id, commitment := leaf,
                                  proofJson := proof })

/-- Build the tree over the accepted tickets and write the root and every
proof. -/
def sealTickets (h : Blake3 D) (pool : D) (roundId : UInt64) (minimum : UInt32) :
    StoreSession D (D × UInt32) := do
  let id ← asI64 roundId
  let leaves ← query fun db =>
    .ok (sortDigests ((ticketsOf db pool id).map JoinTicketRow.commitment))
  failIf (2 ^ 32 ≤ leaves.length) StoreError.countOverflow
  let count := UInt32.ofNat leaves.length
  failIf (count < minimum) StoreError.thresholdNotReached
  let tree ← (MerkleCohort.build h leaves).mapError fun _ => StoreError.merkle
  let root ← tree.root.mapError fun _ => StoreError.merkle
  execute (Database.insertRoot { poolId := pool, roundId := id, root,
                                 cohortSize := count.toNat })
  forM leaves (persistProof tree pool roundId)
  event (some pool) (some roundId) "cohort_sealed" root
  return (root, count)

/-- Deterministically build and persist an immutable root and every proof in one
transaction.  An existing root is returned as it is. -/
def sealCohort (h : Blake3 D) (pool : D) (roundId : UInt64) (minimum : UInt32) :
    StoreSession D (D × UInt32) := do
  match ← root pool roundId with
  | some existing => return existing
  | none => transaction (sealTickets h pool roundId minimum)

/-- Read a persisted inclusion proof. -/
def proof (pool : D) (roundId : UInt64) (commitment : D) :
    StoreSession D (Option (CohortProof D)) := do
  let id ← asI64 roundId
  query fun db =>
    .ok ((db.cohortProofs.rows.find? fun row =>
      row.poolId = pool ∧ row.roundId = id ∧ row.commitment = commitment).map
        CohortProofRow.proofJson)

/-- Read a release schedule. -/
def schedule (pool : D) (roundId : UInt64) : StoreSession D (Option (UInt64 × UInt64)) := do
  let id ← asI64 roundId
  query fun db =>
    match db.releaseSchedules.rows.find? fun row => row.poolId = pool ∧ row.roundId = id with
    | none => .ok none
    | some row => do
        let release ← (u64Column row.releaseSlot).mapError .sqlite
        let finish ← (u64Column row.windowEndSlot).mapError .sqlite
        return some (release, finish)

theorem readOnly_schedule (pool : D) (roundId : UInt64) : ReadOnly (schedule pool roundId) :=
  (readOnly_lift _).bind_readOnly fun _ => readOnly_query _

/-- Schedule a release exactly once; an identical retry succeeds and a conflict
fails. -/
def scheduleRelease (pool : D) (roundId release finish : UInt64) : StoreSession D Unit := do
  match ← schedule pool roundId with
  | some value => failIf (value ≠ (release, finish)) StoreError.conflictingSchedule
  | none => do
      let id ← asI64 roundId
      let releaseSlot ← asI64 release
      let windowEndSlot ← asI64 finish
      execute (Database.insertSchedule { poolId := pool, roundId := id, releaseSlot,
                                         windowEndSlot })

/-- Count accepted tickets for observability. -/
def ticketCount (pool : D) (roundId : UInt64) : StoreSession D UInt32 := do
  let id ← asI64 roundId
  query fun db => (u32Column (ticketsOf db pool id).length).mapError .sqlite

end Store

/-! ## Calls -/

/-- The writing calls of the store.  Opening the database again runs the
migration. -/
inductive StoreCall (D : Type) where
  | reopen
  | insertPool (pool : PoolConfig D)
  | putRound (round : Round D)
  | acceptTicket (ticket : JoinTicket D)
  | sealCohort (pool : D) (roundId : UInt64) (minimum : UInt32)
  | scheduleRelease (pool : D) (roundId release finish : UInt64)
deriving DecidableEq

/-- What a successful call returns. -/
inductive StoreReply (D : Type) where
  | stored
  | accepted (commitment : D)
  | sealed (root : D) (count : UInt32)
deriving DecidableEq

namespace StoreCall

/-- Perform a call. -/
def perform (h : Blake3 D) : StoreCall D → Store.StoreSession D (StoreReply D)
  | reopen => do
      Store.migrate
      return .stored
  | insertPool pool => do
      Store.insertPool pool
      return .stored
  | putRound round => do
      Store.putRound round
      return .stored
  | acceptTicket ticket => do
      let commitment ← Store.acceptTicket h ticket
      return .accepted commitment
  | sealCohort pool roundId minimum => do
      let (root, count) ← Store.sealCohort h pool roundId minimum
      return .sealed root count
  | scheduleRelease pool roundId release finish => do
      Store.scheduleRelease pool roundId release finish
      return .stored

/-- A call that fails leaves the database as it was. -/
theorem atomic_perform (h : Blake3 D) (call : StoreCall D) : Atomic (call.perform h) := by
  cases call with
  | reopen => exact (atomic_transaction _).bind_pure _
  | insertPool pool => exact (atomic_transaction _).bind_pure _
  | putRound round =>
      apply Atomic.bind_pure
      exact (readOnly_lift _).bind fun id => atomic_statement _
  | acceptTicket ticket => exact (atomic_transaction _).bind_pure _
  | sealCohort pool roundId minimum =>
      apply Atomic.bind_pure
      apply (Store.readOnly_root pool roundId).bind
      intro existing
      cases existing with
      | none => exact atomic_transaction _
      | some value => exact (readOnly_pure value).atomic
  | scheduleRelease pool roundId release finish =>
      apply Atomic.bind_pure
      apply (Store.readOnly_schedule pool roundId).bind
      intro existing
      cases existing with
      | none =>
          refine (readOnly_lift _).bind fun id => ?_
          refine (readOnly_lift _).bind fun releaseSlot => ?_
          refine (readOnly_lift _).bind fun windowEndSlot => ?_
          exact atomic_statement _
      | some value => exact (readOnly_lift _).atomic

end StoreCall

end MirrorPool
