import MirrorPool.Crypto.Issuance
import MirrorPool.Library.Simulation
import MirrorPool.Merkle.Binding
import MirrorPool.Store.History

/-!
# Rounds are isolated

One database holds the rounds of all pools, and one constraint of its schema
reaches across rounds: a commitment is stored once.  Commitments of different
tickets are different when there are no collisions, so that the calls of one round
are answered, and its rows written, as if no other round were in the database.

Main results:

- Definition {lit}`rowsOf`: what the tables hold for a round.
- Theorem {lit}`StoreCall.respects_perform`: the calls of a round work on its rows
  alone.
- Theorem {lit}`StoreCall.leaves_perform`: other calls leave them as they are.
- Theorem {lit}`rounds_isolated`: the calls of other rounds can be left out of every
  history.
-/

namespace MirrorPool

open Fallible Sessions Tables

variable {D : Type} [LinearOrder D]

/-! ## The rows of a round -/

/-- What the tables hold for a round: whether its pool is there, the rows under its
key, and its events. -/
structure RoundRows (D : Type) where
  hasPool : Bool
  rounds : List (RoundRow D)
  tickets : List (JoinTicketRow D)
  roots : List (CohortRootRow D)
  proofs : List (CohortProofRow D)
  schedules : List (ReleaseScheduleRow D)
  events : List (ImmutableEventRow D)

/-- The rows of a round. -/
def rowsOf (pool : D) (id : Int) (db : Database D) : RoundRows D where
  hasPool := db.pools.rows.any fun row => row.poolId = pool
  rounds := db.rounds.select fun row => row.poolId = pool ∧ row.roundId = id
  tickets := Store.ticketsOf db pool id
  roots := db.cohortRoots.select fun row => row.poolId = pool ∧ row.roundId = id
  proofs := proofsOf db pool id
  schedules := db.releaseSchedules.select fun row => row.poolId = pool ∧ row.roundId = id
  events := db.immutableEvents.filter fun event =>
    event.poolId = some pool ∧ event.roundId = some id

/-- Each row of a ticket is the one under which that ticket is stored. -/
def NamesTickets (h : Blake3 D) (db : Database D) : Prop :=
  ∀ row ∈ db.joinTickets.rows, ∃ ticket id,
    asI64 ticket.roundId = .ok id ∧ row = ticketRow h ticket id

/-- Two databases hold the same for a round. -/
structure SameRound (h : Blake3 D) (pool : D) (id : Int) (db db' : Database D) : Prop where
  rows : rowsOf pool id db = rowsOf pool id db'
  named : NamesTickets h db
  named' : NamesTickets h db'

/-- The second database holds for a round what the first one does. -/
def KeepsRound (pool : D) (id : Int) (db db' : Database D) : Prop :=
  rowsOf pool id db' = rowsOf pool id db

/-- A database holds for a round what it holds. -/
theorem KeepsRound.refl (pool : D) (id : Int) (db : Database D) : KeepsRound pool id db db :=
  Eq.refl (rowsOf pool id db)

/-- What is kept twice is kept. -/
theorem KeepsRound.trans (pool : D) (id : Int) (db₁ db₂ db₃ : Database D)
    (hfirst : KeepsRound pool id db₁ db₂) (hsecond : KeepsRound pool id db₂ db₃) :
    KeepsRound pool id db₁ db₃ :=
  Eq.trans hsecond hfirst

/-- A call keeps the names. -/
theorem StoreStep.namesTickets {h : Blake3 D} {call : StoreCall D}
    {reply : Except StoreError (StoreReply D)} {db db' : Database D}
    (hstep : StoreStep h call reply db db') (hnamed : NamesTickets h db) :
    NamesTickets h db' := by
  intro row hrow
  by_cases hold : row ∈ db.joinTickets.rows
  · exact hnamed row hold
  · rcases hstep.ticket_new hold hrow with ⟨ticket, id, -, -, hid, rfl⟩
    exact ⟨ticket, id, hid, rfl⟩

/-! ## Statements on the rows of a round -/

section Statements

variable {h : Blake3 D} {pool : D} {id : Int}

/-- A statement that reads and writes the rows of one round alone. -/
def WorksOn (h : Blake3 D) (pool : D) (id : Int)
    (write : Database D → Except SqliteError (Database D)) : Prop :=
  ∃ onRows : RoundRows D → Except SqliteError (RoundRows D), ∀ db, NamesTickets h db →
    (write db).map (rowsOf pool id) = onRows (rowsOf pool id db) ∧
      ∀ db', write db = .ok db' → NamesTickets h db'

/-- Such a statement cannot tell databases with the same rows apart. -/
theorem WorksOn.respects {write : Database D → Except SqliteError (Database D)}
    (hwrite : WorksOn h pool id write) (report : SqliteError → StoreError) :
    Respects (SameRound h pool id) (statement fun db => (write db).mapError report) := by
  rcases hwrite with ⟨onRows, hwrite⟩
  apply respects_statement
  intro db db' hsame
  have hrows : (write db).map (rowsOf pool id) = (write db').map (rowsOf pool id) := by
    rw [(hwrite db hsame.named).1, (hwrite db' hsame.named').1, hsame.rows]
  rcases hdb : write db with e | after
  · rcases hdb' : write db' with e' | after'
    · rw [hdb, hdb'] at hrows
      rcases Except.error.inj hrows with rfl
      exact .inl ⟨report e, rfl, rfl⟩
    · rw [hdb, hdb'] at hrows
      cases hrows
  · rcases hdb' : write db' with e' | after'
    · rw [hdb, hdb'] at hrows
      cases hrows
    · rw [hdb, hdb'] at hrows
      exact .inr ⟨after, after', rfl, rfl, Except.ok.inj hrows,
        (hwrite db hsame.named).2 after hdb, (hwrite db' hsame.named').2 after' hdb'⟩

/-- The same, for a statement whose errors are those of the engine. -/
theorem WorksOn.respects_execute {write : Database D → Except SqliteError (Database D)}
    (hwrite : WorksOn h pool id write) : Respects (SameRound h pool id) (Store.execute write) :=
  hwrite.respects .sqlite

section Inserted

variable {ρ : Type} {conflict : ρ → ρ → Prop} [DecidableRel conflict] {table : Table conflict}
variable {row : ρ} {condition : ρ → Prop} [DecidablePred condition]

/-- An insertion under the key of the round, seen on its rows. -/
theorem map_insertInto (set : Table conflict → Database D) (onRows : List ρ → RoundRows D)
    (hset : ∀ inserted, rowsOf pool id (set inserted) = onRows (inserted.select condition))
    (hrow : condition row)
    (hconflict : ∀ earlier ∈ table.rows, conflict earlier row → condition earlier) :
    ((Database.insertInto table row).bind fun inserted => .ok (set inserted)).map
        (rowsOf pool id) =
      if ∀ earlier ∈ table.select condition, ¬conflict earlier row then
        .ok (onRows (table.select condition ++ [row]))
      else .error .constraintViolation := by
  have hinsert := Table.map_select_insert hrow hconflict
  rw [Database.insertInto]
  rcases hrun : table.insert row with _ | inserted
  · rw [hrun, Option.map_none] at hinsert
    split at hinsert
    · cases hinsert
    · rename_i hrepeated
      rw [if_neg hrepeated]
      rfl
  · rw [hrun, Option.map_some] at hinsert
    split at hinsert
    · rename_i hnew
      rw [if_pos hnew, ← Option.some.inj hinsert, ← hset inserted]
      rfl
    · cases hinsert

/-- An insertion into a table other than that of the tickets, whose conflicts are all
with rows of the round. -/
theorem worksOn_insertInto (table : Database D → Table conflict)
    (set : Database D → Table conflict → Database D) (selected : RoundRows D → List ρ)
    (onRows : RoundRows D → List ρ → RoundRows D)
    (hselected : ∀ db, (table db).select condition = selected (rowsOf pool id db))
    (hset : ∀ db inserted,
      rowsOf pool id (set db inserted) = onRows (rowsOf pool id db) (inserted.select condition))
    (htickets : ∀ db inserted, (set db inserted).joinTickets = db.joinTickets)
    (hrow : condition row) (hconflict : ∀ earlier, conflict earlier row → condition earlier) :
    WorksOn h pool id fun db =>
      (Database.insertInto (table db) row).bind fun inserted => .ok (set db inserted) := by
  refine ⟨fun rows => if ∀ earlier ∈ selected rows, ¬conflict earlier row then
      .ok (onRows rows (selected rows ++ [row]))
    else .error .constraintViolation, fun db hnamed => ⟨?_, ?_⟩⟩
  · simp only [← hselected]
    exact map_insertInto (set db) (onRows (rowsOf pool id db)) (hset db) hrow
      fun earlier _ => hconflict earlier
  · intro db' hwrite
    rcases Fallible.bind_eq_ok.mp hwrite with ⟨inserted, -, hok⟩
    rw [NamesTickets, ← Except.ok.inj hok, htickets]
    exact hnamed

/-- An insertion under another key is not seen. -/
theorem rowsOf_insertInto (set : Table conflict → Database D) (onRows : List ρ → RoundRows D)
    {db db' : Database D}
    (hset : ∀ inserted, rowsOf pool id (set inserted) = onRows (inserted.select condition))
    (hdb : rowsOf pool id db = onRows (table.select condition)) (hrow : ¬condition row)
    (hwrite : ((Database.insertInto table row).bind fun inserted => .ok (set inserted)) =
      .ok db') : KeepsRound pool id db db' := by
  rcases Fallible.bind_eq_ok.mp hwrite with ⟨inserted, hinsert, hok⟩
  rw [insertInto_eq_ok] at hinsert
  rw [KeepsRound, ← Except.ok.inj hok, hset, Table.select_insert_of_not hinsert hrow, hdb]

end Inserted

/-! ### The round's own statements -/

/-- The row of the pool. -/
theorem worksOn_insertPool {row : PoolRow D} (hpool : row.poolId = pool) :
    WorksOn h pool id (Database.insertPool row) := by
  refine ⟨fun rows => if rows.hasPool then .error .constraintViolation
    else .ok { rows with hasPool := true }, fun db hnamed => ⟨?_, ?_⟩⟩
  · have hfree : (∀ earlier ∈ db.pools.rows, ¬SameKey PoolRow.poolId earlier row) ↔
        (rowsOf pool id db).hasPool = false := by
      simp [rowsOf, SameKey, hpool]
    rcases hinsert : db.pools.insert row with _ | inserted
    · have hpresent : (rowsOf pool id db).hasPool = true := by
        by_contra habsent
        rcases Table.exists_insert (hfree.mpr (by simpa using habsent)) with ⟨_, hsome⟩
        rw [hinsert] at hsome
        cases hsome
      simp only [hpresent, if_true, Database.insertPool, Database.insertInto, hinsert]
      rfl
    · rcases Table.insert_eq_some.mp hinsert with ⟨hnew, hrows⟩
      have hadded : (inserted.rows.any fun found => found.poolId = pool) = true := by
        simp [hrows, hpool]
      simp only [hfree.mp hnew, Bool.false_eq_true, if_false, Database.insertPool,
        Database.insertInto, hinsert]
      exact congrArg (fun found => Except.ok { rowsOf pool id db with hasPool := found }) hadded
  · intro db' hwrite
    rcases Fallible.bind_eq_ok.mp hwrite with ⟨inserted, -, hok⟩
    rw [← Except.ok.inj hok]
    exact hnamed

/-- The configuration, which no round shows. -/
theorem worksOn_insertSnapshot (row : ConfigurationSnapshotRow D) :
    WorksOn h pool id (Database.insertSnapshot row) := by
  refine ⟨.ok, fun db hnamed => ⟨rfl, ?_⟩⟩
  intro db' hwrite
  rw [← Except.ok.inj hwrite]
  exact hnamed

/-- The row of the round itself. -/
theorem worksOn_upsertRound {row : RoundRow D} (hpool : row.poolId = pool)
    (hround : row.roundId = id) : WorksOn h pool id (Database.upsertRound row) := by
  refine ⟨fun rows => if rows.hasPool then .ok { rows with rounds := [row] }
    else .error .constraintViolation, fun db hnamed => ⟨?_, ?_⟩⟩
  · have hmissing : (∀ found ∈ db.pools.rows, found.poolId ≠ row.poolId) ↔
        (rowsOf pool id db).hasPool = false := by
      simp [rowsOf, hpool]
    have hput : (db.rounds.upsert row).select
        (fun row => row.poolId = pool ∧ row.roundId = id) = [row] := by
      rw [Table.select_upsert (k := (pool, id)) db.rounds row (by simp), if_pos (by simp [*])]
    rw [Database.upsertRound]
    cases hpresent : (rowsOf pool id db).hasPool with
    | false =>
        simp only [hpresent, Bool.false_eq_true, if_false, failIf,
          if_pos (hmissing.mpr hpresent)]
        rfl
    | true =>
        have hfound : ¬∀ found ∈ db.pools.rows, found.poolId ≠ row.poolId := by
          rw [hmissing, hpresent]
          simp
        simp only [hpresent, if_true, failIf, if_neg hfound]
        rw [← hpresent]
        exact congrArg (fun found => Except.ok { rowsOf pool id db with rounds := found }) hput
  · intro db' hwrite
    rcases Fallible.bind_eq_ok.mp hwrite with ⟨_, -, hok⟩
    rw [← Except.ok.inj hok]
    exact hnamed

omit [LinearOrder D] in
/-- Without collisions a ticket is in conflict with tickets of its own round only. -/
theorem mem_round_of_conflict (hfree : h.CollisionFree) {db : Database D}
    (hnamed : NamesTickets h db) {ticket : JoinTicket D} (hpool : ticket.poolId = pool)
    (hid : asI64 ticket.roundId = .ok id) {earlier : JoinTicketRow D}
    (hearlier : earlier ∈ db.joinTickets.rows)
    (hconflict : TicketConflict earlier (ticketRow h ticket id)) :
    earlier.poolId = pool ∧ earlier.roundId = id := by
  rcases hconflict with hcommitment | ⟨hsamePool, hsameRound, -⟩
  · rcases hnamed earlier hearlier with ⟨other, id', hid', rfl⟩
    rcases JoinTicket.commitment_injective hfree hcommitment with rfl
    exact ⟨hpool, Except.ok.inj (hid'.symm.trans hid)⟩
  · exact ⟨hsamePool.trans hpool, hsameRound⟩

/-- The row of a ticket for the round. -/
theorem worksOn_insertTicket (hfree : h.CollisionFree) {ticket : JoinTicket D}
    (hpool : ticket.poolId = pool) (hid : asI64 ticket.roundId = .ok id) :
    WorksOn h pool id (Database.insertTicket (ticketRow h ticket id)) := by
  refine ⟨fun rows =>
    if ∀ earlier ∈ rows.tickets, ¬TicketConflict earlier (ticketRow h ticket id) then
      .ok { rows with tickets := rows.tickets ++ [ticketRow h ticket id] }
    else .error .constraintViolation, fun db hnamed => ⟨?_, ?_⟩⟩
  · exact map_insertInto (fun tickets => { db with joinTickets := tickets })
      (fun tickets => { rowsOf pool id db with tickets }) (fun _ => rfl) ⟨hpool, rfl⟩
      fun earlier => mem_round_of_conflict hfree hnamed hpool hid
  · intro db' hwrite row hrow
    rcases Fallible.bind_eq_ok.mp hwrite with ⟨tickets, hinsert, hok⟩
    rw [← Except.ok.inj hok, (Table.insert_eq_some.mp (insertInto_eq_ok.mp hinsert)).2] at hrow
    rcases List.mem_append.mp hrow with hold | hnew
    · exact hnamed row hold
    · exact ⟨ticket, id, hid, List.mem_singleton.mp hnew⟩

/-- The root of the round. -/
theorem worksOn_insertRoot {row : CohortRootRow D} (hpool : row.poolId = pool)
    (hround : row.roundId = id) : WorksOn h pool id (Database.insertRoot row) :=
  worksOn_insertInto Database.cohortRoots (fun db roots => { db with cohortRoots := roots })
    RoundRows.roots (fun rows roots => { rows with roots }) (fun _ => rfl) (fun _ _ => rfl)
    (fun _ _ => rfl) ⟨hpool, hround⟩ (by simp [SameKey, hpool, hround])

/-- The proof of a leaf of the round. -/
theorem worksOn_insertProof {row : CohortProofRow D} (hpool : row.poolId = pool)
    (hround : row.roundId = id) : WorksOn h pool id (Database.insertProof row) :=
  worksOn_insertInto Database.cohortProofs (fun db proofs => { db with cohortProofs := proofs })
    RoundRows.proofs (fun rows proofs => { rows with proofs }) (fun _ => rfl) (fun _ _ => rfl)
    (fun _ _ => rfl) ⟨hpool, hround⟩ (by simp +contextual [SameKey, hpool, hround])

/-- The schedule of the round. -/
theorem worksOn_insertSchedule {row : ReleaseScheduleRow D} (hpool : row.poolId = pool)
    (hround : row.roundId = id) : WorksOn h pool id (Database.insertSchedule row) :=
  worksOn_insertInto Database.releaseSchedules
    (fun db schedules => { db with releaseSchedules := schedules }) RoundRows.schedules
    (fun rows schedules => { rows with schedules }) (fun _ => rfl) (fun _ _ => rfl)
    (fun _ _ => rfl) ⟨hpool, hround⟩ (by simp [SameKey, hpool, hround])

/-- An event, of whichever round. -/
theorem worksOn_insertEvent (row : ImmutableEventRow D) :
    WorksOn h pool id (Database.insertEvent row) := by
  let shown := [row].filter fun event => event.poolId = some pool ∧ event.roundId = some id
  refine ⟨fun rows => .ok { rows with events := rows.events ++ shown },
    fun db hnamed => ⟨?_, ?_⟩⟩
  · exact congrArg (fun events => Except.ok { rowsOf pool id db with events })
      (List.filter_append _ _)
  · intro db' hwrite
    rw [← Except.ok.inj hwrite]
    exact hnamed

/-! ### Statements on other rounds -/

/-- Statements that keep the rows of the round. -/
theorem leaves_execute {write : Database D → Except SqliteError (Database D)}
    (hwrite : ∀ db db', write db = .ok db' → KeepsRound pool id db db') :
    Leaves (KeepsRound pool id) (Store.execute write) := by
  refine leaves_statement (KeepsRound.refl pool id) fun db db' hdb => hwrite db db' ?_
  simpa using hdb

/-- The row of another pool. -/
theorem keepsRound_insertPool {row : PoolRow D} (hpool : row.poolId ≠ pool) (db db' : Database D)
    (hwrite : Database.insertPool row db = .ok db') : KeepsRound pool id db db' := by
  rcases Fallible.bind_eq_ok.mp hwrite with ⟨inserted, hinsert, hok⟩
  have hrows := (Table.insert_eq_some.mp (insertInto_eq_ok.mp hinsert)).2
  have hsame : (inserted.rows.any fun found => found.poolId = pool) =
      db.pools.rows.any fun found => found.poolId = pool := by
    simp [hrows, hpool]
  rw [← Except.ok.inj hok]
  exact congrArg (fun found => { rowsOf pool id db with hasPool := found }) hsame

/-- The row of another round. -/
theorem keepsRound_upsertRound {row : RoundRow D} (hkey : ¬(row.poolId = pool ∧ row.roundId = id))
    (db db' : Database D) (hwrite : Database.upsertRound row db = .ok db') :
    KeepsRound pool id db db' := by
  rcases Fallible.bind_eq_ok.mp hwrite with ⟨_, -, hok⟩
  have hput : (db.rounds.upsert row).select
      (fun row => row.poolId = pool ∧ row.roundId = id) =
        db.rounds.select fun row => row.poolId = pool ∧ row.roundId = id := by
    rw [Table.select_upsert (k := (pool, id)) db.rounds row (by simp), if_neg (by simpa using hkey)]
  rw [← Except.ok.inj hok]
  exact congrArg (fun found => { rowsOf pool id db with rounds := found }) hput

/-- A ticket for another round. -/
theorem keepsRound_insertTicket {row : JoinTicketRow D}
    (hkey : ¬(row.poolId = pool ∧ row.roundId = id)) (db db' : Database D)
    (hwrite : Database.insertTicket row db = .ok db') : KeepsRound pool id db db' :=
  rowsOf_insertInto (fun tickets => { db with joinTickets := tickets })
    (fun tickets => { rowsOf pool id db with tickets }) (fun _ => rfl) rfl hkey hwrite

/-- The root of another round. -/
theorem keepsRound_insertRoot {row : CohortRootRow D}
    (hkey : ¬(row.poolId = pool ∧ row.roundId = id)) (db db' : Database D)
    (hwrite : Database.insertRoot row db = .ok db') : KeepsRound pool id db db' :=
  rowsOf_insertInto (fun roots => { db with cohortRoots := roots })
    (fun roots => { rowsOf pool id db with roots }) (fun _ => rfl) rfl hkey hwrite

/-- A proof of another round. -/
theorem keepsRound_insertProof {row : CohortProofRow D}
    (hkey : ¬(row.poolId = pool ∧ row.roundId = id)) (db db' : Database D)
    (hwrite : Database.insertProof row db = .ok db') : KeepsRound pool id db db' :=
  rowsOf_insertInto (fun proofs => { db with cohortProofs := proofs })
    (fun proofs => { rowsOf pool id db with proofs }) (fun _ => rfl) rfl hkey hwrite

/-- The schedule of another round. -/
theorem keepsRound_insertSchedule {row : ReleaseScheduleRow D}
    (hkey : ¬(row.poolId = pool ∧ row.roundId = id)) (db db' : Database D)
    (hwrite : Database.insertSchedule row db = .ok db') : KeepsRound pool id db db' :=
  rowsOf_insertInto (fun schedules => { db with releaseSchedules := schedules })
    (fun schedules => { rowsOf pool id db with schedules }) (fun _ => rfl) rfl hkey hwrite

/-- An event of another round. -/
theorem keepsRound_insertEvent {row : ImmutableEventRow D}
    (hkey : ¬(row.poolId = some pool ∧ row.roundId = some id)) (db db' : Database D)
    (hwrite : Database.insertEvent row db = .ok db') : KeepsRound pool id db db' := by
  have hnone : [row].filter (fun event => event.poolId = some pool ∧ event.roundId = some id) =
      [] := List.filter_eq_nil_iff.mpr (by simpa using hkey)
  have hsame : (db.immutableEvents ++ [row]).filter (fun event =>
      event.poolId = some pool ∧ event.roundId = some id) =
        db.immutableEvents.filter fun event =>
          event.poolId = some pool ∧ event.roundId = some id := by
    rw [List.filter_append, hnone, List.append_nil]
  rw [← Except.ok.inj hwrite]
  exact congrArg (fun events => { rowsOf pool id db with events }) hsame

end Statements

/-! ## Calls -/

/-- The calls that concern a round: those on the round, and the one that stores its
pool. -/
def StoreCall.concerns (pool : D) (roundId : UInt64) : StoreCall D → Bool
  | reopen => false
  | insertPool config => config.poolId = pool
  | putRound round => round.poolId = pool ∧ round.roundId = roundId
  | acceptTicket ticket => ticket.poolId = pool ∧ ticket.roundId = roundId
  | sealCohort pool' roundId' _ => pool' = pool ∧ roundId' = roundId
  | scheduleRelease pool' roundId' _ _ => pool' = pool ∧ roundId' = roundId

namespace Store

section Reads

variable {h : Blake3 D} {pool : D} {roundId : UInt64}

/-- A column holds the number of the round. -/
theorem eq_of_asI64 {id : Int} (hid : asI64 roundId = .ok id) : id = roundId.toNat :=
  (asI64_eq_ok.mp hid).2

/-- The round is read from its row. -/
theorem respects_round : Respects (SameRound h pool roundId.toNat) (Store.round pool roundId) := by
  refine respects_lift_bind fun id hid => respects_query fun db db' hsame => ?_
  rw [eq_of_asI64 hid]
  have hrows := congrArg (fun rows => rows.rounds.head?) hsame.rows
  simp only [rowsOf, Table.head?_select] at hrows
  rw [hrows]

/-- The root is read from its row. -/
theorem respects_root : Respects (SameRound h pool roundId.toNat) (root pool roundId) := by
  refine respects_lift_bind fun id hid => respects_query fun db db' hsame => ?_
  rw [eq_of_asI64 hid]
  have hrows := congrArg (fun rows => rows.roots.head?) hsame.rows
  simp only [rowsOf, Table.head?_select] at hrows
  rw [hrows]

/-- The schedule is read from its row. -/
theorem respects_schedule : Respects (SameRound h pool roundId.toNat) (schedule pool roundId) := by
  refine respects_lift_bind fun id hid => respects_query fun db db' hsame => ?_
  rw [eq_of_asI64 hid]
  have hrows := congrArg (fun rows => rows.schedules.head?) hsame.rows
  simp only [rowsOf, Table.head?_select] at hrows
  rw [hrows]

/-- The tickets of the round are counted. -/
theorem respects_ticketCount :
    Respects (SameRound h pool roundId.toNat) (ticketCount pool roundId) := by
  refine respects_lift_bind fun id hid => respects_query fun db db' hsame => ?_
  have hrows : ticketsOf db pool roundId.toNat = ticketsOf db' pool roundId.toNat :=
    congrArg RoundRows.tickets hsame.rows
  rw [eq_of_asI64 hid, hrows]

/-- A proof is looked for among those of its round. -/
theorem find?_proofsOf (db : Database D) (pool : D) (id : Int) (commitment : D) :
    (proofsOf db pool id).find? (fun row => row.commitment = commitment) =
      db.cohortProofs.rows.find? fun row =>
        row.poolId = pool ∧ row.roundId = id ∧ row.commitment = commitment := by
  rw [proofsOf, Table.select, List.find?_filter]
  congr 1
  funext row
  simp [Bool.and_assoc]

/-- A proof is read from its row. -/
theorem respects_proof (commitment : D) :
    Respects (SameRound h pool roundId.toNat) (proof pool roundId commitment) := by
  refine respects_lift_bind fun id hid => respects_query fun db db' hsame => ?_
  have hrows : proofsOf db pool roundId.toNat = proofsOf db' pool roundId.toNat :=
    congrArg RoundRows.proofs hsame.rows
  rw [eq_of_asI64 hid, ← find?_proofsOf, ← find?_proofsOf, hrows]

end Reads

/-! ### Own calls -/

section Own

variable {h : Blake3 D} {pool : D} {roundId : UInt64}

/-- An event is appended. -/
theorem respects_event (kind : String) (payload : D) :
    Respects (SameRound h pool roundId.toNat)
      (event (some pool) (some roundId) kind payload) :=
  (respects_lift _).bind fun _ => WorksOn.respects_execute (worksOn_insertEvent _)

/-- The pool and its configuration are inserted together. -/
theorem respects_insertPool {config : PoolConfig D} (hpool : config.poolId = pool) :
    Respects (SameRound h pool roundId.toNat) (insertPool config) := by
  refine respects_transaction (Respects.bind ?_ fun _ => ?_)
  · exact WorksOn.respects_execute (worksOn_insertPool hpool)
  · exact WorksOn.respects_execute (worksOn_insertSnapshot _)

/-- The round is inserted or replaced. -/
theorem respects_putRound {round : Round D} (hpool : round.poolId = pool)
    (hround : round.roundId = roundId) :
    Respects (SameRound h pool roundId.toNat) (putRound round) := by
  refine respects_lift_bind fun id hid => ?_
  exact WorksOn.respects_execute (worksOn_upsertRound hpool (hround ▸ eq_of_asI64 hid))

/-- A ticket for the round is accepted or refused by the tickets of the round. -/
theorem respects_acceptTicket (hfree : h.CollisionFree) {ticket : JoinTicket D}
    (hpool : ticket.poolId = pool) (hround : ticket.roundId = roundId) :
    Respects (SameRound h pool roundId.toNat) (acceptTicket h ticket) := by
  subst hpool hround
  refine respects_transaction (respects_lift_bind fun id hid => ?_)
  rcases eq_of_asI64 hid with rfl
  refine Respects.bind ?_ fun _ => (respects_event _ _).bind fun _ => respects_pure _
  exact (worksOn_insertTicket hfree rfl hid).respects ticketError

/-- The proof of a leaf is generated and stored. -/
theorem respects_persistProof {tree : MerkleCohort h} (leaf : D) :
    Respects (SameRound h pool roundId.toNat) (persistProof tree pool roundId leaf) := by
  refine (respects_lift _).bind fun generated => (respects_lift _).bind fun proof => ?_
  refine respects_lift_bind fun id hid => ?_
  rcases eq_of_asI64 hid with rfl
  exact WorksOn.respects_execute (worksOn_insertProof rfl rfl)

/-- The cohort of the round's tickets is built, and stored with its proofs. -/
theorem respects_sealTickets (minimum : UInt32) :
    Respects (SameRound h pool roundId.toNat) (sealTickets h pool roundId minimum) := by
  refine respects_lift_bind fun id hid => ?_
  rcases eq_of_asI64 hid with rfl
  refine Respects.bind (respects_query ?_) fun leaves => ?_
  · intro db db' hsame
    have hrows : ticketsOf db pool roundId.toNat = ticketsOf db' pool roundId.toNat :=
      congrArg RoundRows.tickets hsame.rows
    rw [hrows]
  · refine (respects_lift _).bind fun _ => (respects_lift _).bind fun _ => ?_
    refine (respects_lift _).bind fun tree => (respects_lift _).bind fun root => ?_
    refine Respects.bind ?_ fun _ => ?_
    · exact WorksOn.respects_execute (worksOn_insertRoot rfl rfl)
    · refine (respects_forM respects_persistProof leaves).bind fun _ => ?_
      exact (respects_event _ _).bind fun _ => respects_pure _

/-- A sealed cohort is returned, and another one is sealed. -/
theorem respects_sealCohort (minimum : UInt32) :
    Respects (SameRound h pool roundId.toNat) (sealCohort h pool roundId minimum) := by
  refine respects_root.bind fun existing => ?_
  cases existing with
  | some found => exact respects_pure found
  | none => exact respects_transaction (respects_sealTickets minimum)

/-- A schedule is compared with the one that is there, or stored. -/
theorem respects_scheduleRelease (release finish : UInt64) :
    Respects (SameRound h pool roundId.toNat) (scheduleRelease pool roundId release finish) := by
  refine respects_schedule.bind fun existing => ?_
  cases existing with
  | some value => exact respects_lift _
  | none =>
      refine respects_lift_bind fun id hid => ?_
      refine (respects_lift _).bind fun releaseSlot => (respects_lift _).bind fun finishSlot => ?_
      rcases eq_of_asI64 hid with rfl
      exact WorksOn.respects_execute (worksOn_insertSchedule rfl rfl)

end Own

/-! ### Other calls -/

section Other

variable {h : Blake3 D} {pool other : D} {roundId otherId : UInt64}

omit [LinearOrder D] in
/-- The key of another round. -/
theorem other_key {id : Int} (hother : ¬(other = pool ∧ otherId = roundId))
    (hid : asI64 otherId = .ok id) : ¬(other = pool ∧ id = roundId.toNat) := by
  rintro ⟨hpool, hround⟩
  refine hother ⟨hpool, ?_⟩
  have hsame : (otherId.toNat : Int) = roundId.toNat := (eq_of_asI64 hid).symm.trans hround
  exact UInt64.toNat_inj.mp (by exact_mod_cast hsame)

/-- An event of another round is not seen. -/
theorem leaves_event (hother : ¬(other = pool ∧ otherId = roundId)) (kind : String)
    (payload : D) :
    Leaves (KeepsRound pool roundId.toNat)
      (event (some other) (some otherId) kind payload) := by
  refine leaves_lift_bind (KeepsRound.refl _ _) fun id hid => ?_
  refine leaves_execute (keepsRound_insertEvent ?_)
  rintro ⟨hpool, hround⟩
  rcases hwritten : asI64 otherId with e | id'
  · rw [Option.mapM_some, hwritten] at hid
    cases hid
  · rw [Option.mapM_some, hwritten] at hid
    rcases Except.ok.inj hid with rfl
    exact other_key hother hwritten ⟨Option.some.inj hpool, Option.some.inj hround⟩

/-- Another pool is not seen. -/
theorem leaves_insertPool {config : PoolConfig D} (hother : config.poolId ≠ pool) (id : Int) :
    Leaves (KeepsRound pool id) (insertPool config) := by
  refine leaves_transaction (KeepsRound.refl _ _) ?_
  refine Leaves.bind (KeepsRound.trans _ _) ?_ fun _ => ?_
  · exact leaves_execute (keepsRound_insertPool hother)
  · refine leaves_execute fun db db' hwrite => ?_
    rw [← Except.ok.inj hwrite]
    exact KeepsRound.refl pool id db

/-- Another round is not seen. -/
theorem leaves_putRound {round : Round D}
    (hother : ¬(round.poolId = pool ∧ round.roundId = roundId)) :
    Leaves (KeepsRound pool roundId.toNat) (putRound round) := by
  refine leaves_lift_bind (KeepsRound.refl _ _) fun id hid => ?_
  exact leaves_execute (keepsRound_upsertRound (other_key hother hid))

/-- A ticket for another round is not seen. -/
theorem leaves_acceptTicket {ticket : JoinTicket D}
    (hother : ¬(ticket.poolId = pool ∧ ticket.roundId = roundId)) :
    Leaves (KeepsRound pool roundId.toNat) (acceptTicket h ticket) := by
  refine leaves_transaction (KeepsRound.refl _ _) ?_
  refine leaves_lift_bind (KeepsRound.refl _ _) fun id hid => ?_
  refine Leaves.bind (KeepsRound.trans _ _) ?_ fun _ => ?_
  · refine leaves_statement (KeepsRound.refl _ _) fun db db' hwrite => ?_
    exact keepsRound_insertTicket (other_key hother hid) db db' (mapError_eq_ok.mp hwrite)
  · exact (leaves_event hother _ _).bind (KeepsRound.trans _ _) fun _ =>
      (readOnly_pure _).leaves (KeepsRound.refl _ _)

/-- A proof of another round is not seen. -/
theorem leaves_persistProof (hother : ¬(other = pool ∧ otherId = roundId))
    {tree : MerkleCohort h} (leaf : D) :
    Leaves (KeepsRound pool roundId.toNat) (persistProof tree other otherId leaf) := by
  have hrefl := KeepsRound.refl pool (roundId.toNat : Int)
  refine leaves_lift_bind hrefl fun _ _ => leaves_lift_bind hrefl fun _ _ => ?_
  refine leaves_lift_bind hrefl fun id hid => ?_
  exact leaves_execute (keepsRound_insertProof (other_key hother hid))

/-- What is stored for another cohort is not seen. -/
theorem leaves_sealTickets (hother : ¬(other = pool ∧ otherId = roundId)) (minimum : UInt32) :
    Leaves (KeepsRound pool roundId.toNat) (sealTickets h other otherId minimum) := by
  have hrefl := KeepsRound.refl pool (roundId.toNat : Int)
  have htrans := KeepsRound.trans pool (roundId.toNat : Int)
  refine leaves_lift_bind hrefl fun id hid => ?_
  refine ((readOnly_query _).leaves hrefl).bind htrans fun leaves => ?_
  refine leaves_lift_bind hrefl fun _ _ => leaves_lift_bind hrefl fun _ _ => ?_
  refine leaves_lift_bind hrefl fun tree _ => leaves_lift_bind hrefl fun root _ => ?_
  refine (leaves_execute (keepsRound_insertRoot (other_key hother hid))).bind htrans fun _ => ?_
  refine (leaves_forM hrefl htrans (leaves_persistProof hother) leaves).bind htrans fun _ => ?_
  exact (leaves_event hother _ _).bind htrans fun _ => (readOnly_pure _).leaves hrefl

/-- The sealing of another round is not seen. -/
theorem leaves_sealCohort (hother : ¬(other = pool ∧ otherId = roundId)) (minimum : UInt32) :
    Leaves (KeepsRound pool roundId.toNat) (sealCohort h other otherId minimum) := by
  have hrefl := KeepsRound.refl pool (roundId.toNat : Int)
  refine ((readOnly_root _ _).leaves hrefl).bind (KeepsRound.trans _ _) fun existing => ?_
  cases existing with
  | some found => exact (readOnly_pure found).leaves hrefl
  | none => exact leaves_transaction hrefl (leaves_sealTickets hother minimum)

/-- The schedule of another round is not seen. -/
theorem leaves_scheduleRelease (hother : ¬(other = pool ∧ otherId = roundId))
    (release finish : UInt64) :
    Leaves (KeepsRound pool roundId.toNat) (scheduleRelease other otherId release finish) := by
  have hrefl := KeepsRound.refl pool (roundId.toNat : Int)
  refine ((readOnly_schedule _ _).leaves hrefl).bind (KeepsRound.trans _ _) fun existing => ?_
  cases existing with
  | some value => exact (readOnly_lift _).leaves hrefl
  | none =>
      refine leaves_lift_bind hrefl fun id hid => ?_
      refine leaves_lift_bind hrefl fun _ _ => leaves_lift_bind hrefl fun _ _ => ?_
      exact leaves_execute (keepsRound_insertSchedule (other_key hother hid))

end Other

end Store

namespace StoreCall

variable {h : Blake3 D} {pool : D} {roundId : UInt64}

/-- The calls of a round are answered from its rows, and write its rows, alone. -/
theorem respects_perform (hfree : h.CollisionFree) {call : StoreCall D}
    (hown : call.concerns pool roundId = true) :
    Respects (SameRound h pool roundId.toNat) (call.perform h) := by
  cases call with
  | reopen => cases hown
  | insertPool config =>
      have hpool : config.poolId = pool := of_decide_eq_true hown
      exact (Store.respects_insertPool hpool).bind fun _ => respects_pure _
  | putRound round =>
      have hkey : round.poolId = pool ∧ round.roundId = roundId := of_decide_eq_true hown
      exact (Store.respects_putRound hkey.1 hkey.2).bind fun _ => respects_pure _
  | acceptTicket ticket =>
      have hkey : ticket.poolId = pool ∧ ticket.roundId = roundId := of_decide_eq_true hown
      exact (Store.respects_acceptTicket hfree hkey.1 hkey.2).bind fun _ => respects_pure _
  | sealCohort pool' roundId' minimum =>
      have hkey : pool' = pool ∧ roundId' = roundId := of_decide_eq_true hown
      rcases hkey with ⟨rfl, rfl⟩
      exact (Store.respects_sealCohort minimum).bind fun _ => respects_pure _
  | scheduleRelease pool' roundId' release finish =>
      have hkey : pool' = pool ∧ roundId' = roundId := of_decide_eq_true hown
      rcases hkey with ⟨rfl, rfl⟩
      exact (Store.respects_scheduleRelease release finish).bind fun _ => respects_pure _

/-- The other calls leave its rows as they are. -/
theorem leaves_perform {call : StoreCall D} (hother : call.concerns pool roundId = false) :
    Leaves (KeepsRound pool roundId.toNat) (call.perform h) := by
  have hrefl := KeepsRound.refl pool (roundId.toNat : Int)
  have htrans := KeepsRound.trans pool (roundId.toNat : Int)
  have hreply (reply : StoreReply D) : Leaves (KeepsRound pool roundId.toNat)
      (pure reply : Store.StoreSession D (StoreReply D)) := (readOnly_pure reply).leaves hrefl
  cases call with
  | reopen =>
      refine Leaves.bind htrans (leaves_transaction hrefl ?_) fun _ => hreply _
      refine leaves_execute fun db db' hwrite => ?_
      rw [← Except.ok.inj hwrite]
      exact hrefl db
  | insertPool config =>
      have hpool : config.poolId ≠ pool := of_decide_eq_false hother
      exact (Store.leaves_insertPool hpool _).bind htrans fun _ => hreply _
  | putRound round =>
      have hkey := of_decide_eq_false hother
      exact (Store.leaves_putRound hkey).bind htrans fun _ => hreply _
  | acceptTicket ticket =>
      have hkey := of_decide_eq_false hother
      exact (Store.leaves_acceptTicket hkey).bind htrans fun _ => hreply _
  | sealCohort pool' roundId' minimum =>
      have hkey := of_decide_eq_false hother
      exact (Store.leaves_sealCohort hkey minimum).bind htrans fun _ => hreply _
  | scheduleRelease pool' roundId' release finish =>
      have hkey := of_decide_eq_false hother
      exact (Store.leaves_scheduleRelease hkey release finish).bind htrans fun _ => hreply _

end StoreCall

/-! ## Histories -/

section Histories

variable {h : Blake3 D}

/-- A round is separated from the calls of all others. -/
theorem separates_round (hfree : h.CollisionFree) (pool : D) (roundId : UInt64) :
    Runs.Separates (SameRound h pool roundId.toNat) (StoreCall.concerns pool roundId)
      fun db call => StoreCall.perform h call db where
  answer db db' _ hown hsame := (StoreCall.respects_perform hfree hown db db' hsame).1
  next db db' _ hown hsame := (StoreCall.respects_perform hfree hown db db' hsame).2
  silent db _ call hother hsame :=
    { rows := Eq.trans (StoreCall.leaves_perform hother db) hsame.rows
      named := (call.storeStep_perform h db).namesTickets hsame.named
      named' := hsame.named' }

/-- What the store tells about a round. -/
structure RoundReads (D : Type) where
  round : Except StoreError (Option (Round D))
  root : Except StoreError (Option (D × UInt32))
  ticketCount : Except StoreError UInt32
  proof : D → Except StoreError (Option (CohortProof D))

/-- All reads of a round. -/
def roundReads (pool : D) (roundId : UInt64) (db : Database D) : RoundReads D where
  round := (Store.round pool roundId db).1
  root := (Store.root pool roundId db).1
  ticketCount := (Store.ticketCount pool roundId db).1
  proof commitment := (Store.proof pool roundId commitment db).1

/-- Databases with the same rows are read alike. -/
theorem SameRound.roundReads_eq {pool : D} {roundId : UInt64} {db db' : Database D}
    (hsame : SameRound h pool roundId.toNat db db') :
    roundReads pool roundId db = roundReads pool roundId db' := by
  have hproof : (roundReads pool roundId db).proof = (roundReads pool roundId db').proof :=
    funext fun commitment => (Store.respects_proof commitment db db' hsame).1
  simp only [roundReads] at hproof
  simp only [roundReads, hproof, (Store.respects_round db db' hsame).1,
    (Store.respects_root db db' hsame).1, (Store.respects_ticketCount db db' hsame).1]

/-- Without collisions the calls of a round are answered, in every history, as if
there had been no others, and at its end the database holds and tells the same
about the round. -/
theorem rounds_isolated (hfree : h.CollisionFree) (pool : D) (roundId : UInt64)
    (calls : List (StoreCall D)) :
    ((storeHistory h calls).filter (·.input.concerns pool roundId)).map (·.reply h) =
        (storeHistory h (calls.filter (·.concerns pool roundId))).map (·.reply h) ∧
      rowsOf pool roundId.toNat (storeAfter h calls) =
        rowsOf pool roundId.toNat (storeAfter h (calls.filter (·.concerns pool roundId))) ∧
      roundReads pool roundId (storeAfter h calls) =
        roundReads pool roundId (storeAfter h (calls.filter (·.concerns pool roundId))) := by
  have hsep := separates_round hfree pool roundId
  have hopened : SameRound h pool roundId.toNat (Database.opened h) (Database.opened h) :=
    ⟨rfl, by simp [NamesTickets], by simp [NamesTickets]⟩
  have hend := hsep.run hopened calls
  refine ⟨?_, hend.rows, hend.roundReads_eq⟩
  have hanswers := hsep.answers_eq hopened calls
  rw [Runs.answers_eq_map_visits] at hanswers
  exact hanswers

end Histories

/-- Two rounds of a pool in turns: one is sealed before the other one has all its
tickets. -/
def demoTwoRounds : List (StoreCall (List (Fin 256))) :=
  [.acceptTicket (MerkleCohort.demoTicket 1),
    .acceptTicket { MerkleCohort.demoTicket 1 with roundId := 8 },
    .sealCohort (MerkleCohort.demoTicket 1).poolId 8 1,
    .scheduleRelease (MerkleCohort.demoTicket 1).poolId 8 20 30,
    .acceptTicket (MerkleCohort.demoTicket 2), .acceptTicket (MerkleCohort.demoTicket 1),
    .sealCohort (MerkleCohort.demoTicket 1).poolId 7 2]

/-- The round that is sealed last is answered as if it were alone. -/
theorem rounds_isolated_demo :
    roundReads (MerkleCohort.demoTicket 1).poolId 7 (storeAfter Blake3.verbatim demoTwoRounds) =
      roundReads (MerkleCohort.demoTicket 1).poolId 7 (storeAfter Blake3.verbatim
        [.acceptTicket (MerkleCohort.demoTicket 1), .acceptTicket (MerkleCohort.demoTicket 2),
          .acceptTicket (MerkleCohort.demoTicket 1),
          .sealCohort (MerkleCohort.demoTicket 1).poolId 7 2]) :=
  (rounds_isolated Blake3.verbatim_collisionFree _ 7 demoTwoRounds).2.2

end MirrorPool
