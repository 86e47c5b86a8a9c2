import MirrorPool.Store.Operations

/-!
# What a store call does

Every call of the store has one of few effects on the tables.  The effects are
collected in one inductive relation, from which all invariants of the store are
derived.

Main results:

- Definition {lit}`StoreStep`: the effects of the calls.
- Theorem {lit}`storeStep_perform`: every call has one of them.
- Theorems {lit}`Store.root_of_mem` and {lit}`Store.schedule_of_mem`: a row is
  found by its key.
-/

namespace MirrorPool

open Fallible Sessions Tables

variable {D : Type} [LinearOrder D]

/-- The row of an accepted ticket. -/
def ticketRow (h : Blake3 D) (ticket : JoinTicket D) (id : Int) : JoinTicketRow D where
  poolId := ticket.poolId
  roundId := id
  commitment := ticket.commitment h
  coordinationKey := ticket.coordinationPublicKey
  ticketJson := ticket

/-- The audit event of an accepted ticket. -/
def ticketEvent (row : JoinTicketRow D) : ImmutableEventRow D where
  poolId := some row.poolId
  roundId := some row.roundId
  eventType := "ticket_accepted"
  payloadHash := row.commitment

/-- The audit event of a sealed cohort. -/
def rootEvent (row : CohortRootRow D) : ImmutableEventRow D where
  poolId := some row.poolId
  roundId := some row.roundId
  eventType := "cohort_sealed"
  payloadHash := row.root

/-- The leaves of the cohort of a round. -/
def leavesOf (db : Database D) (pool : D) (id : Int) : List D :=
  sortDigests ((Store.ticketsOf db pool id).map JoinTicketRow.commitment)

/-- The rows of the proofs of a cohort for some leaves. -/
structure ProofRows {h : Blake3 D} (cohort : MerkleCohort h) (pool : D) (roundId : UInt64)
    (id : Int) (leaves : List D) (rows : List (CohortProofRow D)) : Prop where
  commitments : rows.map CohortProofRow.commitment = leaves
  keys : ∀ row ∈ rows, row.poolId = pool ∧ row.roundId = id
  generated : ∀ row ∈ rows, cohort.proof row.commitment roundId = some (.ok row.proofJson)

/-- The effects of a call: the reply, and the database before and after. -/
inductive StoreStep (h : Blake3 D) :
    StoreCall D → Except StoreError (StoreReply D) → Database D → Database D → Prop where
  | failed {call error db} : StoreStep h call (.error error) db db
  | reopened {db versions} :
      StoreStep h .reopen (.ok .stored) db { db with schemaMigrations := versions }
  | poolInserted {pool db pools snapshots} :
      StoreStep h (.insertPool pool) (.ok .stored) db
        { db with pools, configurationSnapshots := snapshots }
  | roundPut {round db rounds} :
      StoreStep h (.putRound round) (.ok .stored) db { db with rounds }
  | ticketAccepted {ticket db id tickets events}
      (hid : asI64 ticket.roundId = .ok id)
      (hinsert : db.joinTickets.insert (ticketRow h ticket id) = some tickets) :
      StoreStep h (.acceptTicket ticket) (.ok (.accepted (ticket.commitment h))) db
        { db with joinTickets := tickets, immutableEvents := events }
  | cohortSealed {pool roundId minimum db id root count roots proofs events}
      {cohort : MerkleCohort h} {rows : List (CohortProofRow D)}
      (hid : asI64 roundId = .ok id)
      (hfresh : ∀ row ∈ db.cohortRoots.rows, ¬(row.poolId = pool ∧ row.roundId = id))
      (hcount : (leavesOf db pool id).length = count.toNat)
      (hminimum : minimum ≤ count)
      (hbuild : MerkleCohort.build h (leavesOf db pool id) = .ok cohort)
      (hroot : cohort.root = .ok root)
      (hroots : roots.rows = db.cohortRoots.rows ++ [⟨pool, id, root, count.toNat⟩])
      (hproofs : proofs.rows = db.cohortProofs.rows ++ rows)
      (hrows : ProofRows cohort pool roundId id (leavesOf db pool id) rows) :
      StoreStep h (.sealCohort pool roundId minimum) (.ok (.sealed root count)) db
        { db with cohortRoots := roots, cohortProofs := proofs, immutableEvents := events }
  | sealedBefore {pool roundId minimum db row count}
      (hrow : row ∈ db.cohortRoots.rows) (hpool : row.poolId = pool)
      (hid : asI64 roundId = .ok row.roundId) (hcount : u32Column row.cohortSize = .ok count) :
      StoreStep h (.sealCohort pool roundId minimum) (.ok (.sealed row.root count)) db db
  | releaseScheduled {pool roundId release finish db id releaseSlot windowEndSlot schedules}
      (hid : asI64 roundId = .ok id) (hrelease : asI64 release = .ok releaseSlot)
      (hfinish : asI64 finish = .ok windowEndSlot)
      (hfresh : ∀ row ∈ db.releaseSchedules.rows, ¬(row.poolId = pool ∧ row.roundId = id))
      (hschedules : schedules.rows =
        db.releaseSchedules.rows ++ [⟨pool, id, releaseSlot, windowEndSlot⟩]) :
      StoreStep h (.scheduleRelease pool roundId release finish) (.ok .stored) db
        { db with releaseSchedules := schedules }
  | scheduledBefore {pool roundId release finish db row}
      (hrow : row ∈ db.releaseSchedules.rows) (hpool : row.poolId = pool)
      (hid : asI64 roundId = .ok row.roundId)
      (hrelease : u64Column row.releaseSlot = .ok release)
      (hfinish : u64Column row.windowEndSlot = .ok finish) :
      StoreStep h (.scheduleRelease pool roundId release finish) (.ok .stored) db db

/-! ## Statements -/

theorem insertInto_eq_ok {ρ : Type} {conflict : ρ → ρ → Prop} [DecidableRel conflict]
    {table inserted : Table conflict} {row : ρ} :
    Database.insertInto table row = .ok inserted ↔ table.insert row = some inserted :=
  okOr_eq_ok

namespace Store

omit [LinearOrder D] in
theorem execute_eq_ok {write : Database D → Except SqliteError (Database D)}
    {db db' : Database D} {u : Unit} :
    execute write db = (.ok u, db') ↔ write db = .ok db' := by
  simp [execute]

omit [LinearOrder D] in
/-- An event is appended and leaves the other tables alone. -/
theorem event_eq_ok {pool : Option D} {roundId : UInt64} {id : Int} {kind : String} {payload : D}
    {db db' : Database D} {u : Unit} (hid : asI64 roundId = .ok id)
    (hevent : event pool (some roundId) kind payload db = (.ok u, db')) :
    db' =
      { db with immutableEvents := db.immutableEvents ++ [⟨pool, some id, kind, payload⟩] } := by
  simp only [event, Sessions.bind_eq_ok, lift_eq_ok, execute_eq_ok, Database.insertEvent,
    Except.ok.injEq] at hevent
  rcases hevent with ⟨written, _, ⟨hwritten, rfl⟩, rfl⟩
  simp only [Option.mapM_some, hid, Functor.map, Except.map,
    Except.ok.injEq] at hwritten
  rw [← hwritten]

/-! ## Reading -/

/-- A root that is read comes from a row. -/
theorem root_eq_some {pool : D} {roundId : UInt64} {found : D × UInt32} {db db' : Database D}
    (hread : root pool roundId db = (.ok (some found), db')) :
    db' = db ∧ ∃ row ∈ db.cohortRoots.rows, row.poolId = pool ∧ asI64 roundId = .ok row.roundId ∧
      row.root = found.1 ∧ u32Column row.cohortSize = .ok found.2 := by
  simp only [root, Sessions.bind_eq_ok, lift_eq_ok, query_eq_ok] at hread
  rcases hread with ⟨id, _, ⟨hid, rfl⟩, hfind, rfl⟩
  refine ⟨rfl, ?_⟩
  split at hfind
  · simp at hfind
  · rename_i row hrow
    simp only [Fallible.bind_eq_ok, mapError_eq_ok, Fallible.pure_eq_ok, Option.some.injEq] at hfind
    rcases hfind with ⟨count, hcount, rfl⟩
    have hkey := List.find?_some hrow
    simp only [decide_eq_true_eq] at hkey
    exact ⟨row, List.mem_of_find?_eq_some hrow, hkey.1, by rw [hid, hkey.2], rfl, hcount⟩

/-- No root is read when no row has the key. -/
theorem root_eq_none {pool : D} {roundId : UInt64} {db db' : Database D}
    (hread : root pool roundId db = (.ok none, db')) :
    db' = db ∧ ∃ id, asI64 roundId = .ok id ∧
      ∀ row ∈ db.cohortRoots.rows, ¬(row.poolId = pool ∧ row.roundId = id) := by
  simp only [root, Sessions.bind_eq_ok, lift_eq_ok, query_eq_ok] at hread
  rcases hread with ⟨id, _, ⟨hid, rfl⟩, hfind, rfl⟩
  refine ⟨rfl, id, hid, ?_⟩
  split at hfind
  · rename_i hnone
    simpa using hnone
  · simp only [Fallible.bind_eq_ok, Fallible.pure_eq_ok, reduceCtorEq, and_false,
      exists_false] at hfind

/-- The row of a key is the one that is found. -/
theorem root_of_mem {row : CohortRootRow D} {roundId : UInt64} {count : UInt32}
    {db : Database D} (hrow : row ∈ db.cohortRoots.rows)
    (hid : asI64 roundId = .ok row.roundId) (hcount : u32Column row.cohortSize = .ok count) :
    root row.poolId roundId db = (.ok (some (row.root, count)), db) := by
  have hfind : db.cohortRoots.rows.find?
      (fun found => found.poolId = row.poolId ∧ found.roundId = row.roundId) = some row :=
    Table.find?_eq_some hrow (by simp)
  simp only [root, Sessions.bind_eq_ok, lift_eq_ok, query_eq_ok]
  refine ⟨row.roundId, db, ⟨hid, rfl⟩, ?_, rfl⟩
  simp only [hfind, Fallible.bind_eq_ok, mapError_eq_ok]
  exact ⟨count, hcount, rfl⟩

/-- A schedule that is read comes from a row. -/
theorem schedule_eq_some {pool : D} {roundId : UInt64} {found : UInt64 × UInt64}
    {db db' : Database D} (hread : schedule pool roundId db = (.ok (some found), db')) :
    db' = db ∧ ∃ row ∈ db.releaseSchedules.rows, row.poolId = pool ∧
      asI64 roundId = .ok row.roundId ∧ u64Column row.releaseSlot = .ok found.1 ∧
      u64Column row.windowEndSlot = .ok found.2 := by
  simp only [schedule, Sessions.bind_eq_ok, lift_eq_ok, query_eq_ok] at hread
  rcases hread with ⟨id, _, ⟨hid, rfl⟩, hfind, rfl⟩
  refine ⟨rfl, ?_⟩
  split at hfind
  · simp at hfind
  · rename_i row hrow
    simp only [Fallible.bind_eq_ok, mapError_eq_ok, Fallible.pure_eq_ok,
      Option.some.injEq] at hfind
    rcases hfind with ⟨release, hrelease, finish, hfinish, rfl⟩
    have hkey := List.find?_some hrow
    simp only [decide_eq_true_eq] at hkey
    exact ⟨row, List.mem_of_find?_eq_some hrow, hkey.1, by rw [hid, hkey.2], hrelease, hfinish⟩

/-- No schedule is read when no row has the key. -/
theorem schedule_eq_none {pool : D} {roundId : UInt64} {db db' : Database D}
    (hread : schedule pool roundId db = (.ok none, db')) :
    db' = db ∧ ∃ id, asI64 roundId = .ok id ∧
      ∀ row ∈ db.releaseSchedules.rows, ¬(row.poolId = pool ∧ row.roundId = id) := by
  simp only [schedule, Sessions.bind_eq_ok, lift_eq_ok, query_eq_ok] at hread
  rcases hread with ⟨id, _, ⟨hid, rfl⟩, hfind, rfl⟩
  refine ⟨rfl, id, hid, ?_⟩
  split at hfind
  · rename_i hnone
    simpa using hnone
  · simp only [Fallible.bind_eq_ok, Fallible.pure_eq_ok, reduceCtorEq, and_false,
      exists_false] at hfind

/-- The schedule of a key is the one that is found. -/
theorem schedule_of_mem {row : ReleaseScheduleRow D} {roundId release finish : UInt64}
    {db : Database D} (hrow : row ∈ db.releaseSchedules.rows)
    (hid : asI64 roundId = .ok row.roundId) (hrelease : u64Column row.releaseSlot = .ok release)
    (hfinish : u64Column row.windowEndSlot = .ok finish) :
    schedule row.poolId roundId db = (.ok (some (release, finish)), db) := by
  have hfind : db.releaseSchedules.rows.find?
      (fun found => found.poolId = row.poolId ∧ found.roundId = row.roundId) = some row :=
    Table.find?_eq_some hrow (by simp)
  simp only [schedule, Sessions.bind_eq_ok, lift_eq_ok, query_eq_ok]
  refine ⟨row.roundId, db, ⟨hid, rfl⟩, ?_, rfl⟩
  simp only [hfind, Fallible.bind_eq_ok, mapError_eq_ok]
  exact ⟨release, hrelease, finish, hfinish, rfl⟩

/-! ## Sealing -/

/-- One proof is generated and written. -/
theorem persistProof_eq_ok {h : Blake3 D} {tree : MerkleCohort h} {pool leaf : D}
    {roundId : UInt64} {db db' : Database D} {u : Unit}
    (hpersist : persistProof tree pool roundId leaf db = (.ok u, db')) :
    ∃ id proof proofs, asI64 roundId = .ok id ∧ tree.proof leaf roundId = some (.ok proof) ∧
      db.cohortProofs.insert ⟨pool, id, leaf, proof⟩ = some proofs ∧
      db' = { db with cohortProofs := proofs } := by
  simp only [persistProof, Sessions.bind_eq_ok, lift_eq_ok, okOr_eq_ok, mapError_eq_ok,
    execute_eq_ok, Database.insertProof, Fallible.bind_eq_ok, insertInto_eq_ok,
    Fallible.pure_eq_ok] at hpersist
  rcases hpersist with ⟨_, _, ⟨hgenerated, rfl⟩, proof, _, ⟨rfl, rfl⟩, id, _, ⟨hid, rfl⟩,
    proofs, hinsert, rfl⟩
  exact ⟨id, proof, proofs, hid, hgenerated, hinsert, rfl⟩

/-- The proofs of all leaves are generated and written. -/
theorem persistProofs_eq_ok {h : Blake3 D} {tree : MerkleCohort h} {pool : D}
    {roundId : UInt64} {id : Int} {leaves : List D} {db db' : Database D} {u : Unit}
    (hid : asI64 roundId = .ok id)
    (hloop : (forM leaves (persistProof tree pool roundId) : StoreSession D Unit) db =
      (.ok u, db')) :
    ∃ proofs rows, proofs.rows = db.cohortProofs.rows ++ rows ∧
      ProofRows tree pool roundId id leaves rows ∧ db' = { db with cohortProofs := proofs } := by
  -- the loop has written the proofs of the leaves it has passed, and nothing else
  let Inv : List D → Database D → Prop := fun done current =>
    ∃ proofs rows, proofs.rows = db.cohortProofs.rows ++ rows ∧
      ProofRows tree pool roundId id done rows ∧ current = { db with cohortProofs := proofs }
  have hstart : Inv [] db :=
    ⟨db.cohortProofs, [], by simp, ⟨rfl, by simp, by simp⟩, rfl⟩
  have hstep : ∀ done leaf s u t, Inv done s →
      persistProof tree pool roundId leaf s = (.ok u, t) → Inv (done ++ [leaf]) t := by
    intro done leaf s u t hdone hpersist
    rcases hdone with ⟨proofs, rows, happended, hrows, rfl⟩
    rcases persistProof_eq_ok hpersist with ⟨id', proof, proofs', hid', hgenerated, hinsert, rfl⟩
    rw [hid] at hid'
    cases hid'
    refine ⟨proofs', rows ++ [⟨pool, id, leaf, proof⟩], ?_, ?_, rfl⟩
    · rw [(Table.insert_eq_some.mp hinsert).2, happended, List.append_assoc]
    · refine ⟨by simp [hrows.commitments], ?_, ?_⟩
      · intro row hrow
        rcases List.mem_append.mp hrow with hrow | hrow
        · exact hrows.keys row hrow
        · rw [List.mem_singleton.mp hrow]
          exact ⟨rfl, rfl⟩
      · intro row hrow
        rcases List.mem_append.mp hrow with hrow | hrow
        · exact hrows.generated row hrow
        · rw [List.mem_singleton.mp hrow]
          exact hgenerated
  exact forM_invariant Inv hstep hstart hloop

/-- A successful ticket is inserted without a conflict. -/
theorem acceptTicket_eq_ok {h : Blake3 D} {ticket : JoinTicket D} {db db' : Database D}
    {commitment : D} (haccept : acceptTicket h ticket db = (.ok commitment, db')) :
    commitment = ticket.commitment h ∧ ∃ id tickets, asI64 ticket.roundId = .ok id ∧
      db.joinTickets.insert (ticketRow h ticket id) = some tickets ∧
      db' = { db with
        joinTickets := tickets
        immutableEvents := db.immutableEvents ++ [ticketEvent (ticketRow h ticket id)] } := by
  simp only [acceptTicket, transaction_eq_ok, Sessions.bind_eq_ok, lift_eq_ok, statement_eq_ok,
    mapError_eq_ok, Database.insertTicket, Fallible.bind_eq_ok, insertInto_eq_ok,
    Fallible.pure_eq_ok, Sessions.pure_eq_ok] at haccept
  rcases haccept with ⟨id, _, ⟨hid, rfl⟩, _, _, ⟨tickets, hinsert, rfl⟩, _, _, hevent, rfl, rfl⟩
  exact ⟨rfl, id, tickets, hid, hinsert, event_eq_ok hid hevent⟩

omit [LinearOrder D] in
/-- An event can be appended in a round whose number can be written. -/
theorem exists_event {roundId : UInt64} {id : Int} (hid : asI64 roundId = .ok id)
    (pool : Option D) (kind : String) (payload : D) (db : Database D) :
    ∃ db', event pool (some roundId) kind payload db = (.ok (), db') := by
  simp only [event, Sessions.bind_eq_ok, lift_eq_ok, execute_eq_ok, Database.insertEvent,
    Except.ok.injEq]
  exact ⟨_, some id, db, ⟨by simp [hid], rfl⟩, rfl⟩

/-- A ticket without a conflict is accepted. -/
theorem exists_acceptTicket {h : Blake3 D} {ticket : JoinTicket D} {id : Int} {db : Database D}
    {tickets : Table (TicketConflict (D := D))} (hid : asI64 ticket.roundId = .ok id)
    (hinsert : db.joinTickets.insert (ticketRow h ticket id) = some tickets) :
    ∃ db', acceptTicket h ticket db = (.ok (ticket.commitment h), db') := by
  rcases exists_event hid (some ticket.poolId) "ticket_accepted" (ticket.commitment h)
    { db with joinTickets := tickets } with ⟨db', hevent⟩
  refine ⟨db', ?_⟩
  simp only [acceptTicket, transaction_eq_ok, Sessions.bind_eq_ok, lift_eq_ok, statement_eq_ok,
    mapError_eq_ok, Database.insertTicket, Fallible.bind_eq_ok, insertInto_eq_ok,
    Fallible.pure_eq_ok, Sessions.pure_eq_ok]
  exact ⟨id, db, ⟨hid, rfl⟩, ⟨⟩, _, ⟨tickets, hinsert, rfl⟩, ⟨⟩, db', hevent, trivial, rfl⟩

/-- A first sealing has reached the minimum, and it writes the root and all
proofs. -/
theorem sealTickets_eq_ok {h : Blake3 D} {pool root : D} {roundId : UInt64}
    {minimum count : UInt32} {id : Int} {db db' : Database D} (hid : asI64 roundId = .ok id)
    (hseal : sealTickets h pool roundId minimum db = (.ok (root, count), db')) :
    ∃ (cohort : MerkleCohort h) (rows : List (CohortProofRow D)), ∃ roots proofs,
      (leavesOf db pool id).length = count.toNat ∧ minimum ≤ count ∧
      MerkleCohort.build h (leavesOf db pool id) = .ok cohort ∧ cohort.root = .ok root ∧
      roots.rows = db.cohortRoots.rows ++ [⟨pool, id, root, count.toNat⟩] ∧
      proofs.rows = db.cohortProofs.rows ++ rows ∧
      ProofRows cohort pool roundId id (leavesOf db pool id) rows ∧
      db' = { db with
        cohortRoots := roots
        cohortProofs := proofs
        immutableEvents :=
          db.immutableEvents ++ [rootEvent ⟨pool, id, root, count.toNat⟩] } := by
  simp only [sealTickets, Sessions.bind_eq_ok, lift_eq_ok, query_eq_ok, Except.ok.injEq,
    failIf_eq_ok, mapError_eq_ok, execute_eq_ok, Database.insertRoot, Fallible.bind_eq_ok,
    insertInto_eq_ok, Fallible.pure_eq_ok, Sessions.pure_eq_ok, Prod.mk.injEq] at hseal
  rcases hseal with ⟨id', _, ⟨hid', rfl⟩, _, _, ⟨rfl, rfl⟩, _, _, ⟨hfits, rfl⟩, _, _,
    ⟨hminimum, rfl⟩, cohort, _, ⟨hbuild, rfl⟩, _, _, ⟨hroot, rfl⟩, _, _, ⟨roots, hinsert, rfl⟩,
    _, _, hloop, _, _, hevent, ⟨rfl, rfl⟩, rfl⟩
  rw [hid] at hid'
  cases hid'
  rcases persistProofs_eq_ok hid hloop with ⟨proofs, rows, hproofs, hrows, rfl⟩
  have hcount : (UInt32.ofNat (leavesOf db pool id).length).toNat = (leavesOf db pool id).length :=
    UInt32.toNat_ofNat_of_lt' (Nat.lt_of_not_le hfits)
  exact ⟨cohort, rows, roots, proofs, hcount.symm, UInt32.not_lt.mp hminimum, hbuild, hroot,
    (Table.insert_eq_some.mp hinsert).2, hproofs, hrows, event_eq_ok hid hevent⟩

end Store

/-! ## The effects of the calls -/

namespace StoreCall

/-- What a call that succeeds does. -/
theorem storeStep_of_ok {h : Blake3 D} {call : StoreCall D} {db db' : Database D}
    {reply : StoreReply D} (hcall : call.perform h db = (.ok reply, db')) :
    StoreStep h call (.ok reply) db db' := by
  cases call with
  | reopen =>
      simp only [perform, Store.migrate, Sessions.bind_eq_ok, transaction_eq_ok,
        Store.execute_eq_ok, Database.insertMigration, Except.ok.injEq,
        Sessions.pure_eq_ok] at hcall
      rcases hcall with ⟨_, _, rfl, rfl, rfl⟩
      exact .reopened
  | insertPool pool =>
      simp only [perform, Store.insertPool, Sessions.bind_eq_ok, transaction_eq_ok,
        Store.execute_eq_ok, Database.insertPool, Database.insertSnapshot, Fallible.bind_eq_ok,
        Fallible.pure_eq_ok, Except.ok.injEq, Sessions.pure_eq_ok] at hcall
      rcases hcall with ⟨_, _, ⟨_, _, ⟨pools, _, rfl⟩, rfl⟩, rfl, rfl⟩
      exact .poolInserted
  | putRound round =>
      simp only [perform, Store.putRound, Sessions.bind_eq_ok, lift_eq_ok, Store.execute_eq_ok,
        Database.upsertRound, Fallible.bind_eq_ok, Fallible.pure_eq_ok,
        Sessions.pure_eq_ok] at hcall
      rcases hcall with ⟨_, _, ⟨id, _, ⟨_, rfl⟩, _, _, rfl⟩, rfl, rfl⟩
      exact .roundPut
  | acceptTicket ticket =>
      simp only [perform, Sessions.bind_eq_ok, Sessions.pure_eq_ok] at hcall
      rcases hcall with ⟨commitment, _, haccept, rfl, rfl⟩
      rcases Store.acceptTicket_eq_ok haccept with ⟨rfl, id, tickets, hid, hinsert, rfl⟩
      exact .ticketAccepted hid hinsert
  | sealCohort pool roundId minimum =>
      simp only [perform, Store.sealCohort, Sessions.bind_eq_ok, Sessions.pure_eq_ok] at hcall
      rcases hcall with ⟨⟨root, count⟩, _, ⟨existing, _, hread, hseal⟩, rfl, rfl⟩
      cases existing with
      | some found =>
          rcases Store.root_eq_some hread with ⟨rfl, row, hrow, hpool, hid, hroot, hcount⟩
          simp only [Sessions.pure_eq_ok] at hseal
          rcases hseal with ⟨rfl, rfl⟩
          rw [← hroot]
          exact .sealedBefore hrow hpool hid hcount
      | none =>
          rcases Store.root_eq_none hread with ⟨rfl, id, hid, hfresh⟩
          rw [transaction_eq_ok] at hseal
          rcases Store.sealTickets_eq_ok hid hseal with ⟨cohort, rows, roots, proofs, hcount,
            hminimum, hbuild, hroot, hroots, hproofs, hrows, rfl⟩
          exact .cohortSealed hid hfresh hcount hminimum hbuild hroot hroots hproofs hrows
  | scheduleRelease pool roundId release finish =>
      simp only [perform, Store.scheduleRelease, Sessions.bind_eq_ok, Sessions.pure_eq_ok] at hcall
      rcases hcall with ⟨_, _, ⟨existing, _, hread, hschedule⟩, rfl, rfl⟩
      cases existing with
      | some found =>
          rcases Store.schedule_eq_some hread with ⟨rfl, row, hrow, hpool, hid, hrelease, hfinish⟩
          simp only [lift_eq_ok, failIf_eq_ok, ne_eq, not_not] at hschedule
          rcases hschedule with ⟨rfl, rfl⟩
          exact .scheduledBefore hrow hpool hid hrelease hfinish
      | none =>
          rcases Store.schedule_eq_none hread with ⟨rfl, id, hid, hfresh⟩
          simp only [Sessions.bind_eq_ok, lift_eq_ok, Store.execute_eq_ok,
            Database.insertSchedule, Fallible.bind_eq_ok, insertInto_eq_ok,
            Fallible.pure_eq_ok] at hschedule
          rcases hschedule with ⟨id', _, ⟨hid', rfl⟩, releaseSlot, _, ⟨hrelease, rfl⟩,
            windowEndSlot, _, ⟨hfinish, rfl⟩, schedules, hinsert, rfl⟩
          rw [hid] at hid'
          cases hid'
          exact .releaseScheduled hid hrelease hfinish hfresh (Table.insert_eq_some.mp hinsert).2

/-- Every call has one of the listed effects. -/
theorem storeStep_perform (h : Blake3 D) (call : StoreCall D) (db : Database D) :
    StoreStep h call (call.perform h db).1 db (call.perform h db).2 := by
  rcases hcall : call.perform h db with ⟨error | reply, db'⟩
  · rw [call.atomic_perform h db error db' hcall]
    exact .failed
  · exact storeStep_of_ok hcall

end StoreCall

end MirrorPool
