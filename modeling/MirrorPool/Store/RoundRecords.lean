import MirrorPool.Library.Simulation
import MirrorPool.Store.History

/-!
# Pools and rounds in the store

A pool is stored once and never replaced; a round is stored in a pool that is
there, and replaced by whatever is put under its key later.  After every history
the store knows of a round what a record with two fields does: whether the pool
was stored, and the round that was put last since then.

Main results:

- Definition {lit}`RoundRecord.step`: what the calls do to such a record.
- Theorem {lit}`Records.perform`: the tables follow the record.
- Theorem {lit}`round_records_exact`: what is replied and read after every history.
-/

namespace MirrorPool

open Fallible Sessions Tables

variable {D : Type} [LinearOrder D]

/-! ## The record of a round -/

/-- Whether the pool of a round was stored, and the round that was put last. -/
structure RoundRecord (D : Type) where
  stored : Bool := false
  latest : Option (Round D) := none

namespace RoundRecord

/-- What a call does to the record of a round: a pool that is stored stays, and a
round is kept if its pool is there and its number fits a column. -/
def step (pool : D) (roundId : UInt64) (record : RoundRecord D) : StoreCall D → RoundRecord D
  | .insertPool config =>
      if config.poolId = pool then { record with stored := true } else record
  | .putRound round =>
      if record.stored ∧ round.roundId.toNat < 2 ^ 63 ∧ round.poolId = pool ∧
          round.roundId = roundId then
        { record with latest := some round }
      else record
  | _ => record

/-- The record after some calls. -/
def after (pool : D) (roundId : UInt64) (calls : List (StoreCall D)) : RoundRecord D :=
  Runs.run (step pool roundId) {} calls

/-- The reply to a pool. -/
def poolReply (record : RoundRecord D) : Except StoreError (StoreReply D) :=
  if record.stored then .error (.sqlite .constraintViolation) else .ok .stored

/-- The reply to a round under a number. -/
def roundReply (roundId : UInt64) (record : RoundRecord D) :
    Except StoreError (StoreReply D) :=
  if 2 ^ 63 ≤ roundId.toNat then .error .countOverflow
  else if record.stored then .ok .stored
  else .error (.sqlite .constraintViolation)

end RoundRecord

/-! ## Tables that hold a record -/

/-- The row of a round that was put. -/
def roundRow (round : Round D) : RoundRow D where
  poolId := round.poolId
  roundId := round.roundId.toNat
  roundJson := round
  state := round.state.debugName.toLower

/-- The tables of pools and rounds hold a record. -/
structure Records (pool : D) (roundId : UInt64) (db : Database D) (record : RoundRecord D) :
    Prop where
  stored : record.stored = true ↔ ∃ row ∈ db.pools.rows, row.poolId = pool
  latest : (db.rounds.select fun row => row.poolId = pool ∧ row.roundId = roundId.toNat).map
    RoundRow.roundJson = record.latest.toList

section Calls

variable {h : Blake3 D} {pool : D} {roundId : UInt64} {db db' : Database D}
variable {record : RoundRecord D}

/-- The other calls leave pools and rounds alone. -/
theorem StoreStep.records_eq {call : StoreCall D} {reply : Except StoreError (StoreReply D)}
    (hstep : StoreStep h call reply db db') (hpool : ∀ config, call ≠ .insertPool config)
    (hround : ∀ round, call ≠ .putRound round) :
    db'.pools = db.pools ∧ db'.rounds = db.rounds := by
  cases hstep with
  | poolInserted => exact absurd rfl (hpool _)
  | roundPut => exact absurd rfl (hround _)
  | _ => exact ⟨rfl, rfl⟩

/-- A pool that is there is not stored again. -/
theorem perform_insertPool_of_mem {config : PoolConfig D}
    (hstored : ∃ row ∈ db.pools.rows, row.poolId = config.poolId) :
    (StoreCall.insertPool config).perform h db =
      (.error (.sqlite .constraintViolation), db) := by
  have hinsert : db.pools.insert ⟨config.poolId, config⟩ = none := by
    rcases hstored with ⟨row, hrow, hsame⟩
    unfold Table.insert
    exact dif_neg fun hfree => hfree row hrow hsame
  have hwrite : Database.insertPool ⟨config.poolId, config⟩ db = .error .constraintViolation := by
    rw [Database.insertPool, Database.insertInto, hinsert]
    rfl
  have hexecute : Store.execute (Database.insertPool ⟨config.poolId, config⟩) db =
      (.error (.sqlite .constraintViolation), db) :=
    statement_of_eq_error (by rw [hwrite]; rfl)
  rw [StoreCall.perform, Store.insertPool]
  exact bind_of_eq_error (transaction_of_eq_error (bind_of_eq_error hexecute))

/-- A new pool is added to the table. -/
theorem perform_insertPool_of_not_mem {config : PoolConfig D}
    (hnew : ∀ row ∈ db.pools.rows, row.poolId ≠ config.poolId) :
    ∃ db', (StoreCall.insertPool config).perform h db = (.ok .stored, db') ∧
      db'.pools.rows = db.pools.rows ++ [⟨config.poolId, config⟩] ∧ db'.rounds = db.rounds := by
  have hfree : ∀ earlier ∈ db.pools.rows,
      ¬SameKey PoolRow.poolId earlier ⟨config.poolId, config⟩ := hnew
  rcases Table.exists_insert hfree with ⟨pools, hinsert⟩
  have hwrite : Store.execute (Database.insertPool ⟨config.poolId, config⟩) db =
      (.ok (), { db with pools }) := by
    rw [Store.execute_eq_ok, Database.insertPool, Database.insertInto, hinsert]
    rfl
  have hrun : Store.insertPool config db = (.ok (), { db with
      pools := pools
      configurationSnapshots := db.configurationSnapshots.insertOrIgnore
        ⟨config.configurationHash, config⟩ }) := by
    rw [Store.insertPool, transaction_eq_ok, bind_of_eq_ok hwrite, Store.execute_eq_ok]
    rfl
  have hcall : (StoreCall.insertPool config).perform h db = (.ok .stored, { db with
      pools := pools
      configurationSnapshots := db.configurationSnapshots.insertOrIgnore
        ⟨config.configurationHash, config⟩ }) := by
    rw [StoreCall.perform, bind_of_eq_ok hrun]
    rfl
  exact ⟨_, hcall, (Table.insert_eq_some.mp hinsert).2, rfl⟩

/-- What putting a round replies and writes. -/
theorem perform_putRound (round : Round D) :
    (StoreCall.putRound round).perform h db =
      if 2 ^ 63 ≤ round.roundId.toNat then (.error .countOverflow, db)
      else if ∃ row ∈ db.pools.rows, row.poolId = round.poolId then
        (.ok .stored, { db with rounds := db.rounds.upsert (roundRow round) })
      else (.error (.sqlite .constraintViolation), db) := by
  split
  · rename_i hlarge
    have hid : asI64 round.roundId = .error .countOverflow := by
      rw [asI64, if_neg (by omega)]
    rw [StoreCall.perform, Store.putRound]
    exact bind_of_eq_error (bind_of_eq_error (lift_of_eq_error hid))
  · rename_i hfits
    have hid : asI64 round.roundId = .ok (round.roundId.toNat : Int) :=
      asI64_eq_ok.mpr ⟨by omega, rfl⟩
    have hput : Store.putRound round db =
        Store.execute (Database.upsertRound (roundRow round)) db :=
      bind_of_eq_ok (lift_eq_ok.mpr ⟨hid, rfl⟩)
    rw [StoreCall.perform]
    split
    · rename_i hstored
      have hpresent : ¬∀ row ∈ db.pools.rows, row.poolId ≠ round.poolId := by
        rcases hstored with ⟨row, hrow, hsame⟩
        exact fun hmissing => hmissing row hrow hsame
      have hrun : Store.putRound round db =
          (.ok (), { db with rounds := db.rounds.upsert (roundRow round) }) := by
        rw [hput, Store.execute_eq_ok, Database.upsertRound, failIf, roundRow, if_neg hpresent]
        rfl
      rw [bind_of_eq_ok hrun]
      rfl
    · rename_i hstored
      have hmissing : ∀ row ∈ db.pools.rows, row.poolId ≠ round.poolId :=
        fun row hrow hsame => hstored ⟨row, hrow, hsame⟩
      have hrun : Store.putRound round db = (.error (.sqlite .constraintViolation), db) := by
        rw [hput]
        refine statement_of_eq_error ?_
        rw [Database.upsertRound, failIf, roundRow, if_pos hmissing]
        rfl
      rw [bind_of_eq_error hrun]

/-- The rows of a round after one was put. -/
theorem select_upsert_roundRow (db : Database D) (round : Round D) :
    ((db.rounds.upsert (roundRow round)).select fun row =>
        row.poolId = pool ∧ row.roundId = roundId.toNat) =
      if round.poolId = pool ∧ round.roundId = roundId then [roundRow round]
      else db.rounds.select fun row => row.poolId = pool ∧ row.roundId = roundId.toNat := by
  have hkey : ((round.poolId, (round.roundId.toNat : Int)) = (pool, (roundId.toNat : Int))) ↔
      round.poolId = pool ∧ round.roundId = roundId := by
    rw [Prod.mk.injEq, Int.natCast_inj, UInt64.toNat_inj]
  rw [Table.select_upsert (k := (pool, (roundId.toNat : Int))) db.rounds (roundRow round)
    (by simp)]
  simp only [roundRow, hkey]

/-- A pool that is stored makes the record follow. -/
theorem Records.insertPool (hrec : Records pool roundId db record) (config : PoolConfig D) :
    Records pool roundId (storeStep h db (.insertPool config))
      (record.step pool roundId (.insertPool config)) := by
  by_cases hstored : ∃ row ∈ db.pools.rows, row.poolId = config.poolId
  · rw [storeStep, perform_insertPool_of_mem hstored, RoundRecord.step]
    split
    · rename_i hpool
      exact ⟨iff_of_true rfl (hpool ▸ hstored), hrec.latest⟩
    · exact hrec
  · have hnew : ∀ row ∈ db.pools.rows, row.poolId ≠ config.poolId :=
      fun row hrow hsame => hstored ⟨row, hrow, hsame⟩
    rcases perform_insertPool_of_not_mem (h := h) hnew with ⟨db', hrun, hpools, hrounds⟩
    rw [storeStep, hrun, RoundRecord.step]
    split
    · rename_i hpool
      refine ⟨iff_of_true rfl ⟨⟨config.poolId, config⟩, by simp [hpools], hpool⟩, ?_⟩
      rw [hrounds]
      exact hrec.latest
    · rename_i hpool
      refine ⟨?_, ?_⟩
      · rw [hrec.stored, hpools]
        simp [hpool]
      · rw [hrounds]
        exact hrec.latest

/-- A round that is put makes the record follow. -/
theorem Records.putRound (hrec : Records pool roundId db record) (round : Round D) :
    Records pool roundId (storeStep h db (.putRound round))
      (record.step pool roundId (.putRound round)) := by
  rw [storeStep, perform_putRound, RoundRecord.step]
  by_cases hlarge : 2 ^ 63 ≤ round.roundId.toNat
  · rw [if_pos hlarge, if_neg (by omega)]
    exact hrec
  · rw [if_neg hlarge]
    by_cases hstored : ∃ row ∈ db.pools.rows, row.poolId = round.poolId
    · rw [if_pos hstored]
      by_cases hkey : round.poolId = pool ∧ round.roundId = roundId
      · have hpresent : record.stored = true := hrec.stored.mpr (hkey.1 ▸ hstored)
        rw [if_pos ⟨hpresent, by omega, hkey⟩]
        refine ⟨hrec.stored, ?_⟩
        rw [select_upsert_roundRow, if_pos hkey]
        rfl
      · rw [if_neg fun hkept => hkey hkept.2.2]
        refine ⟨hrec.stored, ?_⟩
        rw [select_upsert_roundRow, if_neg hkey]
        exact hrec.latest
    · have hskipped : ¬(record.stored = true ∧ round.roundId.toNat < 2 ^ 63 ∧
          round.poolId = pool ∧ round.roundId = roundId) := by
        rintro ⟨hpresent, -, rfl, -⟩
        exact hstored (hrec.stored.mp hpresent)
      rw [if_neg hstored, if_neg hskipped]
      exact hrec

/-- The tables follow the record in every call. -/
theorem Records.perform (hrec : Records pool roundId db record) (call : StoreCall D) :
    Records pool roundId (storeStep h db call) (record.step pool roundId call) := by
  have hother (hpool : ∀ config, call ≠ .insertPool config)
      (hround : ∀ round, call ≠ .putRound round) :
      Records pool roundId (storeStep h db call) record := by
    rcases (call.storeStep_perform h db).records_eq hpool hround with ⟨hpools, hrounds⟩
    refine ⟨?_, ?_⟩
    · rw [storeStep, hpools]
      exact hrec.stored
    · rw [storeStep, hrounds]
      exact hrec.latest
  cases call with
  | insertPool config => exact hrec.insertPool config
  | putRound round => exact hrec.putRound round
  | _ => exact hother (by simp) (by simp)

/-- The round that is read is the latest one. -/
theorem Records.round_eq (hrec : Records pool roundId db record) :
    (Store.round pool roundId db).1 =
      if 2 ^ 63 ≤ roundId.toNat then .error .countOverflow else .ok record.latest := by
  split
  · rename_i hlarge
    have hid : asI64 roundId = .error .countOverflow := by
      rw [asI64, if_neg (by omega)]
    rw [Store.round, bind_of_eq_error (lift_of_eq_error hid)]
  · rename_i hfits
    have hid : asI64 roundId = .ok (roundId.toNat : Int) := asI64_eq_ok.mpr ⟨by omega, rfl⟩
    rw [Store.round, bind_of_eq_ok (lift_eq_ok.mpr ⟨hid, rfl⟩), query, ← Table.head?_select,
      ← List.head?_map, hrec.latest]
    cases record.latest <;> rfl

/-- A pool is stored exactly if it was not stored before. -/
theorem Records.insertPool_eq (hrec : Records pool roundId db record) {config : PoolConfig D}
    (hpool : config.poolId = pool) :
    ((StoreCall.insertPool config).perform h db).1 = record.poolReply := by
  subst hpool
  rw [RoundRecord.poolReply]
  split
  · rename_i hstored
    rw [perform_insertPool_of_mem (hrec.stored.mp hstored)]
  · rename_i hstored
    have hnew : ∀ row ∈ db.pools.rows, row.poolId ≠ config.poolId :=
      fun row hrow hsame => hstored (hrec.stored.mpr ⟨row, hrow, hsame⟩)
    rcases perform_insertPool_of_not_mem (h := h) hnew with ⟨db', hrun, -⟩
    rw [hrun]

/-- A round is put exactly if its number fits a column and its pool was stored. -/
theorem Records.putRound_eq {round : Round D} (hrec : Records round.poolId roundId db record) :
    ((StoreCall.putRound round).perform h db).1 = record.roundReply round.roundId := by
  rw [perform_putRound, RoundRecord.roundReply]
  simp only [hrec.stored]
  split
  · rfl
  · split <;> rfl

end Calls

/-! ## Histories -/

/-- After every history the tables hold the record. -/
theorem records_after (h : Blake3 D) (pool : D) (roundId : UInt64) (calls : List (StoreCall D)) :
    Records pool roundId (storeAfter h calls) (RoundRecord.after pool roundId calls) := by
  have hpools : (Database.opened h).pools.rows = [] := rfl
  have hopened : Records pool roundId (Database.opened h) {} := ⟨by simp [hpools], rfl⟩
  have hsim : Runs.Simulates (Records pool roundId)
      (fun db call => ((), storeStep h db call))
      (fun record call => ((), record.step pool roundId call)) :=
    { answer := fun _ _ _ _ => rfl
      next := fun _ _ call hrec => hrec.perform call }
  exact hsim.run hopened calls

/-- After every history the round that is read is the one that was put last since its
pool was stored; a pool is stored exactly if it was not stored before, and a round is
put exactly if its number fits a column and its pool was stored. -/
theorem round_records_exact (h : Blake3 D) (calls : List (StoreCall D)) :
    (∀ pool roundId, (Store.round pool roundId (storeAfter h calls)).1 =
      if 2 ^ 63 ≤ roundId.toNat then .error .countOverflow
      else .ok (RoundRecord.after pool roundId calls).latest) ∧
    (∀ config roundId, ((StoreCall.insertPool config).perform h (storeAfter h calls)).1 =
      (RoundRecord.after config.poolId roundId calls).poolReply) ∧
    ∀ round, ((StoreCall.putRound round).perform h (storeAfter h calls)).1 =
      (RoundRecord.after round.poolId round.roundId calls).roundReply round.roundId := by
  refine ⟨fun pool roundId => ?_, fun config roundId => ?_, fun round => ?_⟩
  · exact (records_after h pool roundId calls).round_eq
  · exact (records_after h config.poolId roundId calls).insertPool_eq rfl
  · exact (records_after h round.poolId round.roundId calls).putRound_eq

end MirrorPool
