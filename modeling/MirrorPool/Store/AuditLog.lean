import MirrorPool.Store.History

/-!
# The audit log

A call that fails leaves no trace, whatever it had written before it stopped.
The events of accepted tickets and of sealed cohorts are therefore those of the
rows in the two tables, in the order in which the rows were written.

Main results:

- Definition {lit}`AuditExact`: the events of the two kinds are those of the
  rows.
- Theorem {lit}`StoreCall.logged_perform`: every call writes its rows together
  with their events.
- Theorem {lit}`store_atomic_and_audited`: failed calls change nothing, and the
  log is exact after every history.
-/

namespace MirrorPool

open Fallible Sessions Tables

variable {D : Type} [LinearOrder D] {h : Blake3 D}

/-- The events of one kind, in the order in which they were written. -/
def eventsOf (kind : String) (db : Database D) : List (ImmutableEventRow D) :=
  db.immutableEvents.filter fun event => event.eventType = kind

/-- The events of the two kinds are those of the rows. -/
structure AuditExact (db : Database D) : Prop where
  tickets : eventsOf "ticket_accepted" db = db.joinTickets.rows.map ticketEvent
  cohorts : eventsOf "cohort_sealed" db = db.cohortRoots.rows.map rootEvent

/-- The second database has some more tickets and roots than the first one, and
their events. -/
def Logged (db db' : Database D) : Prop :=
  ∃ tickets roots, db'.joinTickets.rows = db.joinTickets.rows ++ tickets ∧
    db'.cohortRoots.rows = db.cohortRoots.rows ++ roots ∧
    db'.immutableEvents =
      db.immutableEvents ++ (tickets.map ticketEvent ++ roots.map rootEvent)

omit [LinearOrder D] in
/-- Tables and events that are left alone. -/
theorem Logged.of_eq {db db' : Database D} (htickets : db'.joinTickets = db.joinTickets)
    (hroots : db'.cohortRoots = db.cohortRoots)
    (hevents : db'.immutableEvents = db.immutableEvents) : Logged db db' :=
  ⟨[], [], by simp [htickets], by simp [hroots], by simp [hevents]⟩

omit [LinearOrder D] in
/-- Rows written together with their events keep the log exact. -/
theorem Logged.auditExact {db db' : Database D} (hlogged : Logged db db')
    (hexact : AuditExact db) : AuditExact db' := by
  rcases hlogged with ⟨tickets, roots, htickets, hroots, hevents⟩
  have hticket : ∀ row : JoinTicketRow D, (ticketEvent row).eventType = "ticket_accepted" :=
    fun _ => rfl
  have hroot : ∀ row : CohortRootRow D, (rootEvent row).eventType = "cohort_sealed" :=
    fun _ => rfl
  constructor
  · have hnew : (tickets.map ticketEvent ++ roots.map rootEvent).filter
        (fun event => event.eventType = "ticket_accepted") = tickets.map ticketEvent := by
      simp [List.filter_append, List.filter_map, Function.comp_def, hticket, hroot]
    rw [htickets, List.map_append, ← hexact.tickets, eventsOf, hevents, List.filter_append, hnew]
    rfl
  · have hnew : (tickets.map ticketEvent ++ roots.map rootEvent).filter
        (fun event => event.eventType = "cohort_sealed") = roots.map rootEvent := by
      simp [List.filter_append, List.filter_map, Function.comp_def, hticket, hroot]
    rw [hroots, List.map_append, ← hexact.cohorts, eventsOf, hevents, List.filter_append, hnew]
    rfl

/-! ## Calls -/

/-- An accepted ticket is written with its event. -/
theorem logged_acceptTicket {ticket : JoinTicket D} {db db' : Database D} {commitment : D}
    (haccept : Store.acceptTicket h ticket db = (.ok commitment, db')) : Logged db db' := by
  rcases Store.acceptTicket_eq_ok haccept with ⟨-, id, tickets, -, hinsert, rfl⟩
  have hrows := (Table.insert_eq_some.mp hinsert).2
  exact ⟨[ticketRow h ticket id], [], hrows, by simp, by simp⟩

/-- A sealing writes a root with its event, or it finds one. -/
theorem logged_sealCohort {pool : D} {roundId : UInt64} {minimum : UInt32} {db db' : Database D}
    {reply : D × UInt32}
    (hseal : Store.sealCohort h pool roundId minimum db = (.ok reply, db')) : Logged db db' := by
  simp only [Store.sealCohort, Sessions.bind_eq_ok] at hseal
  rcases hseal with ⟨existing, _, hread, hseal⟩
  cases existing with
  | some found =>
      rcases Store.root_eq_some hread with ⟨rfl, -⟩
      simp only [Sessions.pure_eq_ok] at hseal
      rcases hseal with ⟨-, rfl⟩
      exact .of_eq rfl rfl rfl
  | none =>
      rcases Store.root_eq_none hread with ⟨rfl, id, hid, -⟩
      rw [transaction_eq_ok] at hseal
      rcases Store.sealTickets_eq_ok hid hseal with
        ⟨cohort, rows, roots, proofs, -, -, -, -, hroots, -, -, rfl⟩
      exact ⟨[], [⟨pool, id, reply.1, reply.2.toNat⟩], by simp, hroots, by simp⟩

/-- The other successful calls leave the two tables and the events alone. -/
theorem StoreStep.tables_eq {call : StoreCall D} {db db' : Database D}
    (hstep : StoreStep h call (.ok .stored) db db') :
    db'.joinTickets = db.joinTickets ∧ db'.cohortRoots = db.cohortRoots ∧
      db'.immutableEvents = db.immutableEvents := by
  cases hstep with
  | _ => exact ⟨rfl, rfl, rfl⟩

/-- Every call writes its rows together with their events. -/
theorem StoreCall.logged_perform (h : Blake3 D) (call : StoreCall D) (db : Database D) :
    Logged db (call.perform h db).2 := by
  rcases hcall : call.perform h db with ⟨error | reply, db'⟩
  · rw [call.atomic_perform h db error db' hcall]
    exact .of_eq rfl rfl rfl
  · cases call with
    | acceptTicket ticket =>
        simp only [perform, Sessions.bind_eq_ok, Sessions.pure_eq_ok] at hcall
        rcases hcall with ⟨commitment, _, haccept, -, rfl⟩
        exact logged_acceptTicket haccept
    | sealCohort pool roundId minimum =>
        simp only [perform, Sessions.bind_eq_ok, Sessions.pure_eq_ok] at hcall
        rcases hcall with ⟨⟨root, count⟩, _, hseal, -, rfl⟩
        exact logged_sealCohort hseal
    | _ =>
        have hstored : reply = .stored := by
          simp only [perform, Sessions.bind_eq_ok, Sessions.pure_eq_ok] at hcall
          rcases hcall with ⟨_, _, _, rfl, _⟩
          rfl
        subst hstored
        rcases (storeStep_of_ok hcall).tables_eq with ⟨htickets, hroots, hevents⟩
        exact .of_eq htickets hroots hevents

/-- In every history a call that fails leaves every table as it was, and at its
end the events of accepted tickets and of sealed cohorts are those of the rows. -/
theorem store_atomic_and_audited (h : Blake3 D) (calls : List (StoreCall D)) :
    (∀ v ∈ storeHistory h calls, ∀ error, v.reply h = .error error → v.after = v.before) ∧
      AuditExact (storeAfter h calls) := by
  constructor
  · intro v hv error herror
    rw [Runs.after_of_mem_visits hv]
    exact v.input.atomic_perform h v.before error _ (Prod.ext herror rfl)
  · have hstart : AuditExact (Database.opened h) := ⟨rfl, rfl⟩
    have hkeep : ∀ v ∈ storeHistory h calls, AuditExact v.before → AuditExact v.after := by
      intro v hv hbefore
      rw [Runs.after_of_mem_visits hv]
      exact (v.input.logged_perform h v.before).auditExact hbefore
    exact (Runs.run_invariant AuditExact hstart hkeep).1

end MirrorPool
