import MirrorPool.Library.Runs
import MirrorPool.Store.StepRules

/-!
# Histories of the store

A history is the list of all calls of the store with the databases around them,
from a newly opened database.  Rows of tickets, roots, proofs and schedules are
never changed or removed, and every one of them was written by a call of the
history.

Main results:

- Theorem {lit}`StoreStep.grows`: a call keeps the rows of the sealed cohorts.
- Theorem {lit}`ticket_accepted`: every ticket row was accepted by a call.
- Theorem {lit}`root_sealed`: every root row was written by a sealing call.
- Theorem {lit}`schedule_written`: every schedule row holds two words.
- Theorem {lit}`proofs_rooted`: every proof belongs to a root.
-/

namespace MirrorPool

open Sessions Tables

variable {D : Type} [LinearOrder D]

/-- The database after a call. -/
def storeStep (h : Blake3 D) (db : Database D) (call : StoreCall D) : Database D :=
  (call.perform h db).2

/-- A newly opened database. -/
def Database.opened (h : Blake3 D) : Database D :=
  storeStep h {} .reopen

/-- One call with the databases on its two sides. -/
abbrev StoreVisit (D : Type) := Runs.Visit (Database D) (StoreCall D)

/-- The reply of a call. -/
def StoreVisit.reply (h : Blake3 D) (v : StoreVisit D) : Except StoreError (StoreReply D) :=
  (v.input.perform h v.before).1

/-- All calls in order. -/
abbrev storeHistory (h : Blake3 D) (calls : List (StoreCall D)) : List (StoreVisit D) :=
  Runs.visits (storeStep h) (Database.opened h) calls

/-- The database at the end. -/
abbrev storeAfter (h : Blake3 D) (calls : List (StoreCall D)) : Database D :=
  Runs.run (storeStep h) (Database.opened h) calls

/-- The proof rows of a round. -/
def proofsOf (db : Database D) (pool : D) (id : Int) : List (CohortProofRow D) :=
  db.cohortProofs.select fun row => row.poolId = pool ∧ row.roundId = id

variable {h : Blake3 D} {db db' : Database D} {calls : List (StoreCall D)}

/-- A visit has one of the effects of its call. -/
theorem storeStep_of_mem_visits {v : StoreVisit D} {start : Database D}
    (hv : v ∈ Runs.visits (storeStep h) start calls) :
    StoreStep h v.input (v.reply h) v.before v.after := by
  rw [Runs.after_of_mem_visits hv]
  exact v.input.storeStep_perform h v.before

/-! The opened database has no tickets, cohorts and schedules. -/

@[simp] theorem opened_joinTickets (h : Blake3 D) : (Database.opened h).joinTickets.rows = [] :=
  rfl

@[simp] theorem opened_cohortRoots (h : Blake3 D) : (Database.opened h).cohortRoots.rows = [] :=
  rfl

@[simp] theorem opened_cohortProofs (h : Blake3 D) : (Database.opened h).cohortProofs.rows = [] :=
  rfl

@[simp] theorem opened_releaseSchedules (h : Blake3 D) :
    (Database.opened h).releaseSchedules.rows = [] :=
  rfl

theorem storeAfter_append (h : Blake3 D) (earlier later : List (StoreCall D)) :
    storeAfter h (earlier ++ later) = Runs.run (storeStep h) (storeAfter h earlier) later :=
  Runs.run_append ..

/-- A visit splits the calls at its own call. -/
theorem mem_storeHistory {v : StoreVisit D} :
    v ∈ storeHistory h calls ↔ ∃ earlier later, calls = earlier ++ v.input :: later ∧
      v.before = storeAfter h earlier ∧ v.after = storeStep h v.before v.input :=
  Runs.mem_visits

/-- The visits of a longer history include those of a shorter one. -/
theorem storeHistory_append_subset {v : StoreVisit D} (hv : v ∈ storeHistory h calls)
    (later : List (StoreCall D)) : v ∈ storeHistory h (calls ++ later) := by
  rw [storeHistory, Runs.visits_append]
  exact List.mem_append_left _ hv

/-! ## Rows stay -/

/-- A call keeps the proofs of a round with a root. -/
theorem StoreStep.proofsOf_eq {call : StoreCall D} {reply : Except StoreError (StoreReply D)}
    (hstep : StoreStep h call reply db db') {root : CohortRootRow D}
    (hroot : root ∈ db.cohortRoots.rows) :
    proofsOf db' root.poolId root.roundId = proofsOf db root.poolId root.roundId := by
  cases hstep with
  | @cohortSealed pool _ _ _ id _ _ _ _ _ _ rows _ hfresh _ _ _ _ _ hproofs hrows =>
      -- the new proofs belong to a round that had no root
      have hnone : rows.filter (fun row => row.poolId = root.poolId ∧ row.roundId = root.roundId) =
          [] := by
        rw [List.filter_eq_nil_iff]
        intro row hrow hkey
        rcases hrows.keys row hrow with ⟨hpool, hid⟩
        simp only [decide_eq_true_eq, hpool, hid] at hkey
        exact hfresh root hroot ⟨hkey.1.symm, hkey.2.symm⟩
      simp only [proofsOf, Table.select, hproofs, List.filter_append, hnone, List.append_nil]
  | _ => rfl

/-- The rows of the first database are rows of the second one. -/
structure Grows (db db' : Database D) : Prop where
  tickets : db.joinTickets.rows ⊆ db'.joinTickets.rows
  roots : db.cohortRoots.rows ⊆ db'.cohortRoots.rows
  proofs : db.cohortProofs.rows ⊆ db'.cohortProofs.rows
  schedules : db.releaseSchedules.rows ⊆ db'.releaseSchedules.rows

omit [LinearOrder D] in
theorem Grows.refl (db : Database D) : Grows db db :=
  ⟨List.Subset.refl _, List.Subset.refl _, List.Subset.refl _, List.Subset.refl _⟩

omit [LinearOrder D] in
theorem Grows.trans {db₁ db₂ db₃ : Database D} (hfirst : Grows db₁ db₂)
    (hsecond : Grows db₂ db₃) : Grows db₁ db₃ :=
  ⟨List.Subset.trans hfirst.tickets hsecond.tickets, List.Subset.trans hfirst.roots hsecond.roots,
    List.Subset.trans hfirst.proofs hsecond.proofs,
    List.Subset.trans hfirst.schedules hsecond.schedules⟩

/-- A call removes no rows. -/
theorem StoreStep.grows {call : StoreCall D} {reply : Except StoreError (StoreReply D)}
    (hstep : StoreStep h call reply db db') : Grows db db' := by
  cases hstep with
  | ticketAccepted _ hinsert =>
      refine ⟨?_, List.Subset.refl _, List.Subset.refl _, List.Subset.refl _⟩
      simp [(Table.insert_eq_some.mp hinsert).2]
  | cohortSealed _ _ _ _ _ _ hroots hproofs _ =>
      refine ⟨List.Subset.refl _, ?_, ?_, List.Subset.refl _⟩
      · simp [hroots]
      · simp [hproofs]
  | releaseScheduled _ _ _ _ hschedules =>
      refine ⟨List.Subset.refl _, List.Subset.refl _, List.Subset.refl _, ?_⟩
      simp [hschedules]
  | _ => exact ⟨List.Subset.refl _, List.Subset.refl _, List.Subset.refl _, List.Subset.refl _⟩

/-- A run removes no rows. -/
theorem grows_run (h : Blake3 D) (db : Database D) (calls : List (StoreCall D)) :
    Grows db (Runs.run (storeStep h) db calls) :=
  Runs.run_related Grows.refl (fun _ _ _ => Grows.trans)
    fun _ hv => (storeStep_of_mem_visits hv).grows

/-- A longer history has all rows of a shorter one. -/
theorem grows_append (h : Blake3 D) (calls later : List (StoreCall D)) :
    Grows (storeAfter h calls) (storeAfter h (calls ++ later)) := by
  rw [storeAfter_append]
  exact grows_run h (storeAfter h calls) later

/-- A run keeps the proofs of a round with a root. -/
theorem proofsOf_run {root : CohortRootRow D} (hroot : root ∈ db.cohortRoots.rows)
    (calls : List (StoreCall D)) :
    proofsOf (Runs.run (storeStep h) db calls) root.poolId root.roundId =
      proofsOf db root.poolId root.roundId := by
  let Inv : Database D → Prop := fun current =>
    root ∈ current.cohortRoots.rows ∧
      proofsOf current root.poolId root.roundId = proofsOf db root.poolId root.roundId
  have hkeep : ∀ v ∈ Runs.visits (storeStep h) db calls, Inv v.before → Inv v.after := by
    intro v hv hbefore
    have hstep := storeStep_of_mem_visits hv
    exact ⟨hstep.grows.roots hbefore.1, (hstep.proofsOf_eq hbefore.1).trans hbefore.2⟩
  exact (Runs.run_invariant Inv ⟨hroot, rfl⟩ hkeep).1.2

/-- Only an accepted ticket changes the tickets. -/
theorem StoreStep.joinTickets_eq {call : StoreCall D} {reply : Except StoreError (StoreReply D)}
    (hstep : StoreStep h call reply db db') (hreply : ∀ c, reply ≠ .ok (.accepted c)) :
    db'.joinTickets = db.joinTickets := by
  cases hstep with
  | ticketAccepted => exact absurd rfl (hreply _)
  | _ => rfl

/-! ## Rows were written -/

section NewRows

variable {call : StoreCall D} {reply : Except StoreError (StoreReply D)}

/-- A new ticket row is that of an accepted ticket. -/
theorem StoreStep.ticket_new (hstep : StoreStep h call reply db db') {row : JoinTicketRow D}
    (hold : row ∉ db.joinTickets.rows) (hnew : row ∈ db'.joinTickets.rows) :
    ∃ ticket id, call = .acceptTicket ticket ∧ reply = .ok (.accepted row.commitment) ∧
      asI64 ticket.roundId = .ok id ∧ row = ticketRow h ticket id := by
  cases hstep with
  | @ticketAccepted ticket _ id _ _ hid hinsert =>
      simp only [(Table.insert_eq_some.mp hinsert).2, List.mem_append, List.mem_singleton, hold,
        false_or] at hnew
      subst hnew
      exact ⟨ticket, id, rfl, rfl, hid, rfl⟩
  | _ => exact absurd hnew hold

/-- What a sealing call finds and writes. -/
structure Sealing (h : Blake3 D) (call : StoreCall D) (reply : Except StoreError (StoreReply D))
    (db db' : Database D) (row : CohortRootRow D) (roundId : UInt64) (minimum count : UInt32)
    (cohort : MerkleCohort h) (proofs : List (CohortProofRow D)) : Prop where
  call_eq : call = .sealCohort row.poolId roundId minimum
  reply_eq : reply = .ok (.sealed row.root count)
  fresh : ∀ other ∈ db.cohortRoots.rows,
    ¬(other.poolId = row.poolId ∧ other.roundId = row.roundId)
  roundId_eq : asI64 roundId = .ok row.roundId
  cohortSize_eq : row.cohortSize = count.toNat
  length_eq : (leavesOf db row.poolId row.roundId).length = count.toNat
  minimum_le : minimum ≤ count
  build_eq : MerkleCohort.build h (leavesOf db row.poolId row.roundId) = .ok cohort
  root_eq : cohort.root = .ok row.root
  proof_rows : ProofRows cohort row.poolId roundId row.roundId
    (leavesOf db row.poolId row.roundId) proofs
  proofs_eq : db'.cohortProofs.rows = db.cohortProofs.rows ++ proofs

/-- A new root row is written by a sealing call. -/
theorem StoreStep.root_new (hstep : StoreStep h call reply db db') {row : CohortRootRow D}
    (hold : row ∉ db.cohortRoots.rows) (hnew : row ∈ db'.cohortRoots.rows) :
    ∃ roundId minimum count cohort proofs,
      Sealing h call reply db db' row roundId minimum count cohort proofs := by
  cases hstep with
  | cohortSealed hid hfresh hcount hminimum hbuild hroot hroots hproofs hrows =>
      simp only [hroots, List.mem_append, List.mem_singleton, hold, false_or] at hnew
      subst hnew
      exact ⟨_, _, _, _, _, rfl, rfl, hfresh, hid, rfl, hcount, hminimum, hbuild, hroot, hrows,
        hproofs⟩
  | _ => exact absurd hnew hold

/-- A new schedule row holds two words. -/
theorem StoreStep.schedule_new (hstep : StoreStep h call reply db db')
    {row : ReleaseScheduleRow D} (hold : row ∉ db.releaseSchedules.rows)
    (hnew : row ∈ db'.releaseSchedules.rows) :
    ∃ release finish, asI64 release = .ok row.releaseSlot ∧
      asI64 finish = .ok row.windowEndSlot := by
  cases hstep with
  | releaseScheduled hid hrelease hfinish hfresh hschedules =>
      simp only [hschedules, List.mem_append, List.mem_singleton, hold, false_or] at hnew
      subst hnew
      exact ⟨_, _, hrelease, hfinish⟩
  | _ => exact absurd hnew hold

end NewRows

/-- Every ticket row was accepted by a call. -/
theorem ticket_accepted {row : JoinTicketRow D}
    (hrow : row ∈ (storeAfter h calls).joinTickets.rows) :
    ∃ v ∈ storeHistory h calls, ∃ ticket id, v.input = .acceptTicket ticket ∧
      v.reply h = .ok (.accepted row.commitment) ∧ asI64 ticket.roundId = .ok id ∧
      row = ticketRow h ticket id := by
  have hstart : row ∉ (Database.opened h).joinTickets.rows := by simp
  rcases Runs.exists_visit_turning (fun current : Database D => row ∈ current.joinTickets.rows)
    hstart hrow with ⟨v, hv, hbefore, hafter⟩
  exact ⟨v, hv, (storeStep_of_mem_visits hv).ticket_new hbefore hafter⟩

/-- Every root row was written by a sealing call. -/
theorem root_sealed {row : CohortRootRow D}
    (hrow : row ∈ (storeAfter h calls).cohortRoots.rows) :
    ∃ v ∈ storeHistory h calls, ∃ roundId minimum count cohort proofs,
      row ∈ v.after.cohortRoots.rows ∧
      Sealing h v.input (v.reply h) v.before v.after row roundId minimum count cohort proofs := by
  have hstart : row ∉ (Database.opened h).cohortRoots.rows := by simp
  rcases Runs.exists_visit_turning (fun current : Database D => row ∈ current.cohortRoots.rows)
    hstart hrow with ⟨v, hv, hbefore, hafter⟩
  rcases (storeStep_of_mem_visits hv).root_new hbefore hafter with
    ⟨roundId, minimum, count, cohort, proofs, hsealing⟩
  exact ⟨v, hv, roundId, minimum, count, cohort, proofs, hafter, hsealing⟩

/-- Every schedule row holds two words. -/
theorem schedule_written {row : ReleaseScheduleRow D}
    (hrow : row ∈ (storeAfter h calls).releaseSchedules.rows) :
    ∃ release finish, asI64 release = .ok row.releaseSlot ∧
      asI64 finish = .ok row.windowEndSlot := by
  have hstart : row ∉ (Database.opened h).releaseSchedules.rows := by simp
  rcases Runs.exists_visit_turning
    (fun current : Database D => row ∈ current.releaseSchedules.rows) hstart hrow with
    ⟨v, hv, hbefore, hafter⟩
  exact (storeStep_of_mem_visits hv).schedule_new hbefore hafter

/-- Every proof belongs to a round with a root. -/
def ProofsRooted (db : Database D) : Prop :=
  ∀ proof ∈ db.cohortProofs.rows, ∃ root ∈ db.cohortRoots.rows,
    root.poolId = proof.poolId ∧ root.roundId = proof.roundId

/-- A call writes proofs together with their root. -/
theorem StoreStep.proofsRooted {call : StoreCall D} {reply : Except StoreError (StoreReply D)}
    (hstep : StoreStep h call reply db db') (hrooted : ProofsRooted db) : ProofsRooted db' := by
  cases hstep with
  | cohortSealed _ _ _ _ _ _ hroots hproofs hrows =>
      intro proof hproof
      simp only [hproofs, List.mem_append] at hproof
      simp only [hroots, List.mem_append, List.mem_singleton]
      rcases hproof with hold | hnew
      · rcases hrooted proof hold with ⟨root, hroot, hkey⟩
        exact ⟨root, Or.inl hroot, hkey⟩
      · rcases hrows.keys proof hnew with ⟨hpool, hid⟩
        exact ⟨_, Or.inr rfl, hpool.symm, hid.symm⟩
  | _ => exact hrooted

/-- At every moment every proof belongs to a round with a root. -/
theorem proofs_rooted {v : StoreVisit D} (hv : v ∈ storeHistory h calls) :
    ProofsRooted v.before := by
  have hstart : ProofsRooted (Database.opened h) := by simp [ProofsRooted]
  exact ((Runs.run_invariant ProofsRooted hstart
    fun w hw hbefore => (storeStep_of_mem_visits hw).proofsRooted hbefore).2 v hv).1

end MirrorPool
