import MirrorPool.Coordinator.History
import MirrorPool.Store.SealedCohorts

/-!
# Tickets after the seal

The coordinator seals once, but it goes on to acknowledge tickets: neither the
submission nor the store asks whether the round has a root.  A ticket that comes
late is stored and counted, but it has no proof, and the published count is no
longer the number of acknowledged tickets.

Nothing else loses a ticket: without late admissions every acknowledged ticket
has a verifying proof as soon as some seal has succeeded.

Main results:

- Definition {lit}`NoTicketLost`: acknowledged tickets have proofs after a seal.
- Definition {lit}`LateAdmission`: an admissible ticket reaches the store of a
  sealed round.
- Theorem {lit}`no_ticket_lost_iff`: no ticket is lost at any moment exactly when
  there are no late admissions.
- Theorem {lit}`late_ticket_lost`: a late ticket that is lost.
-/

namespace MirrorPool

open Sessions Tables

variable {D : Type} [LinearOrder D]

/-- Once a ticket is acknowledged and a seal has succeeded, the ticket has a
proof that verifies, and the count is the number of acknowledged tickets. -/
def NoTicketLost (h : Blake3 D) (ed : Ed25519) (config : CoordinatorConfig D) (now : Instant)
    (calls : List (CoordinatorCall D)) : Prop :=
  ∀ commitment root count,
    (∃ v ∈ coordinatorHistory h ed config now calls,
      v.reply h ed config = .ok (.submitted commitment)) →
    (∃ v ∈ coordinatorHistory h ed config now calls,
      v.reply h ed config = .ok (.sealed root count)) →
    (∃ proof, ((CoordinatorCall.proof commitment).perform h ed config
        (coordinatorAfter h ed config now calls)).1 = .ok (.proof (some proof)) ∧
      proof.verify h root config.binding.roundId = .ok ()) ∧
    (submissions h ed config (coordinatorHistory h ed config now calls)).length = count.toNat

/-- The next call admits a ticket to the store although the round is sealed: the
ticket waits, the round has a root, the cohort is not full, and neither the
commitment nor the key has been used. -/
def LateAdmission (h : Blake3 D) (config : CoordinatorConfig D) (s : Coordinator D)
    (call : CoordinatorCall D) : Prop :=
  ∃ position ticket, call = .admitWaiting position ∧ s.waiting[position]? = some ticket ∧
    (∃ row, RootRow config s.store row) ∧ Admissible h config s.store ticket

variable {h : Blake3 D} {ed : Ed25519} {config : CoordinatorConfig D} {now : Instant}
variable {calls : List (CoordinatorCall D)} {s s' : Coordinator D}
variable {call : CoordinatorCall D} {reply : Except CoordinatorError (CoordinatorReply D)}

/-! ## The cohort in the database -/

/-- When only tickets of the configured round are in the store, all of them are
leaves. -/
theorem leavesOf_eq (hbound : BoundToRound config s) {pool : D} {id : Int}
    (hpool : pool = config.binding.poolId) (hid : asI64 config.binding.roundId = .ok id) :
    leavesOf s.store pool id = sortDigests (commitmentsOf s) := by
  subst hpool
  rw [leavesOf, hbound.ticketsOf_eq hid, commitmentsOf]

/-- A root covers the tickets in the store: it counts all of them, and each one
has a proof that verifies. -/
structure Covers (h : Blake3 D) (config : CoordinatorConfig D) (s : Coordinator D)
    (row : CohortRootRow D) : Prop where
  size_eq : row.cohortSize = (commitmentsOf s).length
  proved : ∀ commitment ∈ commitmentsOf s, ∃ proof ∈ s.store.cohortProofs.rows,
    proof.poolId = row.poolId ∧ proof.roundId = row.roundId ∧ proof.commitment = commitment ∧
      proof.proofJson.verify h row.root config.binding.roundId = .ok ()

/-- The root of the configured round, if there is one, covers the tickets. -/
def Covered (h : Blake3 D) (config : CoordinatorConfig D) (s : Coordinator D) : Prop :=
  ∀ row, RootRow config s.store row → Covers h config s row

/-- A root that a call writes covers the tickets. -/
theorem CoordinatorStep.covers_new (hstep : CoordinatorStep h ed config call reply s s')
    (hbound : BoundToRound config s) {row : CohortRootRow D}
    (hold : row ∉ s.store.cohortRoots.rows) (hrow : RootRow config s'.store row) :
    commitmentsOf s' = commitmentsOf s ∧ Covers h config s' row := by
  rcases hstep.storeStep with ⟨storeCall, storeReply, hstore, hforwards⟩
  rcases hstore.root_new hold hrow.mem with
    ⟨roundId, minimum, count, cohort, proofs, hsealing⟩
  have hround : roundId = config.binding.roundId :=
    asI64_inj hsealing.roundId_eq hrow.roundId_eq
  have hleaves := leavesOf_eq hbound hrow.poolId_eq hrow.roundId_eq
  have hreply : reply = .ok (.sealed row.root count) :=
    (hforwards.sealed _ _).mp hsealing.reply_eq
  have hsubmission : submission reply = none := by
    rw [hreply]
    rfl
  have hsame : commitmentsOf s' = commitmentsOf s := by
    rw [hstep.commitmentsOf_eq, hsubmission, Option.toList_none, List.append_nil]
  refine ⟨hsame, ?_, ?_⟩
  · rw [hsame, hsealing.cohortSize_eq, ← hsealing.length_eq, hleaves, length_sortDigests]
  · intro commitment hcommitment
    rw [hsame, ← mem_sortDigests, ← hleaves, ← hsealing.proof_rows.commitments] at hcommitment
    rcases List.mem_map.mp hcommitment with ⟨proof, hproof, rfl⟩
    rcases hsealing.proof_rows.keys proof hproof with ⟨hpool, hid⟩
    refine ⟨proof, ?_, hpool, hid, rfl, ?_⟩
    · rw [hsealing.proofs_eq]
      exact List.mem_append_right _ hproof
    · rw [← hround]
      exact (hsealing.verify hproof).2

/-- A call that is no late admission keeps the tickets covered. -/
theorem CoordinatorStep.covered (hstep : CoordinatorStep h ed config call reply s s')
    (hbound : BoundToRound config s) (hlate : ¬LateAdmission h config s call)
    (hcovered : Covered h config s) : Covered h config s' := by
  intro row hrow
  by_cases hold : row ∈ s.store.cohortRoots.rows
  · have hbefore : RootRow config s.store row := ⟨hold, hrow.poolId_eq, hrow.roundId_eq⟩
    rcases hcovered row hbefore with ⟨hsize, hproved⟩
    -- the round has a root, so that an admitted ticket would be late
    have hsubmission : submission reply = none := by
      cases hstep with
      | submitted hwaiting htaken =>
          exact absurd ⟨_, _, rfl, hwaiting, ⟨row, hbefore⟩, (admitTicket_eq_ok htaken).1⟩ hlate
      | _ => rfl
    have hsame : commitmentsOf s' = commitmentsOf s := by
      rw [hstep.commitmentsOf_eq, hsubmission, Option.toList_none, List.append_nil]
    rcases hstep.storeStep with ⟨_, _, hstore, -⟩
    refine ⟨by rw [hsame, hsize], ?_⟩
    intro commitment hcommitment
    rw [hsame] at hcommitment
    rcases hproved commitment hcommitment with ⟨proof, hproof, hkept⟩
    exact ⟨proof, hstore.grows.proofs hproof, hkept⟩
  · exact (hstep.covers_new hbound hold hrow).2

/-- Without late admissions the tickets are covered at the end of a run. -/
theorem covered_run (hlate : ∀ v ∈ coordinatorHistory h ed config now calls,
    ¬LateAdmission h config v.before v.input) :
    Covered h config (coordinatorAfter h ed config now calls) := by
  have hstart : Covered h config (Coordinator.fresh h now) :=
    fun _ hrow => absurd hrow not_rootRow_fresh
  refine (Runs.run_invariant (Covered h config) hstart ?_).1
  intro v hv hbefore
  have hbound := (bound_run h ed config now calls).2 v hv
  exact (coordinatorStep_of_mem_visits hv).covered hbound (hlate v hv) hbefore

/-- The count of a root never exceeds the tickets in the store. -/
def NotOvercounted (config : CoordinatorConfig D) (s : Coordinator D) : Prop :=
  ∀ row, RootRow config s.store row → row.cohortSize ≤ (commitmentsOf s).length

/-- Every call keeps the count of a root within the tickets. -/
theorem CoordinatorStep.notOvercounted (hstep : CoordinatorStep h ed config call reply s s')
    (hbound : BoundToRound config s) (hcount : NotOvercounted config s) :
    NotOvercounted config s' := by
  intro row hrow
  by_cases hold : row ∈ s.store.cohortRoots.rows
  · have hbefore := hcount row ⟨hold, hrow.poolId_eq, hrow.roundId_eq⟩
    rw [hstep.commitmentsOf_eq, List.length_append]
    omega
  · exact (hstep.covers_new hbound hold hrow).2.size_eq.le

/-- At every moment the count of a root is within the tickets. -/
theorem notOvercounted_run (h : Blake3 D) (ed : Ed25519) (config : CoordinatorConfig D)
    (now : Instant) (calls : List (CoordinatorCall D)) :
    NotOvercounted config (coordinatorAfter h ed config now calls) := by
  have hstart : NotOvercounted config (Coordinator.fresh h now) :=
    fun _ hrow => absurd hrow not_rootRow_fresh
  refine (Runs.run_invariant (NotOvercounted config) hstart ?_).1
  intro v hv hbefore
  have hbound := (bound_run h ed config now calls).2 v hv
  exact (coordinatorStep_of_mem_visits hv).notOvercounted hbound hbefore

/-- The root of a seal reply in a history is in the database at its end. -/
theorem rootRow_of_reply {root : D} {count : UInt32}
    (hsealed : ∃ v ∈ coordinatorHistory h ed config now calls,
      v.reply h ed config = .ok (.sealed root count)) :
    ∃ row, RootRow config (coordinatorAfter h ed config now calls).store row ∧
      row.root = root ∧ row.cohortSize = count.toNat := by
  rcases hsealed with ⟨v, hv, hreply⟩
  rcases (coordinatorStep_of_mem_visits hv).seal_row hreply with ⟨row, hrow, hroot, hsize⟩
  rcases Runs.mem_visits.mp hv with ⟨earlier, later, hcalls, hbefore, hafter⟩
  refine ⟨row, ⟨?_, hrow.poolId_eq, hrow.roundId_eq⟩, hroot, hsize⟩
  have hend : coordinatorAfter h ed config now calls =
      Runs.run (coordinatorStep h ed config) v.after later := by
    rw [hcalls, coordinatorAfter, Runs.run_append, Runs.run_cons, ← hbefore, ← hafter]
  rw [hend]
  exact (grows_coordinatorRun v.after later).roots hrow.mem

/-- No ticket is lost at a moment at which all tickets are covered. -/
theorem noTicketLost_of_covered
    (hcovered : Covered h config (coordinatorAfter h ed config now calls)) :
    NoTicketLost h ed config now calls := by
  intro commitment root count hsubmitted hsealed
  rcases rootRow_of_reply hsealed with ⟨row, hrow, rfl, hsize⟩
  rcases hcovered row hrow with ⟨hcovers, hproved⟩
  have hsubmissions := commitmentsOf_eq_submissions h ed config now calls
  have hmem : commitment ∈ commitmentsOf (coordinatorAfter h ed config now calls) := by
    rw [hsubmissions]
    exact mem_submissions.mpr hsubmitted
  rcases hproved commitment hmem with ⟨proof, hproof, hpool, hid, rfl, hverify⟩
  refine ⟨⟨proof.proofJson, ?_, hverify⟩, ?_⟩
  · rw [perform_proof_of_mem hproof (hpool.trans hrow.poolId_eq) (by rw [hid, hrow.roundId_eq])]
  · rw [← hsubmissions]
    omega

/-- A late admission loses a ticket. -/
theorem not_noTicketLost_of_late {earlier : List (CoordinatorCall D)}
    (hlate : LateAdmission h config (coordinatorAfter h ed config now earlier) call) :
    ¬NoTicketLost h ed config now (earlier ++ [call]) := by
  intro hlost
  rcases hlate with ⟨position, ticket, rfl, hwaiting, ⟨row, hrow⟩, hadmissible⟩
  rcases exists_admitTicket hadmissible with ⟨store, htaken⟩
  let start := coordinatorAfter h ed config now earlier
  let last : CoordinatorVisit D :=
    ⟨start, .admitWaiting position, coordinatorStep h ed config start (.admitWaiting position)⟩
  have hhistory : coordinatorHistory h ed config now (earlier ++ [.admitWaiting position]) =
      coordinatorHistory h ed config now earlier ++ [last] := Runs.visits_append ..
  have hreply : last.reply h ed config = .ok (.submitted (ticket.commitment h)) := by
    simp only [CoordinatorVisit.reply, CoordinatorCall.perform, last, start, hwaiting, htaken]
  have hlast : last ∈ coordinatorHistory h ed config now (earlier ++ [.admitWaiting position]) := by
    simp [hhistory]
  rcases seal_of_rootRow hrow with ⟨v, hv, count, hsealed, hsize⟩
  have hv' : v ∈ coordinatorHistory h ed config now (earlier ++ [.admitWaiting position]) := by
    rw [hhistory]
    exact List.mem_append_left _ hv
  -- the count of the seal is too small for one ticket more
  have hcount := (hlost _ _ _ ⟨last, hlast, hreply⟩ ⟨v, hv', hsealed⟩).2
  have hfew := notOvercounted_run h ed config now earlier row hrow
  rw [commitmentsOf_eq_submissions] at hfew
  have hmore : submissions h ed config (coordinatorHistory h ed config now earlier ++ [last]) =
      submissions h ed config (coordinatorHistory h ed config now earlier) ++
        [ticket.commitment h] := by
    rw [submissions, List.filterMap_append, ← submissions]
    simp only [List.filterMap_cons, hreply]
    rfl
  rw [hhistory, hmore, List.length_append, List.length_singleton] at hcount
  omega

/-- No ticket is lost at any moment of a history exactly when the history has no
late admissions. -/
theorem no_ticket_lost_iff (h : Blake3 D) (ed : Ed25519) (config : CoordinatorConfig D)
    (now : Instant) (calls : List (CoordinatorCall D)) :
    (∀ earlier later, calls = earlier ++ later → NoTicketLost h ed config now earlier) ↔
      ∀ v ∈ coordinatorHistory h ed config now calls,
        ¬LateAdmission h config v.before v.input := by
  constructor
  · intro hlost v hv hlate
    rcases Runs.mem_visits.mp hv with ⟨earlier, later, hcalls, hbefore, -⟩
    rw [hbefore] at hlate
    exact not_noTicketLost_of_late hlate (hlost (earlier ++ [v.input]) later (by simp [hcalls]))
  · intro hnever earlier later hcalls
    refine noTicketLost_of_covered (covered_run ?_)
    intro v hv
    refine hnever v ?_
    rw [hcalls, coordinatorHistory, Runs.visits_append]
    exact List.mem_append_left _ hv

/-! ## A late ticket -/

/-- A signature scheme that accepts every signature. -/
def demoEd25519 : Ed25519 where
  isVerifyingKey := fun _ => true
  accepts := fun _ _ _ => true

/-- A round for one to four participants. -/
def demoConfig : CoordinatorConfig Nat where
  binding := { poolId := 1, roundId := 7, actionTemplateHash := 2 }
  minimumParticipants := 1
  maximumParticipants := 4
  requestsPerMinute := 10

/-- A ticket is submitted, the cohort is sealed, and another ticket is
submitted. -/
def demoLateCalls : List (CoordinatorCall Nat) :=
  [.submit (sampleTicket 1 2 3 1) 50 0 0, .admitWaiting 0, .sealCohort,
    .submit (sampleTicket 1 2 3 2) 50 0 0, .admitWaiting 0]

/-- The second ticket is acknowledged but not counted. -/
theorem late_ticket_lost :
    ¬NoTicketLost Blake3.checksum demoEd25519 demoConfig 0 demoLateCalls := by
  intro hlost
  have hsubmitted : ∃ v ∈ coordinatorHistory Blake3.checksum demoEd25519 demoConfig 0 demoLateCalls,
      v.reply Blake3.checksum demoEd25519 demoConfig =
        .ok (.submitted ((sampleTicket 1 2 3 2).commitment Blake3.checksum)) := by
    decide +kernel
  have hsealed : ∃ v ∈ coordinatorHistory Blake3.checksum demoEd25519 demoConfig 0 demoLateCalls,
      v.reply Blake3.checksum demoEd25519 demoConfig =
        .ok (.sealed ((sampleTicket 1 2 3 1).commitment Blake3.checksum) 1) := by
    decide +kernel
  rcases hlost _ _ _ hsubmitted hsealed with ⟨⟨proof, hproof, -⟩, -⟩
  have hnone : ((CoordinatorCall.proof ((sampleTicket 1 2 3 2).commitment
      Blake3.checksum)).perform Blake3.checksum demoEd25519 demoConfig
        (coordinatorAfter Blake3.checksum demoEd25519 demoConfig 0 demoLateCalls)).1 =
      .ok (.proof none) := by
    decide +kernel
  rw [hnone] at hproof
  simp at hproof

end MirrorPool
