import MirrorPool.Coordinator.History

/-!
# Admission control

Many submissions run at the same time, and only the lock of the store orders
them.  Whatever the order, the store never holds more tickets than the round
allows, no key and no commitment is in it twice, and every ticket in it was
verified at the slot that its own request had read.

The requests that wait for the store are followed next to the run: a submission
that passes the rate limit and the verification joins them with its reading of
the slot, and leaves them when it is admitted or given up.

Main results:

- Definition {lit}`waitingRequests`: the waiting tickets, each with the slot of
  its request.
- Structure {lit}`AdmissionControl`: what holds of the tickets after a history.
- Theorem {lit}`admission_control`: it holds after every history.
-/

namespace MirrorPool

open Sessions Tables

variable {D : Type} [LinearOrder D]

/-- The waiting requests after a call with its reply. -/
def requestStep (requests : List (JoinTicket D × UInt64)) :
    CoordinatorCall D → Except CoordinatorError (CoordinatorReply D) → List (JoinTicket D × UInt64)
  | .submit ticket currentSlot _ _, .ok _ => requests ++ [(ticket, currentSlot)]
  | .submit _ _ _ _, .error _ => requests
  | .admitWaiting position, _ => requests.eraseIdx position
  | .abandon position, _ => requests.eraseIdx position
  | .sealCohort, _ => requests
  | .proof _, _ => requests
  | .restart _, _ => []

/-- The waiting requests after some calls. -/
def waitingRequests (h : Blake3 D) (ed : Ed25519) (config : CoordinatorConfig D) (now : Instant)
    (calls : List (CoordinatorCall D)) : List (JoinTicket D × UInt64) :=
  (coordinatorHistory h ed config now calls).foldl
    (fun requests v => requestStep requests v.input (v.reply h ed config)) []

/-- A row was written by a call that admitted a waiting request, whose ticket
verified at the slot of the request, and the reply acknowledged the ticket. -/
def AdmittedRow (h : Blake3 D) (ed : Ed25519) (config : CoordinatorConfig D) (now : Instant)
    (calls : List (CoordinatorCall D)) (row : JoinTicketRow D) : Prop :=
  ∃ earlier position later ticket currentSlot id,
    calls = earlier ++ .admitWaiting position :: later ∧
      (waitingRequests h ed config now earlier)[position]? = some (ticket, currentSlot) ∧
      ((CoordinatorCall.admitWaiting position).perform h ed config
        (coordinatorAfter h ed config now earlier)).1 = .ok (.submitted (ticket.commitment h)) ∧
      asI64 ticket.roundId = .ok id ∧ row = ticketRow h ticket id ∧
      ticket.verify h ed currentSlot config.binding = .ok ()

/-- What holds of the tickets after a history. -/
structure AdmissionControl (h : Blake3 D) (ed : Ed25519) (config : CoordinatorConfig D)
    (now : Instant) (calls : List (CoordinatorCall D)) (db : Database D) : Prop where
  capped : ∀ id, asI64 config.binding.roundId = .ok id →
    (Store.ticketsOf db config.binding.poolId id).length ≤ config.maximumParticipants.toNat
  keys_distinct : ∀ id, asI64 config.binding.roundId = .ok id →
    ((Store.ticketsOf db config.binding.poolId id).map JoinTicketRow.coordinationKey).Nodup
  commitments_distinct : (db.joinTickets.rows.map JoinTicketRow.commitment).Nodup
  admitted : ∀ row ∈ db.joinTickets.rows, AdmittedRow h ed config now calls row
  acknowledged_once : ∀ row ∈ db.joinTickets.rows,
    (submissions h ed config (coordinatorHistory h ed config now calls)).count row.commitment = 1
  acknowledged_stored :
    ∀ commitment ∈ submissions h ed config (coordinatorHistory h ed config now calls),
      ∃ row ∈ db.joinTickets.rows, row.commitment = commitment
  sealed_between : ∀ v ∈ coordinatorHistory h ed config now calls, ∀ root count,
    v.reply h ed config = .ok (.sealed root count) →
      config.minimumParticipants ≤ count ∧ count ≤ config.maximumParticipants

variable {h : Blake3 D} {ed : Ed25519} {config : CoordinatorConfig D} {now : Instant}
variable {calls : List (CoordinatorCall D)} {s s' : Coordinator D}
variable {call : CoordinatorCall D} {reply : Except CoordinatorError (CoordinatorReply D)}

/-! ## Waiting requests -/

/-- The requests are those of the waiting tickets, and their tickets verified at
their slots. -/
structure Follows (h : Blake3 D) (ed : Ed25519) (config : CoordinatorConfig D)
    (requests : List (JoinTicket D × UInt64)) (s : Coordinator D) : Prop where
  tickets : requests.map Prod.fst = s.waiting
  verified : ∀ request ∈ requests,
    request.1.verify h ed request.2 config.binding = .ok ()

/-- Dropping one of the waiting tickets drops its request. -/
theorem Follows.eraseIdx {requests : List (JoinTicket D × UInt64)} {store : Database D}
    (hfollows : Follows h ed config requests s) (position : Nat) :
    Follows h ed config (requests.eraseIdx position)
      { s with store, waiting := s.waiting.eraseIdx position } := by
  refine ⟨?_, fun request hrequest => hfollows.verified request (List.mem_of_mem_eraseIdx hrequest)⟩
  rw [← hfollows.tickets, List.eraseIdx_map]

/-- A call changes the requests as it changes the waiting tickets. -/
theorem Follows.step {requests : List (JoinTicket D × UInt64)}
    (hfollows : Follows h ed config requests s)
    (hstep : CoordinatorStep h ed config call reply s s') :
    Follows h ed config (requestStep requests call reply) s' := by
  cases hstep with
  | @arrived ticket currentSlot _ _ _ _ hverify =>
      simp only [requestStep]
      constructor
      · rw [List.map_append, hfollows.tickets]
        rfl
      · intro request hrequest
        rcases List.mem_append.mp hrequest with hold | hnew
        · exact hfollows.verified request hold
        · rw [List.mem_singleton.mp hnew]
          exact hverify
  | @nobody position _ hwaiting =>
      have hout : requests.eraseIdx position = requests := by
        apply List.eraseIdx_of_length_le
        rw [← List.length_map Prod.fst, hfollows.tickets]
        exact List.getElem?_eq_none_iff.mp hwaiting
      simp only [requestStep, hout]
      exact hfollows
  | rejected => exact hfollows.eraseIdx _
  | submitted => exact hfollows.eraseIdx _
  | abandoned => exact hfollows.eraseIdx _
  | restarted => exact ⟨rfl, by simp [requestStep]⟩
  | _ => exact ⟨hfollows.tickets, hfollows.verified⟩

/-- At every moment the requests are those of the waiting tickets. -/
theorem follows_run (h : Blake3 D) (ed : Ed25519) (config : CoordinatorConfig D) (now : Instant)
    (calls : List (CoordinatorCall D)) :
    Follows h ed config (waitingRequests h ed config now calls)
      (coordinatorAfter h ed config now calls) := by
  have hrun : ∀ (s : Coordinator D) (requests : List (JoinTicket D × UInt64)),
      Follows h ed config requests s →
      Follows h ed config
        ((Runs.visits (coordinatorStep h ed config) s calls).foldl
          (fun requests (v : CoordinatorVisit D) =>
            requestStep requests v.input (v.reply h ed config)) requests)
        (Runs.run (coordinatorStep h ed config) s calls) := by
    induction calls with
    | nil => exact fun _ _ hfollows => hfollows
    | cons call calls ih =>
        intro s requests hfollows
        exact ih _ _ (hfollows.step (coordinatorStep_perform h ed config call s))
  exact hrun (Coordinator.fresh h now) [] ⟨rfl, by simp⟩

/-! ## Tickets in the store -/

/-- A new ticket row was written by the admission of a waiting ticket. -/
theorem CoordinatorStep.ticket_new (hstep : CoordinatorStep h ed config call reply s s')
    {row : JoinTicketRow D} (hold : row ∉ s.store.joinTickets.rows)
    (hnew : row ∈ s'.store.joinTickets.rows) :
    ∃ position ticket id, call = .admitWaiting position ∧
      s.waiting[position]? = some ticket ∧ reply = .ok (.submitted (ticket.commitment h)) ∧
      asI64 ticket.roundId = .ok id ∧ row = ticketRow h ticket id := by
  have hsame := hstep.joinTickets_eq
  cases hstep with
  | submitted hwaiting htaken =>
      rcases admitTicket_eq_ok htaken with ⟨-, rfl, id, tickets, events, hid, hrows, rfl⟩
      simp only [hrows, List.mem_append, List.mem_singleton, hold, false_or] at hnew
      exact ⟨_, _, id, rfl, hwaiting, rfl, hid, hnew⟩
  | _ =>
      rw [hsame rfl] at hnew
      exact absurd hnew hold

/-- Every ticket row was written by the admission of a request whose ticket
verified at its own slot. -/
theorem admittedRow_of_mem {row : JoinTicketRow D}
    (hrow : row ∈ (coordinatorAfter h ed config now calls).store.joinTickets.rows) :
    AdmittedRow h ed config now calls row := by
  have hstart : row ∉ (Coordinator.fresh h now).store.joinTickets.rows := by simp
  rcases Runs.exists_visit_turning
    (fun current : Coordinator D => row ∈ current.store.joinTickets.rows) hstart hrow with
    ⟨v, hv, hbefore, hafter⟩
  rcases (coordinatorStep_of_mem_visits hv).ticket_new hbefore hafter with
    ⟨position, ticket, id, hinput, hwaiting, hreply, hid, hticket⟩
  rcases Runs.mem_visits.mp hv with ⟨earlier, later, hcalls, hmoment, -⟩
  have hfollows := follows_run h ed config now earlier
  rw [hmoment, ← hfollows.tickets, List.getElem?_map, Option.map_eq_some_iff] at hwaiting
  rcases hwaiting with ⟨⟨_, currentSlot⟩, hrequest, rfl⟩
  rw [CoordinatorVisit.reply, hinput, hmoment] at hreply
  rw [hinput] at hcalls
  exact ⟨earlier, position, later, _, currentSlot, id, hcalls, hrequest, hreply, hid, hticket,
    hfollows.verified _ (List.mem_of_getElem? hrequest)⟩

/-- The store holds at most as many tickets as the round allows. -/
def Capped (config : CoordinatorConfig D) (s : Coordinator D) : Prop :=
  s.store.joinTickets.rows.length ≤ config.maximumParticipants.toNat

/-- A call admits a ticket only below the maximum. -/
theorem CoordinatorStep.capped (hstep : CoordinatorStep h ed config call reply s s')
    (hbound : BoundToRound config s) (hcapped : Capped config s) : Capped config s' := by
  have hsame := hstep.joinTickets_eq
  unfold Capped at hcapped ⊢
  cases hstep with
  | submitted hwaiting htaken =>
      rcases admitTicket_eq_ok htaken with
        ⟨⟨⟨id, hid, hroom⟩, -⟩, -, _, tickets, events, -, hrows, rfl⟩
      rw [hbound.ticketsOf_eq hid] at hroom
      simp only [hrows, List.length_append, List.length_singleton]
      omega
  | _ =>
      rw [hsame rfl]
      exact hcapped

/-- At every moment the store holds at most as many tickets as the round
allows. -/
theorem capped_run (h : Blake3 D) (ed : Ed25519) (config : CoordinatorConfig D) (now : Instant)
    (calls : List (CoordinatorCall D)) :
    Capped config (coordinatorAfter h ed config now calls) := by
  have hstart : Capped config (Coordinator.fresh h now) := by simp [Capped]
  refine (Runs.run_invariant (Capped config) hstart ?_).1
  intro v hv hbefore
  have hbound := (bound_run h ed config now calls).2 v hv
  exact (coordinatorStep_of_mem_visits hv).capped hbound hbefore

omit [LinearOrder D] in
/-- No commitment is in a table of tickets twice. -/
theorem commitments_nodup (tickets : Table (TicketConflict (D := D))) :
    (tickets.rows.map JoinTicketRow.commitment).Nodup := by
  rw [List.Nodup, List.pairwise_map]
  exact tickets.distinct.imp fun hfree hsame => hfree (.inl hsame)

/-- No key is in a round twice. -/
theorem keys_nodup (db : Database D) (pool : D) (id : Int) :
    ((Store.ticketsOf db pool id).map JoinTicketRow.coordinationKey).Nodup := by
  rw [List.Nodup, List.pairwise_map]
  refine (db.joinTickets.distinct.filter _).imp_of_mem ?_
  intro a b ha hb hfree hsame
  simp only [List.mem_filter, decide_eq_true_eq] at ha hb
  exact hfree (.inr ⟨ha.2.1.trans hb.2.1.symm, ha.2.2.trans hb.2.2.symm, hsame⟩)

/-! ## Sealed counts -/

/-- The count of the root of the configured round is between the bounds. -/
def SealedBetween (config : CoordinatorConfig D) (s : Coordinator D) : Prop :=
  ∀ row, RootRow config s.store row →
    (config.minimumParticipants.toNat : Int) ≤ row.cohortSize ∧
      row.cohortSize ≤ config.maximumParticipants.toNat

/-- A call seals a cohort only between the bounds. -/
theorem CoordinatorStep.sealedBetween (hstep : CoordinatorStep h ed config call reply s s')
    (hbound : BoundToRound config s) (hcapped : Capped config s)
    (hbetween : SealedBetween config s) : SealedBetween config s' := by
  intro row hrow
  by_cases hold : row ∈ s.store.cohortRoots.rows
  · exact hbetween row ⟨hold, hrow.poolId_eq, hrow.roundId_eq⟩
  · rcases hstep.storeStep with ⟨storeCall, storeReply, hstore, hforwards⟩
    rcases hstore.root_new hold hrow.mem with ⟨_, minimum, count, cohort, proofs, hsealing⟩
    have hround := hforwards.round _ _ ((hforwards.sealed _ _).mp hsealing.reply_eq)
    rw [hsealing.call_eq] at hround
    injection hround with _ _ hminimum
    have hleast := UInt32.le_iff_toNat_le.mp hsealing.minimum_le
    rw [hminimum] at hleast
    have hlength := hsealing.length_eq
    rw [leavesOf, length_sortDigests, List.length_map, hrow.poolId_eq,
      hbound.ticketsOf_eq hrow.roundId_eq] at hlength
    rw [hsealing.cohortSize_eq]
    unfold Capped at hcapped
    omega

/-- At every moment the count of the root is between the bounds. -/
theorem sealedBetween_run (h : Blake3 D) (ed : Ed25519) (config : CoordinatorConfig D)
    (now : Instant) (calls : List (CoordinatorCall D)) :
    ∀ v ∈ coordinatorHistory h ed config now calls, SealedBetween config v.after := by
  have hstart : SealedBetween config (Coordinator.fresh h now) :=
    fun _ hrow => absurd hrow not_rootRow_fresh
  refine fun v hv => ((Runs.run_invariant (SealedBetween config) hstart ?_).2 v hv).2
  intro v hv hbefore
  have hbound := (bound_run h ed config now calls).2 v hv
  rcases Runs.mem_visits.mp hv with ⟨earlier, -, -, hmoment, -⟩
  have hcapped : Capped config v.before := by
    rw [hmoment]
    exact capped_run h ed config now earlier
  exact (coordinatorStep_of_mem_visits hv).sealedBetween hbound hcapped hbefore

/-- After every history, whatever the order of its calls, the tickets are
admitted within the bounds, once each, and verified at their own slots. -/
theorem admission_control (h : Blake3 D) (ed : Ed25519) (config : CoordinatorConfig D)
    (now : Instant) (calls : List (CoordinatorCall D)) :
    AdmissionControl h ed config now calls (coordinatorAfter h ed config now calls).store where
  capped := by
    intro id hid
    rw [(bound_run h ed config now calls).1.ticketsOf_eq hid]
    exact capped_run h ed config now calls
  keys_distinct := fun id _ => keys_nodup _ _ id
  commitments_distinct := commitments_nodup _
  admitted := fun _ => admittedRow_of_mem
  acknowledged_once := by
    intro row hrow
    rw [← commitmentsOf_eq_submissions]
    exact List.count_eq_one_of_mem (commitments_nodup _) (List.mem_map_of_mem hrow)
  acknowledged_stored := by
    intro commitment hcommitment
    rw [← commitmentsOf_eq_submissions] at hcommitment
    exact List.mem_map.mp hcommitment
  sealed_between := by
    intro v hv root count hreply
    rcases (coordinatorStep_of_mem_visits hv).seal_row hreply with ⟨row, hrow, -, hsize⟩
    have hbetween := sealedBetween_run h ed config now calls v hv row hrow
    rw [hsize] at hbetween
    rw [UInt32.le_iff_toNat_le, UInt32.le_iff_toNat_le]
    omega

end MirrorPool
