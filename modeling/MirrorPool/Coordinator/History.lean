import MirrorPool.Coordinator.Service

/-!
# Histories of the coordinator

A history is any interleaving of the parts of requests, with restarts anywhere,
from a coordinator over a newly opened database.  Every call is a step of the
store, so that what holds of histories of the store holds here; the tickets in
the store are those whose submission was acknowledged, in the same order.

Main results:

- Theorem {lit}`CoordinatorStep.storeStep`: every call is a step of the store.
- Theorem {lit}`CoordinatorStep.bound`: only tickets of the configured round are
  admitted.
- Theorem {lit}`commitmentsOf_eq_submissions`: the commitments in the store are
  those that were acknowledged.
- Theorems {lit}`CoordinatorStep.seal_row` and {lit}`seal_of_rootRow`: a seal
  reply names the root in the database, and every root there had such a reply.
-/

namespace MirrorPool

open Fallible Sessions Tables

variable {D : Type} [LinearOrder D]

/-- The coordinator after a call. -/
def coordinatorStep (h : Blake3 D) (ed : Ed25519) (config : CoordinatorConfig D)
    (s : Coordinator D) (call : CoordinatorCall D) : Coordinator D :=
  (call.perform h ed config s).2

/-- One call with the coordinators on its two sides. -/
abbrev CoordinatorVisit (D : Type) := Runs.Visit (Coordinator D) (CoordinatorCall D)

/-- The reply of a call. -/
def CoordinatorVisit.reply (h : Blake3 D) (ed : Ed25519) (config : CoordinatorConfig D)
    (v : CoordinatorVisit D) : Except CoordinatorError (CoordinatorReply D) :=
  (v.input.perform h ed config v.before).1

/-- A coordinator over a newly opened database. -/
def Coordinator.fresh (h : Blake3 D) (now : Instant) : Coordinator D :=
  Coordinator.new (Database.opened h) now

@[simp] theorem fresh_store (h : Blake3 D) (now : Instant) :
    (Coordinator.fresh h now).store = Database.opened h :=
  rfl

@[simp] theorem fresh_waiting (h : Blake3 D) (now : Instant) :
    (Coordinator.fresh h now).waiting = [] :=
  rfl

/-- All calls in order. -/
abbrev coordinatorHistory (h : Blake3 D) (ed : Ed25519) (config : CoordinatorConfig D)
    (now : Instant) (calls : List (CoordinatorCall D)) : List (CoordinatorVisit D) :=
  Runs.visits (coordinatorStep h ed config) (Coordinator.fresh h now) calls

/-- The coordinator at the end. -/
abbrev coordinatorAfter (h : Blake3 D) (ed : Ed25519) (config : CoordinatorConfig D)
    (now : Instant) (calls : List (CoordinatorCall D)) : Coordinator D :=
  Runs.run (coordinatorStep h ed config) (Coordinator.fresh h now) calls

/-- The commitment that a reply acknowledges. -/
def submission : Except CoordinatorError (CoordinatorReply D) → Option D
  | .ok (.submitted commitment) => some commitment
  | _ => none

/-- The commitments acknowledged in a history, in order. -/
def submissions (h : Blake3 D) (ed : Ed25519) (config : CoordinatorConfig D)
    (visits : List (CoordinatorVisit D)) : List D :=
  visits.filterMap fun v => submission (v.reply h ed config)

variable {h : Blake3 D} {ed : Ed25519} {config : CoordinatorConfig D} {now : Instant}
variable {calls : List (CoordinatorCall D)} {s s' : Coordinator D}

theorem mem_submissions {visits : List (CoordinatorVisit D)} {commitment : D} :
    commitment ∈ submissions h ed config visits ↔
      ∃ v ∈ visits, v.reply h ed config = .ok (.submitted commitment) := by
  simp only [submissions, List.mem_filterMap]
  constructor
  · rintro ⟨v, hv, hsubmission⟩
    refine ⟨v, hv, ?_⟩
    unfold submission at hsubmission
    split at hsubmission
    · rename_i hreply
      rw [hreply, Option.some.inj hsubmission]
    · contradiction
  · rintro ⟨v, hv, hreply⟩
    exact ⟨v, hv, by rw [hreply, submission]⟩

/-- A visit has one of the effects of its call. -/
theorem coordinatorStep_of_mem_visits {v : CoordinatorVisit D} {start : Coordinator D}
    (hv : v ∈ Runs.visits (coordinatorStep h ed config) start calls) :
    CoordinatorStep h ed config v.input (v.reply h ed config) v.before v.after := by
  rw [Runs.after_of_mem_visits hv]
  exact coordinatorStep_perform h ed config v.input v.before

/-! ## Requests -/

/-- There is room for the ticket, and it is in conflict with no other. -/
def Admissible (h : Blake3 D) (config : CoordinatorConfig D) (db : Database D)
    (ticket : JoinTicket D) : Prop :=
  (∃ id, asI64 config.binding.roundId = .ok id ∧
    (Store.ticketsOf db config.binding.poolId id).length < config.maximumParticipants.toNat) ∧
  ∃ id, asI64 ticket.roundId = .ok id ∧
    ∀ row ∈ db.joinTickets.rows, ¬TicketConflict row (ticketRow h ticket id)

/-- The ticket count is the number of rows, when it can be read. -/
theorem ticketCount_eq_ok {db db' : Database D} {pool : D} {roundId : UInt64} {count : UInt32} :
    Store.ticketCount pool roundId db = (.ok count, db') ↔
      (∃ id, asI64 roundId = .ok id ∧ (Store.ticketsOf db pool id).length = count.toNat) ∧
        db' = db := by
  simp only [Store.ticketCount, Sessions.bind_eq_ok, lift_eq_ok, query_eq_ok, mapError_eq_ok,
    u32Column_eq_ok, Int.natCast_inj]
  constructor
  · rintro ⟨id, _, ⟨hid, rfl⟩, hcount, rfl⟩
    exact ⟨⟨id, hid, hcount⟩, rfl⟩
  · rintro ⟨⟨id, hid, hcount⟩, rfl⟩
    exact ⟨id, db', ⟨hid, rfl⟩, hcount, rfl⟩

/-- An acknowledged ticket was admissible; its row is added. -/
theorem admitTicket_eq_ok {ticket : JoinTicket D} {commitment : D} {db db' : Database D}
    (htaken : admitTicket h config ticket db = (.ok commitment, db')) :
    Admissible h config db ticket ∧ commitment = ticket.commitment h ∧
      ∃ id tickets events, asI64 ticket.roundId = .ok id ∧
        tickets.rows = db.joinTickets.rows ++ [ticketRow h ticket id] ∧
        db' = { db with joinTickets := tickets, immutableEvents := events } := by
  simp only [admitTicket, Sessions.bind_eq_ok, reportAs_eq_ok, ticketCount_eq_ok, lift_eq_ok,
    failIf_eq_ok, UInt32.not_le, UInt32.lt_iff_toNat_lt] at htaken
  rcases htaken with ⟨count, _, ⟨⟨id, hid, hcount⟩, rfl⟩, _, _, ⟨hroom, rfl⟩, haccept⟩
  rcases Store.acceptTicket_eq_ok haccept with ⟨rfl, id', tickets, hid', hinsert, rfl⟩
  rcases Table.insert_eq_some.mp hinsert with ⟨hfree, hrows⟩
  exact ⟨⟨⟨id, hid, by omega⟩, id', hid', hfree⟩, rfl, id', tickets, _, hid', hrows, rfl⟩

/-- An admissible ticket is acknowledged. -/
theorem exists_admitTicket {ticket : JoinTicket D} {db : Database D}
    (hadmissible : Admissible h config db ticket) :
    ∃ db', admitTicket h config ticket db = (.ok (ticket.commitment h), db') := by
  rcases hadmissible with ⟨⟨id, hid, hroom⟩, id', hid', hfree⟩
  rcases Table.exists_insert hfree with ⟨tickets, hinsert⟩
  rcases Store.exists_acceptTicket hid' hinsert with ⟨db', haccept⟩
  have hmaximum := config.maximumParticipants.toNat_lt
  have hword : (UInt32.ofNat (Store.ticketsOf db config.binding.poolId id).length).toNat =
      (Store.ticketsOf db config.binding.poolId id).length :=
    UInt32.toNat_ofNat_of_lt' (hroom.trans hmaximum)
  refine ⟨db', ?_⟩
  simp only [admitTicket, Sessions.bind_eq_ok, reportAs_eq_ok, ticketCount_eq_ok, lift_eq_ok,
    failIf_eq_ok, UInt32.not_le, UInt32.lt_iff_toNat_lt]
  exact ⟨_, db, ⟨⟨id, hid, hword.symm⟩, rfl⟩, ⟨⟩, db, ⟨by omega, rfl⟩, haccept⟩

/-! ## Steps of the store -/

/-- A reply of the store on behalf of the coordinator, and the reply of the
coordinator to its client. -/
structure Forwards (config : CoordinatorConfig D) (storeCall : StoreCall D)
    (storeReply : Except StoreError (StoreReply D))
    (reply : Except CoordinatorError (CoordinatorReply D)) : Prop where
  accepted : ∀ commitment, storeReply = .ok (.accepted commitment) →
    reply = .ok (.submitted commitment)
  sealed : ∀ root count,
    storeReply = .ok (.sealed root count) ↔ reply = .ok (.sealed root count)
  round : ∀ root count, reply = .ok (.sealed root count) → storeCall =
    .sealCohort config.binding.poolId config.binding.roundId config.minimumParticipants

/-- Every call is a step of the store. -/
theorem CoordinatorStep.storeStep {call : CoordinatorCall D}
    {reply : Except CoordinatorError (CoordinatorReply D)}
    (hstep : CoordinatorStep h ed config call reply s s') :
    ∃ storeCall storeReply, StoreStep h storeCall storeReply s.store s'.store ∧
      Forwards config storeCall storeReply reply := by
  cases hstep with
  | submitted _ htaken =>
      rcases admitTicket_eq_ok htaken with
        ⟨⟨_, _, hid, hfree⟩, rfl, id, tickets, events, hid', hrows, rfl⟩
      rw [hid] at hid'
      cases hid'
      exact ⟨_, _, .ticketAccepted hid (Table.insert_eq_some.mpr ⟨hfree, hrows⟩), by simp, by simp,
        by simp⟩
  | @sealed root count _ store hseal =>
      have hperform : (StoreCall.sealCohort config.binding.poolId config.binding.roundId
          config.minimumParticipants).perform h s.store = (.ok (.sealed root count), store) := by
        simp only [StoreCall.perform, Sessions.bind_eq_ok, Sessions.pure_eq_ok]
        exact ⟨_, _, hseal, rfl, rfl⟩
      exact ⟨_, _, StoreCall.storeStep_of_ok hperform, by simp, by simp, by simp⟩
  | @restarted now _ store hmigrate =>
      have hperform : (StoreCall.reopen : StoreCall D).perform h s.store =
          (.ok .stored, store) := by
        simp only [StoreCall.perform, Sessions.bind_eq_ok, Sessions.pure_eq_ok]
        exact ⟨_, _, hmigrate, trivial, rfl⟩
      exact ⟨_, _, StoreCall.storeStep_of_ok hperform, by simp, by simp, by simp⟩
  | _ => exact ⟨.reopen, .error .panicked, .failed, by simp, by simp, by simp⟩

/-- A run of the coordinator removes no rows of its store. -/
theorem grows_coordinatorRun (s : Coordinator D) (calls : List (CoordinatorCall D)) :
    Grows s.store (Runs.run (coordinatorStep h ed config) s calls).store := by
  let R : Coordinator D → Coordinator D → Prop := fun first second =>
    Grows first.store second.store
  have hrefl : ∀ first, R first first := fun first => Grows.refl first.store
  have htrans : ∀ first second third, R first second → R second third → R first third :=
    fun _ _ _ => Grows.trans
  have hkeep : ∀ v ∈ Runs.visits (coordinatorStep h ed config) s calls, R v.before v.after := by
    intro v hv
    rcases (coordinatorStep_of_mem_visits hv).storeStep with ⟨_, _, hstore, -⟩
    exact hstore.grows
  exact Runs.run_related hrefl htrans hkeep

/-! ## Tickets of the configured round -/

/-- Only tickets of the configured round wait or are in the store. -/
structure BoundToRound (config : CoordinatorConfig D) (s : Coordinator D) : Prop where
  waiting : ∀ ticket ∈ s.waiting,
    ticket.poolId = config.binding.poolId ∧ ticket.roundId = config.binding.roundId
  tickets : ∀ row ∈ s.store.joinTickets.rows,
    row.poolId = config.binding.poolId ∧ asI64 config.binding.roundId = .ok row.roundId

omit [LinearOrder D] in
theorem BoundToRound.eraseIdx (hbound : BoundToRound config s) (position : Nat) :
    ∀ ticket ∈ s.waiting.eraseIdx position,
      ticket.poolId = config.binding.poolId ∧ ticket.roundId = config.binding.roundId :=
  fun ticket hticket => hbound.waiting ticket (List.mem_of_mem_eraseIdx hticket)

/-- The tickets in the store after a call: those before it, and the one that the
reply acknowledges. -/
theorem CoordinatorStep.joinTickets_eq {call : CoordinatorCall D}
    {reply : Except CoordinatorError (CoordinatorReply D)}
    (hstep : CoordinatorStep h ed config call reply s s') (hreply : submission reply = none) :
    s'.store.joinTickets = s.store.joinTickets := by
  rcases hstep.storeStep with ⟨storeCall, storeReply, hstore, hforwards⟩
  apply hstore.joinTickets_eq
  intro commitment haccepted
  rw [hforwards.accepted commitment haccepted] at hreply
  simp [submission] at hreply

/-- A call admits only tickets of the configured round. -/
theorem CoordinatorStep.bound {call : CoordinatorCall D}
    {reply : Except CoordinatorError (CoordinatorReply D)}
    (hstep : CoordinatorStep h ed config call reply s s') (hbound : BoundToRound config s) :
    BoundToRound config s' := by
  have hsame := hstep.joinTickets_eq
  cases hstep with
  | @arrived ticket _ _ _ _ _ hverify =>
      refine ⟨?_, hbound.tickets⟩
      intro other hother
      rcases List.mem_append.mp hother with hold | hnew
      · exact hbound.waiting other hold
      · rcases JoinTicket.verify_eq_ok.mp hverify with ⟨-, hpool, hround, -⟩
        rw [List.mem_singleton.mp hnew]
        exact ⟨hpool, hround⟩
  | @submitted position ticket _ _ _ hwaiting htaken =>
      rcases admitTicket_eq_ok htaken with ⟨-, -, id, tickets, events, hid, hrows, rfl⟩
      refine ⟨hbound.eraseIdx position, ?_⟩
      intro row hrow
      rw [hrows] at hrow
      rcases List.mem_append.mp hrow with hold | hnew
      · exact hbound.tickets row hold
      · rcases hbound.waiting ticket (List.mem_of_getElem? hwaiting) with ⟨hpool, hround⟩
        rw [List.mem_singleton.mp hnew]
        exact ⟨hpool, by rw [← hround, hid]; rfl⟩
  | rejected => exact ⟨hbound.eraseIdx _, hbound.tickets⟩
  | abandoned => exact ⟨hbound.eraseIdx _, hbound.tickets⟩
  | sealed => exact ⟨hbound.waiting, by rw [hsame rfl]; exact hbound.tickets⟩
  | restarted => exact ⟨by simp [Coordinator.new], by rw [hsame rfl]; exact hbound.tickets⟩
  | _ => exact ⟨hbound.waiting, hbound.tickets⟩

/-- At every moment only tickets of the configured round are admitted. -/
theorem bound_run (h : Blake3 D) (ed : Ed25519) (config : CoordinatorConfig D) (now : Instant)
    (calls : List (CoordinatorCall D)) :
    BoundToRound config (coordinatorAfter h ed config now calls) ∧
      ∀ v ∈ coordinatorHistory h ed config now calls, BoundToRound config v.before := by
  have hstart : BoundToRound config (Coordinator.fresh h now) := ⟨by simp, by simp⟩
  rcases Runs.run_invariant (BoundToRound config) hstart
    (fun v hv hbefore => (coordinatorStep_of_mem_visits hv).bound hbefore) with ⟨hend, hall⟩
  exact ⟨hend, fun v hv => (hall v hv).1⟩

/-- When only tickets of the configured round are in the store, its tickets are
all there are. -/
theorem BoundToRound.ticketsOf_eq (hbound : BoundToRound config s) {id : Int}
    (hid : asI64 config.binding.roundId = .ok id) :
    Store.ticketsOf s.store config.binding.poolId id = s.store.joinTickets.rows := by
  refine List.filter_eq_self.mpr ?_
  intro row hrow
  rcases hbound.tickets row hrow with ⟨hrowPool, hrowId⟩
  have hsame : id = row.roundId := Except.ok.inj (hid.symm.trans hrowId)
  simp [hrowPool, hsame]

/-! ## Acknowledged submissions -/

/-- The commitments in the store. -/
def commitmentsOf (s : Coordinator D) : List D :=
  s.store.joinTickets.rows.map JoinTicketRow.commitment

/-- A call adds the commitment that it acknowledges. -/
theorem CoordinatorStep.commitmentsOf_eq {call : CoordinatorCall D}
    {reply : Except CoordinatorError (CoordinatorReply D)}
    (hstep : CoordinatorStep h ed config call reply s s') :
    commitmentsOf s' = commitmentsOf s ++ (submission reply).toList := by
  cases hreply : submission reply with
  | none =>
      unfold commitmentsOf
      rw [hstep.joinTickets_eq hreply, Option.toList_none, List.append_nil]
  | some commitment =>
      cases hstep with
      | submitted _ htaken =>
          rcases admitTicket_eq_ok htaken with ⟨-, rfl, id, tickets, events, -, hrows, rfl⟩
          cases hreply
          simp [commitmentsOf, hrows, ticketRow]
      | _ => simp [submission] at hreply

/-- The commitments in the store are those that were acknowledged. -/
theorem commitmentsOf_run (s : Coordinator D) (calls : List (CoordinatorCall D)) :
    commitmentsOf (Runs.run (coordinatorStep h ed config) s calls) =
      commitmentsOf s ++
        submissions h ed config (Runs.visits (coordinatorStep h ed config) s calls) := by
  induction calls generalizing s with
  | nil => simp [submissions]
  | cons call calls ih =>
      have hstep := coordinatorStep_perform h ed config call s
      rw [Runs.run_cons, ih, Runs.visits_cons, coordinatorStep, hstep.commitmentsOf_eq]
      simp only [submissions, CoordinatorVisit.reply, List.filterMap_cons]
      cases submission (call.perform h ed config s).1 <;> simp

/-- From a newly opened database, the commitments in the store are exactly those
that were acknowledged, in the same order. -/
theorem commitmentsOf_eq_submissions (h : Blake3 D) (ed : Ed25519) (config : CoordinatorConfig D)
    (now : Instant) (calls : List (CoordinatorCall D)) :
    commitmentsOf (coordinatorAfter h ed config now calls) =
      submissions h ed config (coordinatorHistory h ed config now calls) := by
  have hstart : commitmentsOf (Coordinator.fresh h now) = [] := by simp [commitmentsOf]
  rw [coordinatorAfter, commitmentsOf_run, hstart, List.nil_append]

/-! ## Seals -/

/-- The root row of the configured round. -/
structure RootRow (config : CoordinatorConfig D) (db : Database D) (row : CohortRootRow D) :
    Prop where
  mem : row ∈ db.cohortRoots.rows
  poolId_eq : row.poolId = config.binding.poolId
  roundId_eq : asI64 config.binding.roundId = .ok row.roundId

/-- There is no root row at the start. -/
theorem not_rootRow_fresh {row : CohortRootRow D} :
    ¬RootRow config (Coordinator.fresh h now).store row := by
  intro hrow
  simpa using hrow.mem

/-- A seal reply names a root in the database. -/
theorem CoordinatorStep.seal_row {call : CoordinatorCall D}
    {reply : Except CoordinatorError (CoordinatorReply D)} {root : D} {count : UInt32}
    (hstep : CoordinatorStep h ed config call reply s s')
    (hreply : reply = .ok (.sealed root count)) :
    ∃ row, RootRow config s'.store row ∧ row.root = root ∧ row.cohortSize = count.toNat := by
  rcases hstep.storeStep with ⟨storeCall, storeReply, hstore, hforwards⟩
  rcases (hforwards.sealed root count).mpr hreply with rfl
  rcases hforwards.round root count hreply with rfl
  generalize s.store = db at hstore
  generalize s'.store = db' at hstore ⊢
  cases hstore with
  | @cohortSealed _ _ _ _ id _ _ _ _ _ _ _ hid _ _ _ _ _ hroots _ _ =>
      exact ⟨⟨config.binding.poolId, id, root, count.toNat⟩, ⟨by simp [hroots], rfl, hid⟩, rfl, rfl⟩
  | sealedBefore hrow hpool hid hcount =>
      exact ⟨_, ⟨hrow, hpool, hid⟩, rfl, u32Column_eq_ok.mp hcount⟩

/-- The root of the configured round was the reply of a seal. -/
theorem seal_of_rootRow {row : CohortRootRow D}
    (hrow : RootRow config (coordinatorAfter h ed config now calls).store row) :
    ∃ v ∈ coordinatorHistory h ed config now calls, ∃ count : UInt32,
      v.reply h ed config = .ok (.sealed row.root count) ∧ row.cohortSize = count.toNat := by
  have hstart : row ∉ (Coordinator.fresh h now).store.cohortRoots.rows := by simp
  rcases Runs.exists_visit_turning
    (fun current : Coordinator D => row ∈ current.store.cohortRoots.rows) hstart hrow.mem with
    ⟨v, hv, hbefore, hafter⟩
  rcases (coordinatorStep_of_mem_visits hv).storeStep with ⟨_, _, hstore, hforwards⟩
  rcases hstore.root_new hbefore hafter with ⟨_, _, count, _, _, hsealing⟩
  exact ⟨v, hv, count, (hforwards.sealed _ _).mp hsealing.reply_eq, hsealing.cohortSize_eq⟩

/-- A stored proof is found. -/
theorem perform_proof_of_mem {row : CohortProofRow D} (hrow : row ∈ s.store.cohortProofs.rows)
    (hpool : row.poolId = config.binding.poolId)
    (hid : asI64 config.binding.roundId = .ok row.roundId) :
    (CoordinatorCall.proof row.commitment).perform h ed config s =
      (.ok (.proof (some row.proofJson)), s) := by
  have hfind : s.store.cohortProofs.rows.find?
      (fun found => found.poolId = config.binding.poolId ∧ found.roundId = row.roundId ∧
        found.commitment = row.commitment) = some row :=
    Table.find?_eq_some hrow (by simp [hpool])
  have hread : proofRequest config row.commitment s.store =
      (.ok (some row.proofJson), s.store) := by
    simp only [proofRequest, reportAs_eq_ok, Store.proof, Sessions.bind_eq_ok, lift_eq_ok,
      query_eq_ok]
    exact ⟨row.roundId, s.store, ⟨hid, rfl⟩, by simp only [hfind, Option.map_some], rfl⟩
  simp only [CoordinatorCall.perform, hread]

end MirrorPool
