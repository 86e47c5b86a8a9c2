import MirrorPool.Coordinator.HttpHistory
import MirrorPool.Coordinator.Register

/-!
# Refusals of the HTTP service

Which requests are refused, and with which status, is decided by the register
behind the tables.  A service whose bounds make sense sends an internal error to
nobody but a client that asks for the seal before there are enough tickets; no
row, no column and no stored proof is ever the reason of a failure.

Main results:

- Theorem {lit}`HttpService.resume_response`: what a client that waited is told.
- Theorem {lit}`HttpService.seal_early` and {lit}`HttpService.exists_seal_response`:
  what a client that seals is told.
- Theorem {lit}`HttpService.refusals_exact`: after every history, the requests that
  fail internally, and those that are in conflict.
-/

namespace MirrorPool

open Fallible Sessions Tables

namespace HttpService

variable {service : HttpService} {now : Instant} {events : List HttpEvent} {id : Int}
variable {s : Coordinator Digest32} {r : Register service.hash}

/-- After every history the tables hold a register. -/
theorem exists_register (now : Instant) (events : List HttpEvent)
    (hid : asI64 service.config.binding.roundId = .ok id) :
    ∃ r : Register service.hash, Represents service.config id (service.after now events) r := by
  rw [← coordinatorAfter_eq]
  have hsim := simulates_register service.hash service.signatures hid
  exact ⟨_, hsim.run (represents_fresh now) _⟩

/-- The coordinator replies as its register. -/
theorem replyOf_eq (hrep : Represents service.config id s r)
    (hid : asI64 service.config.binding.roundId = .ok id) (call : CoordinatorCall Digest32) :
    service.replyOf call s = (Register.perform service.signatures service.config call r).1 :=
  (hrep.perform hid call).1

/-- The status of a response, when there is one. -/
def statusOf (response : Option Response) : Option StatusCode :=
  response.map Response.status

/-! ## Tickets -/

/-- A client that waited gets its acknowledgement, unless the register is full or
has its commitment or its key. -/
theorem resume_response (hrep : Represents service.config id s r)
    (hid : asI64 service.config.binding.roundId = .ok id) {position : Nat}
    {ticket : JoinTicket Digest32} (hticket : s.waiting[position]? = some ticket) :
    (service.serve (.resume position) s).1 =
      if service.config.maximumParticipants.toNat ≤ r.accepted.length then
        some (service.intoResponse (.coordinator .cohortFull))
      else if ∃ other ∈ r.accepted, Register.Repeats service.hash ticket other then
        some (service.intoResponse (.coordinator (.store .duplicateTicket)))
      else
        some ⟨.ok, .ticketAccepted (ticket.commitment service.hash)⟩ := by
  rw [hrep.waiting] at hticket
  rw [serve, resume, answer_handle, replyOf_eq hrep hid]
  simp only [Register.perform, hticket, Register.accept]
  split
  · rfl
  · split <;> rfl

/-- Without a ticket there is no response. -/
theorem resume_response_none (hrep : Represents service.config id s r)
    (hid : asI64 service.config.binding.roundId = .ok id) {position : Nat}
    (hticket : s.waiting[position]? = none) : (service.serve (.resume position) s).1 = none := by
  rw [hrep.waiting] at hticket
  rw [serve, resume, answer_handle, replyOf_eq hrep hid]
  simp only [Register.perform, hticket]
  rfl

/-! ## Seals -/

/-- A client that seals too early gets an internal error. -/
theorem seal_early (hrep : Represents service.config id s r)
    (hid : asI64 service.config.binding.roundId = .ok id) (hnone : r.cohort = none)
    (hfew : r.accepted.length < service.config.minimumParticipants.toNat) :
    (service.serve .sealCohort s).1 =
      some (service.intoResponse (.coordinator (.store .thresholdNotReached))) := by
  rw [serve, sealCohort, answer_handle, replyOf_eq hrep hid]
  simp only [Register.perform, Register.sealCohort, hnone, if_pos hfew]
  rfl

/-- The commitments of a register are distinct. -/
theorem nodup_accepted (hrep : Represents service.config id s r) :
    (r.accepted.map (·.commitment service.hash)).Nodup := by
  have hnodup := commitments_nodup s.store.joinTickets
  rw [hrep.tickets, List.map_map] at hnodup
  exact hnodup

/-- Every other client that seals gets the cohort. -/
theorem exists_seal_response (hrep : Represents service.config id s r)
    (hid : asI64 service.config.binding.roundId = .ok id)
    (hmin : 0 < service.config.minimumParticipants.toNat)
    (hmax : service.config.maximumParticipants.toNat ≤ maxLeaves)
    (hready : r.cohort ≠ none ∨
      service.config.minimumParticipants.toNat ≤ r.accepted.length) :
    ∃ count root, (service.serve .sealCohort s).1 = some ⟨.ok, .cohort count root⟩ := by
  have hreply (cohort : MerkleCohort service.hash) :
      ∃ root, Register.sealedReply cohort = .ok (.sealed root (.ofNat cohort.leaves.length)) := by
    rcases cohort.exists_root with ⟨root, -, hroot⟩
    exact ⟨root, by rw [Register.sealedReply, hroot]⟩
  rw [serve, sealCohort, answer_handle, replyOf_eq hrep hid]
  simp only [Register.perform, Register.sealCohort]
  cases hcohort : r.cohort with
  | some cohort =>
      rcases hreply cohort with ⟨root, hsealed⟩
      simp only [hsealed]
      exact ⟨_, _, rfl⟩
  | none =>
      have hmany := hready.resolve_left (not_not.mpr hcohort)
      have hroom := hrep.room
      have hne : r.accepted.map (·.commitment service.hash) ≠ [] := by
        intro hnil
        rw [List.map_eq_nil_iff] at hnil
        rw [hnil, List.length_nil] at hmany
        omega
      rcases MerkleCohort.exists_build service.hash hne
        (by rw [List.length_map]; omega) (nodup_accepted hrep) with ⟨cohort, hbuild⟩
      rcases hreply cohort with ⟨root, hsealed⟩
      rw [if_neg (by omega)]
      simp only [hbuild, hsealed]
      exact ⟨_, _, rfl⟩

/-- There is a cohort exactly when it was sent to somebody. -/
theorem cohort_eq_none_iff {r : Register service.hash}
    (hrep : Represents service.config id (service.after now events) r)
    (hid : asI64 service.config.binding.roundId = .ok id) :
    r.cohort = none ↔ ∀ v ∈ service.history now events, ∀ count root,
      service.response v ≠ some ⟨.ok, .cohort count root⟩ := by
  constructor
  · intro hnone v hv count root hresponse
    rcases rootRow_of_cohort hresponse with ⟨row, hrow, -⟩
    rw [← Runs.after_of_mem_visits hv] at hrow
    have hend := rootRow_grows hrow (grows_of_mem_history hv)
    exact hrep.no_root hnone row hend.mem
      ⟨hend.poolId_eq, Except.ok.inj (hend.roundId_eq.symm.trans hid)⟩
  · intro hunsent
    cases hcohort : r.cohort with
    | none => rfl
    | some cohort =>
        rcases cohort.exists_root with ⟨root, -, hroot⟩
        have hmem := (hrep.roots _).mpr ⟨cohort, root, hcohort, hroot, rfl⟩
        rcases exists_cohort ⟨hmem, rfl, hid⟩ with ⟨v, hv, count, hresponse⟩
        exact absurd hresponse (hunsent v hv _ _)

/-- As many tickets are in the register as were acknowledged. -/
theorem length_accepted {r : Register service.hash}
    (hrep : Represents service.config id (service.after now events) r) :
    r.accepted.length = (service.acknowledgments (service.history now events)).length := by
  rw [← commitmentsOf_after, commitmentsOf, List.length_map, hrep.tickets, List.length_map]

/-! ## All requests -/

/-- The limiter has one reason to refuse. -/
theorem checkRate_error {config : CoordinatorConfig Digest32} {arrived resetAt : Instant}
    {rate rate' : RateState} {error : CoordinatorError}
    (hcheck : checkRate config arrived resetAt rate = (.error error, rate')) :
    error = .rateLimited := by
  unfold checkRate at hcheck
  generalize (if rateWindow ≤ arrived - rate.windowStarted then
    (⟨resetAt, 0⟩ : RateState) else rate) = current at hcheck
  simp only at hcheck
  split at hcheck
  · exact (Except.error.inj (Prod.mk.inj hcheck).1).symm
  · cases hcheck

/-- The statuses of a request to submit. -/
theorem status_submit {request : TicketRequest} {slot : Option UInt64} {arrived resetAt : Instant}
    {status : StatusCode}
    (hstatus : statusOf (service.serve (.submit request slot arrived resetAt) s).1 =
      some status) :
    status ∈ [.unsupportedMediaType, .payloadTooLarge, .badRequest, .unprocessableEntity,
      .serviceUnavailable, StatusCode.tooManyRequests] := by
  rw [serve] at hstatus
  cases hread : service.ticketOf request with
  | error found =>
      simp only [hread] at hstatus
      rcases Option.some.inj hstatus with rfl
      exact List.mem_append_left [_, _] (status_of_ticketOf hread)
  | ok ticket =>
      simp only [hread] at hstatus
      cases slot with
      | none =>
          rcases Option.some.inj hstatus with rfl
          exact of_decide_eq_true rfl
      | some slot =>
          rw [submit_some, answer_handle, replyOf] at hstatus
          simp only [CoordinatorCall.perform] at hstatus
          rcases hcheck : checkRate service.config arrived resetAt s.rate with ⟨error | _, rate⟩
          · rcases checkRate_error hcheck with rfl
            rw [hcheck] at hstatus
            rcases Option.some.inj hstatus with rfl
            exact of_decide_eq_true rfl
          · simp only [hcheck] at hstatus
            split at hstatus
            · rcases Option.some.inj hstatus with rfl
              exact of_decide_eq_true rfl
            · cases hstatus

/-- The statuses of a request for a proof. -/
theorem status_proof (hrep : Represents service.config id s r)
    (hid : asI64 service.config.binding.roundId = .ok id) {hexValue : List UInt8}
    {status : StatusCode}
    (hstatus : statusOf (service.serve (.proof hexValue) s).1 = some status) :
    status ∈ [.badRequest, .notFound, StatusCode.ok] := by
  rw [serve] at hstatus
  cases hparse : Digest32.parse hexValue with
  | none =>
      rw [answer_proof_of_parse_eq_none hparse] at hstatus
      rcases Option.some.inj hstatus with rfl
      exact of_decide_eq_true rfl
  | some commitment =>
      rw [proof_of_parse hparse, answer_handle, replyOf_eq hrep hid] at hstatus
      simp only [Register.perform] at hstatus
      cases hproof : r.proofOf service.config.binding.roundId commitment with
      | none =>
          rw [hproof] at hstatus
          rcases Option.some.inj hstatus with rfl
          exact of_decide_eq_true rfl
      | some found =>
          rw [hproof] at hstatus
          rcases Option.some.inj hstatus with rfl
          exact of_decide_eq_true rfl

/-- The requests that are refused because of what is stored.  One that asks for the
seal of too few tickets is the only one that fails internally, and a ticket that
finds no room, or its commitment or its key, is the only one in conflict. -/
structure ExactRefusals (service : HttpService) (now : Instant) (events : List HttpEvent) :
    Prop where
  internal : ∀ event, statusOf (service.serve event (service.after now events)).1 =
      some .internalServerError ↔
    event = .sealCohort ∧
      (∀ v ∈ service.history now events, ∀ count root,
        service.response v ≠ some ⟨.ok, .cohort count root⟩) ∧
      (service.acknowledgments (service.history now events)).length <
        service.config.minimumParticipants.toNat
  conflict : ∀ event, statusOf (service.serve event (service.after now events)).1 =
      some .conflict ↔
    ∃ position ticket, event = .resume position ∧
      (service.after now events).waiting[position]? = some ticket ∧
      (service.config.maximumParticipants.toNat ≤
          (service.acknowledgments (service.history now events)).length ∨
        ∃ row ∈ (service.after now events).store.joinTickets.rows,
          row.commitment = ticket.commitment service.hash ∨
            row.coordinationKey = ticket.coordinationPublicKey)

/-- A seal has one of two responses. -/
theorem status_sealCohort (hrep : Represents service.config id s r)
    (hid : asI64 service.config.binding.roundId = .ok id)
    (hmin : 0 < service.config.minimumParticipants.toNat)
    (hmax : service.config.maximumParticipants.toNat ≤ maxLeaves) :
    statusOf (service.serve .sealCohort s).1 =
      if r.cohort = none ∧ r.accepted.length < service.config.minimumParticipants.toNat then
        some .internalServerError
      else some .ok := by
  split
  · rename_i hearly
    rw [seal_early hrep hid hearly.1 hearly.2]
    rfl
  · rename_i hready
    have hready' : r.cohort ≠ none ∨
        service.config.minimumParticipants.toNat ≤ r.accepted.length := by
      by_cases hnone : r.cohort = none
      · exact Or.inr (Nat.le_of_not_lt fun hfew => hready ⟨hnone, hfew⟩)
      · exact Or.inl hnone
    rcases exists_seal_response hrep hid hmin hmax hready' with ⟨count, root, hresponse⟩
    rw [hresponse]
    rfl

/-- A client that waited is told one of three things. -/
theorem status_resume (hrep : Represents service.config id s r)
    (hid : asI64 service.config.binding.roundId = .ok id) {position : Nat}
    {ticket : JoinTicket Digest32} (hticket : s.waiting[position]? = some ticket) :
    statusOf (service.serve (.resume position) s).1 =
      if service.config.maximumParticipants.toNat ≤ r.accepted.length ∨
          ∃ other ∈ r.accepted, Register.Repeats service.hash ticket other then
        some .conflict
      else some .ok := by
  rw [resume_response hrep hid hticket]
  by_cases hfull : service.config.maximumParticipants.toNat ≤ r.accepted.length
  · rw [if_pos hfull, if_pos (Or.inl hfull)]
    rfl
  · by_cases hrepeats : ∃ other ∈ r.accepted, Register.Repeats service.hash ticket other
    · rw [if_neg hfull, if_pos hrepeats, if_pos (Or.inr hrepeats)]
      rfl
    · rw [if_neg hfull, if_neg hrepeats, if_neg (not_or.mpr ⟨hfull, hrepeats⟩)]
      rfl

/-- The rows that a ticket repeats are those of the register. -/
theorem exists_row_iff (hrep : Represents service.config id s r) (ticket : JoinTicket Digest32) :
    (∃ row ∈ s.store.joinTickets.rows, row.commitment = ticket.commitment service.hash ∨
        row.coordinationKey = ticket.coordinationPublicKey) ↔
      ∃ other ∈ r.accepted, Register.Repeats service.hash ticket other := by
  simp only [hrep.tickets, List.mem_map, exists_exists_and_eq_and]
  rfl

/-- A client that waited is in conflict when there is no room, or when its
commitment or its key is in the table. -/
theorem conflict_iff (hrep : Represents service.config id s r)
    (hid : asI64 service.config.binding.roundId = .ok id) {position : Nat}
    {ticket : JoinTicket Digest32} (hticket : s.waiting[position]? = some ticket) :
    statusOf (service.serve (.resume position) s).1 = some .conflict ↔
      service.config.maximumParticipants.toNat ≤ r.accepted.length ∨
        ∃ row ∈ s.store.joinTickets.rows, row.commitment = ticket.commitment service.hash ∨
          row.coordinationKey = ticket.coordinationPublicKey := by
  rw [status_resume hrep hid hticket, exists_row_iff hrep]
  split
  · rename_i hreason
    exact iff_of_true rfl hreason
  · rename_i hreason
    exact iff_of_false (fun hsome => by cases hsome) hreason

/-- No other request is refused because of what is stored. -/
theorem status_other (hrep : Represents service.config id s r)
    (hid : asI64 service.config.binding.roundId = .ok id) {event : HttpEvent}
    (hseal : event ≠ .sealCohort) (hresume : ∀ position, event ≠ .resume position) :
    statusOf (service.serve event s).1 ≠ some .internalServerError ∧
      statusOf (service.serve event s).1 ≠ some .conflict := by
  cases event with
  | submit request slot arrived resetAt =>
      exact ⟨fun hstatus => absurd (status_submit hstatus) (by decide),
        fun hstatus => absurd (status_submit hstatus) (by decide)⟩
  | proof hexValue =>
      exact ⟨fun hstatus => absurd (status_proof hrep hid hstatus) (by decide),
        fun hstatus => absurd (status_proof hrep hid hstatus) (by decide)⟩
  | resume position => exact absurd rfl (hresume position)
  | sealCohort => exact absurd rfl hseal
  | _ => exact ⟨by simp [serve, statusOf], by simp [serve, statusOf]⟩

/-- After every history, a service whose bounds make sense fails internally on a
seal that comes too early and on nothing else, and reports a conflict exactly for a
waiting ticket that finds no room, or its commitment or its key. -/
theorem refusals_exact (hid : service.config.binding.roundId.toNat < 2 ^ 63)
    (hmin : 0 < service.config.minimumParticipants.toNat)
    (hmax : service.config.maximumParticipants.toNat ≤ maxLeaves) (now : Instant)
    (events : List HttpEvent) : ExactRefusals service now events := by
  have hid' := asI64_eq_ok.mpr ⟨hid, rfl⟩
  rcases exists_register now events hid' with ⟨r, hrep⟩
  have hseal := status_sealCohort hrep hid' hmin hmax
  constructor
  · intro event
    rw [← cohort_eq_none_iff hrep hid', ← length_accepted hrep]
    by_cases hsealing : event = .sealCohort
    · rw [hsealing, hseal]
      simp
    · have hstatus : statusOf (service.serve event (service.after now events)).1 ≠
          some .internalServerError := by
        by_cases hresuming : ∃ position, event = .resume position
        · rcases hresuming with ⟨position, rfl⟩
          cases hticket : (service.after now events).waiting[position]? with
          | none =>
              rw [resume_response_none hrep hid' hticket]
              exact fun hsome => by cases hsome
          | some ticket =>
              rw [status_resume hrep hid' hticket]
              split <;> simp
        · exact (status_other hrep hid' hsealing (not_exists.mp hresuming)).1
      exact iff_of_false hstatus fun hearly => hsealing hearly.1
  · intro event
    rw [← length_accepted hrep]
    by_cases hresuming : ∃ position, event = .resume position
    · rcases hresuming with ⟨position, rfl⟩
      cases hticket : (service.after now events).waiting[position]? with
      | none =>
          rw [resume_response_none hrep hid' hticket]
          refine iff_of_false (fun hsome => by cases hsome) ?_
          rintro ⟨_, ticket, hsame, hfound, -⟩
          rw [← HttpEvent.resume.inj hsame, hticket] at hfound
          cases hfound
      | some ticket =>
          rw [conflict_iff hrep hid' hticket]
          constructor
          · intro hreason
            exact ⟨position, ticket, rfl, hticket, hreason⟩
          · rintro ⟨_, found, hsame, hfound, hreason⟩
            rw [← HttpEvent.resume.inj hsame, hticket] at hfound
            rcases Option.some.inj hfound with rfl
            exact hreason
    · have hstatus : statusOf (service.serve event (service.after now events)).1 ≠
          some .conflict := by
        by_cases hsealing : event = .sealCohort
        · rw [hsealing, hseal]
          split <;> simp
        · exact (status_other hrep hid' hsealing (not_exists.mp hresuming)).2
      refine iff_of_false hstatus ?_
      rintro ⟨position, _, hsame, -⟩
      exact hresuming ⟨position, hsame⟩

/-- A ticket under a key. -/
def demoSubmitted (key : UInt8) : JoinTicket Digest32 :=
  sampleTicket ⟨.replicate 32 1⟩ ⟨.replicate 32 2⟩ ⟨.replicate 32 3⟩ key

/-- A service for one to four participants. -/
def demoService : HttpService where
  config :=
    { binding := ⟨⟨.replicate 32 1⟩, 7, ⟨.replicate 32 2⟩⟩
      minimumParticipants := 1
      maximumParticipants := 4
      requestsPerMinute := 10 }
  maxBodyBytes := 1024
  hash := ⟨fun message => ⟨.replicate 32 (message.headD 0)⟩, fun digest => digest.bytes.toList⟩
  signatures := ⟨fun _ => true, fun _ _ _ => true⟩
  readTicket body := .ok (demoSubmitted (body.headD 0))
  sqliteText _ := ""
  serializationText := ""

/-- One ticket is taken, and sent once more. -/
def demoEvents : List HttpEvent :=
  [.submit ⟨true, [1]⟩ (some 50) 0 0, .resume 0, .submit ⟨true, [1]⟩ (some 50) 0 0]

/-- The second time it is in conflict, and the seal is not refused. -/
theorem refusals_exact_demo :
    statusOf (demoService.serve (.resume 0) (demoService.after 0 demoEvents)).1 =
        some .conflict ∧
      statusOf (demoService.serve .sealCohort (demoService.after 0 demoEvents)).1 ≠
        some .internalServerError := by
  have hexact : ExactRefusals demoService 0 demoEvents :=
    refusals_exact (by decide) (by decide) (by decide) 0 demoEvents
  have hwaiting : (demoService.after 0 demoEvents).waiting[0]? = some (demoSubmitted 1) := by
    decide +kernel
  have hrow : ∃ row ∈ (demoService.after 0 demoEvents).store.joinTickets.rows,
      row.commitment = (demoSubmitted 1).commitment demoService.hash ∨
        row.coordinationKey = (demoSubmitted 1).coordinationPublicKey := by
    decide +kernel
  have hcount : (demoService.acknowledgments (demoService.history 0 demoEvents)).length = 1 := by
    decide +kernel
  constructor
  · exact (hexact.conflict (.resume 0)).mpr ⟨0, demoSubmitted 1, rfl, hwaiting, Or.inr hrow⟩
  · intro hinternal
    have hfew := ((hexact.internal .sealCohort).mp hinternal).2.2
    rw [hcount] at hfew
    exact absurd hfew (by decide)

end HttpService

end MirrorPool
