import MirrorPool.Coordinator.Admission
import MirrorPool.Coordinator.Http
import MirrorPool.Coordinator.LateTickets

/-!
# Histories of the HTTP service

What the clients of the service can rely on, over every interleaving of their
requests with restarts and dropped requests.  An acknowledgement is never lost
and never sent for nothing, all clients see one cohort, and a client that was
acknowledged before the seal can fetch a proof ever after.

Main results:

- Theorem {lit}`HttpService.acknowledgments_exact`: the stored tickets are those
  that were acknowledged, and a refusal leaves no trace in the database.
- Theorem {lit}`HttpService.clients_agree`: one cohort, whose proofs verify and are
  served.
-/

namespace MirrorPool

open Sessions Tables

namespace HttpService

variable (service : HttpService)

/-- One event with the coordinators on its two sides. -/
abbrev HttpVisit := Runs.Visit (Coordinator Digest32) HttpEvent

/-- All events in order, from a coordinator over a newly opened database. -/
abbrev history (now : Instant) (events : List HttpEvent) : List HttpVisit :=
  Runs.visits service.step (Coordinator.fresh service.hash now) events

/-- The coordinator at the end. -/
abbrev after (now : Instant) (events : List HttpEvent) : Coordinator Digest32 :=
  Runs.run service.step (Coordinator.fresh service.hash now) events

/-- The response of an event. -/
def response (v : HttpVisit) : Option Response :=
  (service.serve v.input v.before).1

/-- The commitment that a response acknowledges. -/
def acknowledged : Option Response → Option Digest32
  | some ⟨.ok, .ticketAccepted commitment⟩ => some commitment
  | _ => none

/-- The commitments acknowledged in a history, in order. -/
def acknowledgments (visits : List HttpVisit) : List Digest32 :=
  visits.filterMap fun v => acknowledged (service.response v)

/-! ## Histories of the coordinator -/

variable {service} {now : Instant} {events : List HttpEvent}

/-- An event, as the coordinator sees it. -/
def onCoordinator (service : HttpService) (v : HttpVisit) : Option (CoordinatorVisit Digest32) :=
  Runs.Visit.filterMap id service.callOf v

/-- The coordinator after a history of the service is that after the parts of the
requests that reached it. -/
theorem coordinatorAfter_eq :
    coordinatorAfter service.hash service.signatures service.config now
        (events.filterMap service.callOf) = service.after now events := by
  apply @Runs.run_filterMap _ _ service.step _ _
    (coordinatorStep service.hash service.signatures service.config) id service.callOf
  intro s event
  exact serve_state event s

/-- The history of the coordinator is what it sees of the history of the
service. -/
theorem coordinatorHistory_eq :
    coordinatorHistory service.hash service.signatures service.config now
        (events.filterMap service.callOf) =
      (service.history now events).filterMap service.onCoordinator := by
  apply @Runs.visits_filterMap _ _ service.step _ _
    (coordinatorStep service.hash service.signatures service.config) id service.callOf
  · intro v hv call hcall
    rw [Runs.after_of_mem_visits hv, id, id, serve_state, hcall, Option.elim_some]
  · intro v hv hcall
    rw [Runs.after_of_mem_visits hv, id, id, serve_state, hcall, Option.elim_none]

theorem onCoordinator_eq_some {v : HttpVisit} {w : CoordinatorVisit Digest32} :
    service.onCoordinator v = some w ↔
      service.callOf v.input = some w.input ∧ v.before = w.before ∧ v.after = w.after := by
  rcases v with ⟨before, event, after⟩
  rcases w with ⟨before', call, after'⟩
  simp only [onCoordinator, Runs.Visit.filterMap, Option.map_eq_some_iff, id, Runs.Visit.mk.injEq]
  constructor
  · rintro ⟨call', hcall, rfl, rfl, rfl⟩
    exact ⟨hcall, rfl, rfl⟩
  · rintro ⟨hcall, rfl, rfl⟩
    exact ⟨call, hcall, rfl, rfl, rfl⟩

theorem submission_eq_some {reply : Except CoordinatorError (CoordinatorReply Digest32)}
    {commitment : Digest32} :
    submission reply = some commitment ↔ reply = .ok (.submitted commitment) := by
  unfold submission
  split
  · simp
  · rename_i hother
    simpa using hother commitment

theorem admitWaiting_of_submitted {call : CoordinatorCall Digest32} {s : Coordinator Digest32}
    {commitment : Digest32} (hreply : service.replyOf call s = .ok (.submitted commitment)) :
    ∃ position, call = .admitWaiting position := by
  have hstep := coordinatorStep_perform service.hash service.signatures service.config call s
  rw [replyOf] at hreply
  rw [hreply] at hstep
  generalize (call.perform service.hash service.signatures service.config s).2 = s' at hstep
  cases hstep
  exact ⟨_, rfl⟩

theorem sealCohort_of_sealed {call : CoordinatorCall Digest32} {s : Coordinator Digest32}
    {root : Digest32} {count : UInt32}
    (hreply : service.replyOf call s = .ok (.sealed root count)) :
    call = .sealCohort := by
  have hstep := coordinatorStep_perform service.hash service.signatures service.config call s
  rw [replyOf] at hreply
  rw [hreply] at hstep
  generalize (call.perform service.hash service.signatures service.config s).2 = s' at hstep
  cases hstep
  rfl

/-- A response acknowledges a ticket exactly when it is sent for an admitted
one. -/
theorem acknowledged_eq_some {found : Option Response} {commitment : Digest32} :
    acknowledged found = some commitment ↔ found = some ⟨.ok, .ticketAccepted commitment⟩ := by
  unfold acknowledged
  split
  · simp
  · rename_i hother
    simpa using fun hfound => hother commitment hfound

/-- A ticket is acknowledged exactly when the coordinator admits it. -/
theorem acknowledged_response (v : HttpVisit) :
    acknowledged (service.response v) = (service.onCoordinator v).bind fun w =>
      submission (service.replyOf w.input w.before) := by
  ext commitment
  rw [acknowledged_eq_some, response, serve_eq_ok_iff, Option.bind_eq_some_iff]
  constructor
  · intro hsuccess
    rcases v with ⟨before, event, after⟩
    cases hsuccess with
    | @accepted position _ hreply =>
        refine ⟨⟨before, .admitWaiting position, after⟩,
          onCoordinator_eq_some.mpr ⟨rfl, rfl, rfl⟩, ?_⟩
        rw [hreply, submission]
  · rintro ⟨w, hw, hsubmission⟩
    rcases onCoordinator_eq_some.mp hw with ⟨hcall, hbefore, -⟩
    rw [submission_eq_some] at hsubmission
    rcases admitWaiting_of_submitted hsubmission with ⟨position, hinput⟩
    rw [hinput] at hcall hsubmission
    rw [hbefore, resume_of_callOf hcall]
    exact .accepted hsubmission

/-- The acknowledgements of the service are those of the coordinator. -/
theorem acknowledgments_eq :
    service.acknowledgments (service.history now events) =
      submissions service.hash service.signatures service.config
        (coordinatorHistory service.hash service.signatures service.config now
          (events.filterMap service.callOf)) := by
  rw [coordinatorHistory_eq, submissions, List.filterMap_filterMap, acknowledgments]
  congr 1
  funext v
  rw [acknowledged_response]
  rfl

/-- The stored tickets are those that were acknowledged. -/
theorem commitmentsOf_after :
    commitmentsOf (service.after now events) =
      service.acknowledgments (service.history now events) := by
  rw [acknowledgments_eq, ← commitmentsOf_eq_submissions, coordinatorAfter_eq]

/-! ## Acknowledgements -/

/-- The statuses of requests that do not reach the coordinator, and of proofs that
are not found. -/
def untouching : List StatusCode :=
  [.notFound, .payloadTooLarge, .unsupportedMediaType, .unprocessableEntity, .serviceUnavailable]

theorem status_coordinator_not_mem (error : CoordinatorError) :
    (HandlerError.coordinator error).status ∉ untouching := by
  rcases error with _ | _ | _ | error
  any_goals decide
  cases error <;> exact of_decide_eq_true rfl

/-- Looking up a proof leaves the coordinator as it was. -/
theorem coordinatorStep_proof (s : Coordinator Digest32) (commitment : Digest32) :
    coordinatorStep service.hash service.signatures service.config s (.proof commitment) = s := by
  have hstep := coordinatorStep_perform service.hash service.signatures service.config
    (.proof commitment) s
  rw [coordinatorStep]
  generalize ((CoordinatorCall.proof commitment).perform service.hash service.signatures
    service.config s).1 = reply at hstep
  generalize ((CoordinatorCall.proof commitment).perform service.hash service.signatures
    service.config s).2 = s' at hstep ⊢
  cases hstep <;> rfl

/-- A handler that only passes on what the coordinator reports does not answer
with these statuses. -/
theorem not_mem_untouching
    {body : CoordinatorReply Digest32 → Except HandlerError (Option ResponseBody)}
    {reply : Except CoordinatorError (CoordinatorReply Digest32)} {found : Response}
    (hbody : ∀ r error, body r ≠ .error error)
    (hresponse : service.responseTo body reply = some found) : found.status ∉ untouching := by
  rcases reply with error | r
  · rcases Option.some.inj hresponse with rfl
    exact status_coordinator_not_mem error
  · rcases hr : body r with error | (_ | sent)
    · exact absurd hr (hbody r error)
    · simp [responseTo, hr] at hresponse
    · simp only [responseTo, hr, Option.map_some, Option.some.injEq] at hresponse
      rw [← hresponse]
      exact of_decide_eq_true rfl

/-- A response with one of these statuses leaves the coordinator as it was, the
rate limiter included. -/
theorem step_eq_self {event : HttpEvent} {s : Coordinator Digest32} {found : Response}
    (hresponse : (service.serve event s).1 = some found) (hstatus : found.status ∈ untouching) :
    service.step s event = s := by
  cases event with
  | health => rfl
  | submit request slot now resetAt =>
      cases hcall : service.callOf (.submit request slot now resetAt) with
      | none => rw [serve_state, hcall, Option.elim_none]
      | some call =>
          rcases callOf_submit_eq_some hcall with ⟨ticket, slot', hticket, rfl, -⟩
          simp only [serve, hticket, submit_some, answer_handle] at hresponse
          exact absurd hstatus (not_mem_untouching (fun _ _ => by simp) hresponse)
  | resume position =>
      rw [serve, resume, answer_handle] at hresponse
      refine absurd hstatus (not_mem_untouching (fun r error => ?_) hresponse)
      cases r <;> simp
  | dropWaiting position =>
      rcases Option.some.inj hresponse with rfl
      exact absurd hstatus (by decide)
  | dropEarly => rfl
  | sealCohort =>
      rw [serve, sealCohort, answer_handle] at hresponse
      refine absurd hstatus (not_mem_untouching (fun r error => ?_) hresponse)
      cases r <;> simp
  | proof hexValue =>
      rw [serve_state, callOf]
      cases hparse : Digest32.parse hexValue with
      | none => rfl
      | some commitment =>
          rw [Option.map_some, Option.elim_some, coordinatorStep_proof]
  | restart now => cases hresponse

/-- What the clients can rely on about single responses. -/
structure ExactResponses (service : HttpService) (now : Instant) (events : List HttpEvent) :
    Prop where
  stored : commitmentsOf (service.after now events) =
    service.acknowledgments (service.history now events)
  distinct : (service.acknowledgments (service.history now events)).Nodup
  refused : ∀ v ∈ service.history now events, (∀ body, service.response v ≠ some ⟨.ok, body⟩) →
    (∀ now, v.input ≠ .restart now) → v.after.store = v.before.store
  untouched : ∀ v ∈ service.history now events, ∀ found, service.response v = some found →
    found.status ∈ untouching → v.after = v.before

/-- The stored tickets are those that were acknowledged, one for each
acknowledgement and in the same order; what is refused leaves the database as it
was, and what does not get past the extractors leaves the rate limiter as it
was, too. -/
theorem acknowledgments_exact (service : HttpService) (now : Instant) (events : List HttpEvent) :
    ExactResponses service now events where
  stored := commitmentsOf_after
  distinct := by
    rw [← commitmentsOf_after]
    exact commitments_nodup _
  refused v hv hresponse hrestart := by
    rw [Runs.after_of_mem_visits hv]
    exact step_store hresponse hrestart
  untouched v hv found hresponse hstatus := by
    rw [Runs.after_of_mem_visits hv]
    exact step_eq_self hresponse hstatus

/-! ## One cohort -/

/-- An event removes no rows. -/
theorem grows_step (s : Coordinator Digest32) (event : HttpEvent) :
    Grows s.store (service.step s event).store := by
  rw [serve_state]
  cases service.callOf event with
  | none => exact Grows.refl _
  | some call => exact grows_coordinatorRun s [call]

/-- A run of the service removes no rows. -/
theorem grows_serviceRun (s : Coordinator Digest32) (events : List HttpEvent) :
    Grows s.store (Runs.run service.step s events).store := by
  let R : Coordinator Digest32 → Coordinator Digest32 → Prop := fun first second =>
    Grows first.store second.store
  have hrefl : ∀ first, R first first := fun first => Grows.refl first.store
  have htrans : ∀ first second third, R first second → R second third → R first third :=
    fun _ _ _ => Grows.trans
  refine Runs.run_related hrefl htrans ?_
  intro v hv
  rw [Runs.after_of_mem_visits hv]
  exact grows_step v.before v.input

theorem after_append_cons (earlier later : List HttpEvent) (event : HttpEvent) :
    service.after now (earlier ++ event :: later) =
      Runs.run service.step (service.step (service.after now earlier) event) later :=
  Runs.run_append ..

/-- The database after a visit is kept to the end. -/
theorem grows_of_mem_history {v : HttpVisit} (hv : v ∈ service.history now events) :
    Grows v.after.store (service.after now events).store := by
  rcases Runs.mem_visits.mp hv with ⟨earlier, later, hevents, hbefore, hafter⟩
  rw [hevents, after_append_cons, after, ← hbefore, ← hafter]
  exact grows_serviceRun v.after later

/-- The cohort that a response sends is in the database. -/
theorem rootRow_of_cohort {s : Coordinator Digest32} {event : HttpEvent} {count root : List UInt8}
    (hresponse : (service.serve event s).1 = some ⟨.ok, .cohort count root⟩) :
    ∃ row, RootRow service.config (service.step s event).store row ∧ root = row.root.toHex ∧
      ∃ size : UInt32, row.cohortSize = size.toNat ∧ count = JsonText.jsonNumber size.toNat := by
  have hsuccess := serve_eq_ok_iff.mp hresponse
  cases hsuccess with
  | @sealed root size hreply =>
      have hstep := coordinatorStep_perform service.hash service.signatures service.config
        .sealCohort s
      rw [← replyOf, hreply] at hstep
      rcases hstep.seal_row rfl with ⟨row, hrow, rfl, hsize⟩
      rw [serve_state]
      exact ⟨row, hrow, rfl, size, hsize, rfl⟩

/-- A cohort in the database was sent in a response. -/
theorem exists_cohort {row : CohortRootRow Digest32}
    (hrow : RootRow service.config (service.after now events).store row) :
    ∃ v ∈ service.history now events, ∃ count,
      service.response v = some ⟨.ok, .cohort count row.root.toHex⟩ := by
  rw [← coordinatorAfter_eq] at hrow
  rcases seal_of_rootRow hrow with ⟨w, hw, count, hreply, -⟩
  rw [coordinatorHistory_eq] at hw
  rcases List.mem_filterMap.mp hw with ⟨v, hv, hseen⟩
  rcases onCoordinator_eq_some.mp hseen with ⟨hcall, hbefore, -⟩
  change service.replyOf w.input w.before = _ at hreply
  rw [sealCohort_of_sealed hreply] at hcall hreply
  refine ⟨v, hv, JsonText.jsonNumber count.toNat, serve_eq_ok_iff.mpr ?_⟩
  rw [sealCohort_of_callOf hcall, hbefore]
  exact .sealed hreply

/-- The configured round has one root. -/
theorem rootRow_unique {s : Coordinator Digest32} {row other : CohortRootRow Digest32}
    (hrow : RootRow service.config s.store row) (hother : RootRow service.config s.store other) :
    row = other := by
  refine Table.eq_of_mem_of_key_eq hrow.mem hother.mem (Prod.ext ?_ ?_)
  · rw [hrow.poolId_eq, hother.poolId_eq]
  · exact Except.ok.inj (hrow.roundId_eq.symm.trans hother.roundId_eq)

/-- At every moment the stored proofs are sound. -/
theorem proofsSound_after (service : HttpService) (now : Instant) (events : List HttpEvent) :
    ProofsSound service.hash (service.after now events).store := by
  have hstart : ProofsSound service.hash (Coordinator.fresh service.hash now).store := by
    simp [ProofsSound]
  refine (Runs.run_invariant (fun s : Coordinator Digest32 => ProofsSound service.hash s.store)
    hstart ?_).1
  intro v hv hsound
  rw [Runs.after_of_mem_visits hv, serve_state]
  cases service.callOf v.input with
  | none => exact hsound
  | some call =>
      rcases (coordinatorStep_perform service.hash service.signatures service.config call
        v.before).storeStep with ⟨_, _, hstore, -⟩
      exact hstore.proofsSound hsound

/-- A proof that is served is a stored one. -/
theorem mem_of_proof {s : Coordinator Digest32} {commitment : Digest32}
    {found : CohortProof Digest32}
    (hreply : service.replyOf (.proof commitment) s = .ok (.proof (some found))) :
    ∃ proof ∈ s.store.cohortProofs.rows, proof.poolId = service.config.binding.poolId ∧
      asI64 service.config.binding.roundId = .ok proof.roundId ∧ proof.commitment = commitment ∧
      proof.proofJson = found := by
  simp only [replyOf, CoordinatorCall.perform] at hreply
  split at hreply
  · rename_i looked store hlooked
    rcases CoordinatorReply.proof.inj (Except.ok.inj hreply) with rfl
    simp only [proofRequest, reportAs_eq_ok, Store.proof, Sessions.bind_eq_ok, lift_eq_ok,
      query_eq_ok, Except.ok.injEq, Option.map_eq_some_iff] at hlooked
    rcases hlooked with ⟨id, _, ⟨hid, rfl⟩, ⟨proof, hfind, rfl⟩, rfl⟩
    have hkey := List.find?_some hfind
    simp only [decide_eq_true_eq] at hkey
    exact ⟨proof, List.mem_of_find?_eq_some hfind, hkey.1, by rw [hid, hkey.2.1], hkey.2.2, rfl⟩
  · cases hreply

/-- A proof that is served verifies against the root of the configured round. -/
theorem proof_verifies {hexValue : List UInt8} {found : CohortProof Digest32}
    (hresponse : (service.serve (.proof hexValue) (service.after now events)).1 =
      some ⟨.ok, .proof found⟩) :
    Digest32.parse hexValue = some found.leafHash ∧
      found.leafHash ∈ service.acknowledgments (service.history now events) ∧
      ∃ row, RootRow service.config (service.after now events).store row ∧
        found.verify service.hash row.root service.config.binding.roundId = .ok () := by
  have hsuccess := serve_eq_ok_iff.mp hresponse
  cases hsuccess with
  | proved hparse hreply =>
      rcases mem_of_proof hreply with ⟨proof, hproof, hpool, hid, rfl, rfl⟩
      rcases proofsSound_after service now events proof hproof with
        ⟨hleaf, ⟨ticket, hticket, hcommitment⟩, row, hrow, hrowPool, hrowId, hverify⟩
      have hround := hid.trans (congrArg Except.ok hrowId.symm)
      refine ⟨by rw [hparse, hleaf], ?_, row, ⟨hrow, hrowPool.trans hpool, hround⟩,
        hverify _ hround⟩
      rw [← commitmentsOf_after, hleaf, ← hcommitment]
      exact List.mem_map_of_mem hticket

/-- A root stays in a database that grows. -/
theorem rootRow_grows {s s' : Coordinator Digest32} {row : CohortRootRow Digest32}
    (hrow : RootRow service.config s.store row) (hgrows : Grows s.store s'.store) :
    RootRow service.config s'.store row :=
  ⟨hgrows.roots hrow.mem, hrow.poolId_eq, hrow.roundId_eq⟩

/-- What happened before a visit happened in the whole history. -/
theorem history_subset {earlier later : List HttpEvent} :
    service.history now earlier ⊆ service.history now (earlier ++ later) := by
  rw [history, history, Runs.visits_append]
  exact List.subset_append_left _ _

theorem acknowledgments_subset {first second : List HttpVisit} (hsubset : first ⊆ second) :
    service.acknowledgments first ⊆ service.acknowledgments second := by
  intro commitment hmem
  rcases List.mem_filterMap.mp hmem with ⟨v, hv, hack⟩
  exact List.mem_filterMap.mpr ⟨v, hsubset hv, hack⟩

/-- The first seal covers the tickets that were acknowledged before it. -/
theorem covers_of_first_cohort {count root : List UInt8}
    (hfirst : ∀ v ∈ service.history now events, ∀ count root,
      service.response v ≠ some ⟨.ok, .cohort count root⟩)
    (hresponse : (service.serve .sealCohort (service.after now events)).1 =
      some ⟨.ok, .cohort count root⟩) :
    ∃ row, RootRow service.config (service.step (service.after now events) .sealCohort).store row ∧
      root = row.root.toHex ∧
      count = JsonText.jsonNumber (service.acknowledgments (service.history now events)).length ∧
      Covers service.hash service.config (service.step (service.after now events) .sealCohort) row ∧
      commitmentsOf (service.step (service.after now events) .sealCohort) =
        service.acknowledgments (service.history now events) := by
  rcases rootRow_of_cohort hresponse with ⟨row, hrow, hroot, size, hsize, hcount⟩
  have hold : row ∉ (service.after now events).store.cohortRoots.rows := by
    intro hmem
    rcases exists_cohort ⟨hmem, hrow.poolId_eq, hrow.roundId_eq⟩ with ⟨v, hv, sent, hsent⟩
    exact hfirst v hv _ _ hsent
  have hbound := (bound_run service.hash service.signatures service.config now
    (events.filterMap service.callOf)).1
  rw [coordinatorAfter_eq] at hbound
  have hstep := coordinatorStep_perform service.hash service.signatures service.config .sealCohort
    (service.after now events)
  rw [serve_state, show service.callOf .sealCohort = some .sealCohort from rfl, Option.elim_some,
    coordinatorStep] at hrow ⊢
  rcases hstep.covers_new hbound hold hrow with ⟨hsame, hcovers⟩
  rw [commitmentsOf_after] at hsame
  refine ⟨row, hrow, hroot, ?_, hcovers, hsame⟩
  rw [hcount, ← hsame, ← Int.natCast_inj.mp (hsize.symm.trans hcovers.size_eq)]

/-- What all clients of the service see. -/
structure ClientsAgree (service : HttpService) (now : Instant) (events : List HttpEvent) :
    Prop where
  one_cohort : ∀ v ∈ service.history now events, ∀ w ∈ service.history now events,
    ∀ count root count' root', service.response v = some ⟨.ok, .cohort count root⟩ →
      service.response w = some ⟨.ok, .cohort count' root'⟩ → count' = count ∧ root' = root
  proofs_verify : ∀ v ∈ service.history now events, ∀ hexValue found, v.input = .proof hexValue →
    service.response v = some ⟨.ok, .proof found⟩ →
      Digest32.parse hexValue = some found.leafHash ∧
      found.leafHash ∈ service.acknowledgments (service.history now events) ∧
      ∃ w ∈ service.history now events, ∃ count root,
        service.response w = some ⟨.ok, .cohort count root.toHex⟩ ∧
          found.verify service.hash root service.config.binding.roundId = .ok ()
  proofs_served : ∀ earlier later count root, events = earlier ++ .sealCohort :: later →
    (∀ v ∈ service.history now earlier, ∀ count root,
      service.response v ≠ some ⟨.ok, .cohort count root⟩) →
    (service.serve .sealCohort (service.after now earlier)).1 =
      some ⟨.ok, .cohort count root.toHex⟩ →
    count = JsonText.jsonNumber (service.acknowledgments (service.history now earlier)).length ∧
    ∀ commitment ∈ service.acknowledgments (service.history now earlier), ∀ hexValue,
      Digest32.parse hexValue = some commitment → ∃ found,
        (service.serve (.proof hexValue) (service.after now events)).1 =
            some ⟨.ok, .proof found⟩ ∧
          found.leafHash = commitment ∧
          found.verify service.hash root service.config.binding.roundId = .ok ()

/-- In every history all clients see one cohort: seals answer with the same count
and root, each proof that is served verifies against this root and is for an
acknowledged ticket, and the tickets acknowledged before the first seal are
counted by it and have proofs ever after. -/
theorem clients_agree (service : HttpService) (now : Instant) (events : List HttpEvent) :
    ClientsAgree service now events := by
  refine ⟨?_, ?_, ?_⟩
  · intro v hv w hw count root count' root' hcohort hcohort'
    rcases rootRow_of_cohort hcohort with ⟨row, hrow, rfl, size, hsize, rfl⟩
    rcases rootRow_of_cohort hcohort' with ⟨other, hother, rfl, size', hsize', rfl⟩
    rw [← Runs.after_of_mem_visits hv] at hrow
    rw [← Runs.after_of_mem_visits hw] at hother
    rcases rootRow_unique (rootRow_grows hrow (grows_of_mem_history hv))
      (rootRow_grows hother (grows_of_mem_history hw)) with rfl
    rw [Int.natCast_inj.mp (hsize'.symm.trans hsize)]
    exact ⟨rfl, rfl⟩
  · intro v hv hexValue found hinput hresponse
    rcases Runs.mem_visits.mp hv with ⟨earlier, later, hevents, hbefore, -⟩
    rw [response, hinput, hbefore] at hresponse
    rcases proof_verifies hresponse with ⟨hparse, hack, row, hrow, hverify⟩
    rcases exists_cohort hrow with ⟨w, hw, count, hcohort⟩
    have hsubset : service.history now earlier ⊆ service.history now events := by
      rw [hevents]
      exact history_subset
    exact ⟨hparse, acknowledgments_subset hsubset hack, w, hsubset hw, count, row.root, hcohort,
      hverify⟩
  · intro earlier later count root hevents hfirst hresponse
    rcases covers_of_first_cohort hfirst hresponse with
      ⟨row, hrow, hroot, hcount, hcovers, hsame⟩
    rw [Digest32.toHex_inj] at hroot
    subst hroot
    refine ⟨hcount, ?_⟩
    intro commitment hcommitment hexValue hparse
    rw [← hsame] at hcommitment
    rcases hcovers.proved commitment hcommitment with
      ⟨proof, hproof, hpool, hid, rfl, hverify⟩
    have hgrows : Grows (service.step (service.after now earlier) .sealCohort).store
        (service.after now events).store := by
      rw [hevents, after_append_cons]
      exact grows_serviceRun _ later
    have hmem := hgrows.proofs hproof
    refine ⟨proof.proofJson, serve_eq_ok_iff.mpr (.proved hparse ?_),
      (proofsSound_after service now events proof hmem).1, hverify⟩
    exact congrArg Prod.fst (perform_proof_of_mem hmem (hpool.trans hrow.poolId_eq)
      (hrow.roundId_eq.trans (congrArg Except.ok hid.symm)))

end HttpService

end MirrorPool
