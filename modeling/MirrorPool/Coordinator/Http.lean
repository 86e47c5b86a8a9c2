import MirrorPool.Coordinator.History
import MirrorPool.Core.Digest32

/-!
# The HTTP service

The router and the handlers in front of the coordinator.  A request is answered
at once, or, when it carries a ticket that passed its checks, waits for the
store.  The state is that of the coordinator; the clock of the cluster, the JSON
reader and the texts of the database are answered from outside.

Main results:

- Definition {lit}`HttpService.serve`: every event with its response.
- Definition {lit}`HttpService.callOf`: the part of a request that reaches the
  coordinator.
- Theorem {lit}`HttpService.serve_state`: an event acts on the coordinator by this
  part only.
- Theorem {lit}`HttpService.history_eq`: a history of the service is a history of
  the coordinator.
-/

namespace MirrorPool

open Fallible Sessions

/-! ## Responses -/

/-- The statuses that are sent. -/
inductive StatusCode where
  | ok
  | badRequest
  | notFound
  | requestTimeout
  | conflict
  | payloadTooLarge
  | unsupportedMediaType
  | unprocessableEntity
  | tooManyRequests
  | internalServerError
  | serviceUnavailable
deriving DecidableEq, Repr

/-- Failures of the handlers: those of the coordinator, and three of their own. -/
inductive HandlerError where
  | invalidCommitment
  | proofNotFound
  | rpcClock
  | coordinator (error : CoordinatorError)
deriving DecidableEq, Repr

/-- Response bodies.  A cohort is sent as the texts of its count and its root;
a rejection is written by the framework. -/
inductive ResponseBody where
  | health
  | ticketAccepted (commitment : Digest32)
  | cohort (count root : List UInt8)
  | proof (proof : CohortProof Digest32)
  | error (message : String)
  | rejection
deriving DecidableEq

structure Response where
  status : StatusCode
  body : ResponseBody
deriving DecidableEq

/-- A body that is no ticket. -/
inductive JsonRejection where
  | malformed
  | data
deriving DecidableEq, Repr

/-- A coordinator behind the service, and the parts of the service that are not
its own. -/
structure HttpService where
  config : CoordinatorConfig Digest32
  maxBodyBytes : Nat
  hash : Blake3 Digest32
  signatures : Ed25519
  readTicket : List UInt8 → Except JsonRejection (JoinTicket Digest32)
  sqliteText : SqliteError → String
  serializationText : String

/-- The status of a failure. -/
def HandlerError.status : HandlerError → StatusCode
  | invalidCommitment => .badRequest
  | proofNotFound => .notFound
  | rpcClock => .serviceUnavailable
  | coordinator .invalidTicket => .badRequest
  | coordinator .rateLimited => .tooManyRequests
  | coordinator .cohortFull => .conflict
  | coordinator (.store .duplicateTicket) => .conflict
  | coordinator (.store .conflictingSchedule) => .conflict
  | coordinator (.store _) => .internalServerError

namespace HttpService

variable (service : HttpService)

/-- The text of a store failure.  A call that panics has no response, and no
text. -/
def storeErrorText : StoreError → String
  | .sqlite error => "SQLite error: " ++ service.sqliteText error
  | .serialization => "serialization error: " ++ service.serializationText
  | .invalidTicket => "ticket validation failed"
  | .duplicateTicket => "duplicate ticket key or commitment"
  | .thresholdNotReached => "cohort threshold not reached"
  | .merkle => "Merkle construction failed"
  | .conflictingSchedule => "conflicting release schedule"
  | .countOverflow => "integer is outside the persistent range"
  | .corruptDatabase => "database contains invalid bounded data"
  | .panicked => ""

/-- The text of a failure. -/
def errorText : HandlerError → String
  | .invalidCommitment => "invalid commitment"
  | .proofNotFound => "proof not found"
  | .rpcClock => "trusted RPC slot is unavailable"
  | .coordinator .invalidTicket => "invalid ticket"
  | .coordinator .rateLimited => "submission rate exceeded"
  | .coordinator .cohortFull => "cohort is full"
  | .coordinator (.store error) => "store failure: " ++ service.storeErrorText error

/-- The response to a failure. -/
def intoResponse (error : HandlerError) : Response where
  status := error.status
  body := .error (service.errorText error)

/-! ## Handlers -/

/-- A handler: what it answers, unless the request waits for the store. -/
abbrev Handler : Type := Session (Coordinator Digest32) HandlerError (Option ResponseBody)

/-- Run a part of a request under its lock. -/
def locked (call : CoordinatorCall Digest32) :
    Session (Coordinator Digest32) HandlerError (CoordinatorReply Digest32) :=
  reportAs (call.perform service.hash service.signatures service.config) .coordinator

/-- The slot of the trusted clock, when the cluster answers. -/
def currentSlot (answer : Option UInt64) : Except HandlerError UInt64 :=
  okOr answer .rpcClock

/-- Run a part of a request under its lock, and answer from its reply. -/
def handle (call : CoordinatorCall Digest32)
    (body : CoordinatorReply Digest32 → Except HandlerError (Option ResponseBody)) : Handler := do
  let reply ← service.locked call
  body reply

/-- Submit a ticket, up to the point at which it waits for the store. -/
def submit (ticket : JoinTicket Digest32) (answer : Option UInt64) (now resetAt : Instant) :
    Handler := do
  let slot ← currentSlot answer
  service.handle (.submit ticket slot now resetAt) fun _ => .ok none

/-- Go on with a submission that waits for the store. -/
def resume (position : Nat) : Handler :=
  service.handle (.admitWaiting position) fun
    | .submitted commitment => .ok (some (.ticketAccepted commitment))
    | _ => .ok none

/-- Seal the cohort. -/
def sealCohort : Handler :=
  service.handle .sealCohort fun
    | .sealed root count => .ok (some (.cohort (JsonText.jsonNumber count.toNat) root.toHex))
    | _ => .ok none

/-- Look up the proof of a commitment in hexadecimal. -/
def proof (hexValue : List UInt8) : Handler := do
  let commitment ← okOr (Digest32.parse hexValue) HandlerError.invalidCommitment
  service.handle (.proof commitment) fun
    | .proof (some found) => .ok (some (.proof found))
    | _ => .error .proofNotFound

/-! ## Events -/

/-- A request to submit a ticket. -/
structure TicketRequest where
  jsonContentType : Bool
  body : List UInt8
deriving DecidableEq

/-- What happens to the service: requests, with the answers from outside; the
submissions that get the store, or are dropped after ten seconds; other requests
that are dropped before they take a lock; restarts. -/
inductive HttpEvent where
  | health
  | submit (request : TicketRequest) (slot : Option UInt64) (now resetAt : Instant)
  | resume (position : Nat)
  | dropWaiting (position : Nat)
  | dropEarly
  | sealCohort
  | proof (hexValue : List UInt8)
  | restart (now : Instant)
deriving DecidableEq

/-- Read the ticket of a request: its content type, its size, and its text. -/
def ticketOf (request : TicketRequest) : Except StatusCode (JoinTicket Digest32) := do
  failIf (request.jsonContentType = false) .unsupportedMediaType
  failIf (service.maxBodyBytes < request.body.length) .payloadTooLarge
  (service.readTicket request.body).mapError fun
    | .malformed => .badRequest
    | .data => .unprocessableEntity

/-- The response of a handler. -/
def answer (handler : Handler) (s : Coordinator Digest32) :
    Option Response × Coordinator Digest32 :=
  match handler s with
  | (.ok body, s) => (body.map fun body => { status := .ok, body }, s)
  | (.error error, s) => (some (service.intoResponse error), s)

/-- Serve an event: the response, unless there is none yet, and the state. -/
def serve (event : HttpEvent) (s : Coordinator Digest32) :
    Option Response × Coordinator Digest32 :=
  match event with
  | .health => (some ⟨.ok, .health⟩, s)
  | .submit request slot now resetAt =>
      match service.ticketOf request with
      | .error status => (some ⟨status, .rejection⟩, s)
      | .ok ticket => service.answer (service.submit ticket slot now resetAt) s
  | .resume position => service.answer (service.resume position) s
  | .dropWaiting position =>
      (some ⟨.requestTimeout, .rejection⟩,
        ((CoordinatorCall.abandon position).perform service.hash service.signatures service.config
          s).2)
  | .dropEarly => (some ⟨.requestTimeout, .rejection⟩, s)
  | .sealCohort => service.answer service.sealCohort s
  | .proof hexValue => service.answer (service.proof hexValue) s
  | .restart now =>
      (none,
        ((CoordinatorCall.restart now).perform service.hash service.signatures service.config s).2)

/-! ## The part of the coordinator -/

/-- The part of a request that reaches the coordinator. -/
def callOf : HttpEvent → Option (CoordinatorCall Digest32)
  | .health => none
  | .submit request slot now resetAt =>
      match service.ticketOf request, slot with
      | .ok ticket, some slot => some (.submit ticket slot now resetAt)
      | _, _ => none
  | .resume position => some (.admitWaiting position)
  | .dropWaiting position => some (.abandon position)
  | .dropEarly => none
  | .sealCohort => some .sealCohort
  | .proof hexValue => (Digest32.parse hexValue).map .proof
  | .restart now => some (.restart now)

/-- The coordinator after an event. -/
def step (s : Coordinator Digest32) (event : HttpEvent) : Coordinator Digest32 :=
  (service.serve event s).2

variable {service}

/-- The state after a handler is that after its part of the request. -/
theorem answer_handle_state (call : CoordinatorCall Digest32)
    (body : CoordinatorReply Digest32 → Except HandlerError (Option ResponseBody))
    (s : Coordinator Digest32) :
    (service.answer (service.handle call body) s).2 =
      coordinatorStep service.hash service.signatures service.config s call := by
  have hstate : (service.handle call body s).2 = (service.locked call s).2 :=
    bind_readOnly_state (fun _ => readOnly_lift _) s
  rw [answer]
  split
  · rename_i hrun
    rw [hrun] at hstate
    exact hstate
  · rename_i hrun
    rw [hrun] at hstate
    exact hstate

theorem submit_some (ticket : JoinTicket Digest32) (slot : UInt64) (now resetAt : Instant) :
    service.submit ticket (some slot) now resetAt =
      service.handle (.submit ticket slot now resetAt) fun _ => .ok none := rfl

theorem answer_proof_of_parse_eq_none {hexValue : List UInt8}
    (hparse : Digest32.parse hexValue = none) (s : Coordinator Digest32) :
    service.answer (service.proof hexValue) s =
      (some (service.intoResponse .invalidCommitment), s) := by
  rw [proof, hparse]
  rfl

theorem proof_of_parse {hexValue : List UInt8} {commitment : Digest32}
    (hparse : Digest32.parse hexValue = some commitment) :
    service.proof hexValue = service.handle (.proof commitment) fun
      | .proof (some found) => .ok (some (.proof found))
      | _ => .error .proofNotFound := by
  rw [proof, hparse]
  rfl

/-- An event acts on the coordinator by its part of a request only. -/
theorem serve_state (event : HttpEvent) (s : Coordinator Digest32) :
    service.step s event = (service.callOf event).elim s
      (coordinatorStep service.hash service.signatures service.config s) := by
  cases event with
  | health => rfl
  | submit request slot now resetAt =>
      simp only [step, serve, callOf]
      cases service.ticketOf request with
      | error status => rfl
      | ok ticket =>
          cases slot with
          | none => rfl
          | some slot => exact answer_handle_state _ _ s
  | resume position => exact answer_handle_state _ _ s
  | dropWaiting position => rfl
  | dropEarly => rfl
  | sealCohort => exact answer_handle_state _ _ s
  | proof hexValue =>
      simp only [step, serve, callOf]
      cases hparse : Digest32.parse hexValue with
      | none => rw [answer_proof_of_parse_eq_none hparse, Option.map_none, Option.elim_none]
      | some commitment =>
          rw [proof_of_parse hparse]
          exact answer_handle_state _ _ s
  | restart now => rfl

/-! ## Successful responses -/

/-- The reply of the coordinator to a part of a request. -/
def replyOf (service : HttpService) (call : CoordinatorCall Digest32) (s : Coordinator Digest32) :
    Except CoordinatorError (CoordinatorReply Digest32) :=
  (call.perform service.hash service.signatures service.config s).1

/-- What is sent to a client, from the reply of the coordinator. -/
def responseTo (service : HttpService)
    (body : CoordinatorReply Digest32 → Except HandlerError (Option ResponseBody)) :
    Except CoordinatorError (CoordinatorReply Digest32) → Option Response
  | .ok reply =>
      match body reply with
      | .ok found => found.map fun found => ⟨.ok, found⟩
      | .error error => some (service.intoResponse error)
  | .error error => some (service.intoResponse (.coordinator error))

/-- The response of a handler is made from the reply to its part of the
request. -/
theorem answer_handle (call : CoordinatorCall Digest32)
    (body : CoordinatorReply Digest32 → Except HandlerError (Option ResponseBody))
    (s : Coordinator Digest32) :
    (service.answer (service.handle call body) s).1 =
      service.responseTo body (service.replyOf call s) := by
  rw [answer, handle, Sessions.bind_eq]
  simp only [locked, reportAs, replyOf]
  cases (call.perform service.hash service.signatures service.config s).1 with
  | error error => rfl
  | ok reply =>
      simp only [Except.mapError, liftM, monadLift, MonadLift.monadLift, responseTo]
      cases body reply <;> rfl

theorem status_ne_ok (error : HandlerError) : error.status ≠ .ok := by
  rcases error with _ | _ | _ | (_ | _ | _ | error)
  any_goals exact StatusCode.noConfusion
  cases error <;> exact StatusCode.noConfusion

/-- The statuses of the extractors. -/
theorem status_of_ticketOf {request : TicketRequest} {status : StatusCode}
    (hticket : service.ticketOf request = .error status) :
    status ∈ [.unsupportedMediaType, .payloadTooLarge, .badRequest,
      StatusCode.unprocessableEntity] := by
  unfold ticketOf failIf at hticket
  split at hticket
  · cases hticket
    decide
  · split at hticket
    · cases hticket
      decide
    · rcases hread : service.readTicket request.body with rejection | ticket
      · rw [hread] at hticket
        cases rejection <;> cases hticket <;> decide
      · rw [hread] at hticket
        cases hticket

/-- The successful responses, each with the reply that it is made from. -/
inductive Success (service : HttpService) (s : Coordinator Digest32) :
    HttpEvent → ResponseBody → Prop where
  | health : Success service s .health .health
  | accepted {position commitment}
      (hreply : service.replyOf (.admitWaiting position) s = .ok (.submitted commitment)) :
      Success service s (.resume position) (.ticketAccepted commitment)
  | sealed {root count} (hreply : service.replyOf .sealCohort s = .ok (.sealed root count)) :
      Success service s .sealCohort (.cohort (JsonText.jsonNumber count.toNat) root.toHex)
  | proved {hexValue commitment found} (hparse : Digest32.parse hexValue = some commitment)
      (hreply : service.replyOf (.proof commitment) s = .ok (.proof (some found))) :
      Success service s (.proof hexValue) (.proof found)

/-- A response that is sent on a reply is successful when the reply has a body. -/
theorem responseTo_eq_ok
    {body : CoordinatorReply Digest32 → Except HandlerError (Option ResponseBody)}
    {reply : Except CoordinatorError (CoordinatorReply Digest32)} {found : ResponseBody} :
    service.responseTo body reply = some ⟨.ok, found⟩ ↔
      ∃ r, reply = .ok r ∧ body r = .ok (some found) := by
  rcases reply with error | r
  · simp [responseTo, intoResponse, status_ne_ok]
  · rcases hbody : body r with error | (_ | sent) <;>
      simp [responseTo, hbody, intoResponse, status_ne_ok]

/-- A response is successful exactly when it is one of these. -/
theorem serve_eq_ok_iff {event : HttpEvent} {s : Coordinator Digest32} {body : ResponseBody} :
    (service.serve event s).1 = some ⟨.ok, body⟩ ↔ Success service s event body := by
  constructor
  · intro hresponse
    cases event with
    | health =>
        cases hresponse
        exact .health
    | submit request slot now resetAt =>
        rw [serve] at hresponse
        split at hresponse
        · rename_i hticket
          cases hresponse
          exact absurd (status_of_ticketOf hticket) (by decide)
        · cases slot with
          | none => cases hresponse
          | some slot =>
              rw [submit_some, answer_handle, responseTo_eq_ok] at hresponse
              rcases hresponse with ⟨reply, -, hbody⟩
              cases hbody
    | resume position =>
        rw [serve, resume, answer_handle, responseTo_eq_ok] at hresponse
        rcases hresponse with ⟨reply, hreply, hbody⟩
        split at hbody
        · cases hbody
          exact .accepted hreply
        · cases hbody
    | dropWaiting position => cases hresponse
    | dropEarly => cases hresponse
    | sealCohort =>
        rw [serve, sealCohort, answer_handle, responseTo_eq_ok] at hresponse
        rcases hresponse with ⟨reply, hreply, hbody⟩
        split at hbody
        · cases hbody
          exact .sealed hreply
        · cases hbody
    | proof hexValue =>
        cases hparse : Digest32.parse hexValue with
        | none =>
            rw [serve, answer_proof_of_parse_eq_none hparse] at hresponse
            cases hresponse
        | some commitment =>
            rw [serve, proof_of_parse hparse, answer_handle, responseTo_eq_ok] at hresponse
            rcases hresponse with ⟨reply, hreply, hbody⟩
            split at hbody
            · cases hbody
              exact .proved hparse hreply
            · cases hbody
    | restart now => cases hresponse
  · intro hsuccess
    cases hsuccess with
    | health => rfl
    | accepted hreply =>
        rw [serve, resume, answer_handle, hreply]
        rfl
    | sealed hreply =>
        rw [serve, sealCohort, answer_handle, hreply]
        rfl
    | proved hparse hreply =>
        rw [serve, proof_of_parse hparse, answer_handle, hreply]
        rfl

/-! ## Refusals -/

theorem callOf_submit_eq_some {request : TicketRequest} {slot : Option UInt64}
    {now resetAt : Instant} {call : CoordinatorCall Digest32}
    (hcall : service.callOf (.submit request slot now resetAt) = some call) :
    ∃ ticket slot', service.ticketOf request = .ok ticket ∧ slot = some slot' ∧
      call = .submit ticket slot' now resetAt := by
  dsimp only [callOf] at hcall
  split at hcall
  · rename_i ticket slot' hticket
    exact ⟨ticket, slot', hticket, rfl, (Option.some.inj hcall).symm⟩
  · cases hcall

theorem resume_of_callOf {event : HttpEvent} {position : Nat}
    (hcall : service.callOf event = some (.admitWaiting position)) : event = .resume position := by
  cases event with
  | submit request slot now resetAt =>
      rcases callOf_submit_eq_some hcall with ⟨_, _, -, -, hsubmit⟩
      cases hsubmit
  | _ => simp_all [callOf]

theorem sealCohort_of_callOf {event : HttpEvent}
    (hcall : service.callOf event = some .sealCohort) : event = .sealCohort := by
  cases event with
  | submit request slot now resetAt =>
      rcases callOf_submit_eq_some hcall with ⟨_, _, -, -, hsubmit⟩
      cases hsubmit
  | _ => simp_all [callOf]

theorem restart_of_callOf {event : HttpEvent} {now : Instant}
    (hcall : service.callOf event = some (.restart now)) : event = .restart now := by
  cases event with
  | submit request slot now resetAt =>
      rcases callOf_submit_eq_some hcall with ⟨_, _, -, -, hsubmit⟩
      cases hsubmit
  | _ => simp_all [callOf]

/-- A request that is refused, and one that has no response yet, leaves the
database as it was; a restart may bring its schema up to date. -/
theorem step_store {event : HttpEvent} {s : Coordinator Digest32}
    (hrefused : ∀ body, (service.serve event s).1 ≠ some ⟨.ok, body⟩)
    (hrestart : ∀ now, event ≠ .restart now) : (service.step s event).store = s.store := by
  simp only [ne_eq, serve_eq_ok_iff] at hrefused
  rw [serve_state]
  cases hcall : service.callOf event with
  | none => rfl
  | some call =>
      have hstep := coordinatorStep_perform service.hash service.signatures service.config call s
      rw [Option.elim_some, coordinatorStep]
      generalize hreply : (call.perform service.hash service.signatures service.config s).1 = reply
        at hstep
      generalize (call.perform service.hash service.signatures service.config s).2 = s' at hstep
      cases hstep with
      | submitted =>
          rcases resume_of_callOf hcall with rfl
          exact absurd (.accepted hreply) (hrefused _)
      | sealed =>
          rcases sealCohort_of_callOf hcall with rfl
          exact absurd (.sealed hreply) (hrefused _)
      | restarted => exact absurd (restart_of_callOf hcall) (hrestart _)
      | _ => rfl

end HttpService

end MirrorPool
