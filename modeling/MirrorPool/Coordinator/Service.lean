import MirrorPool.Library.Runs
import MirrorPool.Store.History

/-!
# The coordinator

A coordinator serves submissions, seals and proofs for one round over a shared
store.  Two locks order the requests: a submission first takes the lock of the
rate limiter, where it is counted and its ticket is verified, and then waits for
the lock of the store.  Between the two locks other requests run.  The state
therefore holds the tickets that wait for the store; each call is a part of a
request that runs under one lock.

The process may end at any time; a restart opens the same database again and
forgets the waiting tickets.

Main results:

- Definition {lit}`CoordinatorCall.perform`: every call with its reply.
- Definition {lit}`CoordinatorStep`: the effects of the calls.
- Theorem {lit}`coordinatorStep_perform`: every call has one of them.
-/

namespace MirrorPool

open Fallible Sessions Tables

variable {D : Type}

/-- Immutable coordinator policy for one active round. -/
structure CoordinatorConfig (D : Type) where
  binding : TicketBinding D
  minimumParticipants : UInt32
  maximumParticipants : UInt32
  requestsPerMinute : UInt32

/-- Coordinator failures. -/
inductive CoordinatorError where
  | invalidTicket
  | rateLimited
  | cohortFull
  | store (error : StoreError)
deriving DecidableEq, Repr

/-- A reading of the monotonic clock, in nanoseconds. -/
abbrev Instant := Nat

/-- The window of the rate limiter: 60 seconds. -/
def rateWindow : Nat := 60 * 10 ^ 9

/-- The submissions that passed in the current window. -/
structure RateState where
  windowStarted : Instant
  accepted : UInt32
deriving DecidableEq, Repr

/-- One coordinator: its store, its rate limiter, and the submissions that wait
for the store. -/
structure Coordinator (D : Type) where
  store : Database D
  rate : RateState
  waiting : List (JoinTicket D)

/-- A coordinator with an already migrated store. -/
def Coordinator.new (store : Database D) (now : Instant) : Coordinator D where
  store := store
  rate := { windowStarted := now, accepted := 0 }
  waiting := []

/-- Count a submission.  The clock is read for the elapsed time, and once more
when a new window starts. -/
def checkRate (config : CoordinatorConfig D) (now resetAt : Instant) (rate : RateState) :
    Except CoordinatorError Unit × RateState :=
  let rate :=
    if rateWindow ≤ now - rate.windowStarted then { windowStarted := resetAt, accepted := 0 }
    else rate
  if config.requestsPerMinute ≤ rate.accepted then
    (.error .rateLimited, rate)
  else
    (.ok (), { rate with accepted := (add32 rate.accepted 1).getD rate.accepted })

variable [LinearOrder D]

/-- The part of a submission that runs under the lock of the store. -/
def admitTicket (h : Blake3 D) (config : CoordinatorConfig D) (ticket : JoinTicket D) :
    Session (Database D) CoordinatorError D := do
  let count ← reportAs (Store.ticketCount config.binding.poolId config.binding.roundId) .store
  failIf (config.maximumParticipants ≤ count) CoordinatorError.cohortFull
  reportAs (Store.acceptTicket h ticket) .store

/-- Seal the cohort of the configured round. -/
def sealRequest (h : Blake3 D) (config : CoordinatorConfig D) :
    Session (Database D) CoordinatorError (D × UInt32) :=
  reportAs (Store.sealCohort h config.binding.poolId config.binding.roundId
    config.minimumParticipants) .store

/-- Look up a proof of the configured round. -/
def proofRequest (config : CoordinatorConfig D) (commitment : D) :
    Session (Database D) CoordinatorError (Option (CohortProof D)) :=
  reportAs (Store.proof config.binding.poolId config.binding.roundId commitment) .store

/-! ## Calls -/

/-- The parts of requests that run under one lock.  A submission arrives with a
reading of the slot, and is later admitted to the store or given up. -/
inductive CoordinatorCall (D : Type) where
  | submit (ticket : JoinTicket D) (currentSlot : UInt64) (now resetAt : Instant)
  | admitWaiting (position : Nat)
  | abandon (position : Nat)
  | sealCohort
  | proof (commitment : D)
  | restart (now : Instant)
deriving DecidableEq

/-- Replies to the calls. -/
inductive CoordinatorReply (D : Type) where
  | waiting
  | nobody
  | submitted (commitment : D)
  | abandoned
  | sealed (root : D) (count : UInt32)
  | proof (found : Option (CohortProof D))
  | restarted
deriving DecidableEq

namespace CoordinatorCall

/-- Perform a call. -/
def perform (h : Blake3 D) (ed : Ed25519) (config : CoordinatorConfig D) :
    CoordinatorCall D → Session (Coordinator D) CoordinatorError (CoordinatorReply D)
  | submit ticket currentSlot now resetAt => fun s =>
      match checkRate config now resetAt s.rate with
      | (.error error, rate) => (.error error, { s with rate })
      | (.ok _, rate) =>
          match ticket.verify h ed currentSlot config.binding with
          | .error _ => (.error .invalidTicket, { s with rate })
          | .ok _ => (.ok .waiting, { s with rate, waiting := s.waiting ++ [ticket] })
  | admitWaiting position => fun s =>
      match s.waiting[position]? with
      | none => (.ok .nobody, s)
      | some ticket =>
          let waiting := s.waiting.eraseIdx position
          match admitTicket h config ticket s.store with
          | (.ok commitment, store) => (.ok (.submitted commitment), { s with store, waiting })
          | (.error error, store) => (.error error, { s with store, waiting })
  | abandon position => fun s =>
      (.ok .abandoned, { s with waiting := s.waiting.eraseIdx position })
  | sealCohort => fun s =>
      match sealRequest h config s.store with
      | (.ok (root, count), store) => (.ok (.sealed root count), { s with store })
      | (.error error, store) => (.error error, { s with store })
  | proof commitment => fun s =>
      match proofRequest config commitment s.store with
      | (.ok found, store) => (.ok (.proof found), { s with store })
      | (.error error, store) => (.error error, { s with store })
  | restart now => fun s =>
      match Store.migrate s.store with
      | (.ok _, store) => (.ok .restarted, Coordinator.new store now)
      | (.error error, store) => (.error (.store error), Coordinator.new store now)

end CoordinatorCall

/-! ## Effects -/

/-- The effects of a call: the reply, and the coordinator before and after. -/
inductive CoordinatorStep (h : Blake3 D) (ed : Ed25519) (config : CoordinatorConfig D) :
    CoordinatorCall D → Except CoordinatorError (CoordinatorReply D) →
      Coordinator D → Coordinator D → Prop where
  | refused {ticket currentSlot now resetAt error s rate} :
      CoordinatorStep h ed config (.submit ticket currentSlot now resetAt) (.error error) s
        { s with rate }
  | arrived {ticket currentSlot now resetAt s rate}
      (hverify : ticket.verify h ed currentSlot config.binding = .ok ()) :
      CoordinatorStep h ed config (.submit ticket currentSlot now resetAt) (.ok .waiting) s
        { s with rate, waiting := s.waiting ++ [ticket] }
  | nobody {position s} (hwaiting : s.waiting[position]? = none) :
      CoordinatorStep h ed config (.admitWaiting position) (.ok .nobody) s s
  | rejected {position error s} :
      CoordinatorStep h ed config (.admitWaiting position) (.error error) s
        { s with waiting := s.waiting.eraseIdx position }
  | submitted {position ticket commitment s store}
      (hwaiting : s.waiting[position]? = some ticket)
      (htaken : admitTicket h config ticket s.store = (.ok commitment, store)) :
      CoordinatorStep h ed config (.admitWaiting position) (.ok (.submitted commitment)) s
        { s with store, waiting := s.waiting.eraseIdx position }
  | abandoned {position s} :
      CoordinatorStep h ed config (.abandon position) (.ok .abandoned) s
        { s with waiting := s.waiting.eraseIdx position }
  | unsealed {error s} : CoordinatorStep h ed config .sealCohort (.error error) s s
  | sealed {root count s store}
      (hseal : Store.sealCohort h config.binding.poolId config.binding.roundId
        config.minimumParticipants s.store = (.ok (root, count), store)) :
      CoordinatorStep h ed config .sealCohort (.ok (.sealed root count)) s { s with store }
  | looked {commitment found s}
      (hproof : proofRequest config commitment s.store = (.ok found, s.store)) :
      CoordinatorStep h ed config (.proof commitment) (.ok (.proof found)) s s
  | unseen {commitment error s} :
      CoordinatorStep h ed config (.proof commitment) (.error error) s s
  | restarted {now s store} (hmigrate : Store.migrate s.store = (.ok (), store)) :
      CoordinatorStep h ed config (.restart now) (.ok .restarted) s (Coordinator.new store now)

/-- A submission that fails leaves the store as it was. -/
theorem atomic_admitTicket (h : Blake3 D) (config : CoordinatorConfig D) (ticket : JoinTicket D) :
    Atomic (admitTicket h config ticket) := by
  refine ReadOnly.bind ?_ fun count => ReadOnly.bind (readOnly_lift _) fun _ => ?_
  · exact ((readOnly_lift _).bind_readOnly fun _ => readOnly_query _).reportAs _
  · exact (atomic_transaction _).reportAs _

/-- A seal that fails leaves the store as it was. -/
theorem atomic_sealRequest (h : Blake3 D) (config : CoordinatorConfig D) :
    Atomic (sealRequest h config) := by
  refine Atomic.reportAs (ReadOnly.bind (Store.readOnly_root _ _) ?_) _
  intro existing
  cases existing with
  | none => exact atomic_transaction _
  | some found => exact (readOnly_pure found).atomic

/-- Looking up a proof leaves the store as it was. -/
theorem readOnly_proofRequest (config : CoordinatorConfig D) (commitment : D) :
    ReadOnly (proofRequest config commitment) :=
  ((readOnly_lift _).bind_readOnly fun _ => readOnly_query _).reportAs _

/-- Every call has one of the listed effects. -/
theorem coordinatorStep_perform (h : Blake3 D) (ed : Ed25519) (config : CoordinatorConfig D)
    (call : CoordinatorCall D) (s : Coordinator D) :
    CoordinatorStep h ed config call (call.perform h ed config s).1 s
      (call.perform h ed config s).2 := by
  cases call with
  | submit ticket currentSlot now resetAt =>
      simp only [CoordinatorCall.perform]
      split
      · exact .refused
      · split
        · exact .refused
        · rename_i hverify
          exact .arrived hverify
  | admitWaiting position =>
      simp only [CoordinatorCall.perform]
      split
      · rename_i hwaiting
        exact .nobody hwaiting
      · rename_i ticket hwaiting
        split
        · rename_i commitment store htaken
          exact .submitted hwaiting htaken
        · rename_i error store htaken
          rw [atomic_admitTicket h config ticket s.store error store htaken]
          exact .rejected
  | abandon position => exact .abandoned
  | sealCohort =>
      simp only [CoordinatorCall.perform]
      split
      · rename_i root count store hseal
        exact .sealed (reportAs_eq_ok.mp hseal)
      · rename_i error store hseal
        rw [atomic_sealRequest h config s.store error store hseal]
        exact .unsealed
  | proof commitment =>
      have hread := readOnly_proofRequest config commitment s.store
      simp only [CoordinatorCall.perform]
      split
      · rename_i found store hproof
        simp only [hproof] at hread
        subst hread
        exact .looked hproof
      · rename_i error store hproof
        simp only [hproof] at hread
        subst hread
        exact .unseen
  | restart now => exact .restarted rfl

end MirrorPool
