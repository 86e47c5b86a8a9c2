import MirrorPool.Core.Policy
import MirrorPool.Library.Runs
import MirrorPool.Library.Sessions

/-!
# Operations on rounds

The graph of the lifecycle, and the four operations on the off-chain record of
a round.  An operation changes the record in place: what it has written before
an error stays.

Main results:

- Definition {lit}`RoundState.canTransitionTo`: the graph of the lifecycle.
- Definition {lit}`RoundCall.perform`: every operation with its result.
- Theorems {lit}`Round.transition_eq_ok`, {lit}`Round.register_eq_ok`,
  {lit}`Round.sealRound_eq_ok`, and {lit}`Round.scheduleRelease_eq_ok`: when an
  operation succeeds, and what it writes.
-/

namespace MirrorPool

open Fallible Sessions

variable {D : Type}

/-- Whether a transition is permitted by the protocol graph. -/
def RoundState.canTransitionTo (state next : RoundState) : Bool :=
  match state, next with
  | draft, registration => true
  | draft, cancelled => true
  | registration, thresholdReached => true
  | registration, cancelled => true
  | registration, expired => true
  | thresholdReached, sealed => true
  | thresholdReached, cancelled => true
  | thresholdReached, expired => true
  | sealed, releaseScheduled => true
  | sealed, cancelled => true
  | releaseScheduled, executionWindow => true
  | releaseScheduled, cancelled => true
  | releaseScheduled, expired => true
  | executionWindow, finalizing => true
  | executionWindow, cancelled => true
  | finalizing, completed => true
  | finalizing, cancelled => true
  | _, _ => false

namespace Round

/-- A computation on the record of a round. -/
abbrev RoundSession (D α : Type) : Type := Session (Round D) ProtocolError α

/-- Apply a permitted lifecycle transition. -/
def transition (next : RoundState) : RoundSession D Unit := do
  let round ← current
  failIf (round.state.canTransitionTo next = false)
    (ProtocolError.invalidTransition round.state next)
  update fun round => { round with state := next }

/-- Record a registration while enforcing time, state and count constraints. -/
def register (currentSlot : UInt64) (max : UInt32) : RoundSession D Unit := do
  let round ← current
  failIf (¬(round.state = .registration ∨ round.state = .thresholdReached))
    ProtocolError.registrationClosed
  failIf (round.registrationDeadlineSlot ≤ currentSlot) ProtocolError.registrationClosed
  failIf (max ≤ round.acceptedCohortSize) ProtocolError.cohortFull
  let acceptedCohortSize ← okOr (add32 round.acceptedCohortSize 1)
    ProtocolError.arithmeticOverflow
  update fun round => { round with acceptedCohortSize }

/-- Seal the cohort root exactly once after threshold is reached. -/
def sealRound (root : D) (minimum : UInt32) : RoundSession D Unit := do
  let round ← current
  failIf (round.state ≠ .thresholdReached ∨ round.acceptedCohortSize < minimum)
    ProtocolError.prematureSeal
  failIf round.cohortMerkleRoot.isSome ProtocolError.rootImmutable
  update fun round => { round with cohortMerkleRoot := some root }
  transition .sealed

/-- Announce an immutable bounded execution window. -/
def scheduleRelease (currentSlot releaseSlot : UInt64) (config : PoolConfig D) :
    RoundSession D Unit := do
  let round ← current
  failIf (round.state ≠ .sealed ∨ round.releaseSlot.isSome) ProtocolError.releaseImmutable
  let delay ← okOr (sub64 releaseSlot currentSlot) ProtocolError.invalidReleaseDelay
  failIf (delay < config.minReleaseDelaySlots ∨ config.maxReleaseDelaySlots < delay)
    ProtocolError.invalidReleaseDelay
  let finish ← okOr (add64 releaseSlot config.executionWindowSlots)
    ProtocolError.arithmeticOverflow
  update fun round => { round with releaseSlot := some releaseSlot }
  update fun round => { round with executionWindowStart := some releaseSlot }
  update fun round => { round with executionWindowEnd := some finish }
  transition .releaseScheduled

/-! ## Successful operations -/

variable {round round' : Round D} {u : Unit}

/-- A transition follows an edge of the graph. -/
theorem transition_eq_ok {next : RoundState} :
    transition next round = (.ok u, round') ↔
      round.state.canTransitionTo next = true ∧ round' = { round with state := next } := by
  simp only [transition, Sessions.bind_eq_ok, current_eq_ok, lift_eq_ok, failIf_eq_ok,
    update_eq_ok, Bool.not_eq_false]
  constructor
  · rintro ⟨_, _, ⟨rfl, rfl⟩, _, _, ⟨hedge, rfl⟩, rfl⟩
    exact ⟨hedge, rfl⟩
  · rintro ⟨hedge, rfl⟩
    exact ⟨round, round, ⟨rfl, rfl⟩, (), round, ⟨hedge, rfl⟩, rfl⟩

theorem transition_of_edge {next : RoundState}
    (hedge : round.state.canTransitionTo next = true) :
    transition next round = (.ok (), { round with state := next }) :=
  transition_eq_ok.mpr ⟨hedge, rfl⟩

/-- A registration is counted in time and below the maximum. -/
theorem register_eq_ok {currentSlot : UInt64} {max : UInt32} :
    register currentSlot max round = (.ok u, round') ↔
      (round.state = .registration ∨ round.state = .thresholdReached) ∧
        currentSlot < round.registrationDeadlineSlot ∧ round.acceptedCohortSize < max ∧
        ∃ count, add32 round.acceptedCohortSize 1 = some count ∧
          round' = { round with acceptedCohortSize := count } := by
  simp only [register, Sessions.bind_eq_ok, current_eq_ok, lift_eq_ok, failIf_eq_ok,
    update_eq_ok, okOr_eq_ok, not_not, UInt64.not_le, UInt32.not_le]
  constructor
  · rintro ⟨_, _, ⟨rfl, rfl⟩, _, _, ⟨hstate, rfl⟩, _, _, ⟨htime, rfl⟩, _, _, ⟨hroom, rfl⟩,
      count, _, ⟨hcount, rfl⟩, rfl⟩
    exact ⟨hstate, htime, hroom, count, hcount, rfl⟩
  · rintro ⟨hstate, htime, hroom, count, hcount, rfl⟩
    exact ⟨round, round, ⟨rfl, rfl⟩, (), round, ⟨hstate, rfl⟩, (), round, ⟨htime, rfl⟩, (), round,
      ⟨hroom, rfl⟩, count, round, ⟨hcount, rfl⟩, rfl⟩

/-- A root is sealed once, when the threshold is reached. -/
theorem sealRound_eq_ok {root : D} {minimum : UInt32} :
    sealRound root minimum round = (.ok u, round') ↔
      round.state = .thresholdReached ∧ minimum ≤ round.acceptedCohortSize ∧
        round.cohortMerkleRoot = none ∧
        round' = { round with cohortMerkleRoot := some root, state := .sealed } := by
  simp only [sealRound, Sessions.bind_eq_ok, current_eq_ok, lift_eq_ok, failIf_eq_ok,
    update_eq_ok, transition_eq_ok, not_or, not_not, ne_eq, UInt32.not_lt, Bool.not_eq_true,
    Option.isSome_eq_false_iff, Option.isNone_iff_eq_none]
  constructor
  · rintro ⟨_, _, ⟨rfl, rfl⟩, _, _, ⟨⟨hstate, hcount⟩, rfl⟩, _, _, ⟨hroot, rfl⟩, _, _, rfl, -, rfl⟩
    exact ⟨hstate, hcount, hroot, rfl⟩
  · rintro ⟨hstate, hcount, hroot, rfl⟩
    exact ⟨round, round, ⟨rfl, rfl⟩, (), round, ⟨⟨hstate, hcount⟩, rfl⟩, (), round, ⟨hroot, rfl⟩,
      (), _, rfl, by rw [hstate]; rfl, rfl⟩

/-- A release is scheduled once, with a delay within the policy. -/
theorem scheduleRelease_eq_ok {currentSlot releaseSlot : UInt64} {config : PoolConfig D} :
    scheduleRelease currentSlot releaseSlot config round = (.ok u, round') ↔
      round.state = .sealed ∧ round.releaseSlot = none ∧ ∃ delay finish,
        sub64 releaseSlot currentSlot = some delay ∧ config.minReleaseDelaySlots ≤ delay ∧
        delay ≤ config.maxReleaseDelaySlots ∧
        add64 releaseSlot config.executionWindowSlots = some finish ∧
        round' = { round with
          releaseSlot := some releaseSlot
          executionWindowStart := some releaseSlot
          executionWindowEnd := some finish
          state := .releaseScheduled } := by
  simp only [scheduleRelease, Sessions.bind_eq_ok, current_eq_ok, lift_eq_ok, failIf_eq_ok,
    update_eq_ok, okOr_eq_ok, transition_eq_ok, not_or, not_not, ne_eq, UInt64.not_lt,
    Bool.not_eq_true, Option.isSome_eq_false_iff, Option.isNone_iff_eq_none]
  constructor
  · rintro ⟨_, _, ⟨rfl, rfl⟩, _, _, ⟨⟨hstate, hunset⟩, rfl⟩, delay, _, ⟨hdelay, rfl⟩, _, _,
      ⟨⟨hmin, hmax⟩, rfl⟩, finish, _, ⟨hfinish, rfl⟩, _, _, rfl, _, _, rfl, _, _, rfl, -, rfl⟩
    exact ⟨hstate, hunset, delay, finish, hdelay, hmin, hmax, hfinish, rfl⟩
  · rintro ⟨hstate, hunset, delay, finish, hdelay, hmin, hmax, hfinish, rfl⟩
    exact ⟨round, round, ⟨rfl, rfl⟩, (), round, ⟨⟨hstate, hunset⟩, rfl⟩, delay, round,
      ⟨hdelay, rfl⟩, (), round, ⟨⟨hmin, hmax⟩, rfl⟩, finish, round, ⟨hfinish, rfl⟩, (), _, rfl,
      (), _, rfl, (), _, rfl, by rw [hstate]; rfl, rfl⟩

/-! ## Failed operations -/

theorem atomic_transition (next : RoundState) : Atomic (transition (D := D) next) :=
  readOnly_current.bind fun _ => (readOnly_lift _).bind fun _ => atomic_update _

theorem atomic_register (currentSlot : UInt64) (max : UInt32) :
    Atomic (register (D := D) currentSlot max) :=
  readOnly_current.bind fun _ => (readOnly_lift _).bind fun _ => (readOnly_lift _).bind fun _ =>
    (readOnly_lift _).bind fun _ => (readOnly_lift _).bind fun _ => atomic_update _

/-- Once the root is written, the transition of a seal does not fail. -/
theorem atomic_sealRound (root : D) (minimum : UInt32) : Atomic (sealRound root minimum) := by
  intro round error round' hfail
  simp only [sealRound, current_bind, failIf_bind] at hfail
  split at hfail
  · exact (congrArg Prod.snd hfail).symm
  · rename_i hready
    split at hfail
    · exact (congrArg Prod.snd hfail).symm
    · have hstate : round.state = .thresholdReached := by tauto
      rw [update_bind, transition_of_edge (by simp only [hstate]; rfl)] at hfail
      simp at hfail

/-- Once the window is written, the transition of a schedule does not fail. -/
theorem atomic_scheduleRelease (currentSlot releaseSlot : UInt64) (config : PoolConfig D) :
    Atomic (scheduleRelease currentSlot releaseSlot config) := by
  intro round error round' hfail
  simp only [scheduleRelease, current_bind, failIf_bind, okOr_bind] at hfail
  split at hfail
  · exact (congrArg Prod.snd hfail).symm
  · rename_i hready
    have hstate : round.state = .sealed := by tauto
    split at hfail
    · split at hfail
      · exact (congrArg Prod.snd hfail).symm
      · split at hfail
        · rw [update_bind, update_bind, update_bind,
            transition_of_edge (by simp only [hstate]; rfl)] at hfail
          simp at hfail
        · exact (congrArg Prod.snd hfail).symm
    · exact (congrArg Prod.snd hfail).symm

end Round

/-! ## Calls -/

/-- The public operations on a round, with any arguments. -/
inductive RoundCall (D : Type) where
  | transition (next : RoundState)
  | register (currentSlot : UInt64) (max : UInt32)
  | sealRound (root : D) (minimum : UInt32)
  | scheduleRelease (currentSlot releaseSlot : UInt64) (config : PoolConfig D)
deriving DecidableEq

/-- Perform an operation. -/
def RoundCall.perform : RoundCall D → Round.RoundSession D Unit
  | transition next => Round.transition next
  | register currentSlot max => Round.register currentSlot max
  | sealRound root minimum => Round.sealRound root minimum
  | scheduleRelease currentSlot releaseSlot config =>
      Round.scheduleRelease currentSlot releaseSlot config

/-- An operation that fails leaves the round as it was. -/
theorem RoundCall.atomic_perform (call : RoundCall D) : Atomic call.perform := by
  cases call with
  | transition next => exact Round.atomic_transition next
  | register currentSlot max => exact Round.atomic_register currentSlot max
  | sealRound root minimum => exact Round.atomic_sealRound root minimum
  | scheduleRelease currentSlot releaseSlot config =>
      exact Round.atomic_scheduleRelease currentSlot releaseSlot config

namespace Round

/-- The effects of an operation: its result, and the round before and after. -/
inductive CallStep :
    RoundCall D → Except ProtocolError Unit → Round D → Round D → Prop where
  | failed {call error round} : CallStep call (.error error) round round
  | moved {next} {round : Round D} (hedge : round.state.canTransitionTo next = true) :
      CallStep (.transition next) (.ok ()) round { round with state := next }
  | registered {currentSlot max count} {round : Round D}
      (hstate : round.state = .registration ∨ round.state = .thresholdReached)
      (htime : currentSlot < round.registrationDeadlineSlot)
      (hroom : round.acceptedCohortSize < max)
      (hcount : add32 round.acceptedCohortSize 1 = some count) :
      CallStep (.register currentSlot max) (.ok ()) round
        { round with acceptedCohortSize := count }
  | sealed {root minimum} {round : Round D} (hstate : round.state = .thresholdReached)
      (hcount : minimum ≤ round.acceptedCohortSize) (hunset : round.cohortMerkleRoot = none) :
      CallStep (.sealRound root minimum) (.ok ()) round
        { round with cohortMerkleRoot := some root, state := .sealed }
  | scheduled {currentSlot releaseSlot config delay finish} {round : Round D}
      (hstate : round.state = .sealed) (hunset : round.releaseSlot = none)
      (hdelay : sub64 releaseSlot currentSlot = some delay)
      (hmin : config.minReleaseDelaySlots ≤ delay) (hmax : delay ≤ config.maxReleaseDelaySlots)
      (hfinish : add64 releaseSlot config.executionWindowSlots = some finish) :
      CallStep (.scheduleRelease currentSlot releaseSlot config) (.ok ()) round
        { round with
          releaseSlot := some releaseSlot
          executionWindowStart := some releaseSlot
          executionWindowEnd := some finish
          state := .releaseScheduled }

/-- Every operation has one of the listed effects. -/
theorem callStep_perform (call : RoundCall D) (round : Round D) :
    CallStep call (call.perform round).1 round (call.perform round).2 := by
  rcases hcall : call.perform round with ⟨error | ⟨⟩, round'⟩
  · rw [call.atomic_perform round error round' hcall]
    exact .failed
  · cases call with
    | transition next =>
        rcases transition_eq_ok.mp hcall with ⟨hedge, rfl⟩
        exact .moved hedge
    | register currentSlot max =>
        rcases register_eq_ok.mp hcall with ⟨hstate, htime, hroom, count, hcount, rfl⟩
        exact .registered hstate htime hroom hcount
    | sealRound root minimum =>
        rcases sealRound_eq_ok.mp hcall with ⟨hstate, hcount, hunset, rfl⟩
        exact .sealed hstate hcount hunset
    | scheduleRelease currentSlot releaseSlot config =>
        rcases scheduleRelease_eq_ok.mp hcall with
          ⟨hstate, hunset, delay, finish, hdelay, hmin, hmax, hfinish, rfl⟩
        exact .scheduled hstate hunset hdelay hmin hmax hfinish

/-- The round after an operation. -/
def step (round : Round D) (call : RoundCall D) : Round D :=
  (call.perform round).2

/-- One operation with the rounds on its two sides. -/
abbrev CallVisit (D : Type) := Runs.Visit (Round D) (RoundCall D)

/-- All operations in order. -/
abbrev callHistory (opened : Round D) (calls : List (RoundCall D)) : List (CallVisit D) :=
  Runs.visits step opened calls

/-- The round at the end. -/
abbrev afterCalls (opened : Round D) (calls : List (RoundCall D)) : Round D :=
  Runs.run step opened calls

end Round

end MirrorPool
