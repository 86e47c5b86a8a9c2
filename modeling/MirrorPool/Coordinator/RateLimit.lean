import MirrorPool.Coordinator.History
import MirrorPool.Library.FixedWindow
import Mathlib.Algebra.Order.Group.Nat

/-!
# The submission rate

The rate limiter is a fixed-window limiter whose counter is a machine word.  The
counter stays below the limit before it is raised, so that it never saturates,
and the limiter refines the one that counts in natural numbers.

The bounds hold for every order in which the calls take the lock: each call reads
the clock under the lock, so that in this order the readings never go back.

Main results:

- Theorem {lit}`window_rateStep`: the limiter refines a fixed window.
- Theorem {lit}`rate_bound`: the bounds of a window, of a refusal and of a
  minute, over every sequence of calls.
- Theorem {lit}`rateHistory_coordinator`: submissions take their turns at the
  limiter, whatever other calls run between them.
-/

namespace MirrorPool

open Fallible

variable {D : Type}

/-- A call of the rate limiter: the readings of the clock. -/
abbrev RateCheck := FixedWindow.Request Instant

/-- The rate limiter after a call. -/
def rateStep (config : CoordinatorConfig D) (rate : RateState) (check : RateCheck) : RateState :=
  (checkRate config check.now check.resetAt rate).2

/-- One call with the rate limiter on its two sides. -/
abbrev RateVisit := Runs.Visit RateState RateCheck

/-- The reply of a call. -/
def RateVisit.reply (config : CoordinatorConfig D) (v : RateVisit) : Except CoordinatorError Unit :=
  (checkRate config v.input.now v.input.resetAt v.before).1

/-- The call passes. -/
def RateVisit.passes (config : CoordinatorConfig D) (v : RateVisit) : Bool :=
  (v.reply config).isOk

/-- The call starts a new window. -/
def RateVisit.resets (v : RateVisit) : Bool :=
  decide (rateWindow ≤ v.input.now - v.before.windowStarted)

/-- A part of a history in which at most the first call starts a new window. -/
def OneRateWindow (part : List RateVisit) : Prop :=
  ∀ v ∈ part.tail, RateVisit.resets v = false

/-- The calls from a new coordinator in order. -/
abbrev rateHistory (config : CoordinatorConfig D) (started : Instant) (checks : List RateCheck) :
    List RateVisit :=
  Runs.visits (rateStep config) { windowStarted := started, accepted := 0 } checks

/-! ## The limiter as a fixed window -/

/-- The window in natural numbers. -/
def RateState.window (rate : RateState) : FixedWindow.Window Instant :=
  ⟨rate.windowStarted, rate.accepted.toNat⟩

/-- The window ends when its length has elapsed. -/
theorem expired_window_iff (rate : RateState) (check : RateCheck) :
    FixedWindow.Expired rateWindow rate.window check ↔
      rateWindow ≤ check.now - rate.windowStarted := by
  have hpositive : 0 < rateWindow := by decide
  simp only [FixedWindow.Expired, RateState.window]
  omega

/-- The window that a call is counted in. -/
def currentRate (rate : RateState) (check : RateCheck) : RateState :=
  if rateWindow ≤ check.now - rate.windowStarted then
    { windowStarted := check.resetAt, accepted := 0 }
  else rate

theorem window_currentRate (rate : RateState) (check : RateCheck) :
    (currentRate rate check).window = FixedWindow.current rateWindow rate.window check := by
  unfold currentRate FixedWindow.current
  by_cases hexpired : rateWindow ≤ check.now - rate.windowStarted
  · rw [if_pos hexpired, if_pos ((expired_window_iff rate check).mpr hexpired)]
    rfl
  · rw [if_neg hexpired, if_neg (mt (expired_window_iff rate check).mp hexpired)]

/-- A call is refused exactly when its window is full. -/
theorem checkRate_eq (config : CoordinatorConfig D) (rate : RateState) (check : RateCheck) :
    checkRate config check.now check.resetAt rate =
      if config.requestsPerMinute ≤ (currentRate rate check).accepted then
        (.error .rateLimited, currentRate rate check)
      else (.ok (), { currentRate rate check with
        accepted := (add32 (currentRate rate check).accepted 1).getD
          (currentRate rate check).accepted }) :=
  rfl

/-- The counter is below the limit before it is raised, so it never saturates. -/
theorem toNat_getD_add32_one {accepted limit : UInt32} (hroom : accepted < limit) :
    ((add32 accepted 1).getD accepted).toNat = accepted.toNat + 1 := by
  have hfits : accepted.toNat + 1 < UInt32.size :=
    Nat.lt_of_le_of_lt (UInt32.lt_iff_toNat_lt.mp hroom) limit.toNat_lt
  have hnext : add32 accepted 1 = some (UInt32.ofNat (accepted.toNat + 1)) := by
    rw [add32_eq_some, UInt32.toNat_ofNat_of_lt' hfits]
    rfl
  rw [hnext, Option.getD_some, UInt32.toNat_ofNat_of_lt' hfits]

/-- The limiter refines a fixed window. -/
theorem window_rateStep (config : CoordinatorConfig D) (rate : RateState) (check : RateCheck) :
    (rateStep config rate check).window =
      FixedWindow.step rateWindow config.requestsPerMinute.toNat rate.window check := by
  have hcurrent := window_currentRate rate check
  rw [rateStep, checkRate_eq]
  by_cases hfull : config.requestsPerMinute ≤ (currentRate rate check).accepted
  · have hpassed := UInt32.le_iff_toNat_le.mp hfull
    rw [if_pos hfull, FixedWindow.step_of_full (by rwa [← hcurrent]), hcurrent]
  · have hroom := UInt32.not_le.mp hfull
    have hpassed := UInt32.lt_iff_toNat_lt.mp hroom
    rw [if_neg hfull, FixedWindow.step_of_room (by rwa [← hcurrent]), ← hcurrent]
    simp only [RateState.window, toNat_getD_add32_one hroom]

/-- A visit as the fixed window sees it. -/
abbrev RateVisit.window (v : RateVisit) : Runs.Visit (FixedWindow.Window Instant) RateCheck :=
  Runs.Visit.map RateState.window id v

theorem RateVisit.resets_window (v : RateVisit) :
    FixedWindow.resets rateWindow v.window = RateVisit.resets v :=
  decide_eq_decide.mpr (expired_window_iff v.before v.input)

theorem RateVisit.passes_window (config : CoordinatorConfig D) (v : RateVisit) :
    FixedWindow.passes rateWindow config.requestsPerMinute.toNat v.window = v.passes config := by
  unfold RateVisit.passes RateVisit.reply FixedWindow.passes
  rw [checkRate_eq]
  simp only [RateVisit.window, Runs.Visit.map, id, ← window_currentRate]
  by_cases hfull : config.requestsPerMinute ≤ (currentRate v.before v.input).accepted
  · rw [if_pos hfull]
    exact decide_eq_false (Nat.not_lt.mpr (UInt32.le_iff_toNat_le.mp hfull))
  · rw [if_neg hfull]
    exact decide_eq_true (UInt32.lt_iff_toNat_lt.mp (UInt32.not_le.mp hfull))

/-- The history of the limiter is a history of the fixed window. -/
theorem visits_window (config : CoordinatorConfig D) (rate : RateState) (checks : List RateCheck) :
    Runs.visits (FixedWindow.step rateWindow config.requestsPerMinute.toNat) rate.window checks =
      (Runs.visits (rateStep config) rate checks).map RateVisit.window := by
  have hvisits : Runs.visits (FixedWindow.step rateWindow config.requestsPerMinute.toNat)
      rate.window (checks.map id) = (Runs.visits (rateStep config) rate checks).map
        RateVisit.window := Runs.visits_map (window_rateStep config) rate checks
  rwa [List.map_id] at hvisits

theorem oneWindow_map_window {part : List RateVisit} :
    FixedWindow.OneWindow rateWindow (part.map RateVisit.window) ↔ OneRateWindow part := by
  unfold FixedWindow.OneWindow OneRateWindow
  rw [← List.map_tail, List.forall_mem_map]
  constructor
  · intro hone v hv
    rw [← v.resets_window]
    exact hone v hv
  · intro hone v hv
    rw [v.resets_window]
    exact hone v hv

theorem countP_map_window {fires : Runs.Visit (FixedWindow.Window Instant) RateCheck → Bool}
    {fires' : RateVisit → Bool} (hsame : ∀ v : RateVisit, fires v.window = fires' v)
    (part : List RateVisit) : (part.map RateVisit.window).countP fires = part.countP fires' := by
  have hfires : fires ∘ RateVisit.window = fires' := funext hsame
  rw [List.countP_map, hfires]

/-! ## The bounds -/

/-- A call that passes, and whose readings of the clock do not both lie before
or both behind the minute from {lit}`t`. -/
def RateVisit.passesInMinute (config : CoordinatorConfig D) (t : Instant) (v : RateVisit) : Bool :=
  v.passes config && decide (t ≤ v.input.resetAt ∧ v.input.now < t + rateWindow)

/-- The bounds on a history of the rate limiter. -/
structure RateBound (config : CoordinatorConfig D) (history : List RateVisit) : Prop where
  /-- Between two resets, at most as many calls pass as the limit allows. -/
  window : ∀ earlier part later, history = earlier ++ part ++ later → OneRateWindow part →
    part.countP (RateVisit.passes config) ≤ config.requestsPerMinute.toNat
  /-- A call is refused only when as many calls have passed in its window. -/
  refused : ∀ earlier v later, history = earlier ++ v :: later →
    RateVisit.reply config v ≠ .ok () → RateVisit.reply config v = .error .rateLimited ∧
      ∃ past part, earlier = past ++ part ∧ OneRateWindow (part ++ [v]) ∧
        part.countP (RateVisit.passes config) = config.requestsPerMinute.toNat
  /-- Resets are at least a minute apart. -/
  apart : (history.filter RateVisit.resets).Pairwise fun first second =>
    first.input.resetAt + rateWindow ≤ second.input.now
  /-- In any minute, at most twice as many calls pass. -/
  minute : ∀ t, history.countP (RateVisit.passesInMinute config t) ≤
    2 * config.requestsPerMinute.toNat

/-- A call that is not let through is refused for its rate. -/
theorem RateVisit.reply_eq_ok_or (config : CoordinatorConfig D) (v : RateVisit) :
    v.reply config = .ok () ∧ v.passes config = true ∨
      v.reply config = .error .rateLimited ∧ v.passes config = false := by
  unfold RateVisit.passes RateVisit.reply
  rw [checkRate_eq]
  split
  · exact .inr ⟨rfl, rfl⟩
  · exact .inl ⟨rfl, rfl⟩

section Bounds

variable {config : CoordinatorConfig D} {started : Instant} {checks : List RateCheck}

theorem visits_rateHistory (config : CoordinatorConfig D) (started : Instant)
    (checks : List RateCheck) :
    Runs.visits (FixedWindow.step rateWindow config.requestsPerMinute.toNat) ⟨started, 0⟩ checks =
      (rateHistory config started checks).map RateVisit.window :=
  visits_window config { windowStarted := started, accepted := 0 } checks

/-- Between two resets, at most as many calls pass as the limit allows. -/
theorem countP_passes_le {earlier part later : List RateVisit}
    (hparts : rateHistory config started checks = earlier ++ part ++ later)
    (hone : OneRateWindow part) :
    part.countP (RateVisit.passes config) ≤ config.requestsPerMinute.toNat := by
  have hvisits := visits_rateHistory config started checks
  rw [hparts, List.map_append, List.map_append] at hvisits
  rw [← countP_map_window (RateVisit.passes_window config)]
  exact FixedWindow.countP_passes_le_limit (Nat.zero_le _) hvisits (oneWindow_map_window.mpr hone)

/-- A call is refused only when as many calls have passed in its window. -/
theorem exists_full_rateWindow {earlier later : List RateVisit} {v : RateVisit}
    (hparts : rateHistory config started checks = earlier ++ v :: later)
    (hrefused : v.passes config = false) :
    ∃ past part, earlier = past ++ part ∧ OneRateWindow (part ++ [v]) ∧
      part.countP (RateVisit.passes config) = config.requestsPerMinute.toNat := by
  have hvisits := visits_rateHistory config started checks
  rw [hparts, List.map_append, List.map_cons] at hvisits
  rcases FixedWindow.exists_full_window rfl hvisits (by rwa [RateVisit.passes_window]) with
    ⟨past, part, hearlier, hone, hcount⟩
  rcases List.map_eq_append_iff.mp hearlier with ⟨past, part, rfl, rfl, rfl⟩
  rw [← List.map_singleton, ← List.map_append, oneWindow_map_window] at hone
  rw [countP_map_window (RateVisit.passes_window config)] at hcount
  exact ⟨past, part, rfl, hone, hcount⟩

/-- Resets are at least a minute apart. -/
theorem pairwise_rateResets (hclock : FixedWindow.Clock started checks) :
    ((rateHistory config started checks).filter RateVisit.resets).Pairwise fun first second =>
      first.input.resetAt + rateWindow ≤ second.input.now := by
  have hapart : ((Runs.visits (FixedWindow.step rateWindow config.requestsPerMinute.toNat)
      ⟨started, 0⟩ checks).filter (FixedWindow.resets rateWindow)).Pairwise
        fun first second => first.input.resetAt + rateWindow ≤ second.input.now :=
    FixedWindow.pairwise_resets hclock (le_refl started)
  have hresets : FixedWindow.resets rateWindow ∘ RateVisit.window = RateVisit.resets := by
    funext v
    rw [Function.comp_apply, v.resets_window]
  rw [visits_rateHistory, List.filter_map, hresets, List.pairwise_map] at hapart
  exact hapart

/-- In any minute, at most twice as many calls pass as the limit allows. -/
theorem countP_passesInMinute_le (hclock : FixedWindow.Clock started checks) (t : Instant) :
    (rateHistory config started checks).countP (RateVisit.passesInMinute config t) ≤
      2 * config.requestsPerMinute.toNat := by
  have hduring : ∀ v : RateVisit,
      FixedWindow.passesDuring rateWindow config.requestsPerMinute.toNat t v.window =
        v.passesInMinute config t := by
    intro v
    unfold FixedWindow.passesDuring RateVisit.passesInMinute
    rw [RateVisit.passes_window]
    rfl
  rw [← countP_map_window hduring, ← visits_rateHistory]
  exact FixedWindow.countP_passesDuring_le t hclock (le_refl started) (Nat.zero_le _)

end Bounds

/-- Over every sequence of calls to a new coordinator, at most
{lit}`requestsPerMinute` calls pass between two resets, a call is refused only
when so many have passed in its window, resets are a minute apart, and in any
minute at most twice as many calls pass. -/
theorem rate_bound (config : CoordinatorConfig D) (started : Instant) (checks : List RateCheck)
    (hclock : FixedWindow.Clock started checks) :
    RateBound config (rateHistory config started checks) where
  window _ _ _ hparts hone := countP_passes_le hparts hone
  refused _ v _ hparts hreply := by
    rcases v.reply_eq_ok_or config with ⟨hok, -⟩ | ⟨hlimited, hrefused⟩
    · exact absurd hok hreply
    · exact ⟨hlimited, exists_full_rateWindow hparts hrefused⟩
  apart := pairwise_rateResets hclock
  minute := countP_passesInMinute_le hclock

/-- One call in a minute. -/
def burstConfig : CoordinatorConfig Nat where
  binding := { poolId := 1, roundId := 2, actionTemplateHash := 3 }
  minimumParticipants := 2
  maximumParticipants := 3
  requestsPerMinute := 1

/-- A burst around a reset: the limiter of a coordinator that was started at 0
lets a call pass after 59 seconds, and another one a second later. -/
def burstChecks : List RateCheck :=
  [⟨59 * 10 ^ 9, 59 * 10 ^ 9⟩, ⟨60 * 10 ^ 9, 60 * 10 ^ 9⟩, ⟨61 * 10 ^ 9, 61 * 10 ^ 9⟩]

/-- The bound for a minute is reached. -/
theorem rate_bound_burst : FixedWindow.Clock 0 burstChecks ∧
    RateBound burstConfig (rateHistory burstConfig 0 burstChecks) ∧
    (rateHistory burstConfig 0 burstChecks).countP
      (RateVisit.passesInMinute burstConfig (59 * 10 ^ 9)) = 2 := by
  have hclock : FixedWindow.Clock 0 burstChecks := by simp [FixedWindow.Clock, burstChecks]
  exact ⟨hclock, rate_bound burstConfig 0 burstChecks hclock, by decide +kernel⟩

/-! ## Submissions -/

/-- The call of the rate limiter in a call of the coordinator. -/
def CoordinatorCall.rateCheck : CoordinatorCall D → Option RateCheck
  | .submit _ _ now resetAt => some ⟨now, resetAt⟩
  | _ => none

section Submissions

variable [LinearOrder D] {h : Blake3 D} {ed : Ed25519} {config : CoordinatorConfig D}

/-- A submission takes its turn at the limiter. -/
theorem rate_submit {s : Coordinator D} {ticket : JoinTicket D} {currentSlot : UInt64}
    {now resetAt : Instant} :
    (coordinatorStep h ed config s (.submit ticket currentSlot now resetAt)).rate =
      rateStep config s.rate ⟨now, resetAt⟩ := by
  simp only [coordinatorStep, CoordinatorCall.perform, rateStep]
  split
  · rename_i hcheck
    simp [hcheck]
  · rename_i hcheck
    split <;> simp [hcheck]

/-- A submission is refused for its rate exactly when the limiter refuses it. -/
theorem submit_eq_rateLimited_iff {s : Coordinator D} {ticket : JoinTicket D}
    {currentSlot : UInt64} {now resetAt : Instant} :
    ((CoordinatorCall.submit ticket currentSlot now resetAt).perform h ed config s).1 =
        .error .rateLimited ↔
      (checkRate config now resetAt s.rate).1 = .error .rateLimited := by
  simp only [CoordinatorCall.perform]
  split
  · rename_i hcheck
    simp [hcheck]
  · rename_i hcheck
    split <;> simp [hcheck]

/-- Other calls leave the limiter alone, unless the process starts again. -/
theorem rate_eq_of_rateCheck_eq_none {s : Coordinator D} {call : CoordinatorCall D}
    (hother : call.rateCheck = none) (hserves : ∀ now, call ≠ .restart now) :
    (coordinatorStep h ed config s call).rate = s.rate := by
  have hstep := coordinatorStep_perform h ed config call s
  unfold coordinatorStep
  generalize (call.perform h ed config s).1 = reply at hstep
  generalize (call.perform h ed config s).2 = s' at hstep ⊢
  cases hstep with
  | refused => cases hother
  | arrived => cases hother
  | restarted => exact absurd rfl (hserves _)
  | _ => rfl

/-- Whatever other calls run between them, the submissions to a coordinator that
stays up are a history of the rate limiter. -/
theorem rateHistory_coordinator (h : Blake3 D) (ed : Ed25519) (config : CoordinatorConfig D)
    (store : Database D) (started : Instant) (calls : List (CoordinatorCall D))
    (hserves : ∀ call ∈ calls, ∀ now, call ≠ .restart now) :
    rateHistory config started (calls.filterMap CoordinatorCall.rateCheck) =
      (Runs.visits (coordinatorStep h ed config) (Coordinator.new store started) calls).filterMap
        (Runs.Visit.filterMap Coordinator.rate CoordinatorCall.rateCheck) := by
  have hstart : (Coordinator.new store started).rate =
      { windowStarted := started, accepted := 0 } := rfl
  rw [rateHistory, ← hstart]
  apply Runs.visits_filterMap
  · intro v hv check hcheck
    rcases Runs.mem_visits.mp hv with ⟨_, _, _, -, hafter⟩
    rw [hafter]
    cases hcall : v.input with
    | submit ticket currentSlot now resetAt =>
        rw [hcall] at hcheck
        cases hcheck
        exact rate_submit
    | _ =>
        rw [hcall] at hcheck
        cases hcheck
  · intro v hv hother
    rcases Runs.mem_visits.mp hv with ⟨_, _, hcalls, -, hafter⟩
    rw [hafter]
    exact rate_eq_of_rateCheck_eq_none hother (hserves v.input (by simp [hcalls]))

end Submissions

end MirrorPool
