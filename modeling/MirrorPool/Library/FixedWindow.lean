import MirrorPool.Library.Runs
import Mathlib.Algebra.Order.Monoid.Unbundled.Basic
import Mathlib.Data.List.Induction

/-!
# Fixed-window limiters

A limiter passes up to a number of requests in a window.  The first request that
comes after the end of the window starts a new one, so that the windows drift
with the traffic.

A request reads the clock twice: the first reading is compared with the window,
and the second one starts a new window.  The clock never goes back.

Main results:

- Theorem {lit}`countP_passes_le_limit`: at most {lit}`limit` requests pass in
  one window.
- Theorem {lit}`exists_full_window`: a request is refused only in a full window.
- Theorem {lit}`pairwise_resets`: windows start at least a width apart.
- Theorem {lit}`countP_passesDuring_le`: in an interval that is no longer than
  the window, at most {lit}`2 * limit` requests pass.
-/

namespace FixedWindow

open Runs

universe u

variable {T : Type u} [LinearOrder T] [Add T]

/-- When the window started, and how many requests passed in it. -/
structure Window (T : Type u) where
  started : T
  passed : Nat

/-- The two readings of the clock in a request. -/
structure Request (T : Type u) where
  now : T
  resetAt : T

variable (width : T) (limit : Nat)

/-- A request comes after the end of the window. -/
def Expired (w : Window T) (r : Request T) : Prop :=
  w.started + width ≤ r.now

instance (w : Window T) (r : Request T) : Decidable (Expired width w r) :=
  inferInstanceAs (Decidable (_ ≤ _))

/-- The window that a request is counted in. -/
def current (w : Window T) (r : Request T) : Window T :=
  if Expired width w r then ⟨r.resetAt, 0⟩ else w

/-- Count a request if there is room in its window. -/
def step (w : Window T) (r : Request T) : Window T :=
  let w := current width w r
  if w.passed < limit then { w with passed := w.passed + 1 } else w

/-- The request starts a new window. -/
def resets (v : Visit (Window T) (Request T)) : Bool :=
  decide (Expired width v.before v.input)

/-- The request passes. -/
def passes (v : Visit (Window T) (Request T)) : Bool :=
  decide ((current width v.before v.input).passed < limit)

/-- A part of a history in which at most the first request starts a new
window. -/
def OneWindow (part : List (Visit (Window T) (Request T))) : Prop :=
  ∀ v ∈ part.tail, resets width v = false

/-- The readings of the clock never go back. -/
def Clock : T → List (Request T) → Prop
  | _, [] => True
  | t, r :: requests => t ≤ r.now ∧ r.now ≤ r.resetAt ∧ Clock r.resetAt requests

variable {width : T} {limit : Nat}

/-! ## Steps -/

/-- An expired window is replaced by a fresh one. -/
theorem current_of_expired {w : Window T} {r : Request T} (hexpired : Expired width w r) :
    current width w r = ⟨r.resetAt, 0⟩ :=
  if_pos hexpired

/-- A window that is not expired stays. -/
theorem current_of_not_expired {w : Window T} {r : Request T} (hopen : ¬Expired width w r) :
    current width w r = w :=
  if_neg hopen

/-- A request that finds room is counted. -/
theorem step_of_room {w : Window T} {r : Request T} (hroom : (current width w r).passed < limit) :
    step width limit w r =
      ⟨(current width w r).started, (current width w r).passed + 1⟩ :=
  if_pos hroom

/-- A request that finds no room changes nothing but an expired window. -/
theorem step_of_full {w : Window T} {r : Request T} (hfull : limit ≤ (current width w r).passed) :
    step width limit w r = current width w r :=
  if_neg (Nat.not_lt.mpr hfull)

/-- A request passes when it finds room. -/
theorem passes_eq_true {v : Visit (Window T) (Request T)} :
    passes width limit v = true ↔ (current width v.before v.input).passed < limit :=
  decide_eq_true_iff

/-- A request starts a window when it finds an expired one. -/
theorem resets_eq_true {v : Visit (Window T) (Request T)} :
    resets width v = true ↔ Expired width v.before v.input :=
  decide_eq_true_iff

/-- A step counts a request that passes. -/
theorem passed_step (width : T) (limit : Nat) (w : Window T) (r : Request T) :
    (step width limit w r).passed =
      (current width w r).passed +
        if passes width limit ⟨w, r, step width limit w r⟩ then 1 else 0 := by
  by_cases hroom : (current width w r).passed < limit
  · rw [step_of_room hroom, if_pos (passes_eq_true.mpr hroom)]
  · rw [step_of_full (Nat.not_lt.mp hroom), if_neg (mt passes_eq_true.mp hroom), Nat.add_zero]

@[simp]
theorem started_step (w : Window T) (r : Request T) :
    (step width limit w r).started = (current width w r).started := by
  unfold step
  dsimp only
  split <;> rfl

/-- A window that is within the limit stays so. -/
theorem passed_current_le {w : Window T} (r : Request T) (hw : w.passed ≤ limit) :
    (current width w r).passed ≤ limit := by
  unfold current
  split
  · exact Nat.zero_le limit
  · exact hw

/-- No window is counted past the limit. -/
theorem passed_step_le {w : Window T} (r : Request T) (hw : w.passed ≤ limit) :
    (step width limit w r).passed ≤ limit := by
  have hcurrent : (current width w r).passed ≤ limit := passed_current_le r hw
  rcases Nat.lt_or_ge (current width w r).passed limit with hroom | hfull
  · rw [step_of_room hroom]
    exact hroom
  · rw [step_of_full hfull]
    exact hcurrent

/-- No window lets more requests pass than the limit, in a whole run. -/
theorem passed_run_le {w : Window T} (requests : List (Request T)) (hw : w.passed ≤ limit) :
    (run (step width limit) w requests).passed ≤ limit ∧
      ∀ v ∈ visits (step width limit) w requests, v.before.passed ≤ limit := by
  have hkeep : ∀ v ∈ visits (step width limit) w requests,
      v.before.passed ≤ limit → v.after.passed ≤ limit := by
    intro v hv hbefore
    rw [after_of_mem_visits hv]
    exact passed_step_le v.input hbefore
  rcases run_invariant (fun w : Window T => w.passed ≤ limit) hw hkeep with ⟨hend, hall⟩
  exact ⟨hend, fun v hv => (hall v hv).1⟩

/-! ## Requests of one window -/

/-- While no new window starts, the window counts the requests that pass. -/
theorem countP_passes_add {w : Window T} {requests : List (Request T)}
    (hopen : ∀ v ∈ visits (step width limit) w requests, resets width v = false) :
    (visits (step width limit) w requests).countP (passes width limit) + w.passed =
      (run (step width limit) w requests).passed := by
  induction requests generalizing w with
  | nil => simp
  | cons r requests ih =>
      rw [visits_cons, List.forall_mem_cons] at hopen
      have hfirst : current width w r = w :=
        current_of_not_expired (of_decide_eq_false hopen.1)
      have hstep := passed_step width limit w r
      rw [hfirst] at hstep
      rw [visits_cons, List.countP_cons, run_cons, ← ih hopen.2, hstep]
      omega

/-- In one window, at most as many requests pass as the window counts at its
end. -/
theorem countP_oneWindow_le {w : Window T} {requests : List (Request T)}
    (hone : OneWindow width (visits (step width limit) w requests)) :
    (visits (step width limit) w requests).countP (passes width limit) ≤
      (run (step width limit) w requests).passed := by
  cases requests with
  | nil => simp
  | cons r requests =>
      have hrest := countP_passes_add hone
      have hstep := passed_step width limit w r
      rw [visits_cons, List.countP_cons, run_cons, ← hrest, hstep]
      omega

/-- At most {lit}`limit` requests pass in one window. -/
theorem countP_passes_le_limit {w : Window T} {requests : List (Request T)}
    (hw : w.passed ≤ limit) {earlier part later : List (Visit (Window T) (Request T))}
    (hparts : visits (step width limit) w requests = earlier ++ part ++ later)
    (hone : OneWindow width part) : part.countP (passes width limit) ≤ limit := by
  rw [List.append_assoc] at hparts
  rcases visits_eq_append.mp hparts with ⟨before, rest, -, -, hrest⟩
  rcases visits_eq_append.mp hrest.symm with ⟨during, after, -, rfl, -⟩
  have hstart : (run (step width limit) w before).passed ≤ limit :=
    (passed_run_le before hw).1
  exact (countP_oneWindow_le hone).trans (passed_run_le during hstart).1

/-- A window that is extended by a request stays one, unless the request starts
a new one. -/
theorem OneWindow.concat {part : List (Visit (Window T) (Request T))} (hone : OneWindow width part)
    {v : Visit (Window T) (Request T)} (hopen : resets width v = false) :
    OneWindow width (part ++ [v]) := by
  cases part with
  | nil => simp [OneWindow]
  | cons first part =>
      intro u hu
      rcases List.mem_append.mp hu with hold | hnew
      · exact hone u hold
      · rwa [List.mem_singleton.mp hnew]

/-- One request lies in one window. -/
theorem oneWindow_singleton (v : Visit (Window T) (Request T)) : OneWindow width [v] := by
  simp [OneWindow]

/-- The count of the window is the number of requests that passed in it. -/
theorem exists_window {w : Window T} (hw : w.passed = 0) (requests : List (Request T)) :
    ∃ earlier part, visits (step width limit) w requests = earlier ++ part ∧
      OneWindow width part ∧
        part.countP (passes width limit) = (run (step width limit) w requests).passed := by
  induction requests using List.reverseRecOn with
  | nil => exact ⟨[], [], rfl, by simp [OneWindow], hw.symm⟩
  | append_singleton requests r ih =>
      rcases ih with ⟨earlier, part, hvisits, hone, hcount⟩
      generalize hbefore : run (step width limit) w requests = before at hcount
      have hstep := passed_step width limit before r
      rw [visits_append, run_append, hbefore, hvisits, visits_cons, visits_nil, run_cons, run_nil]
      by_cases hexpired : Expired width before r
      · refine ⟨earlier ++ part, _, rfl, oneWindow_singleton _, ?_⟩
        rw [current_of_expired hexpired] at hstep
        simp [hstep]
      · refine ⟨earlier, part ++ [⟨before, r, step width limit before r⟩],
          by rw [List.append_assoc], hone.concat (decide_eq_false hexpired), ?_⟩
        rw [current_of_not_expired hexpired] at hstep
        rw [List.countP_append, hcount, hstep]
        simp

/-- A request is refused only in a window in which {lit}`limit` requests
passed. -/
theorem exists_full_window {w : Window T} (hw : w.passed = 0) {requests : List (Request T)}
    {earlier later : List (Visit (Window T) (Request T))} {v : Visit (Window T) (Request T)}
    (hvisits : visits (step width limit) w requests = earlier ++ v :: later)
    (hrefused : passes width limit v = false) :
    ∃ past part, earlier = past ++ part ∧ OneWindow width (part ++ [v]) ∧
      part.countP (passes width limit) = limit := by
  rcases visits_eq_append.mp hvisits with ⟨before, after, -, rfl, hrest⟩
  rcases exists_window hw before with ⟨past, part, hbefore, hone, hcount⟩
  have hle : (run (step width limit) w before).passed ≤ limit :=
    (passed_run_le before (hw.trans_le (Nat.zero_le limit))).1
  cases after with
  | nil => cases hrest
  | cons r after =>
      rw [visits_cons, List.cons.injEq] at hrest
      rcases hrest with ⟨rfl, -⟩
      have hfull : ¬(current width (run (step width limit) w before) r).passed < limit :=
        of_decide_eq_false hrefused
      by_cases hexpired : Expired width (run (step width limit) w before) r
      · -- the request starts a new window, so nothing ever passes
        rw [current_of_expired hexpired] at hfull
        have hnone : limit = 0 := by simpa using hfull
        exact ⟨_, [], by rw [List.append_nil], oneWindow_singleton _, by simp [hnone]⟩
      · rw [current_of_not_expired hexpired] at hfull
        refine ⟨past, part, hbefore, hone.concat (decide_eq_false hexpired), ?_⟩
        rw [hcount]
        omega

/-! ## Readings of the clock -/

theorem started_step_le (width : T) (limit : Nat) {w : Window T} {r : Request T}
    (hw : w.started ≤ r.resetAt) : (step width limit w r).started ≤ r.resetAt := by
  rw [started_step]
  unfold current
  split
  · exact le_refl r.resetAt
  · exact hw

/-- Every request of a clocked run comes after the start of its window. -/
theorem started_le_now {w : Window T} {t : T} {requests : List (Request T)}
    (hclock : Clock t requests) (hw : w.started ≤ t) :
    ∀ v ∈ visits (step width limit) w requests,
      v.before.started ≤ v.input.now ∧ v.input.now ≤ v.input.resetAt := by
  induction requests generalizing w t with
  | nil => simp
  | cons r requests ih =>
      rcases hclock with ⟨hnow, hreset, hrest⟩
      have hstarted := started_step_le width limit (hw.trans (hnow.trans hreset))
      rw [visits_cons, List.forall_mem_cons]
      exact ⟨⟨hw.trans hnow, hreset⟩, ih hrest hstarted⟩

/-- No window starts before the one it follows. -/
theorem started_le_after {w : Window T} {t : T} {requests : List (Request T)}
    (hclock : Clock t requests) (hw : w.started ≤ t) {v : Visit (Window T) (Request T)}
    (hv : v ∈ visits (step width limit) w requests) : v.before.started ≤ v.after.started := by
  rcases started_le_now hclock hw v hv with ⟨hnow, hreset⟩
  rw [after_of_mem_visits hv, started_step]
  unfold current
  split
  · exact hnow.trans hreset
  · exact le_refl v.before.started

/-- A request that starts a window comes a width after the start of every window
before it. -/
theorem add_width_le_of_resets [AddRightMono T] {w : Window T} {t : T}
    {requests : List (Request T)} (hclock : Clock t requests) (hw : w.started ≤ t)
    {v : Visit (Window T) (Request T)} (hv : v ∈ visits (step width limit) w requests)
    (hreset : resets width v = true) : w.started + width ≤ v.input.now := by
  have hkeep : ∀ u ∈ visits (step width limit) w requests,
      w.started ≤ u.before.started → w.started ≤ u.after.started :=
    fun u hu hbefore => hbefore.trans (started_le_after hclock hw hu)
  have hsince : w.started ≤ v.before.started :=
    ((run_invariant (fun u : Window T => w.started ≤ u.started) (le_refl w.started) hkeep).2
      v hv).1
  exact (add_le_add_left hsince width).trans (resets_eq_true.mp hreset)

/-- Windows start at least a width apart. -/
theorem pairwise_resets [AddRightMono T] {w : Window T} {t : T} {requests : List (Request T)}
    (hclock : Clock t requests) (hw : w.started ≤ t) :
    ((visits (step width limit) w requests).filter (resets width)).Pairwise
      fun first second => first.input.resetAt + width ≤ second.input.now := by
  induction requests generalizing w t with
  | nil => simp
  | cons r requests ih =>
      have hstarted := started_step_le width limit (hw.trans (hclock.1.trans hclock.2.1))
      have hrest := ih hclock.2.2 hstarted
      rw [visits_cons, List.filter_cons]
      split
      · rename_i hreset
        have hexpired : Expired width w r := resets_eq_true.mp hreset
        refine List.pairwise_cons.mpr ⟨?_, hrest⟩
        intro v hv
        rcases List.mem_filter.mp hv with ⟨hmem, hlater⟩
        have hlate := add_width_le_of_resets hclock.2.2 hstarted hmem hlater
        rwa [started_step, current_of_expired hexpired] at hlate
      · exact hrest

/-! ## Intervals -/

/-- Some moment of the request lies in the interval of a width from {lit}`t`. -/
def During (width t : T) (r : Request T) : Prop :=
  t ≤ r.resetAt ∧ r.now < t + width

instance (width t : T) (r : Request T) : Decidable (During width t r) :=
  inferInstanceAs (Decidable (_ ∧ _))

/-- The request passes, at a moment of the interval of a width from
{lit}`t`. -/
def passesDuring (width : T) (limit : Nat) (t : T) (v : Visit (Window T) (Request T)) : Bool :=
  passes width limit v && decide (During width t v.input)

/-- The requests that may have passed since {lit}`t`: those of the current window
and, when it started after {lit}`t`, those of one window before.  No third window
starts in the interval. -/
def passedSince (width : T) (limit : Nat) (t : T) (w : Window T) : Nat :=
  if t ≤ w.started then
    if t + width ≤ w.started then 2 * limit else limit + w.passed
  else w.passed

/-- A window that started before the time counts with all it let pass. -/
theorem passedSince_of_lt {t : T} {w : Window T} (hbefore : w.started < t) :
    passedSince width limit t w = w.passed :=
  if_neg (not_le.mpr hbefore)

theorem passedSince_of_past {t : T} {w : Window T} (hstarted : t ≤ w.started)
    (hpast : t + width ≤ w.started) : passedSince width limit t w = 2 * limit := by
  rw [passedSince, if_pos hstarted, if_pos hpast]

/-- Never more than two windows count. -/
theorem passedSince_le {t : T} {w : Window T} (hw : w.passed ≤ limit) :
    passedSince width limit t w ≤ 2 * limit := by
  unfold passedSince
  split
  · split <;> omega
  · omega

theorem le_passedSince {t : T} {w : Window T} (hstarted : t ≤ w.started) :
    min (2 * limit) (limit + w.passed) ≤ passedSince width limit t w := by
  rw [passedSince, if_pos hstarted]
  split
  · exact Nat.min_le_left _ _
  · exact Nat.min_le_right _ _

/-- While the window stays open, the measure rises by the requests that pass in
the interval. -/
theorem passedSince_step_of_open {t : T} {w : Window T} {r : Request T}
    (hopen : ¬Expired width w r) (hstarted : w.started ≤ r.now) :
    passedSince width limit t w +
        (if passesDuring width limit t ⟨w, r, step width limit w r⟩ then 1 else 0) ≤
      passedSince width limit t (step width limit w r) := by
  have hpassed := passed_step width limit w r
  have hsame : (step width limit w r).started = w.started := by
    rw [started_step, current_of_not_expired hopen]
  rw [current_of_not_expired hopen] at hpassed
  unfold passedSince passesDuring
  rw [hsame, hpassed]
  by_cases hpast : t + width ≤ w.started
  · -- the interval is over, so the request is not counted
    have hover : ¬During width t r := fun hduring =>
      not_le.mpr hduring.2 (hpast.trans hstarted)
    simp only [hover, hpast, decide_false, Bool.and_false, if_true, Bool.false_eq_true, if_false]
    split <;> omega
  · by_cases hpass : passes width limit ⟨w, r, step width limit w r⟩ = true <;>
      by_cases hduring : During width t r <;> simp [hpass, hduring, hpast] <;> split <;> omega

/-- A new window is the second one since {lit}`t`, or it starts after the
interval. -/
theorem passedSince_step_of_expired [AddRightMono T] {t : T} {w : Window T} {r : Request T}
    (hexpired : Expired width w r) (hreset : r.now ≤ r.resetAt) (hsince : t ≤ r.resetAt)
    (hw : w.passed ≤ limit) :
    passedSince width limit t w +
        (if passesDuring width limit t ⟨w, r, step width limit w r⟩ then 1 else 0) ≤
      passedSince width limit t (step width limit w r) := by
  have hfresh : (step width limit w r).started = r.resetAt := by
    rw [started_step, current_of_expired hexpired]
  have hpassed := passed_step width limit w r
  rw [current_of_expired hexpired] at hpassed
  rcases le_or_gt t w.started with hstarted | hstarted
  · -- both windows start after the beginning of the interval
    have hlate : t + width ≤ r.now := (add_le_add_left hstarted width).trans hexpired
    have hover : ¬During width t r := fun hduring => not_le.mpr hduring.2 hlate
    have hpast : passedSince width limit t (step width limit w r) = 2 * limit :=
      passedSince_of_past (by rwa [hfresh]) (by rw [hfresh]; exact hlate.trans hreset)
    simpa [passesDuring, hover, hpast] using passedSince_le hw
  · have hroom : min (2 * limit) (limit + (step width limit w r).passed) ≤
        passedSince width limit t (step width limit w r) := le_passedSince (by rwa [hfresh])
    rw [passedSince_of_lt hstarted]
    by_cases hpass : passes width limit ⟨w, r, step width limit w r⟩ = true
    · have hpositive : 0 < limit := (Nat.zero_le _).trans_lt (passes_eq_true.mp hpass)
      rw [if_pos hpass] at hpassed
      split <;> omega
    · rw [if_neg hpass] at hpassed
      rw [if_neg (by simp [passesDuring, hpass])]
      omega

/-- The measure rises by the requests that pass in the interval. -/
theorem passedSince_visit [AddRightMono T] {t c : T} {w : Window T} {requests : List (Request T)}
    (hclock : Clock c requests) (hw : w.started ≤ c) (hroom : w.passed ≤ limit)
    (hsince : ∀ r ∈ requests, t ≤ r.resetAt) {v : Visit (Window T) (Request T)}
    (hv : v ∈ visits (step width limit) w requests) :
    passedSince width limit t v.before + (if passesDuring width limit t v then 1 else 0) ≤
      passedSince width limit t v.after := by
  rcases started_le_now hclock hw v hv with ⟨hnow, hreset⟩
  have hpassed := (passed_run_le requests hroom).2 v hv
  have hinput : v.input ∈ requests := by
    rcases mem_visits.mp hv with ⟨earlier, later, hrequests, -, -⟩
    rw [hrequests]
    exact List.mem_append_right earlier List.mem_cons_self
  have hstep := after_of_mem_visits hv
  rcases v with ⟨before, r, after⟩
  obtain rfl : after = step width limit before r := hstep
  by_cases hexpired : Expired width before r
  · exact passedSince_step_of_expired hexpired hreset (hsince r hinput) hpassed
  · exact passedSince_step_of_open hexpired hnow

/-- Since the first request that may lie in the interval, at most
{lit}`2 * limit` requests pass in it. -/
theorem countP_passesDuring_add_le [AddRightMono T] {t c : T} {w : Window T}
    {requests : List (Request T)} (hclock : Clock c requests) (hw : w.started ≤ c)
    (hroom : w.passed ≤ limit) (hsince : ∀ r ∈ requests, t ≤ r.resetAt) :
    (visits (step width limit) w requests).countP (passesDuring width limit t) +
        passedSince width limit t w ≤
      passedSince width limit t (run (step width limit) w requests) := by
  apply countP_visits_add_le
  · intro v hv hpass
    have hrise := passedSince_visit hclock hw hroom hsince hv
    rwa [if_pos hpass] at hrise
  · intro v hv
    exact (Nat.le_add_right _ _).trans (passedSince_visit hclock hw hroom hsince hv)

omit [Add T] in
/-- No request is earlier than the clock before it. -/
theorem le_resetAt_of_mem {t : T} {requests : List (Request T)} (hclock : Clock t requests) :
    ∀ r ∈ requests, t ≤ r.resetAt := by
  induction requests generalizing t with
  | nil => simp
  | cons r requests ih =>
      rcases hclock with ⟨hnow, hreset, hrest⟩
      have hfirst : t ≤ r.resetAt := hnow.trans hreset
      rw [List.forall_mem_cons]
      exact ⟨hfirst, fun later hlater => hfirst.trans (ih hrest later hlater)⟩

/-- In an interval that is no longer than the window, at most {lit}`2 * limit`
requests pass. -/
theorem countP_passesDuring_le [AddRightMono T] (t : T) {c : T} {w : Window T}
    {requests : List (Request T)} (hclock : Clock c requests) (hw : w.started ≤ c)
    (hroom : w.passed ≤ limit) :
    (visits (step width limit) w requests).countP (passesDuring width limit t) ≤ 2 * limit := by
  induction requests generalizing w c with
  | nil => simp
  | cons r requests ih =>
      have hclock' := hclock
      rcases hclock with ⟨hnow, hreset, hrest⟩
      have hstarted := started_step_le width limit (hw.trans (hnow.trans hreset))
      rcases le_or_gt t r.resetAt with hsince | hbefore
      · have hall : ∀ later ∈ r :: requests, t ≤ later.resetAt :=
          List.forall_mem_cons.mpr
            ⟨hsince, fun later hlater => hsince.trans (le_resetAt_of_mem hrest later hlater)⟩
        have hend : (run (step width limit) w (r :: requests)).passed ≤ limit :=
          (passed_run_le (r :: requests) hroom).1
        calc (visits (step width limit) w (r :: requests)).countP (passesDuring width limit t)
          _ ≤ _ + passedSince width limit t w := Nat.le_add_right _ _
          _ ≤ _ := countP_passesDuring_add_le hclock' hw hroom hall
          _ ≤ 2 * limit := passedSince_le hend
      · -- the request comes before the interval
        have hout : ¬During width t r := fun hduring => not_le.mpr hbefore hduring.1
        rw [visits_cons, List.countP_cons, if_neg (by simp [passesDuring, hout])]
        exact ih hrest hstarted (passed_step_le r hroom)

end FixedWindow
