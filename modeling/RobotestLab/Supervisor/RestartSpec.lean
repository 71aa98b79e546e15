import RobotestLab.Supervisor.Restart
import Mathlib.Algebra.Group.Int.Defs

/-!
# What the restart policy decides

The decisions of a `RestartTracker` as its calls determine them: a failure counts from its call on
until it leaves the window or the child is stably ready, and the attempts that are left and the
delay follow from the number of failures that count (`recorded_decision`). For the policy that the
configuration requires, no window of a minute holds more than four restarts.
-/

namespace RobotestLab

namespace Supervisor

/-! ### Calls -/

/-- A call of `RecordFailure`. -/
structure RestartCall where
  now : Time
  continuousReady : Duration
deriving DecidableEq

namespace RestartTracker

def call (tracker : RestartTracker) (c : RestartCall) : RestartTracker × RestartDecision :=
  tracker.recordFailure c.now c.continuousReady

/-- The tracker after the calls. -/
def after (tracker : RestartTracker) (calls : List RestartCall) : RestartTracker :=
  calls.foldl (fun tracker c => (tracker.call c).1) tracker

/-- What the calls return. -/
def decisions (tracker : RestartTracker) : List RestartCall → List RestartDecision
  | [] => []
  | c :: calls => (tracker.call c).2 :: (tracker.call c).1.decisions calls

theorem decisions_append (tracker : RestartTracker) (calls calls' : List RestartCall) :
  tracker.decisions (calls ++ calls') = tracker.decisions calls ++
    (tracker.after calls).decisions calls'
  := by
  induction calls generalizing tracker with
  | nil => rfl
  | cons c calls ih =>
      rw [List.cons_append, decisions, decisions, ih]
      rfl

theorem length_decisions (tracker : RestartTracker) (calls : List RestartCall) :
  (tracker.decisions calls).length = calls.length
  := by
  induction calls generalizing tracker with
  | nil => rfl
  | cons c calls ih => rw [decisions, List.length_cons, List.length_cons, ih]

theorem after_snoc (tracker : RestartTracker) (calls : List RestartCall) (c : RestartCall) :
  tracker.after (calls ++ [c]) = ((tracker.after calls).call c).1
  := List.foldl_concat ..

@[simp]
theorem policy_after (tracker : RestartTracker) (calls : List RestartCall) :
  (tracker.after calls).policy = tracker.policy
  := by
  induction calls using List.reverseRecOn with
  | nil => rfl
  | append_singleton calls c ih =>
      rw [after_snoc, ← ih]
      rfl

end RestartTracker

/-! ### The declared policy -/

/-- The nanoseconds of a millisecond. -/
def nsPerMs : Int := 1000000

namespace RestartPolicy

/-- The values of the policy are positive. -/
structure Positive (policy : RestartPolicy) : Prop where
  initialBackoff : 0 < policy.initialBackoffMs.toInt
  maximumBackoff : 0 < policy.maximumBackoffMs.toInt
  maximumAttempts : 0 < policy.maximumAttempts.toInt
  window : 0 < policy.windowMs.toInt
  stableReset : 0 < policy.stableResetMs.toInt

/-- The durations of the policy are durations in nanoseconds. -/
structure Representable (policy : RestartPolicy) : Prop where
  initialBackoff : policy.initialBackoffMs.toInt * nsPerMs < 2 ^ 63
  maximumBackoff : policy.maximumBackoffMs.toInt * nsPerMs < 2 ^ 63
  window : policy.windowMs.toInt * nsPerMs < 2 ^ 63
  stableReset : policy.stableResetMs.toInt * nsPerMs < 2 ^ 63

/-- The child was stably ready before the call. -/
def Resets (policy : RestartPolicy) (c : RestartCall) : Prop :=
  policy.stableResetMs.toInt * nsPerMs ≤ c.continuousReady.toInt

instance (policy : RestartPolicy) : DecidablePred policy.Resets :=
  fun c => inferInstanceAs (Decidable (_ ≤ c.continuousReady.toInt))

/-- The first call lies in the window that ends with the second one. -/
def InWindow (policy : RestartPolicy) (c call : RestartCall) : Prop :=
  -(policy.windowMs.toInt * nsPerMs) ≤ c.now.since call.now

instance (policy : RestartPolicy) (c call : RestartCall) : Decidable (policy.InWindow c call) :=
  inferInstanceAs (Decidable (_ ≤ c.now.since call.now))

/-- The number of the earlier calls that count at a call: they lie in its window, and no call after
them, up to this one, resets. -/
def counted (policy : RestartPolicy) (call : RestartCall) : List RestartCall → Nat
  | [] => 0
  | c :: calls =>
      (if policy.InWindow c call ∧ ∀ k ∈ calls ++ [call], ¬ policy.Resets k then 1 else 0) +
        policy.counted call calls

/-- The delay before an attempt, in nanoseconds. -/
def declaredDelay (policy : RestartPolicy) (attempt : Nat) : Int :=
  min (policy.initialBackoffMs.toInt * nsPerMs * 2 ^ (attempt - 1))
    (policy.maximumBackoffMs.toInt * nsPerMs)

end RestartPolicy

/-- The calls are made at moments in nanoseconds that do not decrease. -/
structure Clocked (instant : Time → Int) (calls : List RestartCall) : Prop where
  since : ∀ c ∈ calls, ∀ c' ∈ calls, c.now.since c'.now = instant c.now - instant c'.now
  order : calls.Pairwise fun c c' => instant c.now ≤ instant c'.now

theorem Clocked.sublist {instant : Time → Int} {calls calls' : List RestartCall}
    (h : Clocked instant calls) (hsub : List.Sublist calls' calls) :
  Clocked instant calls'
  where
  since c hc c' hc' := h.since c (hsub.subset hc) c' (hsub.subset hc')
  order := h.order.sublist hsub

/-! ### The policy in machine integers -/

section Integers

variable {policy : RestartPolicy}

theorem toInt_mul_millisecond {n : Int64} (hpos : 0 < n.toInt) (h : n.toInt * nsPerMs < 2 ^ 63) :
  (n * millisecond).toInt = n.toInt * nsPerMs
  := by
  have hmillisecond : millisecond.toInt = nsPerMs := by
    decide
  rw [Int64.toInt_mul, hmillisecond]
  apply Int.bmod_eq_of_le
  · unfold nsPerMs at h ⊢
    omega
  · unfold nsPerMs at h ⊢
    omega

theorem resets_iff (hpos : policy.Positive) (hrep : policy.Representable) (c : RestartCall) :
  policy.stableResetMs * millisecond ≤ c.continuousReady ↔ policy.Resets c
  := by
  rw [Int64.le_iff_toInt_le, toInt_mul_millisecond hpos.stableReset hrep.stableReset]
  exact Iff.rfl

/-- The delay is doubled as often as it fits a duration. -/
theorem toInt_repeat_double {delay : Duration} {n : Nat} (hpos : 0 < delay.toInt)
    (h : delay.toInt * 2 ^ n < 2 ^ 63) :
  (Nat.repeat (· * 2) n delay).toInt = delay.toInt * 2 ^ n
  := by
  induction n with
  | zero => simp [Nat.repeat]
  | succ n ih =>
      rw [Int.pow_succ, ← Int.mul_assoc] at h ⊢
      have hpow : 0 < delay.toInt * 2 ^ n := Int.mul_pos hpos (Int.pow_pos (by decide))
      rw [Nat.repeat, Int64.toInt_mul, ih (by omega)]
      apply Int.bmod_eq_of_le
      · simp only [Int64.reduceToInt]
        omega
      · simp only [Int64.reduceToInt]
        omega

theorem toInt_backoff (hpos : policy.Positive) (hrep : policy.Representable) {attempt : Nat}
    (h : policy.initialBackoffMs.toInt * nsPerMs * 2 ^ (attempt - 1) < 2 ^ 63) :
  (policy.backoff attempt).toInt = policy.declaredDelay attempt
  := by
  have hinitial := toInt_mul_millisecond hpos.initialBackoff hrep.initialBackoff
  have hmaximum := toInt_mul_millisecond hpos.maximumBackoff hrep.maximumBackoff
  have hdelay : (Nat.repeat (· * 2) (attempt - 1) (policy.initialBackoffMs * millisecond)).toInt =
      policy.initialBackoffMs.toInt * nsPerMs * 2 ^ (attempt - 1) := by
    rw [← hinitial] at h ⊢
    apply toInt_repeat_double _ h
    rw [hinitial]
    have hpositive := hpos.initialBackoff
    unfold nsPerMs
    omega
  unfold RestartPolicy.backoff RestartPolicy.declaredDelay
  simp only [Int64.lt_iff_toInt_lt, hdelay, hmaximum]
  split
  · rw [hmaximum]
    omega
  · rw [hdelay]
    omega

end Integers

/-! ### The failures that count -/

section Counting

variable {policy : RestartPolicy} {instant : Time → Int} {before : List RestartCall}
  {c call : RestartCall}

/-- A failure at the given time is kept at the call. -/
def RestartPolicy.keeps (policy : RestartPolicy) (call : RestartCall) (stamp : Time) : Bool :=
  -(policy.windowMs.toInt * nsPerMs) ≤ stamp.since call.now

theorem not_beforeShifted (hpos : policy.Positive) (hrep : policy.Representable) (stamp : Time) :
  (!stamp.beforeShifted call.now (-(policy.windowMs * millisecond))) = policy.keeps call stamp
  := by
  have hwindow := toInt_mul_millisecond hpos.window hrep.window
  have hneg : (-(policy.windowMs * millisecond)).toInt = -(policy.windowMs.toInt * nsPerMs) := by
    rw [Int64.toInt_neg, hwindow]
    have hpositive := hpos.window
    have hbound := hrep.window
    apply Int.bmod_eq_of_le
    · unfold nsPerMs at hbound ⊢
      omega
    · unfold nsPerMs at hbound ⊢
      omega
  unfold Time.beforeShifted RestartPolicy.keeps
  rw [hneg, ← decide_not, decide_eq_decide, Int.not_lt]

/-- The failures after a call. -/
theorem failures_call (hpos : policy.Positive) (hrep : policy.Representable)
    {tracker : RestartTracker} (hpolicy : tracker.policy = policy) :
  (tracker.call call).1.failures =
    (if policy.Resets call then [] else tracker.failures).filter (policy.keeps call) ++ [call.now]
  := by
  subst hpolicy
  unfold RestartTracker.call RestartTracker.recordFailure
  simp only [resets_iff hpos hrep, not_beforeShifted hpos hrep]

/-- The decision of a call depends on the number of failures. -/
theorem decision_call (tracker : RestartTracker) :
  (tracker.call call).2 =
    if tracker.policy.maximumAttempts.toInt < (tracker.call call).1.failures.length then
      { delay := 0, attempt := (tracker.call call).1.failures.length, exhausted := true }
    else {
      delay := tracker.policy.backoff (tracker.call call).1.failures.length
      attempt := (tracker.call call).1.failures.length
      exhausted := false }
  := rfl

theorem attempt_call (tracker : RestartTracker) :
  (tracker.call call).2.attempt = (tracker.call call).1.failures.length
  := by
  rw [decision_call]
  split
  · rfl
  · rfl

theorem exhausted_call (tracker : RestartTracker) :
  (tracker.call call).2.exhausted = true ↔
    tracker.policy.maximumAttempts.toInt < (tracker.call call).2.attempt
  := by
  rw [attempt_call, decision_call]
  split
  · rename_i hlt
    exact iff_of_true rfl hlt
  · rename_i hlt
    exact iff_of_false Bool.false_ne_true hlt

theorem delay_call (tracker : RestartTracker) (h : (tracker.call call).2.exhausted = false) :
  (tracker.call call).2.delay = tracker.policy.backoff (tracker.call call).2.attempt
  := by
  rw [attempt_call]
  rw [decision_call] at h ⊢
  split
  · rename_i hlt
    rw [if_pos hlt] at h
    cases h
  · rfl

/-- Nothing before a call that resets counts. -/
theorem counted_of_resets (h : policy.Resets call) :
  policy.counted call before = 0
  := by
  induction before with
  | nil => rfl
  | cons c before ih =>
      rw [RestartPolicy.counted, ih, if_neg]
      rintro ⟨-, hresets⟩
      exact hresets call (List.mem_append_right _ List.mem_cons_self) h

/-- The last one of the earlier calls counts on its own, and decides whether the others count. -/
theorem counted_snoc :
  policy.counted call (before ++ [c]) =
    (if policy.Resets c then 0 else policy.counted call before) +
      (if policy.InWindow c call ∧ ¬ policy.Resets call then 1 else 0)
  := by
  induction before with
  | nil =>
      simp [RestartPolicy.counted]
  | cons c' before ih =>
      rw [List.cons_append, RestartPolicy.counted, ih, RestartPolicy.counted]
      by_cases hresets : policy.Resets c
      · rw [if_pos hresets, if_pos hresets, if_neg]
        · omega
        · rintro ⟨-, hnone⟩
          exact hnone c (by simp) hresets
      · have hsame : (policy.InWindow c' call ∧ ∀ k ∈ before ++ [c] ++ [call], ¬ policy.Resets k) ↔
            policy.InWindow c' call ∧ ∀ k ∈ before ++ [call], ¬ policy.Resets k := by
          simp [hresets, or_imp, forall_and]
        rw [if_neg hresets, if_neg hresets, if_congr hsame rfl rfl]
        omega

theorem failures_subset (hpos : policy.Positive) (hrep : policy.Representable) :
  ∀ stamp ∈ (({ policy := policy } : RestartTracker).after before).failures,
    ∃ c ∈ before, c.now = stamp
  := by
  induction before using List.reverseRecOn with
  | nil => nofun
  | append_singleton before c ih =>
      intro stamp hstamp
      rw [RestartTracker.after_snoc, failures_call hpos hrep (by simp), List.mem_append] at hstamp
      rcases hstamp with hstamp | hstamp
      · have hmem := List.mem_of_mem_filter hstamp
        split at hmem
        · cases hmem
        · obtain ⟨c', hc', rfl⟩ := ih stamp hmem
          exact ⟨c', List.mem_append_left _ hc', rfl⟩
      · exact ⟨c, by simp, (List.mem_singleton.mp hstamp).symm⟩

/-- The failures that are kept at a call are the earlier calls that count at it. -/
theorem length_kept (hpos : policy.Positive) (hrep : policy.Representable)
    (hclock : Clocked instant (before ++ [call])) (hcall : ¬ policy.Resets call) :
  ((({ policy := policy } : RestartTracker).after before).failures.filter
    (policy.keeps call)).length = policy.counted call before
  := by
  induction before using List.reverseRecOn with
  | nil => rfl
  | append_singleton before c ih =>
      have hsub : List.Sublist (before ++ [call]) (before ++ [c] ++ [call]) := by
        simp
      rw [RestartTracker.after_snoc, failures_call hpos hrep (by simp), counted_snoc,
        List.filter_append, List.length_append, List.filter_filter]
      congr 1
      · by_cases hresets : policy.Resets c
        · rw [if_pos hresets, if_pos hresets]
          rfl
        · rw [if_neg hresets, if_neg hresets, ← ih (hclock.sublist hsub)]
          congr 1
          apply List.filter_congr
          -- What is kept at the later call was kept at the earlier one.
          intro stamp hstamp
          obtain ⟨c', hc', rfl⟩ := failures_subset hpos hrep stamp hstamp
          have hlater := hclock.since c' (by simp [hc']) call (by simp)
          have hearlier := hclock.since c' (by simp [hc']) c (by simp)
          have horder : instant c.now ≤ instant call.now := by
            have hpair := hclock.order
            rw [List.append_assoc, List.pairwise_append] at hpair
            exact (List.pairwise_cons.mp hpair.2.1).1 call (by simp)
          rw [Bool.and_eq_left_iff_imp]
          intro hkept
          rw [RestartPolicy.keeps, decide_eq_true_iff] at hkept ⊢
          omega
      · by_cases hwindow : policy.InWindow c call
        · have hkeeps : policy.keeps call c.now = true := decide_eq_true hwindow
          simp [hkeeps, hwindow, hcall]
        · have hkeeps : policy.keeps call c.now = false := decide_eq_false hwindow
          simp [hkeeps, hwindow]

/-- The number of an attempt. -/
theorem attempt_after (hpos : policy.Positive) (hrep : policy.Representable)
    (hclock : Clocked instant (before ++ [call])) :
  ((({ policy := policy } : RestartTracker).after before).call call).2.attempt =
    1 + policy.counted call before
  := by
  rw [attempt_call, failures_call hpos hrep (by simp), List.length_append, List.length_singleton,
    Nat.add_comm]
  congr 1
  by_cases hresets : policy.Resets call
  · rw [if_pos hresets, counted_of_resets hresets]
    rfl
  · rw [if_neg hresets, length_kept hpos hrep hclock hresets]

end Counting

/-! ### The decisions -/

/-- The policy that the configuration requires (config.go). -/
def requiredPolicy : RestartPolicy where
  initialBackoffMs := 1000
  maximumBackoffMs := 8000
  maximumAttempts := 4
  windowMs := 60000
  stableResetMs := 60000

/-- The nanoseconds of a minute. -/
def minuteNs : Int := 60000000000

/-- The call is granted a restart in the minute that starts at the given moment. -/
def grantedIn (instant : Time → Int) (start : Int) : RestartCall × RestartDecision → Bool
  | (call, decision) =>
      !decision.exhausted && start ≤ instant call.now && instant call.now ≤ start + minuteNs

section Decisions

variable {policy : RestartPolicy} {instant : Time → Int} {calls : List RestartCall}

theorem required_positive :
  requiredPolicy.Positive
  := by
  constructor <;> decide

theorem required_representable :
  requiredPolicy.Representable
  := by
  constructor <;> decide

/-- The calls of a minute all count at a later call in it, when none of them resets. -/
theorem countP_minute_le {call : RestartCall} {start : Int}
    (hclock : Clocked instant (calls ++ [call]))
    (hresets : ∀ c ∈ calls ++ [call], ¬ requiredPolicy.Resets c)
    (hstart : instant call.now ≤ start + minuteNs) :
  calls.countP (fun c => start ≤ instant c.now) ≤ requiredPolicy.counted call calls
  := by
  induction calls with
  | nil => exact Nat.le_refl _
  | cons c calls ih =>
      have hsince := hclock.since c (by simp) call (by simp)
      have hrest := ih (hclock.sublist (List.sublist_cons_self _ _)) (fun c' hc' =>
        hresets c' (List.mem_cons_of_mem _ hc'))
      rw [List.countP_cons, RestartPolicy.counted]
      by_cases hlate : start ≤ instant c.now
      · rw [if_pos (decide_eq_true hlate), if_pos]
        · omega
        · refine ⟨?_, fun k hk => hresets k (List.mem_cons_of_mem _ hk)⟩
          unfold RestartPolicy.InWindow
          rw [hsince]
          unfold minuteNs at hstart
          have hwindow : requiredPolicy.windowMs.toInt * nsPerMs = 60000000000 := by
            decide
          omega
      · rw [if_neg (by simpa using hlate)]
        omega

theorem countP_zip_le {ds : List RestartDecision} {start : Int} (h : calls.length ≤ ds.length) :
  (calls.zip ds).countP (grantedIn instant start) ≤ calls.countP fun c => start ≤ instant c.now
  := by
  calc (calls.zip ds).countP (grantedIn instant start)
      ≤ (calls.zip ds).countP ((fun c : RestartCall => decide (start ≤ instant c.now)) ∘
        Prod.fst) := by
        apply List.countP_mono_left
        rintro ⟨c, d⟩ - hgranted
        simp only [grantedIn, Bool.and_eq_true] at hgranted
        exact hgranted.1.2
    _ = calls.countP fun c => start ≤ instant c.now := by
        rw [← List.countP_map, List.map_fst_zip h]

/-- In a minute without a stable reset, at most four restarts are granted. -/
theorem countP_granted_le (hclock : Clocked instant calls)
    (hresets : ∀ c ∈ calls, ¬ requiredPolicy.Resets c) (start : Int) :
  (calls.zip (({ policy := requiredPolicy } : RestartTracker).decisions calls)).countP
    (grantedIn instant start) ≤ 4
  := by
  induction calls using List.reverseRecOn with
  | nil => exact Nat.zero_le _
  | append_singleton calls call ih =>
      have hbefore := ih (hclock.sublist (by simp)) (fun c hc => hresets c (by simp [hc]))
      rw [RestartTracker.decisions_append, List.zip_append
        (RestartTracker.length_decisions _ _).symm, List.countP_append]
      change _ + List.countP (grantedIn instant start) [(call, _)] ≤ 4
      rw [List.countP_singleton]
      split
      · rename_i hgranted
        simp only [grantedIn, Bool.and_eq_true, Bool.not_eq_true', decide_eq_true_eq] at hgranted
        obtain ⟨⟨hgranted, -⟩, hend⟩ := hgranted
        -- The restarts of the minute before this one count at it.
        have hattempt := attempt_after required_positive required_representable hclock
        have hlimit := (@exhausted_call call
          (({ policy := requiredPolicy } : RestartTracker).after calls)).not.mp
            (by rw [hgranted]; exact Bool.false_ne_true)
        rw [hattempt, RestartTracker.policy_after] at hlimit
        have hmaximum : requiredPolicy.maximumAttempts.toInt = 4 := by
          decide
        have hcounted := countP_minute_le hclock hresets hend
        have hle : (calls.zip (({ policy := requiredPolicy } : RestartTracker).decisions
          calls)).countP
            (grantedIn instant start) ≤ calls.countP fun c => start ≤ instant c.now :=
          countP_zip_le (RestartTracker.length_decisions _ _).ge
        simp only [hmaximum] at hlimit
        omega
      · exact hbefore

/-- A call returns the number of the failures that count at it, with itself. There are no attempts
left when this number exceeds the maximum, and otherwise the delay is the declared one, as long as
its doubling fits a duration. With the required policy no minute holds more than four restarts that
are granted without a stable reset. -/
theorem recorded_decision (hpos : policy.Positive) (hrep : policy.Representable)
    (hclock : Clocked instant calls) :
  (∀ before call after, calls = before ++ call :: after →
    ∃ decision,
      (({ policy := policy } : RestartTracker).decisions calls)[before.length]? = some decision ∧
      decision.attempt = 1 + policy.counted call before ∧
      (decision.exhausted = true ↔ policy.maximumAttempts.toInt < decision.attempt) ∧
      (decision.exhausted = false →
        policy.initialBackoffMs.toInt * nsPerMs * 2 ^ (decision.attempt - 1) < 2 ^ 63 →
        decision.delay.toInt = policy.declaredDelay decision.attempt)) ∧
    (policy = requiredPolicy → (∀ c ∈ calls, ¬ policy.Resets c) → ∀ start,
      (calls.zip (({ policy := policy } : RestartTracker).decisions calls)).countP
        (grantedIn instant start) ≤ 4)
  := by
  constructor
  · rintro before call after rfl
    have hbefore : Clocked instant (before ++ [call]) := hclock.sublist (by simp)
    refine ⟨((({ policy := policy } : RestartTracker).after before).call call).2, ?_, ?_, ?_, ?_⟩
    · rw [RestartTracker.decisions_append, List.getElem?_append_right
        (Nat.le_of_eq (RestartTracker.length_decisions _ _)), RestartTracker.length_decisions,
        Nat.sub_self]
      rfl
    · exact attempt_after hpos hrep hbefore
    · rw [exhausted_call, RestartTracker.policy_after]
    · intro hgranted hfits
      rw [delay_call _ hgranted, RestartTracker.policy_after]
      exact toInt_backoff hpos hrep hfits
  · rintro rfl hresets start
    exact countP_granted_le hclock hresets start

/-- A policy whose first delay is no duration in nanoseconds. -/
def overflowingPolicy : RestartPolicy :=
  { requiredPolicy with initialBackoffMs := Int64.maxValue }

/-- A failure at the start of the clock. -/
def firstFailure : RestartCall where
  now := Time.zero
  continuousReady := 0

/-- Positive values are not enough for the declared delay. -/
theorem backoff_overflows :
  ¬ ∀ (policy : RestartPolicy) (instant : Time → Int) (calls : List RestartCall), policy.Positive →
    Clocked instant calls → ∀ before call after, calls = before ++ call :: after →
    ∃ decision,
      (({ policy := policy } : RestartTracker).decisions calls)[before.length]? = some decision ∧
      (decision.exhausted = false → decision.delay.toInt = policy.declaredDelay decision.attempt)
  := by
  intro hall
  have hclock : Clocked (fun _ => 0) [firstFailure] := by
    constructor
    · intro c hc c' hc'
      rw [List.mem_singleton.mp hc, List.mem_singleton.mp hc']
      decide
    · exact List.pairwise_singleton _ _
  obtain ⟨decision, hdecision, hdelay⟩ := hall overflowingPolicy _ [firstFailure]
    (by constructor <;> decide) hclock [] firstFailure [] rfl
  obtain rfl := Option.some.inj hdecision
  revert hdelay
  decide

/-- Two failures at the start of the clock. -/
theorem recorded_decision_sample :
  (∀ before call after, [firstFailure, firstFailure] = before ++ call :: after →
    ∃ decision,
      (({ policy := requiredPolicy } : RestartTracker).decisions
        [firstFailure, firstFailure])[before.length]? = some decision ∧
      decision.attempt = 1 + requiredPolicy.counted call before ∧
      (decision.exhausted = true ↔ requiredPolicy.maximumAttempts.toInt < decision.attempt) ∧
      (decision.exhausted = false →
        requiredPolicy.initialBackoffMs.toInt * nsPerMs * 2 ^ (decision.attempt - 1) < 2 ^ 63 →
        decision.delay.toInt = requiredPolicy.declaredDelay decision.attempt)) ∧
    (requiredPolicy = requiredPolicy →
      (∀ c ∈ [firstFailure, firstFailure], ¬ requiredPolicy.Resets c) → ∀ start,
      ([firstFailure, firstFailure].zip (({ policy := requiredPolicy } : RestartTracker).decisions
        [firstFailure, firstFailure])).countP (grantedIn (fun _ => 0) start) ≤ 4)
  := by
  apply recorded_decision required_positive required_representable
  constructor
  · decide
  · decide

end Decisions

end Supervisor

end RobotestLab
