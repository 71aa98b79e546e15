import RobotestLab.Library.Timestamp

/-!
# The restart policy of the supervisor

Readings of a clock (clock.go), and the rolling window of the failures of a child, which decides
whether the child is started again and after which delay (restart.go). Durations are signed 64-bit
numbers of nanoseconds.
-/

namespace RobotestLab

namespace Supervisor

/-! ### Time -/

abbrev Duration : Type := Int64

def millisecond : Duration := 1000000

/-- The number of whole milliseconds of a duration. -/
def Duration.milliseconds (d : Duration) : Int64 := d / millisecond

/-- The duration of the given number of nanoseconds, or the closest one. -/
def saturate (n : Int) : Duration :=
  if n < Int64.minValue.toInt then Int64.minValue
  else if Int64.maxValue.toInt < n then Int64.maxValue
  else .ofInt n

/-- A moment on the wall clock, with the reading of the monotonic clock if there is one. -/
structure Time where
  utc : Utc
  monotonic : Option Int := none
deriving DecidableEq

namespace Time

/-- The moment of a time that is not set. -/
def zero : Time where
  utc := {
    year := 1, month := 1, day := 1, hour := 0, minute := 0, second := 0, nanosecond := 0
    year_le := by decide
    month_mem := by decide
    day_mem := by decide
    hour_lt := by decide
    minute_lt := by decide
    second_lt := by decide
    nanosecond_lt := by decide }

def isZero (t : Time) : Bool := t.utc = zero.utc

/-- The nanoseconds from the second time to the first, on the monotonic clock when both have a
reading of it, and on the wall clock otherwise. -/
def since (t u : Time) : Int :=
  match t.monotonic, u.monotonic with
  | some m, some n => m - n
  | _, _ => t.utc.unixNano - u.utc.unixNano

def sub (t u : Time) : Duration := saturate (t.since u)

def before (t u : Time) : Bool := t.since u < 0

/-- The first time is before the moment that lies the given duration from the second. -/
def beforeShifted (t u : Time) (d : Duration) : Bool := t.since u < d.toInt

def format (t : Time) : String := String.ofList t.utc.format

end Time

/-! ### The restart tracker -/

structure RestartPolicy where
  initialBackoffMs : Int64
  maximumBackoffMs : Int64
  maximumAttempts : Int64
  windowMs : Int64
  stableResetMs : Int64
deriving DecidableEq

structure RestartTracker where
  policy : RestartPolicy
  failures : List Time := []
deriving DecidableEq

/-- The next delay, the number of the attempt, and whether there are no attempts left. -/
structure RestartDecision where
  delay : Duration
  attempt : Nat
  exhausted : Bool
deriving DecidableEq

/-- The delay before the given attempt. -/
def RestartPolicy.backoff (policy : RestartPolicy) (attempt : Nat) : Duration :=
  let delay := Nat.repeat (· * 2) (attempt - 1) (policy.initialBackoffMs * millisecond)
  let maximum := policy.maximumBackoffMs * millisecond
  if maximum < delay then maximum else delay

/-- Record a failure. Only continuous readiness resets the failures before it. -/
def RestartTracker.recordFailure (tracker : RestartTracker) (now : Time)
    (continuousReady : Duration) : RestartTracker × RestartDecision :=
  let policy := tracker.policy
  let failures :=
    if policy.stableResetMs * millisecond ≤ continuousReady then [] else tracker.failures
  let window := policy.windowMs * millisecond
  let kept := failures.filter fun stamp => !stamp.beforeShifted now (-window)
  let failures := kept ++ [now]
  let attempt := failures.length
  ({ tracker with failures := failures },
    if policy.maximumAttempts.toInt < attempt then
      { delay := 0, attempt := attempt, exhausted := true }
    else { delay := policy.backoff attempt, attempt := attempt, exhausted := false })

end Supervisor

end RobotestLab
