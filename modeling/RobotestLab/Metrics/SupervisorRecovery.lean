import RobotestLab.Metrics.Values
import RobotestLab.Supervisor.Event

/-!
# Recovery of the supervisor

`supervisor_recovery_metrics` reads the event log of the supervisor and measures the outage of the
last run in it: from the first failure to the next time the supervisor is ready, with the restarts
in between.
-/

namespace RobotestLab

namespace Metrics

/-- An event of the last run, with its counters. -/
structure OrderedEvent where
  sequence : Int
  steadyWallNs : Int
  event : Evidence

def hasKind (kind : String) (event : Evidence) : Bool :=
  (PyValue.item "kind" event).equalsText kind

/-- The value is the object `True` or the object `False`. -/
def isBool (b : Bool) : PyValue → Bool
  | .bool b' => b' = b
  | _ => false

/-- The event says whether the supervisor is ready. -/
def changesReadiness (ready : Bool) (event : Evidence) : Bool :=
  hasKind "readiness_changed" event && isBool ready (PyValue.item "ready" event)

/-! ### The events of the last run -/

def regressed : MetricError :=
  .unavailable "supervisor steady-wall time regressed within the latest segment"

/-- Check the counters of an event against those of the event before it. -/
def orderEvent (previous : Option OrderedEvent) (index : Nat) (event : Evidence) :
    Except MetricError OrderedEvent := do
  let name := "events[" ++ toString index ++ "]"
  if (PyValue.item "schema_version" event).equalsInt 1 = false then
    unavailable (name ++ ".schema_version must be 1")
  else
    let sequence ← requireInt (PyValue.item "sequence" event) (name ++ ".sequence")
    let steadyWallNs ← requireInt (PyValue.item "steady_wall_ns" event) (name ++ ".steady_wall_ns")
    if sequence < 0 ∨ steadyWallNs < 0 then
      unavailable "supervisor event counters must be nonnegative"
    else if ∃ item ∈ previous, sequence ≤ item.sequence then
      unavailable "supervisor event sequence is not strictly increasing"
    else if ∃ item ∈ previous, steadyWallNs < item.steadyWallNs then .error regressed
    else .ok { sequence := sequence, steadyWallNs := steadyWallNs, event := event }

/-- Check the counters of the events, the first of which has the given index. -/
def orderEvents (previous : Option OrderedEvent) (index : Nat) :
    List Evidence → Except MetricError (List OrderedEvent)
  | [] => .ok []
  | event :: events => do
      let item ← orderEvent previous index event
      let items ← orderEvents (some item) (index + 1) events
      .ok (item :: items)

/-- The index of the last event that satisfies the condition. -/
def lastIndex (f : Evidence → Bool) (events : List Evidence) : Option Nat :=
  ((List.range events.length).filter fun n => (events[n]?).any f).getLast?

/-! ### Restarts -/

structure RestartPair where
  childStartedWallNs : Int
  restartScheduledWallNs : Int
deriving DecidableEq, Repr

/-- The restarts so far, with the time of a restart that is scheduled and still to happen. -/
structure Restarts where
  restartCount : Nat := 0
  scheduledStamp : Option Int := none
  restartPairs : List RestartPair := []

/-- Count the restart that an event completes. -/
def Restarts.count (restarts : Restarts) (item : OrderedEvent) : Except MetricError Restarts :=
  if hasKind "restart_scheduled" item.event then
    if restarts.scheduledStamp.isSome then
      unavailable "restart scheduled twice without a child start"
    else .ok { restarts with scheduledStamp := some item.steadyWallNs }
  else if hasKind "child_started" item.event then
    match restarts.scheduledStamp with
    | some stamp => .ok {
        restartCount := restarts.restartCount + 1
        scheduledStamp := none
        restartPairs := restarts.restartPairs ++ [{
          childStartedWallNs := item.steadyWallNs
          restartScheduledWallNs := stamp }] }
    | none => .ok restarts
  else .ok restarts

/-! ### The measurement -/

structure SupervisorRecovery (F64 : Type) where
  failureDetectedWallNs : Int
  latestSupervisorStartedSequence : Int
  readinessFalseWallNs : Int
  readyRestoredWallNs : Int
  restartCount : Nat
  restartPairs : List RestartPair
  supervisorRecoveryTimeWallS : F64

/-- The outage between a failure and the next time the supervisor is ready. -/
def measureOutage {F64 : Type} [PyFloat F64] (first failure restored : OrderedEvent)
    (interval : List OrderedEvent) : Except MetricError (SupervisorRecovery F64) :=
  match interval.find? fun item => changesReadiness false item.event with
  | none => unavailable "readiness false transition is missing during outage"
  | some falseTransition =>
      if interval.any fun item =>
          item.sequence < restored.sequence && changesReadiness true item.event then
        unavailable "readiness became true before the selected restoration"
      else do
        let restarts ← interval.foldlM Restarts.count {}
        if restarts.scheduledStamp.isSome then
          unavailable "restart schedule has no child start before readiness restoration"
        else if restarts.restartCount = 0 then
          unavailable "no scheduled restart followed by a new child start"
        else
          let time ← seconds (restored.steadyWallNs - failure.steadyWallNs)
          .ok {
            failureDetectedWallNs := failure.steadyWallNs
            latestSupervisorStartedSequence := first.sequence
            readinessFalseWallNs := falseTransition.steadyWallNs
            readyRestoredWallNs := restored.steadyWallNs
            restartCount := restarts.restartCount
            restartPairs := restarts.restartPairs
            supervisorRecoveryTimeWallS := time }

/-- The outage of the last run, from its checked events. -/
def measureRun {F64 : Type} [PyFloat F64] (ordered : List OrderedEvent) :
    Except MetricError (SupervisorRecovery F64) :=
  match ordered.find? fun item => hasKind "failure_detected" item.event with
  | none => unavailable "supervisor failure_detected event is missing"
  | some failure =>
      match ordered.find? fun item =>
        failure.sequence < item.sequence && changesReadiness true item.event with
      | none => unavailable "supervisor readiness restoration is missing"
      | some restored =>
          measureOutage (ordered.headD failure) failure restored (ordered.filter fun item =>
            failure.sequence ≤ item.sequence && item.sequence ≤ restored.sequence)

/-- Measure one structured supervisor outage and count proven restart cycles. -/
def supervisorRecoveryMetrics {F64 : Type} [PyFloat F64] (events : List Evidence) :
    Except MetricError (SupervisorRecovery F64) :=
  match lastIndex (hasKind "supervisor_started") events with
  | none => unavailable "supervisor_started event is missing"
  | some segmentStart => do
      let ordered ← orderEvents none segmentStart (events.drop segmentStart)
      measureRun ordered

end Metrics

end RobotestLab
