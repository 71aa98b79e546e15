import RobotestLab.Library.Program
import RobotestLab.Missions.FaultSchedule

/-!
# The mission executor

The bounded state machine that drives one navigation goal: it waits for the clock, prepares the
fault schedule, sends the goal, proves its acceptance, arms the schedule, waits for the terminal
result or a deadline and resets the faults. The clocks, the action driver, the fault driver and
the spin callback are the environment: each may answer anything and raise anything, and each but
the clocks and the liveness test may deliver feedback before it answers.
-/

namespace RobotestLab

namespace Missions

/-! ### Constants -/

def FEEDBACK_TRACE_CAPACITY : Nat := 4096
def MISSION_EVENT_TRACE_CAPACITY : Nat := 1024
def FAULT_EVENT_TRACE_CAPACITY : Nat := 512
def MIN_ARM_MARGIN_NS : Int := 500000000
def NAV2_ERROR_NONE : Int := 0
def ACCEPTED_GOAL_STAMP_SOURCE : String := "uuid_matched_action_status_goal_info"

/-- The operations on Python floats that the executor uses. `truncate` is `int`, which raises for
a number that is not finite. -/
class PyFloat (F : Type) where
  ofRat : ℚ → F
  add : F → F → F
  sub : F → F → F
  mul : F → F → F
  lt : F → F → Bool
  le : F → F → Bool
  truncate : F → Except String Int

section Constants

variable (F : Type) [PyFloat F]

def ACTION_SERVER_WAIT_WALL_S : F := PyFloat.ofRat 30
def SIM_TIME_READY_WAIT_WALL_S : F := PyFloat.ofRat 30
def GOAL_RESPONSE_TIMEOUT_WALL_S : F := PyFloat.ofRat 10
def ACCEPTED_STATUS_TIMEOUT_WALL_S : F := PyFloat.ofRat 10
def CANCEL_ACK_TIMEOUT_WALL_S : F := PyFloat.ofRat 5
def CANCEL_RESULT_TIMEOUT_WALL_S : F := PyFloat.ofRat 10
def FAULT_SERVICE_WAIT_WALL_S : F := PyFloat.ofRat 20
def FAULT_RESPONSE_TIMEOUT_WALL_S : F := PyFloat.ofRat 10
def FAULT_EVENT_TIMEOUT_WALL_S : F := PyFloat.ofRat 5
def SPIN_POLL_WALL_S : F := PyFloat.ofRat (5 / 100)

end Constants

/-- `min` of two floats. -/
def minFloat {F : Type} [PyFloat F] (a b : F) : F := if PyFloat.lt b a then b else a

/-- `max(0.0, value)`. -/
def nonnegative {F : Type} [PyFloat F] (value : F) : F :=
  if PyFloat.lt (PyFloat.ofRat 0) value then value else PyFloat.ofRat 0

/-! ### Observations -/

inductive ExitCode where
  | success
  | validationError
  | infrastructureError
  | goalRejected
  | goalAborted
  | goalCanceled
  | timeout
  | artifactError
  deriving DecidableEq, Repr

/-- The codes of `action_msgs/msg/GoalStatus` with their names. -/
def goalStatusNames : List (Int × String) :=
  [(0, "UNKNOWN"), (1, "ACCEPTED"), (2, "EXECUTING"), (3, "CANCELING"), (4, "SUCCEEDED"),
    (5, "CANCELED"), (6, "ABORTED")]

def GoalStatusCode.SUCCEEDED : Int := 4
def GoalStatusCode.CANCELED : Int := 5
def GoalStatusCode.ABORTED : Int := 6

/-- What is raised, with its text. The errors of the fault protocol and the overflow of the
feedback trace are action protocol errors; the last kind is not an `Exception`. -/
inductive Raised where
  | feedbackTraceOverflowError (text : String)
  | faultProtocolError (text : String)
  | actionProtocolError (text : String)
  | exception (text : String)
  | baseException (text : String)
  deriving DecidableEq, Repr

structure GoalResponse where
  accepted : Bool
  goalUuid : Option String := none
  responseStampNs : Option Int := none
  deriving DecidableEq, Repr

structure MissedWaypoint where
  index : Int
  errorCode : Int
  goal : Json

structure TerminalActionResult where
  statusCode : Int
  errorCode : Int
  errorMessage : String
  missedWaypoints : List MissedWaypoint

structure ResetResponse where
  success : Bool
  message : String
  deriving DecidableEq, Repr

structure PreloadResponse where
  accepted : Bool
  replayed : Bool
  state : Int
  scheduleHash : String
  loadedCount : Int
  generation : Int
  message : String
  deriving DecidableEq, Repr

structure ArmResponse where
  accepted : Bool
  replayed : Bool
  state : Int
  scheduleHash : String
  generation : Int
  goalUuid : String
  acceptedGoalStampNs : Int
  armCommitStampNs : Int
  armMarginNs : Int
  message : String
  deriving DecidableEq, Repr

/-- A fault event as the fault driver hands it over: an untyped mapping. -/
abbrev FaultEventDict : Type := List (PyValue × PyValue)

structure PlanarPose (F : Type) where
  x : F
  y : F
  yaw : F

/-- The part of the mission configuration that the executor reads. -/
structure MissionConfig (F : Type) where
  waypoints : List (PlanarPose F)
  missionTimeoutSimS : F
  wallEscapeTimeoutS : F
  faultSchedule : Option FaultSchedule
  scenarioId : Option Int

def MissionConfig.isPhase3 {F : Type} (config : MissionConfig F) : Bool := config.scenarioId.isSome

/-! ### The record -/

structure MissionEvent (F : Type) where
  kind : String
  simStampNs : Int
  wallOffsetS : F
  details : List (String × Json)

structure FeedbackObservation (F : Type) where
  currentWaypoint : Int
  simStampNs : Int
  wallOffsetS : F
  validIndex : Bool

structure ExecutionRecord (F : Type) where
  startedSimStampNs : Int
  startedSteadyS : F
  events : List (MissionEvent F) := []
  eventTraceOverflow : Bool := false
  eventTraceOverflowCount : Nat := 0
  feedbackTrace : List (FeedbackObservation F) := []
  feedbackTraceOverflow : Bool := false
  feedbackTraceOverflowCount : Nat := 0
  invalidFeedbackCount : Nat := 0
  goalSubmissionStampNs : Option Int := none
  goalResponseStampNs : Option Int := none
  acceptedGoalUuid : Option String := none
  acceptedGoalStampNs : Option Int := none
  acceptedGoalWallOffsetS : Option F := none
  terminalActionStampNs : Option Int := none
  terminalWallOffsetS : Option F := none
  terminalResult : Option TerminalActionResult := none
  cancellationRequested : Bool := false
  cancelAcknowledged : Option Bool := none
  deadlineKind : Option String := none
  faultEvents : List FaultEventDict := []
  faultEventOverflow : Bool := false
  faultEventOverflowCount : Int := 0
  faultScheduleHash : Option String := none
  faultGeneration : Option Int := none
  faultPreloadReplayed : Option Bool := none
  faultArmReplayed : Option Bool := none
  faultArmCommitStampNs : Option Int := none
  faultArmMarginNs : Option Int := none
  faultResetBeforeGoal : Bool := false
  faultResetAfterGoal : Bool := false
  faultProtocolStatus : String := "NOT_APPLICABLE"
  exitCode : ExitCode := .infrastructureError
  reason : String := "mission_not_started"

/-- The attributes of the executor that change, with the local variable that tells the handlers
of exceptions whether the goal was accepted. -/
structure MissionExecutor (F : Type) where
  record : ExecutionRecord F
  faultEventSequence : Option Int := none
  acceptedGoalActive : Bool := false

/-- A new executor whose clocks read the given times. -/
def MissionExecutor.new {F : Type} (simTimeNs : Int) (steadyTimeS : F) : MissionExecutor F where
  record := { startedSimStampNs := simTimeNs, startedSteadyS := steadyTimeS }

/-! ### The environment -/

/-- The calls of the executor. -/
inductive Call (F : Type) where
  | runtimeOk
  | simTimeNs
  | steadyTimeS
  | spinOnce (timeoutS : F)
  | serverIsReady
  | startGoal (submissionStampNs : Int)
  | pollGoalResponse
  | acceptedGoalIsActive
  | pollAcceptedStatusStampNs
  | pollTerminalResult
  | requestCancel
  | pollCancelAcknowledgement
  | servicesAreReady
  | startReset
  | pollResetResponse
  | startPreload (schedule : FaultSchedule)
  | pollPreloadResponse
  | startArm (scheduleHash : String) (generation : Int) (goalUuid : String)
      (acceptedGoalStampNs : Int)
  | pollArmResponse
  | drainEvents
  | eventOverflowCount

/-- What a call answers. -/
@[reducible]
def Call.Answer {F : Type} : Call F → Type
  | .runtimeOk => Bool
  | .simTimeNs => Int
  | .steadyTimeS => F
  | .spinOnce _ => Unit
  | .serverIsReady => Bool
  | .startGoal _ => Unit
  | .pollGoalResponse => Option GoalResponse
  | .acceptedGoalIsActive => Bool
  | .pollAcceptedStatusStampNs => Option Int
  | .pollTerminalResult => Option TerminalActionResult
  | .requestCancel => Unit
  | .pollCancelAcknowledgement => Option Bool
  | .servicesAreReady => Bool
  | .startReset => Unit
  | .pollResetResponse => Option ResetResponse
  | .startPreload _ => Unit
  | .pollPreloadResponse => Option PreloadResponse
  | .startArm _ _ _ _ => Unit
  | .pollArmResponse => Option ArmResponse
  | .drainEvents => List FaultEventDict
  | .eventOverflowCount => Int

/-- The calls of the executor; the callback delivers the index of a waypoint as feedback. -/
@[reducible]
def missionSignature (F : Type) : Signature where
  Call := Call F
  Answer := Call.Answer
  Callback := Int
  Raised := Raised

/-- A part of the executor. -/
abbrev Mission (F : Type) : Type → Type := Program (missionSignature F) (MissionExecutor F)

/-! ### Evidence -/

section Executor

variable {F : Type} [PyFloat F]

/-- A call of a clock or of the liveness test. -/
def ask (c : Call F) : Mission F c.Answer := Program.ask (missionSignature F) c

def raise {α : Type} (e : Raised) : Mission F α := Program.raise e

def getRecord : Mission F (ExecutionRecord F) := do
  let executor ← Program.getState
  pure executor.record

def modifyRecord (f : ExecutionRecord F → ExecutionRecord F) : Mission F Unit :=
  Program.modifyState fun executor => { executor with record := f executor.record }

/-- Run the program if the condition holds. -/
def onlyIf (condition : Bool) (m : Mission F Unit) : Mission F Unit :=
  if condition then m else pure ()

/-- The given stamp, or the current one. -/
def stampOrNow : Option Int → Mission F Int
  | none => ask .simTimeNs
  | some stamp => pure stamp

/-- `ExecutionRecord.event`. -/
def event (kind : String) (details : List (String × Json) := [])
    (simStampNs : Option Int := none) : Mission F Unit := do
  let record ← getRecord
  if MISSION_EVENT_TRACE_CAPACITY ≤ record.events.length then
    modifyRecord fun record => { record with
      eventTraceOverflow := true
      eventTraceOverflowCount := record.eventTraceOverflowCount + 1 }
  else do
    let stamp ← stampOrNow simStampNs
    let steady ← ask .steadyTimeS
    modifyRecord fun record => { record with
      events := record.events ++ [{
        kind := kind
        simStampNs := stamp
        wallOffsetS := nonnegative (PyFloat.sub steady record.startedSteadyS)
        details := details }] }

def wallOffset : Mission F F := do
  let steady ← ask .steadyTimeS
  let record ← getRecord
  pure (nonnegative (PyFloat.sub steady record.startedSteadyS))

/-- The feedback callback, for a mission with the given number of waypoints. -/
def recordFeedback (waypointCount : Nat) (currentWaypoint : Int) : Mission F Unit := do
  let record ← getRecord
  if FEEDBACK_TRACE_CAPACITY ≤ record.feedbackTrace.length then do
    modifyRecord fun record => { record with
      feedbackTraceOverflow := true
      feedbackTraceOverflowCount := record.feedbackTraceOverflowCount + 1 }
    onlyIf (record.feedbackTraceOverflowCount + 1 = 1)
      (event "feedback_trace_overflow" [
        ("feedback_trace_capacity", .int FEEDBACK_TRACE_CAPACITY),
        ("retained_feedback_count", .int record.feedbackTrace.length)])
  else do
    let valid : Bool := 0 ≤ currentWaypoint && currentWaypoint < waypointCount
    onlyIf (!valid) (modifyRecord fun record => { record with
      invalidFeedbackCount := record.invalidFeedbackCount + 1 })
    let stamp ← ask .simTimeNs
    let offset ← wallOffset
    modifyRecord fun record => { record with
      feedbackTrace := record.feedbackTrace ++ [{
        currentWaypoint := currentWaypoint
        simStampNs := stamp
        wallOffsetS := offset
        validIndex := valid }] }

def raiseIfFeedbackTraceOverflow : Mission F Unit := do
  let record ← getRecord
  onlyIf record.feedbackTraceOverflow
    (raise (.feedbackTraceOverflowError "feedback_trace_overflow"))

def finish (exitCode : ExitCode) (reason : String) : Mission F Unit :=
  modifyRecord fun record =>
    if record.eventTraceOverflow then
      { record with
        exitCode := .infrastructureError
        reason := "mission_event_trace_overflow" }
    else { record with exitCode := exitCode, reason := reason }

def isPositiveTimeNs (value : Int) : Bool := 0 < value

def isNonnegativeTimeNs (value : Int) : Bool := 0 ≤ value

def isPositiveUint64 (value : Int) : Bool := 0 < value && value ≤ 18446744073709551615

/-! ### Waiting -/

variable (config : MissionConfig F)

/-- A call of a driver or of the spin callback. -/
def perform (c : Call F) : Mission F c.Answer :=
  Program.call (missionSignature F) (recordFeedback config.waypoints.length) c

/-- The smaller of the timeout and the wall escape timeout. -/
def boundedTimeout (timeoutS : F) : F := minFloat timeoutS config.wallEscapeTimeoutS

/-- The time that is the given number of seconds away. -/
def deadlineAfter (timeoutS : F) : Mission F F := do
  let steady ← ask .steadyTimeS
  pure (PyFloat.add steady timeoutS)

/-- The condition of the loops with a deadline. -/
def beforeDeadline (deadline : F) : Mission F Bool := do
  let ok ← ask .runtimeOk
  if ok then do
    let steady ← ask .steadyTimeS
    pure (PyFloat.lt steady deadline)
  else pure false

def spinBounded (deadline : F) : Mission F Unit := do
  let steady ← ask .steadyTimeS
  let remaining := nonnegative (PyFloat.sub deadline steady)
  perform config (.spinOnce (minFloat (SPIN_POLL_WALL_S F) remaining))

/-- Until the deadline, run the body and spin; `none` tells that the deadline has passed. -/
def waitUntil {α : Type} (deadline : F) (body : Mission F (Option α)) : Mission F (Option α) :=
  Program.loop (fun _ : Unit => do
    let waiting ← beforeDeadline deadline
    if waiting then do
      let found ← body
      match found with
      | some value => pure (.inr (some value))
      | none => do
          spinBounded config deadline
          pure (.inl ())
    else pure (.inr none)) ()

def waitForValue {α : Type} (poll : Mission F (Option α)) (timeoutS : F)
    (failOnFeedbackTraceOverflow : Bool := false) : Mission F (Option α) := do
  let deadline ← deadlineAfter timeoutS
  let found ← waitUntil config deadline do
    onlyIf failOnFeedbackTraceOverflow raiseIfFeedbackTraceOverflow
    poll
  match found with
  | some value => pure (some value)
  | none => do
      onlyIf failOnFeedbackTraceOverflow raiseIfFeedbackTraceOverflow
      let ok ← ask .runtimeOk
      if ok then poll else pure none

def waitForServer : Mission F Bool := do
  let deadline ← deadlineAfter (boundedTimeout config (ACTION_SERVER_WAIT_WALL_S F))
  let found ← waitUntil config deadline do
    let ready ← perform config .serverIsReady
    if ready then do
      event "action_server_ready"
      pure (some ())
    else pure none
  pure found.isSome

def waitForAdvancingPositiveSimTime : Mission F Bool := do
  let deadline ← deadlineAfter (boundedTimeout config (SIM_TIME_READY_WAIT_WALL_S F))
  Program.loop (fun firstPositiveNs : Option Int => do
    let waiting ← beforeDeadline deadline
    if waiting then do
      let stampNs ← ask .simTimeNs
      if isPositiveTimeNs stampNs then
        match firstPositiveNs with
        | none => do
            spinBounded config deadline
            pure (.inl (some stampNs))
        | some first =>
            if first < stampNs then do
              event "simulation_clock_ready" [("first_positive_stamp_ns", .int first),
                ("second_positive_stamp_ns", .int stampNs)] stampNs
              pure (.inr true)
            else do
              spinBounded config deadline
              pure (.inl (some first))
      else do
        spinBounded config deadline
        pure (.inl firstPositiveNs)
    else pure (.inr false)) none

def waitForClientClockToReach (acceptedStatusStampNs localAcceptanceObservedNs : Int) :
    Mission F Bool := do
  let deadline ← deadlineAfter (boundedTimeout config (ACCEPTED_STATUS_TIMEOUT_WALL_S F))
  let found ← waitUntil config deadline do
    raiseIfFeedbackTraceOverflow
    let localStampNs ← ask .simTimeNs
    if !isPositiveTimeNs localStampNs then
      raise (.actionProtocolError "local ROS time became non-positive after acceptance")
    else if localStampNs < localAcceptanceObservedNs then
      raise (.actionProtocolError "local ROS time regressed after goal acceptance")
    else if acceptedStatusStampNs ≤ localStampNs then do
      event "accepted_stamp_clock_correlated" [
        ("accepted_goal_stamp_ns", .int acceptedStatusStampNs),
        ("client_observation_stamp_ns", .int localStampNs)]
      pure (some ())
    else pure none
  pure found.isSome

/-! ### Fault events -/

/-- One round of the loop over the drained events. -/
def collectFaultEvent (event : FaultEventDict) : Mission F Unit :=
  if !(PyValue.item "schema_version" event).equalsInt 2 then
    raise (.faultProtocolError "fault_event_schema_version_invalid")
  else if !(PyValue.item "event_type" event).asInteger.any (fun eventType =>
      1 ≤ eventType && eventType ≤ 9) then
    raise (.faultProtocolError "fault_event_type_invalid")
  else match (PyValue.item "event_sequence" event).asInteger.filter isPositiveUint64 with
    | none => raise (.faultProtocolError "fault_event_sequence_invalid")
    | some sequence => do
        let executor ← Program.getState
        if executor.faultEventSequence.any (fun last => sequence ≠ last + 1) then
          raise (.faultProtocolError "fault_event_sequence_gap")
        else do
          Program.modifyState fun executor =>
            { executor with faultEventSequence := some sequence }
          if FAULT_EVENT_TRACE_CAPACITY ≤ executor.record.faultEvents.length then do
            modifyRecord fun record => { record with
              faultEventOverflow := true
              faultEventOverflowCount := record.faultEventOverflowCount + 1 }
            raise (.faultProtocolError "fault_event_trace_overflow")
          else
            modifyRecord fun record => { record with faultEvents := record.faultEvents ++ [event] }

/-- The loop over the drained events. -/
def collectEach : List FaultEventDict → Mission F Unit
  | [] => pure ()
  | event :: rest => do
      collectFaultEvent event
      collectEach rest

variable (faultDriver : Bool)

def collectFaultEvents : Mission F Unit :=
  if faultDriver then do
    let events ← perform config .drainEvents
    collectEach events
    let overflow ← perform config .eventOverflowCount
    if overflow ≠ 0 then do
      modifyRecord fun record => { record with
        faultEventOverflow := true
        faultEventOverflowCount := overflow }
      raise (.faultProtocolError "fault_event_subscriber_overflow")
    else pure ()
  else pure ()

/-- The first event of the type among the events from the index on. -/
def findFaultEvent (eventType : Int) (startIndex : Nat) : Mission F (Option FaultEventDict) := do
  collectFaultEvents config faultDriver
  let record ← getRecord
  pure ((record.faultEvents.drop startIndex).find? fun event =>
    (PyValue.item "event_type" event).equalsInt eventType)

def waitForFaultEvent (eventType : Int) : Mission F FaultEventDict := do
  let deadline ← deadlineAfter (boundedTimeout config (FAULT_EVENT_TIMEOUT_WALL_S F))
  let record ← getRecord
  let startIndex := record.faultEvents.length
  let found ← waitUntil config deadline (findFaultEvent config faultDriver eventType startIndex)
  match found with
  | some event => pure event
  | none => do
      let found ← findFaultEvent config faultDriver eventType startIndex
      match found with
      | some event => pure event
      | none => raise (.faultProtocolError ("fault_event_" ++ toString eventType ++ "_timeout"))

/-! ### Fault control -/

def requireFaultContract : Mission F FaultSchedule :=
  match config.faultSchedule, faultDriver with
  | some schedule, true => pure schedule
  | _, _ => raise (.faultProtocolError "phase3_fault_control_driver_unavailable")

def resetFaults (beforeGoal : Bool) : Mission F Bool :=
  if faultDriver then do
    perform config .startReset
    let response ← waitForValue config (perform config .pollResetResponse)
      (boundedTimeout config (FAULT_RESPONSE_TIMEOUT_WALL_S F))
    match response with
    | none => pure false
    | some response =>
        if response.success then do
          let resetEvent ← waitForFaultEvent config faultDriver 3
          if !(PyValue.item "accepted" resetEvent).truth ||
              !(PyValue.item "state_after" resetEvent).equalsInt 0 then
            pure false
          else do
            modifyRecord fun record =>
              if beforeGoal then { record with
                faultResetBeforeGoal := true
                faultProtocolStatus := "RESET_CONFIRMED" }
              else { record with
                faultResetAfterGoal := true
                faultProtocolStatus := "RESET_CONFIRMED_AFTER_GOAL" }
            event "fault_reset_confirmed"
              [("phase", .str (if beforeGoal then "before_goal" else "after_goal"))]
            pure true
        else pure false
  else pure false

/-- The test of the response to the preload. -/
def preloadResponseMismatch (schedule : FaultSchedule) (response : PreloadResponse) : Bool :=
  !response.accepted ||
    response.state != 1 ||
    response.scheduleHash != schedule.sha256 ||
    response.loadedCount != schedule.faults.length ||
    !isPositiveUint64 response.generation

/-- The test of the event of the preload. -/
def preloadEventMismatch (schedule : FaultSchedule) (response : PreloadResponse)
    (event : FaultEventDict) : Bool :=
  !(PyValue.item "accepted" event).truth ||
    (PyValue.item "replayed" event).truth != response.replayed ||
    !(PyValue.item "state_after" event).equalsInt 1 ||
    !(PyValue.item "requested_schedule_hash" event).equalsText schedule.sha256 ||
    !(PyValue.item "committed_schedule_hash" event).equalsText schedule.sha256 ||
    !(PyValue.item "requested_fault_count" event).equalsInt schedule.faults.length ||
    !(PyValue.item "committed_generation" event).equalsInt response.generation ||
    !(PyValue.item "committed_fault_count" event).equalsInt schedule.faults.length

def prepareFaultSchedule : Mission F Unit := do
  let schedule ← requireFaultContract config faultDriver
  let deadline ← deadlineAfter (boundedTimeout config (FAULT_SERVICE_WAIT_WALL_S F))
  let found ← waitUntil config deadline do
    collectFaultEvents config faultDriver
    let ready ← perform config .servicesAreReady
    pure (if ready then some () else none)
  if found.isNone then raise (.faultProtocolError "fault_control_services_unavailable")
  else do
    let confirmed ← resetFaults config faultDriver true
    if !confirmed then raise (.faultProtocolError "fault_pre_goal_reset_failed")
    else do
      perform config (.startPreload schedule)
      let response ← waitForValue config (perform config .pollPreloadResponse)
        (boundedTimeout config (FAULT_RESPONSE_TIMEOUT_WALL_S F))
      match response with
      | none => raise (.faultProtocolError "fault_preload_response_timeout")
      | some response =>
          if preloadResponseMismatch schedule response then
            raise (.faultProtocolError "fault_preload_response_mismatch")
          else do
            let loaded ← waitForFaultEvent config faultDriver 1
            if preloadEventMismatch schedule response loaded then
              raise (.faultProtocolError "fault_preload_event_mismatch")
            else do
              modifyRecord fun record => { record with
                faultScheduleHash := some schedule.sha256
                faultGeneration := some response.generation
                faultPreloadReplayed := some response.replayed
                faultProtocolStatus := "PREPARED" }
              event "fault_schedule_prepared" [
                ("schedule_hash", .str schedule.sha256),
                ("generation", .int response.generation),
                ("loaded_count", .int response.loadedCount),
                ("replayed", .bool response.replayed)]

/-- The test of the response to the arming. -/
def armResponseMismatch (schedule : FaultSchedule) (generation : Int) (goalUuid : String)
    (acceptedStampNs : Int) (response : ArmResponse) : Bool :=
  !response.accepted ||
    response.state != 2 ||
    response.scheduleHash != schedule.sha256 ||
    response.generation != generation ||
    response.goalUuid != goalUuid ||
    response.acceptedGoalStampNs != acceptedStampNs ||
    !isPositiveTimeNs response.armCommitStampNs ||
    response.armCommitStampNs < acceptedStampNs

/-- What is raised for the margin of the response, if it is wrong. -/
def armMarginError (schedule : FaultSchedule) (acceptedStampNs : Int) (response : ArmResponse) :
    Option Raised :=
  match schedule.earliestStartOffsetNs with
  | none =>
      if response.armMarginNs != 0 then
        some (.faultProtocolError "empty_fault_schedule_arm_margin_must_be_zero")
      else none
  | some earliestStartOffsetNs =>
      if response.armMarginNs < MIN_ARM_MARGIN_NS then
        some (.faultProtocolError "fault_arm_margin_below_500ms")
      else
        let activationStampNs := acceptedStampNs + earliestStartOffsetNs
        let expectedMarginNs := activationStampNs - response.armCommitStampNs
        if response.armMarginNs != expectedMarginNs then
          some (.faultProtocolError "fault_arm_margin_calculation_mismatch")
        else none

/-- The test of the event of the arming. -/
def armEventMismatch (schedule : FaultSchedule) (generation : Int) (goalUuid : String)
    (acceptedStampNs : Int) (response : ArmResponse) (event : FaultEventDict) : Bool :=
  !(PyValue.item "accepted" event).truth ||
    (PyValue.item "replayed" event).truth != response.replayed ||
    !(PyValue.item "state_after" event).equalsInt 2 ||
    !(PyValue.item "requested_schedule_hash" event).equalsText schedule.sha256 ||
    !(PyValue.item "committed_schedule_hash" event).equalsText schedule.sha256 ||
    !(PyValue.item "requested_generation" event).equalsInt generation ||
    !(PyValue.item "committed_generation" event).equalsInt generation ||
    !(PyValue.item "requested_goal_uuid" event).equalsText goalUuid ||
    !(PyValue.item "bound_goal_uuid" event).equalsText goalUuid ||
    !(PyValue.item "requested_t0_ns" event).equalsInt acceptedStampNs ||
    !(PyValue.item "bound_t0_ns" event).equalsInt acceptedStampNs ||
    !(PyValue.item "arm_commit_stamp_ns" event).equalsInt response.armCommitStampNs ||
    !(PyValue.item "arm_margin_ns" event).equalsInt response.armMarginNs ||
    !(PyValue.item "actual_stamp_ns" event).equalsInt response.armCommitStampNs ||
    !(PyValue.item "header_stamp_ns" event).equalsInt response.armCommitStampNs

def armFaultSchedule (goalUuid : String) (acceptedStampNs : Int) : Mission F Unit := do
  let schedule ← requireFaultContract config faultDriver
  let record ← getRecord
  match record.faultGeneration.filter isPositiveUint64 with
  | none => raise (.faultProtocolError "fault_generation_unavailable")
  | some generation => do
      perform config (.startArm schedule.sha256 generation goalUuid acceptedStampNs)
      let response ← waitForValue config (perform config .pollArmResponse)
        (boundedTimeout config (FAULT_RESPONSE_TIMEOUT_WALL_S F))
      match response with
      | none => raise (.faultProtocolError "fault_arm_response_timeout")
      | some response =>
          if armResponseMismatch schedule generation goalUuid acceptedStampNs response then
            raise (.faultProtocolError "fault_arm_response_mismatch")
          else match armMarginError schedule acceptedStampNs response with
            | some error => raise error
            | none => do
                let armed ← waitForFaultEvent config faultDriver 7
                if armEventMismatch schedule generation goalUuid acceptedStampNs response armed then
                  raise (.faultProtocolError "fault_arm_event_mismatch")
                else do
                  modifyRecord fun record => { record with
                    faultArmReplayed := some response.replayed
                    faultArmCommitStampNs := some response.armCommitStampNs
                    faultArmMarginNs := some response.armMarginNs
                    faultProtocolStatus := "ARMED" }
                  event "fault_schedule_armed" [
                    ("schedule_hash", .str schedule.sha256),
                    ("generation", .int generation),
                    ("goal_uuid", .str goalUuid),
                    ("accepted_goal_stamp_ns", .int acceptedStampNs),
                    ("arm_commit_stamp_ns", .int response.armCommitStampNs),
                    ("arm_margin_ns", .int response.armMarginNs),
                    ("replayed", .bool response.replayed)]

/-! ### Ending a goal -/

def captureTerminal (terminal : TerminalActionResult) : Mission F Unit := do
  modifyRecord fun record => { record with terminalResult := some terminal }
  let stamp ← ask .simTimeNs
  modifyRecord fun record => { record with terminalActionStampNs := some stamp }
  let offset ← wallOffset
  modifyRecord fun record => { record with terminalWallOffsetS := some offset }
  event "terminal_result" [
    ("goal_status_code", .int terminal.statusCode),
    ("goal_status", .str ((goalStatusNames.lookup terminal.statusCode).getD "INVALID")),
    ("nav2_error_code", .int terminal.errorCode),
    ("missed_waypoint_count", .int terminal.missedWaypoints.length)]

/-- The stamp of the terminal result precedes the one of the acceptance. -/
def terminalPrecedesAcceptance (record : ExecutionRecord F) : Bool :=
  match record.acceptedGoalStampNs, record.terminalActionStampNs with
  | some accepted, some observed => observed < accepted
  | _, _ => false

/-- The verdict on a terminal result, given the record that captured it. -/
def terminalVerdict (record : ExecutionRecord F) (terminal : TerminalActionResult) :
    ExitCode × String :=
  if terminalPrecedesAcceptance record then
    (.infrastructureError, "terminal_stamp_precedes_accepted_goal_stamp")
  else if terminal.statusCode = GoalStatusCode.SUCCEEDED then
    if terminal.errorCode ≠ NAV2_ERROR_NONE then (.goalAborted, "succeeded_with_nav2_error")
    else if !terminal.missedWaypoints.isEmpty then
      (.goalAborted, "succeeded_with_missed_waypoints")
    else if record.invalidFeedbackCount ≠ 0 then
      (.infrastructureError, "invalid_feedback_observed")
    else (.success, "succeeded")
  else if terminal.statusCode = GoalStatusCode.ABORTED then (.goalAborted, "goal_aborted")
  else if terminal.statusCode = GoalStatusCode.CANCELED then (.goalCanceled, "goal_canceled")
  else (.infrastructureError, "nonterminal_goal_status_" ++ toString terminal.statusCode)

def finishFromTerminal (terminal : TerminalActionResult) : Mission F Unit := do
  captureTerminal terminal
  let record ← getRecord
  let verdict := terminalVerdict record terminal
  finish verdict.1 verdict.2

def cancelAndAwaitTerminal (completedExitCode : ExitCode) (reason : String) : Mission F Unit := do
  modifyRecord fun record => { record with cancellationRequested := true }
  perform config .requestCancel
  event "cancel_requested"
  let acknowledged ← waitForValue config (perform config .pollCancelAcknowledgement)
    (CANCEL_ACK_TIMEOUT_WALL_S F)
  modifyRecord fun record => { record with cancelAcknowledged := acknowledged }
  if acknowledged ≠ some true then do
    event "cancel_not_acknowledged"
    finish .infrastructureError (reason ++ ": cancellation_not_acknowledged")
  else do
    event "cancel_acknowledged"
    let terminal ← waitForValue config (perform config .pollTerminalResult)
      (CANCEL_RESULT_TIMEOUT_WALL_S F)
    match terminal with
    | none => finish .infrastructureError (reason ++ ": cancellation_result_timeout")
    | some terminal => do
        captureTerminal terminal
        finish completedExitCode reason

def cancelAfterDeadline (deadlineKind : String) : Mission F Unit := do
  modifyRecord fun record => { record with deadlineKind := some deadlineKind }
  event "deadline_reached" [("deadline_kind", .str deadlineKind)]
  cancelAndAwaitTerminal config .timeout deadlineKind

/-- `str` of what was raised. -/
def Raised.text : Raised → String
  | .feedbackTraceOverflowError text => text
  | .faultProtocolError text => text
  | .actionProtocolError text => text
  | .exception text => text
  | .baseException text => text

/-- `except Exception`. -/
def exceptException {α : Type} (m : Mission F α) (handler : String → Mission F α) : Mission F α :=
  Program.attempt m fun
    | .baseException text => raise (.baseException text)
    | e => handler e.text

def failClosedAfterAcceptance (reason : String) : Mission F Unit :=
  exceptException (cancelAndAwaitTerminal config .infrastructureError reason) fun text => do
    event "fail_closed_cancellation_error" [("message", .str text)]
    finish .infrastructureError (reason ++ ": fail_closed_cancellation_error: " ++ text)

/-- One round of the loop that waits for the terminal result or a deadline. -/
def monitorRound (localAcceptanceObservedNs : Int) (localAcceptanceObservedWallS : F)
    (acceptedStatusStampNs : Int) : Mission F (Unit ⊕ Unit) := do
  let ok ← ask .runtimeOk
  if ok then do
    raiseIfFeedbackTraceOverflow
    collectFaultEvents config faultDriver
    let observedStatusStampNs ← perform config .pollAcceptedStatusStampNs
    if observedStatusStampNs ≠ some acceptedStatusStampNs then
      raise (.actionProtocolError "action-status acceptance stamp became unavailable or changed")
    else do
      let terminal ← perform config .pollTerminalResult
      match terminal with
      | some terminal => do
          finishFromTerminal terminal
          pure (.inr ())
      | none => do
          let stampNs ← ask .simTimeNs
          let simElapsedNs := stampNs - localAcceptanceObservedNs
          if simElapsedNs < 0 then do
            finish .infrastructureError "simulation_clock_regressed"
            pure (.inr ())
          else
            let timeout := PyFloat.mul config.missionTimeoutSimS (PyFloat.ofRat 1000000000)
            match PyFloat.truncate timeout with
            | .error text => raise (.exception text)
            | .ok timeoutNs =>
                if timeoutNs ≤ simElapsedNs then do
                  cancelAfterDeadline config "simulation_timeout"
                  pure (.inr ())
                else do
                  let steady ← ask .steadyTimeS
                  if PyFloat.le config.wallEscapeTimeoutS
                      (PyFloat.sub steady localAcceptanceObservedWallS) then do
                    cancelAfterDeadline config "wall_escape_timeout"
                    pure (.inr ())
                  else do
                    perform config (.spinOnce (SPIN_POLL_WALL_S F))
                    pure (.inl ())
  else do
    finish .infrastructureError "rclpy_context_stopped"
    pure (.inr ())

def waitForTerminalOrDeadline (localAcceptanceObservedNs : Int)
    (localAcceptanceObservedWallS : F) (acceptedStatusStampNs : Int) : Mission F Unit :=
  if !isPositiveTimeNs localAcceptanceObservedNs then raise (.exception "")
  else Program.loop (fun _ : Unit => monitorRound config faultDriver localAcceptanceObservedNs
    localAcceptanceObservedWallS acceptedStatusStampNs) ()

/-! ### The mission -/

/-- `_run_once` after the status stamp of the accepted goal is known. -/
def monitorGoal (goalUuid : String) (responseStampNs localAcceptanceObservedNs : Int)
    (localAcceptanceObservedWallS : F) (acceptedStatusStampNs : Int) : Mission F Unit := do
  modifyRecord fun record => { record with acceptedGoalStampNs := some acceptedStatusStampNs }
  event "goal_accepted" [("goal_uuid", .str goalUuid),
    ("evidence_source", .str ACCEPTED_GOAL_STAMP_SOURCE)] acceptedStatusStampNs
  if 0 < responseStampNs ∧ responseStampNs ≠ acceptedStatusStampNs then
    raise (.actionProtocolError
      "nonzero goal response stamp does not match action-status acceptance stamp")
  else do
    let reached ← waitForClientClockToReach config acceptedStatusStampNs localAcceptanceObservedNs
    if reached then do
      onlyIf config.isPhase3
        (armFaultSchedule config faultDriver goalUuid acceptedStatusStampNs)
      waitForTerminalOrDeadline config faultDriver localAcceptanceObservedNs
        localAcceptanceObservedWallS acceptedStatusStampNs
    else do
      event "accepted_stamp_clock_catchup_timeout"
      failClosedAfterAcceptance config "client_clock_did_not_reach_accepted_goal_stamp"

/-- `_run_once` after the goal was accepted under the identifier. -/
def proveAcceptance (goalUuid : String) (responseStampNs : Int) : Mission F Unit := do
  let localAcceptanceObservedNs ← ask .simTimeNs
  if !isPositiveTimeNs localAcceptanceObservedNs then
    raise (.actionProtocolError "local ROS time was not positive at goal acceptance")
  else do
    let record ← getRecord
    if record.goalSubmissionStampNs.any
        (fun submitted => localAcceptanceObservedNs < submitted) then
      raise (.actionProtocolError "local ROS time regressed after goal submission")
    else do
      let localAcceptanceObservedWallS ← ask .steadyTimeS
      modifyRecord fun record => { record with
        acceptedGoalUuid := some goalUuid
        goalResponseStampNs := some responseStampNs }
      let offset ← wallOffset
      modifyRecord fun record => { record with acceptedGoalWallOffsetS := some offset }
      event "goal_response_accepted" [("goal_uuid", .str goalUuid),
        ("response_stamp_ns", .int responseStampNs)]
      raiseIfFeedbackTraceOverflow
      let acceptedStatusStampNs ← waitForValue config (perform config .pollAcceptedStatusStampNs)
        (boundedTimeout config (ACCEPTED_STATUS_TIMEOUT_WALL_S F)) true
      match acceptedStatusStampNs.filter isPositiveTimeNs with
      | none => do
          event "accepted_status_proof_timeout"
          failClosedAfterAcceptance config "accepted_goal_status_proof_timeout"
      | some acceptedStatusStampNs =>
          monitorGoal config faultDriver goalUuid responseStampNs localAcceptanceObservedNs
            localAcceptanceObservedWallS acceptedStatusStampNs

/-- `_run_once` after the goal was accepted. -/
def followGoal (response : GoalResponse) : Mission F Unit := do
  Program.modifyState fun executor => { executor with acceptedGoalActive := true }
  match response.goalUuid.filter (· ≠ "") with
  | none => failClosedAfterAcceptance config "accepted_goal_missing_uuid"
  | some goalUuid =>
      match response.responseStampNs.filter isNonnegativeTimeNs with
      | none =>
          raise (.actionProtocolError "goal response stamp must be a non-negative integer")
      | some responseStampNs => proveAcceptance config faultDriver goalUuid responseStampNs

/-- The part of `_run_once` that sends the goal. -/
def submitGoal : Mission F Unit := do
  let submissionStampNs ← ask .simTimeNs
  modifyRecord fun record => { record with goalSubmissionStampNs := some submissionStampNs }
  if !isPositiveTimeNs submissionStampNs then
    raise (.actionProtocolError "goal submission requires positive ROS time")
  else do
    event "goal_submitted"
    perform config (.startGoal submissionStampNs)
    let response ← waitForValue config (perform config .pollGoalResponse)
      (GOAL_RESPONSE_TIMEOUT_WALL_S F)
    match response with
    | none => finish .infrastructureError "goal_response_timeout"
    | some response =>
        if response.accepted then followGoal config faultDriver response
        else do
          event "goal_rejected"
          finish .goalRejected "goal_rejected"

/-- The body of the `try` statement of `_run_once`. -/
def runBody : Mission F Unit := do
  let advancing ← waitForAdvancingPositiveSimTime config
  if advancing then do
    onlyIf config.isPhase3 (prepareFaultSchedule config faultDriver)
    let ready ← waitForServer config
    if ready then submitGoal config faultDriver
    else finish .infrastructureError "action_server_unavailable"
  else finish .infrastructureError "simulation_clock_unavailable"

/-- The accepted goal may still move the robot. -/
def goalMayBeActive : Mission F Bool := do
  let executor ← Program.getState
  if executor.acceptedGoalActive then pure true else perform config .acceptedGoalIsActive

/-- The end of the exception handlers of `_run_once`. -/
def closeAfterError (reason : String) : Mission F Unit := do
  let active ← goalMayBeActive config
  if active then failClosedAfterAcceptance config reason
  else finish .infrastructureError reason

/-- The exception handlers of `_run_once`. -/
def handleError : Raised → Mission F Unit
  | .feedbackTraceOverflowError _ => do
      let record ← getRecord
      event "feedback_trace_overflow_failure" [
        ("feedback_trace_capacity", .int FEEDBACK_TRACE_CAPACITY),
        ("feedback_trace_overflow_count", .int record.feedbackTraceOverflowCount)]
      closeAfterError config "feedback_trace_overflow"
  | .faultProtocolError text => do
      event "action_protocol_error" [("message", .str text)]
      closeAfterError config ("action_protocol_error: " ++ text)
  | .actionProtocolError text => do
      event "action_protocol_error" [("message", .str text)]
      closeAfterError config ("action_protocol_error: " ++ text)
  | .exception text => do
      event "infrastructure_error" [("message", .str text)]
      closeAfterError config ("infrastructure_error: " ++ text)
  | .baseException text => raise (.baseException text)

def runOnce : Mission F Unit :=
  Program.attempt (runBody config faultDriver) (handleError config)

/-- The final reset of the faults, and what it does to the verdict. -/
def tearDown : Mission F Unit := do
  let confirmed ← exceptException (resetFaults config faultDriver false) fun text => do
    event "fault_teardown_error" [("message", .str text)]
    pure false
  onlyIf (!confirmed) (modifyRecord fun record => { record with
    exitCode := .infrastructureError
    reason := record.reason ++ ": fault_teardown_reset_failed" })
  Program.attempt (collectFaultEvents config faultDriver) fun
    | .faultProtocolError text => modifyRecord fun record => { record with
        exitCode := .infrastructureError
        reason := record.reason ++ ": " ++ text }
    | e => raise e

def run : Mission F (ExecutionRecord F) := do
  runOnce config faultDriver
  onlyIf config.isPhase3 (tearDown config faultDriver)
  getRecord

end Executor

end Missions

end RobotestLab
