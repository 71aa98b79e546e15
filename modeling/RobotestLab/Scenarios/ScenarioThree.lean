import Mathlib.Data.Prod.Lex
import RobotestLab.Library.Contracts
import RobotestLab.Library.Dict
import RobotestLab.Scenarios.ObservationMatching

/-!
# The trajectory of the third scenario

From the feedback anchor on, the controller requests a pose of the actor at each of 121 targets, and
waits until every target was observed. While it waits for a target or for the response of the
service, the executor spins and delivers callbacks. The clocks, the service client and the executor
are the environment.
-/

namespace RobotestLab

namespace Scenarios

open Missions (minFloat nonnegative)
open Missions.PyFloat PoseFloat

def SET_POSE_SERVICE : String := "scenario/set_entity_pose"
def S3_TARGET_COUNT : Nat := 121
def ACTOR_OBSERVATION_LATENCY_NS : Int := 200000000

section Constants

variable (F : Type) [PoseFloat F]

def ACTOR_POSITION_TOLERANCE_M : F := ofRat (2 / 100)
def DDS_DRAIN_GRACE_S : F := ofRat (5 / 100)

end Constants

/-! ### The environment -/

inductive TrajectoryCall (F : Type) where
  | monotonic
  | spinOnce (timeoutSec : F)
  | serviceIsReady
  | callAsync (entityName : String) (pose : PoseTarget F)
  | futureDone
  | futureResult

/-- The response of the service is known by its success, and may be missing. -/
def TrajectoryCall.Answer {F : Type} : TrajectoryCall F → Type
  | .monotonic => F
  | .spinOnce _ => Unit
  | .serviceIsReady => Bool
  | .callAsync _ _ => Unit
  | .futureDone => Bool
  | .futureResult => Option Bool

/-- What the callbacks of the other subscriptions leave: they may take numbers, and may end the
goal. -/
structure OtherCallback where
  numbers : Nat := 0
  fatalError : Option Failure := none
  protocolErrorCount : Nat := 0
  feedbackAnchorStampNs : Option Int := none
  terminalStatus : Option Int := none

inductive TrajectoryCallback (F : Type) where
  | entity (callback : Callback F)
  | other (after : OtherCallback)

/-- The error of a reused observation is kept apart from everything else that is raised. -/
inductive TrajectoryRaised where
  | reusedObservation
  | raised (r : Raised)
  deriving DecidableEq, Repr

abbrev trajectorySignature (F : Type) : Signature where
  Call := TrajectoryCall F
  Answer := TrajectoryCall.Answer
  Callback := TrajectoryCallback F
  Raised := TrajectoryRaised

/-! ### Transactions -/

inductive TransactionOutcome where
  | scheduled
  | requestLate
  | requesting
  | transactionError
  | rejected
  | responseSucceeded
  | observationLate
  | observationOutOfTolerance
  | observationMissing
  | observed
  deriving DecidableEq, Repr

structure ObservedPose (F : Type) extends PoseEvidence F where
  latencyNs : Int
  positionErrorM : F
  yawErrorRad : F

structure Transaction (F : Type) where
  attemptCount : Nat := 0
  error : Option String := none
  index : Int
  observedPose : Option (ObservedPose F) := none
  outcome : TransactionOutcome := .scheduled
  requestLatenessNs : Int
  requestSequence : Option Nat := none
  requestStampNs : Option Int := none
  responseSequence : Option Nat := none
  responseStampNs : Option Int := none
  responseSuccess : Option Bool := none
  targetPose : PoseTarget F
  targetStampNs : Int

/-- The controller on its trajectory. -/
structure Trajectory (F : Type) where
  node : Node F (ScenarioControllerFields F)
  terminalStatus : Option Int := none
  wallDeadline : F
  serviceTimeoutS : F
  trajectoryActive : Bool := false
  s3Transactions : List (Transaction F) := []
  usedSequences : List Nat := []
  s3ObservationDrainDeadlines : Dict Int F := {}
  setAttemptCount : Nat := 0
  setSuccessCount : Nat := 0

namespace ScenarioController

section Observations

variable {F : Type} [PoseFloat F]

/-- `scenario3_target`. -/
def scenario3Target (index : Nat) (anchorStampNs : Int) : Int × PoseTarget F :=
  let xValue : ℚ :=
    if index ≤ 40 then (-80 + 2 * (index : ℚ)) / 100
    else if index ≤ 80 then 0
    else 2 * ((index : ℚ) - 80) / 100
  (anchorStampNs + index * 100000000,
    { x := ofRat xValue, y := ofRat (3 / 2), yaw := ofRat 0, z := ofRat (4 / 10) })

/-- The distance of a pose to a target, and the error of its yaw. -/
def poseErrors (candidate : PoseEvidence F) (target : PoseTarget F) : Except Failure (F × F) := do
  let square (x : F) : Except Failure F := (PoseFloat.square x).mapError .other
  let dx ← square (sub candidate.x target.x)
  let dy ← square (sub candidate.y target.y)
  let dz ← square (sub candidate.z target.z)
  let yawError ← shortestYawError candidate.yaw target.yaw
  pure (sqrt (add (add dx dy) dz), yawError)

/-- What is raised, with the transaction and the used numbers after it. -/
abbrev Resolution (F : Type) := Except TrajectoryRaised Unit × Transaction F × List Nat

/-- The candidate is the observation of the transaction, in time and within the tolerance. -/
def observe (candidate : PoseEvidence F) (transaction : Transaction F) (usedSequences : List Nat) :
    Resolution F :=
  match poseErrors candidate transaction.targetPose with
  | .error e => (.error (.raised (.exception e)), transaction, usedSequences)
  | .ok (positionError, yawError) =>
      let latencyNs := candidate.stampNs - transaction.targetStampNs
      let transaction := { transaction with observedPose := some { candidate with
        latencyNs := latencyNs
        positionErrorM := positionError
        yawErrorRad := yawError } }
      if ACTOR_OBSERVATION_LATENCY_NS < latencyNs then
        (.error (.raised (.exception (.scenarioFailureError
          ("Scenario 3 target " ++ toString transaction.index ++ " observation was late")))),
          { transaction with outcome := .observationLate }, usedSequences)
      else if lt (ACTOR_POSITION_TOLERANCE_M F) positionError ||
          lt (ACTOR_YAW_TOLERANCE_RAD F) yawError then
        (.error (.raised (.exception (.scenarioFailureError
          ("Scenario 3 target " ++ toString transaction.index ++
            " observation missed tolerance")))),
          { transaction with outcome := .observationOutOfTolerance }, usedSequences)
      else (.ok (), { transaction with outcome := .observed }, usedSequences)

/-- Resolve the observation of a transaction, if a pose was matched to it. -/
def resolveObservation (matched : List (Int × PoseEvidence F)) (transaction : Transaction F)
    (usedSequences : List Nat) : Resolution F :=
  if transaction.observedPose.isSome then (.ok (), transaction, usedSequences)
  else if transaction.requestSequence.isNone then (.ok (), transaction, usedSequences)
  else
    match matched.lookup transaction.index with
    | none => (.ok (), transaction, usedSequences)
    | some candidate =>
        if usedSequences.contains candidate.collectorSequence then
          (.error .reusedObservation, transaction, usedSequences)
        else observe candidate transaction (usedSequences ++ [candidate.collectorSequence])

/-- `_resolve_s3_observations`. -/
def resolveS3Observations (matched : List (Int × PoseEvidence F)) :
    List (Transaction F) → List Nat → Except TrajectoryRaised Unit × List (Transaction F) × List Nat
  | [], usedSequences => (.ok (), [], usedSequences)
  | transaction :: transactions, usedSequences =>
      match resolveObservation matched transaction usedSequences with
      | (.error e, transaction, usedSequences) =>
          (.error e, transaction :: transactions, usedSequences)
      | (.ok (), transaction, usedSequences) =>
          match resolveS3Observations matched transactions usedSequences with
          | (r, transactions, usedSequences) => (r, transaction :: transactions, usedSequences)

/-- The last pair in the lexicographic order, and the first of equal ones. -/
def maxPair : List (Int × Nat) → Option (Int × Nat)
  | [] => none
  | pair :: pairs => some (pairs.foldl (fun best pair => if toLex best < toLex pair then pair
      else best) pair)

/-- The stamp and the number with which the trajectory is finished. -/
def finished (transactions : List (Transaction F)) : Option (Int × Nat) :=
  (transactions.mapM fun (transaction : Transaction F) =>
    transaction.observedPose.map fun pose => (pose.stampNs, pose.collectorSequence)).bind maxPair

end Observations

/-! ### The program -/

section Programs

variable {F : Type} [PoseFloat F]

abbrev Following (F α : Type) : Type := Program (trajectorySignature F) (Trajectory F) α

def fail {α : Type} (e : Failure) : Following F α := Program.raise (.raised (.exception e))

/-- Raise an error when the condition holds. -/
def failIf (c : Bool) (e : Failure) : Following F Unit := if c then fail e else pure ()

def ask (c : TrajectoryCall F) : Following F c.Answer := Program.ask (trajectorySignature F) c

def getTrajectory : Following F (Trajectory F) := Program.getState

def modifyTrajectory (f : Trajectory F → Trajectory F) : Following F Unit := Program.modifyState f

/-- What a callback does to the controller. -/
def deliver (callback : TrajectoryCallback F) (s : Trajectory F) : Trajectory F :=
  match callback with
  | .entity callback => { s with node := receive callback s.node }
  | .other after => { s with
      node := { s.node with
        sequence := s.node.sequence + after.numbers
        fatalError := after.fatalError
        protocolErrorCount := after.protocolErrorCount
        own := { s.node.own with feedbackAnchorStampNs := after.feedbackAnchorStampNs } }
      terminalStatus := after.terminalStatus }

def requireBudget : Following F Unit := do
  let now : F ← ask .monotonic
  let s ← getTrajectory
  failIf (le s.wallDeadline now)
    (.wallTimeoutError "scenario controller steady-wall escape timeout elapsed")

def checkErrors : Following F Unit := do
  let s ← getTrajectory
  match s.node.cleanupFatalError with
  | some e => fail e
  | none =>
      match s.node.fatalError with
      | some e => fail e
      | none => pure ()

/-- A spin of the executor with the checks around it. -/
def spin : Following F Unit := do
  requireBudget
  let now : F ← ask .monotonic
  let s ← getTrajectory
  let remainingS := nonnegative (sub s.wallDeadline now)
  Program.attempt
    (Program.call (trajectorySignature F) (fun k => modifyTrajectory (deliver k))
      (.spinOnce (minFloat (ofRat (2 / 100)) remainingS)))
    fun
      | .raised (.exception e) =>
          if e.isScenarioError then fail e
          else fail (.infrastructureError ("scenario controller executor spin failed: " ++ e.text))
      | e => Program.raise e
  requireBudget
  checkErrors

def checkServiceDeadline (deadline : F) (text : String) : Following F Unit := do
  let now : F ← ask .monotonic
  failIf (le deadline now) (.infrastructureError text)

def serviceUnavailable : String := "service unavailable before deadline: " ++ SET_POSE_SERVICE
def responseTimedOut : String := SET_POSE_SERVICE ++ " response timed out"

def checkCleanupError : Following F Unit := do
  let s ← getTrajectory
  match s.node.cleanupFatalError with
  | some e => fail e
  | none => pure ()

/-- `_wait_service`. -/
def awaitService : Following F F := do
  let now : F ← ask .monotonic
  let s ← getTrajectory
  let deadline := minFloat s.wallDeadline (add now s.serviceTimeoutS)
  Program.loop (fun () => do
    requireBudget
    checkCleanupError
    checkServiceDeadline deadline serviceUnavailable
    let ready : Bool ← ask .serviceIsReady
    requireBudget
    checkServiceDeadline deadline serviceUnavailable
    if ready then
      return .inr deadline
    spin
    return .inl ()) ()

/-- Change the transaction with the index. -/
def modifyTransaction (index : Int) (f : Transaction F → Transaction F) : Following F Unit :=
  modifyTrajectory fun s => { s with
    s3Transactions := s.s3Transactions.map fun transaction =>
      if transaction.index = index then f transaction else transaction }

/-- Note in the transaction why an error is raised, and raise it, when the condition holds. -/
def rejectIf (c : Bool) (index : Int) (f : Transaction F → Transaction F) (e : Failure) :
    Following F Unit :=
  if c then do
    modifyTransaction index f
    fail e
  else pure ()

/-- Retain the failures that the handler knows in the transaction, and raise what it makes of
them. -/
def retaining {α : Type} (index : Int) (handler : Failure → Option Failure) (m : Following F α) :
    Following F α :=
  Program.attempt m fun
    | .raised (.exception e) =>
        match handler e with
        | some error => do
            modifyTransaction index fun transaction =>
              { transaction with error := some (boundedDiagnostic error.text) }
            fail error
        | none => fail e
    | e => Program.raise e

/-- The handler of the errors of the scenarios. -/
def scenarioErrors (e : Failure) : Option Failure := if e.isScenarioError then some e else none

/-- The handler of all failures, for those that are not errors of the scenarios with their
context. -/
def inContext (context : String) (e : Failure) : Option Failure :=
  some (if e.isScenarioError then e else .infrastructureError (context ++ e.text))

/-- The handler of all failures of a call. -/
def asInfrastructure (context : String) (e : Failure) : Option Failure :=
  some (.infrastructureError (context ++ e.text))

/-- Wait until the response is there. -/
def awaitResponse (index : Int) (deadline : F) : Following F Unit :=
  Program.loop (fun () => do
    let responseDone : Bool ← retaining index
        (inContext (SET_POSE_SERVICE ++ " response readiness check failed: ")) (do
      requireBudget
      checkServiceDeadline deadline responseTimedOut
      let responseDone : Bool ← ask .futureDone
      requireBudget
      checkServiceDeadline deadline responseTimedOut
      pure responseDone)
    if responseDone then
      return .inr ()
    retaining index (inContext (SET_POSE_SERVICE ++ " response wait failed: ")) spin
    return .inl ()) ()

/-- Register the observation of a request that was sent. -/
def register (index : Int) (requestSequence : Nat) (targetStampNs : Int) : Following F Unit := do
  let s ← getTrajectory
  match registerObservation index requestSequence targetStampNs s.node with
  | (.error e, _) => fail e
  | (.ok (), node) => modifyTrajectory fun s => { s with node := node }

/-- `_call_service`, for a set-pose request with its transaction as the evidence: the success of the
response. -/
def callSetPose (index : Int) (target : Int × PoseTarget F) (entityName : String) :
    Following F Bool := do
  let serviceDeadline : F ← retaining index
      (inContext (SET_POSE_SERVICE ++ " service readiness check failed: ")) (do
    let serviceDeadline ← awaitService
    requireBudget
    checkServiceDeadline serviceDeadline serviceUnavailable
    pure serviceDeadline)
  modifyTrajectory fun s => { s with node := s.node.nextSequence }
  let s ← getTrajectory
  let requestSequence := s.node.sequence
  let requestStampNs := s.node.currentSimStampNs
  modifyTransaction index fun transaction => { transaction with
    requestSequence := some requestSequence, requestStampNs := some requestStampNs }
  retaining index scenarioErrors (do
    requireBudget
    checkServiceDeadline serviceDeadline serviceUnavailable)
  retaining index (asInfrastructure (SET_POSE_SERVICE ++ " request could not be sent: "))
    (ask (.callAsync entityName target.2))
  register index requestSequence target.1
  let now : F ← ask .monotonic
  let s ← getTrajectory
  let deadline := minFloat s.wallDeadline (add now s.serviceTimeoutS)
  awaitResponse index deadline
  let response : Option Bool ← retaining index
    (asInfrastructure (SET_POSE_SERVICE ++ " response failed: ")) (ask .futureResult)
  retaining index scenarioErrors (do
    requireBudget
    checkServiceDeadline deadline responseTimedOut)
  match response with
  | none =>
      retaining index scenarioErrors
        (fail (.infrastructureError (SET_POSE_SERVICE ++ " returned no response")))
  | some success => pure success

/-- A response takes a number, and may reject the target. -/
def recordResponse (index : Int) (success : Bool) : Following F Unit := do
  modifyTrajectory fun s => { s with node := s.node.nextSequence }
  let s ← getTrajectory
  modifyTransaction index fun transaction => { transaction with
    responseSequence := some s.node.sequence
    responseStampNs := some s.node.currentSimStampNs
    responseSuccess := some success }
  rejectIf (!success) index (fun transaction => { transaction with
      outcome := .rejected, error := some (SET_POSE_SERVICE ++ " rejected the target") })
    (.infrastructureError (SET_POSE_SERVICE ++ " rejected target index " ++ toString index))
  modifyTrajectory fun s => { s with setSuccessCount := s.setSuccessCount + 1 }
  modifyTransaction index fun transaction => { transaction with outcome := .responseSucceeded }

/-- `_set_actor_target`. -/
def setActorTarget (index : Int) (target : Int × PoseTarget F) : Following F Unit := do
  let s ← getTrajectory
  failIf (S3_TARGET_COUNT ≤ s.setAttemptCount)
    (.protocolError "Scenario 3 set-pose transaction count exceeded 121")
  modifyTrajectory fun s => { s with setAttemptCount := s.setAttemptCount + 1 }
  modifyTransaction index fun transaction =>
    { transaction with attemptCount := 1, outcome := .requesting }
  let success ← Program.attempt
    (callSetPose index target (s.node.own.document.actorName.getD ""))
    fun
      | .raised (.exception e) => do
          rejectIf e.isScenarioError index (fun transaction =>
            { transaction with outcome := .transactionError }) e
          fail e
      | e => Program.raise e
  recordResponse index success

/-- Resolve the observations of all transactions. -/
def resolve : Following F Unit := do
  let s ← getTrajectory
  let (r, transactions, usedSequences) :=
    resolveS3Observations s.node.own.matchedS3ActorPoses s.s3Transactions s.usedSequences
  modifyTrajectory fun s =>
    { s with s3Transactions := transactions, usedSequences := usedSequences }
  match r with
  | .error e => Program.raise e
  | .ok () => pure ()

/-- Whether the grace of the last deliveries to an overdue transaction is over. The grace begins
when the transaction is first found overdue. -/
def graceIsOver (transaction : Transaction F) : Following F Bool := do
  let now : F ← ask .monotonic
  let s ← getTrajectory
  let drainDeadline := (s.s3ObservationDrainDeadlines.get? transaction.index).getD
    (minFloat s.wallDeadline (add now (DDS_DRAIN_GRACE_S F)))
  modifyTrajectory fun s => { s with
    s3ObservationDrainDeadlines :=
      s.s3ObservationDrainDeadlines.set transaction.index drainDeadline }
  let now : F ← ask .monotonic
  pure (!lt now drainDeadline)

/-- Reject a transaction that is not observed, when it is overdue. -/
def rejectOverdue (transaction : Transaction F) : Following F Unit := do
  let s ← getTrajectory
  if transaction.observedPose.isNone &&
      transaction.targetStampNs + ACTOR_OBSERVATION_LATENCY_NS < s.node.currentSimStampNs then do
    let elapsed ← graceIsOver transaction
    rejectIf elapsed transaction.index (fun transaction => { transaction with
        outcome := .observationMissing
        error := some "no observed pose by the 0.20 s deadline" })
      (.scenarioFailureError
        ("Scenario 3 target " ++ toString transaction.index ++ " observation was missing"))
  else pure ()

/-- `_reject_overdue_s3_observations`. -/
def rejectOverdueS3Observations : Following F Unit := do
  let s ← getTrajectory
  Program.forEach rejectOverdue s.s3Transactions

/-- Spin until the clock reaches the target, or the goal is terminated. -/
def awaitTarget (targetStampNs : Int) : Following F Unit :=
  Program.loop (fun () => do
    let s ← getTrajectory
    if s.node.currentSimStampNs < targetStampNs && s.terminalStatus.isNone then
      spin
      resolve
      rejectOverdueS3Observations
      return .inl ()
    else
      return .inr ()) ()

/-- The stamp of the request of a transaction. -/
def requestStamp (index : Int) (s : Trajectory F) : Option Int :=
  (s.s3Transactions.find? fun transaction => transaction.index = index).bind (·.requestStampNs)

/-- Apply a target at its stamp. -/
def applyTarget (anchorStampNs : Int) (index : Nat) : Following F Unit := do
  let target : Int × PoseTarget F := scenario3Target index anchorStampNs
  awaitTarget target.1
  resolve
  rejectOverdueS3Observations
  let s ← getTrajectory
  failIf s.terminalStatus.isSome (.scenarioFailureError
    ("Scenario 3 goal terminated before target index " ++ toString index ++ " was applied"))
  let requestLatenessNs := s.node.currentSimStampNs - target.1
  modifyTrajectory fun s => { s with s3Transactions := s.s3Transactions ++ [{
    index := index
    requestLatenessNs := requestLatenessNs
    targetPose := target.2
    targetStampNs := target.1 }] }
  rejectIf (requestLatenessNs ≠ 0) index (fun transaction => { transaction with
      outcome := .requestLate, error := some "target was not issued at its exact 10 Hz stamp" })
    (.scenarioFailureError ("Scenario 3 target " ++ toString index ++
      " missed its exact 10 Hz stamp"))
  setActorTarget index target
  let s ← getTrajectory
  rejectIf (requestStamp index s ≠ some target.1) index (fun transaction => { transaction with
      outcome := .requestLate, error :=
        some "service request stamp differs from exact target stamp" })
    (.scenarioFailureError
      ("Scenario 3 target " ++ toString index ++ " service request missed its exact stamp"))
  resolve
  rejectOverdueS3Observations

/-- Some transaction has no observation. -/
def pendingObservation (s : Trajectory F) : Bool := s.s3Transactions.any fun transaction =>
  transaction.observedPose.isNone

/-- Spin until every target was observed. -/
def awaitObservations : Following F Unit :=
  Program.loop (fun () => do
    let s ← getTrajectory
    if !pendingObservation s then
      return .inr ()
    else
      resolve
      rejectOverdueS3Observations
      let s ← getTrajectory
      if !pendingObservation s then
        return .inr ()
      else
        failIf s.terminalStatus.isSome (.scenarioFailureError
          "Scenario 3 goal terminated before all target poses were observed")
        spin
        return .inl ()) ()

/-- `_run_scenario3` from the feedback anchor to the end of the trajectory: the stamp and the number
with which it is finished. -/
def runScenario3 (anchorStampNs : Int) : Following F (Int × Nat) := do
  modifyTrajectory fun s => { s with trajectoryActive := true, usedSequences := [] }
  Program.forRange (applyTarget anchorStampNs) S3_TARGET_COUNT
  let s ← getTrajectory
  failIf s.terminalStatus.isSome
    (.scenarioFailureError "Scenario 3 goal terminated before the trajectory finished")
  awaitObservations
  modifyTrajectory fun s => { s with trajectoryActive := false }
  let s ← getTrajectory
  match finished s.s3Transactions with
  | none => fail (.other "'NoneType' object is not subscriptable")
  | some pair => pure pair

end Programs

end ScenarioController

end Scenarios

end RobotestLab
