import RobotestLab.Library.PyValue
import RobotestLab.Scenarios.EntityPoses

/-!
# The cleanup of an entity

The scenario controller and the contact control delete the entity that they spawned, and then watch
the stream of poses until it shows, for a quiet interval and a drain, that the entity is gone. The
two programs are copies of each other: they differ in their texts, in their nodes and in the order
of the checks after a spin. The clocks, the service client, the executor and the graph are the
environment, and the executor delivers callbacks when it spins.
-/

namespace RobotestLab

namespace Scenarios

open Missions (minFloat nonnegative)
open Missions.PyFloat PoseFloat

/-- `round(DDS_DRAIN_GRACE_S * 1_000_000_000)`, for the grace of 0.05 seconds. -/
def DRAIN_GRACE_NS : Int := 50000000

/-! ### The environment -/

inductive Call (F : Type) where
  | monotonic
  | monotonicNs
  | spinOnce (timeoutSec : F)
  | serviceIsReady
  | callAsync (entityName : String)
  | futureDone
  | futureResult
  | countPublishers (topic : String)

/-- The response of the service is known by its success, and may be missing. -/
def Call.Answer {F : Type} : Call F → Type
  | .monotonic => F
  | .monotonicNs => Int
  | .spinOnce _ => Unit
  | .serviceIsReady => Bool
  | .callAsync _ => Unit
  | .futureDone => Bool
  | .futureResult => Option Bool
  | .countPublishers _ => Int

inductive Callback (F : Type) where
  | clock (stamp : Time)
  | entityPoses (transforms : List (Transform F))

inductive Raised where
  | exception (e : Failure)
  | baseException (text : String)
  deriving DecidableEq, Repr

abbrev cleanupSignature (F : Type) : Signature where
  Call := Call F
  Answer := Call.Answer
  Callback := Callback F
  Raised := Raised

/-! ### The record -/

/-- The evidence of the delete request. -/
structure TransactionProof where
  error : Option String := none
  failureStage : Option String := none
  kind : String
  requestSequence : Option Nat := none
  requestStampNs : Option Int := none
  responseSequence : Option Nat := none
  responseStampNs : Option Int := none

/-- The evidence of the observation after the response. The last field is there only at the end. -/
structure CleanupProof where
  kind : String
  ddsDrainCompleteSteadyNs : Option Int
  ddsDrainGraceNs : Int
  ddsDrainSpinCount : Nat
  ddsDrainStartSteadyNs : Option Int
  observationDeadlineSimStampNs : Int
  poseSourcePublishersBefore : Int
  postDeletePoseCount : Nat
  postDeletePoseFirstSequence : Option Nat
  postDeletePoseFirstSimStampNs : Option Int
  postDeletePoseLatestSequence : Option Nat
  postDeletePoseLatestSimStampNs : Option Int
  postDeletePoseSourceHeartbeatCount : Nat
  postDeletePoseSourceLatestSequence : Option Nat
  postDeletePoseSourceLatestSimStampNs : Option Int
  quietStartSimStampNs : Option Int
  quietRestartCount : Nat
  quietUntilSimStampNs : Option Int
  requestSequence : Nat
  requestStampNs : Int
  responseSequence : Nat
  responseStampNs : Int
  poseSourcePublishersAfter : Option Int := none

/-- An optional integer as Python has it. -/
def optionalInt (value : Option Int) : PyValue := value.elim .none .int

def optionalSequence (value : Option Nat) : PyValue := optionalInt (value.map Int.ofNat)

/-- The proof as the dictionary that the record holds. -/
def CleanupProof.asDict (proof : CleanupProof) : List (PyValue × PyValue) :=
  [(.str "kind", .str proof.kind),
    (.str "dds_drain_complete_steady_ns", optionalInt proof.ddsDrainCompleteSteadyNs),
    (.str "dds_drain_grace_ns", .int proof.ddsDrainGraceNs),
    (.str "dds_drain_spin_count", .int proof.ddsDrainSpinCount),
    (.str "dds_drain_start_steady_ns", optionalInt proof.ddsDrainStartSteadyNs),
    (.str "observation_deadline_sim_stamp_ns", .int proof.observationDeadlineSimStampNs),
    (.str "pose_source_publishers_before", .int proof.poseSourcePublishersBefore),
    (.str "post_delete_pose_count", .int proof.postDeletePoseCount),
    (.str "post_delete_pose_first_sequence", optionalSequence proof.postDeletePoseFirstSequence),
    (.str "post_delete_pose_first_sim_stamp_ns", optionalInt proof.postDeletePoseFirstSimStampNs),
    (.str "post_delete_pose_latest_sequence", optionalSequence proof.postDeletePoseLatestSequence),
    (.str "post_delete_pose_latest_sim_stamp_ns", optionalInt proof.postDeletePoseLatestSimStampNs),
    (.str "post_delete_pose_source_heartbeat_count", .int proof.postDeletePoseSourceHeartbeatCount),
    (.str "post_delete_pose_source_latest_sequence",
      optionalSequence proof.postDeletePoseSourceLatestSequence),
    (.str "post_delete_pose_source_latest_sim_stamp_ns",
      optionalInt proof.postDeletePoseSourceLatestSimStampNs),
    (.str "quiet_start_sim_stamp_ns", optionalInt proof.quietStartSimStampNs),
    (.str "quiet_restart_count", .int proof.quietRestartCount),
    (.str "quiet_until_sim_stamp_ns", optionalInt proof.quietUntilSimStampNs),
    (.str "request_sequence", .int proof.requestSequence),
    (.str "request_stamp_ns", .int proof.requestStampNs),
    (.str "response_sequence", .int proof.responseSequence),
    (.str "response_stamp_ns", .int proof.responseStampNs)] ++
  proof.poseSourcePublishersAfter.toList.map fun n => (.str "pose_source_publishers_after", .int n)

/-- What the record says for the absence of the entity. -/
inductive AbsenceProof where
  | spawn (kind : String)
  | transaction (proof : TransactionProof)
  | observation (proof : CleanupProof)

structure CleanupRecord where
  actorAbsent : Bool
  deleteAttemptCount : Nat
  deleteSuccess : Option Bool
  proof : AbsenceProof
  required : Bool

/-! ### The state -/

/-- The local variables of the observation. -/
structure Window where
  anchorFloorNs : Int := 0
  quietStartNs : Option Int := none
  quietUntilNs : Option Int := none
  pendingKind : String := ""
  drainStartSteadyNs : Option Int := none
  drainCompleteSteadyNs : Option Int := none
  drainSpinCount : Nat := 0
  quietRestartCount : Nat := 0

structure Session (F X : Type) where
  node : Node F X
  wallDeadline : F
  serviceTimeoutS : F
  spawnRequestSendAttempted : Bool
  spawnRequestSent : Bool
  deleteAttemptCount : Nat
  cleanup : CleanupRecord
  window : Window := {}

/-- What the two programs differ in. -/
structure Application (F X : Type) where
  /-- The guarded callbacks. -/
  receive : Callback F → Node F X → Node F X
  wallElapsed : Session F X → String
  /-- A spin of the executor with the checks around it, as the cleanup calls it. -/
  spinOnce : F → Program (cleanupSignature F) (Session F X) Unit
  attemptedTwice : String
  rejected : String
  noAnchor : String
  windowExceeded : String
  notSpanned : String
  publisherMissing : String
  posesContinued : String

section Programs

variable {F X : Type} [PoseFloat F]

abbrev Cleanup (F X α : Type) : Type := Program (cleanupSignature F) (Session F X) α

def fail {α : Type} (e : Failure) : Cleanup F X α := Program.raise (.exception e)

def ask (c : Call F) : Cleanup F X c.Answer := Program.ask (cleanupSignature F) c

def getSession : Cleanup F X (Session F X) := Program.getState

def modifySession (f : Session F X → Session F X) : Cleanup F X Unit := Program.modifyState f

/-! ### Waiting -/

def requireWallBudget (elapsed : Session F X → String) : Cleanup F X Unit := do
  let now ← ask .monotonic
  let session ← getSession
  if le session.wallDeadline now then fail (.wallTimeoutError (elapsed session))

def checkCleanupFatal : Cleanup F X Unit := do
  let session ← getSession
  match session.node.cleanupFatalError with
  | some e => fail e
  | none => pure ()

/-- The executor spins, for no longer than is left. -/
def executorSpin (elapsed : Session F X → String) (receive : Callback F → Node F X → Node F X)
    (failed : String) (timeoutS : F) : Cleanup F X Unit := do
  requireWallBudget elapsed
  let now ← ask .monotonic
  let session ← getSession
  let remainingS := nonnegative (sub session.wallDeadline now)
  Program.attempt
    (Program.call (cleanupSignature F)
      (fun k => modifySession fun session => { session with node := receive k session.node })
      (.spinOnce (minFloat timeoutS remainingS)))
    fun
      | .exception e =>
          if e.isScenarioError then fail e else fail (.infrastructureError (failed ++ e.text))
      | .baseException text => Program.raise (.baseException text)

variable (app : Application F X)

/-- The simulation clock is past the deadline. -/
def checkPast (reason : String) (simDeadlineNs : Int) : Cleanup F X Unit := do
  let session ← getSession
  if session.node.clockSeen && simDeadlineNs < session.node.currentSimStampNs then
    fail (.scenarioFailureError reason)

/-- The simulation clock has reached the deadline. -/
def checkReached (reason : String) (simDeadlineNs : Int) : Cleanup F X Unit := do
  let session ← getSession
  if session.node.clockSeen && simDeadlineNs ≤ session.node.currentSimStampNs then
    fail (.scenarioFailureError reason)

/-- The condition, between two checks of the deadlines. -/
def testPredicate (predicate : Node F X → Bool) (reason : String) (simDeadlineNs : Int) :
    Cleanup F X Bool := do
  let session ← getSession
  let satisfied := predicate session.node
  requireWallBudget app.wallElapsed
  checkPast reason simDeadlineNs
  pure satisfied

def waitFor (predicate : Node F X → Bool) (reason : String) (simDeadlineNs : Int) :
    Cleanup F X Unit :=
  Program.loop (fun () => do
    requireWallBudget app.wallElapsed
    checkCleanupFatal
    checkPast reason simDeadlineNs
    if ← testPredicate app predicate reason simDeadlineNs then
      return .inr ()
    checkReached reason simDeadlineNs
    app.spinOnce (ofRat (2 / 100))
    requireWallBudget app.wallElapsed
    checkPast reason simDeadlineNs
    if ← testPredicate app predicate reason simDeadlineNs then
      return .inr ()
    checkReached reason simDeadlineNs
    return .inl ()) ()

/-! ### The delete request -/

/-- The characters whose encoding fits. -/
def boundedPrefix : Nat → List Char → List Char
  | _, [] => []
  | n, c :: cs => if c.utf8Size ≤ n then c :: boundedPrefix (n - c.utf8Size) cs else []

def boundedDiagnostic (text : String) : String := String.ofList (boundedPrefix 4096 text.toList)

/-- Change the evidence of the request, which the record shows. -/
def modifyTransaction (f : TransactionProof → TransactionProof) : Cleanup F X Unit :=
  modifySession fun session =>
    match session.cleanup.proof with
    | .transaction proof =>
        { session with cleanup := { session.cleanup with proof := .transaction (f proof) } }
    | _ => session

def retainFailure (stage : String) (error : Failure) : Cleanup F X Unit :=
  modifyTransaction fun proof => { proof with
    error := some (boundedDiagnostic error.text)
    failureStage := some stage
    kind := "delete_transaction_failed" }

/-- Retain the failures that the handler knows, with their stages, and raise what it makes of
them. -/
def retaining {α : Type} (handler : Failure → Option (String × Failure)) (m : Cleanup F X α) :
    Cleanup F X α :=
  Program.attempt m fun
    | .exception e =>
        match handler e with
        | some (stage, error) => do
            retainFailure stage error
            fail error
        | none => fail e
    | .baseException text => Program.raise (.baseException text)

/-- The handler of the errors of the scenarios at a stage. -/
def atStage (stage : Failure → String) (e : Failure) : Option (String × Failure) :=
  if e.isScenarioError then some (stage e, e) else none

/-- The handler of all failures, for those that are not errors of the scenarios with their
context. -/
def withContext (stage : Failure → String) (otherStage context : String) (e : Failure) :
    Option (String × Failure) :=
  if e.isScenarioError then some (stage e, e)
  else some (otherStage, .infrastructureError (context ++ e.text))

/-- The handler of all failures of a call. -/
def asInfrastructure (stage context : String) (e : Failure) : Option (String × Failure) :=
  some (stage, .infrastructureError (context ++ e.text))

def responseStage (name : String) (e : Failure) : String :=
  if e.text = name ++ " response timed out" then "response_timeout" else "response_wait"

def checkDeadline (deadline : F) (text : String) : Cleanup F X Unit := do
  let now ← ask .monotonic
  if le deadline now then fail (.infrastructureError text)

def waitService (name : String) : Cleanup F X F := do
  let now ← ask .monotonic
  let session ← getSession
  let deadline := minFloat session.wallDeadline (add now session.serviceTimeoutS)
  Program.loop (fun () => do
    requireWallBudget app.wallElapsed
    checkCleanupFatal
    checkDeadline deadline ("service unavailable before deadline: " ++ name)
    let ready : Bool ← ask .serviceIsReady
    requireWallBudget app.wallElapsed
    checkDeadline deadline ("service unavailable before deadline: " ++ name)
    if ready then
      return .inr deadline
    app.spinOnce (ofRat (2 / 100))
    return .inl ()) ()

/-- Wait until the response is there. -/
def waitResponse (name : String) (deadline : F) : Cleanup F X Unit :=
  Program.loop (fun () => do
    let responseDone : Bool ← retaining (withContext (responseStage name) "response_wait"
        (name ++ " response readiness check failed: ")) (do
      requireWallBudget app.wallElapsed
      checkDeadline deadline (name ++ " response timed out")
      let responseDone : Bool ← ask .futureDone
      requireWallBudget app.wallElapsed
      checkDeadline deadline (name ++ " response timed out")
      pure responseDone)
    if responseDone then
      return .inr ()
    retaining (withContext (fun _ => "response_wait") "response_wait"
      (name ++ " response wait failed: ")) (app.spinOnce (ofRat (2 / 100)))
    return .inl ()) ()

/-- The success of the response, with the number and the stamp of the request. -/
def callService (entityName name : String) : Cleanup F X (Bool × Nat × Int) := do
  let serviceDeadline ← retaining (withContext (fun _ => "service_wait") "service_wait"
      (name ++ " service readiness check failed: ")) (do
    let serviceDeadline ← waitService app name
    requireWallBudget app.wallElapsed
    checkDeadline serviceDeadline ("service unavailable before deadline: " ++ name)
    pure serviceDeadline)
  modifySession fun session => { session with node := session.node.nextSequence }
  let session ← getSession
  let requestSequence := session.node.sequence
  let requestStampNs := session.node.currentSimStampNs
  modifyTransaction fun proof => { proof with
    requestSequence := some requestSequence, requestStampNs := some requestStampNs }
  retaining (atStage fun _ => "service_wait") (do
    requireWallBudget app.wallElapsed
    checkDeadline serviceDeadline ("service unavailable before deadline: " ++ name))
  retaining (asInfrastructure "request_send" (name ++ " request could not be sent: "))
    (ask (.callAsync entityName))
  let now ← ask .monotonic
  let session ← getSession
  let deadline := minFloat session.wallDeadline (add now session.serviceTimeoutS)
  waitResponse app name deadline
  let response : Option Bool ← retaining
    (asInfrastructure "response_future" (name ++ " response failed: "))
    (ask .futureResult)
  retaining (atStage (responseStage name)) (do
    requireWallBudget app.wallElapsed
    checkDeadline deadline (name ++ " response timed out"))
  match response with
  | none => do
      retainFailure "response_null" (.infrastructureError (name ++ " returned no response"))
      fail (.infrastructureError (name ++ " returned no response"))
  | some success => pure (success, requestSequence, requestStampNs)

/-! ### The observation -/

/-- What the observation knows of the delete request. -/
structure Deletion where
  sourcePublishersBefore : Int
  requestSequence : Nat
  requestStampNs : Int
  responseSequence : Nat
  responseStampNs : Int

def Deletion.observationDeadlineNs (deletion : Deletion) : Int :=
  deletion.responseStampNs + ACTOR_CLEANUP_OBSERVATION_NS

def cleanupProof (deletion : Deletion) (kind : String) (session : Session F X) : CleanupProof where
  kind := kind
  ddsDrainCompleteSteadyNs := session.window.drainCompleteSteadyNs
  ddsDrainGraceNs := DRAIN_GRACE_NS
  ddsDrainSpinCount := session.window.drainSpinCount
  ddsDrainStartSteadyNs := session.window.drainStartSteadyNs
  observationDeadlineSimStampNs := deletion.observationDeadlineNs
  poseSourcePublishersBefore := deletion.sourcePublishersBefore
  postDeletePoseCount := session.node.postDeletePoseCount
  postDeletePoseFirstSequence := session.node.postDeletePoseFirstSequence
  postDeletePoseFirstSimStampNs := session.node.postDeletePoseFirstSimStampNs
  postDeletePoseLatestSequence := session.node.postDeletePoseLatestSequence
  postDeletePoseLatestSimStampNs := session.node.postDeletePoseLatestSimStampNs
  postDeletePoseSourceHeartbeatCount := session.node.postDeleteEntityMessageCount
  postDeletePoseSourceLatestSequence := session.node.postDeleteEntityLatestSequence
  postDeletePoseSourceLatestSimStampNs := session.node.postDeleteEntityLatestSimStampNs
  quietStartSimStampNs := session.window.quietStartNs
  quietRestartCount := session.window.quietRestartCount
  quietUntilSimStampNs := session.window.quietUntilNs
  requestSequence := deletion.requestSequence
  requestStampNs := deletion.requestStampNs
  responseSequence := deletion.responseSequence
  responseStampNs := deletion.responseStampNs

/-- Show the proof as far as it is. -/
def recordProof (deletion : Deletion) : Cleanup F X Unit :=
  modifySession fun session => { session with cleanup := { session.cleanup with
    proof := .observation (cleanupProof deletion session.window.pendingKind session) } }

def modifyWindow (f : Window → Window) : Cleanup F X Unit :=
  modifySession fun session => { session with window := f session.window }

def anchorPending : String := "successful_blocking_delete_response_cleanup_anchor_pending"
def quietPending : String := "successful_blocking_delete_response_cleanup_quiet_pending"
def drainPending : String := "successful_blocking_delete_response_cleanup_drain_pending"
def absenceProved : String := "successful_blocking_delete_and_bounded_pose_absence"

/-- The heartbeats are past the stamp and the number. -/
def sourceAdvanced (anchorAfterNs : Int) (anchorAfterSequence : Nat) (node : Node F X) : Bool :=
  node.postDeleteEntityLatestSimStampNs.any (anchorAfterNs < ·) &&
    node.postDeleteEntityLatestSequence.any (anchorAfterSequence < ·)

/-- A pose of the entity came, or the heartbeats span the interval. -/
def quietEnded (anchorPoseCount : Nat) (quietUntilNs : Int) (node : Node F X) : Bool :=
  anchorPoseCount < node.postDeletePoseCount ||
    node.postDeleteEntityLatestSimStampNs.any (quietUntilNs ≤ ·)

/-- Wait for a new anchor, after the one that failed. -/
def Window.restart (quietStartNs : Int) (window : Window) : Window :=
  { window with
    quietRestartCount := window.quietRestartCount + 1
    anchorFloorNs := quietStartNs
    quietStartNs := none
    quietUntilNs := none
    pendingKind := anchorPending }

def Window.restartDrain (quietStartNs : Int) (window : Window) : Window :=
  { window.restart quietStartNs with
    drainStartSteadyNs := none
    drainCompleteSteadyNs := none
    drainSpinCount := 0 }

/-- The drain spins at least once, and until its deadline. -/
def drainGoesOn (drainDeadlineSteadyNs : Int) : Cleanup F X Bool := do
  let session ← getSession
  if session.window.drainSpinCount = 0 then
    pure true
  else do
    let now : Int ← ask .monotonicNs
    pure (decide (now < drainDeadlineSteadyNs))

/-- Spin until the drain is over or a pose of the entity came. -/
def drainSpins (anchorPoseCount : Nat) (drainDeadlineSteadyNs : Int) : Cleanup F X Bool :=
  Program.loop (fun () => do
    if !(← drainGoesOn drainDeadlineSteadyNs) then
      return .inr false
    let now : Int ← ask .monotonicNs
    let remainingS : F :=
      nonnegative (ofRat (((drainDeadlineSteadyNs - now : Int) : ℚ) / 1000000000))
    app.spinOnce (minFloat (ofRat (2 / 100)) remainingS)
    modifyWindow fun window => { window with drainSpinCount := window.drainSpinCount + 1 }
    let session ← getSession
    if anchorPoseCount < session.node.postDeletePoseCount then
      return .inr true
    return .inl ()) ()

def drain (deletion : Deletion) (quietStartNs : Int) (anchorPoseCount : Nat) :
    Cleanup F X (Unit ⊕ Unit) := do
  modifyWindow fun window => { window with pendingKind := drainPending }
  let start : Int ← ask .monotonicNs
  modifyWindow fun window => { window with
    drainStartSteadyNs := some start, drainCompleteSteadyNs := none, drainSpinCount := 0 }
  recordProof deletion
  let restarts ← drainSpins app anchorPoseCount (start + DRAIN_GRACE_NS)
  let session ← getSession
  if restarts || anchorPoseCount < session.node.postDeletePoseCount then do
    modifyWindow (Window.restartDrain quietStartNs)
    recordProof deletion
    pure (.inl ())
  else do
    let complete : Int ← ask .monotonicNs
    modifyWindow fun window => { window with drainCompleteSteadyNs := some complete }
    pure (.inr ())

/-- Watch the stream from the anchor on. -/
def observeQuiet (deletion : Deletion) (quietStartNs : Int) : Cleanup F X (Unit ⊕ Unit) := do
  let quietUntilNs := quietStartNs + ACTOR_CLEANUP_QUIET_NS
  modifyWindow fun window => { window with
    quietStartNs := some quietStartNs, quietUntilNs := some quietUntilNs }
  let session ← getSession
  let anchorPoseCount := session.node.postDeletePoseCount
  if deletion.observationDeadlineNs < quietUntilNs then
    fail (.scenarioFailureError app.windowExceeded)
  else do
    modifyWindow fun window => { window with pendingKind := quietPending }
    recordProof deletion
    waitFor app (quietEnded anchorPoseCount quietUntilNs) app.notSpanned
      deletion.observationDeadlineNs
    let session ← getSession
    if anchorPoseCount < session.node.postDeletePoseCount then do
      modifyWindow (Window.restart quietStartNs)
      recordProof deletion
      pure (.inl ())
    else drain app deletion quietStartNs anchorPoseCount

/-- Find an anchor and watch the stream from there, until the entity stays away. -/
def observeAbsence (deletion : Deletion) : Cleanup F X Unit :=
  Program.loop (fun () => do
    let session ← getSession
    waitFor app
      (sourceAdvanced
        (max session.window.anchorFloorNs (session.node.postDeletePoseLatestSimStampNs.getD 0))
        (max deletion.responseSequence (session.node.postDeletePoseLatestSequence.getD 0)))
      app.noAnchor deletion.observationDeadlineNs
    let session ← getSession
    match session.node.postDeleteEntityLatestSimStampNs with
    | none => fail (.other "")
    | some heartbeat =>
        if session.node.postDeletePoseLatestSimStampNs.any (heartbeat ≤ ·) then pure (.inl ())
        else observeQuiet app deletion heartbeat) ()

/-! ### The cleanup -/

/-- Forget what was observed before the response. -/
def Node.beginObservation (node : Node F X) (responseSequence : Nat) (responseStampNs : Int) :
    Node F X :=
  { node with
    deleteResponseSequence := some responseSequence
    deleteResponseStampNs := some responseStampNs
    postDeletePoseCount := 0
    postDeletePoseFirstSequence := none
    postDeletePoseFirstSimStampNs := none
    postDeletePoseLatestSequence := none
    postDeletePoseLatestSimStampNs := none
    postDeleteEntityMessageCount := 0
    postDeleteEntityLatestSequence := none
    postDeleteEntityLatestSimStampNs := none }

/-- What the observation shows. -/
def actorAbsent (deletion : Deletion) (quietStartNs : Int) (node : Node F X) : Bool :=
  node.postDeletePoseLatestSimStampNs.all (· < quietStartNs) &&
    2 ≤ node.postDeleteEntityMessageCount &&
    node.postDeleteEntityLatestSequence.any fun (latest : Nat) =>
      (latest : Int) - deletion.responseSequence =
        node.postDeleteEntityMessageCount + node.postDeletePoseCount

/-- Observe the stream after a successful response, and conclude. -/
def concludeAbsence (deletion : Deletion) (publishersError : Option Failure) :
    Cleanup F X Unit := do
  Program.attempt (observeAbsence app deletion) fun
    | .exception e => do
        if e.isScenarioError then
          recordProof deletion
        fail e
    | .baseException text => Program.raise (.baseException text)
  let session ← getSession
  match session.window.quietStartNs, session.window.quietUntilNs with
  | some quietStartNs, some _ => do
      recordProof deletion
      requireWallBudget app.wallElapsed
      let sourcePublishersAfter : Int ← ask (.countPublishers ENTITY_POSE_TOPIC)
      requireWallBudget app.wallElapsed
      match publishersError with
      | some e => fail e
      | none =>
          if deletion.sourcePublishersBefore < 1 || sourcePublishersAfter < 1 then
            fail (.scenarioFailureError app.publisherMissing)
          else do
            modifySession fun session => { session with cleanup := {
              actorAbsent := actorAbsent deletion quietStartNs session.node
              deleteAttemptCount := session.deleteAttemptCount
              deleteSuccess := some true
              proof := .observation { cleanupProof deletion absenceProved session with
                poseSourcePublishersAfter := some sourcePublishersAfter }
              required := true } }
            let session ← getSession
            if !session.cleanup.actorAbsent then
              fail (.scenarioFailureError app.posesContinued)
  | _, _ => fail (.other "")

/-- The publishers of the stream before the request, and the error of a failed query. -/
def countPublishersBefore : Cleanup F X (Int × Option Failure) :=
  Program.attempt
    (do
      let count : Int ← ask (.countPublishers ENTITY_POSE_TOPIC)
      pure (count, none))
    fun
      | .exception e => pure (0, some (.infrastructureError
          ("entity-pose source publisher pre-delete query failed: " ++ e.text)))
      | .baseException text => Program.raise (.baseException text)

/-- Delete the entity, once, and observe that it is gone. -/
def deleteEntity (entityName : String) : Cleanup F X Unit := do
  let session ← getSession
  if session.deleteAttemptCount ≠ 0 then
    fail (.protocolError app.attemptedTwice)
  else do
    let (sourcePublishersBefore, publishersError) ← countPublishersBefore
    modifySession fun session => { session with
      deleteAttemptCount := 1
      cleanup := {
        actorAbsent := false
        deleteAttemptCount := 1
        deleteSuccess := none
        proof := .transaction { kind := "delete_request_pending" }
        required := true } }
    let (success, requestSequence, requestStampNs) ← callService app entityName DELETE_SERVICE
    modifySession fun session => { session with node := session.node.nextSequence }
    let session ← getSession
    let responseSequence := session.node.sequence
    let responseStampNs := session.node.currentSimStampNs
    modifyTransaction fun proof => { proof with
      responseSequence := some responseSequence, responseStampNs := some responseStampNs }
    if !success then do
      modifyTransaction fun proof => { proof with
        error := some (boundedDiagnostic app.rejected)
        failureStage := some "response_rejected"
        kind := "delete_response_did_not_prove_absence" }
      modifySession fun session => { session with cleanup := { session.cleanup with
        actorAbsent := false
        deleteAttemptCount := session.deleteAttemptCount
        deleteSuccess := some false
        required := true } }
      fail (.infrastructureError app.rejected)
    else do
      let deletion : Deletion :=
        ⟨sourcePublishersBefore, requestSequence, requestStampNs, responseSequence, responseStampNs⟩
      modifySession fun session => { session with
        node := session.node.beginObservation responseSequence responseStampNs
        window := { anchorFloorNs := responseStampNs, pendingKind := anchorPending } }
      modifySession fun session => { session with cleanup := {
        actorAbsent := false
        deleteAttemptCount := session.deleteAttemptCount
        deleteSuccess := some true
        proof := .observation (cleanupProof deletion anchorPending session)
        required := true } }
      concludeAbsence app deletion publishersError

end Programs

/-! ### The two programs -/

variable {F : Type} [PoseFloat F]

namespace ScenarioController

def receive : Callback F → ScenarioControllerNode F → ScenarioControllerNode F
  | .clock stamp => Node.guard "unhandled callback error: " (onClock stamp)
  | .entityPoses transforms => Node.guard "unhandled callback error: " (onEntityPoses transforms)

def wallElapsed (_ : Session F (ScenarioControllerFields F)) : String :=
  "scenario controller steady-wall escape timeout elapsed"

def spinOnce (timeoutS : F) : Cleanup F (ScenarioControllerFields F) Unit := do
  executorSpin wallElapsed receive "scenario controller executor spin failed: " timeoutS
  requireWallBudget wallElapsed
  checkCleanupFatal

def application : Application F (ScenarioControllerFields F) where
  receive := receive
  wallElapsed := wallElapsed
  spinOnce := spinOnce
  attemptedTwice := "actor delete may be attempted exactly once"
  rejected := DELETE_SERVICE ++ " rejected actor cleanup"
  noAnchor := "actor pose source did not establish a post-delete heartbeat anchor"
  windowExceeded := "actor cleanup observation window exceeded its simulation deadline"
  notSpanned := "actor pose source did not span the cleanup quiet interval"
  publisherMissing :=
    "entity-pose source publisher was missing during actor cleanup observation"
  posesContinued := "actor pose stream continued after successful delete response"

def cleanupActor : Cleanup F (ScenarioControllerFields F) Unit := do
  let session ← getSession
  match session.node.own.document.actorName with
  | none => pure ()
  | some actorName =>
      if !(session.spawnRequestSendAttempted || session.spawnRequestSent) then
        modifySession fun session => { session with cleanup := {
          actorAbsent := true
          deleteAttemptCount := 0
          deleteSuccess := none
          proof := .spawn "spawn_request_not_sent"
          required := false } }
      else deleteEntity application actorName

end ScenarioController

namespace ContactControl

def receive : Callback F → ContactControlNode F → ContactControlNode F
  | .clock stamp => Node.guard "unhandled contact callback error: " (onClock stamp)
  | .entityPoses transforms =>
      Node.guard "unhandled contact callback error: " (onEntityPoses transforms)

def wallElapsed (session : Session F ContactControlFields) : String :=
  "contact-control " ++
    (if session.node.own.cleanupWindowActive then "cleanup" else "operational") ++
    " steady-wall deadline elapsed"

def spinOnce (timeoutS : F) : Cleanup F ContactControlFields Unit := do
  executorSpin wallElapsed receive "contact-control executor spin failed: " timeoutS
  checkCleanupFatal
  let _ ← ask .monotonicNs
  requireWallBudget wallElapsed

def application : Application F ContactControlFields where
  receive := receive
  wallElapsed := wallElapsed
  spinOnce := spinOnce
  attemptedTwice := "contact-control wall delete may be attempted exactly once"
  rejected := DELETE_SERVICE ++ " rejected contact wall cleanup"
  noAnchor := "entity-pose source did not establish a post-delete heartbeat anchor"
  windowExceeded := "wall cleanup observation window exceeded its simulation deadline"
  notSpanned := "entity-pose source did not span the wall cleanup quiet interval"
  publisherMissing :=
    "entity-pose source publisher was missing during wall cleanup observation"
  posesContinued := "wall pose stream continued after successful delete"

def cleanupWall : Cleanup F ContactControlFields Unit := do
  let session ← getSession
  if !(session.spawnRequestSendAttempted || session.spawnRequestSent) then
    pure ()
  else deleteEntity application WALL_NAME

end ContactControl

end Scenarios

end RobotestLab
