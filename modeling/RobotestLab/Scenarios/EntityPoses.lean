import RobotestLab.Interfaces.Messages
import RobotestLab.Missions.Execution

/-!
# Entity poses

The nodes that own a Gazebo entity: the scenario controller owns the actor of its scenario, and the
contact control owns a wall. Both observe the poses of their entity and the heartbeats of the stream
that delivers them, number what they observe, and latch what their callbacks raise. Only the
callbacks that stay alive during cleanup are here.
-/

namespace RobotestLab

namespace Scenarios

/-! ### Constants -/

def ENTITY_POSE_TOPIC : String := "validation/scenario_entity_poses"
def ENTITY_POSE_HEARTBEAT_MODEL : String := "ground_plane"
def WALL_NAME : String := "phase3_contact_control_wall"
def DELETE_SERVICE : String := "scenario/delete_entity"
def ACTOR_STATE_CAPACITY : Nat := 1024
def ACTOR_CLEANUP_QUIET_NS : Int := 250000000
def ACTOR_CLEANUP_OBSERVATION_NS : Int := 4 * ACTOR_CLEANUP_QUIET_NS
def CONTROL_STOP_DEADLINE_NS : Int := 100000000

/-- The operations on Python floats that the callbacks use. Squaring raises when it overflows. -/
class PoseFloat (F : Type) extends Missions.PyFloat F where
  isFinite : F → Bool
  div : F → F → F
  abs : F → F
  sqrt : F → F
  atan2 : F → F → F
  sum : List F → F
  square : F → Except String F
  mod : F → F → F
  pi : F

variable {F : Type} [PoseFloat F]

open Missions.PyFloat PoseFloat

section Constants

variable (F)

def ACTOR_INITIAL_POSITION_TOLERANCE_M : F := ofRat (1 / 100)
def ACTOR_YAW_TOLERANCE_RAD : F := ofRat (1 / 100)

end Constants

/-! ### Errors -/

/-- What is raised: the errors of the scenarios, and the exceptions of other classes. -/
inductive Failure where
  | wallTimeoutError (text : String)
  | protocolError (text : String)
  | infrastructureError (text : String)
  | scenarioFailureError (text : String)
  | other (text : String)
  deriving DecidableEq, Repr

/-- An instance of `RobotestScenarioError`. -/
def Failure.isScenarioError : Failure → Bool
  | .other _ => false
  | _ => true

def Failure.isProtocolError : Failure → Bool
  | .protocolError _ => true
  | _ => false

/-- `str` of an exception. -/
def Failure.text : Failure → String
  | .wallTimeoutError text => text
  | .protocolError text => text
  | .infrastructureError text => text
  | .scenarioFailureError text => text
  | .other text => text

/-! ### Stamps and angles -/

def stampToNs (stamp : Time) (positive : Bool) : Except Failure Int :=
  let seconds := stamp.sec.toInt
  let nanoseconds : Int := stamp.nanosec.toNat
  if seconds < 0 || !(0 ≤ nanoseconds && nanoseconds < 1000000000) then
    .error (.protocolError "ROS timestamp fields are invalid")
  else
    let value := seconds * 1000000000 + nanoseconds
    if positive && value ≤ 0 then .error (.protocolError "ROS timestamp must be positive")
    else .ok value

def normalizeYaw (value : F) : Except Failure F :=
  if !isFinite value then .error (.protocolError "yaw must be finite")
  else .ok (sub (mod (add value pi) (mul (ofRat 2) pi)) pi)

def shortestYawError (actual target : F) : Except Failure F :=
  (normalizeYaw (sub actual target)).map abs

def quaternionYaw (x y z w : F) : Except Failure F :=
  let values := [x, y, z, w]
  if !values.all isFinite then .error (.protocolError "quaternion contains a non-finite value")
  else
    let norm := sqrt (sum (values.map fun item => mul item item))
    if le norm (ofRat (1 / 1000000000000)) then .error (.protocolError "quaternion norm is zero")
    else
      let (xN, yN, zN, wN) := (div x norm, div y norm, div z norm, div w norm)
      .ok (atan2 (mul (ofRat 2) (add (mul wN zN) (mul xN yN)))
        (sub (ofRat 1) (mul (ofRat 2) (add (mul yN yN) (mul zN zN)))))

/-! ### Evidence -/

/-- `ActorPoseEvidence` and `WallPoseEvidence`. -/
structure PoseEvidence (F : Type) where
  collectorSequence : Nat
  stampNs : Int
  x : F
  y : F
  z : F
  yaw : F

structure PoseTarget (F : Type) where
  x : F
  y : F
  z : F
  yaw : F

/-- Items in order of arrival, up to the capacity. -/
structure PrefixBuffer (T : Type) where
  name : String
  capacity : Nat
  items : List T := []
  ingressCount : Nat := 0
  acceptedCount : Nat := 0
  invalidCount : Nat := 0
  overflowCount : Nat := 0
  firstOverflowSequence : Option Nat := none
  firstOverflowStampNs : Option Int := none

namespace PrefixBuffer

variable {T : Type}

def add (buffer : PrefixBuffer T) (item : T) (sequence : Nat) (stampNs : Int) :
    Except Failure Unit × PrefixBuffer T :=
  let buffer := { buffer with ingressCount := buffer.ingressCount + 1 }
  if buffer.capacity ≤ buffer.items.length then
    let buffer := { buffer with overflowCount := buffer.overflowCount + 1 }
    let buffer :=
      if buffer.firstOverflowSequence.isNone then
        { buffer with firstOverflowSequence := some sequence, firstOverflowStampNs := some stampNs }
      else buffer
    (.error (.protocolError
      (buffer.name ++ " prefix buffer overflowed at sequence " ++ toString sequence)), buffer)
  else
    (.ok (), { buffer with
      items := buffer.items ++ [item], acceptedCount := buffer.acceptedCount + 1 })

def rejectInvalid (buffer : PrefixBuffer T) : PrefixBuffer T :=
  { buffer with ingressCount := buffer.ingressCount + 1, invalidCount := buffer.invalidCount + 1 }

def observeUnretained (buffer : PrefixBuffer T) : PrefixBuffer T :=
  { buffer with ingressCount := buffer.ingressCount + 1, acceptedCount := buffer.acceptedCount + 1 }

section Add

variable {buffer buffer' : PrefixBuffer T} {item : T} {sequence : Nat} {stamp : Int}

theorem add_of_lt (h : buffer.items.length < buffer.capacity) :
  buffer.add item sequence stamp
    = (.ok (), { buffer with
        ingressCount := buffer.ingressCount + 1
        items := buffer.items ++ [item]
        acceptedCount := buffer.acceptedCount + 1 })
  := by
  rw [add]
  dsimp only
  rw [if_neg (not_le.mpr h)]

theorem add_of_le (h : buffer.capacity ≤ buffer.items.length) :
  ∃ e buffer', buffer.add item sequence stamp = (.error e, buffer')
  := by
  rw [add]
  dsimp only
  rw [if_pos h]
  exact ⟨_, _, rfl⟩

theorem add_items (h : buffer.add item sequence stamp = (.ok (), buffer')) :
  buffer'.items = buffer.items ++ [item] ∧ buffer'.overflowCount = buffer.overflowCount
  := by
  unfold add at h
  dsimp only at h
  split at h
  case isTrue => cases h
  case isFalse =>
    cases h
    exact ⟨rfl, rfl⟩

theorem add_overflow {e : Failure} (h : buffer.add item sequence stamp = (.error e, buffer')) :
  buffer'.items = buffer.items ∧ buffer'.overflowCount = buffer.overflowCount + 1
  := by
  unfold add at h
  dsimp only at h
  split at h
  case isTrue =>
    cases h
    split
    · exact ⟨rfl, rfl⟩
    · exact ⟨rfl, rfl⟩
  case isFalse => cases h

end Add

end PrefixBuffer

/-! ### Nodes -/

/-- `geometry_msgs/TransformStamped`. -/
structure Transform (F : Type) where
  stamp : Time
  frameId : String
  childFrameId : String
  x : F
  y : F
  z : F
  rotation : F × F × F × F

/-- What both nodes keep for their entity, with the fields of one node that the other one lacks. -/
structure Node (F X : Type) where
  sequence : Nat := 0
  cleanupMode : Bool := false
  fatalError : Option Failure := none
  cleanupFatalError : Option Failure := none
  protocolErrorCount : Nat := 0
  clockSeen : Bool := false
  currentSimStampNs : Int := 0
  clockFirstStampNs : Option Int := none
  clockSampleCount : Nat := 0
  clockMaxGapNs : Int := 0
  clockRegressionCount : Nat := 0
  entityPoseMessageCount : Nat := 0
  lastEntityPoseHeartbeatStampNs : Option Int := none
  spawnRequestSequence : Option Nat := none
  deleteResponseSequence : Option Nat := none
  deleteResponseStampNs : Option Int := none
  postDeleteEntityMessageCount : Nat := 0
  postDeleteEntityLatestSequence : Option Nat := none
  postDeleteEntityLatestSimStampNs : Option Int := none
  postDeletePoseCount : Nat := 0
  postDeletePoseFirstSequence : Option Nat := none
  postDeletePoseFirstSimStampNs : Option Int := none
  postDeletePoseLatestSequence : Option Nat := none
  postDeletePoseLatestSimStampNs : Option Int := none
  lastPoseStampNs : Option Int := none
  lastPose : Option (PoseEvidence F) := none
  poses : List (PoseEvidence F) := []
  actorState : PrefixBuffer (PoseEvidence F) :=
    ⟨"actor_state", ACTOR_STATE_CAPACITY, [], 0, 0, 0, 0, none, none⟩
  own : X

namespace Node

variable {X : Type}

/-- The node with one more sequence number given out. -/
def nextSequence (node : Node F X) : Node F X := { node with sequence := node.sequence + 1 }

def setFatal (node : Node F X) (error : Failure) : Node F X :=
  if node.fatalError.isNone then
    { node with
      fatalError := some error
      protocolErrorCount := node.protocolErrorCount + if error.isProtocolError then 1 else 0 }
  else node

def setCleanupFatal (node : Node F X) (error : Failure) : Node F X :=
  if node.cleanupFatalError.isNone then
    { node with
      cleanupFatalError := some error
      protocolErrorCount := node.protocolErrorCount + if error.isProtocolError then 1 else 0 }
  else node

/-- The guard of the callbacks that stay alive during cleanup. -/
def guard (unhandled : String) (callback : Node F X → Except Failure Unit × Node F X)
    (node : Node F X) : Node F X :=
  if node.fatalError.isSome && !node.cleanupMode then node
  else
    match callback node with
    | (.ok (), node) => node
    | (.error e, node) =>
        let error := if e.isScenarioError then e else .protocolError (unhandled ++ e.text)
        if node.cleanupMode then node.setCleanupFatal error else node.setFatal error

/-! ### The clock -/

/-- A clock stamp that did not regress. -/
def recordClock (node : Node F X) (stampNs : Int) : Node F X :=
  { node with
    clockFirstStampNs := some (node.clockFirstStampNs.getD stampNs)
    clockMaxGapNs :=
      if node.clockFirstStampNs.isSome && node.currentSimStampNs < stampNs then
        max node.clockMaxGapNs (stampNs - node.currentSimStampNs)
      else node.clockMaxGapNs
    clockSampleCount := node.clockSampleCount + 1
    currentSimStampNs := stampNs
    clockSeen := true }

/-- The clock callback, with what it goes on to do. -/
def onClock (regressed : String) (rest : Node F X → Int → Except Failure Unit × Node F X)
    (stamp : Time) (node : Node F X) : Except Failure Unit × Node F X :=
  match stampToNs stamp false with
  | .error e => (.error e, node)
  | .ok stampNs =>
      if node.clockSeen && stampNs < node.currentSimStampNs then
        (.error (.protocolError regressed),
          { node with clockRegressionCount := node.clockRegressionCount + 1 })
      else rest (node.recordClock stampNs) stampNs

/-! ### Heartbeats -/

/-- A heartbeat of the stream of poses. -/
def onHeartbeat (transform : Transform F) (node : Node F X) : Except Failure (Node F X) := do
  let heartbeatStampNs ← stampToNs transform.stamp true
  if node.lastEntityPoseHeartbeatStampNs.any (heartbeatStampNs < ·) then
    .error (.protocolError "entity-pose heartbeat stamp regressed")
  else if !(["robotest_lab", "world"].contains transform.frameId) then
    .error (.protocolError "entity-pose heartbeat has an invalid frame")
  else
    let node := { node with lastEntityPoseHeartbeatStampNs := some heartbeatStampNs }
    if node.deleteResponseStampNs.isSome then
      let node := node.nextSequence
      .ok { node with
        postDeleteEntityMessageCount := node.postDeleteEntityMessageCount + 1
        postDeleteEntityLatestSequence := some node.sequence
        postDeleteEntityLatestSimStampNs := some heartbeatStampNs }
    else .ok node

/-! ### Poses of the entity -/

/-- The stamp, the position and the yaw of a pose of the entity, and the node after the checks. -/
def checkPose (regressed invalid : String) (transform : Transform F) (node : Node F X) :
    Except Failure (Int × F) × Node F X :=
  match stampToNs transform.stamp true with
  | .error e => (.error e, node)
  | .ok stampNs =>
      if node.lastPoseStampNs.any (stampNs < ·) then
        (.error (.protocolError regressed),
          { node with actorState := node.actorState.rejectInvalid })
      else
        let node := { node with lastPoseStampNs := some stampNs }
        if !(["robotest_lab", "world"].contains transform.frameId) ||
            !([transform.x, transform.y, transform.z].all isFinite) then
          (.error (.protocolError invalid),
            { node with actorState := node.actorState.rejectInvalid })
        else
          let (qx, qy, qz, qw) := transform.rotation
          match quaternionYaw qx qy qz qw with
          | .error e => (.error e, { node with actorState := node.actorState.rejectInvalid })
          | .ok yaw => (.ok (stampNs, yaw), node)

/-- The pose is not the one before it, up to the tolerance. -/
def changed (evidence : PoseEvidence F) (previous : Option (PoseEvidence F)) : Bool :=
  match previous with
  | none => true
  | some previous =>
      [(evidence.x, previous.x), (evidence.y, previous.y), (evidence.z, previous.z),
        (evidence.yaw, previous.yaw)].any fun (current, prior) =>
          lt (ofRat (1 / 1000000000000)) (abs (sub current prior))

/-- Retain a pose that changed, and count any other. -/
def retainPose (evidence : PoseEvidence F) (changed : Bool) (node : Node F X) :
    Except Failure Unit × Node F X :=
  if changed then
    match node.actorState.add evidence evidence.collectorSequence evidence.stampNs with
    | (.error e, buffer) => (.error e, { node with actorState := buffer })
    | (.ok (), buffer) =>
        (.ok (), { node with actorState := buffer, poses := node.poses ++ [evidence] })
  else (.ok (), { node with actorState := node.actorState.observeUnretained })

/-- Count a pose that was numbered after the delete response. -/
def countPose (evidence : PoseEvidence F) (node : Node F X) : Node F X :=
  if node.deleteResponseSequence.any (· < evidence.collectorSequence) then
    { node with
      postDeletePoseCount := node.postDeletePoseCount + 1
      postDeletePoseFirstSequence :=
        some (node.postDeletePoseFirstSequence.getD evidence.collectorSequence)
      postDeletePoseFirstSimStampNs :=
        if node.postDeletePoseFirstSequence.isNone then some evidence.stampNs
        else node.postDeletePoseFirstSimStampNs
      postDeletePoseLatestSequence := some evidence.collectorSequence
      postDeletePoseLatestSimStampNs := some evidence.stampNs }
  else node

/-- The transforms of a message, in order, up to the one that is refused. -/
def eachTransform (callback : Transform F → Node F X → Except Failure Unit × Node F X) :
    List (Transform F) → Node F X → Except Failure Unit × Node F X
  | [], node => (.ok (), node)
  | transform :: rest, node =>
      match callback transform node with
      | (.error e, node) => (.error e, node)
      | (.ok (), node) => eachTransform callback rest node

/-- A transform of a message: a heartbeat, a pose of the entity, both or neither. -/
def onTransform (name : String) (onPose : Transform F → Node F X → Except Failure Unit × Node F X)
    (transform : Transform F) (node : Node F X) : Except Failure Unit × Node F X :=
  let heartbeat :=
    if transform.childFrameId = ENTITY_POSE_HEARTBEAT_MODEL then node.onHeartbeat transform
    else .ok node
  match heartbeat with
  | .error e => (.error e, node)
  | .ok node => if transform.childFrameId ≠ name then (.ok (), node) else onPose transform node

end Node

/-! ### The scenario controller -/

/-- The fields of the scenario that the callbacks read. -/
structure ScenarioDocument (F : Type) where
  scenarioId : Int
  actorName : Option String
  actorInitialPose : Option (PoseTarget F)

/-- What only the scenario controller keeps. -/
structure ScenarioControllerFields (F : Type) where
  document : ScenarioDocument F
  ready : Bool := false
  feedbackAnchorStampNs : Option Int := none
  spawnRequestStampNs : Option Int := none
  firstSpawnObservation : Option (PoseEvidence F) := none
  s3ObservationRequests : List (Int × Nat × Int) := []
  matchedS3ActorPoses : List (Int × PoseEvidence F) := []

namespace ScenarioController

abbrev ScenarioControllerNode (F : Type) : Type := Node F (ScenarioControllerFields F)

def onClock : Time → ScenarioControllerNode F → Except Failure Unit × ScenarioControllerNode F :=
  Node.onClock "simulation clock regressed" fun node _ => (.ok (), node)

def requirePoseNear (evidence : PoseEvidence F) (target : Option (PoseTarget F))
    (positionTolerance : F) : Except Failure Unit := do
  match target with
  | none => .error (.protocolError "actor target pose is unavailable")
  | some target =>
      let square (x : F) : Except Failure F := (PoseFloat.square x).mapError .other
      let dx ← square (sub evidence.x target.x)
      let dy ← square (sub evidence.y target.y)
      let dz ← square (sub evidence.z target.z)
      let positionError := sqrt (add (add dx dy) dz)
      let yawError ← shortestYawError evidence.yaw target.yaw
      if lt positionTolerance positionError || lt (ACTOR_YAW_TOLERANCE_RAD F) yawError then
        .error (.scenarioFailureError "Scenario 3 actor moved before its feedback anchor")
      else .ok ()

/-- The first transaction, in the order of the indices, whose observation the pose is. -/
def matchingIndex (fields : ScenarioControllerFields F) (sequence : Nat) (stampNs : Int) :
    Option Int :=
  ((fields.s3ObservationRequests.mergeSort fun a b => a.1 ≤ b.1).find? fun (index,
    request, target) =>
    !(fields.matchedS3ActorPoses.map Prod.fst).contains index && request < sequence &&
      target ≤ stampNs).map Prod.fst

/-- What the pose of the actor is checked for after it was counted. -/
def checkSpawn (evidence : PoseEvidence F) (node : ScenarioControllerNode F) :
    Except Failure Unit × ScenarioControllerNode F :=
  match node.spawnRequestSequence with
  | none => (.error (.protocolError "scenario actor existed before its one-shot spawn request"),
      node)
  | some spawnRequestSequence =>
      let node :=
        if node.own.firstSpawnObservation.isNone &&
            spawnRequestSequence < evidence.collectorSequence &&
            node.own.spawnRequestStampNs.any (· ≤ evidence.stampNs) then
          { node with own := { node.own with firstSpawnObservation := some evidence } }
        else node
      if node.own.document.scenarioId = 3 && node.own.ready &&
          node.own.feedbackAnchorStampNs.isNone then
        (requirePoseNear evidence node.own.document.actorInitialPose
          (ACTOR_INITIAL_POSITION_TOLERANCE_M F), node)
      else (.ok (), node)

def onActorPose (transform : Transform F) (node : ScenarioControllerNode F) :
    Except Failure Unit × ScenarioControllerNode F :=
  match node.checkPose "scenario actor pose stamp regressed"
    "actor pose stream contains invalid frame or position" transform with
  | (.error e, node) => (.error e, node)
  | (.ok (stampNs, yaw), node) =>
      let node := node.nextSequence
      let evidence : PoseEvidence F :=
        ⟨node.sequence, stampNs, transform.x, transform.y, transform.z, yaw⟩
      let matchingIndex := matchingIndex node.own node.sequence stampNs
      let node := matchingIndex.elim node fun index =>
        { node with own := { node.own with
          matchedS3ActorPoses := node.own.matchedS3ActorPoses ++ [(index, evidence)] } }
      match node.retainPose evidence
        (Node.changed evidence node.lastPose || matchingIndex.isSome) with
      | (.error e, node) => (.error e, node)
      | (.ok (), node) => checkSpawn evidence
          ({ node with lastPose := some evidence }.countPose evidence)

def onEntityPoses (transforms : List (Transform F)) (node : ScenarioControllerNode F) :
    Except Failure Unit × ScenarioControllerNode F :=
  match node.own.document.actorName with
  | none => (.ok (), node)
  | some actorName =>
      Node.eachTransform (Node.onTransform actorName onActorPose) transforms
        { node with entityPoseMessageCount := node.entityPoseMessageCount + 1 }

end ScenarioController

/-! ### The contact control -/

/-- What only the contact control keeps: whether the window of the cleanup began, and the pending
check of the stop latency. The stamp and the bound of the latency are evidence of the first contact,
when there is one. -/
structure ContactControlFields where
  cleanupWindowActive : Bool := false
  pendingStopContactStampNs : Option Int := none
  stopLatencyClockStampNs : Option Int := none
  stopLatencyNs : Option Int := none
  firstQualifyingContact : Option (Option Int × Option Int) := none

namespace ContactControl

abbrev ContactControlNode (F : Type) : Type := Node F ContactControlFields

def checkStopLatency (node : ContactControlNode F) (stampNs : Int) :
    Except Failure Unit × ContactControlNode F :=
  match node.own.pendingStopContactStampNs with
  | none => (.ok (), node)
  | some pending =>
      if pending ≤ stampNs then
        let node := { node with own := { node.own with
          pendingStopContactStampNs := none
          stopLatencyClockStampNs := some stampNs
          stopLatencyNs := some (stampNs - pending)
          firstQualifyingContact := node.own.firstQualifyingContact.map fun _ =>
            (some stampNs, some (stampNs - pending)) } }
        if CONTROL_STOP_DEADLINE_NS < stampNs - pending then
          (.error (.scenarioFailureError "contact stop command missed its 0.10 s deadline"), node)
        else (.ok (), node)
      else (.ok (), node)

def onClock : Time → ContactControlNode F → Except Failure Unit × ContactControlNode F :=
  Node.onClock "simulation clock regressed during contact control" checkStopLatency

def onWallPose (transform : Transform F) (node : ContactControlNode F) :
    Except Failure Unit × ContactControlNode F :=
  if node.spawnRequestSequence.isNone then
    (.error (.protocolError "positive-control wall existed before its spawn request"), node)
  else
    match node.checkPose "positive-control wall pose stamp regressed"
      "positive-control wall pose has an invalid frame or value" transform with
    | (.error e, node) => (.error e, node)
    | (.ok (stampNs, yaw), node) =>
        let node := node.nextSequence
        let evidence : PoseEvidence F :=
          ⟨node.sequence, stampNs, transform.x, transform.y, transform.z, yaw⟩
        match (node.countPose evidence).retainPose evidence
          (Node.changed evidence node.lastPose) with
        | (.error e, node) => (.error e, node)
        | (.ok (), node) => (.ok (), { node with lastPose := some evidence })

def onEntityPoses (transforms : List (Transform F)) (node : ContactControlNode F) :
    Except Failure Unit × ContactControlNode F :=
  Node.eachTransform (Node.onTransform WALL_NAME onWallPose) transforms
    { node with entityPoseMessageCount := node.entityPoseMessageCount + 1 }

end ContactControl

end Scenarios

end RobotestLab
