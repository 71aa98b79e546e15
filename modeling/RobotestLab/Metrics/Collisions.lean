import RobotestLab.Metrics.Values
import RobotestLab.Library.Dict
import RobotestLab.Collisions.Gate

/-!
# Collision episodes

`analyze_collisions` reads the delivered snapshots of active contact pairs and counts the episodes
of contact with each counterpart model that start during a mission. An episode is open as long as
every snapshot has a pair with its counterpart, and is closed by the first snapshot that has none.
-/

namespace RobotestLab

namespace Metrics

open Collisions.Ros (scopedSegments)

def CONTACT_RELEASE_GAP_NS : Int := 250000000
def CONTACT_RECORD_CAPACITY : Nat := 32768
def MAX_CONTACT_SNAPSHOT_GAP_NS : Int := 220000000

/-! ### Pairs of a snapshot -/

/-- What `_collision_names` resolves from a manifest. -/
structure CollisionNames where
  robotModel : String
  robotNames : List String
  supportPairs : List (String × String)
  deriving DecidableEq, Repr

/-- The first segment of a name with at least three segments, none of them empty. -/
def topModel (scopedCollision : String) : Except MetricError String :=
  let segments := scopedSegments scopedCollision
  if segments.length < 3 || segments.any (· = "") then
    unavailable "contact collision name is not model::link::collision scoped"
  else .ok (segments.headD "")

inductive ExclusionReason where
  | allowlistedSupportContact
  | robotInternal
  deriving DecidableEq, Repr

def ExclusionReason.text : ExclusionReason → String
  | .allowlistedSupportContact => "allowlisted_support_contact"
  | .robotInternal => "robot_internal"

inductive ContactClassification where
  | excluded (reason : ExclusionReason)
  | counted (robotCollision counterpartCollision counterpartModel : String)
  deriving DecidableEq, Repr

/-- Classify a pair of names whose top models are known. -/
def classifyModels (names : CollisionNames) (first second firstModel secondModel : String) :
    Except MetricError ContactClassification :=
  if (firstModel = names.robotModel && !names.robotNames.contains first) ||
      (secondModel = names.robotModel && !names.robotNames.contains second) then
    unavailable "contact references an unknown rendered robot collision"
  else
    let firstRobot := names.robotNames.contains first
    let secondRobot := names.robotNames.contains second
    if firstRobot && secondRobot then .ok (.excluded .robotInternal)
    else if !firstRobot && !secondRobot then
      unavailable "manifest-v3 contact snapshot contains a non-robot pair"
    else
      let robotCollision := if firstRobot then first else second
      let counterpartCollision := if firstRobot then second else first
      if names.supportPairs.contains (robotCollision, counterpartCollision) then
        .ok (.excluded .allowlistedSupportContact)
      else do
        let counterpartModel ← topModel counterpartCollision
        if counterpartModel = "" || counterpartModel = names.robotModel then
          unavailable "contact counterpart cannot be resolved"
        else .ok (.counted robotCollision counterpartCollision counterpartModel)

def classifyContactPairResolved (names : CollisionNames) (collision1 collision2 : PyValue) :
    Except MetricError ContactClassification :=
  match collision1.asText, collision2.asText with
  | some first, some second => do
      let firstModel ← topModel first
      let secondModel ← topModel second
      classifyModels names first second firstModel secondModel
  | _, _ => unavailable "contact collision names must be strings"

variable {F64 : Type}

/-- What a snapshot has of one counterpart model. -/
structure SnapshotGroup (F64 : Type) where
  maximumDeliveredSnapshotNormalForceN : Option F64 := none
  maximumDeliveredSnapshotPenetrationDepthM : Option F64 := none
  pairs : List (String × String) := []
  recordCount : Nat := 0

/-- The groups of a snapshot by counterpart model, and the contacts that are not counted. -/
structure Grouped (F64 : Type) where
  groups : Dict String (SnapshotGroup F64) := {}
  exclusions : ExclusionReason → Nat

section Grouping

variable [PyFloat F64]

open PyFloat

/-- A number that is absent, or finite and not negative. -/
def nonnegativeValue (value : PyValue) (name text : String) : Except MetricError (Option F64) :=
  match value with
  | .none => .ok none
  | value => do
      let x ← requireFinite value name
      if lt x zero then unavailable text else .ok (some x)

/-- The greater of a number that may be absent and one that was recorded. -/
def updateMaximum (value recorded : Option F64) : Option F64 :=
  match value with
  | none => recorded
  | some x => some (pyMax x (orZero recorded))

def contactKeys : List String :=
  ["collision1", "collision2", "maximum_normal_force_n", "maximum_penetration_depth_m"]

/-- Add a counted record to the group of its counterpart. -/
def addRecord (group : SnapshotGroup F64) (pair : String × String) (contact : Evidence) :
    Except MetricError (SnapshotGroup F64) := do
  let depth ← nonnegativeValue (PyValue.item "maximum_penetration_depth_m" contact)
    "contact.maximum_penetration_depth_m" "contact depth cannot be negative"
  let force ← nonnegativeValue (PyValue.item "maximum_normal_force_n" contact)
    "contact.maximum_normal_force_n" "contact force cannot be negative"
  .ok {
    maximumDeliveredSnapshotNormalForceN :=
      updateMaximum force group.maximumDeliveredSnapshotNormalForceN
    maximumDeliveredSnapshotPenetrationDepthM :=
      updateMaximum depth group.maximumDeliveredSnapshotPenetrationDepthM
    pairs := group.pairs.insert pair
    recordCount := group.recordCount + 1 }

def groupContact (names : CollisionNames) (messageIndex : Nat) (grouped : Grouped F64)
    (entry : PyValue × Nat) : Except MetricError (Grouped F64) :=
  let (contact, contactIndex) := entry
  match contact.asMapping.filter (PyValue.hasKeys contactKeys) with
  | none =>
      unavailable ("messages[" ++ toString messageIndex ++ "].contacts[" ++ toString contactIndex ++
        "] is not a v3 snapshot record")
  | some contact => do
      let classification ← classifyContactPairResolved names (PyValue.item "collision1" contact)
        (PyValue.item "collision2" contact)
      match classification with
      | .excluded reason =>
          .ok { grouped with
            exclusions := Function.update grouped.exclusions reason
              (grouped.exclusions reason + 1) }
      | .counted robotCollision counterpartCollision counterpartModel => do
          let group ← addRecord ((grouped.groups.get? counterpartModel).getD {})
            (robotCollision, counterpartCollision) contact
          .ok { grouped with groups := grouped.groups.set counterpartModel group }

end Grouping

/-! ### Episodes -/

/-- An episode of contact with a counterpart model. -/
structure ContactEvent (F64 : Type) where
  counterpartModel : String
  lastSnapshotStampNs : Int
  maximumDeliveredSnapshotNormalForceN : Option F64
  maximumDeliveredSnapshotPenetrationDepthM : Option F64
  pairs : List (String × String)
  postTerminalSampledSnapshotRecordCount : Nat
  sampledSnapshotRecordCount : Nat
  startStampNs : Int

structure ClosedContactEvent (F64 : Type) extends ContactEvent F64 where
  endStampNs : Int
  durationS : F64
  censoredAtDrain : Bool

/-- The variables of the loop over the snapshots. -/
structure CollisionLoop (F64 : Type) where
  active : Dict String (ContactEvent F64) := {}
  events : List (ClosedContactEvent F64) := []
  exclusions : ExclusionReason → Nat := fun _ => 0
  preActionSnapshotRecords : Nat := 0
  postTerminalSnapshotRecords : Nat := 0
  previousSequence : Int := 0
  previousStamp : Option Int := none
  maximumPublicGapNs : Int := 0
  snapshotContactRecordCount : Nat := 0
  publicSnapshotCount : Nat := 0
  inActionSnapshotCount : Nat := 0
  drainSnapshotObserved : Bool := false
  latestSnapshotAtOrBeforeStart : Option Int := none

namespace CollisionLoop

variable [PyFloat F64]

/-- Close an episode at a stamp. -/
def closeEvent (loop : CollisionLoop F64) (event : ContactEvent F64) (stamp : Int)
    (censored : Bool) : Except MetricError (CollisionLoop F64) := do
  let duration ← seconds (stamp - event.startStampNs)
  .ok { loop with
    events := loop.events ++ [{ event with
      endStampNs := stamp, durationS := duration, censoredAtDrain := censored }] }

def closeAbsent (stamp : Int) (loop : CollisionLoop F64) (counterpart : String) :
    Except MetricError (CollisionLoop F64) :=
  match loop.active.get? counterpart with
  | none => .ok loop
  | some event =>
      { loop with active := loop.active.erase counterpart }.closeEvent event stamp false

/-- A new episode, or the open one with the group of the snapshot. -/
def extendEvent (open? : Option (ContactEvent F64)) (stamp : Int) (counterpart : String)
    (group : SnapshotGroup F64) : ContactEvent F64 :=
  match open? with
  | none =>
      { counterpartModel := counterpart
        lastSnapshotStampNs := stamp
        maximumDeliveredSnapshotNormalForceN := group.maximumDeliveredSnapshotNormalForceN
        maximumDeliveredSnapshotPenetrationDepthM := group.maximumDeliveredSnapshotPenetrationDepthM
        pairs := group.pairs
        postTerminalSampledSnapshotRecordCount := 0
        sampledSnapshotRecordCount := group.recordCount
        startStampNs := stamp }
  | some event =>
      { event with
        lastSnapshotStampNs := stamp
        pairs := event.pairs.union group.pairs
        sampledSnapshotRecordCount := event.sampledSnapshotRecordCount + group.recordCount
        maximumDeliveredSnapshotNormalForceN :=
          updateMaximum group.maximumDeliveredSnapshotNormalForceN
            event.maximumDeliveredSnapshotNormalForceN
        maximumDeliveredSnapshotPenetrationDepthM :=
          updateMaximum group.maximumDeliveredSnapshotPenetrationDepthM
            event.maximumDeliveredSnapshotPenetrationDepthM }

def countPostTerminal (event : ContactEvent F64) (stamp terminal : Int) (records : Nat) :
    ContactEvent F64 :=
  if stamp > terminal then
    { event with
      postTerminalSampledSnapshotRecordCount :=
        event.postTerminalSampledSnapshotRecordCount + records }
  else event

/-- Open or extend the episode of a group. After the terminal stamp no episode is opened. -/
def applyGroup (terminal stamp : Int) (loop : CollisionLoop F64)
    (entry : String × SnapshotGroup F64) : CollisionLoop F64 :=
  let (counterpart, group) := entry
  if stamp > terminal && (loop.active.get? counterpart).isNone then
    { loop with
      postTerminalSnapshotRecords := loop.postTerminalSnapshotRecords + group.recordCount }
  else
    let event := extendEvent (loop.active.get? counterpart) stamp counterpart group
    { loop with
      active := loop.active.set counterpart
        (countPostTerminal event stamp terminal group.recordCount) }

/-- The gap to the snapshot before, which must come before and be close. -/
def checkGap (loop : CollisionLoop F64) (stamp : Int) : Except MetricError Int :=
  match loop.previousStamp with
  | none => .ok loop.maximumPublicGapNs
  | some previous =>
      if stamp ≤ previous then
        unavailable "authoritative contact snapshot stamps are not strictly increasing"
      else if stamp - previous > MAX_CONTACT_SNAPSHOT_GAP_NS then
        unavailable "authoritative contact snapshot gap exceeded 220 ms"
      else .ok (max loop.maximumPublicGapNs (stamp - previous))

/-- The checks on a snapshot before its contacts are read: its stamp, its contacts, and the loop
with the counters that concern all snapshots. -/
def checkSnapshot (loop : CollisionLoop F64) (start drain : Int) (index : Nat)
    (message : Evidence) :
    Except MetricError (Int × List PyValue × CollisionLoop F64) := do
  let stamp ← requireInt (PyValue.item "stamp_ns" message)
    ("messages[" ++ toString index ++ "].stamp_ns")
  let sequence ← requireInt (PyValue.item "collector_sequence" message)
    ("messages[" ++ toString index ++ "].collector_sequence")
  if stamp ≤ 0 || sequence ≤ loop.previousSequence then
    unavailable "contact snapshot collector ordering is invalid"
  else do
    let maximumGap ← loop.checkGap stamp
    if !(PyValue.item "frame_id" message).equalsText "" then
      unavailable "authoritative contact snapshot frame_id must be empty"
    else do
      let deliveryClockStamp ← requireInt (PyValue.item "delivery_clock_stamp_ns" message)
        ("messages[" ++ toString index ++ "].delivery_clock_stamp_ns")
      let deliveryClockOffset ← requireInt (PyValue.item "delivery_clock_offset_ns" message)
        ("messages[" ++ toString index ++ "].delivery_clock_offset_ns")
      if deliveryClockStamp - stamp ≠ deliveryClockOffset then
        unavailable "authoritative contact snapshot delivery clock offset is inconsistent"
      else
        match PyValue.item "contacts" message with
        | .list contacts =>
            if contacts.length < 1 || contacts.length > 16 then
              unavailable "authoritative contact snapshot must contain between one and 16 records"
            else if loop.snapshotContactRecordCount + contacts.length > CONTACT_RECORD_CAPACITY then
              unavailable "normalized contact snapshot record capacity exceeded"
            else
              .ok (stamp, contacts, { loop with
                previousSequence := sequence
                previousStamp := some stamp
                maximumPublicGapNs := maximumGap
                publicSnapshotCount := loop.publicSnapshotCount + 1
                snapshotContactRecordCount := loop.snapshotContactRecordCount + contacts.length
                drainSnapshotObserved := loop.drainSnapshotObserved || stamp = drain
                latestSnapshotAtOrBeforeStart :=
                  if stamp ≤ start then some stamp else loop.latestSnapshotAtOrBeforeStart })
        | _ => unavailable "authoritative contact snapshot must contain between one and 16 records"

/-- The effect of the groups of a snapshot on the episodes. -/
def applyGroups (loop : CollisionLoop F64) (start terminal stamp : Int)
    (groups : Dict String (SnapshotGroup F64)) : Except MetricError (CollisionLoop F64) := do
  let absent := (loop.active.keys.filter fun key => (groups.get? key).isNone).mergeSort
  let loop ← absent.foldlM (closeAbsent stamp) loop
  let loop := if stamp < start then
      { loop with
        preActionSnapshotRecords :=
          loop.preActionSnapshotRecords + (groups.values.map (·.recordCount)).sum }
    else loop
  .ok (groups.items.foldl (applyGroup terminal stamp) loop)

/-- One snapshot. -/
def observe (names : CollisionNames) (start terminal drain : Int) (loop : CollisionLoop F64)
    (entry : Evidence × Nat) : Except MetricError (CollisionLoop F64) := do
  let (message, index) := entry
  let (stamp, contacts, loop) ← loop.checkSnapshot start drain index message
  if stamp > drain then .ok loop
  else do
    let loop := if start ≤ stamp && stamp ≤ terminal then
        { loop with inActionSnapshotCount := loop.inActionSnapshotCount + 1 }
      else loop
    let grouped ← contacts.zipIdx.foldlM (groupContact names index)
      { exclusions := loop.exclusions }
    { loop with exclusions := grouped.exclusions }.applyGroups start terminal stamp grouped.groups

/-- Close the episodes that are open at the drain. -/
def closeActive (loop : CollisionLoop F64) (drain : Int) : Except MetricError (CollisionLoop F64) :=
  loop.active.values.foldlM (fun loop event => loop.closeEvent event drain true) loop

end CollisionLoop

/-! ### The analysis -/

structure CollisionAnalysis (F64 Q : Type) where
  collisionCount : Nat
  drainCompletedStampNs : Int
  events : List (ClosedContactEvent F64)
  excludedContactCounts : List (ExclusionReason × Nat)
  inActionSnapshotCount : Nat
  maximumPublicSnapshotGapNs : Int
  postTerminalSnapshotRecordCount : Nat
  preActionSnapshotRecordCount : Nat
  publicSnapshotCount : Nat
  qualification : Q
  qualifyingContactSnapshotStampNs : Int
  requiredDrainStampNs : Int
  snapshotContactRecordCount : Nat

/-- The order of the events: by stamp, then by counterpart. -/
def contactEventOrder (a b : ClosedContactEvent F64) : Bool :=
  a.startStampNs < b.startStampNs ||
    (a.startStampNs = b.startStampNs && a.counterpartModel ≤ b.counterpartModel)

/-- The order of pairs of texts. -/
def pairOrder (p q : String × String) : Bool :=
  p.1 < q.1 || (p.1 = q.1 && p.2 ≤ q.2)

/-- The events that start during the action, in order and with their pairs in order. -/
def normalizedEvents (events : List (ClosedContactEvent F64)) (start terminal : Int) :
    List (ClosedContactEvent F64) :=
  ((events.mergeSort contactEventOrder).filter fun event =>
    !(event.startStampNs < start || event.startStampNs > terminal)).map fun event =>
      { event with pairs := event.pairs.mergeSort pairOrder }

/-- The items of the counter, in order of their texts. -/
def excludedContactCounts (exclusions : ExclusionReason → Nat) : List (ExclusionReason × Nat) :=
  ([.allowlistedSupportContact, .robotInternal].map fun reason =>
    (reason, exclusions reason)).filter fun item => item.2 ≠ 0

/-- The checks after the last snapshot. -/
def checkCoverage (loop : CollisionLoop F64) (start : Int) : Except MetricError Unit :=
  if !loop.drainSnapshotObserved then
    unavailable "capture does not contain the exact qualifying drain snapshot"
  else if loop.latestSnapshotAtOrBeforeStart.all fun latest =>
      start - latest > MAX_CONTACT_SNAPSHOT_GAP_NS then
    unavailable "accepted-goal T0 lacks a fresh authoritative snapshot at or before T0"
  else if loop.inActionSnapshotCount = 0 then
    unavailable "contact snapshot stream is silent during the mission interval"
  else .ok ()

/-- The stamps of the mission and of the drain, in order. -/
def checkStamps (start terminal drain releaseGapNs : Int) : Except MetricError Unit :=
  if terminal ≤ start then
    unavailable "terminal action stamp must be after accepted goal stamp"
  else if releaseGapNs ≤ 0 then .error (.value "release_gap_ns must be positive")
  else if drain ≤ terminal + releaseGapNs then
    unavailable "contact terminal drain lacks a snapshot strictly beyond terminal + release gap"
  else .ok ()

/-- `analyze_collisions`, given what the qualification and the manifest resolve to. -/
def analyzeCollisions [PyFloat F64] {Q : Type} (qualification : Except MetricError Q)
    (names : Except MetricError CollisionNames) (messages : List Evidence)
    (acceptedGoalStampNs terminalActionStampNs drainCompletedStampNs : PyValue)
    (releaseGapNs : Int := CONTACT_RELEASE_GAP_NS) :
    Except MetricError (CollisionAnalysis F64 Q) := do
  let qualification ← qualification
  let names ← names
  let start ← requireInt acceptedGoalStampNs "accepted_goal_stamp_ns"
  let terminal ← requireInt terminalActionStampNs "terminal_action_stamp_ns"
  let drain ← requireInt drainCompletedStampNs "drain_completed_stamp_ns"
  checkStamps start terminal drain releaseGapNs
  let loop ← messages.zipIdx.foldlM (CollisionLoop.observe names start terminal drain) {}
  checkCoverage loop start
  let loop ← loop.closeActive drain
  let events := normalizedEvents loop.events start terminal
  .ok {
    collisionCount := events.length
    drainCompletedStampNs := drain
    events
    excludedContactCounts := excludedContactCounts loop.exclusions
    inActionSnapshotCount := loop.inActionSnapshotCount
    maximumPublicSnapshotGapNs := loop.maximumPublicGapNs
    postTerminalSnapshotRecordCount := loop.postTerminalSnapshotRecords
    preActionSnapshotRecordCount := loop.preActionSnapshotRecords
    publicSnapshotCount := loop.publicSnapshotCount
    qualification
    qualifyingContactSnapshotStampNs := drain
    requiredDrainStampNs := terminal + releaseGapNs
    snapshotContactRecordCount := loop.snapshotContactRecordCount }

end Metrics

end RobotestLab
