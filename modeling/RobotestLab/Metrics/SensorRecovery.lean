import RobotestLab.Library.Dict
import RobotestLab.Metrics.Poses
import Mathlib.Data.List.Sort

/-!
# Recovery of the sensor

`sensor_recovery_metrics` looks for the first window after the end of a dropout in which the scans
are fresh, the lifecycle nodes stay active, no collision starts and the navigation makes progress.
The windows that are examined end at the stamps of samples.
-/

namespace RobotestLab

namespace Metrics

open PyFloat PyArithmetic

def RECOVERY_WINDOW_NS : Int := 1000000000
def RECOVERY_SCAN_GAP_NS : Int := 400000000
def RECOVERY_LIFECYCLE_MARGIN_NS : Int := 200000000
def RECOVERY_PROGRESS_METRES : ℚ := 5 / 100
def RECOVERY_PROGRESS_YAW_RAD : ℚ := 10 / 100

def failureStatuses : List String :=
  ["ABORTED", "CANCELED", "INFRASTRUCTURE_ERROR", "REJECTED", "TIMED_OUT"]

/-- Why a window is rejected. -/
structure Rejection where
  node : Option String := none
  reason : String
  deriving DecidableEq, Repr

/-! ### Scans -/

structure ScanEvidence where
  maximumGapNs : Int
  sampleCount : Nat

/-- The differences of neighbours. -/
def gapsOf (stamps : List Int) : List Int :=
    stamps.zipWith (fun left right => right - left) stamps.tail

def scanWindow (stamps : List Int) (start stop maximumGapNs : Int) :
    Except Rejection ScanEvidence :=
  let beforeCount := bisectRight stamps start
  if beforeCount = 0 then .error { reason := "no_restored_scan_at_or_before_window_start" }
  else
    let relevant := (stamps.take (bisectRight stamps stop)).drop (beforeCount - 1)
    if relevant.getLast?.all fun last => maximumGapNs < stop - last then
      .error { reason := "restored_scan_is_stale_at_window_end" }
    else
      let gaps := gapsOf relevant
      if gaps.any fun gap => gap ≤ 0 || maximumGapNs < gap then
        .error { reason := "restored_scan_gap_exceeded" }
      else .ok { maximumGapNs := gaps.max?.getD 0, sampleCount := relevant.length }

/-! ### Lifecycle -/

structure Snapshots where
  endSnapshotStampNs : Int
  startSnapshotStampNs : Int

def isActive (sample : Evidence) : Bool := (PyValue.item "state" sample).equalsText "active"

/-- The snapshots of a node around the window, which is active in between. -/
def nodeWindow (samples : List Evidence) (node : String) (start stop marginNs : Int) :
    Except MetricError (Except Rejection Snapshots) := do
  let nodeSamples := samples.filter fun sample => (PyValue.item "node" sample).equalsText node
  let before ← filterStamp "lifecycle.stamp_ns" (fun t => start - marginNs ≤ t &&
    t ≤ start) nodeSamples
  let after ← filterStamp "lifecycle.stamp_ns" (fun t => stop ≤ t &&
    t ≤ stop + marginNs) nodeSamples
  let between ← filterStamp "lifecycle.stamp_ns" (fun t => start ≤ t && t ≤ stop) nodeSamples
  let missingStart := .ok (.error { node := node, reason := "missing_active_start_snapshot" })
  let missingEnd := .ok (.error { node := node, reason := "missing_active_end_snapshot" })
  match before.getLast? with
  | none => missingStart
  | some first =>
      if !isActive first then missingStart
      else
        match after.head? with
        | none => missingEnd
        | some last =>
            if !isActive last then missingEnd
            else if between.any fun sample => !isActive sample then
              .ok (.error { node := node, reason := "transitioned_away_from_active" })
            else do
              let endSnapshotStampNs ← requireInt (stampItem last) "after.stamp_ns"
              let startSnapshotStampNs ← requireInt (stampItem first) "before.stamp_ns"
              .ok (.ok ⟨endSnapshotStampNs, startSnapshotStampNs⟩)

/-- The snapshots of the nodes, with those that are known. -/
def nodesWindow (samples : List Evidence) (start stop marginNs : Int)
    (evidence : Dict String Snapshots) :
    List String → Except MetricError (Except Rejection (Dict String Snapshots))
  | [] => .ok (.ok evidence)
  | node :: nodes => do
      match ← nodeWindow samples node start stop marginNs with
      | .error rejection => .ok (.error rejection)
      | .ok snapshots => nodesWindow samples start stop marginNs (evidence.set node snapshots) nodes

def lifecycleWindow (samples : List Evidence) (requiredNodes : List String)
    (start stop marginNs : Int) : Except MetricError (Except Rejection (Dict String Snapshots)) :=
  nodesWindow samples start stop marginNs {} requiredNodes

/-! ### Collisions -/

/-- One of the events starts in the window. -/
def collisionWithin (start stop : Int) : List Evidence → Except MetricError Bool
  | [] => .ok false
  | event :: events => do
      let stamp ← requireInt (PyValue.item "start_stamp_ns" event) "collision.start_stamp_ns"
      if start ≤ stamp ∧ stamp ≤ stop then .ok true else collisionWithin start stop events

/-! ### Progress -/

inductive Progress (F64 : Type) where
  | missionSucceeded (stampNs : Int)
  | planarDisplacement (valueM : F64)
  | yawChange (valueRad : F64)
  | waypointAdvance (source target : Int)

section Progress

variable {F64 : Type} [PyArithmetic F64]

def terminalProgress (missionTerminal : Option Evidence) (stop : Int) :
    Except MetricError (Option (Progress F64)) :=
  match missionTerminal with
  | none => .ok none
  | some terminal => do
      let stamp ← requireInt (stampItem terminal) "mission_terminal.stamp_ns"
      if (PyValue.item "status" terminal).equalsText "SUCCEEDED" && stamp ≤ stop then
        .ok (some (.missionSucceeded stamp))
      else .ok none

/-- The robot is elsewhere, or it turned. -/
def poseProgress (groundTruth : List Evidence) (start stop : Int) :
    Except MetricError (Option (Progress F64)) := do
  let first : InterpolatedPose F64 ← interpolatePose groundTruth start ALIGNMENT_GAP_NS
  let last : InterpolatedPose F64 ← interpolatePose groundTruth stop ALIGNMENT_GAP_NS
  let displacement ← planarDistance first.toPlanarPose last.toPlanarPose
  let yawDelta ← normalizeAngle (sub (last.yaw.getD zero) (first.yaw.getD zero))
  if le (literal RECOVERY_PROGRESS_METRES) displacement then
    .ok (some (.planarDisplacement displacement))
  else if le (literal RECOVERY_PROGRESS_YAW_RAD) (abs yawDelta) then
    .ok (some (.yawChange (abs yawDelta)))
  else .ok none

/-- Evidence that is not available shows nothing. -/
def whenAvailable {α : Type} : Except MetricError (Option α) → Except MetricError (Option α)
  | .error (.unavailable _) => .ok none
  | result => result

def previousWaypoint (sample : Evidence) : PyValue :=
  match PyValue.item "previous_waypoint" sample with
  | .none => PyValue.item "previous_value" sample
  | previous => previous

def currentWaypoint (sample : Evidence) : Except MetricError Int :=
  requireInt (PyValue.item "current_waypoint" sample) "feedback.current_waypoint"

/-- The first sample that says it is an advance. -/
def reportedAdvance : List Evidence → Except MetricError (Option (Progress F64))
  | [] => .ok none
  | sample :: samples => do
      let current ← currentWaypoint sample
      match previousWaypoint sample with
      | .none => reportedAdvance samples
      | previous => do
          let prior ← requireInt previous "feedback.previous_waypoint"
          if prior < current then .ok (some (.waypointAdvance prior current))
          else reportedAdvance samples

/-- The samples have different waypoints. -/
def observedAdvance (transitions : List Evidence) : Except MetricError (Option (Progress F64)) := do
  let indices ← transitions.mapM currentWaypoint
  match indices.max?, indices.min? with
  | some largest, some least =>
      if least < largest then .ok (some (.waypointAdvance least largest)) else .ok none
  | _, _ => .ok none

def feedbackProgress (feedback : List Evidence) (start stop : Int) :
    Except MetricError (Option (Progress F64)) := do
  let transitions ← filterStamp "feedback.stamp_ns" (fun t => start ≤ t && t ≤ stop) feedback
  match ← reportedAdvance transitions with
  | some progress => .ok (some progress)
  | none => observedAdvance transitions

def progressWindow (groundTruth feedback : List Evidence) (missionTerminal : Option Evidence)
    (start stop : Int) : Except MetricError (Except Rejection (Progress F64)) := do
  match ← terminalProgress missionTerminal stop with
  | some progress => .ok (.ok progress)
  | none =>
      match ← whenAvailable (poseProgress groundTruth start stop) with
      | some progress => .ok (.ok progress)
      | none =>
          match ← feedbackProgress feedback start stop with
          | some progress => .ok (.ok progress)
          | none => .ok (.error { reason := "no_navigation_progress" })

end Progress

/-! ### The metric -/

structure RecoveryEvidence where
  validatedScans : List Evidence
  lifecycleSamples : List Evidence
  requiredLifecycleNodes : List String
  groundTruth : List Evidence
  feedback : List Evidence
  collisionEvents : List Evidence
  missionTerminal : Option Evidence

structure RecoveryTiming where
  windowNs : Int := RECOVERY_WINDOW_NS
  maximumScanGapNs : Int := RECOVERY_SCAN_GAP_NS
  lifecycleMarginNs : Int := RECOVERY_LIFECYCLE_MARGIN_NS

structure WindowEvidence (F64 : Type) where
  lifecycleEvidence : Dict String Snapshots
  progress : Progress F64
  scanEvidence : ScanEvidence

structure SensorRecovery (F64 : Type) extends WindowEvidence F64 where
  recoveredStampNs : Int
  rejectedCandidateCount : Nat
  rejectedCandidates : List (Int × Rejection)
  sensorRecoveryTimeSimS : F64
  windowEndStampNs : Int
  windowStartStampNs : Int

/-- `_strict_stamps`, from a previous stamp on. -/
def strictStamps (name : String) (previous : Option Int) (index : Nat) :
    List Evidence → Except MetricError (List Int)
  | [] => .ok []
  | sample :: samples => do
      let stamp ← requireInt (stampItem sample) (name ++ "[" ++ toString index ++ "].stamp_ns")
      if previous.any (stamp ≤ ·) then unavailable (name ++ " stamps must be unique and increasing")
      else do
        let stamps ← strictStamps name (some stamp) (index + 1) samples
        .ok (stamp :: stamps)

def orderedCallbackSamples (samples : List Evidence) (name : String) : Except MetricError Unit :=
  orderedFrom name " is not in deterministic callback order" none 0 samples

/-- The waypoints do not regress, from a previous one on. -/
def checkWaypoints (last : Option Int) : List Evidence → Except MetricError Unit
  | [] => .ok ()
  | sample :: samples => do
      let current ← currentWaypoint sample
      if last.any (current < ·) then unavailable "feedback waypoint index regressed"
      else checkWaypoints (some current) samples

section Search

variable (F64 : Type) [PyArithmetic F64]

/-- Examine a window. -/
def examineWindow (evidence : RecoveryEvidence) (timing : RecoveryTiming) (restored : List Int)
    (stop : Int) : Except MetricError (Except Rejection (WindowEvidence F64)) :=
  let start := stop - timing.windowNs
  match scanWindow restored start stop timing.maximumScanGapNs with
  | .error rejection => .ok (.error rejection)
  | .ok scanEvidence => do
      match ← lifecycleWindow evidence.lifecycleSamples evidence.requiredLifecycleNodes start stop
          timing.lifecycleMarginNs with
      | .error rejection => .ok (.error rejection)
      | .ok lifecycleEvidence =>
          if ← collisionWithin start stop evidence.collisionEvents then
            .ok (.error { reason := "collision_in_window" })
          else
            match ← progressWindow evidence.groundTruth evidence.feedback evidence.missionTerminal
              start stop with
            | .error rejection => .ok (.error rejection)
            | .ok progress => .ok (.ok ⟨lifecycleEvidence, progress, scanEvidence⟩)

/-- The first window that is accepted, given those that were rejected. -/
def firstWindow (evidence : RecoveryEvidence) (timing : RecoveryTiming) (deactivation : Int)
    (restored : List Int) (rejected : List (Int × Rejection)) :
    List Int → Except MetricError (SensorRecovery F64)
  | [] => unavailable "no qualifying sensor-recovery window"
  | stop :: stops => do
      match ← examineWindow F64 evidence timing restored stop with
      | .error rejection =>
          firstWindow evidence timing deactivation restored (rejected ++ [(stop, rejection)]) stops
      | .ok window => do
          let time ← seconds (stop - deactivation)
          .ok {
            toWindowEvidence := window
            recoveredStampNs := stop
            rejectedCandidateCount := rejected.length
            rejectedCandidates := rejected
            sensorRecoveryTimeSimS := time
            windowEndStampNs := stop
            windowStartStampNs := stop - timing.windowNs }

/-- The stamps of the samples that are not before the first end. -/
def laterStamps (first : Int) (samples : List Evidence) : Except MetricError (List Int) := do
  let stamps ← samples.mapM fun sample => requireInt (stampItem sample) "candidate.stamp_ns"
  .ok (stamps.filter (first ≤ ·))

def terminalStamps (first : Int) : Option Evidence → Except MetricError (List Int)
  | none => .ok []
  | some terminal => do
      let stamp ← requireInt (stampItem terminal) "mission_terminal.stamp_ns"
      .ok (if first ≤ stamp then [stamp] else [])

/-- The ends of the windows to examine, in order. -/
def candidateEnds (evidence : RecoveryEvidence) (first : Int) : Except MetricError (List Int) := do
  let scans ← laterStamps first evidence.validatedScans
  let poses ← laterStamps first evidence.groundTruth
  let feedback ← laterStamps first evidence.feedback
  let lifecycle ← laterStamps first evidence.lifecycleSamples
  let terminal ← terminalStamps first evidence.missionTerminal
  .ok ((first :: scans ++ poses ++ feedback ++ lifecycle ++ terminal).dedup.insertionSort (· ≤ ·))

/-- The mission failed in the end. -/
def hasFailed (missionTerminal : Option Evidence) : Bool :=
  missionTerminal.any fun terminal =>
    failureStatuses.any fun status => (PyValue.item "status" terminal).equalsText status

def sensorRecoveryMetrics (actualDeactivationStampNs : PyValue) (evidence : RecoveryEvidence)
    (timing : RecoveryTiming) : Except MetricError (SensorRecovery F64) := do
  let deactivation ← requireInt actualDeactivationStampNs "actual_deactivation_stamp_ns"
  if timing.windowNs ≤ 0 ∨ timing.maximumScanGapNs ≤ 0 ∨ timing.lifecycleMarginNs < 0 then
    .error (.value "recovery timing parameters are invalid")
  else if evidence.requiredLifecycleNodes.isEmpty then
    unavailable "required lifecycle node set is empty"
  else if hasFailed evidence.missionTerminal then unavailable "bound mission eventually failed"
  else
    orderedCallbackSamples evidence.lifecycleSamples "lifecycle_samples"
    orderedCallbackSamples evidence.feedback "feedback"
    checkWaypoints none evidence.feedback
    let scanStamps ← strictStamps "validated_scans" none 0 evidence.validatedScans
    let restored := scanStamps.filter (deactivation ≤ ·)
    if restored.isEmpty then unavailable "no restored validated scans exist"
    else
      let ends ← candidateEnds evidence (deactivation + timing.windowNs)
      firstWindow F64 evidence timing deactivation restored [] ends

end Search

end Metrics

end RobotestLab
