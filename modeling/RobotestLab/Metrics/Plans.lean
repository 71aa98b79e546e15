import RobotestLab.Library.Segments
import RobotestLab.Metrics.Poses
import Mathlib.Data.Prod.Lex

/-!
# Plans

The analysis of the plans of a run. A plan is compared with the waypoint of the leg it was published
in, and the legs are cut by the feedback that moves to the next waypoint. A plan with the geometry
of the plan before it in its leg is a republication.
-/

namespace RobotestLab

namespace Metrics

open PyFloat PyArithmetic

/-- The operations on floating-point numbers that the analysis of plans uses besides. -/
class PyPathArithmetic (F64 : Type) extends PyArithmetic F64 where
  /-- `math.floor`. -/
  floor : F64 → Int
  /-- `sum` of floating-point numbers. -/
  sum : List F64 → F64

open PyPathArithmetic

def PATH_LENGTH_EPSILON_M : ℚ := 1 / 1000000

def PLAN_GOAL_TOLERANCE_M : ℚ := 5 / 100

def MICROMETRES_PER_METRE : ℚ := 1000000

def INT64_MAX : Int := 2 ^ 63 - 1

def INT64_MIN : Int := -2 ^ 63

def TERMINAL_SEQUENCE : Int := 2 ^ 63 - 1

def PLAN_HASH_VERSION : List UInt8 := "robotest-plan-geometry-v1".toUTF8.toList ++ [0]

/-! ### The length of a plan -/

/-- The mapping that a method `get` is called on. -/
def mappingOf (value : PyValue) : Except MetricError Evidence :=
  match value.asMapping with
  | some items => .ok items
  | none => .error .attribute

section Plan

variable {F64 : Type} [PyPathArithmetic F64]

/-- The poses of a plan, the first of which has the given index. -/
def planPoses (index : Nat) : List PyValue → Except MetricError (List (PlanarPose F64))
  | [] => .ok []
  | pose :: poses => do
      let items ← mappingOf pose
      let pose ← poseOf items ("poses[" ++ toString index ++ "]")
      let rest ← planPoses (index + 1) poses
      .ok (pose :: rest)

/-- The distances between the pairs of consecutive poses. -/
def pairwiseDistances : List (PlanarPose F64) → Except MetricError (List F64)
  | first :: second :: poses => do
      let distance ← planarDistance first second
      let rest ← pairwiseDistances (second :: poses)
      .ok (distance :: rest)
  | _ => .ok []

def planLengthM (poses : List PyValue) : Except MetricError F64 :=
  if poses.length < 2 then unavailable "a valid plan requires at least two poses"
  else do
    let normalized : List (PlanarPose F64) ← planPoses 0 poses
    let distances ← pairwiseDistances normalized
    let length := sum distances
    if le length (literal PATH_LENGTH_EPSILON_M) then
      unavailable "plan length is not above path_length_epsilon_m"
    else .ok length

/-! ### The geometry of a plan -/

/-- Signed micrometres, half away from zero. -/
def quantizeMicrometres (F64 : Type) [PyPathArithmetic F64] (valueM : PyValue) :
    Except MetricError Int := do
  let value : F64 ← requireFinite valueM "plan coordinate"
  if PyFloat.isZero value then .ok 0
  else
    let scaled := mul (abs value) (literal MICROMETRES_PER_METRE)
    if !isFinite scaled then unavailable "quantized plan coordinate does not fit signed int64"
    else
      let magnitude := floor (add scaled (literal (1 / 2)))
      let result := if lt zero value then magnitude else -magnitude
      if INT64_MIN ≤ result ∧ result ≤ INT64_MAX then .ok result
      else unavailable "quantized plan coordinate does not fit signed int64"

/-- The quantized points, without those that are equal to the point before them. -/
def canonicalPoints (F64 : Type) [PyPathArithmetic F64] (previous : Option (Int × Int))
    (index : Nat) : List PyValue → Except MetricError (List (Int × Int))
  | [] => .ok []
  | pose :: poses => do
      let items ← mappingOf pose
      let x ← quantizeMicrometres F64 (PyValue.item "x_m" items)
      let y ← quantizeMicrometres F64 (PyValue.item "y_m" items)
      if INT64_MAX ≤ index then unavailable "plan pose count exceeds uint64"
      else do
        let rest ← canonicalPoints F64 (some (x, y)) (index + 1) poses
        .ok (if previous = some (x, y) then rest else (x, y) :: rest)

def canonicalPlanPoints (F64 : Type) [PyPathArithmetic F64] (poses : List PyValue) :
    Except MetricError (List (Int × Int)) :=
  canonicalPoints F64 none 0 poses

/-- A number in network byte order. -/
def networkBytes (width : Nat) (n : Nat) : List UInt8 :=
  (List.range width).map fun i => UInt8.ofNat (n / 256 ^ (width - 1 - i))

/-- The bytes that are hashed for the points. -/
def geometryBytes (frame : List UInt8) (points : List (Int × Int)) : List UInt8 :=
  PLAN_HASH_VERSION ++ networkBytes 4 frame.length ++ frame ++ networkBytes 8 points.length ++
    points.flatMap fun point =>
      networkBytes 8 (point.1 % 2 ^ 64).toNat ++ networkBytes 8 (point.2 % 2 ^ 64).toNat

/-- The bytes of the text, whose method `encode` is called. -/
def encodeOf (value : PyValue) : Except MetricError (List UInt8) :=
  match value.asText with
  | some text => .ok text.toUTF8.toList
  | none => .error .attribute

/-- The hash of the geometry, with the hexadecimal digest of SHA-256. -/
def planGeometryHash (F64 : Type) [PyPathArithmetic F64] (sha256 : List UInt8 → String)
    (frameId : PyValue) (poses : List PyValue) : Except MetricError String :=
  if !frameId.equalsText "map" then unavailable "plan frame_id must be map"
  else do
    let frame ← encodeOf frameId
    if 2 ^ 32 - 1 < frame.length then unavailable "plan frame_id is too long"
    else do
      let points ← canonicalPlanPoints F64 poses
      .ok (sha256 (geometryBytes frame points))

end Plan

/-! ### Order -/

/-- The stamp and the collector sequence of a sample. -/
def eventOrder (name : String) (index : Nat) (sample : Evidence) :
    Except MetricError (Int ×ₗ Int) := do
  let order ← collectorOrder name index sample
  .ok (toLex order)

def stampOfOrder (order : Int ×ₗ Int) : Int := (ofLex order).1

def sequenceOfOrder (order : Int ×ₗ Int) : Int := (ofLex order).2

/-! ### Feedback -/

/-- The first feedback with a waypoint. -/
structure Transition where
  collectorSequence : Int
  currentWaypoint : Int
  stampNs : Int
  deriving DecidableEq, Repr

def Transition.order (transition : Transition) : Int ×ₗ Int :=
  toLex (transition.stampNs, transition.collectorSequence)

/-- The transitions of the feedback from a position on, after the last waypoint. -/
def transitionsFrom (waypointCount : Nat) (start stop : Int) (previous : Option (Int ×ₗ Int))
    (lastIndex : Option Int) (position : Nat) :
    List Evidence → Except MetricError (List Transition)
  | [] =>
      if lastIndex ≠ some ((waypointCount : Int) - 1) then
        unavailable "feedback does not establish every waypoint leg"
      else .ok []
  | sample :: feedback => do
      let order ← eventOrder "feedback" position sample
      if previous.any (order ≤ ·) then
        unavailable "feedback is not in deterministic collector order"
      else if stampOfOrder order < start ∨ stop < stampOfOrder order then
        transitionsFrom waypointCount start stop (some order) lastIndex (position + 1) feedback
      else do
        let waypointIndex ← requireInt (PyValue.item "current_waypoint" sample)
          ("feedback[" ++ toString position ++ "].current_waypoint")
        let transition : Transition :=
          ⟨sequenceOfOrder order, waypointIndex, stampOfOrder order⟩
        if ¬ (0 ≤ waypointIndex ∧ waypointIndex < waypointCount) then
          unavailable "feedback waypoint index is out of range"
        else match lastIndex with
        | none =>
            if waypointIndex ≠ 0 then unavailable "feedback must begin at waypoint zero"
            else do
              let rest ← transitionsFrom waypointCount start stop (some order) (some waypointIndex)
                (position + 1) feedback
              .ok (transition :: rest)
        | some last =>
            if waypointIndex = last then
              transitionsFrom waypointCount start stop (some order) (some last) (position + 1)
                feedback
            else if waypointIndex ≠ last + 1 then
              unavailable "feedback waypoint index regressed or skipped"
            else do
              let rest ← transitionsFrom waypointCount start stop (some order) (some waypointIndex)
                (position + 1) feedback
              .ok (transition :: rest)

def feedbackTransitions (feedback : List Evidence) (waypointCount : Nat) (start stop : Int) :
    Except MetricError (List Transition) :=
  if waypointCount = 0 then unavailable "waypoint list is empty"
  else transitionsFrom waypointCount start stop none none 0 feedback

/-! ### Waypoints -/

section Waypoints

variable {F64 : Type} [PyPathArithmetic F64]

def isNumber : PyValue → Bool
  | .int _ => true
  | .float _ => true
  | _ => false

/-- A coordinate of a configured waypoint. -/
def waypointCoordinate (index : Nat) (name : String) (waypoint : Evidence) :
    Except MetricError F64 :=
  let path := "waypoints[" ++ toString index ++ "]." ++ name
  if !isNumber (PyValue.item name waypoint) then unavailable (path ++ " must be a finite number")
  else requireFinite (PyValue.item name waypoint) path

/-- The configured waypoints, the first of which has the given index. -/
def normalizeWaypoints (index : Nat) : List PyValue → Except MetricError (List (PlanarPose F64))
  | [] => .ok []
  | waypoint :: waypoints =>
      match waypoint.asMapping.filter (PyValue.hasKeys ["x", "y", "yaw"]) with
      | none =>
          unavailable ("waypoints[" ++ toString index ++ "] must contain exactly x, y, and yaw")
      | some items => do
          let x ← waypointCoordinate index "x" items
          let y ← waypointCoordinate index "y" items
          let yaw ← waypointCoordinate index "yaw" items
          let rest ← normalizeWaypoints (index + 1) waypoints
          .ok (⟨x, y, some yaw⟩ :: rest)

def normalizeConfiguredWaypoints (waypoints : List PyValue) :
    Except MetricError (List (PlanarPose F64)) :=
  normalizeWaypoints 0 waypoints

end Waypoints

/-! ### Assignment of the plans -/

/-- Why a plan is not used. -/
inductive DiagnosticReason where
  | outsideActionInterval
  | noFeedbackLeg
  | rejected (text : String)
  deriving DecidableEq, Repr

def DiagnosticReason.text : DiagnosticReason → String
  | outsideActionInterval => "outside_action_interval"
  | noFeedbackLeg => "no_feedback_leg"
  | rejected text => text

structure PlanDiagnostic where
  planIndex : Nat
  reason : DiagnosticReason
  deriving DecidableEq, Repr

structure AcceptedPlan (F64 : Type) where
  collectorSequence : Int
  endpointErrorM : F64
  geometrySha256 : String
  lengthM : F64
  planIndex : Nat
  stampNs : Int
  waypointIndex : Nat
  deriving DecidableEq, Repr

def AcceptedPlan.order {F64 : Type} (plan : AcceptedPlan F64) : Int ×ₗ Int :=
  toLex (plan.stampNs, plan.collectorSequence)

/-- The legs, as the instants that bound them. -/
def legsOf (transitions : List Transition) (start stop : Int) :
    List ((Int ×ₗ Int) × (Int ×ₗ Int)) :=
  segments (toLex (start, -1))
    ((transitions.filter fun transition => 0 < transition.currentWaypoint).map Transition.order)
    (toLex (stop, TERMINAL_SEQUENCE))

/-- The first leg with the instant. -/
def legIndexOf (legs : List ((Int ×ₗ Int) × (Int ×ₗ Int))) (order : Int ×ₗ Int) : Option Nat :=
  legs.findIdx? fun leg => leg.1 ≤ order && order < leg.2

section Analysis

variable {F64 : Type} [PyPathArithmetic F64]

/-- The planar distance from a pose that was recorded. -/
def endpointDistance (pose : Evidence) (waypoint : PlanarPose F64) : Except MetricError F64 := do
  let x₁ : F64 ← requireFinite (PyValue.item "x_m" pose) "first.x_m"
  let y₁ : F64 ← requireFinite (PyValue.item "y_m" pose) "first.y_m"
  let x₂ ← requireFiniteNumber waypoint.x "second.x_m"
  let y₂ ← requireFiniteNumber waypoint.y "second.y_m"
  .ok (hypot (sub x₂ x₁) (sub y₂ y₁))

/-- What is measured of a plan that is accepted. -/
structure PlanMeasure (F64 : Type) where
  endpointErrorM : F64
  geometrySha256 : String
  lengthM : F64

/-- The last element. -/
def lastItem (items : List PyValue) : Except MetricError PyValue :=
  match items.getLast? with
  | some item => .ok item
  | none => .error .index

/-- Measure a plan in a leg. -/
def measurePlan (sha256 : List UInt8 → String) (waypoints : List (PlanarPose F64)) (leg : Nat)
    (plan : Evidence) : Except MetricError (PlanMeasure F64) :=
  match PyValue.item "poses" plan with
  | .list poses => do
      let length ← planLengthM poses
      let hash ← planGeometryHash F64 sha256 (PyValue.item "frame_id" plan) poses
      let last ← lastItem poses
      match waypoints[leg]? with
      | none => .error .index
      | some waypoint => do
          let endpoint ← mappingOf last
          let endpointError ← endpointDistance endpoint waypoint
          if lt (literal PLAN_GOAL_TOLERANCE_M) endpointError then
            unavailable "plan endpoint does not match feedback-derived waypoint"
          else .ok ⟨endpointError, hash, length⟩
  | _ => unavailable "plan poses must be a list"

/-- What becomes of a plan. -/
inductive Assignment (F64 : Type) where
  | diagnosed (diagnostic : PlanDiagnostic)
  | accepted (plan : AcceptedPlan F64)

/-- Assign a plan in a leg. -/
def assignInLeg (sha256 : List UInt8 → String) (waypoints : List (PlanarPose F64)) (index leg : Nat)
    (order : Int ×ₗ Int) (plan : Evidence) : Except MetricError (Assignment F64) :=
  match measurePlan sha256 waypoints leg plan with
  | .error (.unavailable text) => .ok (.diagnosed ⟨index, .rejected text⟩)
  | .error error => .error error
  | .ok measure => .ok (.accepted {
      collectorSequence := sequenceOfOrder order
      endpointErrorM := measure.endpointErrorM
      geometrySha256 := measure.geometrySha256
      lengthM := measure.lengthM
      planIndex := index
      stampNs := stampOfOrder order
      waypointIndex := leg })

/-- Assign a plan. -/
def assignPlan (sha256 : List UInt8 → String) (waypoints : List (PlanarPose F64))
    (transitions : List Transition) (start stop : Int) (index : Nat) (order : Int ×ₗ Int)
    (plan : Evidence) : Except MetricError (Assignment F64) :=
  if order < toLex (start, -1) ∨ toLex (stop, TERMINAL_SEQUENCE) < order then
    .ok (.diagnosed ⟨index, .outsideActionInterval⟩)
  else match legIndexOf (legsOf transitions start stop) order with
  | none => .ok (.diagnosed ⟨index, .noFeedbackLeg⟩)
  | some leg => assignInLeg sha256 waypoints index leg order plan

/-- The plans that were accepted, leg by leg, and the diagnostics. -/
structure PlanLegs (F64 : Type) where
  perLeg : List (List (AcceptedPlan F64))
  diagnostics : List PlanDiagnostic

def PlanLegs.place (legs : PlanLegs F64) : Assignment F64 → PlanLegs F64
  | .diagnosed diagnostic => { legs with diagnostics := legs.diagnostics ++ [diagnostic] }
  | .accepted plan =>
      { legs with perLeg := legs.perLeg.modify plan.waypointIndex (· ++ [plan]) }

/-- Assign the plans from an index on. -/
def assignPlans (sha256 : List UInt8 → String) (waypoints : List (PlanarPose F64))
    (transitions : List Transition) (start stop : Int)
    (previous : Option (Int ×ₗ Int)) (index : Nat)
    (legs : PlanLegs F64) : List Evidence → Except MetricError (PlanLegs F64)
  | [] => .ok legs
  | plan :: plans => do
      let order ← eventOrder "plans" index plan
      if previous.any (order ≤ ·) then
        unavailable "plans are not in deterministic collector order"
      else do
        let assignment ← assignPlan sha256 waypoints transitions start stop index order plan
        assignPlans sha256 waypoints transitions start stop (some order) (index + 1)
          (legs.place assignment) plans

/-! ### Results -/

structure LegResult (F64 : Type) where
  initialPlan : AcceptedPlan F64
  latestPlan : AcceptedPlan F64
  planCount : Nat
  replanCount : Nat
  waypointIndex : Nat

/-- The plans whose geometry differs from the last one. -/
def countReplans (lastHash : String) : List (AcceptedPlan F64) → Nat
  | [] => 0
  | plan :: plans =>
      if plan.geometrySha256 ≠ lastHash then countReplans plan.geometrySha256 plans + 1
      else countReplans lastHash plans

/-- The result of a leg. -/
def legResult (index : Nat) : List (AcceptedPlan F64) → Except MetricError (LegResult F64)
  | [] => .error .index
  | plan :: plans => .ok {
      initialPlan := plan
      latestPlan := (plan :: plans).getLast (List.cons_ne_nil _ _)
      planCount := (plan :: plans).length
      replanCount := countReplans plan.geometrySha256 plans
      waypointIndex := index }

/-- The results of the legs, the first of which has the given index. -/
def legResults (index : Nat) : List (List (AcceptedPlan F64)) →
    Except MetricError (List (LegResult F64))
  | [] => .ok []
  | plans :: legs => do
      let result ← legResult index plans
      let rest ← legResults (index + 1) legs
      .ok (result :: rest)

/-- The legs without a plan. -/
def missingLegs (perLeg : List (List (AcceptedPlan F64))) : List Nat :=
  perLeg.zipIdx.filterMap fun entry => if entry.1.isEmpty then some entry.2 else none

structure PlanAnalysis (F64 : Type) where
  diagnostics : List PlanDiagnostic
  initialPlannedPathLengthM : F64
  latestPlannedPathLengthM : F64
  legResults : List (LegResult F64)
  plannedPathLengthsM : List (AcceptedPlan F64)
  replanCount : Nat

/-- The analysis of the plans that were assigned. -/
def summarizePlans (legs : PlanLegs F64) : Except MetricError (PlanAnalysis F64) :=
  let missing := missingLegs legs.perLeg
  if !missing.isEmpty then
    unavailable ("no valid matching plan for waypoint legs [" ++
      ", ".intercalate (missing.map toString) ++ "]")
  else do
    let results ← legResults 0 legs.perLeg
    .ok {
      diagnostics := legs.diagnostics
      initialPlannedPathLengthM :=
        results.foldl (fun total result => add total result.initialPlan.lengthM) zero
      latestPlannedPathLengthM :=
        results.foldl (fun total result => add total result.latestPlan.lengthM) zero
      legResults := results
      plannedPathLengthsM := legs.perLeg.flatten
      replanCount := (results.map LegResult.replanCount).sum }

def analyzePlans (sha256 : List UInt8 → String) (plans feedback : List Evidence)
    (waypoints : List PyValue) (acceptedGoalStampNs terminalActionStampNs : PyValue) :
    Except MetricError (PlanAnalysis F64) := do
  let start ← requireInt acceptedGoalStampNs "accepted_goal_stamp_ns"
  let stop ← requireInt terminalActionStampNs "terminal_action_stamp_ns"
  if stop ≤ start then
    unavailable "terminal action stamp must be after accepted goal stamp"
  else do
    let waypoints ← normalizeConfiguredWaypoints waypoints
    let transitions ← feedbackTransitions feedback waypoints.length start stop
    let legs ← assignPlans sha256 waypoints transitions start stop none 0
      ⟨List.replicate waypoints.length [], []⟩ plans
    summarizePlans legs

end Analysis

end Metrics

end RobotestLab
