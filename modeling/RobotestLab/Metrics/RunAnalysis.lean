import RobotestLab.Library.PyValue
import RobotestLab.Library.Reasons

/-!
# Analysis of a run

`analyze_run` composes the metrics of one run from its evidence. A metric that is unavailable is
`None` among the measurements, and its reason is kept under its path. The analyses of the single
metrics and the validation of the components stay parameters, which may compute anything.
-/

namespace RobotestLab

namespace Metrics

namespace RunAnalysis

open PyValue (isNone isNone_iff item)

/-- The items of a mapping. -/
abbrev Items := List (PyValue × PyValue)

/-! ### Reasons -/

/-- The text of an error, which is never empty. -/
structure Reason where
  text : String
  nonempty : text ≠ ""
deriving DecidableEq

/-- A text that is written out in the program. -/
def Reason.of (text : String) (nonempty : text ≠ "" := by decide) : Reason where
  text := text
  nonempty := nonempty

/-- A text about something with a name. -/
def Reason.about (name : String) (reason : Reason) : Reason where
  text := name ++ reason.text
  nonempty h := reason.nonempty (String.append_eq_empty_iff.mp h).2

/-- What stops a computation: `MetricUnavailable`, `ArtifactError`, or another exception. -/
inductive Stop where
  | unavailable (reason : Reason)
  | artifact (reason : Reason)
  | raised (exception : String)
deriving DecidableEq

/-! ### Evidence -/

def mapping (value : PyValue) (name : String) : Except Stop Items :=
  match value.asMapping with
  | some items => .ok items
  | none => .error (.unavailable (.about name (.of " must be an object")))

/-- A list of mappings. -/
def sequence (value : PyValue) (name : String) : Except Stop (List Items) :=
  let failure : Stop := .unavailable (.about name (.of " must be an array of objects"))
  match value with
  | .list items =>
      match items.mapM PyValue.asMapping with
      | some rows => .ok rows
      | none => .error failure
  | _ => .error failure

def requireInt (value : PyValue) (name : String) : Except Stop Int :=
  value.toInteger (.unavailable (.about name (.of " must be an integer")))

def stream (capture : Items) (name : String) : Except Stop (List Items) := do
  let streams ← mapping (item "streams" capture) "capture.streams"
  let stream ← mapping (item name streams) ("capture.streams." ++ name)
  sequence (item "items" stream) ("capture.streams." ++ name ++ ".items")

/-- The feedback for the accepted goal. -/
def feedback (capture : Items) (acceptedGoalUuid : String) : Except Stop (List Items) := do
  let events ← stream capture "state_events"
  let accepted := events.filter fun event =>
    (item "kind" event).equalsText "waypoint_feedback" &&
      (item "subject" event).equalsText acceptedGoalUuid
  .ok <| accepted.map fun event =>
    [(.str "collector_sequence", item "collector_sequence" event),
      (.str "current_waypoint", item "value" event),
      (.str "previous_waypoint", item "previous_value" event),
      (.str "stamp_ns", item "stamp_ns" event)]

/-- The value is the object `True`. -/
def isTrue : PyValue → Bool
  | .bool b => b
  | _ => false

/-! ### Results of the analyses -/

/-- The value under a path of keys, or `None`. -/
def valueAt (value : PyValue) : List String → PyValue
  | [] => value
  | key :: path =>
      match value with
      | .dict items => valueAt (item key items) path
      | _ => .none

/-- A mapping with values, which are not `None`, under the given paths. -/
structure Measured (paths : List (List String)) where
  items : Items
  present : ∀ path ∈ paths, valueAt (.dict items) path ≠ .none

namespace Measured

variable {paths : List (List String)}

def value (m : Measured paths) : PyValue := .dict m.items

def field (m : Measured paths) (path : List String) : PyValue := valueAt m.value path

theorem value_ne_none (m : Measured paths) :
  m.value ≠ .none
  := nofun

theorem field_ne_none (m : Measured paths) {path : List String} (h : path ∈ paths) :
  m.field path ≠ .none
  := m.present path h

end Measured

/-- The measured mapping, or `None`. -/
def valueOf {paths : List (List String)} : Option (Measured paths) → PyValue
  | some m => m.value
  | none => .none

/-- A value of the measured mapping, or `None`. -/
def fieldOf {paths : List (List String)} (path : List String) : Option (Measured paths) → PyValue
  | some m => m.field path
  | none => .none

/-- The quality of a capture. -/
structure CaptureQuality where
  complete : Bool
  clock : Items
  overflowed : Bool
  details : Items

/-- The names of the resources that are measured. -/
def resourceNames : List String :=
  ["cpu_percent_mean", "cpu_percent_p95", "cpu_percent_peak", "peak_rss_sum_bytes",
    "wsl_peak_memory_bytes", "wsl_peak_swap_bytes"]

/-- The names of the scalars of the localization, with their paths. -/
def localizationScalars : List (String × List String) :=
  [("localization_coverage_ratio", ["coverage_ratio"]),
    ("localization_position_maximum_m", ["position_error_m", "maximum"]),
    ("localization_position_p95_m", ["position_error_m", "p95"]),
    ("localization_position_rmse_m", ["position_error_m", "rmse"]),
    ("localization_yaw_maximum_rad", ["yaw_error_rad", "maximum"]),
    ("localization_yaw_p95_rad", ["yaw_error_rad", "p95"]),
    ("localization_yaw_rmse_rad", ["yaw_error_rad", "rmse"])]

/-- The collisions of a run, with their events. -/
structure CollisionResult where
  metrics : Measured [["collision_count"]]
  events : List Items

/-- The analyses that are composed. -/
structure Analyses where
  canonicalSha256 : Items → Except Stop String
  validateCandidateIdentity (identity targets : Items) : Except Stop Items
  captureQuality (capture : Items) : Except Stop CaptureQuality
  validateMissionComponent (mission identity : Items) : Except Stop Items
  validateFaultComponent (mission capture identity targets : Items) : Except Stop Items
  validateScenarioComponent (scenario identity missionMeasurements : Items) :
    Except Stop (Measured [["interaction"]])
  validateOrchestratorEvidence (evidence identity targets : Items) :
    Except Stop (Items × Measured (resourceNames.map fun name => [name]))
  actualPathMetrics (groundTruth : List Items) (start terminal : Int) :
    Except Stop (Measured [["actual_path_length_m"]])
  analyzePlans (plans feedback waypoints : List Items) (start terminal : Int) :
    Except Stop (Measured [["initial_planned_path_length_m"], ["latest_planned_path_length_m"],
      ["replan_count"]])
  pathEfficiency (planned actual : PyValue) :
    Except Stop (Measured [["path_efficiency"], ["path_overrun_ratio"]])
  collisionMetrics (request capture targets : Items) (start terminal : Int) :
    Except Stop CollisionResult
  localizationErrorMetrics (groundTruth mapToOdom odomToBase : List Items) (start terminal : Int)
    (worldToMap : PyValue) : Except Stop (Measured (localizationScalars.map Prod.snd))
  realTimeFactorMetrics (worldStats : List Items) : Except Stop (Measured [["median"], ["p5"]])
  scenario3StopCommandMetrics (stateEvents commands : List Items) (interaction : PyValue)
    (terminal : Int) : Except Stop (Measured [])
  analyzeLidarDropout (rawScan scan : List Items) (activation deactivation : Int)
    (affectedMessageCount firstAffectedStamp : PyValue) (lastAffectedStamp : Option Int)
    (restoredStamp : PyValue) : Except Stop (Measured [["actual_deactivation_stamp_ns"]])
  lidarDropoutCommandSafetyMetrics (commands scan : List Items) (activation : Int)
    (deactivation sourceTimeout : PyValue) : Except Stop (Measured [])
  sensorRecoveryMetrics (deactivation : PyValue) (scan lifecycle : List Items)
    (requiredNodes : List PyValue) (groundTruth feedback collisions : List Items)
      (terminal : Items) :
    Except Stop (Measured [["sensor_recovery_time_sim_s"]])
  analyzeOdometryDrift (rawOdom odom odomToBase : List Items)
    (activation deactivation xRate yawRate : Int) : Except Stop (Measured [])
  supervisorRecoveryMetrics (events : List Items) :
    Except Stop (Measured [["supervisor_recovery_time_wall_s"], ["restart_count"]])
  /-- Division of integers. -/
  trueDivide : Int → Int → Except Stop (Option ℚ)
  /-- The text of a value in a formatted string. -/
  format : PyValue → String
  /-- `==`. -/
  equals : PyValue → PyValue → Bool

/-! ### The evidence of a run -/

/-- The checked evidence of a run. -/
structure Run where
  identity : Items
  targets : Items
  candidateIdentity : Items
  mission : Items
  missionHash : String
  missionMeasurements : Items
  capture : Items
  start : Int
  terminal : Int
  waypoints : List Items
  terminalStatus : String
  acceptedGoalUuid : String
  quality : CaptureQuality

/-- The hash of the mission, which has to be the declared one. -/
def checkMissionHash (A : Analyses) (wrapper mission : Items) : Except Stop String :=
  let mismatch : Stop := .unavailable (.of "mission component artifact hash mismatch")
  match (item "artifact_sha256" wrapper).asText with
  | none => .error mismatch
  | some declared => do
      let calculated ← A.canonicalSha256 mission
      if declared = calculated then .ok declared else .error mismatch

/-- The first of the values that is not `None`. -/
def firstPresent : List PyValue → PyValue
  | [] => .none
  | value :: values => if isNone value then firstPresent values else value

/-- A text that is not empty. -/
def requireText (value : PyValue) (reason : Reason) : Except Stop String :=
  match value.asText with
  | some text => if text = "" then .error (.unavailable reason) else .ok text
  | none => .error (.unavailable reason)

/-- Read the evidence of a run. -/
def readRun (A : Analyses) (request : Items) : Except Stop Run := do
  let identity ← mapping (item "identity" request) "identity"
  let targets ← mapping (item "targets" request) "targets"
  let candidateIdentity ← A.validateCandidateIdentity identity targets
  let wrapper ← mapping (item "mission" request) "mission"
  let mission ← mapping (item "result" wrapper) "mission.result"
  let missionHash ← checkMissionHash A wrapper mission
  let missionMeasurements ← mapping (item "measurements" mission) "mission.result.measurements"
  let missionTargets ← mapping (item "targets" mission) "mission.result.targets"
  let capture ← mapping (item "capture" request) "capture"
  let start ← requireInt (item "accepted_goal_stamp_ns" missionMeasurements)
    "mission.measurements.accepted_goal_stamp_ns"
  let terminal ← requireInt (item "terminal_action_stamp_ns" missionMeasurements)
    "mission.measurements.terminal_action_stamp_ns"
  if terminal ≤ start then
    .error (.unavailable (.of "terminal action stamp must be after accepted goal stamp"))
  else
    let waypoints ← sequence (item "waypoints" missionTargets) "mission.targets.waypoints"
    let terminalStatus ← requireText (firstPresent [item "terminal_status" missionMeasurements,
        item "goal_status" missionMeasurements, item "mission_action_status" missionMeasurements])
      (.of "mission terminal status must be a non-empty string")
    let acceptedGoalUuid ← requireText (item "accepted_goal_uuid" missionMeasurements)
      (.of "mission accepted_goal_uuid must be a non-empty string")
    let quality ← A.captureQuality capture
    .ok {
      identity := identity
      targets := targets
      candidateIdentity := candidateIdentity
      mission := mission
      missionHash := missionHash
      missionMeasurements := missionMeasurements
      capture := capture
      start := start
      terminal := terminal
      waypoints := waypoints
      terminalStatus := terminalStatus
      acceptedGoalUuid := acceptedGoalUuid
      quality := quality }

/-! ### The components -/

/-- The reasons of the components that failed. -/
abbrev Failures := Dict String Reason

/-- Validate a component, and keep the reason when it fails. -/
def componentGate {α : Type} (failures : Failures) (name : String) (function : Except Stop α) :
    Except Stop (Option α × Failures) :=
  match function with
  | .ok x => .ok (some x, failures)
  | .error (.unavailable reason) => .ok (none, failures.set name reason)
  | .error (.artifact reason) => .ok (none, failures.set name reason)
  | .error stop => .error stop

/-- The components that were validated. -/
structure Components where
  mission : Option Items
  faultControl : Option Items
  scenario : Option (Measured [["interaction"]])
  orchestrator : Option (Items × Measured (resourceNames.map fun name => [name]))

def validateComponents (A : Analyses) (request : Items) (run : Run) :
    Except Stop (Components × Failures) := do
  let (mission, failures) ← componentGate {} "mission"
    (A.validateMissionComponent run.mission run.identity)
  let (faultControl, failures) ← componentGate failures "fault_control"
    (A.validateFaultComponent run.mission run.capture run.identity run.targets)
  let (scenario, failures) ← componentGate failures "scenario" do
    let scenario ← mapping (item "scenario" request) "scenario"
    A.validateScenarioComponent scenario run.identity run.missionMeasurements
  let (orchestrator, failures) ← componentGate failures "orchestrator" do
    let evidence ← mapping (item "orchestrator" request) "orchestrator"
    A.validateOrchestratorEvidence evidence run.identity run.targets
  .ok ({
    mission := mission
    faultControl := faultControl
    scenario := scenario
    orchestrator := orchestrator }, failures)

/-! ### The report -/

/-- The measurements so far, with the reasons of those that are unavailable. -/
structure Report where
  measurements : Dict String PyValue := {}
  unavailable : Dict String Reason := {}
  componentFailures : Failures := {}
  events : List Items := []

/-- The path of a measurement. -/
def metricPath (name : String) : String := "measurements." ++ name

namespace Report

def measure (report : Report) (name : String) (value : PyValue) : Report :=
  { report with measurements := report.measurements.set name value }

def explain (report : Report) (name : String) (reason : Reason) : Report :=
  { report with unavailable := report.unavailable.set (metricPath name) reason }

/-- `unavailable.get`. -/
def reason? (report : Report) (name : String) : Option Reason :=
  report.unavailable.get? (metricPath name)

/-- The reason of a measurement, which has to be there. -/
def reasonOf (report : Report) (name : String) : Except Stop Reason :=
  match report.reason? name with
  | some reason => .ok reason
  | none => .error (.raised "KeyError")

/-- `unavailable.setdefault`. -/
def explainDefault (report : Report) (name : String) (reason : Reason) : Report :=
  match report.reason? name with
  | some _ => report
  | none => report.explain name reason

/-- Compute a metric, and keep the reason when it is unavailable. -/
def calculate {α : Type} (report : Report) (name : String) (function : Except Stop α) :
    Except Stop (Option α × Report) :=
  match function with
  | .ok x => .ok (some x, report)
  | .error (.unavailable reason) => .ok (none, report.explain name reason)
  | .error stop => .error stop

/-- Measure a field of a metric. Without the metric it is unavailable for the reason of the
metric. -/
def measureField {paths : List (List String)} (report : Report) (source : String)
    (metric : Option (Measured paths)) (name : String) (path : List String) : Except Stop Report :=
  let report := report.measure name (fieldOf path metric)
  match metric with
  | some _ => .ok report
  | none => do
      let reason ← report.reasonOf source
      .ok (report.explain name reason)

end Report

/-! ### Gates -/

/-- The stream is complete and holds no invalid observation. -/
def checkDependency (A : Analyses) (streams : Items) (dependency : String) : Except Stop Unit := do
  let stream ← mapping (item dependency streams) ("capture.streams." ++ dependency)
  let quality ← mapping (item "quality" stream) ("capture.streams." ++ dependency ++ ".quality")
  let invalidCount := item "invalid_count" quality
  if isTrue (item "overflowed" quality) then
    .error (.unavailable (.about dependency (.of " collector prefix overflowed")))
  else if invalidCount.truth then
    .error (.unavailable (.about (dependency ++ " collector contains " ++ A.format invalidCount)
      (.of " invalid observations")))
  else .ok ()

/-- What a metric relies on. -/
def gate (A : Analyses) (run : Run) (dependencies : List String) (requiresSimClock : Bool) :
    Except Stop Unit := do
  if requiresSimClock && (item "regression_count" run.quality.clock).truth then
    .error (.unavailable (.of "clock regression invalidates simulation-time evidence"))
  else
    let streams ← mapping (item "streams" run.capture) "capture.streams"
    dependencies.forM (checkDependency A streams)

/-! ### Common metrics -/

section Common

variable (A : Analyses) (run : Run)

/-- The number of the completed waypoints, which may be missing when the mission failed. -/
def completedWaypoints (mission : Option Items) : Except Stop PyValue :=
  let value := item "completed_waypoint_count" run.missionMeasurements
  if isNone value && mission.isNone then .ok .none
  else do
    let n ← requireInt value "mission.measurements.completed_waypoint_count"
    .ok (.int n)

/-- The measurements that need no computation. -/
def initialReport (components : Components) (failures : Failures) : Except Stop Report := do
  let completed ← completedWaypoints run components.mission
  let completionTime ← A.trueDivide (run.terminal - run.start) 1000000000
  let report := ({ componentFailures := failures } : Report)
    |>.measure "accepted_goal_stamp_ns" (.int run.start)
    |>.measure "completed_waypoint_count" completed
    |>.measure "completion_time_sim_s" (.float completionTime)
    |>.measure "mission_action_status" (.str run.terminalStatus)
    |>.measure "nav2_recovery_count" .none
    |>.measure "terminal_action_stamp_ns" (.int run.terminal)
  let values := components.orchestrator.map Prod.snd
  let report := resourceNames.foldl (fun report name => report.measure name (fieldOf [name] values))
    report
  let report := report.explain "nav2_recovery_count"
    (.of "installed Jazzy FollowWaypoints feedback has no structured recovery counter")
  match components.orchestrator with
  | some _ => .ok report
  | none =>
      let reason := (failures.get? "orchestrator").getD
        (.of "orchestrator evidence is unavailable")
      .ok (resourceNames.foldl (fun report name => report.explain name reason) report)

def actualPath : Except Stop (Measured [["actual_path_length_m"]]) := do
  gate A run ["ground_truth"] true
  let groundTruth ← stream run.capture "ground_truth"
  A.actualPathMetrics groundTruth run.start run.terminal

def measureActualPath (report : Report) :
    Except Stop (Option (Measured [["actual_path_length_m"]]) × Report) := do
  let (actual, report) ← report.calculate "actual_path" (actualPath A run)
  let report := report.measure "actual_path" (valueOf actual)
  let report ← report.measureField "actual_path" actual "actual_path_length_m"
    ["actual_path_length_m"]
  .ok (actual, report)

/-- The fields of the planned paths. -/
abbrev PlannedPaths := Measured [["initial_planned_path_length_m"],
    ["latest_planned_path_length_m"],
  ["replan_count"]]

def plannedPaths : Except Stop PlannedPaths := do
  gate A run ["plans", "state_events"] true
  let plans ← stream run.capture "plans"
  let feedback ← feedback run.capture run.acceptedGoalUuid
  A.analyzePlans plans feedback run.waypoints run.start run.terminal

def measurePlannedPaths (report : Report) : Except Stop (Option PlannedPaths × Report) := do
  let (plans, report) ← report.calculate "planned_paths" (plannedPaths A run)
  let report := report.measure "planned_paths" (valueOf plans)
  let report ← ["initial_planned_path_length_m", "latest_planned_path_length_m",
    "replan_count"].foldlM
      (fun report field => report.measureField "planned_paths" plans field [field]) report
  .ok (plans, report)

/-- The fields of the efficiency. -/
abbrev Efficiency := Measured [["path_efficiency"], ["path_overrun_ratio"]]

/-- Compute the efficiency from the planned and the actual path. -/
def calculateEfficiency (report : Report) (plans : Option PlannedPaths)
    (actual : Option (Measured [["actual_path_length_m"]])) :
    Except Stop (Option Efficiency × Report) :=
  match plans, actual with
  | some plans, some actual =>
      report.calculate "path_efficiency" do
        gate A run [] true
        A.pathEfficiency (plans.field ["initial_planned_path_length_m"])
          (actual.field ["actual_path_length_m"])
  | _, _ =>
      .ok (none, report.explain "path_efficiency"
        (.of "required planned or actual path is unavailable"))

def measureEfficiency (report : Report) (plans : Option PlannedPaths)
    (actual : Option (Measured [["actual_path_length_m"]])) : Except Stop Report := do
  let (efficiency, report) ← calculateEfficiency A run report plans actual
  let report := report.measure "path_efficiency" (fieldOf ["path_efficiency"] efficiency)
  let report := report.measure "path_overrun_ratio" (fieldOf ["path_overrun_ratio"] efficiency)
  match efficiency with
  | some _ => .ok report
  | none => do
      let reason ← report.reasonOf "path_efficiency"
      .ok (report.explainDefault "path_overrun_ratio" reason)

def collisions (request : Items) : Except Stop CollisionResult := do
  gate A run ["contacts"] true
  A.collisionMetrics request run.capture run.targets run.start run.terminal

/-- An event of a collision, as it is reported. -/
def collisionEvent (event : Items) : Items :=
  if event.any fun item => item.1.isKey "kind" then event
  else (.str "kind", .str "collision") :: event

/-- Compute the collisions, when there is evidence of them. -/
def calculateCollisions (request : Items) (report : Report) :
    Except Stop (Option CollisionResult × Report) :=
  match (item "collision" request).asMapping with
  | some collisionRequest => report.calculate "collisions" (collisions A run collisionRequest)
  | none =>
      .ok (none, report.explain "collisions" (.of "collision qualification input is missing"))

def measureCollisions (request : Items) (report : Report) :
    Except Stop (Option CollisionResult × Report) := do
  let (collisions, report) ← calculateCollisions A run request report
  let metrics := collisions.map CollisionResult.metrics
  let report := report.measure "collisions" (valueOf metrics)
  let report ← report.measureField "collisions" metrics "collision_count" ["collision_count"]
  match collisions with
  | none => .ok (none, report)
  | some collisions =>
      .ok (some collisions,
        { report with events := report.events ++ collisions.events.map collisionEvent })

def localization : Except Stop (Measured (localizationScalars.map Prod.snd)) := do
  gate A run ["ground_truth", "tf_map_odom", "tf_odom_base_footprint"] true
  let groundTruth ← stream run.capture "ground_truth"
  let mapToOdom ← stream run.capture "tf_map_odom"
  let odomToBase ← stream run.capture "tf_odom_base_footprint"
  A.localizationErrorMetrics groundTruth mapToOdom odomToBase run.start run.terminal
    (item "world_to_map" run.targets)

/-- Measure a scalar of the localization. -/
def measureScalar (localization : Option (Measured (localizationScalars.map Prod.snd)))
    (report : Report) (scalar : String × List String) : Report :=
  let value := fieldOf scalar.2 localization
  let report := report.measure scalar.1 value
  if isNone value then
    report.explain scalar.1 ((report.reason? "localization").getD
      (.of "localization evidence is unavailable"))
  else report

def measureLocalization (report : Report) : Except Stop Report := do
  let (localization, report) ← report.calculate "localization" (localization A run)
  let report := report.measure "localization" (valueOf localization)
  .ok (localizationScalars.foldl (measureScalar localization) report)

def realTimeFactor : Except Stop (Measured [["median"], ["p5"]]) := do
  gate A run ["world_stats"] true
  let worldStats ← stream run.capture "world_stats"
  A.realTimeFactorMetrics worldStats

def measureRealTimeFactor (report : Report) : Except Stop Report := do
  let (rtf, report) ← report.calculate "real_time_factor" (realTimeFactor A run)
  let report := report.measure "real_time_factor" (valueOf rtf)
  let report ← report.measureField "real_time_factor" rtf "rtf_median" ["median"]
  report.measureField "real_time_factor" rtf "rtf_p5" ["p5"]

end Common

/-! ### Interactions -/

section Interaction

variable (A : Analyses) (run : Run)

/-- The run is one of the given scenario. -/
def Run.isScenario (run : Run) (id : Int) : Bool := (item "scenario_id" run.identity).equalsInt id

def stopCommand (scenario : Measured [["interaction"]]) : Except Stop (Measured []) := do
  gate A run ["cmd_vel", "state_events"] true
  let stateEvents ← stream run.capture "state_events"
  let commands ← stream run.capture "cmd_vel"
  A.scenario3StopCommandMetrics stateEvents commands (scenario.field ["interaction"]) run.terminal

/-- Measure the interaction of the scenario. -/
def measureInteraction (scenario : Option (Measured [["interaction"]])) (report : Report) :
    Except Stop Report :=
  match scenario with
  | none => .ok report
  | some scenario =>
      let report := report.measure "scenario_interaction" (scenario.field ["interaction"])
      if run.isScenario 3 then do
        let (safety, report) ← report.calculate "scenario3_stop_command"
          (stopCommand A run scenario)
        .ok (report.measure "scenario3_stop_command" (valueOf safety))
      else .ok report

end Interaction

/-! ### Faults -/

/-- The evidence about the faults of a run. -/
structure FaultEvidence where
  fault : Items
  specs : List Items
  events : List Items

def readFault (request : Items) (run : Run) : Except Stop FaultEvidence := do
  let fault ← mapping (item "fault" request) "fault"
  let missionFault ← mapping (item "fault" run.mission) "mission.result.fault"
  let schedule ← mapping (item "schedule" missionFault) "mission.result.fault.schedule"
  let specs ← sequence (item "faults" schedule) "mission.result.fault.schedule.faults"
  let events ← sequence (item "events" missionFault) "mission.result.fault.events"
  .ok { fault := fault, specs := specs, events := events }

/-- The interval in which a fault is active. -/
def faultInterval (run : Run) (spec : Items) : Except Stop (Int × Int) := do
  let offset ← requireInt (item "start_offset_ns" spec) "fault start offset"
  let duration ← requireInt (item "duration_ns" spec) "fault duration"
  .ok (run.start + offset, run.start + offset + duration)

/-- A value of an event, or `None` without the event. -/
def eventValue (event : Option Items) (name : String) : PyValue :=
  match event with
  | some event => item name event
  | none => .none

/-- The evidence about the dropout of the LiDAR. -/
structure DropoutEvidence where
  activation : Int
  deactivation : Int
  firstAffected : Option Items
  restored : Option Items
  rawActiveStamps : List Int

/-- The stamps of the raw scans in the interval. -/
def activeStamps (capture : Items) (activation deactivation : Int) : Except Stop (List Int) := do
  let samples ← stream capture "raw_scan"
  let stamps ← samples.mapM fun sample => requireInt (item "stamp_ns" sample) "raw_scan.stamp_ns"
  .ok (stamps.filter fun stamp => activation ≤ stamp && stamp < deactivation)

def readDropout (run : Run) (evidence : FaultEvidence) : Except Stop DropoutEvidence :=
  let unbound : Stop := .unavailable (.of "Scenario 4 requires one lidar_dropout analysis binding")
  if !(item "kind" evidence.fault).equalsText "lidar_dropout" then .error unbound
  else
    match evidence.specs with
    | [spec] =>
        if !(item "target" spec).equalsInt 1 || !(item "mode" spec).equalsInt 1 then
          .error (.unavailable (.of "Scenario 4 schedule is not the frozen LiDAR dropout mode"))
        else do
          let (activation, deactivation) ← faultInterval run spec
          let rawActiveStamps ← activeStamps run.capture activation deactivation
          .ok {
            activation := activation
            deactivation := deactivation
            firstAffected := evidence.events.find? fun event =>
              (item "event_type" event).equalsInt 5
            restored := evidence.events.find? fun event => (item "event_type" event).equalsInt 9
            rawActiveStamps := rawActiveStamps }
    | _ => .error unbound

section Dropout

variable (A : Analyses) (run : Run) (evidence : FaultEvidence)

def lidarDropout (dropout : DropoutEvidence) :
    Except Stop (Measured [["actual_deactivation_stamp_ns"]]) := do
  gate A run ["fault_events", "raw_scan", "scan"] true
  let rawScan ← stream run.capture "raw_scan"
  let scan ← stream run.capture "scan"
  A.analyzeLidarDropout rawScan scan dropout.activation dropout.deactivation
    (eventValue dropout.restored "affected_message_count")
    (eventValue dropout.firstAffected "actual_stamp_ns") dropout.rawActiveStamps.getLast?
    (eventValue dropout.restored "actual_stamp_ns")

def commandSafety (dropout : DropoutEvidence) (deactivation : PyValue) :
    Except Stop (Measured []) := do
  gate A run ["cmd_vel", "scan"] true
  let commands ← stream run.capture "cmd_vel"
  let scan ← stream run.capture "scan"
  A.lidarDropoutCommandSafetyMetrics commands scan dropout.activation deactivation
    (item "collision_monitor_source_timeout_s" evidence.fault)

/-- The nodes of the navigation stack with a lifecycle. -/
def nav2LifecycleNodes : List String :=
  ["map_server", "amcl", "planner_server", "controller_server", "behavior_server", "bt_navigator",
    "waypoint_follower", "velocity_smoother", "collision_monitor"]

/-- The list of the required nodes is the exact one. -/
def requiredNodes (value : PyValue) : Option (List PyValue) :=
  match value with
  | .list nodes =>
      if nodes.length = nav2LifecycleNodes.length &&
          (nodes.zip nav2LifecycleNodes).all fun node => node.1.equalsText node.2 then some nodes
      else none
  | _ => none

/-- The required nodes and the samples of their lifecycle, with what fails of it. -/
def readLifecycle (failures : Failures) : Except Stop (List PyValue × List Items × Failures) := do
  let (nodes, failures) := match requiredNodes (item "required_lifecycle_nodes" evidence.fault) with
    | some nodes => (nodes, failures)
    | none => ([], failures.set "lifecycle_snapshot"
        (.of "required lifecycle nodes do not match the exact nine-node contract"))
  let snapshot ← mapping (item "lifecycle_snapshot" evidence.fault) "fault.lifecycle_snapshot"
  let quality ← mapping (item "quality" snapshot) "fault.lifecycle_snapshot.quality"
  let identity ← mapping (item "identity" snapshot) "fault.lifecycle_snapshot.identity"
  if !isTrue (item "complete" quality) ||
      !A.equals (item "run_id" identity) (item "run_id" run.identity) then
    .ok (nodes, [], failures.set "lifecycle_snapshot"
      (.of "bounded lifecycle snapshot artifact is incomplete or run-mismatched"))
  else
    let samples ← sequence (item "samples" snapshot) "fault.lifecycle_snapshot.samples"
    .ok (nodes, samples, failures)

def sensorRecovery (deactivation : PyValue) (nodes : List PyValue) (lifecycle : List Items)
    (collisions : CollisionResult) : Except Stop (Measured [["sensor_recovery_time_sim_s"]]) := do
  gate A run ["contacts", "ground_truth", "scan", "state_events"] true
  let scan ← stream run.capture "scan"
  let groundTruth ← stream run.capture "ground_truth"
  let feedback ← feedback run.capture run.acceptedGoalUuid
  A.sensorRecoveryMetrics deactivation scan lifecycle nodes groundTruth feedback collisions.events
    [(.str "stamp_ns", .int run.terminal), (.str "status", .str run.terminalStatus)]

/-- Compute the safety of the commands during a dropout, when the dropout is measured. -/
def calculateCommandSafety (dropout : DropoutEvidence)
    (metric : Option (Measured [["actual_deactivation_stamp_ns"]])) (report : Report) :
    Except Stop (Option (Measured []) × Report) :=
  match metric with
  | none => .ok (none, report)
  | some metric =>
      report.calculate "lidar_dropout_command_safety"
        (commandSafety A run evidence dropout (metric.field ["actual_deactivation_stamp_ns"]))

def measureCommandSafety (dropout : DropoutEvidence)
    (metric : Option (Measured [["actual_deactivation_stamp_ns"]])) (report : Report) :
    Except Stop Report := do
  let (safety, report) ← calculateCommandSafety A run evidence dropout metric report
  .ok (report.measure "lidar_dropout_command_safety" (valueOf safety))

/-- Compute the recovery from a dropout, when the dropout and the collisions are measured. -/
def calculateSensorRecovery (metric : Option (Measured [["actual_deactivation_stamp_ns"]]))
    (collisions : Option CollisionResult) (report : Report) :
    Except Stop (Option (Measured [["sensor_recovery_time_sim_s"]]) × Report) :=
  match metric, collisions with
  | some metric, some collisions => do
      let (nodes, lifecycle, failures) ← readLifecycle A run evidence report.componentFailures
      let report := { report with componentFailures := failures }
      report.calculate "sensor_recovery" (sensorRecovery A run
        (metric.field ["actual_deactivation_stamp_ns"]) nodes lifecycle collisions)
  | none, _ =>
      .ok (none, report.explain "sensor_recovery" (.of "LiDAR dropout evidence is unavailable"))
  | some _, none =>
      .ok (none, report.explain "sensor_recovery" (.of "collision evidence is unavailable"))

def measureSensorRecovery (metric : Option (Measured [["actual_deactivation_stamp_ns"]]))
    (collisions : Option CollisionResult) (report : Report) : Except Stop Report := do
  let (recovery, report) ← calculateSensorRecovery A run evidence metric collisions report
  let report := report.measure "sensor_recovery" (valueOf recovery)
  report.measureField "sensor_recovery" recovery "sensor_recovery_time_sim_s"
    ["sensor_recovery_time_sim_s"]

/-- The failure of the fault control when the events of the dropout are missing. -/
def checkDropoutEvents (dropout : DropoutEvidence) (failures : Failures) : Failures :=
  if dropout.firstAffected.isNone || dropout.restored.isNone then
    match failures.get? "fault_control" with
    | some _ => failures
    | none => failures.set "fault_control"
        (.of "LiDAR first-affected/restored fault events are missing")
  else failures

/-- Measure the dropout of the LiDAR. -/
def measureDropout (collisions : Option CollisionResult) (report : Report) :
    Except Stop Report := do
  let dropout ← readDropout run evidence
  let report := { report with
    componentFailures := checkDropoutEvents dropout report.componentFailures }
  let (metric, report) ← report.calculate "lidar_dropout" (lidarDropout A run dropout)
  let report := report.measure "lidar_dropout" (valueOf metric)
  let report ← measureCommandSafety A run evidence dropout metric report
  measureSensorRecovery A run evidence metric collisions report

end Dropout

section Faults

variable (A : Analyses) (run : Run) (evidence : FaultEvidence)

def odometryDrift (parameters : Items) (activation deactivation : Int) :
    Except Stop (Measured []) := do
  gate A run ["fault_events", "odom", "raw_odom", "tf_odom_base_footprint"] true
  let rawOdom ← stream run.capture "raw_odom"
  let odom ← stream run.capture "odom"
  let odomToBase ← stream run.capture "tf_odom_base_footprint"
  let xRate ← requireInt (item "x_rate_nm_per_s" parameters) "x_rate_nm_per_s"
  let yawRate ← requireInt (item "yaw_rate_nrad_per_s" parameters) "yaw_rate_nrad_per_s"
  A.analyzeOdometryDrift rawOdom odom odomToBase activation deactivation xRate yawRate

/-- Measure the drift of the odometry. -/
def measureDrift (report : Report) : Except Stop Report :=
  let unbound : Stop := .unavailable (.of "Scenario 5 requires one odometry_drift analysis binding")
  if !(item "kind" evidence.fault).equalsText "odometry_drift" then .error unbound
  else
    match evidence.specs with
    | [spec] => do
        let parameters ← mapping (item "parameters" spec) "odometry drift parameters"
        let (activation, deactivation) ← faultInterval run spec
        let (drift, report) ← report.calculate "odometry_drift"
          (odometryDrift A run parameters activation deactivation)
        .ok (report.measure "odometry_drift" (valueOf drift))
    | _ => .error unbound

/-- Measure what the fault of the scenario does. -/
def measureFault (collisions : Option CollisionResult) (report : Report) : Except Stop Report :=
  if run.isScenario 4 then measureDropout A run evidence collisions report
  else if run.isScenario 5 then measureDrift A run evidence report
  else if !(item "kind" evidence.fault).equalsText "none" || !evidence.specs.isEmpty then
    .error (.unavailable (.of "Scenarios 1-3 require an empty fault schedule and kind none"))
  else .ok report

/-- The fields of the recovery of the supervisor. -/
abbrev SupervisorMetric := Measured [["supervisor_recovery_time_wall_s"], ["restart_count"]]

def supervisorRecovery (events : PyValue) : Except Stop SupervisorMetric := do
  gate A run [] false
  let rows ← sequence events "supervisor_events"
  A.supervisorRecoveryMetrics rows

/-- Measure the recovery of the supervisor, when there are events of it. -/
def measureSupervisor (request : Items) (report : Report) : Except Stop Report := do
  let events := item "supervisor_events" request
  if isNone events then .ok report
  else
    let (supervisor, report) ← report.calculate "supervisor_recovery"
      (supervisorRecovery A run events)
    .ok <| report
      |>.measure "supervisor_recovery" (valueOf supervisor)
      |>.measure "supervisor_recovery_time_wall_s"
        (fieldOf ["supervisor_recovery_time_wall_s"] supervisor)
      |>.measure "restart_count" (fieldOf ["restart_count"] supervisor)

end Faults

/-! ### The result -/

/-- The measurements of a run. -/
def analyzeMeasurements (A : Analyses) (request : Items) (run : Run) (components : Components)
    (failures : Failures) : Except Stop Report := do
  let report ← initialReport A run components failures
  let (actual, report) ← measureActualPath A run report
  let (plans, report) ← measurePlannedPaths A run report
  let report ← measureEfficiency A run report plans actual
  let (collisions, report) ← measureCollisions A run request report
  let report ← measureLocalization A run report
  let report ← measureRealTimeFactor A run report
  let report ← measureInteraction A run components.scenario report
  let evidence ← readFault request run
  let report ← measureFault A run evidence collisions report
  measureSupervisor A run request report

/-- The result of a run. -/
structure RunResult where
  run : Run
  components : Components
  report : Report
  verdict : Items

/-- Compute all requested metrics. The verdict on them is given. -/
def analyzeRun (A : Analyses) (verdict : Run → Components → Report → Except Stop Items)
    (request : Items) : Except Stop RunResult := do
  let run ← readRun A request
  let (components, failures) ← validateComponents A request run
  let report ← analyzeMeasurements A request run components failures
  let verdict ← verdict run components report
  .ok { run := run, components := components, report := report, verdict := verdict }

/-! ### Aggregation -/

/-- The reason that `_metric_aggregate` reports for a metric of a run without a value. -/
def nullReason (result : RunResult) (name : String) : Option String :=
  if isNone ((result.report.measurements.get? name).getD .none) then
    match result.report.reason? name with
    | some reason => some reason.text
    | none => some "null_without_reason"
  else none

end RunAnalysis

end Metrics

end RobotestLab
