import RobotestLab.Library.Dict
import RobotestLab.Library.DottedPath
import RobotestLab.Library.JsonSchema
import RobotestLab.Metrics.Geometry
import RobotestLab.Metrics.RunAnalysis
import Mathlib.Data.List.Sort

/-!
# Results of failed trials

The verdict of a trial without valid evidence is composed from its context. The required metrics are
null at their dotted paths among the measurements, where the core measurements are null already. The
hash of a document stays a parameter.
-/

namespace RobotestLab

namespace Metrics

namespace RunAnalysis

namespace FailureResults

open PyValue (isNone item resolve)
open DottedPath (components Continues)

/-! ### The schema of a trial context -/

def boundedString : JsonSchema := .textOfLength 1 4096

def sha256 : JsonSchema := .hexDigits 64

def threshold : JsonSchema :=
  .object [] [("maximum", .number), ("minimum", .number)] (fun _ => false) 1

def failureSchema : JsonSchema :=
  .closedObject
    [("evidence_sha256", sha256),
      ("exit_code", .integer fun n => n ≠ 0),
      ("kind", .token),
      ("reason", boundedString),
      ("stage", .token),
      ("wall_timed_out", .boolean)]

def identitySchema : JsonSchema :=
  .closedObject
    [("candidate_id", boundedString),
      ("cold_stack", .constBool true),
      ("git_dirty", .constBool false),
      ("git_sha", .hexDigits 40),
      ("gz_partition", boundedString),
      ("repetition_index", .integerIn 0 2),
      ("ros_domain_id", .integerIn 0 232),
      ("run_id", boundedString),
      ("scenario_id", .integerIn 1 5),
      ("scenario_index", .integerIn 1 5),
      ("scenario_name", boundedString),
      ("scenario_sha256", sha256),
      ("suite_index", .integerIn 0 14)]

/-- `^measurements\.`. -/
def metricPathSchema : JsonSchema := .text fun cs => "measurements.".toList.isPrefixOf cs

def acceptanceSchema : JsonSchema := .object [] [] threshold 0

def targetProperties : List (String × JsonSchema) :=
  [("acceptance", acceptanceSchema),
    ("collector_configuration_sha256", sha256),
    ("collision_coverage_manifest_sha256", sha256),
    ("fault_schedule_sha256", sha256),
    ("metrics_contract_sha256", sha256),
    ("positive_control_json_sha256", sha256),
    ("required_metrics", .array 1 metricPathSchema),
    ("scenario_sha256", sha256),
    ("source_configuration_sha256", sha256),
    ("target_set_sha256", sha256),
    ("world_to_map",
      .closedObject [("x_m", .constInt 0), ("y_m", .constInt 0), ("yaw_rad", .constInt 0)])]

def targetsSchema : JsonSchema :=
  .object (targetProperties.map Prod.fst) targetProperties .any 0

/-- `trial-context.schema.json`. -/
def trialContextSchema : JsonSchema :=
  .closedObject
    [("failure", .oneOf .null failureSchema),
      ("identity", identitySchema),
      ("intended_wall_timeout_s", .positive),
      ("producer", .constText "robotest_phase3/benchmark_orchestrator"),
      ("schema_version", .constInt 1),
      ("targets", targetsSchema)]

/-! ### Validation of a trial context -/

/-- A text that is neither empty nor too long. -/
def requireString (value : PyValue) (name : String) : Except Stop String :=
  let failure : Stop := .unavailable (.about name (.of " must be a bounded non-empty string"))
  match value.asText with
  | some text => if text = "" || text.utf8ByteSize > 4096 then .error failure else .ok text
  | none => .error failure

/-- Exactly `n` lowercase hexadecimal digits. -/
def isHex (n : Nat) (text : String) : Bool :=
  text.toList.length = n && text.toList.all JsonSchema.isLowerHex

def requireSha256 (value : PyValue) (name : String) : Except Stop String :=
  let failure : Stop := .unavailable (.about name (.of " must be a lowercase SHA-256"))
  match value.asText with
  | some text => if isHex 64 text then .ok text else .error failure
  | none => .error failure

/-- Convert a value to a finite number. -/
def requireFinite {F64 : Type} [PyFloat F64] (value : PyValue) (name : String) : Except Stop F64 :=
  let failure : Stop := .unavailable (.about name (.of " must be a finite number"))
  match value with
  | .bool _ => .error failure
  | value =>
      match PyFloat.ofValue value with
      | .error .notANumber => .error failure
      | .error .overflow => .error (.raised "OverflowError")
      | .ok converted =>
          if PyFloat.isFinite converted then .ok converted
          else .error (.unavailable (.about name (.of " must be finite")))

def scenarioName : Int → Option String
  | 1 => some "baseline_navigation"
  | 2 => some "deterministic_static_obstacle_replan"
  | 3 => some "deterministic_dynamic_obstacle"
  | 4 => some "temporary_lidar_dropout"
  | 5 => some "deterministic_odometry_drift"
  | _ => none

def requiredHashes : List String :=
  ["collector_configuration_sha256", "collision_coverage_manifest_sha256", "fault_schedule_sha256",
    "metrics_contract_sha256", "positive_control_json_sha256", "scenario_sha256",
    "source_configuration_sha256", "target_set_sha256"]

/-- The hash among the targets under a name, with its name. -/
def targetHash (targets : Items) (name : String) : Except Stop (PyValue × PyValue) := do
  let hash ← requireSha256 (item name targets) ("targets." ++ name)
  .ok (.str name, .str hash)

/-- The indices of a trial, which have to agree. -/
def scenarioIdOf (identity : Items) : Except Stop Int := do
  let scenarioId ← requireInt (item "scenario_id" identity) "identity.scenario_id"
  let scenarioIndex ← requireInt (item "scenario_index" identity) "identity.scenario_index"
  let repetition ← requireInt (item "repetition_index" identity) "identity.repetition_index"
  let suiteIndex ← requireInt (item "suite_index" identity) "identity.suite_index"
  match scenarioName scenarioId with
  | none => .error (.unavailable (.of "scenario identity is outside the frozen Phase 3 suite"))
  | some name =>
    if scenarioId ≠ scenarioIndex then
      .error (.unavailable (.of "scenario identity is outside the frozen Phase 3 suite"))
    else if ¬ (0 ≤ repetition ∧ repetition ≤ 2) ∨
        suiteIndex ≠ (scenarioId - 1) * 3 + repetition then
      .error (.unavailable (.of "suite/repetition identity does not match frozen order"))
    else if !(item "scenario_name" identity).equalsText name then
      .error (.unavailable (.of "scenario name does not match frozen scenario ID"))
    else .ok scenarioId

/-- The commit of a clean candidate on a cold stack. -/
def gitShaOf (identity : Items) : Except Stop String :=
  if !JsonSchema.constBool false (item "git_dirty" identity) || !isTrue (item "cold_stack" identity)
  then .error (.unavailable (.of "candidate identity must prove clean Git and a cold stack"))
  else
    let failure : Stop :=
      .unavailable (.of "identity.git_sha must be a lowercase 40-character commit")
    match (item "git_sha" identity).asText with
    | some text => if isHex 40 text then .ok text else .error failure
    | none => .error failure

/-- The ROS domain and the Gazebo partition of a candidate. -/
def isolationOf (identity : Items) (candidateId : String) : Except Stop (Int × String) := do
  let domain ← requireInt (item "ros_domain_id" identity) "identity.ros_domain_id"
  if ¬ (0 ≤ domain ∧ domain ≤ 232) then .error (.unavailable (.of "ROS domain is outside [0, 232]"))
  else
    let partition ← requireString (item "gz_partition" identity) "identity.gz_partition"
    if !("robotest_p3_" ++ candidateId ++ "_").toList.isPrefixOf partition.toList then
      .error (.unavailable (.of "Gazebo partition is not candidate-bound"))
    else .ok (domain, partition)

def validateCandidateIdentity (identity targets : Items) : Except Stop Items := do
  let runId ← requireString (item "run_id" identity) "identity.run_id"
  let candidateId ← requireString (item "candidate_id" identity) "identity.candidate_id"
  let scenarioId ← scenarioIdOf identity
  let gitSha ← gitShaOf identity
  let (domain, partition) ← isolationOf identity candidateId
  let hashes ← requiredHashes.mapM (targetHash targets)
  if !(item "scenario_sha256" identity).equalsText
      ((item "scenario_sha256" hashes).asText.getD "") then
    .error (.unavailable (.of "identity and target scenario hashes differ"))
  else
    .ok
      [(.str "candidate_id", .str candidateId),
        (.str "git_sha", .str gitSha),
        (.str "gz_partition", .str partition),
        (.str "hashes", .dict hashes),
        (.str "ros_domain_id", .int domain),
        (.str "run_id", .str runId),
        (.str "scenario_id", .int scenarioId),
        (.str "status", .str "PASS")]

/-- The longest text that the first `n` bytes decode to. -/
def decodePrefix (encoded : ByteArray) : Nat → String
  | 0 => ""
  | n + 1 =>
    match String.fromUTF8? (encoded.extract 0 (n + 1)) with
    | some text => text
    | none => decodePrefix encoded n

/-- The text of a failure, which is cut after 4096 bytes. -/
def boundedReason (value : PyValue) : Except Stop Reason :=
  match value with
  | .str text =>
    if h : text = "" then
      .error (.unavailable (.of "infrastructure failure reason must be a non-empty string"))
    else if text.utf8ByteSize ≤ 4096 then .ok ⟨text, h⟩
    else .ok (.about (decodePrefix text.toUTF8 4093) (.of "..."))
  | _ => .error (.unavailable (.of "infrastructure failure reason must be a non-empty string"))

/-- `path.startswith('measurements.')`, for a text. -/
def isMetricPath (path : PyValue) : Bool := metricPathSchema path

/-- The paths of the required metrics. -/
def requiredPaths (targets : Items) : Except Stop (List String) :=
  match item "required_metrics" targets with
  | .list required =>
      match required.mapM PyValue.asText with
      | some paths =>
          if required.isEmpty || !required.all isMetricPath then
            .error (.unavailable (.of "trial context required metrics are invalid"))
          else .ok paths
      | none => .error (.unavailable (.of "trial context required metrics are invalid"))
  | _ => .error (.unavailable (.of "trial context required metrics are invalid"))

/-- A path that continues the one before it in sorted order. -/
def conflicts (required : List String) : Bool :=
  let orderedPaths := required.insertionSort (· ≤ ·)
  (orderedPaths.zip orderedPaths.tail).any fun pair => Continues pair.1 pair.2

/-- The failure that a context declares. -/
def validateDeclaredFailure (failure : PyValue) : Except Stop Unit := do
  if isNone failure then .ok ()
  else
    let evidence ← mapping failure "trial_context.failure"
    let _ ← boundedReason (item "reason" evidence)
    match (item "exit_code" evidence).asInteger with
    | some n =>
        if n = 0 then .error (.unavailable (.of "trial context failure exit code must be nonzero"))
          else .ok ()
    | none => .error (.unavailable (.of "trial context failure exit code must be nonzero"))

/-- The targets name metrics that are required and metrics that are accepted. -/
def validateTargets (targets : Items) : Except Stop Unit := do
  let required ← requiredPaths targets
  if conflicts required then
    .error (.unavailable (.of "trial context required metric paths conflict"))
  else
    let acceptance ← mapping (item "acceptance" targets) "trial_context.targets.acceptance"
    if !acceptance.all fun rule => isMetricPath rule.1 then
      .error (.unavailable (.of "trial context acceptance paths are invalid"))
    else .ok ()

section Context

variable (F64 : Type) [PyArithmetic F64] (canonicalSha256 : Items → Except Stop String)

def validateTrialContext (context : Items) : Except Stop Items := do
  if !(item "schema_version" context).equalsInt 1
      || !(item "producer" context).equalsText "robotest_phase3/benchmark_orchestrator" then
    .error (.unavailable (.of "trial context producer/schema is invalid"))
  else
    let identity ← mapping (item "identity" context) "trial_context.identity"
    let targets ← mapping (item "targets" context) "trial_context.targets"
    let candidate ← validateCandidateIdentity identity targets
    let timeout : F64 ← requireFinite (item "intended_wall_timeout_s" context)
      "trial_context.intended_wall_timeout_s"
    if PyArithmetic.le timeout PyFloat.zero then
      .error (.unavailable (.of "trial context wall timeout must be positive"))
    else
      validateTargets targets
      validateDeclaredFailure (item "failure" context)
      let hash ← canonicalSha256 context
      .ok (PyValue.setItem "status" (.str "CONTEXT_BOUND_ONLY")
        (PyValue.setItem "context_sha256" (.str hash) candidate))

end Context

/-! ### Composition of a failed result -/

def CORE_MEASUREMENTS : List String :=
  ["accepted_goal_stamp_ns", "actual_path_length_m", "collision_count", "completed_waypoint_count",
    "completion_time_sim_s", "initial_planned_path_length_m", "path_efficiency",
    "peak_rss_sum_bytes",
    "replan_count", "rtf_median", "rtf_p5", "terminal_action_stamp_ns"]

/-- The measurements before the required metrics are set. -/
def initialMeasurements : Items :=
  CORE_MEASUREMENTS.map (fun name => (.str name, .none))
    ++ [(.str "mission_action_status", .str "INFRASTRUCTURE_ERROR")]

def setUnavailableMeasurement (measurements : Items) (path : String) : Except Stop Items :=
  match components path with
  | "measurements" :: component :: rest =>
      match PyValue.setAt .none measurements (component :: rest) with
      | some measurements => .ok measurements
      | none => .error (.unavailable (.of "trial context required metric paths conflict"))
  | _ => .error (.unavailable (.of "trial context required metric path is invalid"))

/-- The measurements and the reasons of the unavailable ones. -/
structure Unavailable where
  measurements : Items := initialMeasurements
  reasons : Dict String String := {}

/-- Mark one required metric as unavailable. -/
def markUnavailable (reason : Reason) (state : Unavailable) (path : PyValue) :
    Except Stop Unavailable :=
  match path.asText with
  | none => .error (.unavailable (.of "trial context required metric path is invalid"))
  | some path => do
      let measurements ← setUnavailableMeasurement state.measurements path
      .ok { measurements := measurements, reasons := state.reasons.set path reason.text }

/-- `unavailable.setdefault`. -/
def setDefault (reasons : Dict String String) (path reason : String) : Dict String String :=
  match reasons.get? path with
  | some _ => reasons
  | none => reasons.set path reason

/-- The reasons of the core measurements are added. -/
def addCoreReasons (reason : Reason) (reasons : Dict String String) : Dict String String :=
  CORE_MEASUREMENTS.foldl (fun reasons name =>
    setDefault reasons ("measurements." ++ name) reason.text)
    reasons

/-- The items in the order of their keys. -/
def sortedReasons (reasons : Dict String String) : Items :=
  (reasons.items.insertionSort fun a b => a.1 ≤ b.1).map fun entry => (.str entry.1, .str entry.2)

/-- A key is not after another one. Keys that are not texts do not occur. -/
def keyLe (a b : PyValue × PyValue) : Prop := (a.1.asText.getD "") ≤ (b.1.asText.getD "")

instance : DecidableRel keyLe := fun _ _ => inferInstanceAs (Decidable (_ ≤ _))

def requiredCheck (reason : Reason) (path : PyValue) : PyValue :=
  .dict [(.str "passed", .bool false), (.str "path", path), (.str "reason", .str reason.text)]

def thresholdCheck (entry : PyValue × PyValue) : Except Stop PyValue := do
  let rule ← mapping entry.2 ("targets.acceptance." ++ entry.1.asText.getD "")
  .ok <| .dict
    [(.str "actual", .none),
      (.str "maximum", item "maximum" rule),
      (.str "minimum", item "minimum" rule),
      (.str "passed", .bool false),
      (.str "path", entry.1)]

/-- What a failed result is made of. -/
structure Verdict where
  candidate : Items
  reason : Reason
  failureEvidence : Items
  identity : Items
  targets : Items
  state : Unavailable
  requiredChecks : List PyValue
  thresholdChecks : List PyValue

def artifactCaps : PyValue :=
  .dict
    [(.str "canonical_csv_max_bytes", .int 1048576),
      (.str "canonical_json_max_bytes", .int 33554432),
      (.str "log_max_bytes", .int 8388608),
      (.str "png_max_bytes", .int 4194304),
      (.str "png_max_count", .int 8),
      (.str "run_directory_max_bytes", .int 268435456)]

/-- The quality of a failed trial. -/
def qualityOf (v : Verdict) : PyValue :=
  .dict
    [(.str "artifact_caps", artifactCaps),
      (.str "artifact_projection_preflight", .str "PASS"),
      (.str "candidate_identity", .dict v.candidate),
      (.str "capture", .dict
        [(.str "clock", .dict []),
          (.str "failures", .list [.str v.reason.text]),
          (.str "overflowed", .none),
          (.str "status", .str "UNAVAILABLE"),
          (.str "streams", .dict [])]),
      (.str "collector_overflow", .none),
      (.str "component_failures", .dict [(.str "infrastructure", .str v.reason.text)]),
      (.str "components", .dict
        [(.str "fault_control", .none),
          (.str "mission", .none),
          (.str "mission_artifact_sha256", .none),
          (.str "orchestrator", .none),
          (.str "scenario", .none)]),
      (.str "contract_revision", .int 2),
      (.str "infrastructure_failure", .dict v.failureEvidence),
      (.str "metric_unavailable_reasons",
        .dict (sortedReasons (addCoreReasons v.reason v.state.reasons)))]

/-- The verdict on a failed trial. -/
def verdictOf (v : Verdict) : PyValue :=
  .dict
    [(.str "authority", .str "robotest_metrics/metrics_analyze"),
      (.str "automated_status", .str "FAIL"),
      (.str "capture_integrity", .bool false),
      (.str "components_complete", .bool false),
      (.str "exit_code", .int 32),
      (.str "mission_success", .bool false),
      (.str "reason", .str "infrastructure_evidence_invalid"),
      (.str "required_metric_checks", .list v.requiredChecks),
      (.str "scenario_metric_gate", .bool false),
      (.str "threshold_checks", .list v.thresholdChecks)]

/-- The document with a verdict. -/
def Verdict.result (v : Verdict) : PyValue :=
  .dict
    [(.str "events", .list
        [.dict (v.failureEvidence.foldl
          (fun event entry => PyValue.setItem (entry.1.asText.getD "") entry.2 event)
          [(.str "kind", .str "infrastructure_failure")])]),
      (.str "identity", .dict v.identity),
      (.str "measurements", .dict v.state.measurements),
      (.str "quality", qualityOf v),
      (.str "targets", .dict v.targets),
      (.str "verdict", verdictOf v)]

/-- The paths of the required metrics, again. -/
def requiredMetrics (targets : Items) : Except Stop (List PyValue) :=
  match item "required_metrics" targets with
  | .list [] => .error (.unavailable (.of "trial context required metrics are missing"))
  | .list required => .ok required
  | _ => .error (.unavailable (.of "trial context required metrics are missing"))

section Composition

variable (F64 : Type) [PyArithmetic F64] (canonicalSha256 : Items → Except Stop String)

/-- Compose the verdict of a trial that failed. -/
def composeInfrastructureFailure (context failure : Items) : Except Stop PyValue := do
  let candidate ← validateTrialContext F64 canonicalSha256 context
  let reason ← boundedReason (item "reason" failure)
  let identity ← mapping (item "identity" context) "trial_context.identity"
  let targets ← mapping (item "targets" context) "trial_context.targets"
  let required ← requiredMetrics targets
  let state ← required.foldlM (markUnavailable reason) {}
  let acceptance ← mapping (item "acceptance" targets) "trial_context.targets.acceptance"
  let thresholdChecks ← (acceptance.insertionSort keyLe).mapM thresholdCheck
  .ok (Verdict.result {
    candidate := candidate
    reason := reason
    failureEvidence := PyValue.setItem "trial_context_sha256" (item "context_sha256" candidate)
      (PyValue.setItem "reason" (.str reason.text) failure)
    identity := identity
    targets := targets
    state := state
    requiredChecks := required.map (requiredCheck reason)
    thresholdChecks := thresholdChecks })

end Composition

end FailureResults

end RunAnalysis

end Metrics

end RobotestLab
