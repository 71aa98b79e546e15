import RobotestLab.Metrics.Geometry

/-!
# Poses at an instant

The pose that a stream of stamped poses has at an instant: the pose with that stamp, or the one
between its neighbours.
-/

namespace RobotestLab

namespace Metrics

open PyFloat PyArithmetic

variable {F64 : Type} [PyArithmetic F64]

def ALIGNMENT_GAP_NS : Int := 250000000

/-- `bisect_left` in a sorted list. -/
def bisectLeft (stamps : List Int) (x : Int) : Nat := stamps.countP (· < x)

/-- `bisect_right` in a sorted list. -/
def bisectRight (stamps : List Int) (x : Int) : Nat := stamps.countP (· ≤ x)

/-- The quotient of two integers. -/
def quotient (a b : Int) : Except MetricError F64 :=
  match divide a b with
  | .ok q => .ok q
  | .error _ => .error .overflow

def poseOf (sample : Evidence) (name : String) : Except MetricError (PlanarPose F64) := do
  let x ← requireFinite (PyValue.item "x_m" sample) (name ++ ".x_m")
  let y ← requireFinite (PyValue.item "y_m" sample) (name ++ ".y_m")
  if sample.any fun item => item.1.isKey "yaw_rad" then
    let yaw ← requireFinite (PyValue.item "yaw_rad" sample) (name ++ ".yaw_rad")
    .ok ⟨x, y, some yaw⟩
  else .ok ⟨x, y, none⟩

structure InterpolatedPose (F64 : Type) extends PlanarPose F64 where
  stampNs : Int
  interpolated : Bool
  sourceBeforeStampNs : Int
  sourceAfterStampNs : Int
  sourceGapNs : Int

/-- The yaw between two yaws, when both are there. -/
def interpolateYaw (before after : Option F64) (fraction : F64) : Except MetricError (Option F64) :=
  match before, after with
  | some before, some after => (interpolateAngle before after fraction).map some
  | _, _ => .ok none

/-- The pose between two samples. -/
def interpolateBetween (before after : Evidence) (index : Nat) (beforeStamp afterStamp target : Int)
    (maxGapNs : Int) : Except MetricError (InterpolatedPose F64) :=
  let gap := afterStamp - beforeStamp
  if maxGapNs < gap then
    unavailable ("pose bracket gap " ++ toString gap ++ " exceeds " ++ toString maxGapNs)
  else do
    let fraction : F64 ← quotient (target - beforeStamp) gap
    let beforePose ← poseOf before ("samples[" ++ toString (index - 1) ++ "]")
    let afterPose ← poseOf after ("samples[" ++ toString index ++ "]")
    let yaw ← interpolateYaw beforePose.yaw afterPose.yaw fraction
    .ok {
      x := add beforePose.x (mul fraction (sub afterPose.x beforePose.x))
      y := add beforePose.y (mul fraction (sub afterPose.y beforePose.y))
      yaw := yaw
      stampNs := target
      interpolated := true
      sourceBeforeStampNs := beforeStamp
      sourceAfterStampNs := afterStamp
      sourceGapNs := gap }

/-- The pose of a sample with the stamp. -/
def exactPose (sample : Evidence) (index : Nat) (target : Int) :
    Except MetricError (InterpolatedPose F64) := do
  let pose ← poseOf sample ("samples[" ++ toString index ++ "]")
  .ok {
    toPlanarPose := pose
    stampNs := target
    interpolated := false
    sourceBeforeStampNs := target
    sourceAfterStampNs := target
    sourceGapNs := 0 }

/-- The pose at an instant, from the samples and their stamps. -/
def poseAt (samples : List Evidence) (stamps : List Int) (target maxGapNs : Int) :
    Except MetricError (InterpolatedPose F64) :=
  let index := bisectLeft stamps target
  if stamps[index]? = some target then exactPose (samples.getD index []) index target
  else if index = 0 ∨ index = samples.length then
    unavailable ("pose stream does not bracket " ++ toString target)
  else
    interpolateBetween (samples.getD (index - 1) []) (samples.getD index []) index
      (stamps.getD (index - 1) 0) (stamps.getD index 0) target maxGapNs

def interpolatePose (samples : List Evidence) (target maxGapNs : Int) :
    Except MetricError (InterpolatedPose F64) :=
  if maxGapNs ≤ 0 then .error (.value "max_gap_ns must be positive")
  else if samples.isEmpty then unavailable "pose stream is empty"
  else do
    ensureStrictlyIncreasing samples
    let stamps ← samples.mapM fun sample => requireInt (stampItem sample) "sample.stamp_ns"
    poseAt samples stamps target maxGapNs

end Metrics

end RobotestLab
