import RobotestLab.Faults.Schedule
import Mathlib.Data.Rat.Defs

/-!
# Validation and transformation of sensor messages

The checks a sensor message passes before the fault proxy looks at it, and the planar drift
applied to odometry. The two floating-point types are parameters: `Binary32` and `Binary64`
list the operations the code performs on them, and `Tf2` the quaternion operations of the
transform library. No law of arithmetic is assumed.
-/

namespace RobotestLab

/-- The operations on single-precision numbers that the validation uses. -/
class Binary32 (F32 : Type) where
  isFinite : F32 → Bool
  le : F32 → F32 → Bool
  lt : F32 → F32 → Bool
  zero : F32

/-- The operations on double-precision numbers that validation and drift use. `ofRat` rounds a
decimal literal or a 64-bit integer to the nearest number. -/
class Binary64 (F64 : Type) where
  isFinite : F64 → Bool
  le : F64 → F64 → Bool
  eq : F64 → F64 → Bool
  ofRat : ℚ → F64
  add : F64 → F64 → F64
  sub : F64 → F64 → F64
  mul : F64 → F64 → F64
  div : F64 → F64 → F64
  abs : F64 → F64
  cos : F64 → F64
  sin : F64 → F64

/-- The operations of `tf2::Quaternion`. -/
class Tf2 (F64 : Type) where
  setRPY : F64 → F64 → F64 → Quaternion F64
  mul : Quaternion F64 → Quaternion F64 → Quaternion F64
  normalize : Quaternion F64 → Quaternion F64

/-! ### Validation -/

def validStamp (stamp : Time) : Bool :=
  0 ≤ stamp.sec && stamp.nanosec < 1000000000

/-- The stamps of sensor messages and of control calls are checked alike. -/
theorem validStamp_eq_normalizedTime (stamp : Time) :
  validStamp stamp = normalizedTime stamp
  := rfl

def validFrame (actual expected : String) : Bool :=
  !actual.isEmpty && actual == expected && actual.toList.head? != some '/'

section Validation

variable {F32 F64 : Type} [Binary32 F32] [Binary64 F64]

def kQuaternionNormTolerance : F64 := Binary64.ofRat (1 / 1000)

def normalizedQuaternion (q : Quaternion F64) : Bool :=
  [q.x, q.y, q.z, q.w].all Binary64.isFinite &&
    let squaredNorm :=
      Binary64.add (Binary64.add (Binary64.add (Binary64.mul q.x q.x) (Binary64.mul q.y q.y))
        (Binary64.mul q.z q.z)) (Binary64.mul q.w q.w)
    Binary64.le (Binary64.abs (Binary64.sub squaredNorm (Binary64.ofRat 1)))
      kQuaternionNormTolerance

def finiteVector (v : Vector3 F64) : Bool :=
  Binary64.isFinite v.x && Binary64.isFinite v.y && Binary64.isFinite v.z

/-- A scan is copied or rejected with a reason. -/
def validateAndCopyScan (input : LaserScan F32) (expectedFrame : String) :
    Except String (LaserScan F32) :=
  if !validStamp input.header.stamp then
    .error "scan stamp is outside the ROS time domain"
  else if !validFrame input.header.frameId expectedFrame then
    .error "scan frame_id does not match the configured sensor frame"
  else if !Binary32.isFinite input.angleMin || !Binary32.isFinite input.angleMax ||
      !Binary32.isFinite input.angleIncrement ||
      Binary32.le input.angleIncrement Binary32.zero ||
      !Binary32.isFinite input.timeIncrement ||
      Binary32.lt input.timeIncrement Binary32.zero ||
      !Binary32.isFinite input.scanTime || Binary32.lt input.scanTime Binary32.zero ||
      !Binary32.isFinite input.rangeMin || Binary32.lt input.rangeMin Binary32.zero ||
      !Binary32.isFinite input.rangeMax || Binary32.le input.rangeMax input.rangeMin ||
      input.ranges.isEmpty then
    .error "scan metadata or sample count is invalid"
  else .ok input

/-- An odometry message is copied or rejected with a reason. -/
def validateAndCopyOdom (input : Odometry F64) (expectedFrame expectedChildFrame : String) :
    Except String (Odometry F64) :=
  if !validStamp input.header.stamp then
    .error "odometry stamp is outside the ROS time domain"
  else if !validFrame input.header.frameId expectedFrame ||
      !validFrame input.childFrameId expectedChildFrame then
    .error "odometry frame_id or child_frame_id violates the TF contract"
  else if !finiteVector input.position || !normalizedQuaternion input.orientation ||
      !finiteVector input.twistLinear || !finiteVector input.twistAngular ||
      !input.poseCovariance.all Binary64.isFinite ||
      !input.twistCovariance.all Binary64.isFinite then
    .error "odometry contains a non-finite value or non-normalized orientation"
  else .ok input

/-- An IMU message is copied or rejected with a reason. -/
def validateAndCopyImu (input : Imu F64) (expectedFrame : String) : Except String (Imu F64) :=
  if !validStamp input.header.stamp then
    .error "IMU stamp is outside the ROS time domain"
  else if !validFrame input.header.frameId expectedFrame then
    .error "IMU frame_id does not match the configured sensor frame"
  else
    let orientationUnavailable :=
      Binary64.eq (input.orientationCovariance.get 0) (Binary64.ofRat (-1))
    if (!orientationUnavailable && !normalizedQuaternion input.orientation) ||
        !finiteVector input.angularVelocity || !finiteVector input.linearAcceleration ||
        !input.orientationCovariance.all Binary64.isFinite ||
        !input.angularVelocityCovariance.all Binary64.isFinite ||
        !input.linearAccelerationCovariance.all Binary64.isFinite then
      .error "IMU contains a non-finite value or non-normalized orientation"
    else .ok input

/-- An accepted scan is copied unchanged, and its stamp is normalized. -/
theorem validateAndCopyScan_eq_ok {input copy : LaserScan F32} {frame : String}
    (h : validateAndCopyScan input frame = .ok copy) :
  copy = input ∧ normalizedTime input.header.stamp = true
  := by
  unfold validateAndCopyScan at h
  split_ifs at h with hstamp
  obtain rfl := Except.ok.inj h
  exact ⟨rfl, by simpa [validStamp_eq_normalizedTime] using hstamp⟩

/-- An accepted odometry message is copied unchanged, and its stamp is normalized. -/
theorem validateAndCopyOdom_eq_ok {input copy : Odometry F64} {frame childFrame : String}
    (h : validateAndCopyOdom input frame childFrame = .ok copy) :
  copy = input ∧ normalizedTime input.header.stamp = true
  := by
  unfold validateAndCopyOdom at h
  split_ifs at h with hstamp
  obtain rfl := Except.ok.inj h
  exact ⟨rfl, by simpa [validStamp_eq_normalizedTime] using hstamp⟩

/-- An accepted IMU message is copied unchanged, and its stamp is normalized. -/
theorem validateAndCopyImu_eq_ok {input copy : Imu F64} {frame : String}
    (h : validateAndCopyImu input frame = .ok copy) :
  copy = input ∧ normalizedTime input.header.stamp = true
  := by
  unfold validateAndCopyImu at h
  split_ifs at h with hstamp
  simp only at h
  split_ifs at h
  obtain rfl := Except.ok.inj h
  exact ⟨rfl, by simpa [validStamp_eq_normalizedTime] using hstamp⟩

end Validation

/-! ### Drift -/

section Drift

variable {F64 : Type} [Binary64 F64] [Tf2 F64]

/-- The odometry message drifted by `fault` after `elapsedNs` nanoseconds. -/
def applyOdomDrift (input : Odometry F64) (fault : CanonicalFault) (elapsedNs : Int) :
    Odometry F64 :=
  let perSecond : F64 := Binary64.ofRat 1000000000
  let elapsedS : F64 := Binary64.div (Binary64.ofRat elapsedNs) perSecond
  let xRate : F64 := Binary64.div (Binary64.ofRat fault.xRateNmPerS) perSecond
  let yawRate : F64 := Binary64.div (Binary64.ofRat fault.yawRateNradPerS) perSecond
  let dx := Binary64.mul xRate elapsedS
  let deltaYaw := Binary64.mul yawRate elapsedS
  let cosine := Binary64.cos deltaYaw
  let sine := Binary64.sin deltaYaw
  let rawX := input.position.x
  let rawY := input.position.y
  let driftOrientation := Tf2.setRPY (Binary64.ofRat 0) (Binary64.ofRat 0) deltaYaw
  { input with
    position := {
      x := Binary64.add (Binary64.sub (Binary64.mul cosine rawX) (Binary64.mul sine rawY)) dx
      y := Binary64.add (Binary64.mul sine rawX) (Binary64.mul cosine rawY)
      z := input.position.z }
    orientation := Tf2.normalize (Tf2.mul driftOrientation input.orientation) }

end Drift

/-- The transform from the frame of an odometry message to its child frame. -/
def makeOdomTransform {F64 : Type} (validatedOdom : Odometry F64) : TransformStamped F64 where
  header := validatedOdom.header
  childFrameId := validatedOdom.childFrameId
  translation := validatedOdom.position
  rotation := validatedOdom.orientation

end RobotestLab
