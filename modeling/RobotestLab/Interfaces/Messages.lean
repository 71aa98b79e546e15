import Mathlib.Tactic.Common

/-!
# Messages

The messages and service requests that cross the boundary of the fault proxy, with the
fixed-width types and the numeric constants of their interface definitions. Stamps and
durations count seconds and nanoseconds apart. Sensor messages carry numbers of the two
floating-point types `F32` and `F64`, which stay parameters.
-/

namespace RobotestLab

/-! ### Times and identifiers -/

/-- `builtin_interfaces/Time`. -/
structure Time where
  sec : Int32 := 0
  nanosec : UInt32 := 0
  deriving DecidableEq, Repr

/-- `builtin_interfaces/Duration`. -/
structure Duration where
  sec : Int32 := 0
  nanosec : UInt32 := 0
  deriving DecidableEq, Repr

/-- `unique_identifier_msgs/UUID`. -/
structure UUID where
  uuid : Vector UInt8 16 := Vector.replicate 16 0
  deriving DecidableEq, Repr

/-- `std_msgs/Header`. -/
structure Header where
  stamp : Time := {}
  frameId : String := ""
  deriving DecidableEq, Repr

/-! ### Fault specifications -/

/-- `robotest_interfaces/FaultSpec`. -/
structure FaultSpec where
  schemaVersion : UInt32
  faultId : String
  target : UInt8
  mode : UInt8
  startOffset : Duration
  duration : Duration
  seed : UInt64
  parametersJson : String
  deriving DecidableEq, Repr

namespace FaultSpec

def SCHEMA_VERSION : UInt32 := 1

def TARGET_UNSPECIFIED : UInt8 := 0
def TARGET_SCAN : UInt8 := 1
def TARGET_ODOM : UInt8 := 2
def TARGET_IMU : UInt8 := 3

def MODE_PASS_THROUGH : UInt8 := 0
def MODE_LIDAR_DROPOUT : UInt8 := 1
def MODE_ODOM_DRIFT : UInt8 := 4

end FaultSpec

/-! ### Fault events -/

/-- `robotest_interfaces/FaultEvent`. -/
structure FaultEvent where
  header : Header := {}
  schemaVersion : UInt32 := 0
  eventSequence : UInt64 := 0
  eventType : UInt8 := 0
  stateBefore : UInt8 := 0
  stateAfter : UInt8 := 0
  accepted : Bool := false
  replayed : Bool := false
  requestedScheduleHash : String := ""
  committedScheduleHash : String := ""
  requestedGeneration : UInt64 := 0
  committedGeneration : UInt64 := 0
  requestedFaultCount : UInt32 := 0
  committedFaultCount : UInt32 := 0
  requestedGoalUuid : UUID := {}
  boundGoalUuid : UUID := {}
  requestedT0 : Time := {}
  boundT0 : Time := {}
  armCommitTime : Time := {}
  armMarginNs : Int := 0
  faultId : String := ""
  target : UInt8 := 0
  mode : UInt8 := 0
  configuredActivationTime : Time := {}
  configuredDeactivationTime : Time := {}
  actualTime : Time := {}
  seed : UInt64 := 0
  inputSequence : UInt64 := 0
  rawInputCount : UInt64 := 0
  validatedOutputCount : UInt64 := 0
  affectedMessageCount : UInt64 := 0
  detail : String := ""
  deriving DecidableEq, Repr

namespace FaultEvent

def SCHEMA_VERSION : UInt32 := 2

def STATE_RESET : UInt8 := 0
def STATE_PREPARED : UInt8 := 1
def STATE_ARMED : UInt8 := 2

def EVENT_SCHEDULE_LOADED : UInt8 := 1
def EVENT_SCHEDULE_REJECTED : UInt8 := 2
def EVENT_RESET : UInt8 := 3
def EVENT_ACTIVATED : UInt8 := 4
def EVENT_FIRST_AFFECTED : UInt8 := 5
def EVENT_DEACTIVATED : UInt8 := 6
def EVENT_ARMED : UInt8 := 7
def EVENT_ARM_REJECTED : UInt8 := 8
def EVENT_FIRST_RESTORED : UInt8 := 9

end FaultEvent

/-! ### Control requests -/

/-- The request of `robotest_interfaces/PreloadFaultSchedule`. -/
structure PreloadRequest where
  scheduleHash : String
  faults : List FaultSpec
  deriving DecidableEq, Repr

/-- The request of `robotest_interfaces/ArmFaultSchedule`. -/
structure ArmRequest where
  scheduleHash : String
  generation : UInt64
  goalUuid : UUID
  acceptedGoalStamp : Time
  deriving DecidableEq, Repr

/-! ### Control responses -/

/-- The response of `robotest_interfaces/PreloadFaultSchedule`. -/
structure PreloadResponse where
  accepted : Bool
  replayed : Bool
  state : UInt8
  scheduleHash : String
  loadedCount : UInt32
  generation : UInt64
  message : String
  deriving DecidableEq, Repr

/-- The response of `robotest_interfaces/ArmFaultSchedule`. -/
structure ArmResponse where
  accepted : Bool
  replayed : Bool
  state : UInt8
  scheduleHash : String
  generation : UInt64
  goalUuid : UUID
  acceptedGoalStamp : Time
  armCommitStamp : Time
  armMarginNs : Int
  message : String
  deriving DecidableEq, Repr

/-- The response of `std_srvs/Trigger`. -/
structure TriggerResponse where
  success : Bool
  message : String
  deriving DecidableEq, Repr

/-! ### Sensor messages -/

/-- `sensor_msgs/LaserScan`. -/
structure LaserScan (F32 : Type) where
  header : Header
  angleMin : F32
  angleMax : F32
  angleIncrement : F32
  timeIncrement : F32
  scanTime : F32
  rangeMin : F32
  rangeMax : F32
  ranges : List F32
  intensities : List F32

/-- `geometry_msgs/Vector3`, and `geometry_msgs/Point`, which has the same fields. -/
structure Vector3 (F64 : Type) where
  x : F64
  y : F64
  z : F64

/-- `geometry_msgs/Quaternion`. -/
structure Quaternion (F64 : Type) where
  x : F64
  y : F64
  z : F64
  w : F64

/-- `nav_msgs/Odometry`, with the nested pose and twist records flattened. -/
structure Odometry (F64 : Type) where
  header : Header
  childFrameId : String
  position : Vector3 F64
  orientation : Quaternion F64
  poseCovariance : Vector F64 36
  twistLinear : Vector3 F64
  twistAngular : Vector3 F64
  twistCovariance : Vector F64 36

/-- `sensor_msgs/Imu`. -/
structure Imu (F64 : Type) where
  header : Header
  orientation : Quaternion F64
  orientationCovariance : Vector F64 9
  angularVelocity : Vector3 F64
  angularVelocityCovariance : Vector F64 9
  linearAcceleration : Vector3 F64
  linearAccelerationCovariance : Vector F64 9

/-- `geometry_msgs/TransformStamped`, with the nested transform flattened. -/
structure TransformStamped (F64 : Type) where
  header : Header
  childFrameId : String
  translation : Vector3 F64
  rotation : Quaternion F64

end RobotestLab
