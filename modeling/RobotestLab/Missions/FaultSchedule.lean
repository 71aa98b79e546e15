import RobotestLab.Interfaces.Messages
import RobotestLab.Library.PyValue
import Mathlib.Data.List.Dedup
import Mathlib.Data.List.Sort
import Mathlib.Data.Prod.Lex
import Mathlib.Data.String.Basic

/-!
# Fault schedules of the mission runner

The validation, normalization and hashing of fault schedules by the mission runner, and the
request it sends to the fault proxy. A schedule comes in as untyped data and every check raises
its own text. The bytes of an ASCII text compare as its characters, so identifiers are compared
as texts. The SHA-256 implementation is a parameter.
-/

namespace RobotestLab

namespace Missions

/-! ### Constants -/

def MAX_FAULTS : Nat := 16
def MAX_TIME_NS : Int := 3600000000000
def MIN_START_OFFSET_NS : Int := 500000000
def MAX_RATE : Int := 1000000000
def UINT64_MAX : Int := 18446744073709551615

def TARGET_SCAN : Int := 1
def TARGET_ODOM : Int := 2
def TARGET_IMU : Int := 3
def MODE_PASS_THROUGH : Int := 0
def MODE_LIDAR_DROPOUT : Int := 1
def MODE_ODOM_DRIFT : Int := 4

/-- `[A-Za-z0-9]`. -/
def isIdHead (c : Char) : Bool :=
  ('A' ≤ c && c ≤ 'Z') || ('a' ≤ c && c ≤ 'z') || ('0' ≤ c && c ≤ '9')

/-- `[A-Za-z0-9._-]`. -/
def isIdTail (c : Char) : Bool :=
  isIdHead c || c == '.' || c == '_' || c == '-'

/-- A full match of `^[A-Za-z0-9][A-Za-z0-9._-]{0,63}$`. -/
def matchesFaultId (s : String) : Bool :=
  match s.toList with
  | [] => false
  | c :: cs => isIdHead c && cs.all isIdTail && cs.length ≤ 63

/-- A full match of `^[0-9a-f]{64}$`. -/
def matchesSha256 (s : String) : Bool :=
  s.toList.length = 64 && s.toList.all (fun c => ('0' ≤ c && c ≤ '9') || ('a' ≤ c && c ≤ 'f'))

/-! ### Normalized schedules -/

structure FaultSpec where
  schemaVersion : Int
  faultId : String
  target : Int
  mode : Int
  startOffsetNs : Int
  durationNs : Int
  seed : Int
  parameters : List (String × Int)
  deriving DecidableEq, Repr

/-- The parameters as an object. -/
def FaultSpec.parametersDict (fault : FaultSpec) : Json :=
  .obj (fault.parameters.map fun (name, value) => (name, .int value))

def FaultSpec.asDict (fault : FaultSpec) : Json :=
  .obj [
    ("schema_version", .int fault.schemaVersion),
    ("fault_id", .str fault.faultId),
    ("target", .int fault.target),
    ("mode", .int fault.mode),
    ("start_offset_ns", .int fault.startOffsetNs),
    ("duration_ns", .int fault.durationNs),
    ("seed", .int fault.seed),
    ("parameters", fault.parametersDict)]

structure FaultSchedule where
  schemaVersion : Int
  faults : List FaultSpec
  canonicalJson : String
  sha256 : String
  deriving DecidableEq, Repr

def FaultSchedule.earliestStartOffsetNs (schedule : FaultSchedule) : Option Int :=
  schedule.faults.head?.map FaultSpec.startOffsetNs

/-! ### Validation -/

/-- Raise the text unless the condition holds. -/
def ensure (condition : Bool) (message : String) : Except String Unit :=
  if condition then .ok () else .error message

def integer (value : PyValue) (name : String) (minimum maximum : Int) : Except String Int :=
  match value.asInteger with
  | none => .error (name ++ " must be an integer")
  | some n => do
      ensure (minimum ≤ n && n ≤ maximum)
        (name ++ " must be in [" ++ toString minimum ++ ", " ++ toString maximum ++ "]")
      .ok n

/-- The text for a target and a mode that do not go together. -/
def unsupportedPair (target mode : Int) : String :=
  "unsupported target/mode pair: " ++ toString target ++ "/" ++ toString mode

def parameters (target mode : Int) (value : PyValue) : Except String (List (String × Int)) :=
  match value.asMapping with
  | none => .error "parameters must be an object"
  | some items =>
      if mode = MODE_PASS_THROUGH ∨ mode = MODE_LIDAR_DROPOUT then do
        ensure items.isEmpty "pass-through and LiDAR dropout parameters must be empty"
        .ok []
      else if mode = MODE_ODOM_DRIFT ∧ target = TARGET_ODOM then do
        ensure (PyValue.hasKeys ["x_rate_nm_per_s", "yaw_rate_nrad_per_s"] items)
          "odometry drift parameters must contain exactly both rates"
        let xRate ← integer (PyValue.item "x_rate_nm_per_s" items) "x_rate_nm_per_s"
          (-MAX_RATE) MAX_RATE
        let yawRate ← integer (PyValue.item "yaw_rate_nrad_per_s" items) "yaw_rate_nrad_per_s"
          (-MAX_RATE) MAX_RATE
        ensure (!(xRate == 0 && yawRate == 0)) "at least one odometry drift rate must be nonzero"
        .ok [("x_rate_nm_per_s", xRate), ("yaw_rate_nrad_per_s", yawRate)]
      else .error (unsupportedPair target mode)

/-- The fields of a fault. -/
def faultFields : List String :=
  ["schema_version", "fault_id", "target", "mode", "start_offset_ns", "duration_ns", "seed",
    "parameters"]

/-- The identifier, when it matches the pattern. -/
def faultIdOf (value : PyValue) : Except String String :=
  match value.asText with
  | some faultId =>
      if matchesFaultId faultId then .ok faultId
      else .error "fault_id does not match the bounded ASCII contract"
  | none => .error "fault_id does not match the bounded ASCII contract"

def fault (value : PyValue) : Except String FaultSpec :=
  match value.asMapping with
  | none => .error "each fault must be an object"
  | some items => do
      ensure (PyValue.hasKeys faultFields items) "fault fields do not match the canonical contract"
      ensure ((PyValue.item "schema_version" items).equalsInt 1) "fault schema_version must be 1"
      let faultId ← faultIdOf (PyValue.item "fault_id" items)
      let target ← integer (PyValue.item "target" items) "target" TARGET_SCAN TARGET_IMU
      let mode ← integer (PyValue.item "mode" items) "mode" MODE_PASS_THROUGH MODE_ODOM_DRIFT
      ensure (mode == MODE_PASS_THROUGH || (target == TARGET_SCAN && mode == MODE_LIDAR_DROPOUT) ||
        (target == TARGET_ODOM && mode == MODE_ODOM_DRIFT)) (unsupportedPair target mode)
      let start ← integer (PyValue.item "start_offset_ns" items) "start_offset_ns" 0 MAX_TIME_NS
      let duration ← integer (PyValue.item "duration_ns" items) "duration_ns" 1 MAX_TIME_NS
      ensure (MIN_START_OFFSET_NS ≤ start)
        "non-empty fault start_offset_ns must be at least 500000000"
      ensure (start + duration ≤ MAX_TIME_NS) "fault interval exceeds the 3600-second horizon"
      let seed ← integer (PyValue.item "seed" items) "seed" 0 UINT64_MAX
      let parameters ← parameters target mode (PyValue.item "parameters" items)
      .ok {
        schemaVersion := 1
        faultId := faultId
        target := target
        mode := mode
        startOffsetNs := start
        durationNs := duration
        seed := seed
        parameters := parameters }

/-! ### Schedules -/

/-- The key the faults are sorted by. -/
def FaultSpec.sortKey (fault : FaultSpec) : Int ×ₗ Int ×ₗ String :=
  toLex (fault.startOffsetNs, toLex (fault.target, fault.faultId))

/-- `sorted` with the order of the keys. -/
def sortedFaults (faults : List FaultSpec) : List FaultSpec :=
  faults.insertionSort (fun left right => left.sortKey ≤ right.sortKey)

/-- The loop over the sorted faults that rejects overlapping intervals of one target. -/
def checkIntervals (byTarget : Int → List FaultSpec) : List FaultSpec → Except String Unit
  | [] => .ok ()
  | fault :: rest => do
      let previous := byTarget fault.target
      ensure (previous.getLast?.all fun last =>
          last.startOffsetNs + last.durationNs ≤ fault.startOffsetNs)
        "same-target fault intervals must not overlap"
      checkIntervals (Function.update byTarget fault.target (previous ++ [fault])) rest

/-- The canonical content of a schedule. -/
def content (faults : List FaultSpec) : Json :=
  .obj [("schema_version", .int 1), ("faults", .arr (faults.map FaultSpec.asDict))]

/-- The hexadecimal digits of a digest. -/
def hexdigest (digest : List UInt8) : String :=
  String.ofList (digest.flatMap fun byte =>
    [Nat.digitChar (byte.toNat / 16), Nat.digitChar (byte.toNat % 16)])

/-- The comparison with the hash that the caller claims. -/
def checkClaim (claimedSha256 : PyValue) (digest : String) : Except String Unit :=
  match claimedSha256 with
  | .none => .ok ()
  | .str claimed => do
      ensure (matchesSha256 claimed) "claimed schedule hash must be lowercase SHA-256"
      ensure (claimed == digest)
        ("claimed schedule hash " ++ claimed ++ " does not match computed " ++ digest)
  | _ => .error "claimed schedule hash must be lowercase SHA-256"

def buildFaultSchedule (sha256 : String → List UInt8) (rawFaults : PyValue)
    (claimedSha256 : PyValue := .none) : Except String FaultSchedule :=
  match rawFaults.asSequence with
  | none => .error "faults must be an array"
  | some rawFaults => do
      ensure (rawFaults.length ≤ MAX_FAULTS) ("fault count exceeds " ++ toString MAX_FAULTS)
      let faults := sortedFaults (← rawFaults.mapM fault)
      let identifiers := faults.map FaultSpec.faultId
      ensure (identifiers.length == identifiers.dedup.length) "fault_id values must be unique"
      checkIntervals (fun _ => []) faults
      let canonicalJson := (content faults).dumps
      let digest := hexdigest (sha256 canonicalJson)
      checkClaim claimedSha256 digest
      .ok {
        schemaVersion := 1
        faults := faults
        canonicalJson := canonicalJson
        sha256 := digest }

/-! ### Requests -/

def durationFromNs (value : Int) : Duration where
  sec := Int32.ofInt (value / 1000000000)
  nanosec := UInt32.ofInt (value % 1000000000)

/-- The message of a fault, as `start_preload` fills it in. -/
def faultMessage (fault : FaultSpec) : RobotestLab.FaultSpec where
  schemaVersion := UInt32.ofInt fault.schemaVersion
  faultId := fault.faultId
  target := UInt8.ofInt fault.target
  mode := UInt8.ofInt fault.mode
  startOffset := durationFromNs fault.startOffsetNs
  duration := durationFromNs fault.durationNs
  seed := UInt64.ofInt fault.seed
  parametersJson := fault.parametersDict.dumps

/-- The request that `start_preload` sends. -/
def preloadRequestOf (schedule : FaultSchedule) : PreloadRequest where
  scheduleHash := schedule.sha256
  faults := schedule.faults.map faultMessage

end Missions

end RobotestLab
