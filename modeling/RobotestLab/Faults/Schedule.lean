import RobotestLab.Interfaces.Messages
import RobotestLab.Library.Json
import RobotestLab.Library.Machine
import Mathlib.Data.List.Perm.Basic
import Mathlib.Data.List.Sort
import Mathlib.Data.Prod.Lex
import Mathlib.Data.String.Basic

/-!
# Canonical fault schedules

The validation, normalization and serialization of fault specifications by the fault proxy.
Nanosecond quantities are signed 64-bit: every addition, subtraction and multiplication is
checked, and an overflow, which the language leaves undefined, is the failure
`Throw.signedOverflow`. The JSON reader and the SHA-256 implementation are libraries outside
the repository and come in as the record `Libraries`.
-/

namespace RobotestLab

/-- The ways a call leaves without an answer: an exception of the standard library, with its
text, or undefined behaviour in signed arithmetic. -/
inductive Throw where
  | overflowError (what : String)
  | logicError (what : String)
  | invalidArgument (what : String)
  | signedOverflow
  deriving DecidableEq, Repr

/-- The answer of the message digest interface of OpenSSL. -/
inductive EvpDigest where
  | initFailed
  | finalFailed
  | digest (bytes : List UInt8)
  deriving DecidableEq, Repr

/-- The libraries the proxy is linked with: `parseJson` is `nlohmann::json::parse`, with the
members of an object in the order of the text and repeated keys kept, and `evpSha256` is the
SHA-256 digest of OpenSSL. -/
structure Libraries where
  parseJson : String → Option Json
  evpSha256 : String → EvpDigest

/-! ### Constants -/

def kMaximumFaultCount : Nat := 16
def kNanosecondsPerSecond : Int := 1000000000
def kMinimumArmingMarginNanoseconds : Int := 500000000
def kMaximumScheduleNanoseconds : Int := 3600000000000
def kMaximumDriftRateScaled : Int := 1000000000
def kSha256ByteCount : Nat := 32

/-! ### Signed arithmetic -/

/-- `std::int64_t` addition. -/
def addI64 (a b : Int) : Except Throw Int := Int64Arith.add .signedOverflow a b

/-- `std::int64_t` subtraction. -/
def subI64 (a b : Int) : Except Throw Int := Int64Arith.sub .signedOverflow a b

/-- `std::int64_t` multiplication. -/
def mulI64 (a b : Int) : Except Throw Int := Int64Arith.mul .signedOverflow a b

/-! ### Times and identifiers -/

def normalizedTime (value : Time) : Bool :=
  0 ≤ value.sec && value.nanosec < 1000000000

def positiveTime (value : Time) : Bool :=
  normalizedTime value && (0 < value.sec || 0 < value.nanosec)

def normalizedDuration (value : Duration) : Bool :=
  0 ≤ value.sec && value.nanosec < 1000000000

def timeToNanoseconds (value : Time) : Except Throw Int := do
  let seconds ← mulI64 value.sec.toInt kNanosecondsPerSecond
  addI64 seconds value.nanosec.toNat

def durationToNanoseconds (value : Duration) : Except Throw Int := do
  let seconds ← mulI64 value.sec.toInt kNanosecondsPerSecond
  addI64 seconds value.nanosec.toNat

/-- The quotient and the remainder are cast to the narrower types of the message. -/
def nanosecondsToTime (value : Int) : Time where
  sec := Int32.ofInt (value.tdiv kNanosecondsPerSecond)
  nanosec := UInt32.ofInt (value.tmod kNanosecondsPerSecond)

def sameTime (left right : Time) : Bool :=
  left.sec == right.sec && left.nanosec == right.nanosec

def sameUuid (left right : UUID) : Bool :=
  left.uuid == right.uuid

def zeroUuid (value : UUID) : Bool :=
  value.uuid.all (· == 0)

def lowercaseSha256 (value : String) : Bool :=
  value.utf8ByteSize = 64 &&
    value.toList.all (fun c => ('0' ≤ c && c ≤ '9') || ('a' ≤ c && c ≤ 'f'))

def asciiAlphanumeric (c : Char) : Bool :=
  ('0' ≤ c && c ≤ '9') || ('A' ≤ c && c ≤ 'Z') || ('a' ≤ c && c ≤ 'z')

def validFaultId (value : String) : Bool :=
  match value.toList with
  | [] => false
  | front :: _ =>
      value.utf8ByteSize ≤ 64 && asciiAlphanumeric front &&
        value.toList.all (fun c => asciiAlphanumeric c || c == '.' || c == '_' || c == '-')

/-! ### Parameters -/

/-- A number of the text is read as unsigned when it is not negative and fits 64 bits, as
signed when it is negative and fits 64 bits, and as floating point otherwise. -/
def boundedJsonInteger : Json → Option Int
  | .int n =>
      if 0 ≤ n ∧ n ≤ 18446744073709551615 then
        if Int64Arith.greatest < n then none else some n
      else if Int64Arith.least ≤ n ∧ n < 0 then some n
      else none
  | _ => none

/-- The events of `nlohmann::json::parse` that its callback sees. -/
inductive ParseEvent where
  | objectStart
  | objectEnd
  | arrayStart
  | arrayEnd
  | key (name : String)
  | value
  deriving DecidableEq, Repr

mutual

/-- The events of reading a value. -/
def parseEvents : Json → List ParseEvent
  | .arr vs => .arrayStart :: (elementEvents vs ++ [.arrayEnd])
  | .obj ms => .objectStart :: (memberEvents ms ++ [.objectEnd])
  | _ => [.value]

/-- The events of reading the elements of an array. -/
def elementEvents : List Json → List ParseEvent
  | [] => []
  | v :: vs => parseEvents v ++ elementEvents vs

/-- The events of reading the members of an object. -/
def memberEvents : List (String × Json) → List ParseEvent
  | [] => []
  | (k, v) :: ms => .key k :: (parseEvents v ++ memberEvents ms)

end

/-- What the parser callback keeps: whether a key was repeated, and the keys seen in each
object that is still open, innermost first. -/
structure CallbackState where
  duplicateKey : Bool := false
  objectKeys : List (List String) := []

def parserCallback (st : CallbackState) : ParseEvent → CallbackState
  | .objectStart => { st with objectKeys := [] :: st.objectKeys }
  | .key name =>
      match st.objectKeys with
      | [] => { st with duplicateKey := true }
      | keys :: outer =>
          if keys.contains name then { st with duplicateKey := true }
          else { st with objectKeys := (name :: keys) :: outer }
  | .objectEnd =>
      match st.objectKeys with
      | [] => st
      | _ :: outer => { st with objectKeys := outer }
  | _ => st

/-- The fields of an accepted `ParsedParameters`. -/
structure ParsedParameters where
  xRateNmPerS : Int := 0
  yawRateNradPerS : Int := 0
  canonicalJson : String
  deriving DecidableEq, Repr

/-- The canonical text of the two drift rates. -/
def driftJson (xRate yawRate : Int) : String :=
  "\x7b\"x_rate_nm_per_s\":" ++ toString xRate ++ ",\"yaw_rate_nrad_per_s\":" ++
    toString yawRate ++ "\x7d"

def parseDrift (members : List (String × Json)) : Except String ParsedParameters :=
  match members.lookup "x_rate_nm_per_s", members.lookup "yaw_rate_nrad_per_s" with
  | some x, some yaw =>
      if members.length ≠ 2 then
        .error "odometry drift requires exactly x_rate_nm_per_s and yaw_rate_nrad_per_s"
      else match boundedJsonInteger x, boundedJsonInteger yaw with
        | some xRate, some yawRate =>
            if xRate < -kMaximumDriftRateScaled ∨ kMaximumDriftRateScaled < xRate ∨
                yawRate < -kMaximumDriftRateScaled ∨ kMaximumDriftRateScaled < yawRate then
              .error "odometry drift rate exceeds the Phase 3 bound"
            else if xRate = 0 ∧ yawRate = 0 then
              .error "odometry drift must configure at least one nonzero rate"
            else
              .ok { xRateNmPerS := xRate, yawRateNradPerS := yawRate
                    canonicalJson := driftJson xRate yawRate }
        | _, _ => .error "odometry drift rates must be signed 64-bit integers"
  | _, _ => .error "odometry drift requires exactly x_rate_nm_per_s and yaw_rate_nrad_per_s"

def parseParameters (lib : Libraries) (fault : FaultSpec) : Except String ParsedParameters :=
  if fault.parametersJson.isEmpty then
    .error "parameters_json must contain a JSON object"
  else match lib.parseJson fault.parametersJson with
    | none => .error "parameters_json is not strict UTF-8 JSON"
    | some parameters =>
        if ((parseEvents parameters).foldl parserCallback {}).duplicateKey then
          .error "parameters_json contains a duplicate object key"
        else match parameters with
          | .obj members =>
              if fault.mode = FaultSpec.MODE_PASS_THROUGH ∨
                  fault.mode = FaultSpec.MODE_LIDAR_DROPOUT then
                if members ≠ [] then
                  .error "pass-through and LiDAR dropout parameters must be {}"
                else .ok { canonicalJson := "{}" }
              else if fault.mode ≠ FaultSpec.MODE_ODOM_DRIFT then
                .error "fault mode is not implemented in Phase 3"
              else parseDrift members
          | _ => .error "parameters_json must decode to an object"

def validTargetMode (target mode : UInt8) : Bool :=
  if mode = FaultSpec.MODE_PASS_THROUGH then
    target = FaultSpec.TARGET_SCAN || target = FaultSpec.TARGET_ODOM ||
      target = FaultSpec.TARGET_IMU
  else if mode = FaultSpec.MODE_LIDAR_DROPOUT then target = FaultSpec.TARGET_SCAN
  else if mode = FaultSpec.MODE_ODOM_DRIFT then target = FaultSpec.TARGET_ODOM
  else false

/-! ### Canonical schedules -/

structure CanonicalFault where
  specification : FaultSpec
  startOffsetNs : Int
  durationNs : Int
  xRateNmPerS : Int
  yawRateNradPerS : Int
  deriving DecidableEq, Repr

structure CanonicalSchedule where
  faults : List CanonicalFault := []
  bytes : String := ""
  sha256 : String := ""
  earliestStartOffsetNs : Option Int := none
  deriving DecidableEq, Repr

/-- Why a schedule is not canonicalized: it is rejected with a message, or the computation
does not return. -/
inductive ScheduleFailure where
  | rejected (message : String)
  | threw (exception : Throw)
  deriving DecidableEq, Repr

/-- A computation that may throw, among computations that may also reject. -/
def throwing {α : Type} : Except Throw α → Except ScheduleFailure α
  | .ok a => .ok a
  | .error e => .error (.threw e)

/-- Reject unless the condition holds. -/
def require (condition : Bool) (message : String) : Except ScheduleFailure Unit :=
  if condition then .ok () else .error (.rejected message)

/-- The hexadecimal digits of the bytes of a digest. -/
def hexadecimal (digest : List UInt8) : String :=
  String.ofList (digest.flatMap fun byte =>
    [Nat.digitChar (byte.toNat / 16 % 16), Nat.digitChar (byte.toNat % 16)])

def sha256Hex (lib : Libraries) (bytes : String) : Except String String :=
  match lib.evpSha256 bytes with
  | .initFailed => .error "OpenSSL SHA-256 initialization failed"
  | .finalFailed => .error "OpenSSL SHA-256 finalization failed"
  | .digest digest =>
      if digest.length ≠ kSha256ByteCount then .error "OpenSSL SHA-256 finalization failed"
      else .ok (hexadecimal digest)

def canonicalFaultJson (fault : CanonicalFault) : String :=
  "\x7b\"schema_version\":1,\"fault_id\":\"" ++ fault.specification.faultId ++
    "\",\"target\":" ++ toString fault.specification.target.toNat ++
    ",\"mode\":" ++ toString fault.specification.mode.toNat ++
    ",\"start_offset_ns\":" ++ toString fault.startOffsetNs ++
    ",\"duration_ns\":" ++ toString fault.durationNs ++
    ",\"seed\":" ++ toString fault.specification.seed.toNat ++
    ",\"parameters\":" ++ fault.specification.parametersJson ++ "\x7d"

/-- The place of a target in the arrays indexed by targets. -/
def streamIndex (target : UInt8) : Except Throw (Fin 4) :=
  if h : target ≤ FaultSpec.TARGET_IMU then
    .ok ⟨target.toNat, Nat.lt_succ_of_le (UInt8.le_iff_toNat_le.mp h)⟩
  else .error (.logicError "fault target has no stream counter")

/-- The body of the loop over the specifications, given the identifiers seen before. -/
def canonicalizeFault (lib : Libraries) (faultIds : List String) (specification : FaultSpec) :
    Except ScheduleFailure CanonicalFault := do
  require (specification.schemaVersion == FaultSpec.SCHEMA_VERSION)
    "fault specification schema_version is unsupported"
  require (validFaultId specification.faultId)
    "fault_id must match [A-Za-z0-9][A-Za-z0-9._-]\x7b0,63\x7d"
  require (!faultIds.contains specification.faultId) "fault_id values must be unique"
  require (validTargetMode specification.target specification.mode)
    "fault target and mode are not a supported Phase 3 pair"
  require (normalizedDuration specification.startOffset &&
      normalizedDuration specification.duration)
    "fault offsets and durations must be normalized"
  let startNs ← throwing (durationToNanoseconds specification.startOffset)
  let durationNs ← throwing (durationToNanoseconds specification.duration)
  require (kMinimumArmingMarginNanoseconds ≤ startNs)
    "fault start_offset must be at least 0.5 seconds"
  require (0 < durationNs) "fault duration must be positive"
  require (startNs ≤ kMaximumScheduleNanoseconds && durationNs ≤ kMaximumScheduleNanoseconds)
    "fault start, duration, and end must fit 3600 seconds"
  let latestStartNs ← throwing (subI64 kMaximumScheduleNanoseconds durationNs)
  require (startNs ≤ latestStartNs) "fault start, duration, and end must fit 3600 seconds"
  match parseParameters lib specification with
  | .error message => .error (.rejected message)
  | .ok parameters =>
      .ok {
        specification := { specification with parametersJson := parameters.canonicalJson }
        startOffsetNs := startNs
        durationNs := durationNs
        xRateNmPerS := parameters.xRateNmPerS
        yawRateNradPerS := parameters.yawRateNradPerS }

/-- The loop over the specifications. -/
def canonicalizeFaults (lib : Libraries) (faultIds : List String) :
    List FaultSpec → Except ScheduleFailure (List CanonicalFault)
  | [] => .ok []
  | specification :: rest => do
      let canonical ← canonicalizeFault lib faultIds specification
      let others ← canonicalizeFaults lib (specification.faultId :: faultIds) rest
      .ok (canonical :: others)

/-- The key the faults are sorted by. -/
def CanonicalFault.sortKey (fault : CanonicalFault) : Int ×ₗ ℕ ×ₗ String :=
  toLex (fault.startOffsetNs, toLex (fault.specification.target.toNat,
    fault.specification.faultId))

/-- `std::sort` with the order of the keys. -/
def sortFaults (faults : List CanonicalFault) : List CanonicalFault :=
  faults.insertionSort (fun left right => left.sortKey ≤ right.sortKey)

/-- The loop over the sorted faults that rejects overlapping intervals of one target. -/
def checkOverlap (priorEndByTarget : Fin 4 → Option Int) :
    List CanonicalFault → Except ScheduleFailure Unit
  | [] => .ok ()
  | fault :: rest => do
      let index ← throwing (streamIndex fault.specification.target)
      require ((priorEndByTarget index).all (fun priorEnd => priorEnd ≤ fault.startOffsetNs))
        "same-target fault intervals must not overlap"
      let endNs ← throwing (addI64 fault.startOffsetNs fault.durationNs)
      checkOverlap (Function.update priorEndByTarget index (some endNs)) rest

/-- The canonical text of the sorted faults. -/
def scheduleBytes (faults : List CanonicalFault) : String :=
  "\x7b\"schema_version\":1,\"faults\":[" ++
    ",".intercalate (faults.map canonicalFaultJson) ++ "]\x7d"

def canonicalizeSchedule (lib : Libraries) (faults : List FaultSpec) :
    Except ScheduleFailure CanonicalSchedule := do
  require (faults.length ≤ kMaximumFaultCount) "a Phase 3 schedule contains at most 16 faults"
  let canonical ← canonicalizeFaults lib [] faults
  let sorted := sortFaults canonical
  checkOverlap (fun _ => none) sorted
  match sha256Hex lib (scheduleBytes sorted) with
  | .error message => .error (.rejected message)
  | .ok sha256 =>
      .ok {
        faults := sorted
        bytes := scheduleBytes sorted
        sha256 := sha256
        earliestStartOffsetNs := sorted.head?.map (·.startOffsetNs) }

end RobotestLab
