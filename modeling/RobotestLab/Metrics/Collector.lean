import RobotestLab.Library.Dict
import RobotestLab.Library.NestedDict
import RobotestLab.Metrics.Values

/-!
# The bounded collector

`CollectorCore` owns one bounded buffer for each evidence stream, a buffer of plans with two limits,
a summary of the clock, and one sequence of all callbacks. A buffer retains items as long as they
fit and counts the others.
-/

namespace RobotestLab

namespace Metrics

def stringFieldMaxBytes : Nat := 4096

def contactRecordCapacity : Nat := 32768

def planMessageCapacity : Nat := 1024

def planPoseCapacity : Nat := 65536

/-- `BUFFER_CAPACITIES`. -/
def bufferCapacities : List (String × Nat) :=
  [("ground_truth", 8192), ("tf_map_odom", 8192), ("tf_odom_base_footprint", 8192),
    ("raw_odom", 8192), ("odom", 8192), ("raw_scan", 2048), ("scan", 2048), ("cmd_vel", 4096),
    ("contacts", 8192), ("world_stats", 4096), ("state_events", 1024), ("fault_events", 512)]

/-- What the collector asks of values: whether two of them compare equal, and the name of the
type. -/
structure Inspection where
  equal : PyValue → PyValue → Bool
  typeName : PyValue → String

/-! ### Bounded values -/

section Bounded

variable (inspection : Inspection)

mutual

/-- The text of the `MetricUnavailable`, unless the value is bounded. -/
def validateBoundedValues (value : PyValue) (path : String) : Except String Unit :=
  match value with
  | .str s =>
      if stringFieldMaxBytes < s.utf8ByteSize then
        .error (path ++ " exceeds the UTF-8 string bound")
      else .ok ()
  | .dict items =>
      if 65536 < items.length then .error (path ++ " exceeds the object-item bound")
      else validateItems items path
  | .list items =>
      if 65536 < items.length then .error (path ++ " exceeds the array-item bound")
      else validateElements items path 0
  | .tuple items =>
      if 65536 < items.length then .error (path ++ " exceeds the array-item bound")
      else validateElements items path 0
  | .none => .ok ()
  | .bool _ => .ok ()
  | .int n =>
      if -(2 ^ 63) ≤ n ∧ n ≤ 2 ^ 64 - 1 then .ok ()
      else .error (path ++ " integer exceeds the 64-bit evidence bound")
  | .float value => if value.isSome then .ok () else .error (path ++ " must be finite")
  | value => .error (path ++ " has unsupported type " ++ inspection.typeName value)

/-- The keys and the values of a mapping. -/
def validateItems (items : List (PyValue × PyValue)) (path : String) : Except String Unit :=
  match items with
  | [] => .ok ()
  | (.str key, nested) :: items => do
      if stringFieldMaxBytes < key.utf8ByteSize then
        .error (path ++ ".key exceeds the UTF-8 string bound")
      validateBoundedValues nested (path ++ "." ++ key)
      validateItems items path
  | (_, _) :: _ => .error (path ++ " has a non-string key")

/-- The elements of a sequence, from the given index. -/
def validateElements (items : List PyValue) (path : String) (index : Nat) : Except String Unit :=
  match items with
  | [] => .ok ()
  | nested :: items => do
      validateBoundedValues nested (path ++ "[" ++ toString index ++ "]")
      validateElements items path (index + 1)

end

end Bounded

/-! ### Buffers -/

/-- Constant-space evidence-quality counters. -/
structure BufferQuality where
  capacity : Nat
  ingressCount : Nat := 0
  retainedCount : Nat := 0
  invalidCount : Nat := 0
  overflowCount : Nat := 0
  firstOverflowSequence : Option Nat := none
  firstOverflowStampNs : PyValue := .none
  firstInvalidReason : Option String := none

namespace BufferQuality

/-- Count an item that exceeds the capacity. -/
def countOverflow (quality : BufferQuality) (sequence : Nat) (stampNs : PyValue) : BufferQuality :=
  { quality with
    ingressCount := quality.ingressCount + 1
    overflowCount := quality.overflowCount + 1
    firstOverflowSequence := quality.firstOverflowSequence.or (some sequence)
    firstOverflowStampNs :=
      if quality.firstOverflowSequence.isNone then stampNs else quality.firstOverflowStampNs }

end BufferQuality

/-- The first valid items, no more than the capacity. -/
structure PrefixBuffer where
  name : String
  capacity : Nat
  items : List Evidence := []
  quality : BufferQuality := { capacity := capacity }
  bounded : items.length ≤ capacity := by exact Nat.zero_le _

namespace PrefixBuffer

def append (buffer : PrefixBuffer) (item : Evidence) (sequence : Nat) (stampNs : PyValue) :
    Bool × PrefixBuffer :=
  if h : buffer.capacity ≤ buffer.items.length then
    (false, { buffer with quality := buffer.quality.countOverflow sequence stampNs })
  else
    (true,
      { buffer with
        items := buffer.items ++ [item]
        quality :=
          { buffer.quality with
            ingressCount := buffer.quality.ingressCount + 1
            retainedCount := buffer.quality.retainedCount + 1 }
        bounded := by
          rw [List.length_append, List.length_singleton]
          omega })

/-- Record invalid evidence. -/
def reject (buffer : PrefixBuffer) (reason : String) : PrefixBuffer :=
  { buffer with
    quality :=
      { buffer.quality with
        ingressCount := buffer.quality.ingressCount + 1
        invalidCount := buffer.quality.invalidCount + 1
        firstInvalidReason := buffer.quality.firstInvalidReason.or (some reason) } }

/-- Count an observation that is collapsed on purpose. -/
def observeWithoutRetaining (buffer : PrefixBuffer) : PrefixBuffer :=
  { buffer with quality := { buffer.quality with ingressCount := buffer.quality.ingressCount + 1 } }

/-- Record the overflow of a nested limit. -/
def markOverflow (buffer : PrefixBuffer) (sequence : Nat) (stampNs : PyValue) : PrefixBuffer :=
  { buffer with quality := buffer.quality.countOverflow sequence stampNs }

end PrefixBuffer

/-- Plans, with a bound on their number and on the total number of their poses. -/
structure PlanPrefixBuffer where
  messageCapacity : Nat
  poseCapacity : Nat
  items : List Evidence := []
  ingressCount : Nat := 0
  retainedPoseCount : Nat := 0
  invalidCount : Nat := 0
  firstInvalidReason : Option String := none
  overflowCount : Nat := 0
  firstOverflowSequence : PyValue := .none
  firstOverflowStampNs : PyValue := .none
  bounded : items.length ≤ messageCapacity := by exact Nat.zero_le _

namespace PlanPrefixBuffer

/-- The buffer with a rejected plan counted. -/
def reject (buffer : PlanPrefixBuffer) (reason : String) : PlanPrefixBuffer :=
  { buffer with
    ingressCount := buffer.ingressCount + 1
    invalidCount := buffer.invalidCount + 1
    firstInvalidReason := buffer.firstInvalidReason.or (some reason) }

/-- A plan of so many poses does not fit. -/
def exceeds (buffer : PlanPrefixBuffer) (poseCount : Nat) : Prop :=
  buffer.messageCapacity ≤ buffer.items.length ∨
    buffer.poseCapacity < buffer.retainedPoseCount + poseCount

instance {buffer : PlanPrefixBuffer} {poseCount : Nat} : Decidable (buffer.exceeds poseCount) :=
  inferInstanceAs (Decidable (_ ∨ _))

/-- Retain a plan of so many poses if it fits. -/
def retain (buffer : PlanPrefixBuffer) (item : Evidence) (poseCount : Nat) :
    Bool × PlanPrefixBuffer :=
  if h : buffer.exceeds poseCount then
    (false,
      { buffer with
        ingressCount := buffer.ingressCount + 1
        overflowCount := buffer.overflowCount + 1
        firstOverflowSequence :=
          if buffer.firstOverflowSequence.isNone then PyValue.item "collector_sequence" item
          else buffer.firstOverflowSequence
        firstOverflowStampNs :=
          if buffer.firstOverflowSequence.isNone then PyValue.item "stamp_ns" item
          else buffer.firstOverflowStampNs })
  else
    (true,
      { buffer with
        ingressCount := buffer.ingressCount + 1
        items := buffer.items ++ [item]
        retainedPoseCount := buffer.retainedPoseCount + poseCount
        bounded := by
          unfold exceeds at h
          rw [List.length_append, List.length_singleton]
          omega })

/-- Retain a complete plan or none of it. -/
def append (buffer : PlanPrefixBuffer) (item : Evidence) : Bool × PlanPrefixBuffer :=
  match PyValue.item "poses" item with
  | .list poses => buffer.retain item poses.length
  | _ => (false, buffer.reject "plan poses must be a list")

end PlanPrefixBuffer

/-- Constant-space evidence of the clock. -/
structure ClockSummary where
  count : Nat := 0
  duplicateCount : Nat := 0
  firstStampNs : Option Int := none
  latestStampNs : Option Int := none
  maximumPositiveGapNs : Int := 0
  regressionCount : Nat := 0

namespace ClockSummary

def observe (clock : ClockSummary) (stampNs : PyValue) : Except MetricError ClockSummary := do
  let stamp ← requireInt stampNs "clock.stamp_ns"
  let clock := { clock with count := clock.count + 1 }
  match clock.firstStampNs, clock.latestStampNs with
  | some _, some latest =>
      let delta := stamp - latest
      let clock :=
        if delta < 0 then { clock with regressionCount := clock.regressionCount + 1 }
        else if delta = 0 then { clock with duplicateCount := clock.duplicateCount + 1 }
        else { clock with maximumPositiveGapNs := max clock.maximumPositiveGapNs delta }
      .ok { clock with latestStampNs := some stamp }
  | _, _ => .ok { clock with firstStampNs := some stamp, latestStampNs := some stamp }

end ClockSummary

/-! ### The core -/

/-- Every bounded prefix and the global sequence of callbacks. -/
structure CollectorCore where
  buffers : Dict String PrefixBuffer
  plans : PlanPrefixBuffer
  clock : ClockSummary := {}
  sequence : Nat := 0
  lastState : Dict (String × String) PyValue := {}
  contactRecordCount : Nat := 0
  contactRecordOverflowCount : Nat := 0

/-- What a call raises: a `KeyError`, or a `MetricError`. -/
inductive CollectorError where
  | key (text : String)
  | metric (error : MetricError)
  deriving DecidableEq, Repr

/-- An item with its place in the sequence. -/
def normalized (item : Evidence) (sequence : Nat) : Evidence :=
  PyValue.setItem "collector_sequence" (.int sequence) item

namespace CollectorCore

/-- The empty buffers. -/
def emptyBuffers : List (String × PrefixBuffer) :=
  bufferCapacities.map fun (name, capacity) => (name, { name := name, capacity := capacity })

/-- The collector before any callback. -/
def initial : CollectorCore where
  buffers := { items := emptyBuffers, nodup := by decide }
  plans := { messageCapacity := planMessageCapacity, poseCapacity := planPoseCapacity }

def setBuffer (core : CollectorCore) (stream : String) (buffer : PrefixBuffer) : CollectorCore :=
  { core with buffers := core.buffers.set stream buffer }

/-- Reserve the next place in the sequence. -/
def nextSequence (core : CollectorCore) : Nat × CollectorCore :=
  (core.sequence + 1, { core with sequence := core.sequence + 1 })

def observeClock (core : CollectorCore) (stampNs : PyValue) :
    Except CollectorError Unit × CollectorCore :=
  let core := core.nextSequence.2
  match core.clock.observe stampNs with
  | .ok clock => (.ok (), { core with clock := clock })
  | .error error => (.error (.metric error), core)

section Recording

variable (inspection : Inspection)

/-- The reason why an item of a stream is rejected, if it is. -/
def rejection (stream : String) (item : Evidence) : Option String :=
  match validateBoundedValues inspection (.dict item) "item" with
  | .error reason => some reason
  | .ok () =>
      match PyValue.item "stamp_ns" item with
      | .none => none
      | .int _ => none
      | _ => some (stream ++ ".stamp_ns must be an integer")

/-- Validate an item and append it. -/
def recordValid (core : CollectorCore) (stream : String) (buffer : PrefixBuffer) (item : Evidence)
    (sequence : Nat) (contacts : List PyValue) : Bool × CollectorCore :=
  match rejection inspection stream item with
  | some reason => (false, core.setBuffer stream (buffer.reject reason))
  | none =>
      let item := normalized item sequence
      let (retained, buffer) := buffer.append item sequence (PyValue.item "stamp_ns" item)
      let core := core.setBuffer stream buffer
      (retained,
        if stream = "contacts" ∧ retained = true then
          { core with contactRecordCount := core.contactRecordCount + contacts.length }
        else core)

/-- Validate and append one normalized evidence item. -/
def record (core : CollectorCore) (stream : String) (item : Evidence) :
    Except CollectorError Bool × CollectorCore :=
  match core.buffers.get? stream with
  | none => (.error (.key ("unknown evidence stream " ++ stream)), core)
  | some buffer =>
      let (sequence, core) := core.nextSequence
      if stream = "contacts" then
        match PyValue.item "contacts" item with
        | .list contacts =>
            if contactRecordCapacity < core.contactRecordCount + contacts.length then
              let buffer := buffer.markOverflow sequence (PyValue.item "stamp_ns" item)
              (.ok false,
                { core.setBuffer stream buffer with
                  contactRecordOverflowCount := core.contactRecordOverflowCount + 1 })
            else
              let (retained, core) :=
                recordValid inspection core stream buffer item sequence contacts
              (.ok retained, core)
        | _ => (.ok false, core.setBuffer stream (buffer.reject "contacts must be a list"))
      else
        let (retained, core) := recordValid inspection core stream buffer item sequence []
        (.ok retained, core)

/-- The reason why a plan is rejected, if it is. -/
def planRejection (item : Evidence) : Option String :=
  match validateBoundedValues inspection (.dict item) "item" with
  | .error reason => some reason
  | .ok () =>
      match PyValue.item "stamp_ns" item with
      | .int _ => none
      | _ => some "plans.stamp_ns must be an integer"

/-- Record one normalized plan under the limits on messages and on poses. -/
def recordPlan (core : CollectorCore) (item : Evidence) : Bool × CollectorCore :=
  let (sequence, core) := core.nextSequence
  match PyValue.item "poses" item with
  | .list poses =>
      if core.plans.exceeds poses.length then
        let (retained, plans) := core.plans.append (normalized item sequence)
        (retained, { core with plans := plans })
      else
        match planRejection inspection item with
        | some reason => (false, { core with plans := core.plans.reject reason })
        | none =>
            let (retained, plans) := core.plans.append (normalized item sequence)
            (retained, { core with plans := plans })
  | _ => (false, { core with plans := core.plans.reject "plan poses must be a list" })

/-- The item of a change of state. -/
def stateEvent (kind subject : String) (previous : Option PyValue) (value stampNs : PyValue)
    (details : Option Evidence) : Evidence :=
  [(.str "details", .dict (details.getD [])), (.str "kind", .str kind),
    (.str "previous_value", previous.getD .none), (.str "stamp_ns", stampNs),
    (.str "subject", .str subject), (.str "value", value)]

/-- Retain a change of state, and count an observation without a change. -/
def recordStateTransition (core : CollectorCore) (kind subject : String) (value stampNs : PyValue)
    (details : Option Evidence) : Except CollectorError Bool × CollectorCore :=
  let previous := core.lastState.get? (kind, subject)
  if previous.any (inspection.equal · value) then
    match core.buffers.get? "state_events" with
    | none => (.error (.key "state_events"), core)
    | some buffer =>
        (.ok false, core.nextSequence.2.setBuffer "state_events" buffer.observeWithoutRetaining)
  else
    match record inspection core "state_events"
      (stateEvent kind subject previous value stampNs details) with
    | (.ok true, core) => (.ok true,
        { core with lastState := core.lastState.set (kind, subject) value })
    | (result, core) => (result, core)

end Recording

end CollectorCore

end Metrics

end RobotestLab
