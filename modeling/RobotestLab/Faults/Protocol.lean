import RobotestLab.Faults.PassThrough

/-!
# The fault protocol

The state of the fault proxy and its operations: preloading, arming and resetting a schedule,
and passing scans, odometry and IMU messages through it. Every operation takes the state and
returns an outcome with the next state. An exception that leaves an operation ends the
process, so nothing is said about the state it leaves behind.

The runtime faults live in a vector that the operations update in place and a pointer selects
one of them. Here a loop over the vector rebuilds it, and the pointer is an index.
-/

namespace RobotestLab

inductive FaultControlState where
  | reset
  | prepared
  | armed
  deriving DecidableEq, Repr

/-- The value of a state on the wire. -/
def FaultControlState.wire : FaultControlState → UInt8
  | .reset => FaultEvent.STATE_RESET
  | .prepared => FaultEvent.STATE_PREPARED
  | .armed => FaultEvent.STATE_ARMED

structure StreamCounters where
  inputSequence : UInt64 := 0
  rawInputCount : UInt64 := 0
  validatedOutputCount : UInt64 := 0
  lastInputStampNs : Option Int := none
  deriving DecidableEq, Repr

structure RuntimeFault where
  canonical : CanonicalFault
  activated : Bool := false
  deactivated : Bool := false
  firstRestored : Bool := false
  restorationPending : Bool := false
  affectedMessageCount : UInt64 := 0
  deriving DecidableEq, Repr

/-- The target of a runtime fault. -/
def RuntimeFault.target (fault : RuntimeFault) : UInt8 := fault.canonical.specification.target

/-- The mode of a runtime fault. -/
def RuntimeFault.mode (fault : RuntimeFault) : UInt8 := fault.canonical.specification.mode

structure FaultProtocol where
  state : FaultControlState := .reset
  lastAllocatedGeneration : UInt64 := 0
  generation : UInt64 := 0
  eventSequence : UInt64 := 0
  schedule : CanonicalSchedule := {}
  runtimeFaults : List RuntimeFault := []
  boundGoalUuid : UUID := {}
  acceptedGoalStamp : Time := {}
  armCommitStamp : Time := {}
  armMarginNs : Int := 0
  streamCounters : Fin 4 → StreamCounters := fun _ => {}

/-! ### Outcomes -/

structure PreloadOutcome where
  accepted : Bool := false
  replayed : Bool := false
  state : FaultControlState := .reset
  scheduleHash : String := ""
  loadedCount : UInt32 := 0
  generation : UInt64 := 0
  message : String := ""
  event : FaultEvent := {}
  deriving DecidableEq, Repr

structure ArmOutcome where
  accepted : Bool := false
  replayed : Bool := false
  state : FaultControlState := .reset
  scheduleHash : String := ""
  generation : UInt64 := 0
  goalUuid : UUID := {}
  acceptedGoalStamp : Time := {}
  armCommitStamp : Time := {}
  armMarginNs : Int := 0
  message : String := ""
  event : FaultEvent := {}
  deriving DecidableEq, Repr

structure ResetOutcome where
  stateBefore : FaultControlState := .reset
  message : String := ""
  event : FaultEvent := {}
  deriving DecidableEq, Repr

/-- The outcome of a sensor message. A message that was never assigned is `none`. -/
structure FaultProcessOutcome (Message : Type) where
  accepted : Bool := false
  publish : Bool := false
  message : Option Message := none
  reason : String := ""
  events : List FaultEvent := []

/-! ### Events -/

def incrementCounter (value : UInt64) : Option UInt64 := value.increment?

namespace FaultProtocol

/-- A new protocol, whose generations continue after the given one. -/
def new (lastAllocatedGenerationForTest : UInt64 := 0) : FaultProtocol where
  lastAllocatedGeneration := lastAllocatedGenerationForTest

def committedFaultCount (p : FaultProtocol) : UInt32 := UInt32.ofNat p.schedule.faults.length

/-- The next event sequence number, stored in the state. -/
def nextEventSequence (p : FaultProtocol) : Except Throw FaultProtocol :=
  match incrementCounter p.eventSequence with
  | none => .error (.overflowError "fault event sequence exhausted")
  | some eventSequence => .ok { p with eventSequence := eventSequence }

/-- What a control request asks for, as its event reports it. -/
structure Requested where
  hash : String
  generation : UInt64
  faultCount : UInt32
  goalUuid : UUID
  t0 : Time

def makeControlEventLocked (p : FaultProtocol) (eventType : UInt8) (actualTime : Time)
    (stateBefore : FaultControlState) (accepted replayed : Bool) (requested : Requested)
    (detail : String) : Except Throw (FaultEvent × FaultProtocol) := do
  let p ← p.nextEventSequence
  let event : FaultEvent := {
    header := { stamp := actualTime }
    schemaVersion := FaultEvent.SCHEMA_VERSION
    eventSequence := p.eventSequence
    eventType := eventType
    stateBefore := stateBefore.wire
    stateAfter := p.state.wire
    accepted := accepted
    replayed := replayed
    requestedScheduleHash := requested.hash
    committedScheduleHash := p.schedule.sha256
    requestedGeneration := requested.generation
    committedGeneration := p.generation
    requestedFaultCount := requested.faultCount
    committedFaultCount := p.committedFaultCount
    requestedGoalUuid := requested.goalUuid
    boundGoalUuid := p.boundGoalUuid
    requestedT0 := requested.t0
    boundT0 := p.acceptedGoalStamp
    armCommitTime := p.armCommitStamp
    armMarginNs := p.armMarginNs
    actualTime := actualTime
    target := FaultSpec.TARGET_UNSPECIFIED
    mode := FaultSpec.MODE_PASS_THROUGH
    detail := detail }
  .ok (event, p)

def makeDataEventLocked (p : FaultProtocol) (eventType : UInt8) (actualTime : Time)
    (fault : RuntimeFault) (counters : StreamCounters) (detail : String) :
    Except Throw (FaultEvent × FaultProtocol) := do
  let p ← p.nextEventSequence
  let t0Ns ← timeToNanoseconds p.acceptedGoalStamp
  let activationNs ← addI64 t0Ns fault.canonical.startOffsetNs
  let deactivationNs ← addI64 activationNs fault.canonical.durationNs
  let event : FaultEvent := {
    header := { stamp := actualTime }
    schemaVersion := FaultEvent.SCHEMA_VERSION
    eventSequence := p.eventSequence
    eventType := eventType
    stateBefore := p.state.wire
    stateAfter := p.state.wire
    accepted := true
    replayed := false
    committedScheduleHash := p.schedule.sha256
    committedGeneration := p.generation
    committedFaultCount := p.committedFaultCount
    boundGoalUuid := p.boundGoalUuid
    boundT0 := p.acceptedGoalStamp
    armCommitTime := p.armCommitStamp
    armMarginNs := p.armMarginNs
    faultId := fault.canonical.specification.faultId
    target := fault.target
    mode := fault.mode
    configuredActivationTime := nanosecondsToTime activationNs
    configuredDeactivationTime := nanosecondsToTime deactivationNs
    actualTime := actualTime
    seed := fault.canonical.specification.seed
    inputSequence := counters.inputSequence
    rawInputCount := counters.rawInputCount
    validatedOutputCount := counters.validatedOutputCount
    affectedMessageCount := fault.affectedMessageCount
    detail := detail }
  .ok (event, p)

/-! ### Control operations -/

/-- The runtime faults of the schedule, none of them touched yet, and fresh counters. -/
def resetRuntimeLocked (p : FaultProtocol) : FaultProtocol :=
  { p with
    runtimeFaults := p.schedule.faults.map fun canonical => { canonical := canonical }
    streamCounters := fun _ => {} }

def preload (lib : Libraries) (p : FaultProtocol) (request : PreloadRequest)
    (operationStamp : Time) : Except Throw (PreloadOutcome × FaultProtocol) :=
  let requested : Requested := {
    hash := request.scheduleHash
    generation := 0
    faultCount := UInt32.ofNat request.faults.length
    goalUuid := {}
    t0 := {} }
  let reject (message : String) : Except Throw (PreloadOutcome × FaultProtocol) := do
    let (event, p') ← p.makeControlEventLocked FaultEvent.EVENT_SCHEDULE_REJECTED operationStamp
      p.state false false requested message
    .ok ({
      state := p.state
      scheduleHash := p.schedule.sha256
      loadedCount := p.committedFaultCount
      generation := p.generation
      message := message
      event := event }, p')
  let accept (replayed : Bool) (message : String) (p' : FaultProtocol) :
      Except Throw (PreloadOutcome × FaultProtocol) := do
    let (event, p'') ← p'.makeControlEventLocked FaultEvent.EVENT_SCHEDULE_LOADED operationStamp
      p.state true replayed requested message
    .ok ({
      accepted := true
      replayed := replayed
      state := p'.state
      scheduleHash := p'.schedule.sha256
      loadedCount := p'.committedFaultCount
      generation := p'.generation
      message := message
      event := event }, p'')
  match canonicalizeSchedule lib request.faults with
  | .error (.threw exception) => .error exception
  | .error (.rejected message) =>
      if !normalizedTime operationStamp then
        reject "preload operation stamp is not normalized"
      else reject message
  | .ok canonical =>
      if !normalizedTime operationStamp then
        reject "preload operation stamp is not normalized"
      else if !lowercaseSha256 request.scheduleHash || request.scheduleHash != canonical.sha256 then
        reject "claimed schedule hash does not match canonical bytes"
      else
        let sameSchedule := p.state != .reset && p.schedule.bytes == canonical.bytes &&
          p.schedule.sha256 == canonical.sha256
        if p.state == .armed && !sameSchedule then
          reject "an armed generation rejects a different preload"
        else if sameSchedule then
          accept true "exact canonical preload replay accepted" p
        else match incrementCounter p.lastAllocatedGeneration with
          | none => reject "schedule generation allocator is exhausted"
          | some generation =>
              accept false "canonical schedule prepared atomically" (resetRuntimeLocked { p with
                lastAllocatedGeneration := generation
                generation := generation
                schedule := canonical
                state := .prepared
                boundGoalUuid := {}
                acceptedGoalStamp := {}
                armCommitStamp := {}
                armMarginNs := 0 })

/-- The largest stamp a message can hold. -/
def maximumRosTimeNs : Int := 2147483647 * 1000000000 + (1000000000 - 1)

/-- The loop of `arm` that compares every interval with the largest stamp. -/
def exceedsRosTime (t0Ns : Int) : List CanonicalFault → Except Throw Bool
  | [] => .ok false
  | fault :: rest => do
      let endOffsetNs ← addI64 fault.startOffsetNs fault.durationNs
      let latestT0Ns ← subI64 maximumRosTimeNs endOffsetNs
      if latestT0Ns < t0Ns then .ok true else exceedsRosTime t0Ns rest

/-- The margin between the commit and the earliest activation, or why there is none. -/
def armMargin (earliestStartOffsetNs : Option Int) (t0Ns commitNs : Int) :
    Except Throw (Except String Int) :=
  match earliestStartOffsetNs with
  | none => .ok (.ok 0)
  | some earliest => do
      let latestT0Ns ← subI64 Int64Arith.greatest earliest
      if latestT0Ns < t0Ns then
        .ok (.error "T0 plus earliest activation overflows ROS time")
      else
        let activationNs ← addI64 t0Ns earliest
        let marginNs ← subI64 activationNs commitNs
        if marginNs < kMinimumArmingMarginNanoseconds then
          .ok (.error "arm commit has less than 0.5 seconds of margin")
        else .ok (.ok marginNs)

def arm (p : FaultProtocol) (request : ArmRequest) (operationStamp : Time) :
    Except Throw (ArmOutcome × FaultProtocol) :=
  let requested : Requested := {
    hash := request.scheduleHash
    generation := request.generation
    faultCount := p.committedFaultCount
    goalUuid := request.goalUuid
    t0 := request.acceptedGoalStamp }
  let answer (accepted replayed : Bool) (eventType : UInt8) (message : String)
      (p' : FaultProtocol) : Except Throw (ArmOutcome × FaultProtocol) := do
    let (event, p'') ← p'.makeControlEventLocked eventType operationStamp p.state accepted
      replayed requested message
    .ok ({
      accepted := accepted
      replayed := replayed
      state := p'.state
      scheduleHash := p'.schedule.sha256
      generation := p'.generation
      goalUuid := p'.boundGoalUuid
      acceptedGoalStamp := p'.acceptedGoalStamp
      armCommitStamp := p'.armCommitStamp
      armMarginNs := p'.armMarginNs
      message := message
      event := event }, p'')
  let reject (message : String) := answer false false FaultEvent.EVENT_ARM_REJECTED message p
  if !normalizedTime operationStamp then
    reject "arm operation stamp is not normalized"
  else if p.state == .armed && request.scheduleHash == p.schedule.sha256 &&
      request.generation == p.generation && sameUuid request.goalUuid p.boundGoalUuid &&
      sameTime request.acceptedGoalStamp p.acceptedGoalStamp then
    answer true true FaultEvent.EVENT_ARMED "exact arm replay accepted" p
  else if p.state != .prepared then
    reject "arm requires one matching PREPARED generation"
  else if !lowercaseSha256 request.scheduleHash ||
      request.scheduleHash != p.schedule.sha256 || request.generation != p.generation then
    reject "arm hash or generation does not match PREPARED state"
  else if zeroUuid request.goalUuid then
    reject "arm goal UUID must not be all zero"
  else if !positiveTime request.acceptedGoalStamp then
    reject "authoritative accepted-goal T0 must be positive"
  else do
    let t0Ns ← timeToNanoseconds request.acceptedGoalStamp
    let commitNs ← timeToNanoseconds operationStamp
    if commitNs < t0Ns then
      reject "arm commit stamp precedes authoritative T0"
    else if ← exceedsRosTime t0Ns p.schedule.faults then
      reject "T0 plus configured interval exceeds ROS Time range"
    else match ← armMargin p.schedule.earliestStartOffsetNs t0Ns commitNs with
      | .error message => reject message
      | .ok marginNs =>
          answer true false FaultEvent.EVENT_ARMED
            "prepared generation bound atomically to goal UUID and T0" (resetRuntimeLocked { p with
              state := .armed
              boundGoalUuid := request.goalUuid
              acceptedGoalStamp := request.acceptedGoalStamp
              armCommitStamp := operationStamp
              armMarginNs := marginNs })

def reset (p : FaultProtocol) (operationStamp : Time) :
    Except Throw (ResetOutcome × FaultProtocol) := do
  let cleared : FaultProtocol := { p with
    state := .reset
    generation := 0
    schedule := {}
    runtimeFaults := []
    boundGoalUuid := {}
    acceptedGoalStamp := {}
    armCommitStamp := {}
    armMarginNs := 0
    streamCounters := fun _ => {} }
  let message :=
    if p.state = .reset then "fault state already RESET; idempotent reset accepted"
    else "fault state cleared; deterministic pass-through active"
  let (event, p') ← cleared.makeControlEventLocked FaultEvent.EVENT_RESET operationStamp p.state
    true (p.state = .reset) {
      hash := p.schedule.sha256
      generation := p.generation
      faultCount := p.committedFaultCount
      goalUuid := p.boundGoalUuid
      t0 := p.acceptedGoalStamp } message
  .ok ({ stateBefore := p.state, message := message, event := event }, p')

/-! ### Sensor messages -/

/-- What a loop over the runtime faults has done so far: the events appended, the index of the
active fault, and the text of a rejection. -/
structure Sweep where
  events : List FaultEvent := []
  activeFault : Option Nat := none
  rejection : Option String := none

/-- The first half of the loop body: a fault whose interval ends is deactivated. -/
def closeInterval (p : FaultProtocol) (stamp : Time) (stampNs deactivationNs : Int)
    (counters : StreamCounters) (fault : RuntimeFault) :
    Except Throw (RuntimeFault × List FaultEvent × FaultProtocol) :=
  if !fault.deactivated && deactivationNs ≤ stampNs then do
    let fault := { fault with
      deactivated := true
      restorationPending :=
        0 < fault.affectedMessageCount && fault.mode != FaultSpec.MODE_PASS_THROUGH }
    let (event, p) ← p.makeDataEventLocked FaultEvent.EVENT_DEACTIVATED stamp fault counters
      "first target input at or after the half-open interval end"
    .ok (fault, [event], p)
  else .ok (fault, [], p)

/-- The second half of the loop body, for an active fault: it is activated once. -/
def openInterval (p : FaultProtocol) (stamp : Time) (counters : StreamCounters)
    (fault : RuntimeFault) : Except Throw (RuntimeFault × List FaultEvent × FaultProtocol) :=
  if !fault.activated then do
    let fault := { fault with activated := true }
    let (event, p) ← p.makeDataEventLocked FaultEvent.EVENT_ACTIVATED stamp fault counters
      "first target input inside the configured interval"
    .ok (fault, [event], p)
  else .ok (fault, [], p)

/-- The loop of `beginTargetInputLocked` over the runtime faults from index `index` on. -/
def sweepFaults (target : UInt8) (stamp : Time) (stampNs t0Ns : Int) (counters : StreamCounters) :
    List RuntimeFault → Nat → Sweep → FaultProtocol →
      Except Throw (List RuntimeFault × Sweep × FaultProtocol)
  | [], _, sweep, p => .ok ([], sweep, p)
  | fault :: rest, index, sweep, p => do
      if fault.target ≠ target then
        let (rest, sweep, p) ← sweepFaults target stamp stampNs t0Ns counters rest
          (index + 1) sweep p
        .ok (fault :: rest, sweep, p)
      else
        let activationNs ← addI64 t0Ns fault.canonical.startOffsetNs
        let deactivationNs ← addI64 activationNs fault.canonical.durationNs
        let (fault, closing, p) ← p.closeInterval stamp stampNs deactivationNs counters fault
        let sweep := { sweep with events := sweep.events ++ closing }
        if !fault.deactivated && activationNs ≤ stampNs && stampNs < deactivationNs then
          if sweep.activeFault.isSome then
            -- the loop returns here and leaves the later faults as they are
            .ok (fault :: rest,
              { sweep with rejection := some "multiple same-target faults are active" }, p)
          else
            let (fault, opening, p) ← p.openInterval stamp counters fault
            let (rest, sweep, p) ← sweepFaults target stamp stampNs t0Ns counters rest (index + 1)
              { sweep with events := sweep.events ++ opening, activeFault := some index } p
            .ok (fault :: rest, sweep, p)
        else
          let (rest, sweep, p) ←
            sweepFaults target stamp stampNs t0Ns counters rest (index + 1) sweep p
          .ok (fault :: rest, sweep, p)

/-- The counters of the stream at `index` replaced. -/
def setCounters (p : FaultProtocol) (index : Fin 4) (counters : StreamCounters) : FaultProtocol :=
  { p with streamCounters := Function.update p.streamCounters index counters }

def beginTargetInputLocked (p : FaultProtocol) (target : UInt8) (stamp : Time) (index : Fin 4) :
    Except Throw (Sweep × FaultProtocol) := do
  let counters := p.streamCounters index
  let stampNs ← timeToNanoseconds stamp
  if counters.lastInputStampNs.any (fun last => stampNs < last) then
    .ok ({ rejection := some "raw input stamp regressed within the armed generation" }, p)
  else match incrementCounter counters.inputSequence with
    | none => .ok ({ rejection := some "target stream counter exhausted" }, p)
    | some inputSequence =>
        match incrementCounter counters.rawInputCount with
        | none =>
            .ok ({ rejection := some "target stream counter exhausted" },
              p.setCounters index { counters with inputSequence := inputSequence })
        | some rawInputCount => do
            let counters := { counters with
              inputSequence := inputSequence
              rawInputCount := rawInputCount
              lastInputStampNs := some stampNs }
            let t0Ns ← timeToNanoseconds p.acceptedGoalStamp
            let (runtimeFaults, sweep, p) ← sweepFaults target stamp stampNs t0Ns counters
              p.runtimeFaults 0 {} (p.setCounters index counters)
            .ok (sweep, { p with runtimeFaults := runtimeFaults })

/-- The loop of `appendRestorationEventsLocked`. -/
def restoreFaults (target : UInt8) (stamp : Time) (counters : StreamCounters) :
    List RuntimeFault → List FaultEvent → FaultProtocol →
      Except Throw (List RuntimeFault × List FaultEvent × FaultProtocol)
  | [], events, p => .ok ([], events, p)
  | fault :: rest, events, p => do
      if fault.target = target ∧ fault.restorationPending ∧ ¬ fault.firstRestored then
        let fault := { fault with firstRestored := true, restorationPending := false }
        let (event, p) ← p.makeDataEventLocked FaultEvent.EVENT_FIRST_RESTORED stamp fault counters
          "first corresponding unmodified validated output"
        let (rest, events, p) ← restoreFaults target stamp counters rest (events ++ [event]) p
        .ok (fault :: rest, events, p)
      else
        let (rest, events, p) ← restoreFaults target stamp counters rest events p
        .ok (fault :: rest, events, p)

def appendRestorationEventsLocked (p : FaultProtocol) (target : UInt8) (stamp : Time)
    (counters : StreamCounters) (events : List FaultEvent) :
    Except Throw (List FaultEvent × FaultProtocol) := do
  let (runtimeFaults, events, p) ← restoreFaults target stamp counters p.runtimeFaults events p
  .ok (events, { p with runtimeFaults := runtimeFaults })

/-- The active fault with its index, when its mode is `mode`. -/
def activeFaultOfMode (p : FaultProtocol) (sweep : Sweep) (mode : UInt8) :
    Option (Nat × RuntimeFault) := do
  let index ← sweep.activeFault
  let fault ← p.runtimeFaults[index]?
  if fault.mode = mode then some (index, fault) else none

/-- The runtime fault at `index` replaced. -/
def setFault (p : FaultProtocol) (index : Nat) (fault : RuntimeFault) : FaultProtocol :=
  { p with runtimeFaults := p.runtimeFaults.set index fault }

section Process

variable {F32 F64 : Type} [Binary32 F32] [Binary64 F64] [Tf2 F64]

def processScan (p : FaultProtocol) (input : LaserScan F32) (expectedFrame : String) :
    Except Throw (FaultProcessOutcome (LaserScan F32) × FaultProtocol) :=
  match validateAndCopyScan input expectedFrame with
  | .error reason => .ok ({ reason := reason }, p)
  | .ok validated =>
      if p.state ≠ .armed then
        .ok ({ accepted := true, publish := true, message := some validated }, p)
      else do
        let stamp := input.header.stamp
        let index ← streamIndex FaultSpec.TARGET_SCAN
        let (sweep, p) ← p.beginTargetInputLocked FaultSpec.TARGET_SCAN stamp index
        match sweep.rejection with
        | some reason => .ok ({ reason := reason, events := sweep.events }, p)
        | none =>
            match p.activeFaultOfMode sweep FaultSpec.MODE_LIDAR_DROPOUT with
            | some (place, fault) =>
                match incrementCounter fault.affectedMessageCount with
                | none =>
                    .ok ({
                      reason := "fault affected-message counter exhausted"
                      events := sweep.events }, p)
                | some affectedMessageCount =>
                    let fault := { fault with affectedMessageCount := affectedMessageCount }
                    let p := p.setFault place fault
                    if affectedMessageCount = 1 then do
                      let (event, p) ← p.makeDataEventLocked FaultEvent.EVENT_FIRST_AFFECTED stamp
                        fault (p.streamCounters index)
                        "first validated scan suppressed by LiDAR dropout"
                      .ok ({ accepted := true, events := sweep.events ++ [event] }, p)
                    else .ok ({ accepted := true, events := sweep.events }, p)
            | none =>
                let counters := p.streamCounters index
                match incrementCounter counters.validatedOutputCount with
                | none =>
                    .ok ({
                      reason := "validated scan counter exhausted"
                      events := sweep.events }, p)
                | some validatedOutputCount => do
                    let counters := { counters with validatedOutputCount := validatedOutputCount }
                    let (events, p) ← (p.setCounters index counters).appendRestorationEventsLocked
                      FaultSpec.TARGET_SCAN stamp counters sweep.events
                    .ok ({
                      accepted := true
                      publish := true
                      message := some validated
                      events := events }, p)

def processOdom (p : FaultProtocol) (input : Odometry F64)
    (expectedFrame expectedChildFrame : String) :
    Except Throw (FaultProcessOutcome (Odometry F64) × FaultProtocol) :=
  match validateAndCopyOdom input expectedFrame expectedChildFrame with
  | .error reason => .ok ({ reason := reason }, p)
  | .ok validated =>
      if p.state ≠ .armed then
        .ok ({ accepted := true, publish := true, message := some validated }, p)
      else do
        let stamp := input.header.stamp
        let index ← streamIndex FaultSpec.TARGET_ODOM
        let (sweep, p) ← p.beginTargetInputLocked FaultSpec.TARGET_ODOM stamp index
        match sweep.rejection with
        | some reason => .ok ({ reason := reason, events := sweep.events }, p)
        | none =>
            let counters := p.streamCounters index
            match p.activeFaultOfMode sweep FaultSpec.MODE_ODOM_DRIFT with
            | some (place, fault) =>
                match incrementCounter fault.affectedMessageCount with
                | none =>
                    .ok ({
                      message := some validated
                      reason := "fault affected-message counter exhausted"
                      events := sweep.events }, p)
                | some affectedMessageCount =>
                    match incrementCounter counters.validatedOutputCount with
                    | none =>
                        .ok ({
                          message := some validated
                          reason := "validated odometry counter exhausted"
                          events := sweep.events }, p)
                    | some validatedOutputCount => do
                        let fault := { fault with affectedMessageCount := affectedMessageCount }
                        let counters := { counters with
                          validatedOutputCount := validatedOutputCount }
                        let p := (p.setFault place fault).setCounters index counters
                        let t0Ns ← timeToNanoseconds p.acceptedGoalStamp
                        let activationNs ← addI64 t0Ns fault.canonical.startOffsetNs
                        let stampNs ← timeToNanoseconds stamp
                        let elapsedNs ← subI64 stampNs activationNs
                        let message := applyOdomDrift validated fault.canonical elapsedNs
                        if affectedMessageCount = 1 then do
                          let (event, p) ← p.makeDataEventLocked FaultEvent.EVENT_FIRST_AFFECTED
                            stamp fault counters
                            "first validated odometry transformed by SE(2) drift"
                          .ok ({
                            accepted := true
                            publish := true
                            message := some message
                            events := sweep.events ++ [event] }, p)
                        else
                          .ok ({
                            accepted := true
                            publish := true
                            message := some message
                            events := sweep.events }, p)
            | none =>
                match incrementCounter counters.validatedOutputCount with
                | none =>
                    .ok ({
                      message := some validated
                      reason := "validated odometry counter exhausted"
                      events := sweep.events }, p)
                | some validatedOutputCount => do
                    let counters := { counters with validatedOutputCount := validatedOutputCount }
                    let (events, p) ← (p.setCounters index counters).appendRestorationEventsLocked
                      FaultSpec.TARGET_ODOM stamp counters sweep.events
                    .ok ({
                      accepted := true
                      publish := true
                      message := some validated
                      events := events }, p)

def processImu (p : FaultProtocol) (input : Imu F64) (expectedFrame : String) :
    Except Throw (FaultProcessOutcome (Imu F64) × FaultProtocol) :=
  match validateAndCopyImu input expectedFrame with
  | .error reason => .ok ({ reason := reason }, p)
  | .ok validated =>
      if p.state ≠ .armed then
        .ok ({ accepted := true, publish := true, message := some validated }, p)
      else do
        let stamp := input.header.stamp
        let index ← streamIndex FaultSpec.TARGET_IMU
        let (sweep, p) ← p.beginTargetInputLocked FaultSpec.TARGET_IMU stamp index
        match sweep.rejection with
        | some reason => .ok ({ reason := reason, events := sweep.events }, p)
        | none =>
            let counters := p.streamCounters index
            match incrementCounter counters.validatedOutputCount with
            | none =>
                .ok ({ reason := "validated IMU counter exhausted", events := sweep.events }, p)
            | some validatedOutputCount => do
                let counters := { counters with validatedOutputCount := validatedOutputCount }
                let (events, p) ← (p.setCounters index counters).appendRestorationEventsLocked
                  FaultSpec.TARGET_IMU stamp counters sweep.events
                .ok ({
                  accepted := true
                  publish := true
                  message := some validated
                  events := events }, p)

end Process

end FaultProtocol

/-! ### Calls -/

/-- A call of the protocol. -/
inductive Call (F32 F64 : Type) where
  | preload (request : PreloadRequest) (operationStamp : Time)
  | arm (request : ArmRequest) (operationStamp : Time)
  | reset (operationStamp : Time)
  | scan (input : LaserScan F32) (expectedFrame : String)
  | odom (input : Odometry F64) (expectedFrame expectedChildFrame : String)
  | imu (input : Imu F64) (expectedFrame : String)

/-- The outcome of a call. -/
inductive Outcome (F32 F64 : Type) where
  | preload (outcome : PreloadOutcome)
  | arm (outcome : ArmOutcome)
  | reset (outcome : ResetOutcome)
  | scan (outcome : FaultProcessOutcome (LaserScan F32))
  | odom (outcome : FaultProcessOutcome (Odometry F64))
  | imu (outcome : FaultProcessOutcome (Imu F64))

namespace FaultProtocol

variable {F32 F64 : Type} [Binary32 F32] [Binary64 F64] [Tf2 F64]

/-- One call of the protocol. -/
def step (lib : Libraries) (p : FaultProtocol) :
    Call F32 F64 → Except Throw (Outcome F32 F64 × FaultProtocol)
  | .preload request stamp => do
      let (outcome, p) ← p.preload lib request stamp
      .ok (.preload outcome, p)
  | .arm request stamp => do
      let (outcome, p) ← p.arm request stamp
      .ok (.arm outcome, p)
  | .reset stamp => do
      let (outcome, p) ← p.reset stamp
      .ok (.reset outcome, p)
  | .scan input frame => do
      let (outcome, p) ← p.processScan input frame
      .ok (.scan outcome, p)
  | .odom input frame childFrame => do
      let (outcome, p) ← p.processOdom input frame childFrame
      .ok (.odom outcome, p)
  | .imu input frame => do
      let (outcome, p) ← p.processImu input frame
      .ok (.imu outcome, p)

end FaultProtocol

end RobotestLab
