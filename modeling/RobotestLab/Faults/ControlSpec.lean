import RobotestLab.Faults.ProtocolSpec

/-!
# What the control operations do

A control request is answered in one of three ways: it is rejected, it replays what was
committed before, or it commits a new state. `preloadVerdict` and `armVerdict` decide which
without touching the state, and `preload_eq`, `arm_eq` and `reset_eq` state that the
operations follow them. Besides a commit, the only trace of a request is its event.
-/

namespace RobotestLab

namespace FaultProtocol

/-! ### Verdicts -/

/-- The answer to a control request. -/
inductive Verdict where
  | rejected (message : String)
  | replayed
  | committed (next : FaultProtocol)

namespace Verdict

/-- The protocol after the answer, its event not yet counted. -/
def next (p : FaultProtocol) : Verdict → FaultProtocol
  | .committed next => next
  | _ => p

def accepted : Verdict → Bool
  | .rejected _ => false
  | _ => true

def replays : Verdict → Bool
  | .replayed => true
  | _ => false

/-- The text of the answer, given the texts of a replay and of a commit. -/
def message (replay commit : String) : Verdict → String
  | .rejected message => message
  | .replayed => replay
  | .committed _ => commit

/-- An answer that commits nothing leaves the protocol as it is. -/
theorem next_eq {p : FaultProtocol} {v : Verdict} (h : v.accepted = false ∨ v.replays = true) :
  v.next p = p
  := by
  cases v with
  | rejected message => rfl
  | replayed => rfl
  | committed next => simp [accepted, replays] at h

end Verdict

/-! ### Control events -/

/-- The event of a control request under the given sequence number. -/
def controlEvent (p : FaultProtocol) (eventSequence : UInt64) (eventType : UInt8)
    (actualTime : Time) (stateBefore : FaultControlState) (accepted replayed : Bool)
    (requested : Requested) (detail : String) : FaultEvent where
  header := { stamp := actualTime }
  schemaVersion := FaultEvent.SCHEMA_VERSION
  eventSequence := eventSequence
  eventType := eventType
  stateBefore := stateBefore.wire
  stateAfter := p.state.wire
  accepted := accepted
  replayed := replayed
  requestedScheduleHash := requested.hash
  committedScheduleHash := p.schedule.sha256
  requestedGeneration := requested.generation
  committedGeneration := p.generation
  requestedFaultCount := requested.faultCount
  committedFaultCount := p.committedFaultCount
  requestedGoalUuid := requested.goalUuid
  boundGoalUuid := p.boundGoalUuid
  requestedT0 := requested.t0
  boundT0 := p.acceptedGoalStamp
  armCommitTime := p.armCommitStamp
  armMarginNs := p.armMarginNs
  actualTime := actualTime
  target := FaultSpec.TARGET_UNSPECIFIED
  mode := FaultSpec.MODE_PASS_THROUGH
  detail := detail

/-- A control event is made exactly while the counter of events can grow. -/
theorem makeControlEventLocked_eq (p : FaultProtocol) (eventType : UInt8) (actualTime : Time)
    (stateBefore : FaultControlState) (accepted replayed : Bool) (requested : Requested)
    (detail : String) :
  p.makeControlEventLocked eventType actualTime stateBefore accepted replayed requested detail
    = if p.eventSequence.toNat + 1 < 2 ^ 64 then
        .ok (p.controlEvent (UInt64.ofNat (p.eventSequence.toNat + 1)) eventType actualTime
          stateBefore accepted replayed requested detail, p.counted 1)
      else .error exhausted
  := by
  rw [makeControlEventLocked, nextEventSequence_eq]
  split <;> rfl

/-! ### Preloading -/

/-- The state of a newly prepared schedule. -/
def preparedState (p : FaultProtocol) (canonical : CanonicalSchedule) (generation : UInt64) :
    FaultProtocol :=
  resetRuntimeLocked { p with
    lastAllocatedGeneration := generation
    generation := generation
    schedule := canonical
    state := .prepared
    boundGoalUuid := {}
    acceptedGoalStamp := {}
    armCommitStamp := {}
    armMarginNs := 0 }

/-- The schedule is the committed one. -/
def sameSchedule (p : FaultProtocol) (canonical : CanonicalSchedule) : Bool :=
  p.state != .reset && p.schedule.bytes == canonical.bytes && p.schedule.sha256 == canonical.sha256

/-- The answer to a preload whose schedule is canonical. -/
def preloadCanonical (p : FaultProtocol) (canonical : CanonicalSchedule) (scheduleHash : String) :
    Verdict :=
  if !lowercaseSha256 scheduleHash || scheduleHash != canonical.sha256 then
    .rejected "claimed schedule hash does not match canonical bytes"
  else if p.state == .armed && !p.sameSchedule canonical then
    .rejected "an armed generation rejects a different preload"
  else if p.sameSchedule canonical then .replayed
  else match incrementCounter p.lastAllocatedGeneration with
    | none => .rejected "schedule generation allocator is exhausted"
    | some generation => .committed (p.preparedState canonical generation)

/-- The answer to a preload. -/
def preloadVerdict (lib : Libraries) (p : FaultProtocol) (request : PreloadRequest)
    (operationStamp : Time) : Verdict :=
  if !normalizedTime operationStamp then
    .rejected "preload operation stamp is not normalized"
  else match canonicalizeSchedule lib request.faults with
    | .error (.rejected message) => .rejected message
    | .error (.threw _) => .rejected ""
    | .ok canonical => p.preloadCanonical canonical request.scheduleHash

/-- What a preload reports about a verdict. -/
def preloadOutcome (p : FaultProtocol) (v : Verdict) (request : PreloadRequest)
    (operationStamp : Time) : PreloadOutcome :=
  let q := v.next p
  let message := v.message "exact canonical preload replay accepted"
    "canonical schedule prepared atomically"
  { accepted := v.accepted
    replayed := v.replays
    state := q.state
    scheduleHash := q.schedule.sha256
    loadedCount := q.committedFaultCount
    generation := q.generation
    message := message
    event := q.controlEvent (UInt64.ofNat (p.eventSequence.toNat + 1))
      (if v.accepted then FaultEvent.EVENT_SCHEDULE_LOADED else FaultEvent.EVENT_SCHEDULE_REJECTED)
      operationStamp p.state v.accepted v.replays {
        hash := request.scheduleHash
        generation := 0
        faultCount := UInt32.ofNat request.faults.length
        goalUuid := {}
        t0 := {} } message }

/-- A preload follows its verdict, while the counter of events can grow. -/
theorem preload_eq (lib : Libraries) (p : FaultProtocol) (request : PreloadRequest)
    (operationStamp : Time) :
  p.preload lib request operationStamp
    = p.answered 1
        (p.preloadOutcome (p.preloadVerdict lib request operationStamp) request operationStamp)
        ((p.preloadVerdict lib request operationStamp).next p)
  := by
  have hthrow := canonicalizeSchedule_noThrow lib request.faults
  unfold preload preloadVerdict preloadCanonical answered
  simp only [makeControlEventLocked_eq]
  cases hcanonical : canonicalizeSchedule lib request.faults with
  | error failure =>
      cases failure with
      | threw exception =>
          exact absurd hcanonical (hthrow exception)
      | rejected message =>
          simp only
          by_cases hroom : p.eventSequence.toNat + 1 < 2 ^ 64
          · split_ifs <;> rfl
          · split_ifs <;> rfl
  | ok canonical =>
      have hsame : (p.state != .reset && p.schedule.bytes == canonical.bytes &&
          p.schedule.sha256 == canonical.sha256) = p.sameSchedule canonical := rfl
      simp only [hsame]
      by_cases hroom : p.eventSequence.toNat + 1 < 2 ^ 64
      · simp only [if_pos hroom, Except.ok_bind]
        split_ifs
        · rfl
        · rfl
        · rfl
        · rfl
        · cases incrementCounter p.lastAllocatedGeneration with
          | none => rfl
          | some generation =>
              simp only
              split
              · rfl
              · exact absurd hroom ‹_›
      · simp only [if_neg hroom, Except.error_bind]
        split_ifs
        · rfl
        · rfl
        · rfl
        · rfl
        · cases incrementCounter p.lastAllocatedGeneration with
          | none => rfl
          | some generation =>
              simp only
              split
              · exact absurd ‹_› hroom
              · rfl

/-! ### Arming -/

/-- The state of a schedule bound to a goal. -/
def armedState (p : FaultProtocol) (request : ArmRequest) (operationStamp : Time)
    (marginNs : Int) : FaultProtocol :=
  resetRuntimeLocked { p with
    state := .armed
    boundGoalUuid := request.goalUuid
    acceptedGoalStamp := request.acceptedGoalStamp
    armCommitStamp := operationStamp
    armMarginNs := marginNs }

/-- The request asks for the binding that is committed. -/
def sameBinding (p : FaultProtocol) (request : ArmRequest) : Bool :=
  p.state == .armed && request.scheduleHash == p.schedule.sha256 &&
    request.generation == p.generation && sameUuid request.goalUuid p.boundGoalUuid &&
    sameTime request.acceptedGoalStamp p.acceptedGoalStamp

/-- Some interval from `t0` on ends after the largest stamp. -/
def exceeds (faults : List CanonicalFault) (t0 : Int) : Bool :=
  faults.any fun fault => maximumRosTimeNs - (fault.startOffsetNs + fault.durationNs) < t0

/-- The margin between the commit and the earliest activation, or why there is none. -/
def marginOf (earliestStartOffsetNs : Option Int) (t0 commit : Int) : Except String Int :=
  match earliestStartOffsetNs with
  | none => .ok 0
  | some earliest =>
      if Int64Arith.greatest - earliest < t0 then
        .error "T0 plus earliest activation overflows ROS time"
      else if t0 + earliest - commit < kMinimumArmingMarginNanoseconds then
        .error "arm commit has less than 0.5 seconds of margin"
      else .ok (t0 + earliest - commit)

/-- The answer to an arm request that passed the checks of its fields. -/
def armPrepared (p : FaultProtocol) (request : ArmRequest) (operationStamp : Time) : Verdict :=
  if operationStamp.ns < request.acceptedGoalStamp.ns then
    .rejected "arm commit stamp precedes authoritative T0"
  else if exceeds p.schedule.faults request.acceptedGoalStamp.ns then
    .rejected "T0 plus configured interval exceeds ROS Time range"
  else match marginOf p.schedule.earliestStartOffsetNs request.acceptedGoalStamp.ns
      operationStamp.ns with
    | .error message => .rejected message
    | .ok marginNs => .committed (p.armedState request operationStamp marginNs)

/-- The answer to an arm request. -/
def armVerdict (p : FaultProtocol) (request : ArmRequest) (operationStamp : Time) : Verdict :=
  if !normalizedTime operationStamp then
    .rejected "arm operation stamp is not normalized"
  else if p.sameBinding request then .replayed
  else if p.state != .prepared then
    .rejected "arm requires one matching PREPARED generation"
  else if !lowercaseSha256 request.scheduleHash ||
      request.scheduleHash != p.schedule.sha256 || request.generation != p.generation then
    .rejected "arm hash or generation does not match PREPARED state"
  else if zeroUuid request.goalUuid then
    .rejected "arm goal UUID must not be all zero"
  else if !positiveTime request.acceptedGoalStamp then
    .rejected "authoritative accepted-goal T0 must be positive"
  else p.armPrepared request operationStamp

/-- What an arm request reports about a verdict. -/
def armOutcome (p : FaultProtocol) (v : Verdict) (request : ArmRequest) (operationStamp : Time) :
    ArmOutcome :=
  let q := v.next p
  let message := v.message "exact arm replay accepted"
    "prepared generation bound atomically to goal UUID and T0"
  { accepted := v.accepted
    replayed := v.replays
    state := q.state
    scheduleHash := q.schedule.sha256
    generation := q.generation
    goalUuid := q.boundGoalUuid
    acceptedGoalStamp := q.acceptedGoalStamp
    armCommitStamp := q.armCommitStamp
    armMarginNs := q.armMarginNs
    message := message
    event := q.controlEvent (UInt64.ofNat (p.eventSequence.toNat + 1))
      (if v.accepted then FaultEvent.EVENT_ARMED else FaultEvent.EVENT_ARM_REJECTED)
      operationStamp p.state v.accepted v.replays {
        hash := request.scheduleHash
        generation := request.generation
        faultCount := p.committedFaultCount
        goalUuid := request.goalUuid
        t0 := request.acceptedGoalStamp } message }

/-- The loop over the intervals does not overflow. -/
theorem exceedsRosTime_eq {faults : List CanonicalFault} (hwf : ∀ fault ∈ faults, fault.Wf)
    (t0 : Int) :
  exceedsRosTime t0 faults = .ok (exceeds faults t0)
  := by
  induction faults with
  | nil => rfl
  | cons fault rest ih =>
      have hfault := hwf fault List.mem_cons_self
      have hpositive := hfault.positive
      have hstart := hfault.start
      have hhorizon := hfault.horizon
      have hsub : Int64Arith.InRange
          (maximumRosTimeNs - (fault.startOffsetNs + fault.durationNs)) := by
        unfold Int64Arith.InRange Int64Arith.least Int64Arith.greatest maximumRosTimeNs
        omega
      rw [exceedsRosTime, addI64_of_inRange hfault.end_inRange, Except.ok_bind,
        subI64_of_inRange hsub, Except.ok_bind,
        ih (fun other hmem => hwf other (List.mem_cons_of_mem _ hmem)), exceeds, exceeds,
        List.any_cons]
      split_ifs with hlt
      · rw [decide_eq_true hlt, Bool.true_or]
      · rw [decide_eq_false hlt, Bool.false_or]

/-- The nanoseconds of a normalized stamp are bounded by the largest stamp. -/
theorem ns_bounds {stamp : Time} (h : normalizedTime stamp = true) :
  0 ≤ stamp.ns ∧ stamp.ns ≤ maximumRosTimeNs
  := by
  obtain ⟨hsec, hnanosec⟩ := (normalizedTime_iff stamp).mp h
  have := stamp.sec.toInt_lt
  unfold Time.ns maximumRosTimeNs
  omega

/-- The margin does not overflow. -/
theorem armMargin_eq {schedule : CanonicalSchedule} (hwf : schedule.Wf) {t0 commit : Time}
    (ht0 : normalizedTime t0 = true) (hcommit : normalizedTime commit = true) :
  armMargin schedule.earliestStartOffsetNs t0.ns commit.ns
    = .ok (marginOf schedule.earliestStartOffsetNs t0.ns commit.ns)
  := by
  cases hearliest : schedule.earliestStartOffsetNs with
  | none => rfl
  | some earliest =>
      obtain ⟨⟨fault, hmem, rfl⟩, -⟩ := hwf.earliest_le hearliest
      have hstart := (hwf.faults fault hmem).start
      have hpositive := (hwf.faults fault hmem).positive
      have hhorizon := (hwf.faults fault hmem).horizon
      obtain ⟨ht0Nonneg, ht0Le⟩ := ns_bounds ht0
      obtain ⟨hcommitNonneg, hcommitLe⟩ := ns_bounds hcommit
      unfold maximumRosTimeNs at ht0Le hcommitLe
      have hlatest : Int64Arith.InRange (Int64Arith.greatest - fault.startOffsetNs) := by
        unfold Int64Arith.InRange Int64Arith.least Int64Arith.greatest
        omega
      have hactivation : Int64Arith.InRange (t0.ns + fault.startOffsetNs) := by
        unfold Int64Arith.InRange Int64Arith.least Int64Arith.greatest
        omega
      have hmargin : Int64Arith.InRange (t0.ns + fault.startOffsetNs - commit.ns) := by
        unfold Int64Arith.InRange Int64Arith.least Int64Arith.greatest
        omega
      rw [armMargin, marginOf, subI64_of_inRange hlatest, Except.ok_bind]
      split_ifs
      · rfl
      · rw [addI64_of_inRange hactivation, Except.ok_bind, subI64_of_inRange hmargin,
          Except.ok_bind, if_pos ‹_›]
      · rw [addI64_of_inRange hactivation, Except.ok_bind, subI64_of_inRange hmargin,
          Except.ok_bind, if_neg ‹_›]

/-- The answer to an arm request that is rejected. -/
theorem arm_rejected (p : FaultProtocol) (request : ArmRequest) (operationStamp : Time)
    (message : String) :
  (do
    let (event, p'') ← p.makeControlEventLocked FaultEvent.EVENT_ARM_REJECTED operationStamp
      p.state false false {
        hash := request.scheduleHash
        generation := request.generation
        faultCount := p.committedFaultCount
        goalUuid := request.goalUuid
        t0 := request.acceptedGoalStamp } message
    .ok ({
      accepted := false
      replayed := false
      state := p.state
      scheduleHash := p.schedule.sha256
      generation := p.generation
      goalUuid := p.boundGoalUuid
      acceptedGoalStamp := p.acceptedGoalStamp
      armCommitStamp := p.armCommitStamp
      armMarginNs := p.armMarginNs
      message := message
      event := event }, p''))
    = p.answered 1 (p.armOutcome (.rejected message) request operationStamp)
      (Verdict.next p (.rejected message))
  := by
  rw [makeControlEventLocked_eq, answered]
  split_ifs <;> rfl

/-- An arm request follows its verdict, while the counter of events can grow. -/
theorem arm_eq {p : FaultProtocol} (hwf : p.schedule.Wf) (request : ArmRequest)
    (operationStamp : Time) :
  p.arm request operationStamp
    = p.answered 1 (p.armOutcome (p.armVerdict request operationStamp) request operationStamp)
      ((p.armVerdict request operationStamp).next p)
  := by
  have hsame : (p.state == .armed && request.scheduleHash == p.schedule.sha256 &&
      request.generation == p.generation && sameUuid request.goalUuid p.boundGoalUuid &&
      sameTime request.acceptedGoalStamp p.acceptedGoalStamp) = p.sameBinding request := rfl
  unfold arm armVerdict
  simp only [hsame, arm_rejected]
  by_cases hstamp : (!normalizedTime operationStamp) = true
  · rw [if_pos hstamp, if_pos hstamp]
  rw [if_neg hstamp, if_neg hstamp]
  by_cases hbinding : p.sameBinding request = true
  · rw [if_pos hbinding, if_pos hbinding, makeControlEventLocked_eq, answered]
    split_ifs <;> rfl
  rw [if_neg hbinding, if_neg hbinding]
  by_cases hprepared : (p.state != .prepared) = true
  · rw [if_pos hprepared, if_pos hprepared]
  rw [if_neg hprepared, if_neg hprepared]
  by_cases hhash : (!lowercaseSha256 request.scheduleHash ||
      request.scheduleHash != p.schedule.sha256 || request.generation != p.generation) = true
  · rw [if_pos hhash, if_pos hhash]
  rw [if_neg hhash, if_neg hhash]
  by_cases huuid : zeroUuid request.goalUuid = true
  · rw [if_pos huuid, if_pos huuid]
  rw [if_neg huuid, if_neg huuid]
  by_cases ht0 : (!positiveTime request.acceptedGoalStamp) = true
  · rw [if_pos ht0, if_pos ht0]
  rw [if_neg ht0, if_neg ht0]
  rw [Bool.not_eq_true, Bool.not_eq_false'] at hstamp ht0
  rw [timeToNanoseconds_eq, Except.ok_bind, timeToNanoseconds_eq, Except.ok_bind,
    exceedsRosTime_eq hwf.faults, armMargin_eq hwf ((positiveTime_iff _).mp ht0).1 hstamp,
    armPrepared]
  by_cases hcommit : operationStamp.ns < request.acceptedGoalStamp.ns
  · rw [if_pos hcommit, if_pos hcommit]
  rw [if_neg hcommit, if_neg hcommit, Except.ok_bind]
  by_cases hexceeds : exceeds p.schedule.faults request.acceptedGoalStamp.ns = true
  · rw [if_pos hexceeds, if_pos hexceeds]
  rw [if_neg hexceeds, if_neg hexceeds, Except.ok_bind]
  cases marginOf p.schedule.earliestStartOffsetNs request.acceptedGoalStamp.ns
      operationStamp.ns with
  | error message => rfl
  | ok marginNs =>
      simp only [answered]
      rw [makeControlEventLocked_eq]
      by_cases hroom : p.eventSequence.toNat + 1 < 2 ^ 64
      · rw [if_pos hroom]
        split
        · rfl
        · exact absurd hroom ‹_›
      · rw [if_neg hroom]
        split
        · exact absurd ‹_› hroom
        · rfl

/-! ### Resetting -/

/-- The state without a schedule. -/
def clearedState (p : FaultProtocol) : FaultProtocol :=
  { p with
    state := .reset
    generation := 0
    schedule := {}
    runtimeFaults := []
    boundGoalUuid := {}
    acceptedGoalStamp := {}
    armCommitStamp := {}
    armMarginNs := 0
    streamCounters := fun _ => {} }

/-- What a reset reports. -/
def resetOutcome (p : FaultProtocol) (operationStamp : Time) : ResetOutcome :=
  let message :=
    if p.state = .reset then "fault state already RESET; idempotent reset accepted"
    else "fault state cleared; deterministic pass-through active"
  { stateBefore := p.state
    message := message
    event := p.clearedState.controlEvent (UInt64.ofNat (p.eventSequence.toNat + 1))
      FaultEvent.EVENT_RESET operationStamp p.state true (p.state = .reset) {
        hash := p.schedule.sha256
        generation := p.generation
        faultCount := p.committedFaultCount
        goalUuid := p.boundGoalUuid
        t0 := p.acceptedGoalStamp } message }

/-- A reset clears the state, while the counter of events can grow. -/
theorem reset_eq (p : FaultProtocol) (operationStamp : Time) :
  p.reset operationStamp
    = p.answered 1 (p.resetOutcome operationStamp) p.clearedState
  := by
  unfold reset answered
  simp only [makeControlEventLocked_eq]
  by_cases hroom : p.eventSequence.toNat + 1 < 2 ^ 64
  · rw [if_pos hroom, if_pos hroom]
    rfl
  · rw [if_neg hroom, if_neg hroom]
    rfl

end FaultProtocol

end RobotestLab
