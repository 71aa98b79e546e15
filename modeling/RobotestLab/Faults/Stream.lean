import RobotestLab.Faults.Protocol
import RobotestLab.Faults.ScheduleSpec

/-!
# One stream at a time

What an accepted sensor message does to a protocol in the armed state, said once for the
three streams. Each runtime fault of the stream watches the stamps go by: `RuntimeFault.visit`
opens and closes its interval, `RuntimeFault.affect` counts a message it changed, and
`RuntimeFault.restore` notes the first unchanged message after it. The events are listed
first, as `Emission`s, and numbered afterwards (`FaultProtocol.emit`).
-/

namespace RobotestLab

/-! ### Streams -/

/-- The streams that pass through the proxy. -/
inductive Target where
  | scan
  | odom
  | imu
  deriving DecidableEq, Repr

namespace Target

/-- The value of a stream on the wire. -/
def wire : Target → UInt8
  | .scan => FaultSpec.TARGET_SCAN
  | .odom => FaultSpec.TARGET_ODOM
  | .imu => FaultSpec.TARGET_IMU

/-- The place of a stream in the array of counters. -/
def index : Target → Fin 4
  | .scan => 1
  | .odom => 2
  | .imu => 3

/-- Whether an active fault of the given mode changes the messages of the stream. -/
def affects : Target → UInt8 → Bool
  | .scan, mode => mode == FaultSpec.MODE_LIDAR_DROPOUT
  | .odom, mode => mode == FaultSpec.MODE_ODOM_DRIFT
  | .imu, _ => false

/-- Whether a changed message of the stream is withheld. -/
def suppresses : Target → Bool
  | .scan => true
  | _ => false

/-- The text of the event of the first changed message. -/
def affectedDetail : Target → String
  | .scan => "first validated scan suppressed by LiDAR dropout"
  | .odom => "first validated odometry transformed by SE(2) drift"
  | .imu => ""

theorem streamIndex_wire (τ : Target) :
  streamIndex τ.wire = .ok τ.index
  := by
  cases τ <;> rfl

theorem index_injective {τ τ' : Target} (h : τ.index = τ'.index) :
  τ = τ'
  := by
  cases τ <;> cases τ' <;> first | rfl | exact absurd h (by decide)

theorem wire_injective {τ τ' : Target} (h : τ.wire = τ'.wire) :
  τ = τ'
  := by
  cases τ <;> cases τ' <;> first | rfl | exact absurd h (by decide)

end Target

/-! ### One fault -/

/-- The bounds of the interval of a canonical fault, from the time `t0` it is bound to. -/
def CanonicalFault.activationNs (t0 : Int) (fault : CanonicalFault) : Int :=
  t0 + fault.startOffsetNs

def CanonicalFault.deactivationNs (t0 : Int) (fault : CanonicalFault) : Int :=
  t0 + fault.startOffsetNs + fault.durationNs

/-- The stamp `t` lies in the half-open interval of the fault. -/
def CanonicalFault.Inside (t0 t : Int) (fault : CanonicalFault) : Prop :=
  fault.activationNs t0 ≤ t ∧ t < fault.deactivationNs t0

instance (t0 t : Int) (fault : CanonicalFault) : Decidable (fault.Inside t0 t) :=
  inferInstanceAs (Decidable (_ ∧ _))

/-- The bounds of the interval of the fault are signed 64-bit values. -/
def CanonicalFault.InRange (t0 : Int) (fault : CanonicalFault) : Prop :=
  Int64Arith.InRange (fault.activationNs t0) ∧ Int64Arith.InRange (fault.deactivationNs t0)

namespace RuntimeFault

/-- The fault closes its interval at the stamp `t`. -/
def closes (t0 t : Int) (fault : RuntimeFault) : Bool :=
  !fault.deactivated && fault.canonical.deactivationNs t0 ≤ t

/-- The fault is active at the stamp `t`. -/
def active (t0 t : Int) (fault : RuntimeFault) : Bool :=
  !fault.deactivated && decide (fault.canonical.Inside t0 t)

/-- The fault after its stream reached the stamp `t`. -/
def visit (t0 t : Int) (fault : RuntimeFault) : RuntimeFault :=
  if fault.closes t0 t then
    { fault with
      deactivated := true
      restorationPending :=
        0 < fault.affectedMessageCount && fault.mode != FaultSpec.MODE_PASS_THROUGH }
  else if fault.active t0 t then { fault with activated := true }
  else fault

/-- The fault after it changed a message. -/
def affect (fault : RuntimeFault) : RuntimeFault :=
  { fault with affectedMessageCount := fault.affectedMessageCount + 1 }

/-- Whether an unchanged message is the first one after the fault. -/
def restorable (fault : RuntimeFault) : Bool :=
  fault.restorationPending && !fault.firstRestored

/-- The fault after an unchanged message. -/
def restore (fault : RuntimeFault) : RuntimeFault :=
  if fault.restorable then { fault with firstRestored := true, restorationPending := false }
  else fault

/-- The fault changes the message of the stream `τ` with the stamp `t`. -/
def modifies (τ : Target) (t0 t : Int) (fault : RuntimeFault) : Bool :=
  fault.target == τ.wire && fault.active t0 t && τ.affects fault.mode

/-- The fault after the message of the stream `τ` with the stamp `t`, which some fault changed
or not. -/
def observe (τ : Target) (t0 t : Int) (modified : Bool) (fault : RuntimeFault) : RuntimeFault :=
  if fault.target ≠ τ.wire then fault
  else if fault.modifies τ t0 t then (fault.visit t0 t).affect
  else if modified then fault.visit t0 t
  else (fault.visit t0 t).restore

@[simp]
theorem visit_canonical (t0 t : Int) (fault : RuntimeFault) :
  (fault.visit t0 t).canonical = fault.canonical
  := by
  unfold visit
  split_ifs <;> rfl

@[simp]
theorem visit_affectedMessageCount (t0 t : Int) (fault : RuntimeFault) :
  (fault.visit t0 t).affectedMessageCount = fault.affectedMessageCount
  := by
  unfold visit
  split_ifs <;> rfl

@[simp]
theorem restore_canonical (fault : RuntimeFault) :
  fault.restore.canonical = fault.canonical
  := by
  unfold restore
  split_ifs <;> rfl

@[simp]
theorem observe_canonical (τ : Target) (t0 t : Int) (modified : Bool) (fault : RuntimeFault) :
  (fault.observe τ t0 t modified).canonical = fault.canonical
  := by
  unfold observe
  split_ifs <;> simp [affect]

theorem visit_target (t0 t : Int) (fault : RuntimeFault) :
  (fault.visit t0 t).target = fault.target
  := by
  simp [target]

theorem visit_mode (t0 t : Int) (fault : RuntimeFault) :
  (fault.visit t0 t).mode = fault.mode
  := by
  simp [mode]

end RuntimeFault

/-! ### Events to be made -/

/-- An event before it is numbered: its type, the fault and the counters it reports, and its
text. -/
structure Emission where
  eventType : UInt8
  fault : RuntimeFault
  counters : StreamCounters
  detail : String

/-- The event of a fault that opens or closes its interval at the stamp `t`. -/
def RuntimeFault.visitEmissions (t0 t : Int) (counters : StreamCounters) (fault : RuntimeFault) :
    List Emission :=
  if fault.closes t0 t then
    [⟨FaultEvent.EVENT_DEACTIVATED, fault.visit t0 t, counters,
      "first target input at or after the half-open interval end"⟩]
  else if fault.active t0 t && !fault.activated then
    [⟨FaultEvent.EVENT_ACTIVATED, fault.visit t0 t, counters,
      "first target input inside the configured interval"⟩]
  else []

/-- The event of a fault whose stream carries its first unchanged message. -/
def RuntimeFault.restoreEmissions (counters : StreamCounters) (fault : RuntimeFault) :
    List Emission :=
  if fault.restorable then
    [⟨FaultEvent.EVENT_FIRST_RESTORED, fault.restore, counters,
      "first corresponding unmodified validated output"⟩]
  else []

/-- The event of a fault that changes its first message. -/
def RuntimeFault.affectEmissions (τ : Target) (t0 t : Int) (counters : StreamCounters)
    (fault : RuntimeFault) : List Emission :=
  if fault.modifies τ t0 t && fault.affectedMessageCount == 0 then
    [⟨FaultEvent.EVENT_FIRST_AFFECTED, (fault.visit t0 t).affect, counters, τ.affectedDetail⟩]
  else []

namespace FaultProtocol

/-- The time the armed faults are bound to. -/
def t0Ns (p : FaultProtocol) : Int := p.acceptedGoalStamp.ns

/-- Some fault changes the message of the stream `τ` with the stamp `t`. -/
def modified (p : FaultProtocol) (τ : Target) (t : Int) : Bool :=
  p.runtimeFaults.any (RuntimeFault.modifies τ p.t0Ns t)

/-- The counters of the stream `τ` once a message with the stamp `t` is let in. -/
def begun (p : FaultProtocol) (τ : Target) (t : Int) : StreamCounters :=
  let counters := p.streamCounters τ.index
  { counters with
    inputSequence := counters.inputSequence + 1
    rawInputCount := counters.rawInputCount + 1
    lastInputStampNs := some t }

/-- The counters of the stream `τ` after a message with the stamp `t`. -/
def passed (p : FaultProtocol) (τ : Target) (t : Int) : StreamCounters :=
  let counters := p.begun τ t
  if p.modified τ t && τ.suppresses then counters
  else { counters with validatedOutputCount := counters.validatedOutputCount + 1 }

/-- The events of a message of the stream `τ` with the stamp `t`. -/
def emissions (p : FaultProtocol) (τ : Target) (t : Int) : List Emission :=
  let faults := p.runtimeFaults.filter (fun fault => fault.target == τ.wire)
  faults.flatMap (RuntimeFault.visitEmissions p.t0Ns t (p.begun τ t)) ++
    if p.modified τ t then
      faults.flatMap (RuntimeFault.affectEmissions τ p.t0Ns t (p.passed τ t))
    else
      faults.flatMap fun fault => (fault.visit p.t0Ns t).restoreEmissions (p.passed τ t)

/-- The protocol after a message of the stream `τ` with the stamp `t`, its events not yet
counted. -/
def observed (p : FaultProtocol) (τ : Target) (t : Int) : FaultProtocol :=
  { p with
    runtimeFaults := p.runtimeFaults.map (RuntimeFault.observe τ p.t0Ns t (p.modified τ t))
    streamCounters := Function.update p.streamCounters τ.index (p.passed τ t) }

/-! ### Making events -/

/-- The event of an emission under the given sequence number. -/
def dataEvent (p : FaultProtocol) (stamp : Time) (eventSequence : UInt64) (e : Emission) :
    FaultEvent where
  header := { stamp := stamp }
  schemaVersion := FaultEvent.SCHEMA_VERSION
  eventSequence := eventSequence
  eventType := e.eventType
  stateBefore := p.state.wire
  stateAfter := p.state.wire
  accepted := true
  replayed := false
  committedScheduleHash := p.schedule.sha256
  committedGeneration := p.generation
  committedFaultCount := p.committedFaultCount
  boundGoalUuid := p.boundGoalUuid
  boundT0 := p.acceptedGoalStamp
  armCommitTime := p.armCommitStamp
  armMarginNs := p.armMarginNs
  faultId := e.fault.canonical.specification.faultId
  target := e.fault.target
  mode := e.fault.mode
  configuredActivationTime := nanosecondsToTime (e.fault.canonical.activationNs p.t0Ns)
  configuredDeactivationTime := nanosecondsToTime (e.fault.canonical.deactivationNs p.t0Ns)
  actualTime := stamp
  seed := e.fault.canonical.specification.seed
  inputSequence := e.counters.inputSequence
  rawInputCount := e.counters.rawInputCount
  validatedOutputCount := e.counters.validatedOutputCount
  affectedMessageCount := e.fault.affectedMessageCount
  detail := e.detail

/-- The events of a list of emissions, numbered from `n + 1` on. -/
def numbered (p : FaultProtocol) (stamp : Time) : Nat → List Emission → List FaultEvent
  | _, [] => []
  | n, e :: es => p.dataEvent stamp (UInt64.ofNat (n + 1)) e :: p.numbered stamp (n + 1) es

/-- The protocol after `n` further events. -/
def counted (p : FaultProtocol) (n : Nat) : FaultProtocol :=
  { p with eventSequence := UInt64.ofNat (p.eventSequence.toNat + n) }

/-- The events of a list of emissions, made one after the other. -/
def emit (p : FaultProtocol) (stamp : Time) :
    List Emission → Except Throw (List FaultEvent × FaultProtocol)
  | [] => .ok ([], p)
  | e :: es => do
      let (event, p) ← p.makeDataEventLocked e.eventType stamp e.fault e.counters e.detail
      let (events, p) ← p.emit stamp es
      .ok (event :: events, p)

/-- The exception of a counter of events that cannot grow. -/
def exhausted : Throw := .overflowError "fault event sequence exhausted"

theorem counted_zero (p : FaultProtocol) :
  p.counted 0 = p
  := by
  simp [counted]

variable {p : FaultProtocol}

theorem counted_toNat {n : Nat} (h : p.eventSequence.toNat + n < 2 ^ 64) :
  (p.counted n).eventSequence.toNat = p.eventSequence.toNat + n
  := by
  rw [counted, UInt64.toNat_ofNat_of_lt' h]

theorem counted_counted {m n : Nat} (h : p.eventSequence.toNat + m < 2 ^ 64) :
  (p.counted m).counted n = p.counted (m + n)
  := by
  unfold counted
  simp only [UInt64.toNat_ofNat_of_lt' h, Nat.add_assoc]

/-- The next sequence number exists exactly while the counter is below its largest value. -/
theorem nextEventSequence_eq (p : FaultProtocol) :
  p.nextEventSequence
    = if p.eventSequence.toNat + 1 < 2 ^ 64 then .ok (p.counted 1) else .error exhausted
  := by
  unfold nextEventSequence incrementCounter
  have hlt := p.eventSequence.toNat_lt
  cases h : p.eventSequence.increment? with
  | none =>
      rw [UInt64.increment?_eq_none_iff] at h
      rw [if_neg (by omega)]
      rfl
  | some w =>
      rw [UInt64.increment?_eq_some_iff] at h
      have hw := w.toNat_lt
      rw [if_pos (by omega)]
      simp only [counted]
      rw [← h, UInt64.ofNat_toNat]

/-- An event of a fault whose bounds do not overflow is made exactly while the counter of
events can grow. -/
theorem makeDataEventLocked_eq {eventType : UInt8} {stamp : Time}
    {fault : RuntimeFault} {counters : StreamCounters} {detail : String}
    (h : fault.canonical.InRange p.t0Ns) :
  p.makeDataEventLocked eventType stamp fault counters detail
    = if p.eventSequence.toNat + 1 < 2 ^ 64 then
        .ok (p.dataEvent stamp (UInt64.ofNat (p.eventSequence.toNat + 1))
          ⟨eventType, fault, counters, detail⟩, p.counted 1)
      else .error exhausted
  := by
  obtain ⟨hactivation, hdeactivation⟩ := h
  rw [makeDataEventLocked, nextEventSequence_eq]
  split
  · have hadd : addI64 p.t0Ns fault.canonical.startOffsetNs
        = .ok (fault.canonical.activationNs p.t0Ns) := addI64_of_inRange hactivation
    have hadd' : addI64 (fault.canonical.activationNs p.t0Ns) fault.canonical.durationNs
        = .ok (fault.canonical.deactivationNs p.t0Ns) := addI64_of_inRange hdeactivation
    have ht0 : timeToNanoseconds (p.counted 1).acceptedGoalStamp = .ok p.t0Ns :=
      timeToNanoseconds_eq _
    simp only [Except.ok_bind, ht0, hadd, hadd']
    rfl
  · rfl

/-- The sequence number of an event does not matter for the events after it. -/
theorem numbered_counted (p : FaultProtocol) (stamp : Time) (n k : Nat) (es : List Emission) :
  (p.counted k).numbered stamp n es = p.numbered stamp n es
  := by
  induction es generalizing n with
  | nil => rfl
  | cons e es ih =>
      rw [numbered, numbered, ih]
      rfl

/-- Emissions of faults whose bounds do not overflow are made exactly while the counter of
events can grow, and are numbered consecutively. -/
theorem emit_eq {stamp : Time} {es : List Emission}
    (h : ∀ e ∈ es, e.fault.canonical.InRange p.t0Ns) :
  p.emit stamp es
    = if p.eventSequence.toNat + es.length < 2 ^ 64 then
        .ok (p.numbered stamp p.eventSequence.toNat es, p.counted es.length)
      else .error exhausted
  := by
  induction es generalizing p with
  | nil =>
      have := p.eventSequence.toNat_lt
      rw [if_pos (by simpa using this), List.length_nil, counted_zero]
      rfl
  | cons e es ih =>
      rw [emit, makeDataEventLocked_eq (h e List.mem_cons_self)]
      by_cases hlt : p.eventSequence.toNat + 1 < 2 ^ 64
      · have hnat := counted_toNat hlt
        have hcounted := counted_counted (n := es.length) hlt
        rw [Nat.add_comm 1] at hcounted
        rw [if_pos hlt, Except.ok_bind]
        simp only
        rw [ih (p := p.counted 1) (fun e' he' => h e' (List.mem_cons_of_mem _ he')), hnat, hcounted,
          numbered_counted]
        simp only [List.length_cons, Nat.add_assoc, Nat.add_comm 1]
        split <;> rfl
      · rw [if_neg hlt, if_neg (by simp only [List.length_cons]; omega)]
        rfl

theorem emit_append (p : FaultProtocol) (stamp : Time) (es es' : List Emission) :
  p.emit stamp (es ++ es') = (do
    let (events, p) ← p.emit stamp es
    let (events', p) ← p.emit stamp es'
    .ok (events ++ events', p))
  := by
  induction es generalizing p with
  | nil =>
      rw [List.nil_append, emit, Except.ok_bind]
      simp only
      cases p.emit stamp es' <;> rfl
  | cons e es ih =>
      rw [List.cons_append, emit, emit]
      cases p.makeDataEventLocked e.eventType stamp e.fault e.counters e.detail with
      | error t => rfl
      | ok first =>
          simp only [Except.ok_bind, ih]
          cases first.2.emit stamp es with
          | error t => rfl
          | ok second =>
              simp only [Except.ok_bind]
              cases second.2.emit stamp es' <;> rfl

end FaultProtocol

end RobotestLab
