import RobotestLab.Faults.Invariant

/-!
# The fault proxy node

The callbacks of the node around the protocol. They run one at a time: each hands its message
or request to the protocol, publishes what the outcome asks for and answers services. The events
of a rejected sensor message are dropped, so their numbers would be missing from the published
ones; `published_events_gapless` states that no number is ever missing. Logging is left out.
-/

namespace RobotestLab

/-- The node: the frames it expects and the protocol. -/
structure FaultProxyNode where
  expectedScanFrame : String
  expectedOdomFrame : String
  expectedBaseFrame : String
  expectedImuFrame : String
  protocol : FaultProtocol

/-- A message on one of the topics of the node. -/
inductive Publication (F32 F64 : Type) where
  | scan (message : LaserScan F32)
  | odom (message : Odometry F64)
  | transform (message : TransformStamped F64)
  | imu (message : Imu F64)
  | event (message : FaultEvent)

/-- The answer to a service request. -/
inductive ServiceResponse where
  | preload (response : PreloadResponse)
  | arm (response : ArmResponse)
  | trigger (response : TriggerResponse)
  deriving DecidableEq, Repr

/-- What a callback publishes and, for a service, answers. -/
structure Effect (F32 F64 : Type) where
  publications : List (Publication F32 F64) := []
  response : Option ServiceResponse := none

/-- A callback with its argument. A service callback reads the clock once. -/
inductive Callback (F32 F64 : Type) where
  | onScan (message : LaserScan F32)
  | onOdom (message : Odometry F64)
  | onImu (message : Imu F64)
  | onPreloadSchedule (request : PreloadRequest) (now : Time)
  | onArmSchedule (request : ArmRequest) (now : Time)
  | onReset (now : Time)

/-! ### The constructor -/

/-- The characters for which `isspace` holds. -/
def isSpace (character : Char) : Bool :=
  character ∈ [' ', '\t', '\n', '\x0b', '\x0c', '\r']

def requireRelativeFrame (parameterName frame : String) : Except Throw Unit :=
  if frame.isEmpty || frame.toList.head? == some '/' || frame.toList.any isSpace then
    .error (.invalidArgument (parameterName ++ " must be a non-empty relative frame ID"))
  else .ok ()

namespace FaultProxyNode

/-- The node with the given frame parameters. -/
def new (expectedScanFrame : String := "lidar_link") (expectedOdomFrame : String := "odom")
    (expectedBaseFrame : String := "base_footprint") (expectedImuFrame : String := "imu_link") :
    Except Throw FaultProxyNode := do
  requireRelativeFrame "expected_scan_frame" expectedScanFrame
  requireRelativeFrame "expected_odom_frame" expectedOdomFrame
  requireRelativeFrame "expected_base_frame" expectedBaseFrame
  requireRelativeFrame "expected_imu_frame" expectedImuFrame
  .ok {
    expectedScanFrame := expectedScanFrame
    expectedOdomFrame := expectedOdomFrame
    expectedBaseFrame := expectedBaseFrame
    expectedImuFrame := expectedImuFrame
    protocol := FaultProtocol.new }

/-! ### Callbacks -/

variable {F32 F64 : Type} [Binary32 F32] [Binary64 F64] [Tf2 F64]

def publishEvents (events : List FaultEvent) : List (Publication F32 F64) :=
  events.map .event

def onScan (node : FaultProxyNode) (message : LaserScan F32) :
    Except Throw (Effect F32 F64 × FaultProxyNode) := do
  let (result, protocol) ← node.protocol.processScan message node.expectedScanFrame
  let node := { node with protocol := protocol }
  if !result.accepted then .ok ({}, node)
  else
    let published := if result.publish then result.message.toList.map .scan else []
    .ok ({ publications := published ++ publishEvents result.events }, node)

def onOdom (node : FaultProxyNode) (message : Odometry F64) :
    Except Throw (Effect F32 F64 × FaultProxyNode) := do
  let (result, protocol) ← node.protocol.processOdom message node.expectedOdomFrame
    node.expectedBaseFrame
  let node := { node with protocol := protocol }
  if !result.accepted then .ok ({}, node)
  else
    let published := if result.publish then
        result.message.toList.flatMap fun odom => [.odom odom, .transform (makeOdomTransform odom)]
      else []
    .ok ({ publications := published ++ publishEvents result.events }, node)

def onImu (node : FaultProxyNode) (message : Imu F64) :
    Except Throw (Effect F32 F64 × FaultProxyNode) := do
  let (result, protocol) ← node.protocol.processImu message node.expectedImuFrame
  let node := { node with protocol := protocol }
  if !result.accepted then .ok ({}, node)
  else
    let published := if result.publish then result.message.toList.map .imu else []
    .ok ({ publications := published ++ publishEvents result.events }, node)

def onPreloadSchedule (lib : Libraries) (node : FaultProxyNode) (request : PreloadRequest)
    (now : Time) : Except Throw (Effect F32 F64 × FaultProxyNode) := do
  let (result, protocol) ← node.protocol.preload lib request now
  let response : PreloadResponse := {
    accepted := result.accepted
    replayed := result.replayed
    state := result.state.wire
    scheduleHash := result.scheduleHash
    loadedCount := result.loadedCount
    generation := result.generation
    message := result.message }
  .ok ({ publications := [.event result.event], response := some (.preload response) },
    { node with protocol := protocol })

def onArmSchedule (node : FaultProxyNode) (request : ArmRequest) (now : Time) :
    Except Throw (Effect F32 F64 × FaultProxyNode) := do
  let (result, protocol) ← node.protocol.arm request now
  let response : ArmResponse := {
    accepted := result.accepted
    replayed := result.replayed
    state := result.state.wire
    scheduleHash := result.scheduleHash
    generation := result.generation
    goalUuid := result.goalUuid
    acceptedGoalStamp := result.acceptedGoalStamp
    armCommitStamp := result.armCommitStamp
    armMarginNs := result.armMarginNs
    message := result.message }
  .ok ({ publications := [.event result.event], response := some (.arm response) },
    { node with protocol := protocol })

def onReset (node : FaultProxyNode) (now : Time) :
    Except Throw (Effect F32 F64 × FaultProxyNode) := do
  let (result, protocol) ← node.protocol.reset now
  let response : TriggerResponse := { success := true, message := result.message }
  .ok ({ publications := [.event result.event], response := some (.trigger response) },
    { node with protocol := protocol })

/-- One callback of the node. An exception leaves `spin` and ends the process. -/
def step (lib : Libraries) (node : FaultProxyNode) :
    Callback F32 F64 → Except Throw (Effect F32 F64 × FaultProxyNode)
  | .onScan message => node.onScan message
  | .onOdom message => node.onOdom message
  | .onImu message => node.onImu message
  | .onPreloadSchedule request now => node.onPreloadSchedule lib request now
  | .onArmSchedule request now => node.onArmSchedule request now
  | .onReset now => node.onReset now

end FaultProxyNode

/-! ### Numbers of events -/

section Numbers

variable {F32 F64 : Type}

/-- The events the node publishes for an outcome. -/
def Outcome.published : Outcome F32 F64 → List FaultEvent
  | .preload o => [o.event]
  | .arm o => [o.event]
  | .reset o => [o.event]
  | .scan o => if o.accepted then o.events else []
  | .odom o => if o.accepted then o.events else []
  | .imu o => if o.accepted then o.events else []

/-- The events among the publications. -/
def eventOf : Publication F32 F64 → Option FaultEvent
  | .event message => some message
  | _ => none

/-- The events published in a run of callbacks. -/
def publishedEvents (tr : List (Callback F32 F64 × Effect F32 F64)) : List FaultEvent :=
  tr.flatMap fun e => e.2.publications.filterMap eventOf

/-- The events are numbered on from `n`. -/
def NumberedFrom (n : Nat) (events : List FaultEvent) : Prop :=
  events.map (fun event => event.eventSequence.toNat) = List.range' (n + 1) events.length

theorem NumberedFrom.append {n : Nat} {left right : List FaultEvent} (hleft : NumberedFrom n left)
    (hright : NumberedFrom (n + left.length) right) :
  NumberedFrom n (left ++ right)
  := by
  unfold NumberedFrom at *
  rw [List.map_append, hleft, hright, List.length_append, ← List.range'_append, Nat.one_mul,
    Nat.add_right_comm]

namespace FaultProtocol

theorem numberedFrom_numbered {p : FaultProtocol} {stamp : Time} {n : Nat} {es : List Emission}
    (h : n + es.length < 2 ^ 64) :
  NumberedFrom n (p.numbered stamp n es)
  := by
  induction es generalizing n with
  | nil => rfl
  | cons e es ih =>
      rw [List.length_cons] at h
      have hhead : NumberedFrom n [p.dataEvent stamp (UInt64.ofNat (n + 1)) e] := by
        have hlt : n + 1 < UInt64.size := lt_of_le_of_lt (by omega) h
        unfold NumberedFrom
        rw [List.map_singleton, dataEvent, UInt64.toNat_ofNat_of_lt' hlt]
        rfl
      rw [numbered, ← List.singleton_append]
      apply hhead.append
      apply ih
      rw [List.length_singleton]
      omega

theorem length_numbered (p : FaultProtocol) (stamp : Time) (n : Nat) (es : List Emission) :
  (p.numbered stamp n es).length = es.length
  := by
  induction es generalizing n with
  | nil => rfl
  | cons e es ih => rw [numbered, List.length_cons, List.length_cons, ih]

/-- The reasons of rejections that come after events have been numbered. -/
def lateRejections : List String :=
  ["multiple same-target faults are active", "fault affected-message counter exhausted",
    "validated scan counter exhausted", "validated odometry counter exhausted",
    "validated IMU counter exhausted"]

/-- What holds of a response to a sensor message. -/
theorem sense_events {M : Type} (p : FaultProtocol) (τ : Target) (stamp : Time)
    (refusal : Option String) (input : M) (output : Option M)
    (hroom : p.eventSequence.toNat + (p.sense τ stamp refusal input output).count < 2 ^ 64) :
  NumberedFrom p.eventSequence.toNat (p.sense τ stamp refusal input output).outcome.events ∧
    (p.sense τ stamp refusal input output).outcome.events.length
      = (p.sense τ stamp refusal input output).count ∧
    ((p.sense τ stamp refusal input output).outcome.accepted = false →
      (p.sense τ stamp refusal input output).count = 0 ∧
      (p.sense τ stamp refusal input output).next = p ∧
      (refusal = some (p.sense τ stamp refusal input output).outcome.reason ∨
        p.blocked τ stamp.ns = some (p.sense τ stamp refusal input output).outcome.reason))
  := by
  unfold sense at hroom ⊢
  cases refusal with
  | some reason => exact ⟨rfl, rfl, fun _ => ⟨rfl, rfl, Or.inl rfl⟩⟩
  | none =>
      simp only at hroom ⊢
      split_ifs at hroom ⊢
      · exact ⟨rfl, rfl, by rintro ⟨⟩⟩
      · cases hblocked : p.blocked τ stamp.ns with
        | some reason => exact ⟨rfl, rfl, fun _ => ⟨rfl, rfl, Or.inr rfl⟩⟩
        | none =>
            rw [hblocked] at hroom
            exact ⟨numberedFrom_numbered hroom, length_numbered .., by rintro ⟨⟩⟩

variable [Binary32 F32] [Binary64 F64] [Tf2 F64] {lib : Libraries} {p p' : FaultProtocol}
  {c : Call F32 F64} {o : Outcome F32 F64}

/-- A response does not count its events yet. -/
theorem respond_next_eventSequence (lib : Libraries) (p : FaultProtocol) (c : Call F32 F64) :
  (p.respond lib c).next.eventSequence = p.eventSequence
  := by
  have hsense : ∀ {M : Type} (τ : Target) (stamp : Time) (refusal : Option String) (input : M)
      (output : Option M),
      (p.sense τ stamp refusal input output).next.eventSequence = p.eventSequence := by
    intro M τ stamp refusal input output
    unfold sense
    split
    · rfl
    · split_ifs
      · rfl
      · split <;> rfl
  cases c with
  | preload request stamp =>
      change ((p.preloadVerdict lib request stamp).next p).eventSequence = _
      cases hverdict : p.preloadVerdict lib request stamp with
      | rejected message => rfl
      | replayed => rfl
      | committed next =>
          obtain ⟨_, _, _, _, _, _, _, _, _, rfl⟩ := preloadVerdict_eq_committed hverdict
          rfl
  | arm request stamp =>
      change ((p.armVerdict request stamp).next p).eventSequence = _
      cases hverdict : p.armVerdict request stamp with
      | rejected message => rfl
      | replayed => rfl
      | committed next =>
          obtain ⟨_, _, _, _, _, _, _, _, _, _, rfl⟩ := armVerdict_eq_committed hverdict
          rfl
  | reset stamp => rfl
  | scan input frame => apply hsense
  | odom input frame childFrame => apply hsense
  | imu input frame => apply hsense

/-- The events of an outcome are numbered on, and there are as many as it counts. -/
theorem respond_published (lib : Libraries) {p : FaultProtocol} {c : Call F32 F64}
    (hroom : p.eventSequence.toNat + (p.respond lib c).count < 2 ^ 64) :
  NumberedFrom p.eventSequence.toNat (p.respond lib c).outcome.published ∧
    (p.respond lib c).outcome.published.length = (p.respond lib c).count
  := by
  have hcontrol : ∀ event : FaultEvent,
      event.eventSequence = UInt64.ofNat (p.eventSequence.toNat + 1) →
        p.eventSequence.toNat + 1 < 2 ^ 64 → NumberedFrom p.eventSequence.toNat [event] := by
    intro event hevent hlt
    unfold NumberedFrom
    rw [List.map_singleton, hevent, UInt64.toNat_ofNat_of_lt' hlt]
    rfl
  have hsense : ∀ {M : Type} (τ : Target) (stamp : Time) (refusal : Option String) (input : M)
      (output : Option M), p.eventSequence.toNat + (p.sense τ stamp refusal input output).count
        < 2 ^ 64 →
      NumberedFrom p.eventSequence.toNat
        (if (p.sense τ stamp refusal input output).outcome.accepted
          then (p.sense τ stamp refusal input output).outcome.events else []) ∧
      (if (p.sense τ stamp refusal input output).outcome.accepted
        then (p.sense τ stamp refusal input output).outcome.events else []).length
          = (p.sense τ stamp refusal input output).count := by
    intro M τ stamp refusal input output hlt
    obtain ⟨hnumbered, hlength, hrejected⟩ := p.sense_events τ stamp refusal input output hlt
    split_ifs with haccepted
    · exact ⟨hnumbered, hlength⟩
    · rw [(hrejected (eq_false_of_ne_true haccepted)).1]
      exact ⟨rfl, rfl⟩
  cases c with
  | preload request stamp => exact ⟨hcontrol _ rfl hroom, rfl⟩
  | arm request stamp => exact ⟨hcontrol _ rfl hroom, rfl⟩
  | reset stamp => exact ⟨hcontrol _ rfl hroom, rfl⟩
  | scan input frame => apply hsense _ _ _ _ _ hroom
  | odom input frame childFrame => apply hsense _ _ _ _ _ hroom
  | imu input frame => apply hsense _ _ _ _ _ hroom

/-- The published events of an answered call are numbered on, and all numbers are published. -/
theorem published_of_step (hp : p.Inv) (h : p.step lib c = .ok (o, p')) :
  NumberedFrom p.eventSequence.toNat o.published ∧
    p'.eventSequence.toNat = p.eventSequence.toNat + o.published.length
  := by
  obtain ⟨hroom, rfl, rfl⟩ := (step_eq_ok hp).mp h
  obtain ⟨hnumbered, hlength⟩ := respond_published lib hroom
  refine ⟨hnumbered, ?_⟩
  rw [hlength]
  rw [← respond_next_eventSequence lib p c] at hroom ⊢
  apply counted_toNat hroom

/-- A rejected sensor message leaves no trace, and is not rejected late. -/
structure Rejection {M : Type} (p : FaultProtocol) (o : FaultProcessOutcome M)
    (p' : FaultProtocol) : Prop where
  unchanged : p' = p
  events : o.events = []
  reason : o.reason ∉ lateRejections

/-- A message that is not let in is rejected early. -/
theorem blocked_not_late {τ : Target} {t : Int} {reason : String}
    (h : p.blocked τ t = some reason) :
  reason ∉ lateRejections
  := by
  unfold blocked at h
  simp only at h
  split_ifs at h <;> rw [← Option.some.inj h] <;> decide

theorem rejection_of_sense {M : Type} {τ : Target} {stamp : Time} {refusal : Option String}
    {input : M} {output : Option M} {o : FaultProcessOutcome M}
    (hrefusal : ∀ reason, refusal = some reason → reason ∉ lateRejections)
    (h : p.give (p.sense τ stamp refusal input output) = .ok (o, p'))
    (hrejected : o.accepted = false) :
  p.Rejection o p'
  := by
  obtain ⟨hroom, rfl, rfl⟩ := answered_eq_ok.mp h
  obtain ⟨-, hlength, hnone⟩ := p.sense_events τ stamp refusal input output hroom
  obtain ⟨hcount, hnext, hreason⟩ := hnone hrejected
  constructor
  · rw [hcount, hnext, counted_zero]
  · rw [hcount] at hlength
    apply List.eq_nil_of_length_eq_zero hlength
  · rcases hreason with hreason | hreason
    · apply hrefusal _ hreason
    · apply blocked_not_late hreason

theorem rejection_of_processScan (hp : p.Inv) {input : LaserScan F32} {frame : String}
    {o : FaultProcessOutcome (LaserScan F32)} (h : p.processScan input frame = .ok (o, p'))
    (hrejected : o.accepted = false) :
  p.Rejection o p'
  := by
  rw [processScan_eq hp] at h
  apply rejection_of_sense _ h hrejected
  intro reason hreason
  unfold validateAndCopyScan at hreason
  split_ifs at hreason <;> first | cases hreason; decide | cases hreason

theorem rejection_of_processOdom (hp : p.Inv) {input : Odometry F64} {frame childFrame : String}
    {o : FaultProcessOutcome (Odometry F64)}
    (h : p.processOdom input frame childFrame = .ok (o, p')) (hrejected : o.accepted = false) :
  p.Rejection o p'
  := by
  rw [processOdom_eq hp] at h
  apply rejection_of_sense _ h hrejected
  intro reason hreason
  unfold validateAndCopyOdom at hreason
  split_ifs at hreason <;> first | cases hreason; decide | cases hreason

omit [Tf2 F64] in
theorem rejection_of_processImu (hp : p.Inv) {input : Imu F64} {frame : String}
    {o : FaultProcessOutcome (Imu F64)} (h : p.processImu input frame = .ok (o, p'))
    (hrejected : o.accepted = false) :
  p.Rejection o p'
  := by
  rw [processImu_eq hp] at h
  apply rejection_of_sense _ h hrejected
  intro reason hreason
  unfold validateAndCopyImu at hreason
  simp only at hreason
  split_ifs at hreason <;> first | cases hreason; decide | cases hreason

end FaultProtocol

end Numbers

/-! ### Runs of the node -/

namespace FaultProxyNode

variable {F32 F64 : Type}

/-- The call of the protocol that a callback makes. -/
def call (node : FaultProxyNode) : Callback F32 F64 → Call F32 F64
  | .onScan message => .scan message node.expectedScanFrame
  | .onOdom message => .odom message node.expectedOdomFrame node.expectedBaseFrame
  | .onImu message => .imu message node.expectedImuFrame
  | .onPreloadSchedule request now => .preload request now
  | .onArmSchedule request now => .arm request now
  | .onReset now => .reset now

theorem filterMap_publishEvents (events : List FaultEvent) :
  (publishEvents events : List (Publication F32 F64)).filterMap eventOf = events
  := by
  rw [publishEvents, List.filterMap_map]
  apply List.filterMap_some

variable [Binary32 F32] [Binary64 F64] [Tf2 F64] {lib : Libraries} {node node' : FaultProxyNode}
  {callback : Callback F32 F64} {effect : Effect F32 F64}

/-- A callback publishes the events of the outcome of its call. -/
theorem step_ok (h : node.step lib callback = .ok (effect, node')) :
  ∃ o, node.protocol.step lib (node.call callback) = .ok (o, node'.protocol) ∧
    effect.publications.filterMap eventOf = o.published
  := by
  -- the outcome of a sensor message is published when it is accepted
  have hsensor : ∀ {M : Type} {r : FaultProcessOutcome M × FaultProtocol}
      {published : List (Publication F32 F64)},
      published.filterMap eventOf = [] →
      (if (!r.1.accepted) = true then
          .ok ({}, { node with protocol := r.2 })
        else .ok ({ publications := published ++ publishEvents r.1.events },
          { node with protocol := r.2 })) = (.ok (effect, node') : Except Throw _) →
      node'.protocol = r.2 ∧
        effect.publications.filterMap eventOf = if r.1.accepted then r.1.events else [] := by
    intro M r published hnone heffect
    cases haccepted : r.1.accepted with
    | false =>
        rw [haccepted] at heffect
        obtain ⟨rfl, rfl⟩ := Prod.mk.inj (Except.ok.inj heffect)
        exact ⟨rfl, rfl⟩
    | true =>
        rw [haccepted] at heffect
        obtain ⟨rfl, rfl⟩ := Prod.mk.inj (Except.ok.inj heffect)
        refine ⟨rfl, ?_⟩
        rw [List.filterMap_append, hnone, filterMap_publishEvents]
        rfl
  cases callback with
  | onScan message =>
      obtain ⟨r, hprocess, heffect⟩ := Except.bind_eq_ok_iff.mp h
      have hnone : (if r.1.publish then r.1.message.toList.map Publication.scan
          else ([] : List (Publication F32 F64))).filterMap eventOf = [] := by
        split_ifs <;> simp [eventOf]
      obtain ⟨hprotocol, hpublished⟩ := hsensor hnone heffect
      refine ⟨.scan r.1, ?_, hpublished⟩
      rw [call, FaultProtocol.step, hprocess, hprotocol]
      rfl
  | onOdom message =>
      obtain ⟨r, hprocess, heffect⟩ := Except.bind_eq_ok_iff.mp h
      have hnone : (if r.1.publish then r.1.message.toList.flatMap fun odom =>
            [Publication.odom odom, .transform (makeOdomTransform odom)]
          else ([] : List (Publication F32 F64))).filterMap eventOf = [] := by
        cases r.1.message <;> split_ifs <;> rfl
      obtain ⟨hprotocol, hpublished⟩ := hsensor hnone heffect
      refine ⟨.odom r.1, ?_, hpublished⟩
      rw [call, FaultProtocol.step, hprocess, hprotocol]
      rfl
  | onImu message =>
      obtain ⟨r, hprocess, heffect⟩ := Except.bind_eq_ok_iff.mp h
      have hnone : (if r.1.publish then r.1.message.toList.map Publication.imu
          else ([] : List (Publication F32 F64))).filterMap eventOf = [] := by
        split_ifs <;> simp [eventOf]
      obtain ⟨hprotocol, hpublished⟩ := hsensor hnone heffect
      refine ⟨.imu r.1, ?_, hpublished⟩
      rw [call, FaultProtocol.step, hprocess, hprotocol]
      rfl
  | onPreloadSchedule request now =>
      obtain ⟨r, hcontrol, heffect⟩ := Except.bind_eq_ok_iff.mp h
      obtain ⟨rfl, rfl⟩ := Prod.mk.inj (Except.ok.inj heffect)
      refine ⟨.preload r.1, ?_, rfl⟩
      rw [call, FaultProtocol.step, hcontrol]
      rfl
  | onArmSchedule request now =>
      obtain ⟨r, hcontrol, heffect⟩ := Except.bind_eq_ok_iff.mp h
      obtain ⟨rfl, rfl⟩ := Prod.mk.inj (Except.ok.inj heffect)
      refine ⟨.arm r.1, ?_, rfl⟩
      rw [call, FaultProtocol.step, hcontrol]
      rfl
  | onReset now =>
      obtain ⟨r, hcontrol, heffect⟩ := Except.bind_eq_ok_iff.mp h
      obtain ⟨rfl, rfl⟩ := Prod.mk.inj (Except.ok.inj heffect)
      refine ⟨.reset r.1, ?_, rfl⟩
      rw [call, FaultProtocol.step, hcontrol]
      rfl

/-- A callback throws only what its call throws. -/
theorem step_error {exception : Throw} (h : node.step lib callback = .error exception) :
  node.protocol.step lib (node.call callback) = .error exception
  := by
  have hthrow : ∀ {A B C : Type} {x : Except Throw A} {f : A → Except Throw B}
      {g : A → Except Throw C}, (∀ a e, f a ≠ .error e) → x >>= f = .error exception →
        x >>= g = .error exception := by
    intro A B C x f g hf hx
    cases x with
    | error e => exact congrArg Except.error (Except.error.inj hx)
    | ok a => exact absurd hx (hf a _)
  cases callback with
  | onScan message =>
      apply hthrow _ h
      rintro ⟨result, protocol⟩ e
      simp only
      split_ifs <;> rintro ⟨⟩
  | onOdom message =>
      apply hthrow _ h
      rintro ⟨result, protocol⟩ e
      simp only
      split_ifs <;> rintro ⟨⟩
  | onImu message =>
      apply hthrow _ h
      rintro ⟨result, protocol⟩ e
      simp only
      split_ifs <;> rintro ⟨⟩
  | onPreloadSchedule request now => exact hthrow (fun _ _ => by rintro ⟨⟩) h
  | onArmSchedule request now => exact hthrow (fun _ _ => by rintro ⟨⟩) h
  | onReset now => exact hthrow (fun _ _ => by rintro ⟨⟩) h

/-- What a new node and all its callbacks maintain. -/
structure Gapless (tr : List (Callback F32 F64 × Effect F32 F64)) (node : FaultProxyNode) :
    Prop where
  inv : node.protocol.Inv
  numbered : NumberedFrom 0 (publishedEvents tr)
  count : node.protocol.eventSequence.toNat = (publishedEvents tr).length

omit [Binary32 F32] [Binary64 F64] [Tf2 F64] in
theorem Gapless.new {scanFrame odomFrame baseFrame imuFrame : String}
    (h : FaultProxyNode.new scanFrame odomFrame baseFrame imuFrame = .ok node) :
  Gapless ([] : List (Callback F32 F64 × Effect F32 F64)) node
  := by
  have hprotocol : node.protocol = FaultProtocol.new := by
    simp only [FaultProxyNode.new, Except.bind_eq_ok_iff] at h
    obtain ⟨-, -, -, -, -, -, -, -, h⟩ := h
    rw [← Except.ok.inj h]
  constructor
  · rw [hprotocol]
    apply FaultProtocol.Inv.new
  · rfl
  · rw [hprotocol]
    rfl

theorem Gapless.step {tr : List (Callback F32 F64 × Effect F32 F64)} (hnode : Gapless tr node)
    (h : node.step lib callback = .ok (effect, node')) :
  Gapless (tr ++ [(callback, effect)]) node'
  := by
  obtain ⟨o, hstep, hpublished⟩ := step_ok h
  obtain ⟨hnumbered, hcount⟩ := FaultProtocol.published_of_step hnode.inv hstep
  have happend : publishedEvents (tr ++ [(callback, effect)])
      = publishedEvents tr ++ o.published := by
    simp [publishedEvents, hpublished]
  constructor
  · apply hnode.inv.step hstep
  · rw [happend]
    apply hnode.numbered.append
    rw [Nat.zero_add, ← hnode.count]
    exact hnumbered
  · rw [happend, hcount, hnode.count, List.length_append]

theorem Gapless.run {tr : List (Callback F32 F64 × Effect F32 F64)}
    (hnode : Gapless ([] : List (Callback F32 F64 × Effect F32 F64)) node)
    (h : Run (FaultProxyNode.step lib) node tr node') :
  Gapless tr node'
  := by
  have hhistory := h.history (fun _ => True) Gapless
    (fun _ _ _ _ _ hs _ hstep => hs.step hstep) [] hnode (fun _ _ => trivial)
  exact hhistory

/-- The published events of every run of a new node are numbered from one on without a gap. A
sensor message that is rejected has used up no number and is never rejected after its faults
were looked at, and a callback throws only when the numbers are used up. -/
theorem published_events_gapless {scanFrame odomFrame baseFrame imuFrame : String}
    (hnew : FaultProxyNode.new scanFrame odomFrame baseFrame imuFrame = .ok node)
    {tr : List (Callback F32 F64 × Effect F32 F64)}
    (hrun : Run (FaultProxyNode.step lib) node tr node') :
  ((publishedEvents tr).map (fun event => event.eventSequence.toNat)
    = List.range' 1 (publishedEvents tr).length) ∧
  (∀ (input : LaserScan F32) frame o p', node'.protocol.processScan input frame = .ok (o, p') →
    o.accepted = false → node'.protocol.Rejection o p') ∧
  (∀ (input : Odometry F64) frame childFrame o p',
    node'.protocol.processOdom input frame childFrame = .ok (o, p') →
      o.accepted = false → node'.protocol.Rejection o p') ∧
  (∀ (input : Imu F64) frame o p', node'.protocol.processImu input frame = .ok (o, p') →
    o.accepted = false → node'.protocol.Rejection o p') ∧
  (∀ (callback : Callback F32 F64) exception, node'.step lib callback = .error exception →
    exception = .overflowError "fault event sequence exhausted")
  := by
  have hnode := (Gapless.new hnew).run hrun
  refine ⟨hnode.numbered, ?_, ?_, ?_, ?_⟩
  · intro input frame o p' h hrejected
    apply FaultProtocol.rejection_of_processScan hnode.inv h hrejected
  · intro input frame childFrame o p' h hrejected
    apply FaultProtocol.rejection_of_processOdom hnode.inv h hrejected
  · intro input frame o p' h hrejected
    apply FaultProtocol.rejection_of_processImu hnode.inv h hrejected
  · intro callback exception h
    exact ((FaultProtocol.step_eq_error hnode.inv).mp (step_error h)).2

end FaultProxyNode

/-! ### The sample -/

namespace Sample

/-- The node with its default frames. -/
def node : FaultProxyNode where
  expectedScanFrame := "lidar_link"
  expectedOdomFrame := "odom"
  expectedBaseFrame := "base_footprint"
  expectedImuFrame := "imu_link"
  protocol := FaultProtocol.new

/-- The sample schedule is preloaded and armed, and a scan inside its dropout comes in. -/
def callbacks : List (Callback ℚ ℚ) :=
  [.onPreloadSchedule preloadRequest { sec := 99 }, .onArmSchedule armRequest { sec := 101 },
    .onScan { scan 110 with header := { stamp := { sec := 110 }, frameId := "lidar_link" } },
    .onReset { sec := 120 }]

end Sample

namespace FaultProxyNode

/-- The sample node numbers its events without a gap. -/
theorem published_events_gapless_sample :
  ∃ node', ∃ tr : List (Callback ℚ ℚ × Effect ℚ ℚ), FaultProxyNode.new = .ok Sample.node ∧
    Run (FaultProxyNode.step Sample.libraries) Sample.node tr node' ∧
    tr.map Prod.fst = Sample.callbacks ∧
    (publishedEvents tr).map (fun event => event.eventSequence.toNat)
      = List.range' 1 (publishedEvents tr).length
  := by
  have hnew : FaultProxyNode.new = .ok Sample.node := rfl
  have hok : (Run.exec (FaultProxyNode.step Sample.libraries) Sample.node
      Sample.callbacks).isOk = true := by decide +kernel
  obtain ⟨tr, hrun, hcalls⟩ := Run.exists_of_exec hok
  exact ⟨_, tr, hnew, hrun, hcalls, (published_events_gapless hnew hrun).1⟩

end FaultProxyNode

end RobotestLab
