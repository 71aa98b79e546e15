import RobotestLab.Collisions.Grouping
import RobotestLab.Collisions.ScopedNames

/-!
# The contact stream gate

`ContactStreamPolicy` receives one private aggregate for each stamp. An aggregate is pending until
the next one is accepted, and is then finalized: pairs that were absent for too long leave the
active set, and the pairs of the batch enter it or replace their records. The first finalized batch
only synchronizes. After the others, the active set is published when it is the first one, when its
pairs changed, or when a heartbeat is due.
-/

namespace RobotestLab

namespace Collisions

namespace Ros

/-! ### Bounds -/

def kContactHeartbeatPeriodNs : Int := 200000000
def kPrivateContactAggregatePeriodNs : Int := 20000000
def kContactReleaseGapNs : Int := 250000000
def kMaxPublicSnapshotGapNs : Int := 220000000
def kMaxPendingBatchClockLagNs : Int := 220000000
def kMaxRawClockLagNs : Int := 220000000
def kMaxActiveContactPairs : Nat := 16
def kMaxRawContactRecords : Nat := 16
def kMaxActiveContactRecords : Nat := 16
def kMaxContactRecordsPerPair : Nat := 4
def kMaxContactPointsPerRecord : Nat := 64
def kMaxCollisionNameBytes : Nat := 4096
def kMaxBodyNameBytes : Nat := 4096
def kMaxFrameIdBytes : Nat := 256
def kMaxContactStringBytes : Nat := 8192
def kMaxMessageStringBytes : Nat := 65536
def kMaxActiveStringBytes : Nat := 65536

/-! ### Names of collisions -/

def kRobotCollisions : List String :=
  ["robotest::base_footprint::base_footprint_fixed_joint_lump__base_link_collision_collision",
    "robotest::front_caster_link::front_caster_link_fixed_joint_lump__front_caster_collision_collision",
    "robotest::imu_link::imu_link_collision_collision",
    "robotest::left_wheel_link::left_wheel_link_fixed_joint_lump__left_wheel_collision_collision",
    "robotest::lidar_link::lidar_link_collision_collision",
    "robotest::rear_caster_link::rear_caster_link_fixed_joint_lump__rear_caster_collision_collision",
    "robotest::right_wheel_link::right_wheel_link_fixed_joint_lump__right_wheel_collision_collision"]

def kGroundCollision : String := "ground_plane::ground_link::ground_collision"

def kSupportCollisions : List String :=
  ["robotest::front_caster_link::front_caster_link_fixed_joint_lump__front_caster_collision_collision",
    "robotest::left_wheel_link::left_wheel_link_fixed_joint_lump__left_wheel_collision_collision",
    "robotest::rear_caster_link::rear_caster_link_fixed_joint_lump__rear_caster_collision_collision",
    "robotest::right_wheel_link::right_wheel_link_fixed_joint_lump__right_wheel_collision_collision"]

def isKnownRobotCollision (name : String) : Bool :=
  kRobotCollisions.contains name

def isSupportPair (first second : String) : Bool :=
  let robot := if first = kGroundCollision then second else first
  let counterpart := if first = kGroundCollision then first else second
  counterpart = kGroundCollision && kSupportCollisions.contains robot

inductive PairDisposition where
  | routine
  | countable
  | unexpectedNonRobot
  | unknownRobot
  | malformed
  deriving DecidableEq, Repr

def classifyPair (first second : String) : PairDisposition :=
  if !isValidScopedName first || !isValidScopedName second then .malformed
  else
    let firstKnownRobot := isKnownRobotCollision first
    let secondKnownRobot := isKnownRobotCollision second
    if (isRobotModelName first && !firstKnownRobot) ||
        (isRobotModelName second && !secondKnownRobot) then
      .unknownRobot
    else if firstKnownRobot && secondKnownRobot then .routine
    else if isSupportPair first second then .routine
    else if !firstKnownRobot && !secondKnownRobot then .unexpectedNonRobot
    else .countable

/-! ### Errors -/

/-- The reasons the gate stops for. -/
inductive GateDetail where
  | invalidStamp
  | stampNotPositive
  | stampNotAdvancing
  | sequenceGap (previous incoming : Int)
  | frameId
  | emptyMessage
  | rawRecords
  | longName
  | contactStrings
  | arrays
  | position
  | point
  | wrench
  | wrenchStrings
  | pairKeys
  | pairRecords
  | pairStrings
  | nonRobotPair
  | unknownRobot
  | malformedName
  | lostStamp
  | publicGap (last completed : Int) (messageCount : Nat)
  | activePairs
  | activeRecords
  | activeStrings
  | snapshotRecords
  | negativeClock
  | clockRegressed
  | clockLostStamp (clock : Int)
  | pendingSemantic (clock pending : Int)
  | pendingOpen (clock pending : Int)
  | rawBehind (clock last : Int)
  deriving DecidableEq, Repr

/-- The end of a report on a pending batch. -/
def pendingDiagnostic (clock pending : Int) : String :=
  ": clock_stamp_ns=" ++ toString clock ++ ", pending_stamp_ns=" ++ toString pending ++
    ", gap_ns=" ++ toString (clock - pending) ++ ", limit_ns=" ++
      toString kMaxPendingBatchClockLagNs

/-- The detail that is reported. -/
def GateDetail.text : GateDetail → String
  | .invalidStamp => "raw contact message has an invalid simulation stamp"
  | .stampNotPositive => "private contact aggregate stamp must be positive"
  | .stampNotAdvancing => "private contact aggregate stamp did not advance strictly"
  | .sequenceGap previous incoming =>
      "private contact aggregate sequence gap exceeds 20 ms: previous_stamp_ns=" ++
        toString previous ++ ", incoming_stamp_ns=" ++ toString incoming ++ ", gap_ns=" ++
        toString (incoming - previous)
  | .frameId => "raw Gazebo contact frame_id must be empty"
  | .emptyMessage => "raw Gazebo contact message cannot be empty"
  | .rawRecords => "one raw contact message exceeds the 16-record bound"
  | .longName => "collision name exceeds the 4096-byte bound"
  | .contactStrings => "contact or raw-batch string budget exceeded"
  | .arrays => "contact arrays violate the bounded Gazebo alignment contract"
  | .position => "contact position contains a non-finite value"
  | .point => "contact point contains a non-finite value or negative depth"
  | .wrench => "joint wrench violates its stamp, frame, body-name, or finite-value bound"
  | .wrenchStrings => "nested joint-wrench strings exceed the bounded byte budget"
  | .pairKeys => "raw message strings plus normalized pair keys exceed the byte budget"
  | .pairRecords => "one raw contact pair exceeds the four-record duplicate bound"
  | .pairStrings => "one raw contact pair exceeds the contact string budget"
  | .nonRobotPair => "unexpected non-robot contact pair"
  | .unknownRobot => "contact references an unknown robotest collision"
  | .malformedName => "contact contains a malformed scoped collision name"
  | .lostStamp => "pending raw contact batch lost its valid simulation stamp"
  | .publicGap last completed messageCount =>
      "completed raw contact stream advanced more than 220 ms beyond the last public snapshot: " ++
        "last_public_stamp_ns=" ++ toString last ++ ", completed_stamp_ns=" ++ toString completed ++
        ", gap_ns=" ++ toString (completed - last) ++ ", completed_batch_message_count=" ++
        toString messageCount
  | .activePairs => "active contact state exceeds the 16-pair bound"
  | .activeRecords => "active contact state exceeds the 16-record bound"
  | .activeStrings => "active contact state exceeds the 65536-byte string budget"
  | .snapshotRecords => "public contact snapshot must contain between one and 16 records"
  | .negativeClock => "simulation clock stamp is negative"
  | .clockRegressed => "simulation clock stamp regressed"
  | .clockLostStamp clock =>
      "pending raw contact batch lost its valid simulation stamp: clock_stamp_ns=" ++ toString clock
  | .pendingSemantic clock pending =>
      "pending semantic contact failure did not reach a closing raw stamp" ++
        pendingDiagnostic clock pending
  | .pendingOpen clock pending =>
      "pending raw contact batch did not close within 220 ms of /clock" ++
        pendingDiagnostic clock pending
  | .rawBehind clock last =>
      "raw contact stream is more than 220 ms behind simulation clock: clock_stamp_ns=" ++
        toString clock ++ ", last_raw_stamp_ns=" ++ toString last ++ ", gap_ns=" ++
        toString (clock - last) ++ ", limit_ns=" ++ toString kMaxRawClockLagNs

def semanticDetail : PairDisposition → Option GateDetail
  | .unexpectedNonRobot => some .nonRobotPair
  | .unknownRobot => some .unknownRobot
  | .malformed => some .malformedName
  | .routine => none
  | .countable => none

/-! ### Validation of a message -/

def validStamp (stamp : Time) : Bool :=
  0 ≤ stamp.sec && stamp.nanosec < 1000000000

def stampNs (header : Header) : Option Int :=
  if validStamp header.stamp then
    some (header.stamp.sec.toInt * 1000000000 + header.stamp.nanosec.toNat)
  else none

variable {F64 : Type}

section Validation

variable [Binary64Tests F64]

open Binary64Tests

def finiteVector (value : Vector3 F64) : Bool :=
  isFinite value.x && isFinite value.y && isFinite value.z

def finiteWrench (value : Wrench F64) : Bool :=
  finiteVector value.force && finiteVector value.torque

/-- The entries of the arrays of details, which are as many of each kind. -/
def Contact.details (contact : Contact F64) : List (Vector3 F64 × F64 × JointWrench F64) :=
  contact.normals.zip (contact.depths.zip contact.wrenches)

/-- The bytes of the texts of a contact, and those of the message it is in. -/
structure StringBytes where
  contact : Nat
  message : Nat
  deriving DecidableEq, Repr

/-- Charge a size to the contact and to the message. -/
def chargeString (error : GateDetail) (bytes : StringBytes) (size : Nat) :
    Except GateDetail StringBytes := do
  let contact ← charge error kMaxContactStringBytes bytes.contact size
  let message ← charge error kMaxMessageStringBytes bytes.message size
  .ok { contact, message }

/-- Check one entry of the arrays of details, and charge its texts. -/
def validateDetail (bytes : StringBytes) (entry : Vector3 F64 × F64 × JointWrench F64) :
    Except GateDetail StringBytes :=
  let (normal, depth, wrench) := entry
  if !finiteVector normal || !isFinite depth || isNegative depth then .error .point
  else if !validStamp wrench.header.stamp ||
      wrench.header.frameId.utf8ByteSize > kMaxFrameIdBytes ||
      wrench.body1Name.utf8ByteSize > kMaxBodyNameBytes ||
      wrench.body2Name.utf8ByteSize > kMaxBodyNameBytes ||
      !finiteWrench wrench.body1Wrench || !finiteWrench wrench.body2Wrench then
    .error .wrench
  else
    [wrench.header.frameId.utf8ByteSize, wrench.body1Name.utf8ByteSize,
      wrench.body2Name.utf8ByteSize].foldlM (chargeString .wrenchStrings) bytes

def validateContact (messageBytes : Nat) (contact : Contact F64) :
    Except GateDetail StringBytes :=
  let first := contact.collision1.name
  let second := contact.collision2.name
  if first.utf8ByteSize > kMaxCollisionNameBytes ||
      second.utf8ByteSize > kMaxCollisionNameBytes then
    .error .longName
  else do
    let bytes ← [first.utf8ByteSize, second.utf8ByteSize].foldlM (chargeString .contactStrings)
      { contact := 0, message := messageBytes }
    let positionCount := contact.positions.length
    let detailCount := contact.normals.length
    if positionCount = 0 || positionCount > kMaxContactPointsPerRecord ||
        detailCount > positionCount || contact.depths.length ≠ detailCount ||
        contact.wrenches.length ≠ detailCount then
      .error .arrays
    else if !contact.positions.all finiteVector then .error .position
    else contact.details.foldlM validateDetail bytes

end Validation

/-- The bytes of a pair that is a key. -/
def pairKeyStringBytes (pair : ContactPair) : Nat :=
  pair.1.utf8ByteSize + pair.2.utf8ByteSize

structure ValidatedMessage (F64 : Type) where
  pairs : PairMap (RecordGroup (Contact F64)) := ∅
  recordCount : Nat := 0
  stringBytes : Nat := 0
  semanticFatal : Bool := false
  fatalDetail : Option GateDetail := none

/-- Charge a pair to the message, when it is new. -/
def chargeKey (inserted : Bool) (messageBytes : Nat) (pair : ContactPair) : Except GateDetail Nat :=
  if inserted then charge .pairKeys kMaxMessageStringBytes messageBytes (pairKeyStringBytes pair)
  else .ok messageBytes

/-- Validate a contact of a message and add it to the group of its pair. -/
def validateRecord [Binary64Tests F64] (result : ValidatedMessage F64) (contact : Contact F64) :
    Except GateDetail (ValidatedMessage F64) := do
  let bytes ← validateContact result.stringBytes contact
  let inserted := result.pairs[contact.pair]?.isNone
  let stringBytes ← chargeKey inserted bytes.message contact.pair
  let pairs ← admitRecord .pairRecords .pairStrings kMaxContactRecordsPerPair kMaxContactStringBytes
    result.pairs contact.pair bytes.contact contact
  let detail := semanticDetail (classifyPair contact.collision1.name contact.collision2.name)
  .ok { result with
    pairs
    stringBytes
    semanticFatal := result.semanticFatal || detail.isSome
    fatalDetail := result.fatalDetail.or detail }

def validateMessage [Binary64Tests F64] (message : Contacts F64) :
    Except GateDetail (ValidatedMessage F64) :=
  if message.contacts.isEmpty then .error .emptyMessage
  else if message.contacts.length > kMaxRawContactRecords then .error .rawRecords
  else
    message.contacts.foldlM validateRecord
      { recordCount := message.contacts.length
        stringBytes := message.header.frameId.utf8ByteSize }

/-! ### The policy -/

inductive ContactForwardReason where
  | suppressed
  | initialSnapshot
  | pairSetTransition
  | steadyStateHeartbeat
  | fatalSemanticInput
  | fatalStructuralInput
  deriving DecidableEq, Repr

structure ContactGateDecision (F64 : Type) where
  output : Option (Contacts F64) := none
  fatal : Bool := false
  reason : ContactForwardReason := .suppressed
  activePairCount : Nat := 0
  activeRecordCount : Nat := 0
  detail : Option GateDetail := none
  deriving DecidableEq, Repr

/-- A structural failure. -/
def ContactGateDecision.structural (detail : GateDetail) : ContactGateDecision F64 :=
  { fatal := true, reason := .fatalStructuralInput, detail := some detail }

structure ActivePair (F64 : Type) extends RecordGroup (Contact F64) where
  lastSeenStampNs : Int := 0
  deriving DecidableEq, Repr

structure PendingBatch (F64 : Type) where
  header : Header := {}
  pairs : PairMap (RecordGroup (Contact F64)) := ∅
  messageCount : Nat := 0
  recordCount : Nat := 0
  stringBytes : Nat := 0
  semanticFatal : Bool := false
  fatalDetail : Option GateDetail := none

structure ContactStreamPolicy (F64 : Type) where
  activePairs : PairMap (ActivePair F64) := ∅
  pendingBatch : Option (PendingBatch F64) := none
  lastRawStampNs : Option Int := none
  lastForwardStampNs : Option Int := none
  lastClockStampNs : Option Int := none
  synchronized : Bool := false

/-- What the active set will be: the pairs that leave it, and its numbers of pairs, records and
bytes. -/
structure Projection where
  expired : List ContactPair := []
  pairCount : Nat
  recordCount : Nat := 0
  stringBytes : Nat := 0
  pairSetChanged : Bool := false
  deriving DecidableEq, Repr

namespace ContactStreamPolicy

/-- The completed batch does not have the pair, and the pair was last seen too long before it. -/
def releaseProven (batch : PendingBatch F64) (completed : Int)
    (entry : ContactPair × ActivePair F64) : Bool :=
  batch.pairs[entry.1]?.isNone && completed - entry.2.lastSeenStampNs > kContactReleaseGapNs

/-- Account for an active pair: it leaves, or it is kept for now. -/
def projectActive (batch : PendingBatch F64) (completed : Int) (projection : Projection)
    (entry : ContactPair × ActivePair F64) : Projection :=
  if releaseProven batch completed entry then
    { projection with
      expired := projection.expired ++ [entry.1]
      pairCount := projection.pairCount - 1 }
  else
    { projection with
      recordCount := projection.recordCount + entry.2.records.length
      stringBytes := projection.stringBytes + (entry.2.stringBytes + pairKeyStringBytes entry.1) }

/-- Account for a pair of the batch: it replaces an active pair that is kept, or it is new. -/
def projectBatch (active : PairMap (ActivePair F64)) (projection : Projection)
    (entry : ContactPair × RecordGroup (Contact F64)) : Projection :=
  let projection :=
    match active[entry.1]? with
    | some old =>
        if projection.expired.contains entry.1 then
          { projection with pairCount := projection.pairCount + 1, pairSetChanged := true }
        else
          { projection with
            recordCount := projection.recordCount - old.records.length
            stringBytes := projection.stringBytes -
              (old.stringBytes + pairKeyStringBytes entry.1) }
    | none => { projection with pairCount := projection.pairCount + 1, pairSetChanged := true }
  { projection with
    recordCount := projection.recordCount + entry.2.records.length
    stringBytes := projection.stringBytes + (entry.2.stringBytes + pairKeyStringBytes entry.1) }

/-- The active set after a completed batch, in numbers. -/
def project (active : PairMap (ActivePair F64)) (batch : PendingBatch F64) (completed : Int) :
    Projection :=
  let projection := active.toList.foldl (projectActive batch completed) { pairCount := active.size }
  let projection := { projection with pairSetChanged := !projection.expired.isEmpty }
  batch.pairs.toList.foldl (projectBatch active) projection

/-- The active set after a completed batch. -/
def updateActive (active : PairMap (ActivePair F64)) (batch : PendingBatch F64) (completed : Int)
    (expired : List ContactPair) : PairMap (ActivePair F64) :=
  SortedMap.assignAll (expired.foldl (fun active pair => active.erase pair) active)
    (batch.pairs.toList.map fun entry =>
      (entry.1, { toRecordGroup := entry.2, lastSeenStampNs := completed }))

/-- All records of the active set. -/
def snapshot (policy : ContactStreamPolicy F64) (completedHeader : Header) : Contacts F64 where
  header := completedHeader
  contacts := policy.activePairs.toList.flatMap fun entry => entry.2.records

/-- Whether the active set is published after a completed batch, and why. -/
def forward (policy : ContactStreamPolicy F64) (batch : PendingBatch F64) (completed : Int)
    (projection : Projection) : ContactGateDecision F64 :=
  let decision : ContactGateDecision F64 :=
    { activePairCount := policy.activePairs.size, activeRecordCount := projection.recordCount }
  if batch.semanticFatal then
    { decision with
      output := some (policy.snapshot batch.header)
      fatal := true
      reason := .fatalSemanticInput
      detail := batch.fatalDetail }
  else
    match policy.lastForwardStampNs with
    | none =>
        { decision with
          output := some (policy.snapshot batch.header)
          reason := .initialSnapshot }
    | some last =>
        if projection.pairSetChanged then
          { decision with
            output := some (policy.snapshot batch.header)
            reason := .pairSetTransition }
        else if completed - last ≥ kContactHeartbeatPeriodNs then
          { decision with
            output := some (policy.snapshot batch.header)
            reason := .steadyStateHeartbeat }
        else decision

/-- Publish a decision with an output, unless the output is empty or too large. -/
def publish (policy : ContactStreamPolicy F64) (completed : Int)
    (decision : ContactGateDecision F64) : ContactGateDecision F64 × ContactStreamPolicy F64 :=
  match decision.output with
  | none => (decision, policy)
  | some output =>
      if output.contacts.isEmpty || output.contacts.length > kMaxActiveContactRecords then
        ({ decision with
          output := none
          fatal := true
          reason := .fatalStructuralInput
          detail := some .snapshotRecords }, policy)
      else (decision, { policy with lastForwardStampNs := some completed })

/-- Finalize a batch after the one that synchronized. -/
def complete (policy : ContactStreamPolicy F64) (batch : PendingBatch F64) (completed : Int) :
    ContactGateDecision F64 × ContactStreamPolicy F64 :=
  match policy.lastForwardStampNs.filter (completed - · > kMaxPublicSnapshotGapNs) with
  | some last => (.structural (.publicGap last completed batch.messageCount), policy)
  | none =>
      let projection := project policy.activePairs batch completed
      if projection.pairCount > kMaxActiveContactPairs then (.structural .activePairs, policy)
      else if projection.recordCount > kMaxActiveContactRecords then
        (.structural .activeRecords, policy)
      else if projection.stringBytes > kMaxActiveStringBytes then
        (.structural .activeStrings, policy)
      else
        let policy := { policy with
          activePairs := updateActive policy.activePairs batch completed projection.expired }
        policy.publish completed (policy.forward batch completed projection)

def finalizePending (policy : ContactStreamPolicy F64) :
    ContactGateDecision F64 × ContactStreamPolicy F64 :=
  match policy.pendingBatch with
  | none => ({}, policy)
  | some batch =>
      let policy := { policy with pendingBatch := none }
      match stampNs batch.header with
      | none => (.structural .lostStamp, policy)
      | some completed =>
          if policy.synchronized then policy.complete batch completed
          else if batch.semanticFatal then
            ({ fatal := true, reason := .fatalSemanticInput, detail := batch.fatalDetail }, policy)
          else ({}, { policy with synchronized := true })

/-- The failure that a pending batch or a silent stream is for the clock. -/
def clockLag (policy : ContactStreamPolicy F64) (clock : Int) : Option GateDetail :=
  let pendingLag := policy.pendingBatch.bind fun batch =>
    match stampNs batch.header with
    | none => some (.clockLostStamp clock)
    | some pending =>
        if clock - pending > kMaxPendingBatchClockLagNs then
          if batch.semanticFatal then some (.pendingSemantic clock pending)
          else some (.pendingOpen clock pending)
        else none
  pendingLag.or (policy.lastRawStampNs.bind fun last =>
    if clock - last > kMaxRawClockLagNs then some (.rawBehind clock last) else none)

def observeClock (policy : ContactStreamPolicy F64) (clock : Int) :
    ContactGateDecision F64 × ContactStreamPolicy F64 :=
  if clock < 0 then (.structural .negativeClock, policy)
  else if policy.lastClockStampNs.any (clock < ·) then (.structural .clockRegressed, policy)
  else
    let policy := { policy with lastClockStampNs := some clock }
    match policy.clockLag clock with
    | some detail => (.structural detail, policy)
    | none => ({}, policy)

/-- The checks on the stamp and the frame of a message. -/
def checkHeader (policy : ContactStreamPolicy F64) (message : Contacts F64) :
    Except GateDetail Int :=
  match stampNs message.header with
  | none => .error .invalidStamp
  | some incoming =>
      if incoming ≤ 0 then .error .stampNotPositive
      else
        let checked : Except GateDetail Unit :=
          match policy.lastRawStampNs with
          | none => .ok ()
          | some last =>
              if incoming ≤ last then .error .stampNotAdvancing
              else if incoming - last > kPrivateContactAggregatePeriodNs then
                .error (.sequenceGap last incoming)
              else .ok ()
        checked >>= fun _ =>
          if message.header.frameId ≠ "" then .error .frameId else .ok incoming

/-- The batch of a message that passed. -/
def pendingOf (message : Contacts F64) (validated : ValidatedMessage F64) : PendingBatch F64 where
  header := message.header
  pairs := validated.pairs
  messageCount := 1
  recordCount := validated.recordCount
  stringBytes := validated.stringBytes
  semanticFatal := validated.semanticFatal
  fatalDetail := validated.fatalDetail

def observe [Binary64Tests F64] (policy : ContactStreamPolicy F64) (message : Contacts F64) :
    ContactGateDecision F64 × ContactStreamPolicy F64 :=
  match policy.checkHeader message with
  | .error detail => (.structural detail, policy)
  | .ok incoming =>
      match validateMessage message with
      | .error detail => (.structural detail, policy)
      | .ok validated =>
          let (decision, policy) := policy.finalizePending
          if decision.fatal then (decision, policy)
          else
            (decision, { policy with
              pendingBatch := some (pendingOf message validated)
              lastRawStampNs := some incoming })

end ContactStreamPolicy

/-- The calls of the gate. -/
inductive GateCall (F64 : Type) where
  | observe (message : Contacts F64)
  | clock (stamp : Int)

/-- Calls are always answered. -/
def ContactStreamPolicy.step [Binary64Tests F64] (policy : ContactStreamPolicy F64) :
    GateCall F64 → Except Empty (ContactGateDecision F64 × ContactStreamPolicy F64)
  | .observe message => .ok (policy.observe message)
  | .clock stamp => .ok (policy.observeClock stamp)

end Ros

end Collisions

end RobotestLab
