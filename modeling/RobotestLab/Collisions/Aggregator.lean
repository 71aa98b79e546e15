import RobotestLab.Collisions.Grouping

/-!
# The contact aggregator

`ContactAggregatorPolicy` observes the contacts of every physics step and emits one message at each
boundary of a grid of 20 ms. A step is validated and grouped by pair before it touches the interval.
The first observed boundary starts the first interval. Any error is kept, and answers every later
observation until the policy is reset.
-/

namespace RobotestLab

namespace Collisions

open Gz

/-! ### Bounds -/

def kContactAggregatePeriodNs : Int := 20000000
def kContactAggregateSourceCount : Nat := 7

def kMaxAggregateRecords : Nat := 16
def kMaxRecordsPerPair : Nat := 4
def kMaxContactPointsPerRecord : Nat := 64
def kMaxCollisionNameBytes : Nat := 4096
def kMaxBodyNameBytes : Nat := 4096
def kMaxFrameIdBytes : Nat := 256
def kMaxPairStringBytes : Nat := 8192
def kMaxAggregateStringBytes : Nat := 65536

/-- The greatest `std::int64_t`. -/
def kMaxInt64 : Int := 9223372036854775807

/-! ### Errors -/

/-- The reasons the aggregator stops for. -/
inductive AggregateError where
  | emptyName
  | longName
  | longPair
  | arrays
  | position
  | detail
  | wrenchHeader
  | wrench
  | sourceCount
  | nullSource
  | stepRecords
  | stepPairRecords
  | stepPairStrings
  | groupRecords
  | unionRecords
  | unionStrings
  | negativeStamp
  | stampNotAdvancing
  | boundaryOverflow
  | skippedBoundary
  | emptyInterval
  deriving DecidableEq, Repr

/-- The detail that is reported. -/
def AggregateError.text : AggregateError → String
  | .emptyName => "contact aggregate collision names must be nonempty"
  | .longName => "contact aggregate collision name exceeds the 4096-byte bound"
  | .longPair => "contact aggregate pair exceeds the 8192-byte string bound"
  | .arrays => "contact aggregate arrays violate the bounded Gazebo alignment contract"
  | .position => "contact aggregate position contains a non-finite value"
  | .detail => "contact aggregate detail contains a non-finite value or negative depth"
  | .wrenchHeader => "contact aggregate wrench header violates the frame_id-only data grammar"
  | .wrench =>
      "contact aggregate wrench violates its stamp, frame, body-name, or finite-value bound"
  | .sourceCount => "contact aggregate source set must contain one to seven messages"
  | .nullSource => "contact aggregate source message pointer must be nonnull"
  | .stepRecords => "one contact aggregate physics step exceeds the 16-record bound"
  | .stepPairRecords => "one contact aggregate physics-step pair exceeds the four-record bound"
  | .stepPairStrings => "one contact aggregate physics-step pair exceeds the string bound"
  | .groupRecords => "contact aggregate pair group violates the one-to-four-record bound"
  | .unionRecords => "contact aggregate interval union exceeds the 16-record bound"
  | .unionStrings => "contact aggregate interval union exceeds the 65536-byte string bound"
  | .negativeStamp => "contact aggregate simulation stamp must be nonnegative"
  | .stampNotAdvancing => "contact aggregate simulation stamp did not advance strictly"
  | .boundaryOverflow => "contact aggregate boundary arithmetic overflowed"
  | .skippedBoundary => "contact aggregate physics observations skipped a 20 ms grid boundary"
  | .emptyInterval => "contact aggregate interval became empty after the sensed stream started"

/-! ### Validation of a contact -/

variable {F64 : Type}

namespace Gz

def validStamp (stamp : Time) : Bool :=
  0 ≤ stamp.sec && 0 ≤ stamp.nsec && stamp.nsec < 1000000000

section Tests

variable [Binary64Tests F64]

open Binary64Tests

def finiteVector (value : Vector3d F64) : Bool :=
  isFinite value.x && isFinite value.y && isFinite value.z

def finiteWrench (value : Wrench F64) : Bool :=
  finiteVector value.force && finiteVector value.torque

end Tests

/-- The bytes of the texts of a header that are kept: those of the frame, and all of them. -/
structure RetainedWrenchHeaderStrings where
  frameIdBytes : Nat
  totalBytes : Nat
  deriving DecidableEq, Repr

/-- A header carries no data, or one datum that names one frame. -/
def retainedWrenchHeaderStrings (header : Header) : Option RetainedWrenchHeaderStrings :=
  match header.data with
  | [] => some ⟨0, 0⟩
  | [datum] =>
      match datum.value with
      | [value] =>
          if datum.key ≠ "frame_id" then none
          else some ⟨value.utf8ByteSize, datum.key.utf8ByteSize + value.utf8ByteSize⟩
      | _ => none
  | _ => none

/-- The entries of the arrays of details, which are as many of each kind. -/
def Contact.details (contact : Contact F64) : List (Vector3d F64 × F64 × JointWrench F64) :=
  contact.normal.zip (contact.depth.zip contact.wrench)

section Validation

variable [Binary64Tests F64]

open Binary64Tests

/-- Check one entry of the arrays of details, and charge its texts. -/
def validateDetail (bytes : Nat) (entry : Vector3d F64 × F64 × JointWrench F64) :
    Except AggregateError Nat :=
  let (normal, depth, wrench) := entry
  if !finiteVector normal || !isFinite depth || isNegative depth then .error .detail
  else
    match retainedWrenchHeaderStrings wrench.header with
    | none => .error .wrenchHeader
    | some strings =>
        if !validStamp wrench.header.stamp || strings.frameIdBytes > kMaxFrameIdBytes ||
            wrench.body1Name.utf8ByteSize > kMaxBodyNameBytes ||
            wrench.body2Name.utf8ByteSize > kMaxBodyNameBytes ||
            !finiteWrench wrench.body1Wrench || !finiteWrench wrench.body2Wrench then
          .error .wrench
        else
          chargeAll .longPair kMaxPairStringBytes bytes
            [strings.totalBytes, wrench.body1Name.utf8ByteSize, wrench.body2Name.utf8ByteSize]

/-- The bytes of the texts of a contact, when the contact is valid. -/
def validateContact (contact : Contact F64) : Except AggregateError Nat :=
  let first := contact.collision1.name
  let second := contact.collision2.name
  if first = "" || second = "" then .error .emptyName
  else if first.utf8ByteSize > kMaxCollisionNameBytes ||
      second.utf8ByteSize > kMaxCollisionNameBytes then
    .error .longName
  else do
    let bytes ← chargeAll .longPair kMaxPairStringBytes 0 [first.utf8ByteSize, second.utf8ByteSize]
    let positionCount := contact.position.length
    let detailCount := contact.normal.length
    if positionCount = 0 || positionCount > kMaxContactPointsPerRecord ||
        detailCount > positionCount || contact.depth.length ≠ detailCount ||
        contact.wrench.length ≠ detailCount then
      .error .arrays
    else if !contact.position.all finiteVector then .error .position
    else contact.details.foldlM validateDetail bytes

end Validation

/-! ### Projection of a contact -/

def copyVectorProjection (source : Vector3d F64) : Vector3d F64 :=
  { x := source.x, y := source.y, z := source.z }

def copyEntityProjection (source : Entity) : Entity :=
  { id := source.id, name := source.name, type := source.type }

def copyWrenchProjection (source : Wrench F64) : Wrench F64 :=
  { force := copyVectorProjection source.force, torque := copyVectorProjection source.torque }

def copyJointWrenchProjection (source : JointWrench F64) : JointWrench F64 where
  header := {
    stamp := { sec := source.header.stamp.sec, nsec := source.header.stamp.nsec }
    data :=
      match source.header.data with
      | [datum] => [{ key := "frame_id", value := [datum.value.headD ""] }]
      | _ => [] }
  body1Name := source.body1Name
  body1Id := source.body1Id
  body2Name := source.body2Name
  body2Id := source.body2Id
  body1Wrench := copyWrenchProjection source.body1Wrench
  body2Wrench := copyWrenchProjection source.body2Wrench

/-- What the middleware sees of a contact. -/
def rosProjectedContact (source : Contact F64) : Contact F64 where
  collision1 := copyEntityProjection source.collision1
  collision2 := copyEntityProjection source.collision2
  position := source.position.map copyVectorProjection
  normal := source.normal.map copyVectorProjection
  depth := source.depth
  wrench := source.wrench.map copyJointWrenchProjection

/-- A header that carries the stamp and no data. -/
def stampHeader (stampNs : Int) : Header where
  stamp := { sec := stampNs / 1000000000, nsec := stampNs % 1000000000 }
  data := []

end Gz

/-! ### The policy -/

abbrev ContactGroups (F64 : Type) := PairMap (RecordGroup (Contact F64))

/-- The bytes of a pair that is a key. -/
def pairKeyStringBytes (pair : ContactPair) : Nat :=
  pair.1.utf8ByteSize + pair.2.utf8ByteSize

structure ContactAggregateDecision (F64 : Type) where
  output : Option (Contacts F64) := none
  fatal : Bool := false
  detail : Option AggregateError := none
  deriving DecidableEq, Repr

structure ContactAggregatorPolicy (F64 : Type) where
  lastObservedStampNs : Option Int := none
  nextBoundaryStampNs : Option Int := none
  intervalGroups : ContactGroups F64 := ∅
  fatalDetail : Option AggregateError := none
  streamStarted : Bool := false

namespace ContactAggregatorPolicy

/-- Charge a group to the numbers of records and of bytes of a union. -/
def validateGroup (totals : Nat × Nat) (entry : ContactPair × RecordGroup (Contact F64)) :
    Except AggregateError (Nat × Nat) :=
  if entry.2.records.isEmpty || entry.2.records.length > kMaxRecordsPerPair then
    .error .groupRecords
  else do
    let recordCount ← charge .unionRecords kMaxAggregateRecords totals.1 entry.2.records.length
    let stringBytes ← charge .unionStrings kMaxAggregateStringBytes totals.2
      (pairKeyStringBytes entry.1)
    let stringBytes ← charge .unionStrings kMaxAggregateStringBytes stringBytes entry.2.stringBytes
    .ok (recordCount, stringBytes)

def validateCompleteGroups (groups : ContactGroups F64) : Except AggregateError Unit := do
  let _ ← groups.toList.foldlM validateGroup (0, 0)
  .ok ()

/-- Add the records of a source to those of the sources before it. -/
def countRecords (recordCount : Nat) (source : Option (Contacts F64)) :
    Except AggregateError Nat :=
  match source with
  | none => .error .nullSource
  | some contacts =>
      if contacts.contact.length > kMaxAggregateRecords - recordCount then .error .stepRecords
      else .ok (recordCount + contacts.contact.length)

/-- The contacts of the sources, one source after the other. -/
def sourceContacts (sources : List (Option (Contacts F64))) : List (Contact F64) :=
  sources.flatMap fun source => source.elim [] (·.contact)

/-- Validate a contact and add its projection to the group of its pair. -/
def groupContact [Binary64Tests F64] (groups : ContactGroups F64) (contact : Contact F64) :
    Except AggregateError (ContactGroups F64) := do
  let contactStringBytes ← validateContact contact
  admitRecord .stepPairRecords .stepPairStrings kMaxRecordsPerPair kMaxPairStringBytes groups
    contact.pair contactStringBytes (rosProjectedContact contact)

def validatedStepGroups [Binary64Tests F64] (sources : List (Option (Contacts F64))) :
    Except AggregateError (ContactGroups F64) :=
  if sources.length = 0 || sources.length > kContactAggregateSourceCount then .error .sourceCount
  else do
    let _ ← sources.foldlM countRecords 0
    let groups ← (sourceContacts sources).foldlM groupContact ∅
    validateCompleteGroups groups
    .ok groups

def aggregateAt (boundaryStampNs : Int) (groups : ContactGroups F64) : Contacts F64 where
  header := stampHeader boundaryStampNs
  contact := groups.toList.flatMap fun entry =>
    entry.2.records.map fun record => { record with header := stampHeader boundaryStampNs }

/-- Keep the error and report it. -/
def fail (policy : ContactAggregatorPolicy F64) (error : AggregateError) :
    ContactAggregateDecision F64 × ContactAggregatorPolicy F64 :=
  ({ fatal := true, detail := some error }, { policy with fatalDetail := some error })

/-- Assign the groups of a step to those of the interval. -/
def assignGroups (policy : ContactAggregatorPolicy F64) (stepGroups : ContactGroups F64) :
    ContactAggregatorPolicy F64 :=
  { policy with intervalGroups := SortedMap.assignAll policy.intervalGroups stepGroups.toList }

/-- The first observed boundary synchronizes the policy. -/
def synchronize (policy : ContactAggregatorPolicy F64) (stamp : Int) :
    ContactAggregateDecision F64 × ContactAggregatorPolicy F64 :=
  if stamp % kContactAggregatePeriodNs ≠ 0 then ({}, policy)
  else if stamp > kMaxInt64 - kContactAggregatePeriodNs then policy.fail .boundaryOverflow
  else ({}, { policy with nextBoundaryStampNs := some (stamp + kContactAggregatePeriodNs) })

/-- An observed boundary ends the interval. -/
def closeInterval (policy : ContactAggregatorPolicy F64) (boundary : Int) :
    ContactAggregateDecision F64 × ContactAggregatorPolicy F64 :=
  if boundary > kMaxInt64 - kContactAggregatePeriodNs then policy.fail .boundaryOverflow
  else if policy.intervalGroups.isEmpty then
    if policy.streamStarted then policy.fail .emptyInterval
    else
      ({}, { policy with
        intervalGroups := ∅
        nextBoundaryStampNs := some (boundary + kContactAggregatePeriodNs) })
  else
    ({ output := some (aggregateAt boundary policy.intervalGroups) },
      { policy with
        intervalGroups := ∅
        streamStarted := true
        nextBoundaryStampNs := some (boundary + kContactAggregatePeriodNs) })

/-- A step within an interval, whose boundary is still to come or is the stamp of the step. -/
def extendInterval (policy : ContactAggregatorPolicy F64) (stamp boundary : Int)
    (stepGroups : ContactGroups F64) :
    ContactAggregateDecision F64 × ContactAggregatorPolicy F64 :=
  if stamp > boundary then policy.fail .skippedBoundary
  else
    let policy := policy.assignGroups stepGroups
    match validateCompleteGroups policy.intervalGroups with
    | .error error => policy.fail error
    | .ok () =>
        if stamp < boundary then ({}, policy)
        else policy.closeInterval boundary

def observeSources [Binary64Tests F64] (policy : ContactAggregatorPolicy F64) (stamp : Int)
    (sources : List (Option (Contacts F64))) :
    ContactAggregateDecision F64 × ContactAggregatorPolicy F64 :=
  match policy.fatalDetail with
  | some error => ({ fatal := true, detail := some error }, policy)
  | none =>
      if stamp < 0 then policy.fail .negativeStamp
      else if policy.lastObservedStampNs.any (stamp ≤ ·) then policy.fail .stampNotAdvancing
      else
        match validatedStepGroups sources with
        | .error error => policy.fail error
        | .ok stepGroups =>
            let policy := { policy with lastObservedStampNs := some stamp }
            match policy.nextBoundaryStampNs with
            | none => policy.synchronize stamp
            | some boundary => policy.extendInterval stamp boundary stepGroups

/-- Forget everything that was observed. -/
def reset (_ : ContactAggregatorPolicy F64) : ContactAggregatorPolicy F64 where
  lastObservedStampNs := none
  nextBoundaryStampNs := none
  intervalGroups := ∅
  fatalDetail := none
  streamStarted := false

end ContactAggregatorPolicy

/-- The two forms of `observe`: one message, or a message for each of the seven sources. A source
may be a null pointer. -/
inductive Observation (F64 : Type) where
  | single (stamp : Int) (contacts : Contacts F64)
  | sources (stamp : Int) (contacts : Vector (Option (Contacts F64)) 7)

namespace Observation

def stamp : Observation F64 → Int
  | single stamp _ => stamp
  | sources stamp _ => stamp

def messages : Observation F64 → List (Option (Contacts F64))
  | single _ contacts => [some contacts]
  | sources _ contacts => contacts.toList

/-- The contacts of the physics step, in the order of the sources. -/
def contacts (o : Observation F64) : List (Contact F64) :=
  ContactAggregatorPolicy.sourceContacts o.messages

end Observation

namespace ContactAggregatorPolicy

variable [Binary64Tests F64]

def observe (policy : ContactAggregatorPolicy F64) (o : Observation F64) :
    ContactAggregateDecision F64 × ContactAggregatorPolicy F64 :=
  policy.observeSources o.stamp o.messages

/-- Observations are always answered. -/
def step (policy : ContactAggregatorPolicy F64) (o : Observation F64) :
    Except Empty (ContactAggregateDecision F64 × ContactAggregatorPolicy F64) :=
  .ok (policy.observe o)

end ContactAggregatorPolicy

end Collisions

end RobotestLab
