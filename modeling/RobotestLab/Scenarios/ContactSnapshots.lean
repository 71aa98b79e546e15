import Mathlib.Data.List.Sort
import Mathlib.Data.Prod.Lex
import RobotestLab.Library.Grouping
import RobotestLab.Scenarios.Coverage

/-!
# Contact snapshots

The contact control observes snapshots of the contacts of the robot. It classifies every pair,
retains a record of it and a summary of the snapshot, and keeps one episode tracker for each
counterpart, which is made when the counterpart is first seen and observes every snapshot from then
on. What it raises stops the callback where it is, and the first error that is raised stops the
callbacks after it.
-/

namespace RobotestLab

namespace Scenarios

def CONTACT_SUMMARY_CAPACITY : Nat := 8192
def CONTACT_RECORD_CAPACITY : Nat := 32768
def COMMAND_CAPACITY : Nat := 4096

/-- A pair of collisions in the order of their names. -/
abbrev CollisionPair := String × String

/-- `tuple(sorted((a, b)))`. -/
def normalizedPair (a b : String) : CollisionPair := if b < a then (b, a) else (a, b)

/-- `sorted` of a set of pairs. -/
def sortedPairs (pairs : List CollisionPair) : List CollisionPair :=
  pairs.insertionSort fun p q => toLex p ≤ toLex q

/-! ### Episodes -/

/-- A closed episode. -/
structure ContactEpisode where
  counterpartModel : String
  endStampNs : Int
  normalizedPairs : List CollisionPair
  snapshotRecordCount : Nat
  startStampNs : Int
deriving DecidableEq

/-- The tracker of one counterpart. The set of the active pairs is a list without duplicates. -/
structure ContactEpisodeTracker where
  counterpartModel : String
  activeStartNs : Option Int := none
  lastContactNs : Option Int := none
  lastSnapshotStampNs : Option Int := none
  activePairs : List CollisionPair := []
  activeSnapshotRecordCount : Nat := 0
  episodes : List ContactEpisode := []
deriving DecidableEq

namespace ContactEpisodeTracker

/-- Close the episode that started at the given stamp. -/
def close (tracker : ContactEpisodeTracker) (start endStampNs : Int) : ContactEpisodeTracker :=
  { tracker with
    episodes := tracker.episodes ++ [{
      counterpartModel := tracker.counterpartModel
      endStampNs := endStampNs
      normalizedPairs := sortedPairs tracker.activePairs
      snapshotRecordCount := tracker.activeSnapshotRecordCount
      startStampNs := start }]
    activeStartNs := none
    lastContactNs := none
    activePairs := []
    activeSnapshotRecordCount := 0 }

/-- Start an episode unless there is one. -/
def begin (tracker : ContactEpisodeTracker) (stampNs : Int) : ContactEpisodeTracker :=
  if tracker.activeStartNs.isNone then
    { tracker with
      activeStartNs := some stampNs, activePairs := [], activeSnapshotRecordCount := 0 }
  else tracker

/-- Apply a snapshot with the pairs of the counterpart. -/
def observeSnapshot (tracker : ContactEpisodeTracker) (stampNs : Int)
    (normalizedPairs : List CollisionPair) :
    Except Failure ContactEpisodeTracker :=
  if stampNs ≤ 0 then .error (.protocolError "contact snapshot stamp must be positive")
  else if tracker.lastSnapshotStampNs.any (stampNs ≤ ·) then
    .error (.protocolError "contact snapshot stamp did not strictly advance")
  else
    let tracker := { tracker with lastSnapshotStampNs := some stampNs }
    if normalizedPairs = [] then
      match tracker.activeStartNs with
      | some start => .ok (tracker.close start stampNs)
      | none => .ok tracker
    else
      let tracker := tracker.begin stampNs
      .ok { tracker with
        lastContactNs := some stampNs
        activePairs := tracker.activePairs.update normalizedPairs
        activeSnapshotRecordCount := tracker.activeSnapshotRecordCount + normalizedPairs.length }

end ContactEpisodeTracker

/-! ### What is retained -/

inductive Disposition where
  | counted
  | robotInternalExcluded
  | supportGroundExcluded
deriving DecidableEq, Repr

/-- A record of one contact of a snapshot. -/
structure SnapshotRecord where
  collectorSequence : Nat
  counterpartCollision : Option String
  counterpartModel : Option String
  disposition : Disposition
  normalizedPair : CollisionPair
  robotCollision : Option String
  simStampNs : Int
  snapshotSequence : Nat
deriving DecidableEq

/-- What a summary says about a counted record. -/
structure CountedRecord where
  counterpartModel : String
  normalizedPair : CollisionPair
  recordSequence : Nat
  snapshotSequence : Nat
deriving DecidableEq

/-- The summary of a snapshot. -/
structure SnapshotSummary where
  classifiedCount : Nat
  collectorSequence : Nat
  countedSnapshotRecords : List CountedRecord
  exactPairCount : Nat
  deliveryClockOffsetNs : Int
  deliveryClockStampNs : Int
  snapshotRecordCount : Nat
  simStampNs : Int
deriving DecidableEq

/-- The first contact that qualifies. The last two fields are set when the robot is stopped. -/
structure QualifyingContact where
  callbackClockOffsetNs : Int
  callbackClockStampNs : Int
  collectorSequence : Nat
  normalizedPair : CollisionPair
  simStampNs : Int
  stopLatencyClockStampNs : Option Int := none
  stopLatencyUpperBoundNs : Option Int := none
deriving DecidableEq

/-- A velocity command. -/
structure Command where
  angularZ : ℚ
  collectorSequence : Nat
  linearX : ℚ
  phase : String
  simStampNs : Int
deriving DecidableEq

/-! ### The node -/

/-- The manifest with the limits of the stream and the pair of the control. -/
structure ContactManifest extends CoverageManifest where
  contactSnapshotMaxGapNs : Int
  contactSnapshotMaxClockLagNs : Int
  expectedControlPair : CollisionPair

/-- What the other callbacks and the phases of the control change as well. -/
structure Surroundings where
  sequence : Nat := 0
  cleanupMode : Bool := false
  fatalError : Option Failure := none
  protocolErrorCount : Nat := 0
  clockSeen : Bool := false
  currentSimStampNs : Int := 0
  controlStartedStampNs : Option Int := none
  contactDeadlineNs : Option Int := none
  motionActive : Bool := false
  phase : String := "PREPARE"
  releaseRequiredThroughStampNs : Option Int := none
  firstQualifyingContact : Option QualifyingContact := none
  stopCommandStampNs : Option Int := none
  stopLatencyNs : Option Int := none
  stopLatencyClockStampNs : Option Int := none
  pendingStopContactStampNs : Option Int := none
  commands : PrefixBuffer Command := { name := "commands", capacity := COMMAND_CAPACITY }

/-- The node, as far as snapshots of contacts concern it. -/
structure ContactMonitor extends Surroundings where
  preClockContactMessageCount : Nat := 0
  futureSnapshotDeliveryCount : Nat := 0
  lastContactStampNs : Option Int := none
  contactFirstStampNs : Option Int := none
  contactMaxGapNs : Int := 0
  contactSnapshotCount : Nat := 0
  snapshotContactRecordCount : Nat := 0
  snapshotContactInvalidCount : Nat := 0
  snapshotContactAcceptedCount : Nat := 0
  snapshotContactOverflowCount : Nat := 0
  snapshotContactFirstOverflowSequence : Option Nat := none
  snapshotContactFirstOverflowStampNs : Option Int := none
  classifiedContactRecordCount : Nat := 0
  exactPairSnapshotRecordCount : Nat := 0
  qualifiedReleaseSnapshot : Option (Nat × Int) := none
  counterpartTrackers : Dict String ContactEpisodeTracker :=
    ({} : Dict String ContactEpisodeTracker).set WALL_NAME { counterpartModel := WALL_NAME }
  contactSnapshots : PrefixBuffer SnapshotSummary :=
    { name := "contact_snapshots", capacity := CONTACT_SUMMARY_CAPACITY }
  contactSnapshotRecords : PrefixBuffer SnapshotRecord :=
    { name := "contact_snapshot_records", capacity := CONTACT_RECORD_CAPACITY }

/-- `ros_gz_interfaces/Contacts`, with the names of the collisions of each contact. -/
structure ContactsMessage where
  header : Header
  contacts : List (String × String)

/-- What a step returns or raises, and the node after it. -/
abbrev Outcome (α : Type) := Except Failure α × ContactMonitor

namespace ContactMonitor

/-- Count a snapshot that is refused. -/
def rejectSnapshot (s : ContactMonitor) : ContactMonitor :=
  { s with contactSnapshots := s.contactSnapshots.rejectInvalid }

/-- Count a contact that is refused, and its snapshot. -/
def rejectContact (s : ContactMonitor) : ContactMonitor :=
  { s with
    snapshotContactInvalidCount := s.snapshotContactInvalidCount + 1
    contactSnapshotRecords := s.contactSnapshotRecords.rejectInvalid
    contactSnapshots := s.contactSnapshots.rejectInvalid }

def nextSequence (s : ContactMonitor) : ContactMonitor := { s with sequence := s.sequence + 1 }

def setFatal (s : ContactMonitor) (error : Failure) : ContactMonitor :=
  if s.fatalError.isNone then
    { s with
      fatalError := some error
      protocolErrorCount := s.protocolErrorCount + if error.isProtocolError then 1 else 0 }
  else s

/-! ### The header of a snapshot -/

/-- The gap to the snapshot before is not too long. -/
def checkGap (manifest : ContactManifest) (stampNs : Int) (s : ContactMonitor) : Outcome Unit :=
  match s.contactFirstStampNs, s.lastContactStampNs with
  | none, _ => (.ok (), { s with contactFirstStampNs := some stampNs })
  | some _, none => (.ok (), s)
  | some _, some last =>
      let s := { s with contactMaxGapNs := max s.contactMaxGapNs (stampNs - last) }
      if manifest.contactSnapshotMaxGapNs < stampNs - last then
        (.error (.protocolError "authoritative contact snapshot gap exceeded 220 ms"),
          s.rejectSnapshot)
      else (.ok (), s)

/-- The stamp is after the one of the snapshot before. -/
def checkOrder (manifest : ContactManifest) (stampNs : Int) (s : ContactMonitor) : Outcome Unit :=
  if s.lastContactStampNs.any (stampNs ≤ ·) then
    (.error (.protocolError "authoritative contact snapshot stamp did not strictly advance"),
      s.rejectSnapshot)
  else s.checkGap manifest stampNs

/-- The stamp of a snapshot and its distance to the clock. -/
def checkHeader (manifest : ContactManifest) (message : ContactsMessage) (s : ContactMonitor) :
    Outcome (Int × Int) :=
  if message.header.frameId ≠ "" then
    (.error (.protocolError "authoritative contact snapshot frame_id must be empty"),
      s.rejectSnapshot)
  else if !(1 ≤ message.contacts.length && message.contacts.length ≤ 16) then
    (.error (.protocolError
      "authoritative contact snapshot must contain between one and 16 records"),
      s.rejectSnapshot)
  else
    match stampToNs message.header.stamp true with
    | .error e => (.error e, s)
    | .ok stampNs =>
        let offsetNs := s.currentSimStampNs - stampNs
        if s.controlStartedStampNs.isSome &&
            manifest.contactSnapshotMaxClockLagNs < offsetNs.natAbs then
          (.error (.protocolError "authoritative contact snapshot delivery skew exceeded 220 ms"),
            s.rejectSnapshot)
        else
          let s :=
            if offsetNs < 0 then
              { s with futureSnapshotDeliveryCount := s.futureSnapshotDeliveryCount + 1 }
            else s
          match s.checkOrder manifest stampNs with
          | (.error e, s) => (.error e, s)
          | (.ok (), s) => (.ok (stampNs, offsetNs), s)

/-- A snapshot whose header is accepted takes a number. -/
def openSnapshot (stampNs : Int) (s : ContactMonitor) : ContactMonitor :=
  { s with
    lastContactStampNs := some stampNs
    contactSnapshotCount := s.contactSnapshotCount + 1
    sequence := s.sequence + 1 }

/-! ### The contacts of a snapshot -/

/-- What is known of a snapshot after some of its contacts. -/
structure Progress where
  classifiedCount : Nat := 0
  exactCount : Nat := 0
  countedSnapshotRecords : List CountedRecord := []
  snapshotPairs : Dict String (List CollisionPair) := {}
  qualifyingCandidate : Option QualifyingContact := none

/-- The stamp of a snapshot and its number. -/
structure SnapshotKey where
  stampNs : Int
  summarySequence : Nat

def collisionName (value : String) : Except Failure String :=
  if value = "" || value.utf8ByteSize > 4096 then
    .error (.protocolError "contact collision name is empty or exceeds 4096 bytes")
  else .ok value

/-- The disposition of a pair with its classification, unless the pair is impossible. -/
def dispositionOf (manifest : ContactManifest) (contact : String × String)
    (classification : Option CoverageClassification) : Option Disposition :=
  if classification.isSome then some .counted
  else if contact.1 ∈ manifest.robotCollisions ∧ contact.2 ∈ manifest.robotCollisions then
    some .robotInternalExcluded
  else if {contact.1, contact.2} ∈ manifest.supportExclusions then some .supportGroundExcluded
  else none

section Contacts

variable (repr : String → String) (manifest : ContactManifest) (key : SnapshotKey)

def classifyContact (contact : String × String) (s : ContactMonitor) :
    Outcome (Option CoverageClassification × Disposition) :=
  let classified : Except Failure (Option CoverageClassification) := do
    let collisionA ← collisionName contact.1
    let collisionB ← collisionName contact.2
    manifest.classify repr collisionA collisionB
  match classified with
  | .error e => (.error e, if e.isProtocolError then s.rejectContact else s)
  | .ok classification =>
      match dispositionOf manifest contact classification with
      | some disposition => (.ok (classification, disposition), s)
      | none =>
          (.error (.protocolError
            "manifest-v3 public snapshot contains an impossible non-robot pair"),
            s.rejectContact)

/-- The record of a contact. -/
def recordOf (recordSequence : Nat) (contact : String × String)
    (classification : Option CoverageClassification) (disposition : Disposition) :
    SnapshotRecord where
  collectorSequence := recordSequence
  counterpartCollision := classification.map (·.counterpartCollision)
  counterpartModel := classification.map (·.counterpartModel)
  disposition := disposition
  normalizedPair := normalizedPair contact.1 contact.2
  robotCollision := classification.map (·.robotCollision)
  simStampNs := key.stampNs
  snapshotSequence := key.summarySequence

/-- Retain the record of a contact. -/
def retainRecord (record : SnapshotRecord) (s : ContactMonitor) : Outcome Unit :=
  match s.contactSnapshotRecords.add record record.collectorSequence key.stampNs with
  | (.error e, buffer) =>
      (.error e, { s with
        contactSnapshotRecords := buffer
        snapshotContactOverflowCount := buffer.overflowCount
        snapshotContactFirstOverflowSequence := buffer.firstOverflowSequence
        snapshotContactFirstOverflowStampNs := buffer.firstOverflowStampNs })
  | (.ok (), buffer) =>
      (.ok (), { s with
        contactSnapshotRecords := buffer
        snapshotContactAcceptedCount := s.snapshotContactAcceptedCount + 1 })

/-- Make the tracker of a counterpart that is seen for the first time. -/
def ensureTracker (counterpart : String) (s : ContactMonitor) : Outcome Unit :=
  match s.counterpartTrackers.get? counterpart with
  | some _ => (.ok (), s)
  | none =>
      if CONTACT_RECORD_CAPACITY ≤ s.counterpartTrackers.keys.length then
        (.error (.protocolError "contact counterpart tracker capacity overflowed"), s)
      else
        (.ok (), { s with
          counterpartTrackers :=
            s.counterpartTrackers.set counterpart { counterpartModel := counterpart } })

/-- A record of the pair of the control qualifies when the robot moves forward. -/
def qualify (record : SnapshotRecord) (progress : Progress) (s : ContactMonitor) :
    Outcome Progress :=
  let progress := { progress with exactCount := progress.exactCount + 1 }
  let s := { s with exactPairSnapshotRecordCount := s.exactPairSnapshotRecordCount + 1 }
  if s.firstQualifyingContact.isSome || progress.qualifyingCandidate.isSome then (.ok progress, s)
  else
    match s.controlStartedStampNs with
    | none => (.error (.protocolError "qualifying control contact preceded forward motion"), s)
    | some started =>
        if !s.motionActive then
          (.error (.protocolError "qualifying control contact preceded forward motion"), s)
        else if key.stampNs < started then
          (.error (.protocolError "qualifying contact stamp preceded forward command"), s)
        else
          (.ok { progress with
            qualifyingCandidate := some {
              callbackClockOffsetNs := s.currentSimStampNs - key.stampNs
              callbackClockStampNs := s.currentSimStampNs
              collectorSequence := record.collectorSequence
              normalizedPair := record.normalizedPair
              simStampNs := key.stampNs } }, s)

/-- Count a contact with a counterpart. -/
def countContact (record : SnapshotRecord) (counterpart : String) (progress : Progress)
    (s : ContactMonitor) : Outcome Progress :=
  let s := { s with classifiedContactRecordCount := s.classifiedContactRecordCount + 1 }
  if counterpart = WALL_NAME ∧ s.controlStartedStampNs = none then
    (.error (.protocolError "wall contact preceded positive-control motion"), s)
  else
    match s.ensureTracker counterpart with
    | (.error e, s) => (.error e, s)
    | (.ok (), s) =>
        let progress := { progress with
          classifiedCount := progress.classifiedCount + 1
          snapshotPairs := progress.snapshotPairs.append counterpart record.normalizedPair
          countedSnapshotRecords := progress.countedSnapshotRecords ++ [{
            counterpartModel := counterpart
            normalizedPair := record.normalizedPair
            recordSequence := record.collectorSequence
            snapshotSequence := key.summarySequence }] }
        if counterpart ≠ WALL_NAME then (.ok progress, s)
        else if record.normalizedPair ≠ manifest.expectedControlPair then (.ok progress, s)
        else s.qualify key record progress

def onContact (contact : String × String) (progress : Progress) (s : ContactMonitor) :
    Outcome Progress :=
  let s := { s with snapshotContactRecordCount := s.snapshotContactRecordCount + 1 }
  match s.classifyContact repr manifest contact with
  | (.error e, s) => (.error e, s)
  | (.ok (classification, disposition), s) =>
      let s := s.nextSequence
      let record := recordOf key s.sequence contact classification disposition
      match s.retainRecord key record with
      | (.error e, s) => (.error e, s)
      | (.ok (), s) =>
          match classification with
          | none => (.ok progress, s)
          | some classification => s.countContact manifest key record
              classification.counterpartModel progress

def eachContact : List (String × String) → Progress → ContactMonitor → Outcome Progress
  | [], progress, s => (.ok progress, s)
  | contact :: contacts, progress, s =>
      match s.onContact repr manifest key contact progress with
      | (.error e, s) => (.error e, s)
      | (.ok progress, s) => eachContact contacts progress s

end Contacts

/-! ### The trackers -/

/-- The trackers observe the snapshot, one after the other. -/
def observeTrackers (stampNs : Int) (pairs : Dict String (List CollisionPair)) :
    List String → Dict String ContactEpisodeTracker →
      Except Failure Unit × Dict String ContactEpisodeTracker
  | [], trackers => (.ok (), trackers)
  | counterpart :: counterparts, trackers =>
      match trackers.get? counterpart with
      | none => observeTrackers stampNs pairs counterparts trackers
      | some tracker =>
          match tracker.observeSnapshot stampNs (pairs.listOf counterpart) with
          | .error e => (.error e, trackers)
          | .ok tracker => observeTrackers stampNs pairs counterparts
              (trackers.set counterpart tracker)

/-! ### The end of a snapshot -/

/-- Publish the zero command, which is in the value set and needs no armed motion. -/
def publishCommand (phase : String) (s : ContactMonitor) : Outcome Unit :=
  if !s.clockSeen || s.currentSimStampNs ≤ 0 then
    (.error (.infrastructureError "cannot publish contact-control command before /clock"), s)
  else
    let s := s.nextSequence
    let record : Command := {
      angularZ := 0
      collectorSequence := s.sequence
      linearX := 0
      phase := phase
      simStampNs := s.currentSimStampNs }
    match s.commands.add record s.sequence s.currentSimStampNs with
    | (.error e, buffer) => (.error e, { s with commands := buffer })
    | (.ok (), buffer) => (.ok (), { s with commands := buffer })

/-- The first snapshot without the wall after the stamp that the release requires. -/
def qualifyRelease (key : SnapshotKey) (progress : Progress) (s : ContactMonitor) :
    ContactMonitor :=
  if s.releaseRequiredThroughStampNs.any (· < key.stampNs) && s.qualifiedReleaseSnapshot.isNone
      && !(progress.snapshotPairs.get? WALL_NAME).isSome then
    { s with qualifiedReleaseSnapshot := some (key.summarySequence, key.stampNs) }
  else s

/-- Stop the robot at its first qualifying contact. -/
def stopAtContact (candidate : QualifyingContact) (stampNs : Int) (s : ContactMonitor) :
    Outcome Unit :=
  if s.contactDeadlineNs.any (· < stampNs) then
    match s.publishCommand "LATE_CONTACT_FAIL_SAFE_ZERO" with
    | (.error e, s) => (.error e, s)
    | (.ok (), s) =>
        (.error (.scenarioFailureError "qualifying contact stamp exceeded the 12.0 s deadline"),
          { s with motionActive := false })
  else
    match ({ s with firstQualifyingContact := some candidate } : ContactMonitor).publishCommand
        "CONTACT_STOP" with
    | (.error e, s) => (.error e, s)
    | (.ok (), s) =>
        let stopped := stampNs ≤ s.currentSimStampNs
        let latency := if stopped then some (s.currentSimStampNs - stampNs) else none
        let clock := if stopped then some s.currentSimStampNs else none
        let s := { s with
          stopCommandStampNs := some s.currentSimStampNs
          stopLatencyClockStampNs := clock
          stopLatencyNs := latency
          pendingStopContactStampNs := if stopped then s.pendingStopContactStampNs else some stampNs
          firstQualifyingContact := some { candidate with
            stopLatencyClockStampNs := clock
            stopLatencyUpperBoundNs := latency }
          motionActive := false
          phase := "HOLD" }
        if latency.any fun latency => !(0 ≤ latency && latency ≤ CONTROL_STOP_DEADLINE_NS) then
          (.error (.scenarioFailureError "contact stop command missed its 0.10 s deadline"), s)
        else (.ok (), s)

/-- The summary of a snapshot. -/
def summaryOf (key : SnapshotKey) (offsetNs : Int) (contacts : List (String × String))
    (progress : Progress) (s : ContactMonitor) : SnapshotSummary where
  classifiedCount := progress.classifiedCount
  collectorSequence := key.summarySequence
  countedSnapshotRecords := progress.countedSnapshotRecords
  exactPairCount := progress.exactCount
  deliveryClockOffsetNs := offsetNs
  deliveryClockStampNs := s.currentSimStampNs
  snapshotRecordCount := contacts.length
  simStampNs := key.stampNs

/-- The trackers observe the snapshot, and its summary is retained. -/
def closeSnapshot (key : SnapshotKey) (offsetNs : Int) (contacts : List (String × String))
    (progress : Progress) (s : ContactMonitor) : Outcome Unit :=
  match observeTrackers key.stampNs progress.snapshotPairs s.counterpartTrackers.keys
      s.counterpartTrackers with
  | (.error e, trackers) => (.error e, { s with counterpartTrackers := trackers })
  | (.ok (), trackers) =>
      let s := { s with counterpartTrackers := trackers }
      match s.contactSnapshots.add (summaryOf key offsetNs contacts progress s) key.summarySequence
          key.stampNs with
      | (.error e, buffer) => (.error e, { s with contactSnapshots := buffer })
      | (.ok (), buffer) =>
          let s := ({ s with contactSnapshots := buffer } : ContactMonitor).qualifyRelease key
            progress
          match progress.qualifyingCandidate with
          | none => (.ok (), s)
          | some candidate => s.stopAtContact candidate key.stampNs

section Callback

variable (repr : String → String) (manifest : ContactManifest)

/-- The callback of the snapshots. -/
def onContacts (message : ContactsMessage) (s : ContactMonitor) : Outcome Unit :=
  if !s.clockSeen || s.currentSimStampNs ≤ 0 then
    (.ok (), { s with preClockContactMessageCount := s.preClockContactMessageCount + 1 })
  else
    match s.checkHeader manifest message with
    | (.error e, s) => (.error e, s)
    | (.ok (stampNs, offsetNs), s) =>
        let s := s.openSnapshot stampNs
        let key : SnapshotKey := { stampNs := stampNs, summarySequence := s.sequence }
        match s.eachContact repr manifest key message.contacts {} with
        | (.error e, s) => (.error e, s)
        | (.ok progress, s) => s.closeSnapshot key offsetNs message.contacts progress

/-- The guarded callback. -/
def receive (message : ContactsMessage) (s : ContactMonitor) : ContactMonitor :=
  if s.cleanupMode || s.fatalError.isSome then s
  else
    match s.onContacts repr manifest message with
    | (.ok (), s) => s
    | (.error e, s) => s.setFatal e

end Callback

/-- The closed episodes of all counterparts. -/
def closedEpisodes (s : ContactMonitor) : List ContactEpisode :=
  s.counterpartTrackers.values.flatMap fun tracker => tracker.episodes

/-- The counterpart has an episode that is not closed. -/
def IsActive (s : ContactMonitor) (counterpart : String) : Prop :=
  ∃ tracker, s.counterpartTrackers.get? counterpart = some tracker ∧
    tracker.activeStartNs.isSome = true

end ContactMonitor

end Scenarios

end RobotestLab
