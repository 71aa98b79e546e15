import RobotestLab.Scenarios.ContactSnapshots

/-!
# Reconciliation of contact snapshots

The analysis of the positive control reads the retained summaries and records of the contact
snapshots. It checks every summary against the records of its snapshot, and computes the episodes
again, with one dictionary of the counterparts that are active.
-/

namespace RobotestLab

namespace Metrics

open Scenarios (CollisionPair ContactEpisode SnapshotRecord SnapshotSummary
  CountedRecord sortedPairs)

/-! ### Episodes -/

/-- An episode that has begun. The set of its pairs is a list without duplicates. -/
structure ActiveEpisode where
  counterpartModel : String
  normalizedPairs : List CollisionPair := []
  snapshotRecordCount : Nat := 0
  startStampNs : Int
deriving DecidableEq

/-- An episode that has ended. -/
structure EndedEpisode extends ActiveEpisode where
  endStampNs : Int
deriving DecidableEq

def EndedEpisode.normalized (episode : EndedEpisode) : ContactEpisode where
  counterpartModel := episode.counterpartModel
  endStampNs := episode.endStampNs
  normalizedPairs := sortedPairs episode.normalizedPairs
  snapshotRecordCount := episode.snapshotRecordCount
  startStampNs := episode.startStampNs

/-- The active counterparts and the ended episodes. -/
structure Reconciled where
  active : Dict String ActiveEpisode := {}
  episodes : List EndedEpisode := []

def countedRecords (records : List SnapshotRecord) : List SnapshotRecord :=
  records.filter fun record => record.disposition = .counted

/-- `str(record['counterpart_model'])`. -/
def modelText (record : SnapshotRecord) : String := record.counterpartModel.getD "None"

/-- The counted records of a snapshot by their counterparts. -/
def presentOf (counted : List SnapshotRecord) : Dict String (List SnapshotRecord) :=
  Dict.groupBy modelText counted

namespace Reconciled

/-- End the episodes of the counterparts that are absent. -/
def closeAbsent (stamp : Int) (present : Dict String (List SnapshotRecord)) :
    List String → Reconciled → Reconciled
  | [], r => r
  | counterpart :: counterparts, r =>
      if counterpart ∈ present.keys then closeAbsent stamp present counterparts r
      else
        match r.active.get? counterpart with
        | none => closeAbsent stamp present counterparts r
        | some episode =>
            closeAbsent stamp present counterparts {
              active := r.active.erase counterpart
              episodes := r.episodes ++ [{ episode with endStampNs := stamp }] }

/-- Extend the episode of a counterpart that is present, or begin one. -/
def extendPresent (stamp : Int) (r : Reconciled)
    (entry : String × List SnapshotRecord) : Reconciled :=
  let episode := (r.active.get? entry.1).getD { counterpartModel := entry.1, startStampNs := stamp }
  { r with
    active := r.active.set entry.1 { episode with
      normalizedPairs := episode.normalizedPairs.update (entry.2.map (·.normalizedPair))
      snapshotRecordCount := episode.snapshotRecordCount + entry.2.length } }

/-- Apply the counted records of a snapshot. -/
def applySnapshot (r : Reconciled) (stamp : Int) (counted : List SnapshotRecord) : Reconciled :=
  let present := presentOf counted
  present.items.foldl (extendPresent stamp) (closeAbsent stamp present r.active.keys r)

end Reconciled

/-! ### The checks of a summary -/

/-- What is known of the commands of the control. -/
structure ControlBoundary where
  expected : CollisionPair
  commandSequences : List Nat
  firstForwardSequence : Nat
  firstForwardStampNs : Int

/-- The loop over the summaries. -/
structure ReconcileLoop where
  previousStamp : Option Int := none
  previousDeliveryClock : Option Int := none
  previousSnapshotBlockEnd : Nat := 0
  previousSequence : Nat := 0
  reconciled : Reconciled := {}
  seenSummarySequences : List Nat := []

/-- The summary does not follow the one before it. -/
def disordered (loop : ReconcileLoop) (summary : SnapshotSummary) : Bool :=
  summary.collectorSequence ≤ loop.previousSequence
    || summary.simStampNs ≤ 0
    || loop.previousStamp.any (fun previous =>
      MAX_CONTACT_SNAPSHOT_GAP_NS < summary.simStampNs - previous)
    || loop.previousStamp.any (summary.simStampNs ≤ ·)
    || loop.previousDeliveryClock.any (summary.deliveryClockStampNs < ·)
    || summary.deliveryClockStampNs - summary.simStampNs ≠ summary.deliveryClockOffsetNs

/-- The records of a snapshot are numbered one after the other after its summary. -/
def checkBlock (summary : SnapshotSummary) (records : List SnapshotRecord) :
    Except MetricError Unit :=
  let sequences := records.map (·.collectorSequence)
  if !(1 ≤ sequences.length && sequences.length ≤ 16) then
    unavailable "positive-control contact snapshot summary does not reconcile"
  else if records.any fun record => record.simStampNs ≠ summary.simStampNs then
    unavailable "positive-control snapshot record linkage is invalid"
  else if sequences ≠ List.range' (summary.collectorSequence + 1) sequences.length then
    unavailable "positive-control snapshot record sequence block is not contiguous"
  else .ok ()

/-- The snapshot is before the first forward command, or after it. -/
def checkBoundary (boundary : ControlBoundary) (loop : ReconcileLoop) (summary : SnapshotSummary)
    (blockEnd : Nat) : Except MetricError Unit :=
  let precontrol : Bool := blockEnd < boundary.firstForwardSequence
  if summary.collectorSequence ≤ loop.previousSnapshotBlockEnd then
    unavailable "positive-control snapshot sequence blocks overlap or are not ordered"
  else if summary.collectorSequence < boundary.firstForwardSequence
      && boundary.firstForwardSequence ≤ blockEnd then
    unavailable "positive-control snapshot record block crosses the active-control boundary"
  else if boundary.commandSequences.any fun command =>
      summary.collectorSequence ≤ command && command ≤ blockEnd then
    unavailable "positive-control command sequence intersects a contact snapshot block"
  else if precontrol && boundary.firstForwardStampNs < summary.deliveryClockStampNs then
    unavailable ("positive-control pre-control snapshot chronology "
      ++ "crosses the active-control boundary")
  else if !precontrol && summary.deliveryClockStampNs < boundary.firstForwardStampNs then
    unavailable "positive-control active snapshot chronology precedes the active-control boundary"
  else if !precontrol && MAX_CONTACT_SNAPSHOT_GAP_NS < summary.deliveryClockOffsetNs.natAbs then
    unavailable "positive-control contact snapshot ordering/liveness is invalid"
  else .ok ()

/-- What the summary has to say about a counted record. -/
def expectedCounted (sequence : Nat) (record : SnapshotRecord) :
    Option String × CollisionPair × Nat × Nat :=
  (record.counterpartModel, record.normalizedPair, record.collectorSequence, sequence)

/-- What the summary says about a counted record. -/
def countedEntry (counted : CountedRecord) : Option String × CollisionPair × Nat × Nat :=
  (some counted.counterpartModel, counted.normalizedPair, counted.recordSequence,
    counted.snapshotSequence)

/-- The summary says what its records are. -/
def checkCounts (expected : CollisionPair) (summary : SnapshotSummary)
    (records : List SnapshotRecord) :
    Except MetricError Unit :=
  let counted := countedRecords records
  let exact := counted.filter fun record => record.normalizedPair = expected
  if summary.snapshotRecordCount ≠ records.length || summary.classifiedCount ≠ counted.length
      || summary.exactPairCount ≠ exact.length
      || summary.countedSnapshotRecords.map countedEntry
        ≠ counted.map (expectedCounted summary.collectorSequence) then
    unavailable "positive-control contact snapshot summary does not reconcile"
  else .ok ()

def reconcileSummary (boundary : ControlBoundary)
    (recordsBySnapshot : Dict Nat (List SnapshotRecord))
    (loop : ReconcileLoop) (summary : SnapshotSummary) : Except MetricError ReconcileLoop :=
  if disordered loop summary then
    unavailable "positive-control contact snapshot ordering/liveness is invalid"
  else do
    let records := recordsBySnapshot.listOf summary.collectorSequence
    checkBlock summary records
    let blockEnd := summary.collectorSequence + records.length
    checkBoundary boundary loop summary blockEnd
    checkCounts boundary.expected summary records
    .ok {
      previousStamp := some summary.simStampNs
      previousDeliveryClock := some summary.deliveryClockStampNs
      previousSnapshotBlockEnd := blockEnd
      previousSequence := summary.collectorSequence
      reconciled := loop.reconciled.applySnapshot summary.simStampNs (countedRecords records)
      seenSummarySequences := loop.seenSummarySequences ++ [summary.collectorSequence] }

/-- The loop over all summaries. -/
def reconcileSummaries (boundary : ControlBoundary) (snapshots : List SnapshotSummary)
    (records : List SnapshotRecord) : Except MetricError ReconcileLoop :=
  snapshots.foldlM (reconcileSummary boundary (Dict.groupBy (·.snapshotSequence) records)) {}

def reconcileContactSnapshots (boundary : ControlBoundary) (snapshots : List SnapshotSummary)
    (records : List SnapshotRecord) :
    Except MetricError (List ContactEpisode × Dict Nat (List SnapshotRecord)) :=
  if snapshots = [] then
    unavailable "positive-control authoritative contact snapshots are missing"
  else do
    let recordsBySnapshot := Dict.groupBy (·.snapshotSequence) records
    let loop ← reconcileSummaries boundary snapshots records
    if recordsBySnapshot.keys.any fun sequence => sequence ∉ loop.seenSummarySequences then
      unavailable "positive-control snapshot record references a missing summary"
    else if loop.reconciled.active.items ≠ [] then
      unavailable "positive-control contact episode lacks an absence snapshot"
    else .ok (loop.reconciled.episodes.map EndedEpisode.normalized, recordsBySnapshot)

/-! ### The episodes without the checks -/

/-- The episodes that the records of the summaries make, whatever the checks say. -/
def recomputed (snapshots : List SnapshotSummary) (records : List SnapshotRecord) : Reconciled :=
  snapshots.foldl (fun r summary => r.applySnapshot summary.simStampNs
    (countedRecords (records.filter fun record => record.snapshotSequence =
      summary.collectorSequence))) {}

variable {records : List SnapshotRecord} {boundary : ControlBoundary}

theorem reconcileSummary_reconciled {loop loop' : ReconcileLoop} {summary : SnapshotSummary}
    (h : reconcileSummary boundary (Dict.groupBy (·.snapshotSequence) records) loop summary =
      .ok loop') :
  loop'.reconciled = loop.reconciled.applySnapshot summary.simStampNs
    (countedRecords (records.filter fun record => record.snapshotSequence =
      summary.collectorSequence))
  := by
  unfold reconcileSummary at h
  split at h
  case isTrue => cases h
  case isFalse =>
    obtain ⟨⟨⟩, -, h⟩ := Except.bind_eq_ok_iff.mp h
    obtain ⟨⟨⟩, -, h⟩ := Except.bind_eq_ok_iff.mp h
    obtain ⟨⟨⟩, -, h⟩ := Except.bind_eq_ok_iff.mp h
    cases h
    rw [(Dict.inhabited_groupBy _ records summary.collectorSequence).2]

/-- The loop computes these episodes when its checks succeed. -/
theorem reconcileSummaries_reconciled {snapshots : List SnapshotSummary} {loop : ReconcileLoop}
    (h : reconcileSummaries boundary snapshots records = .ok loop) :
  loop.reconciled = recomputed snapshots records
  := by
  have hrun : ∀ (start : ReconcileLoop) (r : Reconciled), start.reconciled = r →
      snapshots.foldlM (reconcileSummary boundary (Dict.groupBy (·.snapshotSequence) records))
        start = .ok loop →
      loop.reconciled = snapshots.foldl (fun r summary => r.applySnapshot summary.simStampNs
        (countedRecords (records.filter fun record =>
          record.snapshotSequence = summary.collectorSequence))) r := by
    clear h
    induction snapshots with
    | nil =>
        rintro start r rfl h
        cases h
        rfl
    | cons summary snapshots ih =>
        rintro start r rfl h
        rw [List.foldlM_cons] at h
        obtain ⟨next, hnext, h⟩ := Except.bind_eq_ok_iff.mp h
        apply ih next _ (reconcileSummary_reconciled hnext) h
  exact hrun {} {} rfl h

theorem reconcileContactSnapshots_episodes {snapshots : List SnapshotSummary}
    {episodes : List ContactEpisode} {recordsBySnapshot : Dict Nat (List SnapshotRecord)}
    (h : reconcileContactSnapshots boundary snapshots records = .ok (episodes, recordsBySnapshot)) :
  episodes = (recomputed snapshots records).episodes.map EndedEpisode.normalized
  := by
  unfold reconcileContactSnapshots at h
  split at h
  case isTrue => cases h
  case isFalse =>
    obtain ⟨loop, hloop, h⟩ := Except.bind_eq_ok_iff.mp h
    split at h
    case isTrue => cases h
    case isFalse =>
      split at h
      case isTrue => cases h
      case isFalse =>
        cases h
        rw [reconcileSummaries_reconciled hloop]

end Metrics

end RobotestLab
