import RobotestLab.Collisions.Gate

/-!
# A stream with one pair

As long as the messages of a stream all have the same pair, the gate goes on in the same way: it
answers every message with the batch before it, keeps the pair in its active set, and publishes it
when a heartbeat is due.
-/

namespace RobotestLab

namespace Collisions

namespace Ros

/-! ### One call -/

variable {F64 : Type} {policy policy' : ContactStreamPolicy F64}
  {decision : ContactGateDecision F64}
  {message : Contacts F64} {validated : ValidatedMessage F64} {batch : PendingBatch F64}
  {projection : Projection} {incoming completed : Int}

/-- A message that follows the last one is answered with the batch before it. -/
theorem observe_eq [Binary64Tests F64] (hstamp : stampNs message.header = some incoming)
    (hpositive : 0 < incoming)
    (hframe : message.header.frameId = "")
    (hlast : ∀ last ∈ policy.lastRawStampNs, last < incoming
      ∧ incoming - last ≤ kPrivateContactAggregatePeriodNs)
    (hvalidated : validateMessage message = .ok validated)
    (hfinalized : policy.finalizePending = (decision, policy')) (hquiet : decision.fatal = false) :
  policy.observe message = (decision, { policy' with
    pendingBatch := some (ContactStreamPolicy.pendingOf message validated)
    lastRawStampNs := some incoming })
  := by
  have hheader : policy.checkHeader message = .ok incoming := by
    unfold ContactStreamPolicy.checkHeader
    rw [hstamp]
    dsimp only
    rw [if_neg (not_le.mpr hpositive), if_neg (not_not.mpr hframe)]
    cases hraw : policy.lastRawStampNs with
    | none => rfl
    | some last =>
        obtain ⟨hlt, hgap⟩ := hlast last hraw
        dsimp only
        rw [if_neg (not_le.mpr hlt), if_neg (not_lt.mpr hgap)]
        rfl
  unfold ContactStreamPolicy.observe
  rw [hheader, hvalidated, hfinalized]
  dsimp only
  rw [hquiet, if_neg Bool.false_ne_true]

/-- The gate after a batch is completed. -/
theorem finalizePending_eq (hbatch : policy.pendingBatch = some batch)
    (hstamp : stampNs batch.header = some completed) (hsynchronized : policy.synchronized = true)
    (hlast : ∀ last ∈ policy.lastForwardStampNs, completed - last ≤ kMaxPublicSnapshotGapNs)
    (hproject : ContactStreamPolicy.project policy.activePairs batch completed = projection)
    (hpairs : projection.pairCount ≤ kMaxActiveContactPairs)
    (hrecords : projection.recordCount ≤ kMaxActiveContactRecords)
    (hstrings : projection.stringBytes ≤ kMaxActiveStringBytes) :
  policy.finalizePending
    = let policy := { policy with
        pendingBatch := none
        activePairs := ContactStreamPolicy.updateActive policy.activePairs batch completed
          projection.expired }
      policy.publish completed (policy.forward batch completed projection)
  := by
  have hnone : policy.lastForwardStampNs.filter
      (completed - · > kMaxPublicSnapshotGapNs) = none := by
    cases hforwarded : policy.lastForwardStampNs with
    | none => rfl
    | some last =>
        rw [Option.filter_some, if_neg]
        simpa using hlast last hforwarded
  unfold ContactStreamPolicy.finalizePending
  rw [hbatch]
  dsimp only
  rw [hstamp]
  dsimp only
  rw [if_pos hsynchronized]
  unfold ContactStreamPolicy.complete
  dsimp only
  rw [hnone, hproject]
  dsimp only
  rw [if_neg (not_lt.mpr hpairs), if_neg (not_lt.mpr hrecords), if_neg (not_lt.mpr hstrings)]

theorem stampNs_eq {header : Header} {n : Nat} (hsec : header.stamp.sec = 0)
    (hnanosec : header.stamp.nanosec.toNat = n) (hn : n < 1000000000) :
  stampNs header = some (n : Int)
  := by
  have hvalid : validStamp header.stamp = true := by
    rw [validStamp, hsec, Bool.and_eq_true, decide_eq_true_eq, decide_eq_true_eq,
      UInt32.lt_iff_toNat_lt, hnanosec]
    exact ⟨Int32.le_refl 0, hn⟩
  rw [stampNs, if_pos hvalid, hsec, hnanosec, Int32.toInt_zero, Int.zero_mul, Int.zero_add]

/-- One pair, which was last seen at a stamp. -/
def seenAt (pair : ContactPair) (group : RecordGroup (Contact F64)) (stamp : Int) :
    PairMap (ActivePair F64) :=
  (∅ : PairMap _).insert pair { group with lastSeenStampNs := stamp }

/-- The numbers of one pair. -/
def onePair (pair : ContactPair) (group : RecordGroup (Contact F64)) : Projection where
  pairCount := 1
  recordCount := group.records.length
  stringBytes := group.stringBytes + pairKeyStringBytes pair

section Steady

variable {pair : ContactPair} {group : RecordGroup (Contact F64)} {seen : Int}

theorem toList_seenAt :
  (seenAt pair group seen).toList = [(pair, { group with lastSeenStampNs := seen })]
  := SortedMap.toList_insert_empty _ _

theorem size_seenAt :
  (seenAt pair group seen).size = 1
  := by
  rw [← Std.ExtTreeMap.length_toList, toList_seenAt]
  rfl

theorem project_seenAt (hbatch : batch.pairs = (∅ : PairMap _).insert pair group) :
  ContactStreamPolicy.project (seenAt pair group seen) batch completed
    = onePair pair group
  := by
  have hget' : (seenAt pair group seen)[pair]? = some { group with lastSeenStampNs := seen } :=
    Std.ExtTreeMap.getElem?_insert_self
  unfold ContactStreamPolicy.project
  rw [toList_seenAt, hbatch, SortedMap.toList_insert_empty, size_seenAt]
  simp [ContactStreamPolicy.projectActive, ContactStreamPolicy.projectBatch,
    ContactStreamPolicy.releaseProven, hbatch, hget', onePair]

theorem updateActive_seenAt (hbatch : batch.pairs = (∅ : PairMap _).insert pair group) :
  ContactStreamPolicy.updateActive (seenAt pair group seen) batch completed [] =
    seenAt pair group completed
  := by
  unfold ContactStreamPolicy.updateActive
  rw [hbatch, SortedMap.toList_insert_empty]
  apply Std.ExtTreeMap.ext_getElem?
  intro other
  classical
  simp only [List.foldl_nil, List.map_cons, List.map_nil, SortedMap.assignAll, List.foldl_cons,
    seenAt, SortedMap.getElem?_insert_eq]
  split
  · rfl
  · rfl

/-- The gate while one pair is seen. -/
def steadyPolicy (pair : ContactPair) (group : RecordGroup (Contact F64)) (batch : PendingBatch F64)
    (seen raw forwarded : Int) : ContactStreamPolicy F64 where
  activePairs := seenAt pair group seen
  pendingBatch := some batch
  lastRawStampNs := some raw
  lastForwardStampNs := some forwarded
  synchronized := true

/-- The numbers of one pair are within the limits. -/
structure Fits (pair : ContactPair) (group : RecordGroup (Contact F64)) : Prop where
  records : group.records.length ≤ kMaxActiveContactRecords
  strings : group.stringBytes + pairKeyStringBytes pair ≤ kMaxActiveStringBytes
  nonempty : group.records ≠ []

variable {raw forwarded : Int}

theorem finalizePending_steady (hfits : Fits pair group)
    (hbatch : batch.pairs = (∅ : PairMap _).insert pair group)
    (hstamp : stampNs batch.header = some completed)
    (hgap : completed - forwarded ≤ kMaxPublicSnapshotGapNs) :
  (steadyPolicy pair group batch seen raw forwarded).finalizePending
    = let policy := { steadyPolicy pair group batch seen raw forwarded with
        pendingBatch := none
        activePairs := seenAt pair group completed }
      policy.publish completed (policy.forward batch completed (onePair pair group))
  := by
  have hupdate : ContactStreamPolicy.updateActive
      (steadyPolicy pair group batch seen raw forwarded).activePairs batch completed
        (onePair pair group).expired = seenAt pair group completed := updateActive_seenAt hbatch
  have hpairs : (onePair pair group).pairCount ≤ kMaxActiveContactPairs := show 1 ≤ 16 by decide
  rw [← hupdate]
  apply finalizePending_eq rfl hstamp rfl _ (project_seenAt hbatch) hpairs
    hfits.records hfits.strings
  intro last hlast
  rw [← Option.some.inj hlast]
  exact hgap

/-- The answer while nothing changes. -/
def steadyDecision (group : RecordGroup (Contact F64)) : ContactGateDecision F64 where
  activePairCount := 1
  activeRecordCount := group.records.length

/-- The answer with which the pair is published. -/
def publishedDecision (group : RecordGroup (Contact F64)) (header : Header)
    (reason : ContactForwardReason) :
    ContactGateDecision F64 where
  output := some { header := header, contacts := group.records }
  reason := reason
  activePairCount := 1
  activeRecordCount := group.records.length

theorem forward_steady (hquiet : batch.semanticFatal = false)
    (hforwarded : policy.lastForwardStampNs = some forwarded)
    (hactive : policy.activePairs = seenAt pair group seen)
    (hgap : completed - forwarded < kContactHeartbeatPeriodNs) :
  policy.forward batch completed (onePair pair group)
    = steadyDecision group
  := by
  unfold ContactStreamPolicy.forward
  rw [hquiet, hforwarded, hactive, size_seenAt]
  dsimp only
  rw [if_neg Bool.false_ne_true, onePair, if_neg Bool.false_ne_true, if_neg (not_le.mpr hgap)]
  rfl

theorem snapshot_seenAt {header : Header} (hactive : policy.activePairs = seenAt pair group seen) :
  policy.snapshot header = { header := header, contacts := group.records }
  := by
  unfold ContactStreamPolicy.snapshot
  rw [hactive, toList_seenAt, List.flatMap_singleton]

theorem publish_seenAt {header : Header} {reason : ContactForwardReason} (hfits : Fits pair group) :
  policy.publish completed (publishedDecision group header reason)
    = (publishedDecision group header reason, { policy with lastForwardStampNs := some completed })
  := by
  unfold ContactStreamPolicy.publish publishedDecision
  dsimp only
  rw [if_neg]
  rw [Bool.or_eq_true, not_or, List.isEmpty_iff, decide_eq_true_eq, not_lt]
  exact ⟨hfits.nonempty, hfits.records⟩

theorem forward_heartbeat (hquiet : batch.semanticFatal = false)
    (hforwarded : policy.lastForwardStampNs = some forwarded)
    (hactive : policy.activePairs = seenAt pair group seen)
    (hgap : kContactHeartbeatPeriodNs ≤ completed - forwarded) :
  policy.forward batch completed (onePair pair group)
    = publishedDecision group batch.header .steadyStateHeartbeat
  := by
  unfold ContactStreamPolicy.forward
  rw [hquiet, hforwarded, snapshot_seenAt hactive, hactive, size_seenAt]
  dsimp only
  rw [if_neg Bool.false_ne_true, onePair, if_neg Bool.false_ne_true, if_pos hgap]
  rfl

/-- The gate that is synchronized, before anything was published. -/
def openPolicy (batch : PendingBatch F64) (raw : Int) : ContactStreamPolicy F64 where
  pendingBatch := some batch
  lastRawStampNs := some raw
  synchronized := true

theorem project_empty (hbatch : batch.pairs = (∅ : PairMap _).insert pair group) :
  ContactStreamPolicy.project ∅ batch completed = { onePair pair group with pairSetChanged := true }
  := by
  have hempty : (∅ : PairMap (ActivePair F64)).toList = [] := rfl
  have hsize : (∅ : PairMap (ActivePair F64)).size = 0 := rfl
  unfold ContactStreamPolicy.project
  rw [hempty, hsize, hbatch, SortedMap.toList_insert_empty]
  simp [ContactStreamPolicy.projectBatch, onePair]

theorem updateActive_empty (hbatch : batch.pairs = (∅ : PairMap _).insert pair group) :
  ContactStreamPolicy.updateActive ∅ batch completed [] = seenAt pair group completed
  := by
  unfold ContactStreamPolicy.updateActive
  rw [hbatch, SortedMap.toList_insert_empty]
  rfl

theorem forward_initial (hquiet : batch.semanticFatal = false)
    (hforwarded : policy.lastForwardStampNs = none)
    (hactive : policy.activePairs = seenAt pair group seen) :
  policy.forward batch completed { onePair pair group with pairSetChanged := true }
    = publishedDecision group batch.header .initialSnapshot
  := by
  unfold ContactStreamPolicy.forward
  rw [hquiet, hforwarded, snapshot_seenAt hactive, hactive, size_seenAt]
  dsimp only
  rw [if_neg Bool.false_ne_true]
  rfl

theorem finalizePending_open (hfits : Fits pair group)
    (hbatch : batch.pairs = (∅ : PairMap _).insert pair group)
    (hquiet : batch.semanticFatal = false) (hstamp : stampNs batch.header = some completed) :
  (openPolicy batch raw).finalizePending = (publishedDecision group batch.header .initialSnapshot,
    { openPolicy batch raw with
      pendingBatch := none
      activePairs := seenAt pair group completed
      lastForwardStampNs := some completed })
  := by
  have hpairs : (1 : Nat) ≤ kMaxActiveContactPairs := show 1 ≤ 16 by decide
  have hupdate : ContactStreamPolicy.updateActive (openPolicy batch raw).activePairs batch completed
      { onePair pair group with pairSetChanged := true }.expired = seenAt pair group completed :=
    updateActive_empty hbatch
  have hlast : ∀ last ∈ (openPolicy batch raw).lastForwardStampNs,
      completed - last ≤ kMaxPublicSnapshotGapNs := by
    intro last hlast
    cases hlast
  rw [finalizePending_eq rfl hstamp rfl hlast
    (project_empty hbatch) hpairs hfits.records hfits.strings, hupdate]
  dsimp only
  rw [forward_initial hquiet rfl rfl, publish_seenAt hfits]

/-- A message that comes while nothing changes. -/
theorem observe_steady [Binary64Tests F64] (hfits : Fits pair group)
    (hbatch : batch.pairs = (∅ : PairMap _).insert pair group)
    (hquiet : batch.semanticFatal = false) (hstamp : stampNs batch.header = some completed)
    (hgap : completed - forwarded < kContactHeartbeatPeriodNs)
    (hincoming : stampNs message.header = some incoming) (hpositive : 0 < incoming)
    (hframe : message.header.frameId = "")
    (hraw : raw < incoming ∧ incoming - raw ≤ kPrivateContactAggregatePeriodNs)
    (hvalidated : validateMessage message = .ok validated) :
  (steadyPolicy pair group batch seen raw forwarded).observe message = (steadyDecision group,
    steadyPolicy pair group (ContactStreamPolicy.pendingOf message validated) completed
      incoming forwarded)
  := by
  have hpublic : completed - forwarded ≤ kMaxPublicSnapshotGapNs := by
    rw [kContactHeartbeatPeriodNs] at hgap
    rw [kMaxPublicSnapshotGapNs]
    omega
  have hfinalized : (steadyPolicy pair group batch seen raw forwarded).finalizePending = _ :=
    finalizePending_steady hfits hbatch hstamp hpublic
  dsimp only at hfinalized
  rw [forward_steady hquiet rfl rfl hgap] at hfinalized
  rw [observe_eq hincoming hpositive hframe _ hvalidated hfinalized rfl]
  · rfl
  · intro last hlast
    rw [← Option.some.inj hlast]
    exact hraw

/-- A message that comes when the heartbeat is due. -/
theorem observe_heartbeat [Binary64Tests F64] (hfits : Fits pair group)
    (hbatch : batch.pairs = (∅ : PairMap _).insert pair group)
    (hquiet : batch.semanticFatal = false) (hstamp : stampNs batch.header = some completed)
    (hgap : kContactHeartbeatPeriodNs ≤ completed - forwarded)
    (hpublic : completed - forwarded ≤ kMaxPublicSnapshotGapNs)
    (hincoming : stampNs message.header = some incoming) (hpositive : 0 < incoming)
    (hframe : message.header.frameId = "")
    (hraw : raw < incoming ∧ incoming - raw ≤ kPrivateContactAggregatePeriodNs)
    (hvalidated : validateMessage message = .ok validated) :
  (steadyPolicy pair group batch seen raw forwarded).observe message
    = (publishedDecision group batch.header .steadyStateHeartbeat,
      steadyPolicy pair group (ContactStreamPolicy.pendingOf message validated) completed
        incoming completed)
  := by
  have hfinalized : (steadyPolicy pair group batch seen raw forwarded).finalizePending = _ :=
    finalizePending_steady hfits hbatch hstamp hpublic
  dsimp only at hfinalized
  rw [forward_heartbeat hquiet rfl rfl hgap, publish_seenAt hfits] at hfinalized
  rw [observe_eq hincoming hpositive hframe _ hvalidated hfinalized rfl]
  · rfl
  · intro last hlast
    rw [← Option.some.inj hlast]
    exact hraw

end Steady

end Ros

end Collisions

end RobotestLab
