import RobotestLab.Metrics.Values
import RobotestLab.Scenarios.Cleanup

/-!
# The validation of the cleanup proof

The metrics read the proof that an entity is absent back from the result of its scenario. They
accept it when it has the fields of a complete observation, and their numbers reconcile. The proof
of a cleanup is accepted exactly when its numbers do (`validateActorCleanupProof_asDict`).
-/

namespace RobotestLab

namespace Metrics

open Scenarios (ACTOR_CLEANUP_OBSERVATION_NS ACTOR_CLEANUP_QUIET_NS DRAIN_GRACE_NS CleanupProof
  optionalInt optionalSequence)

def CLEANUP_PROOF_FIELDS : List String :=
  ["kind", "dds_drain_complete_steady_ns", "dds_drain_grace_ns", "dds_drain_spin_count",
    "dds_drain_start_steady_ns", "observation_deadline_sim_stamp_ns",
    "pose_source_publishers_after",
    "pose_source_publishers_before", "post_delete_pose_count", "post_delete_pose_first_sequence",
    "post_delete_pose_first_sim_stamp_ns", "post_delete_pose_latest_sequence",
    "post_delete_pose_latest_sim_stamp_ns", "post_delete_pose_source_heartbeat_count",
    "post_delete_pose_source_latest_sequence", "post_delete_pose_source_latest_sim_stamp_ns",
    "quiet_restart_count", "quiet_start_sim_stamp_ns", "quiet_until_sim_stamp_ns",
    "request_sequence", "request_stamp_ns", "response_sequence", "response_stamp_ns"]

def CLEANUP_PROOF_KIND : String := "successful_blocking_delete_and_bounded_pose_absence"

/-- An integer field of the proof. -/
def cleanupField (proof : Evidence) (name : String) : Except MetricError Int :=
  requireInt (PyValue.item name proof) ("scenario.cleanup.proof." ++ name)

/-- The numbers of the observation. -/
structure CleanupNumbers where
  requestSequence : Int
  responseSequence : Int
  requestStampNs : Int
  responseStampNs : Int
  observationDeadlineNs : Int
  quietStartNs : Int
  quietUntilNs : Int
  sourceLatestStampNs : Int
  sourceLatestSequence : Int
  sourceHeartbeatCount : Int
  transitionCount : Int
  quietRestartCount : Int
  publishersBefore : Int
  publishersAfter : Int
  drainGraceNs : Int
  drainSpinCount : Int
  drainStartNs : Int
  drainCompleteNs : Int

def readNumbers (proof : Evidence) : Except MetricError CleanupNumbers := do
  let requestSequence ← cleanupField proof "request_sequence"
  let responseSequence ← cleanupField proof "response_sequence"
  let requestStampNs ← cleanupField proof "request_stamp_ns"
  let responseStampNs ← cleanupField proof "response_stamp_ns"
  let observationDeadlineNs ← cleanupField proof "observation_deadline_sim_stamp_ns"
  let quietStartNs ← cleanupField proof "quiet_start_sim_stamp_ns"
  let quietUntilNs ← cleanupField proof "quiet_until_sim_stamp_ns"
  let sourceLatestStampNs ← cleanupField proof "post_delete_pose_source_latest_sim_stamp_ns"
  let sourceLatestSequence ← cleanupField proof "post_delete_pose_source_latest_sequence"
  let sourceHeartbeatCount ← cleanupField proof "post_delete_pose_source_heartbeat_count"
  let transitionCount ← cleanupField proof "post_delete_pose_count"
  let quietRestartCount ← cleanupField proof "quiet_restart_count"
  let publishersBefore ← cleanupField proof "pose_source_publishers_before"
  let publishersAfter ← cleanupField proof "pose_source_publishers_after"
  let drainGraceNs ← cleanupField proof "dds_drain_grace_ns"
  let drainSpinCount ← cleanupField proof "dds_drain_spin_count"
  let drainStartNs ← cleanupField proof "dds_drain_start_steady_ns"
  let drainCompleteNs ← cleanupField proof "dds_drain_complete_steady_ns"
  .ok ⟨requestSequence, responseSequence, requestStampNs, responseStampNs, observationDeadlineNs,
    quietStartNs, quietUntilNs, sourceLatestStampNs, sourceLatestSequence, sourceHeartbeatCount,
    transitionCount, quietRestartCount, publishersBefore, publishersAfter, drainGraceNs,
    drainSpinCount, drainStartNs, drainCompleteNs⟩

/-- The numbers contradict each other or the bounds of the observation. -/
def CleanupNumbers.contradict (n : CleanupNumbers) : Bool :=
  n.requestSequence < 1
    || n.responseSequence ≤ n.requestSequence
    || n.requestStampNs < 0
    || n.responseStampNs < n.requestStampNs
    || n.observationDeadlineNs ≠ n.responseStampNs + ACTOR_CLEANUP_OBSERVATION_NS
    || n.quietStartNs ≤ n.responseStampNs
    || n.quietUntilNs ≠ n.quietStartNs + ACTOR_CLEANUP_QUIET_NS
    || n.quietUntilNs > n.observationDeadlineNs
    || n.sourceLatestStampNs < n.quietUntilNs
    || n.sourceHeartbeatCount < 2
    || n.sourceLatestSequence ≤ n.responseSequence
    || n.sourceLatestSequence - n.responseSequence ≠ n.sourceHeartbeatCount + n.transitionCount
    || n.transitionCount < 0
    || n.quietRestartCount < 0
    || n.quietRestartCount > n.transitionCount
    || n.publishersBefore < 1
    || n.publishersAfter < 1
    || n.drainGraceNs ≠ DRAIN_GRACE_NS
    || n.drainSpinCount < 1
    || n.drainStartNs < 1
    || n.drainCompleteNs - n.drainStartNs < n.drainGraceNs

/-- Without poses after the response, there is nothing to tell of them. -/
def validateNoTransitions (proof : Evidence) : Except MetricError Unit :=
  if ["post_delete_pose_first_sequence", "post_delete_pose_first_sim_stamp_ns",
      "post_delete_pose_latest_sequence", "post_delete_pose_latest_sim_stamp_ns"].any fun name =>
        match PyValue.item name proof with
        | .none => false
        | _ => true then
    unavailable "scenario cleanup transition fields must be null at zero count"
  else .ok ()

/-- The poses that came after the response, when there were some. -/
def validateTransitions (proof : Evidence) (n : CleanupNumbers) : Except MetricError Unit := do
  let firstSequence ← cleanupField proof "post_delete_pose_first_sequence"
  let firstStampNs ← cleanupField proof "post_delete_pose_first_sim_stamp_ns"
  let latestSequence ← cleanupField proof "post_delete_pose_latest_sequence"
  let latestStampNs ← cleanupField proof "post_delete_pose_latest_sim_stamp_ns"
  if firstSequence ≤ n.responseSequence
      || latestSequence < firstSequence
      || latestSequence - firstSequence < n.transitionCount - 1
      || n.sourceLatestSequence ≤ latestSequence
      || firstStampNs < 1
      || latestStampNs < firstStampNs
      || latestStampNs ≥ n.quietStartNs then
    unavailable "scenario cleanup transition evidence does not reconcile"
  else .ok ()

def validateActorCleanupProof (value : PyValue) : Except MetricError Unit :=
  match value.asMapping with
  | none => unavailable "scenario.cleanup.proof must be an object"
  | some proof =>
      if !PyValue.hasKeys CLEANUP_PROOF_FIELDS proof ||
          !(PyValue.item "kind" proof).equalsText CLEANUP_PROOF_KIND then
        unavailable "scenario actor cleanup proof has an invalid shape or kind"
      else do
        let n ← readNumbers proof
        if n.contradict then
          unavailable "scenario actor cleanup proof does not reconcile"
        else if n.transitionCount = 0 then validateNoTransitions proof
        else validateTransitions proof n

/-! ### Proofs that reconcile -/

/-- The numbers of a complete proof reconcile: the anchor, the last heartbeat with its number, the
drain and the publishers after it. -/
structure Reconciles (proof : CleanupProof) (anchor stamp : Int) (sequence : Nat)
    (start complete publishers : Int) : Prop where
  kind : proof.kind = CLEANUP_PROOF_KIND
  quietStart : proof.quietStartSimStampNs = some anchor
  quietUntil : proof.quietUntilSimStampNs = some (anchor + ACTOR_CLEANUP_QUIET_NS)
  latestStamp : proof.postDeletePoseSourceLatestSimStampNs = some stamp
  latestSequence : proof.postDeletePoseSourceLatestSequence = some sequence
  drainStart : proof.ddsDrainStartSteadyNs = some start
  drainComplete : proof.ddsDrainCompleteSteadyNs = some complete
  publishersAfter : proof.poseSourcePublishersAfter = some publishers
  deadline : proof.observationDeadlineSimStampNs =
    proof.responseStampNs + ACTOR_CLEANUP_OBSERVATION_NS
  grace : proof.ddsDrainGraceNs = DRAIN_GRACE_NS
  request : 1 ≤ proof.requestSequence ∧ proof.requestSequence < proof.responseSequence
  stamps : 0 ≤ proof.requestStampNs ∧ proof.requestStampNs ≤ proof.responseStampNs
  anchored : proof.responseStampNs < anchor
  bounded : anchor + ACTOR_CLEANUP_QUIET_NS ≤ proof.observationDeadlineSimStampNs
  spanned : anchor + ACTOR_CLEANUP_QUIET_NS ≤ stamp
  heartbeats : 2 ≤ proof.postDeletePoseSourceHeartbeatCount
  counted : sequence = proof.responseSequence +
    (proof.postDeletePoseSourceHeartbeatCount + proof.postDeletePoseCount)
  restarts : proof.quietRestartCount ≤ proof.postDeletePoseCount
  observed : 1 ≤ proof.poseSourcePublishersBefore ∧ 1 ≤ publishers
  drained : 1 ≤ proof.ddsDrainSpinCount ∧ 1 ≤ start ∧ start + DRAIN_GRACE_NS ≤ complete
  /-- Without poses there is nothing to show of them. -/
  absent : proof.postDeletePoseCount = 0 →
    proof.postDeletePoseFirstSequence = none ∧ proof.postDeletePoseFirstSimStampNs = none ∧
      proof.postDeletePoseLatestSequence = none ∧ proof.postDeletePoseLatestSimStampNs = none
  /-- The poses are between the response and the anchor. -/
  transitions : proof.postDeletePoseCount ≠ 0 → ∃ n m s t,
    proof.postDeletePoseFirstSequence = some n ∧ proof.postDeletePoseFirstSimStampNs = some s ∧
      proof.postDeletePoseLatestSequence = some m ∧ proof.postDeletePoseLatestSimStampNs = some t ∧
      proof.responseSequence < n ∧ n + (proof.postDeletePoseCount - 1) ≤ m ∧ m < sequence ∧
      1 ≤ s ∧ s ≤ t ∧ t < anchor

variable {proof : CleanupProof} {anchor stamp start complete publishers : Int} {sequence : Nat}

/-- The numbers of a complete proof. -/
def cleanupNumbers (proof : CleanupProof) (anchor stamp : Int) (sequence : Nat)
    (start complete publishers : Int) : CleanupNumbers :=
  ⟨proof.requestSequence, proof.responseSequence, proof.requestStampNs, proof.responseStampNs,
    proof.observationDeadlineSimStampNs, anchor, anchor + ACTOR_CLEANUP_QUIET_NS, stamp, sequence,
    proof.postDeletePoseSourceHeartbeatCount, proof.postDeletePoseCount, proof.quietRestartCount,
    proof.poseSourcePublishersBefore, publishers, DRAIN_GRACE_NS, proof.ddsDrainSpinCount, start,
    complete⟩

/-- The numbers of a proof are the ones that are read. -/
theorem readNumbers_asDict
    (h : Reconciles proof anchor stamp sequence start complete publishers) :
  readNumbers proof.asDict =
    .ok (cleanupNumbers proof anchor stamp sequence start complete publishers)
  := by
  have hread : ∀ {name : String} {n : Int}, PyValue.item name proof.asDict = .int n →
      cleanupField proof.asDict name = .ok n := requireInt_eq_ok_iff.mpr
  unfold readNumbers
  rw [@hread _ proof.requestSequence (by simp [CleanupProof.asDict, item_cons]),
    @hread _ proof.responseSequence (by simp [CleanupProof.asDict, item_cons]),
    @hread _ proof.requestStampNs (by simp [CleanupProof.asDict, item_cons]),
    @hread _ proof.responseStampNs (by simp [CleanupProof.asDict, item_cons]),
    @hread _ proof.observationDeadlineSimStampNs (by simp [CleanupProof.asDict, item_cons]),
    @hread _ anchor (by simp [CleanupProof.asDict, item_cons, h.quietStart, optionalInt]),
    @hread _ (anchor + ACTOR_CLEANUP_QUIET_NS)
      (by simp [CleanupProof.asDict, item_cons, h.quietUntil, optionalInt]),
    @hread _ stamp (by simp [CleanupProof.asDict, item_cons, h.latestStamp, optionalInt]),
    @hread _ sequence
      (by simp [CleanupProof.asDict, item_cons, h.latestSequence, optionalInt, optionalSequence]),
    @hread _ proof.postDeletePoseSourceHeartbeatCount (by simp [CleanupProof.asDict, item_cons]),
    @hread _ proof.postDeletePoseCount (by simp [CleanupProof.asDict, item_cons]),
    @hread _ proof.quietRestartCount (by simp [CleanupProof.asDict, item_cons]),
    @hread _ proof.poseSourcePublishersBefore (by simp [CleanupProof.asDict, item_cons]),
    @hread _ publishers (by simp [CleanupProof.asDict, item_cons, h.publishersAfter]),
    @hread _ DRAIN_GRACE_NS (by simp [CleanupProof.asDict, item_cons, h.grace]),
    @hread _ proof.ddsDrainSpinCount (by simp [CleanupProof.asDict, item_cons]),
    @hread _ start (by simp [CleanupProof.asDict, item_cons, h.drainStart, optionalInt]),
    @hread _ complete (by simp [CleanupProof.asDict, item_cons, h.drainComplete, optionalInt])]
  rfl

/-- The numbers do not contradict each other. -/
theorem cleanupNumbers_agree
    (h : Reconciles proof anchor stamp sequence start complete publishers) :
  (cleanupNumbers proof anchor stamp sequence start complete publishers).contradict = false
  := by
  obtain ⟨hspins, hstart, hdrained⟩ := h.drained
  obtain ⟨hrequest, hresponse⟩ := h.request
  obtain ⟨hstamp, hstamps⟩ := h.stamps
  obtain ⟨hbefore, hafter⟩ := h.observed
  have hdeadline := h.deadline
  have hanchored := h.anchored
  have hbounded := h.bounded
  have hspanned := h.spanned
  have hheartbeats := h.heartbeats
  have hcounted := h.counted
  have hrestarts := h.restarts
  simp only [CleanupNumbers.contradict, Bool.or_eq_false_iff, decide_eq_false_iff_not]
  simp only [cleanupNumbers]
  omega

/-- A proof whose numbers reconcile is accepted. -/
theorem validateActorCleanupProof_asDict
    (h : Reconciles proof anchor stamp sequence start complete publishers) :
  validateActorCleanupProof (.dict proof.asDict) = .ok ()
  := by
  have hkeys : PyValue.hasKeys CLEANUP_PROOF_FIELDS proof.asDict = true := by
    simp [PyValue.hasKeys, CLEANUP_PROOF_FIELDS, CleanupProof.asDict, PyValue.isKey,
      h.publishersAfter]
  have hkind : (PyValue.item "kind" proof.asDict).equalsText CLEANUP_PROOF_KIND = true := by
    rw [show PyValue.item "kind" proof.asDict = .str CLEANUP_PROOF_KIND by
      simp [CleanupProof.asDict, item_cons, h.kind]]
    simp [PyValue.equalsText]
  have hread := readNumbers_asDict h
  have hagree := cleanupNumbers_agree h
  have hcount : (cleanupNumbers proof anchor stamp sequence start complete
      publishers).transitionCount =
      proof.postDeletePoseCount := rfl
  unfold validateActorCleanupProof
  have hnone : proof.postDeletePoseCount = 0 → validateNoTransitions proof.asDict = .ok () := by
    intro hcount
    obtain ⟨h₁, h₂, h₃, h₄⟩ := h.absent hcount
    unfold validateNoTransitions
    rw [if_neg]
    simp [CleanupProof.asDict, item_cons, h₁, h₂, h₃, h₄, optionalInt, optionalSequence]
  have hsome : proof.postDeletePoseCount ≠ 0 → validateTransitions proof.asDict
      (cleanupNumbers proof anchor stamp sequence start complete publishers) = .ok () := by
    intro hcount
    obtain ⟨n, m, s, t, hn, hs, hm, ht, hfirst, hspan, hlast, hpositive, hle, hlt⟩ :=
      h.transitions hcount
    have hint : ∀ {name : String} {n : Int}, PyValue.item name proof.asDict = .int n →
        cleanupField proof.asDict name = .ok n := requireInt_eq_ok_iff.mpr
    unfold validateTransitions
    rw [@hint _ n (by simp [CleanupProof.asDict, item_cons, hn, optionalInt, optionalSequence]),
      @hint _ s (by simp [CleanupProof.asDict, item_cons, hs, optionalInt]),
      @hint _ m (by simp [CleanupProof.asDict, item_cons, hm, optionalInt, optionalSequence]),
      @hint _ t (by simp [CleanupProof.asDict, item_cons, ht, optionalInt])]
    simp only [Bind.bind, Except.bind]
    rw [if_neg]
    simp only [Bool.or_eq_true, decide_eq_true_eq, not_or]
    simp only [cleanupNumbers]
    omega
  generalize cleanupNumbers proof anchor stamp sequence start complete publishers = numbers at *
  generalize proof.asDict = items at *
  simp only [PyValue.asMapping, hkeys, hkind, hread, hagree, hcount, Bind.bind, Except.bind,
    Bool.not_true, Bool.or_self, Bool.false_eq_true, if_false]
  by_cases hzero : proof.postDeletePoseCount = 0
  · rw [if_pos (by exact_mod_cast hzero)]
    apply hnone hzero
  · rw [if_neg (by exact_mod_cast hzero)]
    apply hsome hzero

end Metrics

end RobotestLab
