import RobotestLab.Collisions.ActiveSet
import RobotestLab.Collisions.Intervals
import Mathlib.Data.List.Chain

/-!
# The public snapshots of the gate

An accepted message is finalized when the next one is accepted. The active set after a finalized
batch is a function of the batches after the first one: the pairs whose last sighting is at most 250
ms old, with the records of that sighting. A snapshot is published when the pairs change and
otherwise every 200 ms, so the last snapshot always has the pairs of the active set, and no snapshot
is 220 ms after the one before it.
-/

namespace RobotestLab

namespace Collisions

namespace Ros

open ContactStreamPolicy

variable {F64 : Type}

/-! ### Sightings -/

/-- The stamp of a message. -/
def Contacts.stamp (message : Contacts F64) : Int :=
  (stampNs message.header).getD 0

/-- The stamps and the records of the batches that have the pair. -/
def sightings (batches : List (Contacts F64)) (p : ContactPair) : List (Int × List (Contact F64)) :=
  (batches.map fun batch => (batch.stamp, messageGrouping.recordsOf p batch.contacts)).filter
    fun sighting => !sighting.2.isEmpty

/-- The pair is active at a stamp when its last sighting is at most 250 ms old, with the records of
that sighting. -/
def activeAt (batches : List (Contacts F64)) (stamp : Int) (p : ContactPair) :
    Option (ActivePair F64) :=
  ((sightings batches p).getLast?.filter fun sighting =>
    stamp - sighting.1 ≤ kContactReleaseGapNs).map fun sighting =>
      { toRecordGroup := messageGrouping.group sighting.2, lastSeenStampNs := sighting.1 }

section Sightings

variable {batches : List (Contacts F64)} {batch : Contacts F64} {stamp : Int} {p : ContactPair}

theorem sightings_concat :
  sightings (batches ++ [batch]) p =
    if messageGrouping.recordsOf p batch.contacts = [] then sightings batches p
    else sightings batches p ++ [(batch.stamp, messageGrouping.recordsOf p batch.contacts)]
  := by
  unfold sightings
  rw [List.map_append, List.filter_append, List.map_cons, List.map_nil]
  split
  · rename_i h
    simp [h]
  · rename_i h
    simp [h]

@[simp]
theorem activeAt_nil :
  activeAt ([] : List (Contacts F64)) stamp p = none
  := rfl

/-- The active set at the stamp of a further batch. -/
theorem activeAt_concat (h : stamp ≤ batch.stamp) :
  activeAt (batches ++ [batch]) batch.stamp p =
    if messageGrouping.recordsOf p batch.contacts = [] then
      (activeAt batches stamp p).filter fun a =>
        batch.stamp - a.lastSeenStampNs ≤ kContactReleaseGapNs
    else
      some { toRecordGroup := messageGrouping.group (messageGrouping.recordsOf p batch.contacts)
             lastSeenStampNs := batch.stamp }
  := by
  unfold activeAt
  rw [sightings_concat]
  split
  · cases hlast : (sightings batches p).getLast? with
    | none => rfl
    | some sighting =>
        simp only [Option.filter_some, decide_eq_true_eq]
        by_cases hnew : batch.stamp - sighting.1 ≤ kContactReleaseGapNs
        · have hold : stamp - sighting.1 ≤ kContactReleaseGapNs := by omega
          rw [if_pos hnew, if_pos hold, Option.map_some, Option.filter_some,
            if_pos (decide_eq_true hnew)]
        · rw [if_neg hnew]
          split
          · rw [Option.map_some, Option.filter_some, decide_eq_false hnew]
            rfl
          · rfl
  · have hgap : (0 : Int) ≤ kContactReleaseGapNs := by decide
    simp [hgap]

end Sightings

/-! ### Traces -/

/-- What a gate was called with and has answered. -/
abbrev GateTrace (F64 : Type) := List (GateCall F64 × ContactGateDecision F64)

/-- The messages of a trace. -/
def messages (trace : GateTrace F64) : List (Contacts F64) :=
  trace.filterMap fun e =>
    match e.1 with
    | .observe message => some message
    | .clock _ => none

/-- The snapshots that were published. -/
def snapshots (trace : GateTrace F64) : List (Contacts F64) :=
  trace.filterMap fun e => e.2.output

/-- Every message was accepted. -/
def Accepted (trace : GateTrace F64) : Prop :=
  ∀ e ∈ trace, ∀ message, e.1 = .observe message → e.2.fatal = false

/-- The batches that were finalized after the first one. -/
def completedBatches (trace : GateTrace F64) : List (Contacts F64) :=
  (messages trace).dropLast.tail

/-- The stamp of the last finalized batch. -/
def completedStamp (trace : GateTrace F64) : Int :=
  ((messages trace).dropLast.getLast?.map Contacts.stamp).getD 0

/-- The pairs of a snapshot. -/
def Contacts.hasPair (message : Contacts F64) (p : ContactPair) : Prop :=
  ∃ contact ∈ message.contacts, contact.pair = p

/-- A message and the one after it. -/
def Follows (message message' : Contacts F64) : Prop :=
  message.stamp < message'.stamp ∧
    message'.stamp - message.stamp ≤ kPrivateContactAggregatePeriodNs

variable [Binary64Tests F64]

/-- The header and the contacts of an accepted message. -/
structure Contacts.Received (message : Contacts F64) : Prop where
  stamp : stampNs message.header = some message.stamp
  admissible : message.Admissible

/-- The state after a trace in which every message was accepted. -/
structure Gated (trace : GateTrace F64) (policy : ContactStreamPolicy F64) : Prop where
  received : ∀ message ∈ messages trace, message.Received
  follows : (messages trace).IsChain Follows
  raw : policy.lastRawStampNs = (messages trace).getLast?.map Contacts.stamp
  pending : policy.pendingBatch =
    (messages trace).getLast?.map fun message =>
      pendingOf message (validatedOf message message.contacts)
  synchronized : policy.synchronized = decide (2 ≤ (messages trace).length)
  active : ∀ p, policy.activePairs[p]? = activeAt (completedBatches trace) (completedStamp trace) p
  forward : policy.lastForwardStampNs = (snapshots trace).getLast?.map Contacts.stamp
  silent : completedBatches trace = [] → snapshots trace = []
  published : completedBatches trace ≠ [] → ∃ snapshot, (snapshots trace).getLast? = some snapshot ∧
    (∀ p, (activeAt (completedBatches trace) (completedStamp trace) p).isSome = true ↔
      snapshot.hasPair p) ∧
    snapshot.stamp ≤ completedStamp trace ∧
    completedStamp trace - snapshot.stamp < kContactHeartbeatPeriodNs
  spaced : (snapshots trace).IsChain fun snapshot snapshot' =>
    snapshot.stamp < snapshot'.stamp ∧ snapshot'.stamp - snapshot.stamp < kMaxPublicSnapshotGapNs

theorem Gated.initial :
  Gated ([] : GateTrace F64) {}
  := by
  constructor
  · exact fun message h => absurd h List.not_mem_nil
  · exact .nil
  · rfl
  · rfl
  · rfl
  · exact fun p => rfl
  · rfl
  · exact fun _ => rfl
  · exact fun h => absurd rfl h
  · exact .nil

/-! ### Finalizing a batch -/

section Finalize

variable {policy : ContactStreamPolicy F64} {message : Contacts F64}

/-- The batch of an accepted message. -/
def batchOf (message : Contacts F64) : PendingBatch F64 :=
  pendingOf message (validatedOf message message.contacts)

/-- The active set after the batch of a message. -/
def nextActive (policy : ContactStreamPolicy F64) (message : Contacts F64) :
    PairMap (ActivePair F64) :=
  updateActive policy.activePairs (batchOf message) message.stamp
    (expiredPairs policy.activePairs (batchOf message) message.stamp)

/-- A snapshot is due after the batch of a message: it is the first one, or the pairs differ, or the
last one is 200 ms old. -/
def Due (policy : ContactStreamPolicy F64) (message : Contacts F64) : Prop :=
  ∀ last, policy.lastForwardStampNs = some last →
    (∃ p : ContactPair, policy.activePairs[p]?.isSome ≠ (nextActive policy message)[p]?.isSome) ∨
      kContactHeartbeatPeriodNs ≤ message.stamp - last

omit [Binary64Tests F64] in
theorem getElem?_nextActive {p : ContactPair} :
  (nextActive policy message)[p]? =
    if messageGrouping.recordsOf p message.contacts = [] then
      policy.activePairs[p]?.filter fun a =>
        message.stamp - a.lastSeenStampNs ≤ kContactReleaseGapNs
    else
      some { toRecordGroup := messageGrouping.group (messageGrouping.recordsOf p message.contacts)
             lastSeenStampNs := message.stamp }
  := by
  unfold nextActive
  rw [getElem?_updateActive]
  have hpairs : (batchOf message).pairs = messageGrouping.groups message.contacts := rfl
  rw [hpairs, Grouping.getElem?_groups]
  split
  · rename_i group hgroup
    split at hgroup
    · cases hgroup
    · rename_i hne
      rw [if_neg hne, Option.some.inj hgroup]
  · rename_i hgroup
    split at hgroup
    · rename_i hnil
      rw [if_pos hnil]
    · cases hgroup

omit [Binary64Tests F64] in
theorem length_flatMap_records (active : PairMap (ActivePair F64)) :
  (active.toList.flatMap fun e => e.2.records).length =
    SortedMap.total (fun e => e.2.records.length) active
  := List.length_flatMap

/-- A snapshot after a batch has the records of the batch, so it is not empty. -/
theorem nextActive_records_ne_nil (h : message.Received) :
  ((nextActive policy message).toList.flatMap fun e => e.2.records) ≠ []
  := by
  obtain ⟨contact, hcontact⟩ := List.exists_mem_of_ne_nil _ h.admissible.nonempty
  have hown : messageGrouping.recordsOf contact.pair message.contacts ≠ [] := by
    rw [ne_eq, Grouping.recordsOf_eq_nil_iff]
    intro hall
    exact hall contact hcontact rfl
  have hentry := @getElem?_nextActive F64 policy message contact.pair
  rw [if_neg hown, ← Std.ExtTreeMap.mem_toList_iff_getElem?_eq_some] at hentry
  obtain ⟨record, hrecord⟩ := List.exists_mem_of_ne_nil _ hown
  apply List.ne_nil_of_mem (a := record)
  rw [List.mem_flatMap]
  refine ⟨_, hentry, ?_⟩
  change record ∈ (messageGrouping.group _).records
  rw [Grouping.group, List.mem_map]
  exact ⟨record, hrecord, rfl⟩

omit [Binary64Tests F64] in
/-- A decision without an output is passed on. -/
theorem publish_of_none {decision : ContactGateDecision F64} {completed : Int}
    (h : decision.output = none) :
  policy.publish completed decision = (decision, policy)
  := by
  unfold publish
  rw [h]

omit [Binary64Tests F64] in
/-- A snapshot within the bounds is published. -/
theorem publish_of_some {decision : ContactGateDecision F64} {completed : Int}
    {output : Contacts F64} (h : decision.output = some output) (hnonempty : output.contacts ≠ [])
    (hcount : output.contacts.length ≤ kMaxActiveContactRecords) :
  policy.publish completed decision =
    (decision, { policy with lastForwardStampNs := some completed })
  := by
  unfold publish
  rw [h]
  dsimp only
  rw [if_neg]
  simp [hnonempty, hcount]

/-- What finalizing a batch after the first one does: it exceeds a bound of the active set, or a
pair of the batch is fatal, or the active set is updated and published when this is due. -/
theorem complete_cases (h : message.Received)
    (hnear : ∀ last, policy.lastForwardStampNs = some last →
      message.stamp - last < kMaxPublicSnapshotGapNs) :
  (∃ detail ∈ [GateDetail.activePairs, .activeRecords, .activeStrings],
    policy.complete (batchOf message) message.stamp = (.structural detail, policy)) ∨
  ((batchOf message).semanticFatal = true ∧
    (policy.complete (batchOf message) message.stamp).1.fatal = true ∧
    (policy.complete (batchOf message) message.stamp).1.detail = (batchOf message).fatalDetail) ∨
  ((batchOf message).semanticFatal = false ∧
    (policy.complete (batchOf message) message.stamp).1.fatal = false ∧
    (policy.complete (batchOf message) message.stamp).1.detail = none ∧
    (Due policy message ∧
      (policy.complete (batchOf message) message.stamp).1.output =
        some { header := message.header
               contacts := (nextActive policy message).toList.flatMap fun e => e.2.records } ∧
      (policy.complete (batchOf message) message.stamp).2 =
        { policy with
          activePairs := nextActive policy message
          lastForwardStampNs := some message.stamp } ∨
    ¬ Due policy message ∧
      (policy.complete (batchOf message) message.stamp).1.output = none ∧
      (policy.complete (batchOf message) message.stamp).2 =
        { policy with activePairs := nextActive policy message }))
  := by
  have hgap : policy.lastForwardStampNs.filter
      (message.stamp - · > kMaxPublicSnapshotGapNs) = none := by
    rw [Option.filter_eq_none_iff]
    intro last hlast
    simp only [decide_eq_true_eq, gt_iff_lt, not_lt]
    exact (hnear last hlast).le
  have hexpired := @project_expired F64 policy.activePairs (batchOf message) message.stamp
  have hrecords := (@project_spec F64 policy.activePairs (batchOf message) message.stamp).1
  have hchanged := @project_changed_iff F64 policy.activePairs (batchOf message) message.stamp
  have hnonempty := @nextActive_records_ne_nil F64 _ policy message h
  have hlength := length_flatMap_records (nextActive policy message)
  unfold ContactStreamPolicy.complete
  rw [hgap]
  dsimp only
  split
  · exact .inl ⟨.activePairs, by simp, rfl⟩
  · split
    · exact .inl ⟨.activeRecords, by simp, rfl⟩
    · rename_i hcount
      split
      · exact .inl ⟨.activeStrings, by simp, rfl⟩
      · rw [hexpired]
        change _ = SortedMap.total _ (nextActive policy message) at hrecords
        rw [hrecords, ← hlength, gt_iff_lt, not_lt] at hcount
        refine .inr ?_
        change _ ↔ ∃ p : ContactPair, policy.activePairs[p]?.isSome ≠
          (nextActive policy message)[p]?.isSome at hchanged
        unfold ContactStreamPolicy.forward
        dsimp only
        cases hsemantic : (batchOf message).semanticFatal with
        | true =>
            rw [if_pos rfl, publish_of_some rfl hnonempty hcount]
            exact .inl ⟨rfl, rfl, rfl⟩
        | false =>
            refine .inr ⟨rfl, ?_⟩
            rw [if_neg Bool.false_ne_true]
            split
            · rename_i hlast
              rw [publish_of_some rfl hnonempty hcount]
              refine ⟨rfl, rfl, .inl ⟨?_, rfl, rfl⟩⟩
              intro last hlast'
              rw [hlast] at hlast'
              cases hlast'
            · rename_i last hlast
              have hdue : Due policy message ↔
                  (project policy.activePairs (batchOf message) message.stamp).pairSetChanged =
                    true ∨
                    kContactHeartbeatPeriodNs ≤ message.stamp - last := by
                rw [hchanged]
                constructor
                · intro hdue
                  exact hdue last hlast
                · rintro hdue last' hlast'
                  rw [hlast, Option.some.injEq] at hlast'
                  subst hlast'
                  exact hdue
              split
              · rename_i hpairs
                rw [publish_of_some rfl hnonempty hcount]
                exact ⟨rfl, rfl, .inl ⟨hdue.mpr (.inl hpairs), rfl, rfl⟩⟩
              · rename_i hpairs
                split
                · rename_i hheartbeat
                  rw [publish_of_some rfl hnonempty hcount]
                  exact ⟨rfl, rfl, .inl ⟨hdue.mpr (.inr hheartbeat), rfl, rfl⟩⟩
                · rename_i hheartbeat
                  rw [publish_of_none rfl]
                  refine ⟨rfl, rfl, .inr ⟨?_, rfl, rfl⟩⟩
                  rw [hdue]
                  rintro (hpairs' | hheartbeat')
                  · exact hpairs hpairs'
                  · exact hheartbeat hheartbeat'

end Finalize

/-! ### One call -/

section Calls

variable {trace : GateTrace F64} {policy policy' : ContactStreamPolicy F64}
  {message : Contacts F64} {d : ContactGateDecision F64} {stamp : Int}

omit [Binary64Tests F64] in
theorem messages_observe :
  messages (trace ++ [(.observe message, d)]) = messages trace ++ [message]
  := by
  simp [messages]

omit [Binary64Tests F64] in
theorem messages_clock :
  messages (trace ++ [(.clock stamp, d)]) = messages trace
  := by
  simp [messages]

omit [Binary64Tests F64] in
theorem snapshots_concat {call : GateCall F64} :
  snapshots (trace ++ [(call, d)]) = snapshots trace ++ d.output.toList
  := by
  unfold snapshots
  rw [List.filterMap_append]
  cases h : d.output with
  | none => simp [h]
  | some output => simp [h]

omit [Binary64Tests F64] in
theorem accepted_append {trace' : GateTrace F64} :
  Accepted (trace ++ trace') ↔ Accepted trace ∧ Accepted trace'
  := by
  simp [Accepted, or_imp, forall_and]

omit [Binary64Tests F64] in
/-- A call of the clock has no output, and changes nothing but the last stamp of the clock. -/
theorem observeClock_frame (h : policy.observeClock stamp = (d, policy')) :
  d.output = none ∧ (policy' = policy ∨ policy' = { policy with lastClockStampNs := some stamp })
  := by
  unfold observeClock at h
  grind [ContactGateDecision.structural]

theorem Gated.clock (h : Gated trace policy) (hcall : policy.observeClock stamp = (d, policy')) :
  Gated (trace ++ [(.clock stamp, d)]) policy'
  := by
  obtain ⟨houtput, hpolicy⟩ := observeClock_frame hcall
  have hsnapshots : snapshots (trace ++ [(.clock stamp, d)]) = snapshots trace := by
    rw [snapshots_concat, houtput]
    exact List.append_nil _
  have hbatches : completedBatches (trace ++ [(.clock stamp, d)]) = completedBatches trace := by
    unfold completedBatches
    rw [messages_clock]
  have hcompleted : completedStamp (trace ++ [(.clock stamp, d)]) = completedStamp trace := by
    unfold completedStamp
    rw [messages_clock]
  constructor
  · rw [messages_clock]
    exact h.received
  · rw [messages_clock]
    exact h.follows
  · rw [messages_clock, ← h.raw]
    rcases hpolicy with rfl | rfl
    · rfl
    · rfl
  · rw [messages_clock, ← h.pending]
    rcases hpolicy with rfl | rfl
    · rfl
    · rfl
  · rw [messages_clock, ← h.synchronized]
    rcases hpolicy with rfl | rfl
    · rfl
    · rfl
  · rw [hbatches, hcompleted]
    rcases hpolicy with rfl | rfl
    · exact h.active
    · exact h.active
  · rw [hsnapshots, ← h.forward]
    rcases hpolicy with rfl | rfl
    · rfl
    · rfl
  · rw [hbatches, hsnapshots]
    exact h.silent
  · rw [hbatches, hcompleted, hsnapshots]
    exact h.published
  · rw [hsnapshots]
    exact h.spaced

/-- The last message follows the last finalized batch. -/
theorem Gated.follows_completed (h : Gated trace policy) {init : List (Contacts F64)}
    (hinit : init ≠ []) (hmessages : messages trace = init ++ [message]) :
  completedStamp trace < message.stamp ∧
    message.stamp - completedStamp trace ≤ kPrivateContactAggregatePeriodNs
  := by
  rcases List.eq_nil_or_concat init with rfl | ⟨init, previous, rfl⟩
  · exact absurd rfl hinit
  · rw [List.concat_eq_append] at hmessages
    have hfollows := h.follows
    rw [hmessages, List.isChain_append] at hfollows
    have hcompleted : completedStamp trace = previous.stamp := by
      unfold completedStamp
      rw [hmessages, List.dropLast_concat, List.getLast?_concat]
      rfl
    rw [hcompleted]
    exact hfollows.2.2 previous List.getLast?_concat message rfl

/-- The last message is less than 220 ms after the last snapshot. -/
theorem Gated.near (h : Gated trace policy) {init : List (Contacts F64)}
    (hmessages : messages trace = init ++ [message]) :
  ∀ last, policy.lastForwardStampNs = some last →
    message.stamp - last < kMaxPublicSnapshotGapNs
  := by
  have hbatches : completedBatches trace = init.tail := by
    unfold completedBatches
    rw [hmessages, List.dropLast_concat]
  intro last hlast
  by_cases hempty : completedBatches trace = []
  · rw [h.forward, h.silent hempty] at hlast
    cases hlast
  · obtain ⟨snapshot, hsnapshot, -, -, hheartbeat⟩ := h.published hempty
    rw [h.forward, hsnapshot, Option.map_some, Option.some.injEq] at hlast
    have hinit : init ≠ [] := by
      rintro rfl
      exact hempty hbatches
    obtain ⟨-, hgap⟩ := h.follows_completed hinit hmessages
    rw [← hlast]
    unfold kPrivateContactAggregatePeriodNs at hgap
    unfold kContactHeartbeatPeriodNs at hheartbeat
    unfold kMaxPublicSnapshotGapNs
    omega

/-- The last snapshot was published before the last message. -/
theorem Gated.forward_lt (h : Gated trace policy) {init : List (Contacts F64)} (hinit : init ≠ [])
    (hmessages : messages trace = init ++ [message]) :
  ∀ last, policy.lastForwardStampNs = some last → last < message.stamp
  := by
  intro last hlast
  by_cases hempty : completedBatches trace = []
  · rw [h.forward, h.silent hempty] at hlast
    cases hlast
  · obtain ⟨snapshot, hsnapshot, -, hle, -⟩ := h.published hempty
    rw [h.forward, hsnapshot, Option.map_some, Option.some.injEq] at hlast
    rw [← hlast]
    exact hle.trans_lt (h.follows_completed hinit hmessages).1

/-- What finalizing does, by the number of messages that were accepted. -/
theorem Gated.finalize_cases (h : Gated trace policy) :
  (messages trace = [] ∧ policy.finalizePending = ({}, policy)) ∨
  (∃ message, messages trace = [message] ∧
    policy.finalizePending =
      if (batchOf message).semanticFatal then
        ({ fatal := true, reason := .fatalSemanticInput, detail := (batchOf message).fatalDetail },
          { policy with pendingBatch := none })
      else ({}, { policy with pendingBatch := none, synchronized := true })) ∨
  ∃ init message, init ≠ [] ∧ messages trace = init ++ [message] ∧ message.Received ∧
    policy.finalizePending =
      { policy with pendingBatch := none }.complete (batchOf message) message.stamp
  := by
  unfold finalizePending
  rcases List.eq_nil_or_concat (messages trace) with hnil | ⟨init, message, hmessages⟩
  · refine .inl ⟨hnil, ?_⟩
    rw [h.pending, hnil]
    rfl
  · rw [List.concat_eq_append] at hmessages
    have hreceived : message.Received := by
      apply h.received
      rw [hmessages]
      simp
    have hpending : policy.pendingBatch = some (batchOf message) := by
      rw [h.pending, hmessages, List.getLast?_concat]
      rfl
    have hstamp : stampNs (batchOf message).header = some message.stamp := hreceived.stamp
    rw [hpending]
    dsimp only
    rw [hstamp]
    dsimp only
    rw [h.synchronized, hmessages]
    cases init with
    | nil => exact .inr (.inl ⟨message, rfl, rfl⟩)
    | cons first init =>
        refine .inr (.inr ⟨first :: init, message, by simp, rfl, hreceived, ?_⟩)
        rw [if_pos]
        simp

omit [Binary64Tests F64] in
theorem checkHeader_eq_ok_iff :
  policy.checkHeader message = .ok stamp ↔
    stampNs message.header = some stamp ∧ 0 < stamp ∧
    (∀ last, policy.lastRawStampNs = some last →
      last < stamp ∧ stamp - last ≤ kPrivateContactAggregatePeriodNs) ∧
    message.header.frameId = ""
  := by
  unfold checkHeader
  grind [Except.bind_eq_ok_iff]

/-- What an accepted message does. -/
theorem observe_accepted (hcall : policy.observe message = (d, policy')) (hd : d.fatal = false) :
  message.Received ∧ policy.checkHeader message = .ok message.stamp ∧
  policy.finalizePending.1 = d ∧
  policy' = { policy.finalizePending.2 with
    pendingBatch := some (batchOf message), lastRawStampNs := some message.stamp }
  := by
  unfold ContactStreamPolicy.observe at hcall
  split at hcall
  · rw [← (Prod.mk.inj hcall).1] at hd
    cases hd
  · rename_i incoming hheader
    obtain ⟨hstamp, -, -, hframe⟩ := checkHeader_eq_ok_iff.mp hheader
    have hincoming : message.stamp = incoming := by
      unfold Contacts.stamp
      rw [hstamp]
      rfl
    split at hcall
    · rw [← (Prod.mk.inj hcall).1] at hd
      cases hd
    · rename_i validated hvalidate
      rw [validateMessage_eq_ok_iff] at hvalidate
      · obtain ⟨hadmissible, rfl⟩ := hvalidate
        dsimp only at hcall
        split at hcall
        · rename_i hfatal
          rw [← (Prod.mk.inj hcall).1, hfatal] at hd
          cases hd
        · obtain ⟨rfl, rfl⟩ := Prod.mk.inj hcall
          rw [hincoming]
          exact ⟨⟨by rw [hstamp, hincoming], hadmissible⟩, hheader, rfl, rfl⟩
      · rw [hframe]
        exact Nat.zero_le _

omit [Binary64Tests F64] in
theorem completedBatches_observe :
  completedBatches (trace ++ [(.observe message, d)]) = (messages trace).tail
  := by
  unfold completedBatches
  rw [messages_observe, List.dropLast_concat]

omit [Binary64Tests F64] in
theorem completedStamp_observe :
  completedStamp (trace ++ [(.observe message, d)]) =
    ((messages trace).getLast?.map Contacts.stamp).getD 0
  := by
  unfold completedStamp
  rw [messages_observe, List.dropLast_concat]

/-- The parts of the state that do not concern the active set. -/
theorem Gated.concat (h : Gated trace policy) (hmessage : message.Received)
    (hheader : policy.checkHeader message = .ok message.stamp)
    (hraw : policy'.lastRawStampNs = some message.stamp)
    (hpending : policy'.pendingBatch = some (batchOf message))
    (hsynchronized : policy'.synchronized = !(messages trace).isEmpty)
    (hactive : ∀ p, policy'.activePairs[p]? =
      activeAt (messages trace).tail (((messages trace).getLast?.map Contacts.stamp).getD 0) p)
    (hforward : policy'.lastForwardStampNs =
      (snapshots trace ++ d.output.toList).getLast?.map Contacts.stamp)
    (hsilent : (messages trace).tail = [] → snapshots trace ++ d.output.toList = [])
    (hpublished : (messages trace).tail ≠ [] → ∃ snapshot,
      (snapshots trace ++ d.output.toList).getLast? = some snapshot ∧
      (∀ p, policy'.activePairs[p]?.isSome = true ↔ snapshot.hasPair p) ∧
      snapshot.stamp ≤ ((messages trace).getLast?.map Contacts.stamp).getD 0 ∧
      ((messages trace).getLast?.map Contacts.stamp).getD 0 - snapshot.stamp <
        kContactHeartbeatPeriodNs)
    (hspaced : (snapshots trace ++ d.output.toList).IsChain fun snapshot snapshot' =>
      snapshot.stamp < snapshot'.stamp ∧
        snapshot'.stamp - snapshot.stamp < kMaxPublicSnapshotGapNs) :
  Gated (trace ++ [(.observe message, d)]) policy'
  := by
  obtain ⟨-, -, hgap, -⟩ := checkHeader_eq_ok_iff.mp hheader
  constructor
  · intro m hm
    rw [messages_observe] at hm
    rcases List.mem_append.mp hm with hm | hm
    · exact h.received m hm
    · rw [List.mem_singleton.mp hm]
      exact hmessage
  · rw [messages_observe]
    apply h.follows.append (List.isChain_singleton _)
    intro last hlast next hnext
    rw [List.head?_cons, Option.mem_some_iff] at hnext
    rw [← hnext]
    apply hgap
    rw [h.raw, Option.mem_def.mp hlast]
    rfl
  · rw [messages_observe, List.getLast?_concat]
    exact hraw
  · rw [messages_observe, List.getLast?_concat]
    exact hpending
  · rw [messages_observe, hsynchronized]
    cases messages trace with
    | nil => rfl
    | cons first rest => simp
  · rw [completedBatches_observe, completedStamp_observe]
    exact hactive
  · rw [snapshots_concat]
    exact hforward
  · rw [completedBatches_observe, snapshots_concat]
    exact hsilent
  · rw [completedBatches_observe, completedStamp_observe, snapshots_concat]
    simp only [← hactive]
    exact hpublished
  · rw [snapshots_concat]
    exact hspaced

omit [Binary64Tests F64] in
/-- An active pair has records, and they are all about the pair. -/
theorem activeAt_records {batches : List (Contacts F64)} {p : ContactPair} {a : ActivePair F64}
    (h : activeAt batches stamp p = some a) :
  a.records ≠ [] ∧ ∀ contact ∈ a.records, contact.pair = p
  := by
  unfold activeAt at h
  obtain ⟨sighting, hsighting, rfl⟩ := Option.map_eq_some_iff.mp h
  rw [Option.filter_eq_some_iff] at hsighting
  have hmem := List.mem_of_getLast? hsighting.1
  unfold sightings at hmem
  rw [List.mem_filter, List.mem_map] at hmem
  obtain ⟨⟨batch, -, rfl⟩, hnonempty⟩ := hmem
  have hrecords : (messageGrouping.group
      (messageGrouping.recordsOf p batch.contacts)).records =
      messageGrouping.recordsOf p batch.contacts := List.map_id _
  dsimp only
  rw [hrecords]
  refine ⟨by simpa using hnonempty, ?_⟩
  intro contact hcontact
  unfold Grouping.recordsOf at hcontact
  exact of_decide_eq_true (List.mem_filter.mp hcontact).2

omit [Binary64Tests F64] in
/-- The pairs of a snapshot of an active set are those of the set. -/
theorem hasPair_snapshot {active : PairMap (ActivePair F64)} {header : Header} {p : ContactPair}
    (h : ∀ (p : ContactPair) a, active[p]? = some a →
      a.records ≠ [] ∧ ∀ contact ∈ a.records, contact.pair = p) :
  Contacts.hasPair { header, contacts := active.toList.flatMap fun e => e.2.records } p ↔
    active[p]?.isSome = true
  := by
  unfold Contacts.hasPair
  simp only [List.mem_flatMap]
  constructor
  · rintro ⟨contact, ⟨⟨q, a⟩, hentry, hcontact⟩, rfl⟩
    rw [Std.ExtTreeMap.mem_toList_iff_getElem?_eq_some] at hentry
    rw [(h q a hentry).2 contact hcontact, hentry]
    rfl
  · intro hsome
    obtain ⟨a, ha⟩ := Option.isSome_iff_exists.mp hsome
    obtain ⟨hne, hpair⟩ := h p a ha
    obtain ⟨contact, hcontact⟩ := List.exists_mem_of_ne_nil _ hne
    exact ⟨contact, ⟨(p, a), Std.ExtTreeMap.mem_toList_iff_getElem?_eq_some.mpr ha, hcontact⟩,
      hpair contact hcontact⟩

/-- The active set after the last message. -/
theorem Gated.active_next (h : Gated trace policy) {init : List (Contacts F64)} (hinit : init ≠ [])
    (hmessages : messages trace = init ++ [message]) (p : ContactPair) :
  (nextActive policy message)[p]? = activeAt (messages trace).tail message.stamp p
  := by
  have hle := (h.follows_completed hinit hmessages).1.le
  have hbatches : completedBatches trace = init.tail := by
    unfold completedBatches
    rw [hmessages, List.dropLast_concat]
  rw [getElem?_nextActive, hmessages, List.tail_append_of_ne_nil hinit, activeAt_concat hle,
    h.active, hbatches]

/-- Up to the second message no batch is completed. -/
theorem Gated.concat_idle (h : Gated trace policy) (hmessage : message.Received)
    (hheader : policy.checkHeader message = .ok message.stamp)
    (hidle : (messages trace).tail = []) (houtput : d.output = none)
    (hraw : policy'.lastRawStampNs = some message.stamp)
    (hpending : policy'.pendingBatch = some (batchOf message))
    (hsynchronized : policy'.synchronized = !(messages trace).isEmpty)
    (hactive : policy'.activePairs = policy.activePairs)
    (hforward : policy'.lastForwardStampNs = policy.lastForwardStampNs) :
  Gated (trace ++ [(.observe message, d)]) policy'
  := by
  have hbatches : completedBatches trace = [] := by
    unfold completedBatches
    rw [List.tail_dropLast, hidle]
    rfl
  have hsilent : snapshots trace ++ d.output.toList = [] := by
    rw [h.silent hbatches, houtput]
    rfl
  apply h.concat hmessage hheader hraw hpending hsynchronized
  · intro p
    rw [hactive, h.active, hbatches, hidle]
    rfl
  · rw [hsilent, hforward, h.forward, h.silent hbatches]
  · exact fun _ => hsilent
  · exact fun hne => absurd hidle hne
  · rw [hsilent]
    exact .nil

section Completed

variable {init : List (Contacts F64)} {last : Contacts F64}

/-- From the third message on the gate is synchronized. -/
theorem Gated.synchronized_of_append (h : Gated trace policy) (hinit : init ≠ [])
    (hmessages : messages trace = init ++ [last]) :
  policy.synchronized = !(messages trace).isEmpty
  := by
  rw [h.synchronized, hmessages]
  cases init with
  | nil => exact absurd rfl hinit
  | cons first init => simp

omit [Binary64Tests F64] in
theorem tail_ne_nil_of_append (hinit : init ≠ []) (hmessages : messages trace = init ++ [last]) :
  (messages trace).tail ≠ []
  := by
  rw [hmessages, List.tail_append_of_ne_nil hinit]
  simp

/-- The batch before the message is completed, and its snapshot is published. -/
theorem Gated.concat_published (h : Gated trace policy) (hmessage : message.Received)
    (hheader : policy.checkHeader message = .ok message.stamp) (hinit : init ≠ [])
    (hmessages : messages trace = init ++ [last])
    (houtput : d.output = some {
      header := last.header
      contacts := (nextActive policy last).toList.flatMap fun e => e.2.records }) :
  Gated (trace ++ [(.observe message, d)])
    { policy with
      activePairs := nextActive policy last
      lastForwardStampNs := some last.stamp
      pendingBatch := some (batchOf message)
      lastRawStampNs := some message.stamp }
  := by
  have hactive := h.active_next hinit hmessages
  have hlast : (messages trace).getLast? = some last := by
    rw [hmessages, List.getLast?_concat]
  apply h.concat hmessage hheader rfl rfl
  · exact h.synchronized_of_append hinit hmessages
  · intro p
    rw [hlast]
    exact hactive p
  · rw [houtput, Option.toList_some, List.getLast?_concat]
    rfl
  · exact fun hnil => absurd hnil (tail_ne_nil_of_append hinit hmessages)
  · intro _
    rw [houtput, Option.toList_some, List.getLast?_concat, hlast]
    refine ⟨_, rfl, ?_, ?_, ?_⟩
    · intro p
      rw [hasPair_snapshot]
      intro q a ha
      exact activeAt_records ((hactive q).symm.trans ha)
    · exact le_rfl
    · change last.stamp - last.stamp < _
      rw [sub_self]
      decide
  · rw [houtput, Option.toList_some]
    apply h.spaced.append (List.isChain_singleton _)
    intro previous hprevious snapshot hsnapshot
    rw [List.head?_cons, Option.mem_some_iff] at hsnapshot
    have hforward : policy.lastForwardStampNs = some previous.stamp := by
      rw [h.forward, Option.mem_def.mp hprevious]
      rfl
    rw [← hsnapshot]
    exact ⟨h.forward_lt hinit hmessages _ hforward, h.near hmessages _ hforward⟩

/-- When no snapshot is due, the last one has the active pairs and is recent. -/
theorem Gated.last_of_not_due (h : Gated trace policy) (hdue : ¬ Due policy last) :
  ∃ snapshot, (snapshots trace).getLast? = some snapshot ∧
    policy.lastForwardStampNs = some snapshot.stamp ∧
    (∀ p, (nextActive policy last)[p]?.isSome = true ↔ snapshot.hasPair p) ∧
    last.stamp - snapshot.stamp < kContactHeartbeatPeriodNs
  := by
  have hbatches : completedBatches trace ≠ [] := by
    intro hnil
    apply hdue
    intro last' hlast'
    rw [h.forward, h.silent hnil] at hlast'
    cases hlast'
  obtain ⟨snapshot, hsnapshot, hpairs, -, -⟩ := h.published hbatches
  have hforward : policy.lastForwardStampNs = some snapshot.stamp := by
    rw [h.forward, hsnapshot]
    rfl
  refine ⟨snapshot, hsnapshot, hforward, ?_, ?_⟩
  · intro p
    have hsame : policy.activePairs[p]?.isSome = (nextActive policy last)[p]?.isSome := by
      by_contra hne
      apply hdue
      intro last' _
      exact .inl ⟨p, hne⟩
    rw [← hpairs p, ← h.active, hsame]
  · by_contra hge
    apply hdue
    intro last' hlast'
    rw [hforward, Option.some.injEq] at hlast'
    rw [← hlast']
    exact .inr (not_lt.mp hge)

/-- The batch before the message is completed, and no snapshot is due. -/
theorem Gated.concat_kept (h : Gated trace policy) (hmessage : message.Received)
    (hheader : policy.checkHeader message = .ok message.stamp) (hinit : init ≠ [])
    (hmessages : messages trace = init ++ [last]) (hdue : ¬ Due policy last)
    (houtput : d.output = none) :
  Gated (trace ++ [(.observe message, d)])
    { policy with
      activePairs := nextActive policy last
      pendingBatch := some (batchOf message)
      lastRawStampNs := some message.stamp }
  := by
  have hlast : (messages trace).getLast? = some last := by
    rw [hmessages, List.getLast?_concat]
  obtain ⟨snapshot, hsnapshot, hforward, hpairs, hrecent⟩ := h.last_of_not_due hdue
  apply h.concat hmessage hheader rfl rfl
  · exact h.synchronized_of_append hinit hmessages
  · intro p
    rw [hlast]
    exact h.active_next hinit hmessages p
  · rw [houtput, Option.toList_none, List.append_nil]
    exact h.forward
  · exact fun hnil => absurd hnil (tail_ne_nil_of_append hinit hmessages)
  · intro _
    rw [houtput, Option.toList_none, List.append_nil, hlast]
    exact ⟨snapshot, hsnapshot, hpairs, (h.forward_lt hinit hmessages _ hforward).le, hrecent⟩
  · rw [houtput, Option.toList_none, List.append_nil]
    exact h.spaced

end Completed

/-- An accepted message keeps the state a function of the trace. -/
theorem Gated.observe (h : Gated trace policy) (hcall : policy.observe message = (d, policy'))
    (hd : d.fatal = false) :
  Gated (trace ++ [(.observe message, d)]) policy'
  := by
  obtain ⟨hmessage, hheader, hfinalize, rfl⟩ := observe_accepted hcall hd
  rcases h.finalize_cases with ⟨hnil, heq⟩ | ⟨first, hfirst, heq⟩ |
    ⟨init, last, hinit, hmessages, hlast, heq⟩
  · rw [heq] at hfinalize ⊢
    refine h.concat_idle hmessage hheader ?_ ?_ rfl rfl ?_ rfl rfl
    · rw [hnil]
      rfl
    · rw [← hfinalize]
    · rw [h.synchronized, hnil]
      rfl
  · cases hsemantic : (batchOf first).semanticFatal with
    | true =>
        rw [heq, hsemantic, if_pos rfl] at hfinalize
        rw [← hfinalize] at hd
        cases hd
    | false =>
        rw [heq, hsemantic, if_neg Bool.false_ne_true] at hfinalize ⊢
        refine h.concat_idle hmessage hheader ?_ ?_ rfl rfl ?_ rfl rfl
        · rw [hfirst]
          rfl
        · rw [← hfinalize]
        · rw [hfirst]
          rfl
  · rw [heq] at hfinalize ⊢
    rcases @complete_cases F64 _ { policy with pendingBatch := none } last hlast
      (h.near hmessages) with
      ⟨detail, -, hcomplete⟩ | ⟨-, hfatal, -⟩ | ⟨-, -, -, hpublish⟩
    · rw [hcomplete] at hfinalize
      rw [← hfinalize] at hd
      cases hd
    · rw [hfinalize, hd] at hfatal
      cases hfatal
    · rw [hfinalize] at hpublish
      rcases hpublish with ⟨-, houtput, hnext⟩ | ⟨hdue, houtput, hnext⟩
      · rw [hnext]
        exact h.concat_published hmessage hheader hinit hmessages houtput
      · rw [hnext]
        exact h.concat_kept hmessage hheader hinit hmessages hdue houtput

end Calls

/-! ### Reasons that no run meets -/

/-- The failures that finalizing a batch and reading the clock report about the gate's own state. -/
def GateDetail.isInternal : GateDetail → Bool
  | .lostStamp => true
  | .publicGap _ _ _ => true
  | .snapshotRecords => true
  | .clockLostStamp _ => true
  | _ => false

/-- A failure about what the gate was given. -/
def GateDetail.IsExternal (detail : GateDetail) : Prop :=
  detail.isInternal = false

theorem stopsFor_validateMessage {message : Contacts F64} :
  (validateMessage message).StopsFor GateDetail.IsExternal
  := by
  have hstring : ∀ error : GateDetail, error.IsExternal → ∀ bytes size,
      (chargeString error bytes size).StopsFor GateDetail.IsExternal := by
    intro error herror bytes size
    refine .bind (stopsFor_charge herror) fun contact => ?_
    exact .bind (stopsFor_charge herror) fun total => .ok _
  have hdetail : ∀ bytes (entry : Vector3 F64 × F64 × JointWrench F64),
      (validateDetail bytes entry).StopsFor GateDetail.IsExternal := by
    rintro bytes ⟨normal, depth, wrench⟩
    refine .ite (.error rfl) (.ite (.error rfl) ?_)
    exact .foldlM (hstring .wrenchStrings rfl)
  have hcontact : ∀ messageBytes (contact : Contact F64),
      (validateContact messageBytes contact).StopsFor GateDetail.IsExternal := by
    intro messageBytes contact
    refine .ite (.error rfl) (.bind (.foldlM (hstring .contactStrings rfl)) fun bytes => ?_)
    exact .ite (.error rfl) (.ite (.error rfl) (.foldlM hdetail))
  have hrecord : ∀ (result : ValidatedMessage F64) (contact : Contact F64),
      (validateRecord result contact).StopsFor GateDetail.IsExternal := by
    intro result contact
    refine .bind (hcontact _ _) fun bytes => ?_
    refine .bind (.ite (stopsFor_charge (by rfl)) (.ok _)) fun total => ?_
    refine .bind ?_ fun pairs => .ok _
    exact .ite (.error rfl) (.bind (stopsFor_charge (by rfl)) fun stringBytes => .ok _)
  exact .ite (.error rfl) (.ite (.error rfl) (.foldlM hrecord))

omit [Binary64Tests F64] in
theorem stopsFor_checkHeader {policy : ContactStreamPolicy F64} {message : Contacts F64} :
  (policy.checkHeader message).StopsFor GateDetail.IsExternal
  := by
  unfold checkHeader
  split
  · exact .error rfl
  · refine .ite (.error rfl) (.bind ?_ fun _ => .ite (.error rfl) (.ok _))
    split
    · exact .ok _
    · exact .ite (.error rfl) (.ite (.error rfl) (.ok _))

omit [Binary64Tests F64] in
/-- The first reason against a pair is one of the three. -/
theorem fatalDetail_isInternal {message : Contacts F64} {detail : GateDetail}
    (h : (batchOf message).fatalDetail = some detail) :
  detail ∈ [GateDetail.nonRobotPair, .unknownRobot, .malformedName]
  := by
  obtain ⟨contact, -, hcontact⟩ := List.exists_of_findSome?_eq_some h
  unfold Contact.semanticDetail semanticDetail at hcontact
  grind

/-- The reasons that finalizing stops for. -/
theorem Gated.finalize_detail {trace : GateTrace F64} {policy : ContactStreamPolicy F64}
    (h : Gated trace policy) {detail : GateDetail}
    (hdetail : policy.finalizePending.1.detail = some detail) :
  detail ∈ [GateDetail.activePairs, .activeRecords, .activeStrings, .nonRobotPair, .unknownRobot,
    .malformedName]
  := by
  rcases h.finalize_cases with ⟨-, heq⟩ | ⟨first, -, heq⟩ | ⟨init, last, -, hmessages, hlast, heq⟩
  · rw [heq] at hdetail
    cases hdetail
  · rw [heq] at hdetail
    split at hdetail
    · have := fatalDetail_isInternal hdetail
      simp only [List.mem_cons, List.not_mem_nil, or_false] at this ⊢
      tauto
    · cases hdetail
  · rw [heq] at hdetail
    rcases @complete_cases F64 _ { policy with pendingBatch := none } last hlast
      (h.near hmessages) with ⟨detail', hmem, hcomplete⟩ | ⟨-, -, hsemantic⟩ | ⟨-, -, hnone, -⟩
    · rw [hcomplete] at hdetail
      cases hdetail
      simp only [List.mem_cons, List.not_mem_nil, or_false] at hmem ⊢
      tauto
    · rw [hsemantic] at hdetail
      have := fatalDetail_isInternal hdetail
      simp only [List.mem_cons, List.not_mem_nil, or_false] at this ⊢
      tauto
    · rw [hnone] at hdetail
      cases hdetail

/-! ### Runs -/

section Runs

variable {trace : GateTrace F64} {policy policy' : ContactStreamPolicy F64}
  {message : Contacts F64} {d : ContactGateDecision F64}

/-- The state after a run in which every message was accepted. -/
theorem gated_of_run (h : Run ContactStreamPolicy.step {} trace policy)
    (haccepted : Accepted trace) :
  Gated trace policy
  := by
  have hstep : ∀ before (policy : ContactStreamPolicy F64) call d policy', Gated before policy →
      (∀ message, call = .observe message → d.fatal = false) →
      policy.step call = .ok (d, policy') → Gated (before ++ [(call, d)]) policy' := by
    intro before policy call d policy' hgated hallowed hcall
    cases call with
    | observe message => exact hgated.observe (Except.ok.inj hcall) (hallowed message rfl)
    | clock stamp => exact hgated.clock (Except.ok.inj hcall)
  exact h.history (fun e => ∀ message, e.1 = .observe message → e.2.fatal = false) Gated hstep []
    Gated.initial haccepted

/-- The last message has a snapshot when the next one is accepted: it is not the first one, and it
is the second one, or the pairs change, or the last snapshot is 200 ms old. -/
def SnapshotDue (trace : GateTrace F64) : Prop :=
  ∃ finalized, (messages trace).getLast? = some finalized ∧ 2 ≤ (messages trace).length ∧
    (completedBatches trace = [] ∨
    (∃ p, (activeAt (completedBatches trace) (completedStamp trace) p).isSome ≠
      (activeAt (messages trace).tail finalized.stamp p).isSome) ∨
    ∃ last, (snapshots trace).getLast? = some last ∧
      kContactHeartbeatPeriodNs ≤ finalized.stamp - last.stamp)

theorem Gated.due_iff (h : Gated trace policy) {init : List (Contacts F64)} (hinit : init ≠ [])
    (hmessages : messages trace = init ++ [message]) :
  Due { policy with pendingBatch := none } message ↔ SnapshotDue trace
  := by
  have hlast : (messages trace).getLast? = some message := by
    rw [hmessages, List.getLast?_concat]
  have hlength : 2 ≤ (messages trace).length := by
    rw [hmessages, List.length_append]
    have := List.length_pos_iff.mpr hinit
    simp only [List.length_singleton]
    omega
  have hactive := h.active_next hinit hmessages
  unfold Due SnapshotDue
  change (∀ last, policy.lastForwardStampNs = some last →
    (∃ p : ContactPair, policy.activePairs[p]?.isSome ≠ (nextActive policy message)[p]?.isSome) ∨
      kContactHeartbeatPeriodNs ≤ message.stamp - last) ↔ _
  simp only [hlast, Option.some.injEq, exists_eq_left', hlength, true_and, h.active, hactive,
    h.forward]
  constructor
  · intro hdue
    by_cases hempty : completedBatches trace = []
    · exact .inl hempty
    · obtain ⟨snapshot, hsnapshot, -⟩ := h.published hempty
      rcases hdue snapshot.stamp (by rw [hsnapshot]; rfl) with hpairs | hheartbeat
      · exact .inr (.inl hpairs)
      · exact .inr (.inr ⟨snapshot, hsnapshot, hheartbeat⟩)
  · rintro (hempty | hpairs | ⟨snapshot, hsnapshot, hheartbeat⟩) last hforward
    · rw [h.silent hempty] at hforward
      cases hforward
    · exact .inl hpairs
    · rw [hsnapshot, Option.map_some, Option.some.injEq] at hforward
      rw [← hforward]
      exact .inr hheartbeat

/-- An accepted message publishes exactly when a snapshot is due, and the snapshot lists the records
of the active pairs in their order. -/
theorem Gated.output (h : Gated trace policy) (hcall : policy.observe message = (d, policy'))
    (hd : d.fatal = false) :
  (d.output.isSome = true ↔ SnapshotDue trace) ∧
  ∀ output, d.output = some output → ∃ finalized, (messages trace).getLast? = some finalized ∧
    ∃ pairs : List ContactPair, pairs.Pairwise ContactPair.Precedes ∧
      (∀ p, p ∈ pairs ↔ (activeAt (messages trace).tail finalized.stamp p).isSome = true) ∧
      output =
        { header := finalized.header
          contacts := pairs.flatMap fun p =>
            ((activeAt (messages trace).tail finalized.stamp p).map fun a => a.records).getD [] }
  := by
  obtain ⟨-, -, hfinalize, -⟩ := observe_accepted hcall hd
  have hquiet : d.output = none → ¬ SnapshotDue trace →
      (d.output.isSome = true ↔ SnapshotDue trace) := by
    intro hnone hdue
    rw [hnone]
    refine ⟨?_, fun hdue' => absurd hdue' hdue⟩
    intro hsome
    cases hsome
  have hshort : d.output = none → (messages trace).length ≤ 1 →
      (d.output.isSome = true ↔ SnapshotDue trace) := by
    intro hnone hlength
    apply hquiet hnone
    rintro ⟨-, -, hlength', -⟩
    omega
  rcases h.finalize_cases with ⟨hnil, heq⟩ | ⟨first, hfirst, heq⟩ |
    ⟨init, last, hinit, hmessages, hlast, heq⟩
  · have hnone : d.output = none := by
      rw [← hfinalize, heq]
    refine ⟨hshort hnone (by simp [hnil]), ?_⟩
    rw [hnone]
    intro output houtput
    cases houtput
  · have hnone : d.output = none := by
      rw [← hfinalize, heq]
      split
      · rfl
      · rfl
    refine ⟨hshort hnone (by simp [hfirst]), ?_⟩
    rw [hnone]
    intro output houtput
    cases houtput
  · rw [heq] at hfinalize
    rw [← h.due_iff hinit hmessages] at hquiet ⊢
    rcases @complete_cases F64 _ { policy with pendingBatch := none } last hlast
      (h.near hmessages) with ⟨detail, -, hcomplete⟩ | ⟨-, hfatal, -⟩ | ⟨-, -, -, hpublish⟩
    · rw [hcomplete] at hfinalize
      rw [← hfinalize] at hd
      cases hd
    · rw [hfinalize, hd] at hfatal
      cases hfatal
    · rcases hpublish with ⟨hdue, houtput, -⟩ | ⟨hdue, houtput, -⟩
      · rw [hfinalize] at houtput
        refine ⟨⟨fun _ => hdue, fun _ => by rw [houtput]; rfl⟩, ?_⟩
        intro output hsome
        rw [houtput, Option.some.injEq] at hsome
        have hactive := h.active_next hinit hmessages
        refine ⟨last, by rw [hmessages, List.getLast?_concat],
          (nextActive policy last).toList.map Prod.fst, pairwise_precedes _, ?_, ?_⟩
        · intro p
          rw [SortedMap.mem_keys, hactive]
        · rw [← hsome]
          congr 1
          apply SortedMap.flatMap_toList
          intro p a ha
          change (nextActive policy last)[p]? = some a at ha
          rw [← hactive, ha]
          rfl
      · rw [hfinalize] at houtput
        refine ⟨hquiet houtput hdue, ?_⟩
        rw [houtput]
        intro output hsome
        cases hsome

omit [Binary64Tests F64] in
theorem clockLag_external {clock : Int} {detail : GateDetail}
    (hlost : ∀ batch, policy.pendingBatch = some batch → stampNs batch.header ≠ none)
    (h : policy.clockLag clock = some detail) :
  detail.IsExternal
  := by
  unfold clockLag at h
  rcases Option.or_eq_some_iff.mp h with hpending | ⟨-, hraw⟩
  · obtain ⟨batch, hbatch, hlag⟩ := Option.bind_eq_some_iff.mp hpending
    split at hlag
    · rename_i hnone
      exact absurd hnone (hlost batch hbatch)
    · grind [GateDetail.IsExternal, GateDetail.isInternal]
  · obtain ⟨last, -, hlag⟩ := Option.bind_eq_some_iff.mp hraw
    grind [GateDetail.IsExternal, GateDetail.isInternal]

/-- No call reports a failure of the gate's own state. -/
theorem Gated.external (h : Gated trace policy) {call : GateCall F64} {detail : GateDetail}
    (hcall : policy.step call = .ok (d, policy')) (hdetail : d.detail = some detail) :
  detail.IsExternal
  := by
  cases call with
  | clock stamp =>
      have hlost : ∀ batch, policy.pendingBatch = some batch → stampNs batch.header ≠ none := by
        intro batch hbatch
        rw [h.pending] at hbatch
        obtain ⟨message, hmessage, rfl⟩ := Option.map_eq_some_iff.mp hbatch
        have hstamp := (h.received message (List.mem_of_getLast? hmessage)).stamp
        change stampNs message.header ≠ none
        rw [hstamp]
        exact Option.some_ne_none _
      have hcall := Except.ok.inj hcall
      unfold observeClock at hcall
      split at hcall
      · rw [← (Prod.mk.inj hcall).1] at hdetail
        cases hdetail
        rfl
      · split at hcall
        · rw [← (Prod.mk.inj hcall).1] at hdetail
          cases hdetail
          rfl
        · dsimp only at hcall
          split at hcall
          · rename_i detail' hlag
            rw [← (Prod.mk.inj hcall).1] at hdetail
            cases hdetail
            exact clockLag_external hlost hlag
          · rw [← (Prod.mk.inj hcall).1] at hdetail
            cases hdetail
  | observe message =>
      have hcall := Except.ok.inj hcall
      unfold ContactStreamPolicy.observe at hcall
      split at hcall
      · rename_i detail' hheader
        rw [← (Prod.mk.inj hcall).1] at hdetail
        cases hdetail
        exact stopsFor_checkHeader detail hheader
      · split at hcall
        · rename_i detail' hvalidate
          rw [← (Prod.mk.inj hcall).1] at hdetail
          cases hdetail
          exact stopsFor_validateMessage detail hvalidate
        · have hfinalize : policy.finalizePending.1 = d := by
            dsimp only at hcall
            split at hcall
            · exact (Prod.mk.inj hcall).1
            · exact (Prod.mk.inj hcall).1
          rw [← hfinalize] at hdetail
          have hmem := h.finalize_detail hdetail
          simp only [List.mem_cons, List.not_mem_nil, or_false] at hmem
          rcases hmem with rfl | rfl | rfl | rfl | rfl | rfl <;> rfl

end Runs

/-- In every run in which every message is accepted, and with calls of the clock anywhere: the last
message is pending and the others were finalized, the first of them only to synchronize. The active
set is that of the finalized batches after the first one, and a snapshot is published exactly when
one is due, with the records of the active pairs in their order. So the last snapshot has the pairs
of the active set, snapshots are less than 220 ms apart, and no call fails for the gate's own
state. -/
theorem gate_active_set {trace : GateTrace F64} {policy : ContactStreamPolicy F64}
    (h : Run ContactStreamPolicy.step {} trace policy) (haccepted : Accepted trace) :
  policy.pendingBatch = (messages trace).getLast?.map batchOf ∧
  policy.synchronized = decide (2 ≤ (messages trace).length) ∧
  (∀ p, policy.activePairs[p]? = activeAt (completedBatches trace) (completedStamp trace) p) ∧
  (∀ before message d after, trace = before ++ (.observe message, d) :: after →
    (d.output.isSome = true ↔ SnapshotDue before) ∧
    ∀ output, d.output = some output → ∃ finalized, (messages before).getLast? = some finalized ∧
      ∃ pairs : List ContactPair, pairs.Pairwise ContactPair.Precedes ∧
        (∀ p, p ∈ pairs ↔ (activeAt (messages before).tail finalized.stamp p).isSome = true) ∧
        output =
          { header := finalized.header
            contacts := pairs.flatMap fun p =>
              ((activeAt (messages before).tail finalized.stamp p).map fun a =>
                a.records).getD [] }) ∧
  (∀ stamp d, (.clock stamp, d) ∈ trace → d.output = none) ∧
  (completedBatches trace ≠ [] → ∃ snapshot, (snapshots trace).getLast? = some snapshot ∧
    ∀ p : ContactPair, policy.activePairs[p]?.isSome = true ↔ snapshot.hasPair p) ∧
  ((snapshots trace).IsChain fun snapshot snapshot' =>
    snapshot.stamp < snapshot'.stamp ∧ snapshot'.stamp - snapshot.stamp < kMaxPublicSnapshotGapNs) ∧
  (∀ call d policy', policy.step call = .ok (d, policy') → ∀ detail, d.detail = some detail →
    detail.isInternal = false)
  := by
  have hgated := gated_of_run h haccepted
  refine ⟨hgated.pending, hgated.synchronized, hgated.active, ?_, ?_, ?_, hgated.spaced, ?_⟩
  · rintro before message d after rfl
    obtain ⟨policy₀, hbefore, hafter⟩ := Run.append_iff.mp h
    obtain ⟨policy₁, hstep, -⟩ := Run.cons_iff.mp hafter
    obtain ⟨haccepted₀, haccepted₁⟩ := accepted_append.mp haccepted
    exact (gated_of_run hbefore haccepted₀).output (Except.ok.inj hstep)
      (haccepted₁ _ List.mem_cons_self message rfl)
  · intro stamp d hmem
    obtain ⟨before, after, rfl⟩ := List.append_of_mem hmem
    obtain ⟨policy₀, -, hafter⟩ := Run.append_iff.mp h
    obtain ⟨policy₁, hstep, -⟩ := Run.cons_iff.mp hafter
    exact (observeClock_frame (Except.ok.inj hstep)).1
  · intro hne
    obtain ⟨snapshot, hsnapshot, hpairs, -⟩ := hgated.published hne
    refine ⟨snapshot, hsnapshot, ?_⟩
    intro p
    rw [hgated.active, hpairs]
  · intro call d policy' hcall detail hdetail
    exact hgated.external hcall hdetail

/-! ### A run -/

/-- A message with one contact of the robot, which has one position and no details. -/
def sampleMessage (nanosec : UInt32) (counterpart : String) : Contacts ℚ where
  header := { stamp := { sec := 0, nanosec } }
  contacts :=
    [{ collision1 := { name := "robotest::imu_link::imu_link_collision_collision" }
       collision2 := { name := counterpart }
       positions := [{ x := 1, y := 0, z := 0 }] }]

/-- Two contacts with a shelf and one with a wall, and a call of the clock. -/
def sampleCalls : List (GateCall ℚ) :=
  [.observe (sampleMessage 20000000 "shelf::link::collision"),
    .observe (sampleMessage 40000000 "shelf::link::collision"), .clock 50000000,
    .observe (sampleMessage 60000000 "shelf::link::collision"),
    .observe (sampleMessage 80000000 "wall::link::collision"),
    .observe (sampleMessage 100000000 "wall::link::collision")]

/-- A snapshot is published for the shelf, and another one for the wall that replaces it. -/
theorem gate_active_set_sample :
  ∃ (trace : GateTrace ℚ) (policy : ContactStreamPolicy ℚ),
    Run ContactStreamPolicy.step {} trace policy ∧ Accepted trace ∧
    trace.map (fun e => e.2.output.isSome) = [false, false, false, true, false, true] ∧
    (∀ p, policy.activePairs[p]? = activeAt (completedBatches trace) (completedStamp trace) p)
  := by
  cases hexec : Run.exec ContactStreamPolicy.step ({} : ContactStreamPolicy ℚ) sampleCalls with
  | error e => cases e
  | ok r =>
      obtain ⟨trace, policy⟩ := r
      have hrun := (Run.of_exec hexec).1
      have hfatal : (Run.exec ContactStreamPolicy.step ({} : ContactStreamPolicy ℚ)
          sampleCalls).toOption.map (fun r => r.1.all fun e => !e.2.fatal) = some true := by
        decide +kernel
      have hpublished : (Run.exec ContactStreamPolicy.step ({} : ContactStreamPolicy ℚ)
          sampleCalls).toOption.map (fun r => r.1.map fun e => e.2.output.isSome) =
          some [false, false, false, true, false, true] := by
        decide +kernel
      rw [hexec] at hfatal hpublished
      have haccepted : Accepted trace := by
        intro e he message _
        simpa using List.all_eq_true.mp (Option.some.inj hfatal) e he
      obtain ⟨-, -, hactive, -⟩ := gate_active_set hrun haccepted
      exact ⟨trace, policy, hrun, haccepted, Option.some.inj hpublished, hactive⟩

end Ros

end Collisions

end RobotestLab
