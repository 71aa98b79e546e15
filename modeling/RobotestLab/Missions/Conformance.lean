import RobotestLab.Faults.Replay
import RobotestLab.Missions.Agreement
import RobotestLab.Missions.FaultControl
import RobotestLab.Missions.FaultDriver

/-!
# The executor accepts what the proxy reports

The proxy answers a preload and an arm request with a response and an event, the fault driver
turns them into untyped values, and the executor checks these. What the proxy accepts passes all
the checks, except for the event of an arm request that is repeated later: it carries the stamp of
the repetition, while the executor expects the stamp of the commit (`outcomes_conform`).
-/

namespace RobotestLab

namespace Missions

open FaultProtocol

/-! ### Starts of faults -/

theorem plainString_of_all {s : String}
    (h : s.toList.all (fun c => 32 ≤ c.toNat && c.toNat ≤ 126 && c ≠ '"' && c ≠ '\\') = true) :
  Json.PlainString s
  := by
  intro c hc
  have hplain := List.all_eq_true.mp h c hc
  simp only [Bool.and_eq_true, decide_eq_true_eq] at hplain
  exact ⟨hplain.1.1.1, hplain.1.1.2, hplain.1.2, hplain.2⟩

theorem Parameters.plain {target mode : Int} {ps : List (String × Int)}
    (h : Parameters target mode ps) :
  Json.Plain (.obj (ps.map fun (name, value) => (name, .int value)))
  := by
  cases h with
  | empty hmode => simp [Json.Plain, Json.PlainMembers]
  | drift hx hyaw hrates =>
      simp only [List.map_cons, List.map_nil, Json.Plain, Json.PlainMembers, true_and, and_true]
      exact ⟨plainString_of_all (by decide), plainString_of_all (by decide)⟩

theorem FaultSpec.Valid.plain {f : FaultSpec} (h : f.Valid) :
  Json.Plain f.asDict
  := by
  have hid := plainString_of_matchesFaultId h.id
  have hparameters : Json.Plain f.parametersDict := h.parameters.plain
  simp only [FaultSpec.asDict, Json.Plain, Json.PlainMembers, hparameters, true_and, and_true]
  refine ⟨?_, ?_, hid, ?_, ?_, ?_, ?_, ?_, ?_⟩ <;> exact plainString_of_all (by decide)

theorem plain_content {faults : List FaultSpec} (h : ∀ f ∈ faults, f.Valid) :
  Json.Plain (content faults)
  := by
  have helements : Json.PlainElements (faults.map FaultSpec.asDict) := by
    induction faults with
    | nil => trivial
    | cons f faults ih =>
        refine ⟨(h f List.mem_cons_self).plain, ?_⟩
        apply ih
        intro g hg
        apply h g (List.mem_cons_of_mem _ hg)
  simp only [content, Json.Plain, Json.PlainMembers, helements, true_and, and_true]
  exact ⟨plainString_of_all (by decide), plainString_of_all (by decide)⟩

/-- Schedules with the same text have the same faults, as far as the text tells. -/
theorem asDict_of_dumps {faults faults' : List FaultSpec} (h : ∀ f ∈ faults, f.Valid)
    (h' : ∀ f ∈ faults', f.Valid) (hdumps : (content faults).dumps = (content faults').dumps) :
  faults.map FaultSpec.asDict = faults'.map FaultSpec.asDict
  := by
  have hparse := Json.parse_dumps (plain_content h)
  rw [hdumps, Json.parse_dumps (plain_content h')] at hparse
  have hcontent := (Option.some.inj hparse).symm
  simpa [content] using hcontent

variable {canonical : CanonicalSchedule}

/-- The faults of a canonical schedule match valid faults of the mission runner. -/
theorem matches_of_canonicalizeSchedule {lib : Libraries} {specs : List RobotestLab.FaultSpec}
    (h : canonicalizeSchedule lib specs = .ok canonical) :
  ∃ faults, (∀ f ∈ faults, f.Valid) ∧ List.Forall₂ Matches faults canonical.faults ∧
    canonical.bytes = (content faults).dumps
  := by
  obtain ⟨-, canonicals, hcanonicals, -, -, digest, -, rfl⟩ := canonicalizeSchedule_eq_ok.mp h
  obtain ⟨raw, faults, -, hfaults, hall⟩ := fault_decodes (fun _ => none) hcanonicals
  have hsorted := forall₂_sorted hall
  refine ⟨sortedFaults faults, ?_, hsorted, (dumps_content hsorted).symm⟩
  intro f hf
  apply valid_of_forall₂ hfaults f ((sortedFaults_perm faults).mem_iff.mp hf)

theorem starts_of_matches {faults : List FaultSpec} {canonicals : List CanonicalFault}
    (h : List.Forall₂ Matches faults canonicals) :
  canonicals.map (·.startOffsetNs) = faults.map FaultSpec.startOffsetNs
  := by
  induction h with
  | nil => rfl
  | cons hmatches _ ih => rw [List.map_cons, List.map_cons, ih, hmatches.start]

theorem starts_of_asDict {faults faults' : List FaultSpec}
    (h : faults.map FaultSpec.asDict = faults'.map FaultSpec.asDict) :
  faults.map FaultSpec.startOffsetNs = faults'.map FaultSpec.startOffsetNs
  := by
  induction faults generalizing faults' with
  | nil =>
      rw [List.map_nil] at h
      rw [List.map_eq_nil_iff.mp h.symm]
  | cons f faults ih =>
      cases faults' with
      | nil => cases h
      | cons g faults' =>
          obtain ⟨hdict, hrest⟩ := List.cons.inj h
          have hstart : f.startOffsetNs = g.startOffsetNs := by
            simp only [FaultSpec.asDict, Json.obj.injEq, List.cons.injEq, Prod.mk.injEq,
              Json.int.injEq, true_and] at hdict
            exact hdict.2.2.2.2.1
          rw [List.map_cons, List.map_cons, hstart, ih hrest]

/-- Canonical schedules with the same text start their faults at the same times. -/
theorem starts_of_bytes {lib : Libraries} {specs specs' : List RobotestLab.FaultSpec}
    {canonical canonical' : CanonicalSchedule}
    (h : canonicalizeSchedule lib specs = .ok canonical)
    (h' : canonicalizeSchedule lib specs' = .ok canonical')
    (hbytes : canonical.bytes = canonical'.bytes) :
  canonical.faults.map (·.startOffsetNs) = canonical'.faults.map (·.startOffsetNs)
  := by
  obtain ⟨faults, hvalid, hmatches, htext⟩ := matches_of_canonicalizeSchedule h
  obtain ⟨faults', hvalid', hmatches', htext'⟩ := matches_of_canonicalizeSchedule h'
  rw [starts_of_matches hmatches, starts_of_matches hmatches']
  apply starts_of_asDict
  apply asDict_of_dumps hvalid hvalid'
  rw [← htext, ← htext', hbytes]

/-- The starts of a schedule of the mission runner are sorted. -/
theorem pairwise_starts (faults : List FaultSpec) :
  ((sortedFaults faults).map FaultSpec.startOffsetNs).Pairwise (· ≤ ·)
  := by
  have : Std.Total fun left right : FaultSpec => left.sortKey ≤ right.sortKey :=
    ⟨fun left right => le_total left.sortKey right.sortKey⟩
  have : IsTrans FaultSpec fun left right => left.sortKey ≤ right.sortKey :=
    ⟨fun _ _ _ => le_trans⟩
  rw [List.pairwise_map]
  apply (List.pairwise_insertionSort (fun left right : FaultSpec => left.sortKey ≤ right.sortKey)
    faults).imp
  intro left right hle
  rcases (Prod.Lex.toLex_le_toLex.mp hle) with hlt | ⟨heq, -⟩
  · exact le_of_lt hlt
  · exact le_of_eq heq

/-- The starts of a canonical schedule are those of the messages it was made of. -/
theorem perm_starts {lib : Libraries} {specs : List RobotestLab.FaultSpec}
    (h : canonicalizeSchedule lib specs = .ok canonical) :
  (canonical.faults.map (·.startOffsetNs)).Perm (specs.map (·.startOffset.ns))
  := by
  obtain ⟨-, canonicals, hcanonicals, -, -, digest, -, rfl⟩ := canonicalizeSchedule_eq_ok.mp h
  apply ((sortFaults_perm canonicals).map _).trans
  apply List.Perm.of_eq
  clear h
  induction hcanonicals with
  | nil => rfl
  | cons hspec _ ih =>
      obtain ⟨-, -, parameters, -, rfl⟩ := canonicalizeFault_eq_ok.mp hspec
      rw [List.map_cons, List.map_cons, ih]
      rfl

/-- The proxy starts the faults of a schedule of the mission runner at the same times. -/
theorem starts_of_schedule {lib : Libraries} {sha256 : String → List UInt8}
    {rawFaults claimed : PyValue} {schedule : FaultSchedule}
    (hschedule : buildFaultSchedule sha256 rawFaults claimed = .ok schedule)
    (h : canonicalizeSchedule lib (preloadRequestOf schedule).faults = .ok canonical) :
  canonical.faults.map (·.startOffsetNs) = schedule.faults.map FaultSpec.startOffsetNs
  := by
  obtain ⟨raw, -, -, faults, hforall, -, -, -, rfl⟩ := buildFaultSchedule_eq_ok.mp hschedule
  have hmessages : (preloadRequestOf (scheduleOf sha256 (sortedFaults faults))).faults.map
      (·.startOffset.ns) = (sortedFaults faults).map FaultSpec.startOffsetNs := by
    change ((sortedFaults faults).map faultMessage).map _ = _
    rw [List.map_map]
    apply List.map_congr_left
    intro f hf
    have hvalid := valid_of_forall₂ hforall f ((sortedFaults_perm faults).mem_iff.mp hf)
    have hstart := hvalid.start
    have hpositive := hvalid.positive
    have hhorizon := hvalid.horizon
    unfold MIN_START_OFFSET_NS at hstart
    unfold MAX_TIME_NS at hhorizon
    apply (durationFromNs_spec _ _).2
    · omega
    · omega
  have hperm := perm_starts h
  rw [hmessages] at hperm
  have hwf := canonicalizeSchedule_wf h
  have hsorted : (canonical.faults.map (·.startOffsetNs)).Pairwise (· ≤ ·) := by
    rw [List.pairwise_map]
    apply hwf.sorted.imp
    intro left right hle
    apply CanonicalFault.start_le_of_sortKey_le hle
  apply hperm.eq_of_pairwise _ hsorted (pairwise_starts faults)
  intro a b _ _ hab hba
  exact le_antisymm hab hba

/-! ### What the reports of a protocol rely on -/

/-- A schedule that is committed is canonical and has a positive generation, and the stamps of the
binding can be reported. -/
structure Reports (lib : Libraries) (c : Control) : Prop where
  canonical : c.state ≠ .reset → ∃ specs, canonicalizeSchedule lib specs = .ok c.schedule
  generation : c.state ≠ .reset → 0 < c.generation.toNat
  t0 : normalizedTime c.binding.acceptedGoalStamp = true
  commit : normalizedTime c.binding.armCommitStamp = true

theorem reports_preload {lib : Libraries} {p : FaultProtocol} (h : Reports lib p.control)
    (request : PreloadRequest) (stamp : Time) :
  Reports lib ((p.preloadVerdict lib request stamp).next p).control
  := by
  cases hverdict : p.preloadVerdict lib request stamp with
  | rejected message => exact h
  | replayed => exact h
  | committed next =>
      obtain ⟨canonical, generation, -, hcanonical, -, -, -, -, hgeneration, rfl⟩ :=
        preloadVerdict_eq_committed hverdict
      have hnext := (UInt64.increment?_eq_some_iff ..).mp hgeneration
      refine ⟨fun _ => ⟨request.faults, hcanonical⟩, fun _ => ?_, rfl, rfl⟩
      change 0 < generation.toNat
      omega

theorem reports_arm {lib : Libraries} {p : FaultProtocol} (h : Reports lib p.control)
    (request : ArmRequest) (stamp : Time) :
  Reports lib ((p.armVerdict request stamp).next p).control
  := by
  cases hverdict : p.armVerdict request stamp with
  | rejected message => exact h
  | replayed => exact h
  | committed next =>
      obtain ⟨hstate, hstamp, ht0, -, -, -, -, -, marginNs, -, rfl⟩ :=
        armVerdict_eq_committed hverdict
      have hopen : p.control.state ≠ .reset := by
        change p.state ≠ .reset
        rw [hstate]
        rintro ⟨⟩
      exact ⟨fun _ => h.canonical hopen, fun _ => h.generation hopen,
        ((positiveTime_iff _).mp ht0).1, hstamp⟩

variable {F32 F64 : Type} [Binary32 F32] [Binary64 F64] [Tf2 F64]

theorem reports_step {lib : Libraries} {p p' : FaultProtocol} (hp : p.Inv)
    (h : Reports lib p.control) {c : RobotestLab.Call F32 F64} {o : Outcome F32 F64}
    (hstep : p.step lib c = .ok (o, p')) :
  Reports lib p'.control
  := by
  obtain ⟨-, rfl, rfl⟩ := (step_eq_ok hp).mp hstep
  rw [counted_control]
  cases c with
  | preload request stamp => apply reports_preload h
  | arm request stamp => apply reports_arm h
  | reset stamp => exact ⟨fun hopen => absurd rfl hopen, fun hopen => absurd rfl hopen, rfl, rfl⟩
  | scan input frame =>
      rw [respond, Response.map, sense_next_control]
      exact h
  | odom input frame childFrame =>
      rw [respond, Response.map, sense_next_control]
      exact h
  | imu input frame =>
      rw [respond, Response.map, sense_next_control]
      exact h

theorem reports_of_run {lib : Libraries} {n : UInt64}
    {tr : List (RobotestLab.Call F32 F64 × Outcome F32 F64)} {p : FaultProtocol}
    (h : Run (FaultProtocol.step lib) (FaultProtocol.new n) tr p) :
  p.Inv ∧ Reports lib p.control
  := by
  apply h.invariant (P := fun s => s.Inv ∧ Reports lib s.control)
  · rintro s c o s' ⟨hs, hreports⟩ hstep
    exact ⟨hs.step hstep, reports_step hs hreports hstep⟩
  · exact ⟨Inv.new n, fun hopen => absurd rfl hopen, fun hopen => absurd rfl hopen, rfl, rfl⟩

/-! ### Stamps and events -/

theorem stampNs_eq {stamp : Time} (h : normalizedTime stamp = true) :
  stampNs stamp = .ok stamp.ns
  := by
  obtain ⟨hsec, hnanosec⟩ := (normalizedTime_iff stamp).mp h
  unfold stampNs
  rw [if_neg]
  · rfl
  · omega

theorem timeFromNs_eq_ok {value : Int} {stamp : Time} (h : timeFromNs value = .ok stamp) :
  stamp.ns = value
  := by
  unfold timeFromNs at h
  split at h
  · rename_i hrange
    obtain rfl := Except.ok.inj h
    have hsec : (Int32.ofInt (value / 1000000000)).toInt = value / 1000000000 := by
      apply Int32.toInt_ofInt_of_le
      · omega
      · omega
    have hnanosec : ((UInt32.ofInt (value % 1000000000)).toNat : Int) = value % 1000000000 := by
      rw [UInt32.ofInt, UInt32.toNat_ofNat_of_lt' (by rw [UInt32.size]; omega)]
      omega
    rw [Time.ns, hsec, hnanosec]
    omega
  · cases h

/-- The fields of an event that the executor reads. -/
structure Describes (message : FaultEvent) (event : FaultEventDict) : Prop where
  eventType : PyValue.item "event_type" event = .int message.eventType.toNat
  accepted : PyValue.item "accepted" event = .bool message.accepted
  replayed : PyValue.item "replayed" event = .bool message.replayed
  stateAfter : PyValue.item "state_after" event = .int message.stateAfter.toNat
  requestedScheduleHash :
    PyValue.item "requested_schedule_hash" event = .str message.requestedScheduleHash
  committedScheduleHash :
    PyValue.item "committed_schedule_hash" event = .str message.committedScheduleHash
  requestedGeneration :
    PyValue.item "requested_generation" event = .int message.requestedGeneration.toNat
  committedGeneration :
    PyValue.item "committed_generation" event = .int message.committedGeneration.toNat
  requestedFaultCount :
    PyValue.item "requested_fault_count" event = .int message.requestedFaultCount.toNat
  committedFaultCount :
    PyValue.item "committed_fault_count" event = .int message.committedFaultCount.toNat
  requestedGoalUuid :
    PyValue.item "requested_goal_uuid" event = .str (uuidString message.requestedGoalUuid)
  boundGoalUuid : PyValue.item "bound_goal_uuid" event = .str (uuidString message.boundGoalUuid)
  requestedT0 : PyValue.item "requested_t0_ns" event = .int message.requestedT0.ns
  boundT0 : PyValue.item "bound_t0_ns" event = .int message.boundT0.ns
  armCommitTime : PyValue.item "arm_commit_stamp_ns" event = .int message.armCommitTime.ns
  armMarginNs : PyValue.item "arm_margin_ns" event = .int message.armMarginNs
  actualTime : PyValue.item "actual_stamp_ns" event = .int message.actualTime.ns
  header : PyValue.item "header_stamp_ns" event = .int message.header.stamp.ns

/-- An event whose stamps are normalized is handed over. -/
theorem describes_eventDict {message : FaultEvent}
    (hheader : normalizedTime message.header.stamp = true)
    (hrequested : normalizedTime message.requestedT0 = true)
    (hbound : normalizedTime message.boundT0 = true)
    (hcommit : normalizedTime message.armCommitTime = true)
    (hactivation : normalizedTime message.configuredActivationTime = true)
    (hdeactivation : normalizedTime message.configuredDeactivationTime = true)
    (hactual : normalizedTime message.actualTime = true) :
  ∃ event, eventDict message = .ok event ∧ Describes message event
  := by
  unfold eventDict
  simp only [stampNs_eq hheader, stampNs_eq hrequested, stampNs_eq hbound, stampNs_eq hcommit,
    stampNs_eq hactivation, stampNs_eq hdeactivation, stampNs_eq hactual, Except.ok_bind]
  refine ⟨_, rfl, ?_⟩
  constructor <;> rfl

/-! ### Responses -/

/-- The response of the node to a preload with the given outcome. -/
def preloadResponseOf (outcome : PreloadOutcome) : RobotestLab.PreloadResponse where
  accepted := outcome.accepted
  replayed := outcome.replayed
  state := outcome.state.wire
  scheduleHash := outcome.scheduleHash
  loadedCount := outcome.loadedCount
  generation := outcome.generation
  message := outcome.message

/-- The response of the node to an arm request with the given outcome. -/
def armResponseOf (outcome : ArmOutcome) : RobotestLab.ArmResponse where
  accepted := outcome.accepted
  replayed := outcome.replayed
  state := outcome.state.wire
  scheduleHash := outcome.scheduleHash
  generation := outcome.generation
  goalUuid := outcome.goalUuid
  acceptedGoalStamp := outcome.acceptedGoalStamp
  armCommitStamp := outcome.armCommitStamp
  armMarginNs := outcome.armMarginNs
  message := outcome.message

omit [Binary32 F32] [Binary64 F64] [Tf2 F64] in
/-- The executor accepts the outcome of a preload of the schedule. -/
def PreloadConforms (schedule : FaultSchedule) (outcome : PreloadOutcome) : Prop :=
  ∃ event, eventDict outcome.event = .ok event ∧
    (PyValue.item "event_type" event).equalsInt 1 = true ∧
    preloadResponseMismatch schedule (pollPreloadResponse (preloadResponseOf outcome)) = false ∧
    preloadEventMismatch schedule (pollPreloadResponse (preloadResponseOf outcome)) event = false

/-- The executor accepts the outcome of an arm request for the generation of the schedule, the goal
and its stamp. -/
def ArmConforms (schedule : FaultSchedule) (generation : Int) (goalUuid : String)
    (acceptedStampNs : Int) (outcome : ArmOutcome) : Prop :=
  ∃ response event, pollArmResponse (armResponseOf outcome) = .ok response ∧
    eventDict outcome.event = .ok event ∧
    (PyValue.item "event_type" event).equalsInt 7 = true ∧
    armResponseMismatch schedule generation goalUuid acceptedStampNs response = false ∧
    armMarginError schedule acceptedStampNs response = none ∧
    armEventMismatch schedule generation goalUuid acceptedStampNs response event = false

/-- The control event of a request whose stamps are normalized is handed over. -/
theorem describes_controlEvent {p : FaultProtocol} {sequence : UInt64} {eventType : UInt8}
    {stamp : Time} {before : FaultControlState} {accepted replayed : Bool} {requested : Requested}
    {detail : String} (hstamp : normalizedTime stamp = true)
    (hrequested : normalizedTime requested.t0 = true)
    (hbound : normalizedTime p.acceptedGoalStamp = true)
    (hcommit : normalizedTime p.armCommitStamp = true) :
  ∃ event, eventDict (p.controlEvent sequence eventType stamp before accepted replayed requested
      detail) = .ok event ∧
    Describes (p.controlEvent sequence eventType stamp before accepted replayed requested detail)
      event
  := describes_eventDict hstamp hrequested hbound hcommit rfl rfl hstamp

/-- What the executor checks of a preload, in terms of the outcome. -/
theorem preloadConforms_of_fields {schedule : FaultSchedule} {outcome : PreloadOutcome}
    (hevent : ∃ event, eventDict outcome.event = .ok event ∧ Describes outcome.event event)
    (haccepted : outcome.accepted = true) (hstate : outcome.state = .prepared)
    (hhash : outcome.scheduleHash = schedule.sha256)
    (hcount : outcome.loadedCount.toNat = schedule.faults.length)
    (hpositive : 0 < outcome.generation.toNat)
    (htype : outcome.event.eventType = FaultEvent.EVENT_SCHEDULE_LOADED)
    (haccepted' : outcome.event.accepted = true)
    (hreplayed : outcome.event.replayed = outcome.replayed)
    (hstate' : outcome.event.stateAfter = FaultEvent.STATE_PREPARED)
    (hrequested : outcome.event.requestedScheduleHash = schedule.sha256)
    (hcommitted : outcome.event.committedScheduleHash = schedule.sha256)
    (hrequested' : outcome.event.requestedFaultCount.toNat = schedule.faults.length)
    (hgeneration : outcome.event.committedGeneration = outcome.generation)
    (hcommitted' : outcome.event.committedFaultCount.toNat = schedule.faults.length) :
  PreloadConforms schedule outcome
  := by
  obtain ⟨event, hevent, hdescribes⟩ := hevent
  have hbound := outcome.generation.toNat_lt
  refine ⟨event, hevent, ?_, ?_, ?_⟩
  · rw [hdescribes.eventType, htype]
    rfl
  · simp only [preloadResponseMismatch, pollPreloadResponse, preloadResponseOf, isPositiveUint64,
      haccepted, hstate, hhash, hcount, FaultControlState.wire, Bool.or_eq_false_iff,
      bne_eq_false_iff_eq, Bool.not_eq_false', Bool.and_eq_true, decide_eq_true_eq]
    refine ⟨⟨⟨⟨trivial, rfl⟩, trivial⟩, trivial⟩, ?_, ?_⟩
    · omega
    · omega
  · simp only [preloadEventMismatch, pollPreloadResponse, preloadResponseOf, hdescribes.accepted,
      hdescribes.replayed, hdescribes.stateAfter, hdescribes.requestedScheduleHash,
      hdescribes.committedScheduleHash, hdescribes.requestedFaultCount,
      hdescribes.committedGeneration, hdescribes.committedFaultCount, haccepted', hreplayed,
      hstate', hrequested, hcommitted, hrequested', hgeneration, hcommitted', PyValue.truth,
      PyValue.equalsInt, PyValue.equalsText, decide_true, Bool.not_true, bne_self_eq_false,
      Bool.or_false]
    rfl

/-- The margin of the proxy is the one that the executor expects. -/
theorem armMarginError_eq_none {schedule : FaultSchedule} {response : ArmResponse} {t0 : Int}
    (h : marginOf schedule.earliestStartOffsetNs t0 response.armCommitStampNs =
      .ok response.armMarginNs) :
  armMarginError schedule t0 response = none
  := by
  unfold marginOf at h
  unfold armMarginError
  cases hearliest : schedule.earliestStartOffsetNs with
  | none =>
      rw [hearliest] at h
      simp [← Except.ok.inj h]
  | some earliest =>
      rw [hearliest] at h
      simp only at h
      split_ifs at h with hoverflow hmargin
      have hmargin' := Except.ok.inj h
      rw [kMinimumArmingMarginNanoseconds] at hmargin
      have hlow : ¬ response.armMarginNs < MIN_ARM_MARGIN_NS := by
        rw [MIN_ARM_MARGIN_NS]
        omega
      simp [hlow, hmargin']

/-- The response to an accepted arm request for the goal and its stamp, as the driver reports it. -/
def acceptedResponse (schedule : FaultSchedule) (generation : Int) (goal : UUID) (t0 : Int)
    (outcome : ArmOutcome) : ArmResponse where
  accepted := true
  replayed := outcome.replayed
  state := 2
  scheduleHash := schedule.sha256
  generation := generation
  goalUuid := uuidString goal
  acceptedGoalStampNs := t0
  armCommitStampNs := outcome.armCommitStamp.ns
  armMarginNs := outcome.armMarginNs
  message := outcome.message

/-- What the executor checks of an arm request, in terms of the outcome: everything else granted,
the stamp of the event has to be the one of the commit. -/
theorem armConforms_iff_of_fields {schedule : FaultSchedule} {generation : Int} {goal : UUID}
    {t0 : Int} {outcome : ArmOutcome} {stamp : Time}
    (hevent : ∃ event, eventDict outcome.event = .ok event ∧ Describes outcome.event event)
    (haccepted : outcome.accepted = true) (hstate : outcome.state = .armed)
    (hhash : outcome.scheduleHash = schedule.sha256)
    (hgeneration : (outcome.generation.toNat : Int) = generation)
    (hgoal : outcome.goalUuid = goal)
    (hnormalized : normalizedTime outcome.acceptedGoalStamp = true)
    (ht0 : outcome.acceptedGoalStamp.ns = t0) (hpositive : 0 < t0)
    (hcommit : normalizedTime outcome.armCommitStamp = true)
    (horder : t0 ≤ outcome.armCommitStamp.ns)
    (hmargin : marginOf schedule.earliestStartOffsetNs t0 outcome.armCommitStamp.ns =
      .ok outcome.armMarginNs)
    (htype : outcome.event.eventType = FaultEvent.EVENT_ARMED)
    (haccepted' : outcome.event.accepted = true)
    (hreplayed : outcome.event.replayed = outcome.replayed)
    (hstate' : outcome.event.stateAfter = FaultEvent.STATE_ARMED)
    (hrequested : outcome.event.requestedScheduleHash = schedule.sha256)
    (hcommitted : outcome.event.committedScheduleHash = schedule.sha256)
    (hgeneration' : outcome.event.requestedGeneration = outcome.generation)
    (hgeneration'' : outcome.event.committedGeneration = outcome.generation)
    (hgoal' : outcome.event.requestedGoalUuid = goal)
    (hgoal'' : outcome.event.boundGoalUuid = goal)
    (ht0' : outcome.event.requestedT0.ns = t0) (ht0'' : outcome.event.boundT0.ns = t0)
    (hcommit' : outcome.event.armCommitTime = outcome.armCommitStamp)
    (hmargin' : outcome.event.armMarginNs = outcome.armMarginNs)
    (hactual : outcome.event.actualTime = stamp) (hheader : outcome.event.header.stamp = stamp) :
  ArmConforms schedule generation (uuidString goal) t0 outcome ↔
    stamp.ns = outcome.armCommitStamp.ns
  := by
  obtain ⟨event, hevent, hdescribes⟩ := hevent
  have hresponse : pollArmResponse (armResponseOf outcome) =
      .ok (acceptedResponse schedule generation goal t0 outcome) := by
    simp only [pollArmResponse, armResponseOf, stampNs_eq hnormalized, stampNs_eq hcommit,
      Except.ok_bind, haccepted, hstate, hhash, hgeneration, hgoal, ht0]
    rfl
  have hresponseFits : armResponseMismatch schedule generation (uuidString goal) t0
      (acceptedResponse schedule generation goal t0 outcome) = false := by
    simp only [armResponseMismatch, acceptedResponse, bne_self_eq_false, Bool.not_true,
      Bool.or_false, isPositiveTimeNs, Bool.or_eq_false_iff, Bool.not_eq_false']
    refine ⟨⟨trivial, decide_eq_true ?_⟩, decide_eq_false ?_⟩
    · omega
    · omega
  have heventFits : armEventMismatch schedule generation (uuidString goal) t0
      (acceptedResponse schedule generation goal t0 outcome) event = false ↔
        stamp.ns = outcome.armCommitStamp.ns := by
    simp only [armEventMismatch, acceptedResponse, hdescribes.accepted, hdescribes.replayed,
      hdescribes.stateAfter, hdescribes.requestedScheduleHash, hdescribes.committedScheduleHash,
      hdescribes.requestedGeneration, hdescribes.committedGeneration, hdescribes.requestedGoalUuid,
      hdescribes.boundGoalUuid, hdescribes.requestedT0, hdescribes.boundT0,
      hdescribes.armCommitTime, hdescribes.armMarginNs, hdescribes.actualTime, hdescribes.header,
      haccepted', hreplayed, hstate', hrequested, hcommitted, hgeneration', hgeneration'',
      hgeneration, hgoal', hgoal'', ht0', ht0'', hcommit', hmargin', hactual, hheader,
      PyValue.truth, PyValue.equalsInt, PyValue.equalsText, decide_true, Bool.not_true,
      bne_self_eq_false, Bool.or_false]
    have harmed : decide ((FaultEvent.STATE_ARMED.toNat : Int) = 2) = true := rfl
    by_cases hsame : stamp.ns = outcome.armCommitStamp.ns
    · simp only [harmed, hsame, decide_true, Bool.not_true, Bool.or_false]
    · simp only [hsame, decide_false, Bool.not_false, Bool.or_true, Bool.true_eq_false]
  constructor
  · rintro ⟨response', event', hresponse', hevent', -, -, -, hfits⟩
    obtain rfl := Except.ok.inj (hresponse.symm.trans hresponse')
    obtain rfl := Except.ok.inj (hevent.symm.trans hevent')
    exact heventFits.mp hfits
  · intro hstamp
    refine ⟨_, event, hresponse, hevent, ?_, hresponseFits, armMarginError_eq_none hmargin,
      heventFits.mpr hstamp⟩
    rw [hdescribes.eventType, htype]
    rfl

/-! ### Preloads -/

section Conformance

variable {lib : Libraries} {sha256 : String → List UInt8} {rawFaults claimed : PyValue}
variable {schedule : FaultSchedule} {p p' : FaultProtocol} {stamp : Time}

/-- A committed schedule with the text of a schedule of the mission runner starts its faults at the
same times. -/
theorem starts_of_committed (hschedule : buildFaultSchedule sha256 rawFaults claimed = .ok schedule)
    {c : Control} (hreports : Reports lib c) (hopen : c.state ≠ .reset)
    {canonical : CanonicalSchedule}
    (hcanonical : canonicalizeSchedule lib (preloadRequestOf schedule).faults = .ok canonical)
    (hbytes : c.schedule.bytes = canonical.bytes) :
  c.schedule.faults.map (·.startOffsetNs) = schedule.faults.map FaultSpec.startOffsetNs
  := by
  obtain ⟨specs, hspecs⟩ := hreports.canonical hopen
  rw [starts_of_bytes hspecs hcanonical hbytes, starts_of_schedule hschedule hcanonical]

/-- The number of faults that the protocol reports. -/
theorem toNat_committedFaultCount (hp : p.Inv) {faults : List FaultSpec}
    (hstarts : p.schedule.faults.map (·.startOffsetNs) = faults.map FaultSpec.startOffsetNs) :
  p.committedFaultCount.toNat = faults.length
  := by
  have hlength := congrArg List.length hstarts
  rw [List.length_map, List.length_map] at hlength
  have hcount := hp.schedule.count
  change (UInt32.ofNat p.schedule.faults.length).toNat = faults.length
  rw [UInt32.toNat_ofNat_of_lt' (by rw [UInt32.size]; omega), hlength]

/-- The executor accepts every preload of its schedule that the proxy accepts while it is not
armed. -/
theorem preload_conforms (hschedule : buildFaultSchedule sha256 rawFaults claimed = .ok schedule)
    (hp : p.Inv) (hreports : Reports lib p.control) (hstate : p.state ≠ .armed)
    {outcome : PreloadOutcome}
    (h : p.preload lib (preloadRequestOf schedule) stamp = .ok (outcome, p'))
    (haccepted : outcome.accepted = true) :
  PreloadConforms schedule outcome
  := by
  obtain ⟨-, -, -, canonical, hcanonical, hrequest, hopen, hbytes, hsha⟩ :=
    preload_accepted h haccepted
  rw [preload_eq, answered_eq_ok] at h
  obtain ⟨-, rfl, rfl⟩ := h
  have hreports' := reports_preload hreports (preloadRequestOf schedule) stamp
  have hq := hp.preloadVerdict_next lib (preloadRequestOf schedule) stamp
  have hstarts := starts_of_committed hschedule hreports' hopen hcanonical hbytes
  have hcount := toNat_committedFaultCount hq hstarts
  have hverdict : normalizedTime stamp = true ∧
      ((p.preloadVerdict lib (preloadRequestOf schedule) stamp).next p).state = .prepared := by
    cases hverdict : p.preloadVerdict lib (preloadRequestOf schedule) stamp with
    | rejected message =>
        rw [hverdict] at haccepted
        cases haccepted
    | replayed =>
        obtain ⟨hstamp, -, -, -, -, hopen', -⟩ := preloadVerdict_eq_replayed.mp hverdict
        refine ⟨hstamp, ?_⟩
        change p.state = .prepared
        cases hcase : p.state with
        | reset => exact absurd hcase hopen'
        | prepared => rfl
        | armed => exact absurd hcase hstate
    | committed next =>
        obtain ⟨-, -, hstamp, -, -, -, -, -, -, rfl⟩ := preloadVerdict_eq_committed hverdict
        exact ⟨hstamp, rfl⟩
  obtain ⟨hstamp, hprepared⟩ := hverdict
  apply preloadConforms_of_fields
  · apply describes_controlEvent hstamp rfl hreports'.t0 hreports'.commit
  · exact haccepted
  · exact hprepared
  · exact hsha.trans hrequest.symm
  · exact hcount
  · exact hreports'.generation hopen
  · exact if_pos haccepted
  · exact haccepted
  · rfl
  · exact congrArg FaultControlState.wire hprepared
  · rfl
  · exact hsha.trans hrequest.symm
  · change (UInt32.ofNat (schedule.faults.map faultMessage).length).toNat = schedule.faults.length
    rw [List.length_map]
    apply UInt32.toNat_ofNat_of_lt'
    rw [UInt32.size, ← hcount]
    exact UInt32.toNat_lt _
  · rfl
  · exact hcount

/-! ### Arm requests -/

/-- The request that the driver makes for a goal. -/
theorem startArm_eq_ok {scheduleHash : String} {generation : UInt64} {goal : UUID} {t0 : Int}
    {request : ArmRequest} (hgoal : zeroUuid goal = false)
    (h : startArm scheduleHash generation.toNat (uuidString goal) t0 = .ok request) :
  request.scheduleHash = scheduleHash ∧ request.generation = generation ∧
    request.goalUuid = goal ∧ request.acceptedGoalStamp.ns = t0
  := by
  have hbound := generation.toNat_lt
  have hrange : 0 ≤ (generation.toNat : Int) ∧ (generation.toNat : Int) ≤ 18446744073709551615 := by
    omega
  unfold startArm at h
  simp only [if_pos hrange, Except.ok_bind, uuidMessage_uuidString hgoal] at h
  obtain ⟨acceptedGoalStamp, hstamp, hrequest⟩ := Except.bind_eq_ok_iff.mp h
  obtain rfl := Except.ok.inj hrequest
  refine ⟨rfl, ?_, rfl, timeFromNs_eq_ok hstamp⟩
  apply UInt64.toNat_inj.mp
  change (UInt64.ofInt (generation.toNat : Int)).toNat = generation.toNat
  rw [UInt64.ofInt, UInt64.toNat_ofNat_of_lt' (by rw [UInt64.size]; omega)]
  omega

/-- The executor accepts an arm request for its schedule that the proxy accepts, unless the request
is a replay under another stamp. -/
theorem arm_conforms_iff (hschedule : buildFaultSchedule sha256 rawFaults claimed = .ok schedule)
    (hp : p.Inv) (hreports : Reports lib p.control) {canonical : CanonicalSchedule}
    (hcanonical : canonicalizeSchedule lib (preloadRequestOf schedule).faults = .ok canonical)
    {generation : UInt64}
    (hbytes : p.state ≠ .reset → p.generation = generation → p.schedule.bytes = canonical.bytes)
    {goal : UUID} (hgoal : zeroUuid goal = false) {t0 : Int} {request : ArmRequest}
    (hrequest : startArm schedule.sha256 generation.toNat (uuidString goal) t0 = .ok request)
    {outcome : ArmOutcome} (h : p.arm request stamp = .ok (outcome, p'))
    (haccepted : outcome.accepted = true) :
  ArmConforms schedule generation.toNat (uuidString goal) t0 outcome ↔
    (p.state = .armed → stamp = p.armCommitStamp)
  := by
  obtain ⟨-, -, harmed, hhash, hgeneration, huuid, hstamp⟩ := arm_accepted hp h haccepted
  obtain ⟨hhash', hgeneration', huuid', ht0⟩ := startArm_eq_ok hgoal hrequest
  rw [arm_eq hp.schedule, answered_eq_ok] at h
  obtain ⟨-, rfl, rfl⟩ := h
  have hq := hp.armVerdict_next request stamp
  have hreports' := reports_arm hreports request stamp
  have hbinding := hq.armed harmed
  obtain ⟨hnormalized, hpositive⟩ := (positiveTime_iff _).mp hbinding.t0
  have hcommit : normalizedTime stamp = true ∧ p.state ≠ .reset ∧
      ((p.armVerdict request stamp).next p).schedule = p.schedule ∧
      ((p.armVerdict request stamp).next p).generation = p.generation ∧
      (stamp.ns = ((p.armVerdict request stamp).next p).armCommitStamp.ns ↔
        (p.state = .armed → stamp = p.armCommitStamp)) := by
    cases hverdict : p.armVerdict request stamp with
    | rejected message =>
        rw [hverdict] at haccepted
        cases haccepted
    | replayed =>
        obtain ⟨hnormalized', hstate, -⟩ := armVerdict_eq_replayed.mp hverdict
        refine ⟨hnormalized', by rw [hstate]; rintro ⟨⟩, rfl, rfl, ?_⟩
        constructor
        · intro hns _
          apply Time.ns_injective hnormalized' hreports.commit hns
        · intro hsame
          rw [hsame hstate]
          rfl
    | committed next =>
        obtain ⟨hstate, hnormalized', -, -, -, -, -, -, marginNs, -, rfl⟩ :=
          armVerdict_eq_committed hverdict
        refine ⟨hnormalized', by rw [hstate]; rintro ⟨⟩, rfl, rfl, ?_⟩
        constructor
        · intro _ harmed'
          rw [hstate] at harmed'
          cases harmed'
        · intro _
          rfl
  obtain ⟨hnormalized', hopen, hsame, hkept, hstamps⟩ := hcommit
  have hcurrent : p.generation = generation :=
    hkept.symm.trans (hgeneration.symm.trans hgeneration')
  have hstarts := starts_of_committed hschedule hreports hopen hcanonical (hbytes hopen hcurrent)
  have hearliest : ((p.armVerdict request stamp).next p).schedule.earliestStartOffsetNs =
      schedule.earliestStartOffsetNs := by
    have hheads := congrArg List.head? hstarts
    rw [List.head?_map, List.head?_map] at hheads
    rw [hsame, hp.schedule.earliest]
    exact hheads
  rw [← hstamps]
  apply armConforms_iff_of_fields
  · apply describes_controlEvent hnormalized' _ hreports'.t0 hreports'.commit
    rw [hstamp]
    exact hnormalized
  · exact haccepted
  · exact harmed
  · exact hhash.symm.trans hhash'
  · exact congrArg (fun g : UInt64 => (g.toNat : Int)) (hgeneration.symm.trans hgeneration')
  · exact huuid.symm.trans huuid'
  · exact hnormalized
  · exact (congrArg Time.ns hstamp).symm.trans ht0
  · rw [← ht0, congrArg Time.ns hstamp]
    exact hpositive
  · exact hbinding.commit
  · rw [← ht0, congrArg Time.ns hstamp]
    exact hbinding.order
  · rw [← ht0, congrArg Time.ns hstamp, ← hearliest]
    exact hbinding.margin
  · exact if_pos haccepted
  · exact haccepted
  · rfl
  · exact congrArg FaultControlState.wire harmed
  · exact hhash'
  · exact hhash.symm.trans hhash'
  · exact hgeneration
  · rfl
  · exact huuid'
  · exact huuid.symm.trans huuid'
  · exact ht0
  · exact (congrArg Time.ns hstamp).symm.trans ht0
  · rfl
  · rfl
  · rfl
  · rfl

end Conformance

/-! ### Conformance -/

/-- In every run, an arm request for a generation of the schedule that the proxy accepts is accepted
by the executor exactly when it is no replay, or its stamp is the one of the commit. -/
theorem arm_conforms_of_run {lib : Libraries} {sha256 : String → List UInt8}
    {rawFaults claimed : PyValue} {schedule : FaultSchedule}
    (hschedule : buildFaultSchedule sha256 rawFaults claimed = .ok schedule) {n : UInt64}
    {tr : List (RobotestLab.Call F32 F64 × Outcome F32 F64)} {p p' : FaultProtocol}
    (hrun : Run (FaultProtocol.step lib) (FaultProtocol.new n) tr p) {stamp₀ stamp : Time}
    {loaded : PreloadOutcome}
    (hmem : (.preload (preloadRequestOf schedule) stamp₀, .preload loaded) ∈ tr)
    (hloaded : loaded.accepted = true) {goal : UUID} {t0 : Int} {request : ArmRequest}
    {outcome : ArmOutcome} (hgoal : zeroUuid goal = false)
    (hrequest : startArm schedule.sha256 loaded.generation.toNat (uuidString goal) t0 = .ok request)
    (h : p.arm request stamp = .ok (outcome, p')) (haccepted : outcome.accepted = true) :
  ArmConforms schedule loaded.generation.toNat (uuidString goal) t0 outcome ↔
    (p.state = .armed → stamp = p.armCommitStamp)
  := by
  obtain ⟨hp, hreports⟩ := reports_of_run hrun
  obtain ⟨canonical, hcanonical⟩ := canonicalizeSchedule_of_accepted hrun hmem hloaded
  apply arm_conforms_iff hschedule hp hreports hcanonical _ hgoal hrequest h haccepted
  intro hopen hcurrent
  have hhistory := history_of_run hrun
  have hload := List.mem_filterMap.mpr ⟨_, hmem, loadRecord_eq_some hloaded hcanonical⟩
  apply (hhistory.loads.current _ hload _ hopen).symm
  exact congrArg UInt64.toNat (hcurrent.symm.trans (hhistory.current hopen))

/-- In every run of the proxy, the executor accepts the outcome of a preload of its schedule that
the proxy accepts in the states reset and prepared. It accepts the outcome of an arm request for a
generation of its schedule, a goal and its stamp that the proxy accepts exactly when the request is
no replay, or its stamp is the one of the commit. -/
theorem outcomes_conform {lib : Libraries} {sha256 : String → List UInt8}
    {rawFaults claimed : PyValue} {schedule : FaultSchedule}
    (hschedule : buildFaultSchedule sha256 rawFaults claimed = .ok schedule) {n : UInt64}
    {tr : List (RobotestLab.Call F32 F64 × Outcome F32 F64)} {p : FaultProtocol}
    (hrun : Run (FaultProtocol.step lib) (FaultProtocol.new n) tr p) :
  (∀ stamp outcome p', (p.state = .reset ∨ p.state = .prepared) →
    p.preload lib (preloadRequestOf schedule) stamp = .ok (outcome, p') →
    outcome.accepted = true → PreloadConforms schedule outcome) ∧
  (∀ stamp₀ loaded, (.preload (preloadRequestOf schedule) stamp₀, .preload loaded) ∈ tr →
    loaded.accepted = true →
    ∀ goal t0 request stamp outcome p', zeroUuid goal = false →
      startArm schedule.sha256 loaded.generation.toNat (uuidString goal) t0 = .ok request →
      p.arm request stamp = .ok (outcome, p') → outcome.accepted = true →
      (ArmConforms schedule loaded.generation.toNat (uuidString goal) t0 outcome ↔
        (p.state = .armed → stamp = p.armCommitStamp)))
  := by
  constructor
  · intro stamp outcome p' hstate h haccepted
    obtain ⟨hp, hreports⟩ := reports_of_run hrun
    apply preload_conforms hschedule hp hreports _ h haccepted
    rcases hstate with hstate | hstate <;> rw [hstate] <;> rintro ⟨⟩
  · intro stamp₀ loaded hmem hloaded goal t0 request stamp outcome p' hgoal hrequest h haccepted
    exact arm_conforms_of_run hschedule hrun hmem hloaded hgoal hrequest h haccepted

/-! ### A sample run -/

namespace Sample

/-- The schedule with the two faults. -/
def schedule : FaultSchedule :=
  match buildFaultSchedule sha256 (.list [odom, lidar]) with
  | .ok schedule => schedule
  | .error _ => { schemaVersion := 1, faults := [], canonicalJson := "", sha256 := "" }

theorem buildFaultSchedule_eq :
  buildFaultSchedule sha256 (.list [odom, lidar]) = .ok schedule
  := by
  have hok : (buildFaultSchedule sha256 (.list [odom, lidar])).isOk = true := by
    decide +kernel
  unfold schedule
  cases hbuild : buildFaultSchedule sha256 (.list [odom, lidar]) with
  | ok schedule => rfl
  | error message =>
      rw [hbuild] at hok
      cases hok

def goal : UUID := RobotestLab.Sample.goalUuid

def preload : RobotestLab.Call ℚ ℚ :=
  .preload (preloadRequestOf schedule) { sec := 99, nanosec := 0 }

/-- The request to arm the first generation for the goal, accepted at 100 s. -/
def armRequest : ArmRequest where
  scheduleHash := schedule.sha256
  generation := 1
  goalUuid := goal
  acceptedGoalStamp := { sec := 100, nanosec := 0 }

theorem startArm_eq :
  startArm schedule.sha256 1 (uuidString goal) 100000000000 = .ok armRequest
  := by
  have hmessage : uuidMessage (uuidString goal) = .ok goal :=
    uuidMessage_uuidString (by decide +kernel)
  unfold startArm
  rw [hmessage]
  rfl

/-- The protocol after the given calls. -/
def after (calls : List (RobotestLab.Call ℚ ℚ)) : FaultProtocol :=
  Run.last (FaultProtocol.step libraries) (FaultProtocol.new 0) calls

theorem step_preload {p : FaultProtocol} {request : PreloadRequest} {stamp : Time}
    {w : PreloadOutcome × FaultProtocol} (h : p.preload libraries request stamp = .ok w) :
  p.step libraries (.preload request stamp : RobotestLab.Call ℚ ℚ) = .ok (.preload w.1, w.2)
  := by
  unfold FaultProtocol.step
  simp only [h]
  rfl

/-- The run of the preload and further calls. -/
theorem run_after (calls : List (RobotestLab.Call ℚ ℚ))
    (h : (Run.exec (FaultProtocol.step libraries) (FaultProtocol.new 0)
      (preload :: calls)).isOk = true) :
  ∃ (tr : List (RobotestLab.Call ℚ ℚ × Outcome ℚ ℚ)) (loaded : PreloadOutcome),
    Run (FaultProtocol.step libraries) (FaultProtocol.new 0) tr (after (preload :: calls)) ∧
    (preload, .preload loaded) ∈ tr ∧ loaded.accepted = true ∧ loaded.generation = 1
  := by
  have hloaded : ((FaultProtocol.new 0).preload libraries (preloadRequestOf schedule)
      { sec := 99, nanosec := 0 }).toOption.map (fun w => (w.1.accepted, w.1.generation)) =
        some (true, 1) := by
    decide +kernel
  obtain ⟨tr, hrun, hcalls⟩ := Run.exists_of_exec h
  cases hfirst : (FaultProtocol.new 0).preload libraries (preloadRequestOf schedule)
      { sec := 99, nanosec := 0 } with
  | error e =>
      rw [hfirst] at hloaded
      cases hloaded
  | ok w =>
      rw [hfirst] at hloaded
      obtain ⟨haccepted, hgeneration⟩ := Prod.mk.inj (Option.some.inj hloaded)
      obtain ⟨⟨c, o⟩, rest, rfl, hc, -⟩ := List.map_eq_cons_iff.mp hcalls
      obtain rfl : c = preload := hc
      obtain ⟨s, hstep, -⟩ := Run.cons_iff.mp hrun
      have hstep' : (FaultProtocol.new 0).step libraries preload = .ok (.preload w.1, w.2) :=
        step_preload hfirst
      obtain ⟨rfl, -⟩ := Prod.mk.inj (Except.ok.inj (hstep.symm.trans hstep'))
      exact ⟨_, w.1, hrun, List.mem_cons_self, haccepted, hgeneration⟩

/-- The arm request is accepted after the given calls. -/
theorem arm_after (calls : List (RobotestLab.Call ℚ ℚ)) (stamp : Time)
    (h : ((after calls).arm armRequest stamp).toOption.map (fun w => w.1.accepted) = some true) :
  ∃ outcome p', (after calls).arm armRequest stamp = .ok (outcome, p') ∧ outcome.accepted = true
  := by
  cases harm : (after calls).arm armRequest stamp with
  | error e =>
      rw [harm] at h
      cases h
  | ok w =>
      rw [harm] at h
      exact ⟨w.1, w.2, rfl, Option.some.inj h⟩

end Sample

/-- The executor accepts the first arm request of the sample, 1 s after the goal. -/
theorem outcomes_conform_sample :
  ∃ outcome p', (Sample.after [Sample.preload]).arm Sample.armRequest { sec := 101, nanosec := 0 } =
      .ok (outcome, p') ∧ outcome.accepted = true ∧
    ArmConforms Sample.schedule 1 (uuidString Sample.goal) 100000000000 outcome
  := by
  obtain ⟨tr, loaded, hrun, hmem, hloaded, hgeneration⟩ :=
    Sample.run_after [] (by decide +kernel)
  obtain ⟨outcome, p', harm, haccepted⟩ := Sample.arm_after [Sample.preload]
    { sec := 101, nanosec := 0 } (by decide +kernel)
  refine ⟨outcome, p', harm, haccepted, ?_⟩
  have hrequest := Sample.startArm_eq
  have hconforms := (outcomes_conform Sample.buildFaultSchedule_eq hrun).2 _ _ hmem hloaded
    Sample.goal 100000000000 Sample.armRequest { sec := 101, nanosec := 0 } outcome p'
    (by decide +kernel)
  rw [hgeneration] at hconforms
  apply (hconforms hrequest harm haccepted).mpr
  intro harmed
  have hprepared : (Sample.after [Sample.preload]).state = .prepared := by
    decide +kernel
  rw [hprepared] at harmed
  cases harmed

/-- The executor rejects the same request 1 s later, although the proxy accepts it as a replay. -/
theorem outcomes_conform_replay :
  ∃ outcome p', (Sample.after [Sample.preload,
      .arm Sample.armRequest { sec := 101, nanosec := 0 }]).arm Sample.armRequest
        { sec := 102, nanosec := 0 } = .ok (outcome, p') ∧ outcome.accepted = true ∧
    ¬ ArmConforms Sample.schedule 1 (uuidString Sample.goal) 100000000000 outcome
  := by
  obtain ⟨tr, loaded, hrun, hmem, hloaded, hgeneration⟩ := Sample.run_after
    [.arm Sample.armRequest { sec := 101, nanosec := 0 }] (by decide +kernel)
  obtain ⟨outcome, p', harm, haccepted⟩ := Sample.arm_after [Sample.preload,
    .arm Sample.armRequest { sec := 101, nanosec := 0 }] { sec := 102, nanosec := 0 }
    (by decide +kernel)
  refine ⟨outcome, p', harm, haccepted, ?_⟩
  intro hconforms
  have hrequest : startArm Sample.schedule.sha256 loaded.generation.toNat (uuidString Sample.goal)
      100000000000 = .ok Sample.armRequest := by
    rw [hgeneration]
    apply Sample.startArm_eq
  have hiff := arm_conforms_of_run Sample.buildFaultSchedule_eq hrun hmem hloaded
    (by decide +kernel) hrequest harm haccepted
  rw [hgeneration] at hiff
  have hcommit := hiff.mp hconforms (by decide +kernel)
  revert hcommit
  decide +kernel

end Missions

end RobotestLab
