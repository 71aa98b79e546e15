import RobotestLab.Missions.Closing

/-!
# Reset, preload and arm

What the control of the faults has seen when it goes on: a confirmed reset (`ResetConfirmed`), a
preload whose response and event agree with the schedule (`Prepared`), and an arming whose
response and event agree with the schedule, the generation, the goal and its stamp (`Armed`).
-/

namespace RobotestLab

namespace Missions

open Program

variable {F : Type}

/-! ### Agreement -/

/-- The event accepts a reset. -/
structure ResetEvent (event : FaultEventDict) : Prop where
  eventType : (PyValue.item "event_type" event).equalsInt 3 = true
  accepted : (PyValue.item "accepted" event).truth = true
  stateAfter : (PyValue.item "state_after" event).equalsInt 0 = true

/-- The response accepts the preload of the schedule. -/
structure PreloadResponse.Accepts (response : PreloadResponse) (schedule : FaultSchedule)
    (generation : Int) : Prop where
  accepted : response.accepted = true
  state : response.state = 1
  scheduleHash : response.scheduleHash = schedule.sha256
  loadedCount : response.loadedCount = schedule.faults.length
  positive : 0 < generation ∧ generation ≤ 18446744073709551615
  generation : response.generation = generation

/-- The event agrees with the response to the preload. -/
structure LoadedEvent (schedule : FaultSchedule) (response : PreloadResponse)
    (event : FaultEventDict) : Prop where
  eventType : (PyValue.item "event_type" event).equalsInt 1 = true
  accepted : (PyValue.item "accepted" event).truth = true
  replayed : (PyValue.item "replayed" event).truth = response.replayed
  stateAfter : (PyValue.item "state_after" event).equalsInt 1 = true
  requestedScheduleHash :
    (PyValue.item "requested_schedule_hash" event).equalsText schedule.sha256 = true
  committedScheduleHash :
    (PyValue.item "committed_schedule_hash" event).equalsText schedule.sha256 = true
  requestedFaultCount :
    (PyValue.item "requested_fault_count" event).equalsInt schedule.faults.length = true
  committedGeneration :
    (PyValue.item "committed_generation" event).equalsInt response.generation = true
  committedFaultCount :
    (PyValue.item "committed_fault_count" event).equalsInt schedule.faults.length = true

/-- The response accepts the arming of the generation for the goal. -/
structure ArmResponse.Accepts (response : ArmResponse) (schedule : FaultSchedule)
    (generation : Int) (goalUuid : String) (stampNs : Int) : Prop where
  accepted : response.accepted = true
  state : response.state = 2
  scheduleHash : response.scheduleHash = schedule.sha256
  generation : response.generation = generation
  goalUuid : response.goalUuid = goalUuid
  acceptedGoalStampNs : response.acceptedGoalStampNs = stampNs
  commit : stampNs ≤ response.armCommitStampNs
  emptyMargin : schedule.earliestStartOffsetNs = none → response.armMarginNs = 0
  margin : ∀ earliest, schedule.earliestStartOffsetNs = some earliest →
    response.armMarginNs = stampNs + earliest - response.armCommitStampNs ∧
      500000000 ≤ response.armMarginNs

/-- The event agrees with the response to the arming. -/
structure ArmedEvent (schedule : FaultSchedule) (generation : Int) (goalUuid : String)
    (stampNs : Int) (response : ArmResponse) (event : FaultEventDict) : Prop where
  eventType : (PyValue.item "event_type" event).equalsInt 7 = true
  accepted : (PyValue.item "accepted" event).truth = true
  replayed : (PyValue.item "replayed" event).truth = response.replayed
  stateAfter : (PyValue.item "state_after" event).equalsInt 2 = true
  requestedScheduleHash :
    (PyValue.item "requested_schedule_hash" event).equalsText schedule.sha256 = true
  committedScheduleHash :
    (PyValue.item "committed_schedule_hash" event).equalsText schedule.sha256 = true
  requestedGeneration : (PyValue.item "requested_generation" event).equalsInt generation = true
  committedGeneration : (PyValue.item "committed_generation" event).equalsInt generation = true
  requestedGoalUuid : (PyValue.item "requested_goal_uuid" event).equalsText goalUuid = true
  boundGoalUuid : (PyValue.item "bound_goal_uuid" event).equalsText goalUuid = true
  requestedT0 : (PyValue.item "requested_t0_ns" event).equalsInt stampNs = true
  boundT0 : (PyValue.item "bound_t0_ns" event).equalsInt stampNs = true
  commit :
    (PyValue.item "arm_commit_stamp_ns" event).equalsInt response.armCommitStampNs = true
  margin : (PyValue.item "arm_margin_ns" event).equalsInt response.armMarginNs = true
  actual : (PyValue.item "actual_stamp_ns" event).equalsInt response.armCommitStampNs = true
  header : (PyValue.item "header_stamp_ns" event).equalsInt response.armCommitStampNs = true

variable {schedule : FaultSchedule}

theorem accepts_of_preloadResponse {response : PreloadResponse}
    (h : ¬ preloadResponseMismatch schedule response = true) :
  response.Accepts schedule response.generation
  := by
  simp only [preloadResponseMismatch, isPositiveUint64, Bool.or_eq_true, not_or, Bool.not_eq_true,
    Bool.not_eq_false', bne_eq_false_iff_eq, Bool.and_eq_true, decide_eq_true_eq] at h
  obtain ⟨⟨⟨⟨haccepted, hstate⟩, hhash⟩, hcount⟩, hpositive⟩ := h
  exact ⟨haccepted, hstate, hhash, hcount, hpositive, rfl⟩

theorem loadedEvent_of_preloadEvent {response : PreloadResponse}
    {event : FaultEventDict} (htype : (PyValue.item "event_type" event).equalsInt 1 = true)
    (h : ¬ preloadEventMismatch schedule response event = true) :
  LoadedEvent schedule response event
  := by
  simp only [preloadEventMismatch, Bool.or_eq_true, not_or, Bool.not_eq_true, Bool.not_eq_false',
    bne_eq_false_iff_eq] at h
  obtain ⟨⟨⟨⟨⟨⟨⟨h₁, h₂⟩, h₃⟩, h₄⟩, h₅⟩, h₆⟩, h₇⟩, h₈⟩ := h
  exact ⟨htype, h₁, h₂, h₃, h₄, h₅, h₆, h₇, h₈⟩

theorem accepts_of_armResponse {generation : Int} {goalUuid : String}
    {stampNs : Int} {response : ArmResponse}
    (h : ¬ armResponseMismatch schedule generation goalUuid stampNs response = true)
    (hmargin : armMarginError schedule stampNs response = none) :
  response.Accepts schedule generation goalUuid stampNs
  := by
  simp only [armResponseMismatch, Bool.or_eq_true, not_or, Bool.not_eq_true, Bool.not_eq_false',
    bne_eq_false_iff_eq, decide_eq_false_iff_not, not_lt] at h
  obtain ⟨⟨⟨⟨⟨⟨⟨h₁, h₂⟩, h₃⟩, h₄⟩, h₅⟩, h₆⟩, -⟩, h₈⟩ := h
  refine ⟨h₁, h₂, h₃, h₄, h₅, h₆, h₈, ?_, ?_⟩
  · intro hempty
    rw [armMarginError, hempty] at hmargin
    simp only at hmargin
    split at hmargin
    · cases hmargin
    · rename_i hzero
      simpa using hzero
  · intro earliest hearliest
    rw [armMarginError, hearliest] at hmargin
    simp only at hmargin
    split at hmargin
    · cases hmargin
    · rename_i hbound
      split at hmargin
      · cases hmargin
      · rename_i hexact
        refine ⟨by simpa using hexact, ?_⟩
        unfold MIN_ARM_MARGIN_NS at hbound
        omega

theorem armedEvent_of_armEvent {generation : Int} {goalUuid : String}
    {stampNs : Int} {response : ArmResponse} {event : FaultEventDict}
    (htype : (PyValue.item "event_type" event).equalsInt 7 = true)
    (h : ¬ armEventMismatch schedule generation goalUuid stampNs response event = true) :
  ArmedEvent schedule generation goalUuid stampNs response event
  := by
  simp only [armEventMismatch, Bool.or_eq_true, not_or, Bool.not_eq_true, Bool.not_eq_false',
    bne_eq_false_iff_eq] at h
  obtain ⟨⟨⟨⟨⟨⟨⟨⟨⟨⟨⟨⟨⟨⟨h₁, h₂⟩, h₃⟩, h₄⟩, h₅⟩, h₆⟩, h₇⟩, h₈⟩, h₉⟩, h₁₀⟩, h₁₁⟩, h₁₂⟩, h₁₃⟩, h₁₄⟩,
    h₁₅⟩ := h
  exact ⟨htype, h₁, h₂, h₃, h₄, h₅, h₆, h₇, h₈, h₉, h₁₀, h₁₁, h₁₂, h₁₃, h₁₄, h₁₅⟩

/-! ### Evidence of the control requests -/

/-- A reset was requested, its response was successful, and then an event that accepts a reset was
drained. -/
def ResetConfirmed (u : List (Interaction F)) : Prop :=
  ∃ (response : ResetResponse) (batch : List FaultEventDict) (event : FaultEventDict),
    [⟨.startReset, .ok ()⟩, ⟨.pollResetResponse, .ok (some response)⟩,
      ⟨.drainEvents, .ok batch⟩].Sublist u ∧
    response.success = true ∧ event ∈ batch ∧ ResetEvent event

/-- The schedule was preloaded, its response was accepted, and then an event that agrees with the
response was drained. -/
def Prepared (schedule : FaultSchedule) (generation : Int) (u : List (Interaction F)) : Prop :=
  ∃ (response : PreloadResponse) (batch : List FaultEventDict) (event : FaultEventDict),
    [⟨.startPreload schedule, .ok ()⟩, ⟨.pollPreloadResponse, .ok (some response)⟩,
      ⟨.drainEvents, .ok batch⟩].Sublist u ∧
    response.Accepts schedule generation ∧ event ∈ batch ∧ LoadedEvent schedule response event

/-- The generation was armed for the goal and its stamp, the response was accepted, and then an
event that agrees with the response was drained. -/
def Armed (schedule : FaultSchedule) (generation : Int) (goalUuid : String) (stampNs : Int)
    (u : List (Interaction F)) : Prop :=
  ∃ (response : ArmResponse) (batch : List FaultEventDict) (event : FaultEventDict),
    [⟨.startArm schedule.sha256 generation goalUuid stampNs, .ok ()⟩,
      ⟨.pollArmResponse, .ok (some response)⟩, ⟨.drainEvents, .ok batch⟩].Sublist u ∧
    response.Accepts schedule generation goalUuid stampNs ∧ event ∈ batch ∧
    ArmedEvent schedule generation goalUuid stampNs response event

/-- Three interactions of three parts of a run, in this order. -/
theorem sublist_of_mem {i₁ i₂ i₃ : Interaction F} {u₁ u₂ u₃ : List (Interaction F)} (h₁ : i₁ ∈ u₁)
    (h₂ : i₂ ∈ u₂) (h₃ : i₃ ∈ u₃) :
  [i₁, i₂, i₃].Sublist (u₁ ++ (u₂ ++ u₃))
  := by
  have hsublist := (List.singleton_sublist.mpr h₁).append
    ((List.singleton_sublist.mpr h₂).append (List.singleton_sublist.mpr h₃))
  exact hsublist

section FaultControl

variable [PyFloat F] (config : MissionConfig F) (faultDriver : Bool)
variable {s s' : MissionExecutor F} {u : List (Interaction F)}

/-- The reset that the executor takes for confirmed is. -/
theorem runs_resetFaults {beforeGoal : Bool}
    (h : Runs (resetFaults config faultDriver beforeGoal) s u (.ok true) s') :
  ResetConfirmed u
  := by
  unfold resetFaults at h
  split at h
  · obtain ⟨_, s₁, u₁, u₂, rfl, hstart, h₁⟩ := runs_bind_ok h
    obtain ⟨v₁, rfl⟩ := runs_perform config hstart
    obtain ⟨response, s₂, u₃, u₄, rfl, hwait, h₂⟩ := runs_bind_ok h₁
    cases response with
    | none => cases (runs_pure h₂).1
    | some response =>
        obtain ⟨s₃, v₂, w, rfl, hpoll⟩ := runs_waitForValue config hwait
        obtain ⟨v₃, rfl⟩ := runs_perform config hpoll
        simp only at h₂
        split at h₂
        · rename_i hsuccess
          obtain ⟨resetEvent, s₄, u₅, u₆, rfl, hevent, h₃⟩ := runs_bind_ok h₂
          obtain ⟨batch, hbatch, hmem, htype⟩ := runs_waitForFaultEvent config faultDriver hevent
          split at h₃
          · cases (runs_pure h₃).1
          · rename_i hagrees
            simp only [Bool.or_eq_true, not_or, Bool.not_eq_true, Bool.not_eq_false'] at hagrees
            refine ⟨response, batch, resetEvent, ?_, hsuccess, hmem, htype, hagrees.1, hagrees.2⟩
            apply sublist_of_mem
            · simp
            · simp
            · exact List.mem_append_left _ hbatch
        · cases (runs_pure h₂).1
  · cases (runs_pure h).1

omit [PyFloat F] in
theorem runs_requireFaultContract {schedule : FaultSchedule}
    (h : Runs (requireFaultContract config faultDriver) s u (.ok schedule) s') :
  config.faultSchedule = some schedule ∧ s' = s ∧ u = []
  := by
  unfold requireFaultContract at h
  split at h
  · rename_i hschedule
    obtain ⟨heq, rfl, rfl⟩ := runs_pure h
    rw [Except.ok.inj heq]
    exact ⟨hschedule, rfl, rfl⟩
  · cases (runs_raise h).1

/-- The preparation goes on after a confirmed reset and an agreeing preload. -/
theorem runs_prepareFaultSchedule
    (h : Runs (prepareFaultSchedule config faultDriver) s u (.ok ()) s') :
  ∃ schedule generation reset prepare, config.faultSchedule = some schedule ∧
    u = reset ++ prepare ∧ ResetConfirmed reset ∧ Prepared schedule generation prepare ∧
    s'.record.faultGeneration = some generation ∧
    s'.record.terminalResult = s.record.terminalResult
  := by
  have hall := anyCall_allowsDraining (F := F)
  obtain ⟨schedule, s₁, u₁, u₂, rfl, hcontract, h₁⟩ := runs_bind_ok h
  obtain ⟨hschedule, rfl, rfl⟩ := runs_requireFaultContract config faultDriver hcontract
  obtain ⟨deadline, s₂, u₃, u₄, rfl, hdeadline, h₂⟩ := runs_bind_ok h₁
  obtain rfl := runs_deadlineAfter hdeadline
  obtain ⟨found, s₃, u₅, u₆, rfl, hservices, h₃⟩ := runs_bind_ok h₂
  have hservices' : Observes AnyCall s₂ u₅ s₃ := by
    apply (observes_waitUntil config hall.toAllowsWaiting deadline _).of_runs hservices
    apply observes_bind (observes_collectFaultEvents config faultDriver hall)
    intro _
    apply observes_bind (observes_perform config hall.toAllowsWaiting trivial)
    intro ready
    apply observes_pure
  split at h₃
  · cases (runs_raise h₃).1
  · obtain ⟨confirmed, s₄, u₇, u₈, rfl, hreset, h₄⟩ := runs_bind_ok h₃
    have hreset' := (observes_resetFaults config faultDriver ⟨hall, trivial,
      trivial⟩ true).of_runs hreset
    split at h₄
    · cases (runs_raise h₄).1
    · rename_i hconfirmed
      rw [Bool.not_eq_true, Bool.not_eq_false'] at hconfirmed
      rw [hconfirmed] at hreset
      obtain ⟨_, s₅, u₉, u₁₀, rfl, hstart, h₅⟩ := runs_bind_ok h₄
      have hstart' := (observes_perform config hall.toAllowsWaiting trivial).of_runs hstart
      obtain ⟨v₁, rfl⟩ := runs_perform config hstart
      obtain ⟨response, s₆, u₁₁, u₁₂, rfl, hwait, h₆⟩ := runs_bind_ok h₅
      have hwait' := (observes_waitForValue config hall.toAllowsWaiting
        (observes_perform config hall.toAllowsWaiting trivial) _ _).of_runs hwait
      cases response with
      | none => cases (runs_raise h₆).1
      | some response =>
          obtain ⟨s₇, v₂, w, rfl, hpoll⟩ := runs_waitForValue config hwait
          obtain ⟨v₃, rfl⟩ := runs_perform config hpoll
          simp only at h₆
          split at h₆
          · cases (runs_raise h₆).1
          · rename_i hresponse
            obtain ⟨loaded, s₈, u₁₃, u₁₄, rfl, hevent, h₇⟩ := runs_bind_ok h₆
            have hevent' := (observes_waitForFaultEvent config faultDriver hall
              1).of_runs hevent
            obtain ⟨batch, hbatch, hmem, htype⟩ := runs_waitForFaultEvent config faultDriver hevent
            split at h₇
            · cases (runs_raise h₇).1
            · rename_i hagrees
              obtain ⟨_, s₉, u₁₅, u₁₆, rfl, hmodify, h₈⟩ := runs_bind_ok h₇
              obtain ⟨rfl, rfl⟩ := runs_modifyRecord hmodify
              have hlast := (observes_event hall.toAllowsWaiting _ _ _).of_runs h₈
              refine ⟨schedule, response.generation, u₃ ++ (u₅ ++ u₇),
                (v₁ ++ [⟨.startPreload schedule, .ok ()⟩]) ++ ((v₂ ++ (v₃ ++
                  [⟨.pollPreloadResponse, .ok (some response)⟩])) ++ (u₁₃ ++ u₁₆)),
                hschedule, ?_, ?_, ?_, ?_, ?_⟩
              · simp only [List.append_assoc, List.nil_append]
              · obtain ⟨reset, resetBatch, resetEvent, hsublist, hsuccess, hrest⟩ :=
                  runs_resetFaults config faultDriver hreset
                refine ⟨reset, resetBatch, resetEvent, ?_, hsuccess, hrest⟩
                apply hsublist.trans
                rw [← List.append_assoc]
                apply List.sublist_append_right
              · refine ⟨response, batch, loaded, ?_, accepts_of_preloadResponse hresponse, hmem,
                  loadedEvent_of_preloadEvent htype hagrees⟩
                apply sublist_of_mem
                · simp
                · simp
                · exact List.mem_append_left _ hbatch
              · rw [hlast.field (·.faultGeneration) fun _ => rfl]
              · rw [hlast.field (·.terminalResult) fun _ => rfl]
                simp only
                rw [hevent'.field (·.terminalResult) fun _ => rfl,
                  hwait'.field (·.terminalResult) fun _ => rfl,
                  hstart'.field (·.terminalResult) fun _ => rfl,
                  hreset'.field (·.terminalResult) fun _ => rfl,
                  hservices'.field (·.terminalResult) fun _ => rfl]

/-- The arming goes on after a response and an event that agree. -/
theorem runs_armFaultSchedule {goalUuid : String} {stampNs : Int}
    (h : Runs (armFaultSchedule config faultDriver goalUuid stampNs) s u (.ok ()) s') :
  ∃ schedule generation, config.faultSchedule = some schedule ∧
    s.record.faultGeneration = some generation ∧
    Armed schedule generation goalUuid stampNs u ∧
    s'.record.acceptedGoalStampNs = s.record.acceptedGoalStampNs ∧
    s'.record.terminalResult = s.record.terminalResult
  := by
  have hall := anyCall_allowsDraining (F := F)
  obtain ⟨schedule, s₁, u₁, u₂, rfl, hcontract, h₁⟩ := runs_bind_ok h
  obtain ⟨hschedule, rfl, rfl⟩ := runs_requireFaultContract config faultDriver hcontract
  obtain ⟨record, s₂, u₃, u₄, rfl, hrecord, h₂⟩ := runs_bind_ok h₁
  obtain ⟨rfl, rfl, rfl⟩ := runs_getRecord hrecord
  cases hgeneration : s₂.record.faultGeneration.filter isPositiveUint64 with
  | none =>
      rw [hgeneration] at h₂
      cases (runs_raise h₂).1
  | some generation =>
      rw [hgeneration] at h₂
      obtain ⟨hsome, -⟩ := Option.filter_eq_some_iff.mp hgeneration
      obtain ⟨_, s₃, u₅, u₆, rfl, hstart, h₃⟩ := runs_bind_ok h₂
      have hstart' := (observes_perform config hall.toAllowsWaiting trivial).of_runs hstart
      obtain ⟨v₁, rfl⟩ := runs_perform config hstart
      obtain ⟨response, s₄, u₇, u₈, rfl, hwait, h₄⟩ := runs_bind_ok h₃
      have hwait' := (observes_waitForValue config hall.toAllowsWaiting
        (observes_perform config hall.toAllowsWaiting trivial) _ _).of_runs hwait
      cases response with
      | none => cases (runs_raise h₄).1
      | some response =>
          obtain ⟨s₅, v₂, w, rfl, hpoll⟩ := runs_waitForValue config hwait
          obtain ⟨v₃, rfl⟩ := runs_perform config hpoll
          simp only at h₄
          split at h₄
          · cases (runs_raise h₄).1
          · rename_i hresponse
            split at h₄
            · cases (runs_raise h₄).1
            · rename_i hmargin
              obtain ⟨armed, s₆, u₉, u₁₀, rfl, hevent, h₅⟩ := runs_bind_ok h₄
              have hevent' := (observes_waitForFaultEvent config faultDriver
                hall 7).of_runs hevent
              obtain ⟨batch, hbatch, hmem, htype⟩ :=
                runs_waitForFaultEvent config faultDriver hevent
              split at h₅
              · cases (runs_raise h₅).1
              · rename_i hagrees
                obtain ⟨_, s₇, u₁₁, u₁₂, rfl, hmodify, h₆⟩ := runs_bind_ok h₅
                obtain ⟨rfl, rfl⟩ := runs_modifyRecord hmodify
                have hlast := (observes_event hall.toAllowsWaiting _ _ _).of_runs h₆
                refine ⟨schedule, generation, hschedule, hsome, ?_, ?_, ?_⟩
                · refine ⟨response, batch, armed, ?_, accepts_of_armResponse hresponse hmargin,
                    hmem, armedEvent_of_armEvent htype hagrees⟩
                  simp only [List.nil_append]
                  apply sublist_of_mem
                  · simp
                  · simp
                  · exact List.mem_append_left _ hbatch
                · rw [hlast.field (·.acceptedGoalStampNs) fun _ => rfl]
                  simp only
                  rw [hevent'.field (·.acceptedGoalStampNs) fun _ => rfl,
                    hwait'.field (·.acceptedGoalStampNs) fun _ => rfl,
                    hstart'.field (·.acceptedGoalStampNs) fun _ => rfl]
                · rw [hlast.field (·.terminalResult) fun _ => rfl]
                  simp only
                  rw [hevent'.field (·.terminalResult) fun _ => rfl,
                    hwait'.field (·.terminalResult) fun _ => rfl,
                    hstart'.field (·.terminalResult) fun _ => rfl]

/-! ### The calls of the fault control -/

/-- The calls that prepare and arm a schedule are allowed. -/
structure AllowsControl (K : Call F → Prop) : Prop extends AllowsReset K where
  servicesAreReady : K .servicesAreReady
  startPreload : ∀ schedule, K (.startPreload schedule)
  pollPreloadResponse : K .pollPreloadResponse
  startArm : ∀ scheduleHash generation goalUuid stampNs,
    K (.startArm scheduleHash generation goalUuid stampNs)
  pollArmResponse : K .pollArmResponse

variable {K : Call F → Prop}

omit [PyFloat F] in
theorem quiet_requireFaultContract :
  Respects (requireFaultContract config faultDriver) (Quiet K)
  := by
  unfold requireFaultContract
  split
  · apply quiet_pure
  · apply quiet_raise

theorem quiet_prepareFaultSchedule (hK : AllowsControl K) :
  Respects (prepareFaultSchedule config faultDriver) (Quiet K)
  := by
  have hwaiting := hK.toAllowsWaiting
  apply quiet_bind (quiet_requireFaultContract config faultDriver)
  intro schedule
  apply quiet_bind (quiet_of_observes (observes_deadlineAfter hwaiting _))
  intro deadline
  apply quiet_bind
  · apply quiet_of_observes
    apply observes_waitUntil config hwaiting
    apply observes_bind (observes_collectFaultEvents config faultDriver hK.toAllowsDraining)
    intro _
    apply observes_bind (observes_perform config hwaiting hK.servicesAreReady)
    intro ready
    apply observes_pure
  · intro found
    split
    · apply quiet_raise
    · apply quiet_bind
      · apply quiet_of_observes (observes_resetFaults config faultDriver hK.toAllowsReset true)
      · intro confirmed
        split
        · apply quiet_raise
        · apply quiet_bind (quiet_perform config hwaiting (hK.startPreload schedule))
          intro _
          apply quiet_bind
          · apply quiet_waitForValue config hwaiting
            apply observes_perform config hwaiting hK.pollPreloadResponse
          · intro response
            cases response with
            | none => apply quiet_raise
            | some response =>
                simp only
                split
                · apply quiet_raise
                · apply quiet_bind
                  · apply quiet_of_observes
                    apply observes_waitForFaultEvent config faultDriver hK.toAllowsDraining
                  · intro loaded
                    split
                    · apply quiet_raise
                    · apply quiet_bind (quiet_modifyRecord _)
                      intro _
                      apply quiet_event hwaiting

theorem quiet_armFaultSchedule (hK : AllowsControl K) (goalUuid : String) (stampNs : Int) :
  Respects (armFaultSchedule config faultDriver goalUuid stampNs) (Quiet K)
  := by
  have hwaiting := hK.toAllowsWaiting
  apply quiet_bind (quiet_requireFaultContract config faultDriver)
  intro schedule
  apply quiet_bind (quiet_of_observes observes_getRecord)
  intro record
  split
  · apply quiet_raise
  · apply quiet_bind (quiet_perform config hwaiting (hK.startArm _ _ _ _))
    intro _
    apply quiet_bind
    · apply quiet_waitForValue config hwaiting
      apply observes_perform config hwaiting hK.pollArmResponse
    · intro response
      cases response with
      | none => apply quiet_raise
      | some response =>
          simp only
          split
          · apply quiet_raise
          · split
            · apply quiet_raise
            · apply quiet_bind
              · apply quiet_of_observes
                apply observes_waitForFaultEvent config faultDriver hK.toAllowsDraining
              · intro armed
                split
                · apply quiet_raise
                · apply quiet_bind (quiet_modifyRecord _)
                  intro _
                  apply quiet_event hwaiting

end FaultControl

end Missions

end RobotestLab
