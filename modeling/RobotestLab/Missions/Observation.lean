import RobotestLab.Missions.Execution

/-!
# What waiting changes

The waits of the executor, its callbacks and its event traces only add evidence: the fields of the
record that hold the verdict and the bindings stay as they are, the collected fault events are
drained ones, and the calls are the ones that a wait may make (`Observes`).
-/

namespace RobotestLab

namespace Missions

open Program

variable {F : Type}

/-- A call that ended in a run of the executor. -/
abbrev Interaction (F : Type) : Type := (missionSignature F).Interaction

/-- The record without the evidence that waiting adds to it. -/
def ExecutionRecord.settled (record : ExecutionRecord F) : ExecutionRecord F := { record with
  events := []
  eventTraceOverflow := false
  eventTraceOverflowCount := 0
  feedbackTrace := []
  feedbackTraceOverflow := false
  feedbackTraceOverflowCount := 0
  invalidFeedbackCount := 0
  faultEvents := []
  faultEventOverflow := false
  faultEventOverflowCount := 0
  faultResetBeforeGoal := false
  faultResetAfterGoal := false
  faultProtocolStatus := "" }

/-- Every new fault event was drained in one of the interactions. -/
def Drained (u : List (Interaction F)) (events : List FaultEventDict) : Prop :=
  ∀ event ∈ events, ∃ batch, ⟨.drainEvents, .ok batch⟩ ∈ u ∧ event ∈ batch

/-- Only the allowed calls are made, and nothing but evidence is added. -/
structure Observes (K : Call F → Prop) (s : MissionExecutor F) (u : List (Interaction F))
    (s' : MissionExecutor F) : Prop where
  calls : ∀ i ∈ u, K i.1
  settled : s'.record.settled = s.record.settled
  active : s'.acceptedGoalActive = s.acceptedGoalActive
  events : ∃ new, s'.record.faultEvents = s.record.faultEvents ++ new ∧ Drained u new

/-- A field of the record that is no evidence stays as it is. -/
theorem Observes.field {K : Call F → Prop} {s s' : MissionExecutor F} {u : List (Interaction F)}
    (h : Observes K s u s') {α : Type} (f : ExecutionRecord F → α)
    (hf : ∀ record, f record.settled = f record) :
  f s'.record = f s.record
  := by
  rw [← hf s'.record, h.settled, hf]

theorem observes_sequential (K : Call F → Prop) :
  Sequential (Observes K)
  := by
  constructor
  · intro s
    refine ⟨by simp, rfl, rfl, [], (List.append_nil _).symm, ?_⟩
    intro event hevent
    cases hevent
  · intro s u s₁ v s₂ h h'
    obtain ⟨new, hnew, hdrained⟩ := h.events
    obtain ⟨new', hnew', hdrained'⟩ := h'.events
    refine ⟨?_, h'.settled.trans h.settled, h'.active.trans h.active, new ++ new', ?_, ?_⟩
    · intro i hi
      rcases List.mem_append.mp hi with hi | hi
      · apply h.calls i hi
      · apply h'.calls i hi
    · rw [hnew', hnew, List.append_assoc]
    · intro event hevent
      rcases List.mem_append.mp hevent with hevent | hevent
      · obtain ⟨batch, hbatch, hmem⟩ := hdrained event hevent
        exact ⟨batch, List.mem_append_left _ hbatch, hmem⟩
      · obtain ⟨batch, hbatch, hmem⟩ := hdrained' event hevent
        exact ⟨batch, List.mem_append_right _ hbatch, hmem⟩

/-- The calls that every wait makes are allowed. -/
structure AllowsWaiting (K : Call F → Prop) : Prop where
  runtimeOk : K .runtimeOk
  simTimeNs : K .simTimeNs
  steadyTimeS : K .steadyTimeS
  spinOnce : ∀ timeoutS, K (.spinOnce timeoutS)

/-- The calls that collect fault events are allowed too. -/
structure AllowsDraining (K : Call F → Prop) : Prop extends AllowsWaiting K where
  drainEvents : K .drainEvents
  eventOverflowCount : K .eventOverflowCount

/-- Any call is allowed. -/
def AnyCall (_ : Call F) : Prop := True

theorem anyCall_allowsDraining :
  AllowsDraining (AnyCall (F := F))
  := ⟨⟨trivial, trivial, trivial, fun _ => trivial⟩, trivial, trivial⟩

theorem anyCall_allowsWaiting :
  AllowsWaiting (AnyCall (F := F))
  := anyCall_allowsDraining.toAllowsWaiting

section Observation

variable {K : Call F → Prop}

/-! ### Evidence -/

variable {α : Type}

theorem observes_pure (a : α) :
  Respects (pure a : Mission F α) (Observes K)
  := Respects.pure (observes_sequential K) a

theorem observes_raise (e : Raised) :
  Respects (raise e : Mission F α) (Observes K)
  := Respects.raise (observes_sequential K) e

theorem observes_bind {α β : Type} {m : Mission F α} {f : α → Mission F β}
    (hm : Respects m (Observes K)) (hf : ∀ a, Respects (f a) (Observes K)) :
  Respects (m >>= f) (Observes K)
  := Respects.bind (observes_sequential K) hm hf

variable {c : Call F}

theorem observes_ask (hc : K c) :
  Respects (ask c) (Observes K)
  := by
  apply Respects.ask
  intro s r
  refine ⟨?_, rfl, rfl, [], (List.append_nil _).symm, ?_⟩
  · intro i hi
    rw [List.mem_singleton.mp hi]
    exact hc
  · intro event hevent
    cases hevent

theorem observes_getState :
  Respects (getState : Mission F (MissionExecutor F)) (Observes K)
  := Respects.getState (observes_sequential K)

theorem observes_getRecord :
  Respects (getRecord : Mission F (ExecutionRecord F)) (Observes K)
  := observes_bind observes_getState fun _ => observes_pure _

variable {f : ExecutionRecord F → ExecutionRecord F}

theorem observes_modifyRecord (hsettled : ∀ record, (f record).settled = record.settled)
    (hevents : ∀ record, (f record).faultEvents = record.faultEvents) :
  Respects (modifyRecord f) (Observes K)
  := by
  apply Respects.modifyState
  intro s
  refine ⟨by simp, hsettled s.record, rfl, [], ?_, ?_⟩
  · rw [List.append_nil]
    apply hevents
  · intro event hevent
    cases hevent

theorem observes_onlyIf {condition : Bool} {m : Mission F Unit} (hm : Respects m (Observes K)) :
  Respects (onlyIf condition m) (Observes K)
  := by
  cases condition with
  | false => apply observes_pure
  | true => exact hm

theorem observes_stampOrNow (hK : AllowsWaiting K) (simStampNs : Option Int) :
  Respects (stampOrNow simStampNs : Mission F Int) (Observes K)
  := by
  cases simStampNs with
  | none => apply observes_ask hK.simTimeNs
  | some stamp => apply observes_pure

theorem observes_raiseIfFeedbackTraceOverflow :
  Respects (raiseIfFeedbackTraceOverflow : Mission F Unit) (Observes K)
  := by
  apply observes_bind observes_getRecord
  intro record
  apply observes_onlyIf
  apply observes_raise

variable [PyFloat F]

theorem observes_event (hK : AllowsWaiting K) (kind : String) (details : List (String × Json))
    (simStampNs : Option Int) :
  Respects (event kind details simStampNs : Mission F Unit) (Observes K)
  := by
  apply observes_bind observes_getRecord
  intro record
  split
  · apply observes_modifyRecord
    · intro record
      rfl
    · intro record
      rfl
  · apply observes_bind (observes_stampOrNow hK simStampNs)
    intro stamp
    apply observes_bind (observes_ask hK.steadyTimeS)
    intro steady
    apply observes_modifyRecord
    · intro record
      rfl
    · intro record
      rfl

theorem observes_wallOffset (hK : AllowsWaiting K) :
  Respects (wallOffset : Mission F F) (Observes K)
  := by
  apply observes_bind (observes_ask hK.steadyTimeS)
  intro steady
  apply observes_bind observes_getRecord
  intro record
  apply observes_pure

theorem observes_recordFeedback (hK : AllowsWaiting K) (waypointCount : Nat)
    (currentWaypoint : Int) :
  Respects (recordFeedback waypointCount currentWaypoint : Mission F Unit) (Observes K)
  := by
  apply observes_bind observes_getRecord
  intro record
  split
  · apply observes_bind
    · apply observes_modifyRecord
      · intro record
        rfl
      · intro record
        rfl
    · intro _
      apply observes_onlyIf
      apply observes_event hK
  · apply observes_bind
    · apply observes_onlyIf
      apply observes_modifyRecord
      · intro record
        rfl
      · intro record
        rfl
    · intro _
      apply observes_bind (observes_ask hK.simTimeNs)
      intro stamp
      apply observes_bind (observes_wallOffset hK)
      intro offset
      apply observes_modifyRecord
      · intro record
        rfl
      · intro record
        rfl

/-! ### Waiting -/

variable (config : MissionConfig F)

theorem observes_perform (hK : AllowsWaiting K) (hc : K c) :
  Respects (perform config c) (Observes K)
  := by
  apply Respects.call (observes_sequential K)
  · intro currentWaypoint
    apply observes_recordFeedback hK
  · intro s r
    refine ⟨?_, rfl, rfl, [], (List.append_nil _).symm, ?_⟩
    · intro i hi
      rw [List.mem_singleton.mp hi]
      exact hc
    · intro event hevent
      cases hevent

theorem observes_deadlineAfter (hK : AllowsWaiting K) (timeoutS : F) :
  Respects (deadlineAfter timeoutS) (Observes K)
  := observes_bind (observes_ask hK.steadyTimeS) fun _ => observes_pure _

theorem observes_beforeDeadline (hK : AllowsWaiting K) (deadline : F) :
  Respects (beforeDeadline deadline) (Observes K)
  := by
  apply observes_bind (observes_ask hK.runtimeOk)
  intro ok
  split
  · apply observes_bind (observes_ask hK.steadyTimeS)
    intro steady
    apply observes_pure
  · apply observes_pure

theorem observes_spinBounded (hK : AllowsWaiting K) (deadline : F) :
  Respects (spinBounded config deadline) (Observes K)
  := by
  apply observes_bind (observes_ask hK.steadyTimeS)
  intro steady
  apply observes_perform config hK (hK.spinOnce _)

theorem observes_waitUntil (hK : AllowsWaiting K) (deadline : F)
    {body : Mission F (Option α)} (hbody : Respects body (Observes K)) :
  Respects (waitUntil config deadline body) (Observes K)
  := by
  apply Respects.loop (observes_sequential K)
  intro _
  apply observes_bind (observes_beforeDeadline hK deadline)
  intro waiting
  split
  · apply observes_bind hbody
    intro found
    cases found with
    | some value => apply observes_pure
    | none =>
        apply observes_bind (observes_spinBounded config hK deadline)
        intro _
        apply observes_pure
  · apply observes_pure

theorem observes_waitForValue (hK : AllowsWaiting K) {poll : Mission F (Option α)}
    (hpoll : Respects poll (Observes K)) (timeoutS : F) (failOnFeedbackTraceOverflow : Bool) :
  Respects (waitForValue config poll timeoutS failOnFeedbackTraceOverflow) (Observes K)
  := by
  apply observes_bind (observes_deadlineAfter hK timeoutS)
  intro deadline
  apply observes_bind
  · apply observes_waitUntil config hK
    apply observes_bind (observes_onlyIf observes_raiseIfFeedbackTraceOverflow)
    intro _
    exact hpoll
  · intro found
    cases found with
    | some value => apply observes_pure
    | none =>
        apply observes_bind (observes_onlyIf observes_raiseIfFeedbackTraceOverflow)
        intro _
        apply observes_bind (observes_ask hK.runtimeOk)
        intro ok
        split
        · exact hpoll
        · apply observes_pure

theorem observes_waitForServer (hK : AllowsWaiting K) (hready : K .serverIsReady) :
  Respects (waitForServer config) (Observes K)
  := by
  apply observes_bind (observes_deadlineAfter hK _)
  intro deadline
  apply observes_bind
  · apply observes_waitUntil config hK
    apply observes_bind (observes_perform config hK hready)
    intro ready
    split
    · apply observes_bind (observes_event hK _ _ _)
      intro _
      apply observes_pure
    · apply observes_pure
  · intro found
    apply observes_pure

theorem observes_waitForAdvancingPositiveSimTime (hK : AllowsWaiting K) :
  Respects (waitForAdvancingPositiveSimTime config) (Observes K)
  := by
  have hspin : ∀ deadline (l : Option Int), Respects (do
      spinBounded config deadline
      pure (.inl l) : Mission F (Option Int ⊕ Bool)) (Observes K) := by
    intro deadline l
    apply observes_bind (observes_spinBounded config hK deadline)
    intro _
    apply observes_pure
  apply observes_bind (observes_deadlineAfter hK _)
  intro deadline
  apply Respects.loop (observes_sequential K)
  intro firstPositiveNs
  apply observes_bind (observes_beforeDeadline hK deadline)
  intro waiting
  split
  · apply observes_bind (observes_ask hK.simTimeNs)
    intro stampNs
    split
    · cases firstPositiveNs with
      | none => apply hspin
      | some first =>
          simp only
          split
          · apply observes_bind (observes_event hK _ _ _)
            intro _
            apply observes_pure
          · apply hspin
    · apply hspin
  · apply observes_pure

theorem observes_waitForClientClockToReach (hK : AllowsWaiting K)
    (acceptedStatusStampNs localAcceptanceObservedNs : Int) :
  Respects (waitForClientClockToReach config acceptedStatusStampNs localAcceptanceObservedNs)
    (Observes K)
  := by
  apply observes_bind (observes_deadlineAfter hK _)
  intro deadline
  apply observes_bind
  · apply observes_waitUntil config hK
    apply observes_bind observes_raiseIfFeedbackTraceOverflow
    intro _
    apply observes_bind (observes_ask hK.simTimeNs)
    intro localStampNs
    split
    · apply observes_raise
    · split
      · apply observes_raise
      · split
        · apply observes_bind (observes_event hK _ _ _)
          intro _
          apply observes_pure
        · apply observes_pure
  · intro found
    apply observes_pure

/-! ### Fault events -/

/-- No call is made, and nothing but some of the given events is collected. -/
structure Appends (events : List FaultEventDict) (s : MissionExecutor F)
    (u : List (Interaction F)) (s' : MissionExecutor F) : Prop where
  calls : u = []
  settled : s'.record.settled = s.record.settled
  active : s'.acceptedGoalActive = s.acceptedGoalActive
  events : ∃ new, s'.record.faultEvents = s.record.faultEvents ++ new ∧ new ⊆ events

omit [PyFloat F] in
theorem appends_sequential (events : List FaultEventDict) :
  Sequential (Appends (F := F) events)
  := by
  constructor
  · intro s
    exact ⟨rfl, rfl, rfl, [], (List.append_nil _).symm, List.nil_subset _⟩
  · intro s u s₁ v s₂ h h'
    obtain ⟨new, hnew, hsubset⟩ := h.events
    obtain ⟨new', hnew', hsubset'⟩ := h'.events
    refine ⟨?_, h'.settled.trans h.settled, h'.active.trans h.active, new ++ new', ?_, ?_⟩
    · rw [h.calls, h'.calls]
      rfl
    · rw [hnew', hnew, List.append_assoc]
    · apply List.append_subset.mpr ⟨hsubset, hsubset'⟩

variable {events : List FaultEventDict}

omit [PyFloat F] in
theorem appends_modifyRecord (hsettled : ∀ record, (f record).settled = record.settled)
    (hevents : ∀ record, ∃ new, (f record).faultEvents = record.faultEvents ++ new ∧ new ⊆ events) :
  Respects (modifyRecord f) (Appends events)
  := by
  apply Respects.modifyState
  intro s
  exact ⟨rfl, hsettled s.record, rfl, hevents s.record⟩

variable {event : FaultEventDict}

omit [PyFloat F] in
theorem appends_collectFaultEvent (hevent : event ∈ events) :
  Respects (collectFaultEvent event : Mission F Unit) (Appends events)
  := by
  have hraise : ∀ e, Respects (raise e : Mission F Unit) (Appends events) := by
    intro e
    apply Respects.raise (appends_sequential events)
  unfold collectFaultEvent
  split
  · apply hraise
  · split
    · apply hraise
    · split
      · apply hraise
      · apply Respects.bind (appends_sequential events)
        · apply Respects.getState (appends_sequential events)
        · intro executor
          split
          · apply hraise
          · apply Respects.bind (appends_sequential events)
            · apply Respects.modifyState
              intro s
              exact ⟨rfl, rfl, rfl, [], (List.append_nil _).symm, List.nil_subset _⟩
            · intro _
              split
              · apply Respects.bind (appends_sequential events)
                · apply appends_modifyRecord
                  · intro record
                    rfl
                  · intro record
                    exact ⟨[], (List.append_nil _).symm, List.nil_subset _⟩
                · intro _
                  apply hraise
              · apply appends_modifyRecord
                · intro record
                  rfl
                · intro record
                  exact ⟨[event], rfl, List.cons_subset.mpr ⟨hevent, List.nil_subset _⟩⟩

omit [PyFloat F] in
theorem appends_collectEach :
  ∀ rest ⊆ events, Respects (collectEach rest : Mission F Unit) (Appends events)
  := by
  intro rest hrest
  induction rest with
  | nil => apply Respects.pure (appends_sequential events)
  | cons event rest ih =>
      obtain ⟨hevent, hrest⟩ := List.cons_subset.mp hrest
      apply Respects.bind (appends_sequential events) (appends_collectFaultEvent hevent)
      intro _
      apply ih hrest

omit [PyFloat F] in
/-- Collecting the events of a batch that was drained adds evidence. -/
theorem Observes.appends {s s₁ s₂ : MissionExecutor F} {u v : List (Interaction F)}
    (h : Observes K s u s₁)
    (hbatch : ⟨.drainEvents, .ok events⟩ ∈ u) (h' : Appends events s₁ v s₂) :
  Observes K s (u ++ v) s₂
  := by
  obtain ⟨new, hnew, hdrained⟩ := h.events
  obtain ⟨new', hnew', hsubset⟩ := h'.events
  rw [h'.calls, List.append_nil]
  refine ⟨h.calls, h'.settled.trans h.settled, h'.active.trans h.active, new ++ new', ?_, ?_⟩
  · rw [hnew', hnew, List.append_assoc]
  · intro event hevent
    rcases List.mem_append.mp hevent with hevent | hevent
    · apply hdrained event hevent
    · exact ⟨events, hbatch, hsubset hevent⟩

variable {s s' : MissionExecutor F} {u : List (Interaction F)}

/-- The last interaction of a call is the call, and before it only callbacks run. -/
theorem runs_perform_observes (hK : AllowsWaiting K) {r : Except Raised c.Answer}
    (h : Runs (perform config c) s u r s') :
  ∃ v, u = v ++ [⟨c, r⟩] ∧ Observes K s v s'
  := by
  obtain ⟨ks, r', v, rfl, hcallbacks⟩ := runs_call h
  refine ⟨v, rfl, ?_⟩
  apply (Respects.callbacks (observes_sequential K) _ ks).of_runs hcallbacks
  intro currentWaypoint
  apply observes_recordFeedback hK

theorem runs_perform {r : Except Raised c.Answer} (h : Runs (perform config c) s u r s') :
  ∃ v, u = v ++ [⟨c, r⟩]
  := by
  obtain ⟨ks, r', v, rfl, -⟩ := runs_call h
  exact ⟨v, rfl⟩

variable (faultDriver : Bool)

theorem observes_collectFaultEvents (hK : AllowsDraining K) :
  Respects (collectFaultEvents config faultDriver) (Observes K)
  := by
  unfold collectFaultEvents
  split
  · intro s u r s' h
    obtain ⟨r₁, s₁, u₁, u₂, rfl, hdrain, hrest⟩ := runs_andThen h
    have hobserves := (observes_perform config hK.toAllowsWaiting hK.drainEvents).of_runs hdrain
    cases r₁ with
    | error e =>
        obtain ⟨-, rfl, rfl⟩ := runs_done hrest
        rw [List.append_nil]
        exact hobserves
    | ok events =>
        obtain ⟨r₂, s₂, u₃, u₄, rfl, heach, hcount⟩ := runs_andThen hrest
        have happends := (appends_collectEach events (List.Subset.refl _)).of_runs heach
        have hbatch : ⟨.drainEvents, .ok events⟩ ∈ u₁ := by
          obtain ⟨v, rfl⟩ := runs_perform config hdrain
          simp
        rw [← List.append_assoc]
        apply (observes_sequential K).trans (hobserves.appends hbatch happends)
        have hoverflow : Respects (do
            let overflow ← perform config .eventOverflowCount
            if overflow ≠ 0 then do
              modifyRecord fun record => { record with
                faultEventOverflow := true
                faultEventOverflowCount := overflow }
              raise (.faultProtocolError "fault_event_subscriber_overflow")
            else pure ()) (Observes K) := by
          apply observes_bind (observes_perform config hK.toAllowsWaiting hK.eventOverflowCount)
          intro overflow
          split
          · apply observes_bind
            · apply observes_modifyRecord
              · intro record
                rfl
              · intro record
                rfl
            · intro _
              apply observes_raise
          · apply observes_pure
        cases r₂ with
        | error e => apply (Respects.done (observes_sequential K) _).of_runs hcount
        | ok _ => apply hoverflow.of_runs hcount
  · apply observes_pure

theorem observes_findFaultEvent (hK : AllowsDraining K) (eventType : Int) (startIndex : Nat) :
  Respects (findFaultEvent config faultDriver eventType startIndex) (Observes K)
  := by
  apply observes_bind (observes_collectFaultEvents config faultDriver hK)
  intro _
  apply observes_bind observes_getRecord
  intro record
  apply observes_pure

theorem observes_waitForFaultEvent (hK : AllowsDraining K) (eventType : Int) :
  Respects (waitForFaultEvent config faultDriver eventType) (Observes K)
  := by
  apply observes_bind (observes_deadlineAfter hK.toAllowsWaiting _)
  intro deadline
  apply observes_bind observes_getRecord
  intro record
  apply observes_bind
  · apply observes_waitUntil config hK.toAllowsWaiting
    apply observes_findFaultEvent config faultDriver hK
  · intro found
    cases found with
    | some event => apply observes_pure
    | none =>
        apply observes_bind (observes_findFaultEvent config faultDriver hK _ _)
        intro found
        cases found with
        | some event => apply observes_pure
        | none => apply observes_raise

/-- The calls of a reset are allowed. -/
structure AllowsReset (K : Call F → Prop) : Prop extends AllowsDraining K where
  startReset : K .startReset
  pollResetResponse : K .pollResetResponse

theorem observes_resetFaults (hK : AllowsReset K) (beforeGoal : Bool) :
  Respects (resetFaults config faultDriver beforeGoal) (Observes K)
  := by
  have hwaiting := hK.toAllowsWaiting
  unfold resetFaults
  split
  · apply observes_bind (observes_perform config hwaiting hK.startReset)
    intro _
    apply observes_bind
    · apply observes_waitForValue config hwaiting
      apply observes_perform config hwaiting hK.pollResetResponse
    · intro response
      cases response with
      | none => apply observes_pure
      | some response =>
          simp only
          split
          · apply observes_bind
            · apply observes_waitForFaultEvent config faultDriver hK.toAllowsDraining
            · intro resetEvent
              split
              · apply observes_pure
              · apply observes_bind
                · cases beforeGoal with
                  | true =>
                      apply observes_modifyRecord
                      · intro record
                        rfl
                      · intro record
                        rfl
                  | false =>
                      apply observes_modifyRecord
                      · intro record
                        rfl
                      · intro record
                        rfl
                · intro _
                  apply observes_bind (observes_event hwaiting _ _ _)
                  intro _
                  apply observes_pure
          · apply observes_pure
  · apply observes_pure

/-! ### What a wait finds -/

omit [PyFloat F] in
theorem runs_getRecord {record : ExecutionRecord F} (h : Runs getRecord s u (.ok record) s') :
  record = s.record ∧ s' = s ∧ u = []
  := by
  obtain ⟨executor, s₁, u₁, u₂, rfl, hstate, hpure⟩ := runs_bind_ok h
  obtain ⟨hexecutor, rfl, rfl⟩ := runs_getState hstate
  obtain ⟨hrecord, rfl, rfl⟩ := runs_pure hpure
  rw [Except.ok.inj hrecord, Except.ok.inj hexecutor]
  exact ⟨rfl, rfl, rfl⟩

omit [PyFloat F] in
theorem runs_modifyRecord {r : Except Raised Unit} (h : Runs (modifyRecord f) s u r s') :
  s' = { s with record := f s.record } ∧ u = []
  := by
  obtain ⟨-, rfl, rfl⟩ := runs_modifyState h
  exact ⟨rfl, rfl⟩

theorem runs_deadlineAfter {timeoutS deadline : F}
    (h : Runs (deadlineAfter timeoutS) s u (.ok deadline) s') :
  s' = s
  := by
  obtain ⟨steady, s₁, u₁, u₂, rfl, hsteady, hpure⟩ := runs_bind_ok h
  obtain ⟨rfl, rfl⟩ := runs_ask hsteady
  exact (runs_pure hpure).2.1

/-- What a wait finds is what its last poll found. -/
theorem runs_waitUntil {deadline : F} {body : Mission F (Option α)} {value : α}
    (h : Runs (waitUntil config deadline body) s u (.ok (some value)) s') :
  ∃ s₁ v w, u = v ++ w ∧ Runs body s₁ w (.ok (some value)) s'
  := by
  have hloop : ∀ r, Runs (waitUntil config deadline body) s u r s' → r = .ok (some value) →
      ∃ s₁ v w, u = v ++ w ∧ Runs body s₁ w (.ok (some value)) s' := by
    intro r hr
    apply runs_loop (P := fun _ _ u r s' => r = .ok (some value) →
      ∃ s₁ v w, u = v ++ w ∧ Runs body s₁ w (.ok (some value)) s') _ _ _ hr
    · intro _ s u found s' hbody hfound
      obtain ⟨waiting, s₁, u₁, u₂, rfl, -, hrest⟩ := runs_bind_ok hbody
      split at hrest
      · obtain ⟨polled, s₂, u₃, u₄, rfl, hpoll, hrest⟩ := runs_bind_ok hrest
        cases polled with
        | none =>
            obtain ⟨_, s₃, u₅, u₆, rfl, -, hrest⟩ := runs_bind_ok hrest
            cases (runs_pure hrest).1
        | some value' =>
            obtain ⟨hvalue, rfl, rfl⟩ := runs_pure hrest
            obtain rfl := Sum.inr.inj (Except.ok.inj hvalue)
            obtain rfl := Option.some.inj (Except.ok.inj hfound)
            rw [List.append_nil]
            exact ⟨s₁, u₁, u₃, rfl, hpoll⟩
      · obtain ⟨hnone, -⟩ := runs_pure hrest
        obtain rfl := Sum.inr.inj (Except.ok.inj hnone)
        cases hfound
    · intro _ s u e s' _ hraised
      cases hraised
    · intro _ _ s u s₁ v r s' _ ih hfound
      obtain ⟨s₂, v', w, rfl, hpoll⟩ := ih hfound
      exact ⟨s₂, u ++ v', w, (List.append_assoc _ _ _).symm, hpoll⟩
  exact hloop _ h rfl

theorem runs_waitForValue {poll : Mission F (Option α)} {timeoutS : F}
    {failOnFeedbackTraceOverflow : Bool} {value : α}
    (h : Runs (waitForValue config poll timeoutS failOnFeedbackTraceOverflow) s u
      (.ok (some value)) s') :
  ∃ s₁ v w, u = v ++ w ∧ Runs poll s₁ w (.ok (some value)) s'
  := by
  obtain ⟨deadline, s₁, u₁, u₂, rfl, -, h⟩ := runs_bind_ok h
  obtain ⟨found, s₂, u₃, u₄, rfl, hwait, h⟩ := runs_bind_ok h
  cases found with
  | some value' =>
      obtain ⟨hvalue, rfl, rfl⟩ := runs_pure h
      obtain rfl := Option.some.inj (Except.ok.inj hvalue)
      obtain ⟨s₃, v, w, rfl, hbody⟩ := runs_waitUntil config hwait
      obtain ⟨_, s₄, u₅, u₆, rfl, -, hpoll⟩ := runs_bind_ok hbody
      refine ⟨s₄, u₁ ++ (v ++ u₅), u₆, ?_, hpoll⟩
      simp only [List.append_assoc, List.append_nil]
  | none =>
      obtain ⟨_, s₃, u₅, u₆, rfl, -, h⟩ := runs_bind_ok h
      obtain ⟨ok, s₄, u₇, u₈, rfl, -, h⟩ := runs_bind_ok h
      split at h
      · refine ⟨s₄, u₁ ++ (u₃ ++ (u₅ ++ u₇)), u₈, ?_, h⟩
        simp only [List.append_assoc]
      · cases (runs_pure h).1

theorem runs_findFaultEvent {eventType : Int} {startIndex : Nat}
    (h : Runs (findFaultEvent config faultDriver eventType startIndex) s u (.ok (some event)) s') :
  event ∈ s'.record.faultEvents.drop startIndex ∧
    (PyValue.item "event_type" event).equalsInt eventType = true
  := by
  obtain ⟨_, s₁, u₁, u₂, rfl, -, h⟩ := runs_bind_ok h
  obtain ⟨record, s₂, u₃, u₄, rfl, hrecord, h⟩ := runs_bind_ok h
  obtain ⟨rfl, rfl, rfl⟩ := runs_getRecord hrecord
  obtain ⟨hfound, rfl, rfl⟩ := runs_pure h
  have hfind := (Except.ok.inj hfound).symm
  have htype := List.find?_some hfind
  exact ⟨List.mem_of_find?_eq_some hfind, htype⟩

/-- The event that a wait finds was drained during the wait. -/
theorem runs_waitForFaultEvent {eventType : Int}
    (h : Runs (waitForFaultEvent config faultDriver eventType) s u (.ok event) s') :
  ∃ batch, ⟨.drainEvents, .ok batch⟩ ∈ u ∧ event ∈ batch ∧
    (PyValue.item "event_type" event).equalsInt eventType = true
  := by
  obtain ⟨new, hnew, hdrained⟩ := ((observes_waitForFaultEvent config faultDriver
    anyCall_allowsDraining eventType).of_runs h).events
  have hevent : event ∈ s'.record.faultEvents.drop s.record.faultEvents.length ∧
      (PyValue.item "event_type" event).equalsInt eventType = true := by
    obtain ⟨deadline, s₁, u₁, u₂, rfl, hdeadline, hrest⟩ := runs_bind_ok h
    obtain rfl := runs_deadlineAfter hdeadline
    obtain ⟨record, s₂, u₃, u₄, rfl, hrecord, hsearch⟩ := runs_bind_ok hrest
    obtain ⟨rfl, rfl, rfl⟩ := runs_getRecord hrecord
    obtain ⟨found, s₄, u₇, u₈, rfl, hwait, hend⟩ := runs_bind_ok hsearch
    cases found with
    | some found =>
        obtain ⟨hfound, rfl, rfl⟩ := runs_pure hend
        obtain rfl := Except.ok.inj hfound
        obtain ⟨s₅, v, w, -, hfind⟩ := runs_waitUntil config hwait
        apply runs_findFaultEvent config faultDriver hfind
    | none =>
        obtain ⟨found, s₅, u₉, u₁₀, rfl, hfind, hlast⟩ := runs_bind_ok hend
        cases found with
        | some found =>
            obtain ⟨hfound, rfl, rfl⟩ := runs_pure hlast
            obtain rfl := Except.ok.inj hfound
            apply runs_findFaultEvent config faultDriver hfind
        | none => cases (runs_raise hlast).1
  rw [hnew, List.drop_left] at hevent
  obtain ⟨batch, hbatch, hmem⟩ := hdrained event hevent.1
  exact ⟨batch, hbatch, hmem, hevent.2⟩

end Observation

end Missions

end RobotestLab
