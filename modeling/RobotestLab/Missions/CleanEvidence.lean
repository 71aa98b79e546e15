import RobotestLab.Missions.Accounting

/-!
# The evidence of a success

The verdict on a terminal result is success only if the evidence so far is clean: no feedback named
a missing waypoint, and no trace overflowed. The feedback of the spins that wait for the final reset
of the faults arrives after the verdict. So the evidence in a successful record is clean exactly
when that feedback names waypoints and fits in the trace (`evidence_clean_iff`).
-/

namespace RobotestLab

namespace Missions

open Program

variable {F : Type}

/-- The evidence is clean. -/
structure ExecutionRecord.Clean (record : ExecutionRecord F) : Prop where
  invalidFeedbackCount : record.invalidFeedbackCount = 0
  feedbackTraceOverflow : record.feedbackTraceOverflow = false
  eventTraceOverflow : record.eventTraceOverflow = false

/-! ### Parts that end with the verdict -/

/-- The part of the mission received its feedback and reported at most `k` events. If it is the one
that makes the verdict success, it ends with clean evidence, provided that the record had the
property before. -/
structure Concludes {α : Type} (b : Behaviour F) (waypointCount k : Nat)
    (P : ExecutionRecord F → Prop) (s : MissionExecutor F) (history : List (Interaction F))
    (r : Except Raised α) (s' : MissionExecutor F) (history' : List (Interaction F)) : Prop where
  spins : spinCount history ≤ spinCount history'
  receives : Receives waypointCount b.ClocksAnswer (b.delivered history history') s.record s'.record
  reports : Reported k s.record s'.record
  error : ∀ e, r = .error e → s'.record.exitCode = .success → s.record.exitCode = .success
  success : P s.record → s'.record.exitCode = .success →
    s.record.exitCode = .success ∨ s'.record.Clean

def KeepsConclusion {α : Type} (b : Behaviour F) (waypointCount k : Nat)
    (P : ExecutionRecord F → Prop) (m : Mission F α) : Prop :=
  ∀ fuel s history r s' u, m b.environment fuel s history = some (r, s', u) →
    Concludes b waypointCount k P s history r s' (history ++ u)

/-- Any record. -/
def Always (_ : ExecutionRecord F) : Prop := True

/-- There is no feedback without room in the trace. -/
def Uncrowded (record : ExecutionRecord F) : Prop := record.feedbackTraceOverflow = false

section Conclusions

variable {b : Behaviour F} {waypointCount j k : Nat} {P : ExecutionRecord F → Prop} {α β : Type}
  {m : Mission F α}

theorem conclude_of_account (hm : KeepsAccount b waypointCount k m) :
  KeepsConclusion b waypointCount k P m
  := by
  intro fuel s history r s' u hrun
  have haccounts := hm _ _ _ _ _ _ hrun
  exact ⟨haccounts.spins, haccounts.takes.toReceives, haccounts.takes.toReported,
    fun _ _ => haccounts.takes.sober, fun _ hsuccess => .inl (haccounts.takes.sober hsuccess)⟩

theorem conclude_mono (hm : KeepsConclusion b waypointCount j P m) (hjk : j ≤ k) :
  KeepsConclusion b waypointCount k P m
  := by
  intro fuel s history r s' u hrun
  have h := hm _ _ _ _ _ _ hrun
  exact ⟨h.spins, h.receives, h.reports.mono hjk, h.error, h.success⟩

theorem Concludes.of_error {e : Raised} {s s' : MissionExecutor F}
    {history history' : List (Interaction F)}
    (h : Accounts b waypointCount j s history s' history') (hjk : j ≤ k) :
  Concludes b waypointCount k P s history (.error e : Except Raised α) s' history'
  := ⟨h.spins, h.takes.toReceives, h.takes.toReported.mono hjk, fun _ _ => h.takes.sober,
    fun _ hsuccess => .inl (h.takes.sober hsuccess)⟩

/-- After a part that keeps account, it is the rest that makes the verdict. -/
theorem Concludes.after {Q : ExecutionRecord F → Prop} {r : Except Raised α}
    {s s₁ s' : MissionExecutor F} {history history₁ history' : List (Interaction F)}
    (h : Accounts b waypointCount j s history s₁ history₁) (hQ : P s.record → Q s₁.record)
    (hrest : Concludes b waypointCount k Q s₁ history₁ r s' history') :
  Concludes b waypointCount (k + j) P s history r s' history'
  := by
  refine ⟨le_trans h.spins hrest.spins, ?_, ?_, ?_, ?_⟩
  · rw [b.delivered_append h.spins hrest.spins]
    exact h.takes.toReceives.trans hrest.receives
  · rw [Nat.add_comm]
    exact h.takes.toReported.trans hrest.reports
  · intro e he hsuccess
    exact h.takes.sober (hrest.error e he hsuccess)
  · intro hP hsuccess
    rcases hrest.success (hQ hP) hsuccess with hbefore | hclean
    · exact .inl (h.takes.sober hbefore)
    · exact .inr hclean

theorem conclude_bind {f : α → Mission F β} (hm : KeepsAccount b waypointCount j m)
    (hf : ∀ a, KeepsConclusion b waypointCount k Always (f a)) :
  KeepsConclusion b waypointCount (k + j) P (m >>= f)
  := by
  intro fuel s history r s' w hrun
  rcases eq_bind hrun with ⟨e, rfl, hraise⟩ | ⟨a, s₁, u, v, hfirst, rfl, hrest⟩
  · exact Concludes.of_error (hm _ _ _ _ _ _ hraise) (Nat.le_add_left j k)
  · rw [← List.append_assoc]
    apply Concludes.after (hm _ _ _ _ _ _ hfirst) (fun _ => trivial) (hf a _ _ _ _ _ _ hrest)

/-- Without spins, no feedback arrives. -/
theorem conclude_spinless {f : α → Mission F β}
    (hm : KeepsAccount b waypointCount j m) (hspinless : Respects m Spinless)
    (hf : ∀ a, KeepsConclusion b waypointCount k Uncrowded (f a)) :
  KeepsConclusion b waypointCount (k + j) Uncrowded (m >>= f)
  := by
  intro fuel s history r s' w hrun
  rcases eq_bind hrun with ⟨e, rfl, hraise⟩ | ⟨a, s₁, u, v, hfirst, rfl, hrest⟩
  · exact Concludes.of_error (hm _ _ _ _ _ _ hraise) (Nat.le_add_left j k)
  · rw [← List.append_assoc]
    refine Concludes.after (hm _ _ _ _ _ _ hfirst) ?_ (hf a _ _ _ _ _ _ hrest)
    intro huncrowded
    exact (takes_of_account hm hspinless hfirst).toReceives.uncrowded huncrowded

/-- The test for an overflow of the feedback trace passes only without one. -/
theorem conclude_checked {f : Unit → Mission F β}
    (hf : KeepsConclusion b waypointCount k Uncrowded (f ())) :
  KeepsConclusion b waypointCount k P (raiseIfFeedbackTraceOverflow >>= f)
  := by
  intro fuel s history r s' w hrun
  rcases eq_bind hrun with ⟨e, rfl, hraise⟩ | ⟨a, s₁, u, v, hfirst, rfl, hrest⟩
  · apply Concludes.of_error (account_raiseIfFeedbackTraceOverflow _ _ _ _ _ _ hraise)
      (Nat.zero_le k)
  · rw [← List.append_assoc]
    refine Concludes.after (account_raiseIfFeedbackTraceOverflow _ _ _ _ _ _ hfirst) ?_
      (hf _ _ _ _ _ _ hrest)
    intro _
    have hread := eq_getRecord hfirst
    cases hflag : s.record.feedbackTraceOverflow with
    | true =>
        rw [hflag] at hread
        cases hread
    | false =>
        rw [hflag] at hread
        cases hread
        exact hflag

/-- A part after which nothing happens any more. -/
theorem conclude_last {a : α → β} (hm : KeepsConclusion b waypointCount k P m) :
  KeepsConclusion b waypointCount k P (m >>= fun x => pure (a x))
  := by
  intro fuel s history r s' w hrun
  rcases eq_bind hrun with ⟨e, rfl, hraise⟩ | ⟨a, s₁, u, v, hfirst, rfl, hrest⟩
  · have h := hm _ _ _ _ _ _ hraise
    exact ⟨h.spins, h.receives, h.reports, fun _ _ => h.error e rfl, h.success⟩
  · have h := hm _ _ _ _ _ _ hfirst
    cases hrest
    rw [List.append_nil]
    exact ⟨h.spins, h.receives, h.reports, nofun, h.success⟩

/-- If a part raises, then it does not make the verdict success. -/
theorem conclude_attempt {handler : Raised → Mission F α}
    (hm : KeepsConclusion b waypointCount j P m)
    (hhandler : ∀ e, KeepsAccount b waypointCount k (handler e)) :
  KeepsConclusion b waypointCount (k + j) P (attempt m handler)
  := by
  intro fuel s history r s' w hrun
  obtain ⟨r₁, s₁, u, v, hfirst, rfl, hrest⟩ := eq_andThen hrun
  have h := hm _ _ _ _ _ _ hfirst
  rw [← List.append_assoc]
  cases r₁ with
  | ok a =>
      cases hrest
      rw [List.append_nil]
      exact ⟨h.spins, h.receives, h.reports.mono (Nat.le_add_left j k), nofun, h.success⟩
  | error e =>
      have haccounts := hhandler e _ _ _ _ _ _ hrest
      refine ⟨le_trans h.spins haccounts.spins, ?_, ?_, ?_, ?_⟩
      · rw [b.delivered_append h.spins haccounts.spins]
        exact h.receives.trans haccounts.takes.toReceives
      · rw [Nat.add_comm]
        exact h.reports.trans haccounts.takes.toReported
      · intro _ _ hsuccess
        exact h.error e rfl (haccounts.takes.sober hsuccess)
      · intro _ hsuccess
        exact .inl (h.error e rfl (haccounts.takes.sober hsuccess))

/-- A loop whose last round makes the verdict. -/
theorem conclude_loop {L : Type} {body : L → Mission F (L ⊕ α)}
    (hlast : ∀ l, KeepsConclusion b waypointCount k Always (body l))
    (hnext : ∀ l, Paces b.environment Continues (body l) (Accounts b waypointCount)) (l : L) :
  KeepsConclusion b waypointCount k Always (loop body l)
  := by
  have hiterate : ∀ rounds l, KeepsConclusion b waypointCount k Always (iterate body rounds l) := by
    intro rounds
    induction rounds with
    | zero =>
        intro l fuel s history r s' w hrun
        cases hrun
    | succ rounds ih =>
        intro l fuel s history r s' w hrun
        obtain ⟨r₁, s₁, u, v, hbody, rfl, hrest⟩ := eq_andThen hrun
        have h := hlast l _ _ _ _ _ _ hbody
        match r₁ with
        | .ok (.inl l') =>
            rw [← List.append_assoc]
            exact Concludes.after (hnext l _ _ _ _ _ _ hbody rfl) id (ih l' _ _ _ _ _ _ hrest)
        | .ok (.inr a) =>
            cases hrest
            rw [List.append_nil]
            exact ⟨h.spins, h.receives, h.reports, nofun, h.success⟩
        | .error e =>
            cases hrest
            rw [List.append_nil]
            exact ⟨h.spins, h.receives, h.reports, fun _ _ => h.error e rfl, h.success⟩
  intro fuel s history r s' u hrun
  exact hiterate fuel l _ _ _ _ _ _ hrun

end Conclusions

/-! ### The verdict -/

section Verdict

variable [PyFloat F] {b : Behaviour F} {config : MissionConfig F} {faultDriver : Bool}

omit [PyFloat F] in
theorem spinless_collectFaultEvent (event : FaultEventDict) :
  Respects (collectFaultEvent event : Mission F Unit) Spinless
  := by
  have hraise : ∀ e, Respects (raise e : Mission F Unit) Spinless :=
    Respects.raise spinless_sequential
  unfold collectFaultEvent
  split
  · apply hraise
  split
  · apply hraise
  split
  · apply hraise
  apply Respects.bind spinless_sequential (Respects.getState spinless_sequential)
  intro executor
  split
  · apply hraise
  apply Respects.bind spinless_sequential (Respects.modifyState fun _ => rfl)
  intro _
  split
  · apply Respects.bind spinless_sequential (spinless_modifyRecord _)
    intro _
    apply hraise
  · apply spinless_modifyRecord

omit [PyFloat F] in
theorem spinless_collectEach (events : List FaultEventDict) :
  Respects (collectEach events : Mission F Unit) Spinless
  := by
  induction events with
  | nil => apply Respects.pure spinless_sequential
  | cons event events ih =>
      apply Respects.bind spinless_sequential (spinless_collectFaultEvent event) fun _ => ih

theorem spinless_collectFaultEvents :
  Respects (collectFaultEvents config faultDriver) Spinless
  := by
  cases faultDriver with
  | false => apply Respects.pure spinless_sequential
  | true =>
      apply Respects.bind spinless_sequential (spinless_perform rfl)
      intro events
      apply Respects.bind spinless_sequential (spinless_collectEach _)
      intro _
      apply Respects.bind spinless_sequential (spinless_perform rfl)
      intro overflow
      split
      · apply Respects.bind spinless_sequential (spinless_modifyRecord _)
        intro _
        apply Respects.raise spinless_sequential
      · apply Respects.pure spinless_sequential

theorem spinless_captureTerminal (terminal : TerminalActionResult) :
  Respects (captureTerminal terminal : Mission F Unit) Spinless
  := by
  apply Respects.bind spinless_sequential (spinless_modifyRecord _)
  intro _
  apply Respects.bind spinless_sequential (spinless_ask rfl)
  intro stamp
  apply Respects.bind spinless_sequential (spinless_modifyRecord _)
  intro _
  apply Respects.bind spinless_sequential spinless_wallOffset
  intro offset
  apply Respects.bind spinless_sequential (spinless_modifyRecord _)
  intro _
  apply spinless_event

omit [PyFloat F] in
/-- The verdict is success only if no feedback was invalid. -/
theorem valid_of_terminalVerdict {record : ExecutionRecord F} {terminal : TerminalActionResult}
    (h : (terminalVerdict record terminal).1 = .success) :
  record.invalidFeedbackCount = 0
  := by
  by_contra hinvalid
  unfold terminalVerdict at h
  split at h
  · cases h
  split at h
  · split at h
    · cases h
    split at h
    · cases h
    cases h
  · split at h
    · cases h
    split at h
    · cases h
    cases h

omit [PyFloat F] in
/-- A verdict without invalid feedback. -/
theorem concludes_finish {waypointCount fuel : Nat} {exitCode : ExitCode} {reason : String}
    {s s' : MissionExecutor F} {history u : List (Interaction F)} {r : Except Raised Unit}
    (hvalid : s.record.invalidFeedbackCount = 0)
    (h : finish exitCode reason b.environment fuel s history = some (r, s', u)) :
  Concludes b waypointCount 0 Uncrowded s history r s' (history ++ u)
  := by
  have hneutral : Neutral s.record { s'.record with exitCode := s.record.exitCode } := by
    cases h
    refine ⟨?_, ?_, ?_, ?_, ?_, ?_, id⟩ <;> simp only <;> split <;> rfl
  have hu : u = [] := by
    cases h
    rfl
  have hcode : s'.record.exitCode = .success → s.record.eventTraceOverflow = false := by
    cases h
    intro hsuccess
    cases hflag : s.record.eventTraceOverflow with
    | false => rfl
    | true =>
        simp only [hflag, if_true] at hsuccess
        cases hsuccess
  have htakes := hneutral.takes waypointCount b.ClocksAnswer
  refine ⟨?_, ?_, ?_, ?_, ?_⟩
  · rw [hu, List.append_nil]
  · rw [hu, List.append_nil, b.delivered_self]
    exact ⟨htakes.bounded, htakes.total, htakes.counted, htakes.grows, htakes.overflows,
      htakes.overflow, htakes.full, htakes.invalid, htakes.checked⟩
  · exact ⟨htakes.reported, htakes.events, htakes.eventOverflow⟩
  · rintro e rfl
    cases h
  · intro huncrowded hsuccess
    refine .inr ⟨?_, ?_, ?_⟩
    · exact hneutral.invalid.trans hvalid
    · exact hneutral.overflow.trans huncrowded
    · exact hneutral.eventOverflow.trans (hcode hsuccess)

/-- The verdict on a terminal result. -/
theorem conclude_finishFromTerminal {waypointCount : Nat} (terminal : TerminalActionResult) :
  KeepsConclusion b waypointCount 1 Uncrowded (finishFromTerminal terminal : Mission F Unit)
  := by
  apply conclude_spinless (account_captureTerminal terminal) (spinless_captureTerminal terminal)
  intro _ fuel s history r s' u hrun
  have hfinish := eq_getRecord hrun
  by_cases hcode : (terminalVerdict s.record terminal).1 = .success
  · exact concludes_finish (valid_of_terminalVerdict hcode) hfinish
  · exact conclude_of_account (account_finish hcode _) _ _ _ _ _ _ hfinish

theorem conclude_monitorRound (localNs : Int) (wallS : F) (stampNs : Int) :
  KeepsConclusion b config.waypoints.length 4 Always
    (monitorRound config faultDriver localNs wallS stampNs)
  := by
  apply conclude_bind (account_ask rfl)
  intro ok
  cases ok with
  | false => exact conclude_last (conclude_of_account (account_finish (by decide) _))
  | true =>
  refine conclude_checked ?_
  apply conclude_spinless account_collectFaultEvents spinless_collectFaultEvents
  intro _
  apply conclude_spinless (account_perform _) (spinless_perform rfl)
  intro observedStatusStampNs
  split
  · apply conclude_of_account (account_raise _)
  apply conclude_spinless (account_perform _) (spinless_perform rfl)
  intro terminal
  cases terminal with
  | some terminal =>
      apply conclude_last
      exact conclude_mono (conclude_finishFromTerminal terminal) (by decide)
  | none =>
  apply conclude_of_account
  apply account_bind (account_ask rfl)
  intro stampNs
  simp only
  split
  · exact account_bind (j := 0) (account_finish (by decide) _) fun _ => account_pure _
  split
  · apply account_raise
  split
  · apply account_bind (account_cancelAfterDeadline _) fun _ => account_pure _
  apply account_bind (account_ask rfl)
  intro steady
  split
  · apply account_bind (account_cancelAfterDeadline _) fun _ => account_pure _
  · apply account_bind (account_perform _) fun _ => account_pure _

/-- A round after which the loop goes on reports no event and makes no verdict. -/
theorem paces_monitorRound (localNs : Int) (wallS : F) (stampNs : Int) :
  Paces b.environment Continues (monitorRound config faultDriver localNs wallS stampNs)
    (Accounts b config.waypoints.length)
  := by
  have hgraded := accounts_graded b config.waypoints.length
  apply Paces.after hgraded (account_ask rfl)
  intro ok
  cases ok with
  | false => exact Paces.last nofun
  | true =>
  apply Paces.after hgraded account_raiseIfFeedbackTraceOverflow
  intro _
  apply Paces.after hgraded account_collectFaultEvents
  intro _
  apply Paces.after hgraded (account_perform _)
  intro observedStatusStampNs
  split
  · apply Paces.raise
  apply Paces.after hgraded (account_perform _)
  intro terminal
  cases terminal with
  | some terminal => exact Paces.last nofun
  | none =>
  apply Paces.after hgraded (account_ask rfl)
  intro stampNs
  simp only
  split
  · exact Paces.last nofun
  split
  · apply Paces.raise
  split
  · exact Paces.last nofun
  apply Paces.after hgraded (account_ask rfl)
  intro steady
  split
  · exact Paces.last nofun
  · exact Paces.of_keeps (account_bind (account_perform _) fun _ => account_pure _)

theorem conclude_waitForTerminalOrDeadline (localNs : Int) (wallS : F) (stampNs : Int) :
  KeepsConclusion b config.waypoints.length 4 Always
    (waitForTerminalOrDeadline config faultDriver localNs wallS stampNs)
  := by
  unfold waitForTerminalOrDeadline
  split
  · apply conclude_of_account (account_raise _)
  · apply conclude_loop
    · intro _
      apply conclude_monitorRound
    · intro _
      apply paces_monitorRound

/-! ### The mission before the final reset -/

theorem conclude_monitorGoal (goalUuid : String) (responseStampNs localNs : Int) (wallS : F)
    (stampNs : Int) :
  KeepsConclusion b config.waypoints.length 7 Always
    (monitorGoal config faultDriver goalUuid responseStampNs localNs wallS stampNs)
  := by
  refine conclude_bind (account_modifyRecord ?_) ?_
  · exact fun _ => ⟨rfl, rfl, rfl, rfl, rfl, rfl, id⟩
  intro _
  apply conclude_bind (account_event _ _ _)
  intro _
  split
  · apply conclude_of_account (account_raise _)
  apply conclude_bind (account_waitForClientClockToReach _ _)
  intro reached
  cases reached with
  | true =>
      apply conclude_bind (account_onlyIf (account_armFaultSchedule _ _))
      intro _
      apply conclude_waitForTerminalOrDeadline
  | false =>
      apply conclude_of_account
      apply account_bind (account_event _ _ _)
      intro _
      apply account_failClosedAfterAcceptance

theorem conclude_proveAcceptance (goalUuid : String) (responseStampNs : Int) :
  KeepsConclusion b config.waypoints.length 8 Always
    (proveAcceptance config faultDriver goalUuid responseStampNs)
  := by
  apply conclude_bind (account_ask rfl)
  intro localNs
  split
  · apply conclude_of_account (account_raise _)
  apply conclude_bind account_getRecord
  intro record
  split
  · apply conclude_of_account (account_raise _)
  apply conclude_bind (account_ask rfl)
  intro wallS
  refine conclude_bind (account_modifyRecord ?_) ?_
  · exact fun _ => ⟨rfl, rfl, rfl, rfl, rfl, rfl, id⟩
  intro _
  apply conclude_bind account_wallOffset
  intro offset
  refine conclude_bind (account_modifyRecord ?_) ?_
  · exact fun _ => ⟨rfl, rfl, rfl, rfl, rfl, rfl, id⟩
  intro _
  apply conclude_bind (account_event _ _ _)
  intro _
  apply conclude_bind account_raiseIfFeedbackTraceOverflow
  intro _
  apply conclude_bind (account_waitForValue (account_perform _) _ _)
  intro stampNs
  split
  · apply conclude_of_account
    apply account_bind (account_event _ _ _)
    intro _
    apply account_mono (account_failClosedAfterAcceptance _) (by decide)
  · apply conclude_monitorGoal

theorem conclude_followGoal (response : GoalResponse) :
  KeepsConclusion b config.waypoints.length 8 Always (followGoal config faultDriver response)
  := by
  refine conclude_bind (account_modifyState ?_) ?_
  · exact fun _ => ⟨rfl, rfl, rfl, rfl, rfl, rfl, id⟩
  intro _
  split
  · apply conclude_mono (conclude_of_account (account_failClosedAfterAcceptance _)) (by decide)
  split
  · apply conclude_of_account (account_raise _)
  · apply conclude_proveAcceptance

theorem conclude_submitGoal :
  KeepsConclusion b config.waypoints.length 9 Always (submitGoal config faultDriver)
  := by
  apply conclude_bind (account_ask rfl)
  intro submissionNs
  refine conclude_bind (account_modifyRecord ?_) ?_
  · exact fun _ => ⟨rfl, rfl, rfl, rfl, rfl, rfl, id⟩
  intro _
  split
  · apply conclude_of_account (account_raise _)
  apply conclude_bind (account_event _ _ _)
  intro _
  apply conclude_bind (account_perform _)
  intro _
  apply conclude_bind (account_waitForValue (account_perform _) _ _)
  intro response
  cases response with
  | none => exact conclude_of_account (account_finish (by decide) _)
  | some response =>
      simp only
      split
      · apply conclude_followGoal
      · apply conclude_of_account
        apply account_bind (account_event _ _ _)
        intro _
        exact account_finish (by decide) _

theorem conclude_runBody :
  KeepsConclusion b config.waypoints.length 13 Always (runBody config faultDriver)
  := by
  apply conclude_bind account_waitForAdvancingPositiveSimTime
  intro advancing
  cases advancing with
  | false => exact conclude_of_account (account_finish (by decide) _)
  | true =>
  apply conclude_bind (account_onlyIf account_prepareFaultSchedule)
  intro _
  apply conclude_bind account_waitForServer
  intro ready
  cases ready with
  | false => exact conclude_of_account (account_finish (by decide) _)
  | true => apply conclude_submitGoal

theorem conclude_runOnce :
  KeepsConclusion b config.waypoints.length 18 Always (runOnce config faultDriver)
  := by
  refine conclude_attempt (k := 5) conclude_runBody ?_
  apply account_handleError

end Verdict

/-! ### After the verdict -/

/-- All the feedback names waypoints. -/
def NamesWaypoints (waypointCount : Nat) (ks : List Int) : Prop :=
  ∀ k ∈ ks, validIndex waypointCount k = true

theorem invalidCount_eq_zero_iff {waypointCount : Nat} {ks : List Int} :
  invalidCount waypointCount ks = 0 ↔ NamesWaypoints waypointCount ks
  := by
  rw [invalidCount, List.countP_eq_zero]
  simp [NamesWaypoints]

section Late

variable {waypointCount k : Nat} {answered : Prop} {late : List Int}
variable {record record' : ExecutionRecord F}

/-- Clean evidence stays clean, if the feedback names waypoints and fits in the trace and there is
room for the events. -/
theorem Takes.clean (h : Takes waypointCount answered late k record record') (hclean : record.Clean)
    (hevents : record.eventPotential + k < MISSION_EVENT_TRACE_CAPACITY)
    (hnames : NamesWaypoints waypointCount late)
    (hfits : record.feedbackTrace.length + late.length ≤ FEEDBACK_TRACE_CAPACITY) :
  record'.Clean
  := by
  have hsame : record'.feedbackTraceOverflowCount = record.feedbackTraceOverflowCount := by
    by_contra hdiffers
    have hless := lt_of_le_of_ne h.overflows (Ne.symm hdiffers)
    have hfull := h.full hless
    have htotal := h.total
    omega
  constructor
  · rw [h.checked hsame, hclean.invalidFeedbackCount, invalidCount_eq_zero_iff.mpr hnames]
  · rw [← Bool.not_eq_true, h.overflow, hclean.feedbackTraceOverflow, hsame]
    rintro (hbefore | hless)
    · cases hbefore
    · exact absurd hless (lt_irrefl _)
  · rw [← Bool.not_eq_true]
    intro hoverflow
    rcases h.eventOverflow hoverflow with hbefore | hfull
    · rw [hclean.eventTraceOverflow] at hbefore
      cases hbefore
    · have hreported := h.reported
      have hpotential : record'.events.length ≤ record'.eventPotential := Nat.le_add_right _ _
      omega

/-- Without an overflow, every piece of feedback was checked and counted. -/
theorem Takes.overflowCount_eq (h : Takes waypointCount answered late k record record')
    (hclean : record'.Clean) :
  record'.feedbackTraceOverflowCount = record.feedbackTraceOverflowCount
  := by
  have hflag := hclean.feedbackTraceOverflow
  rw [← Bool.not_eq_true, h.overflow, not_or] at hflag
  exact le_antisymm (Nat.le_of_not_lt hflag.2) h.overflows

theorem Takes.names (h : Takes waypointCount answered late k record record')
    (hclean : record'.Clean) :
  NamesWaypoints waypointCount late
  := by
  have hchecked := h.checked (h.overflowCount_eq hclean)
  rw [hclean.invalidFeedbackCount] at hchecked
  apply invalidCount_eq_zero_iff.mp
  omega

theorem Takes.fits (h : Takes waypointCount answered late k record record') (hanswered : answered)
    (hbound : record.feedbackTrace.length ≤ FEEDBACK_TRACE_CAPACITY) (hclean : record'.Clean) :
  record.feedbackTrace.length + late.length ≤ FEEDBACK_TRACE_CAPACITY
  := by
  have hcounted := h.counted hanswered
  have hsame := h.overflowCount_eq hclean
  have hbounded := h.bounded hbound
  omega

end Late

section Run

variable [PyFloat F] {config : MissionConfig F} {faultDriver : Bool}

/-- The evidence in a successful record is clean exactly when the feedback of the spins after the
verdict names waypoints and fits in the trace. Where a clock raises, the feedback that is about to
be recorded is lost and needs no room. -/
theorem evidence_clean_iff (config : MissionConfig F) (faultDriver : Bool) (b : Behaviour F)
    {fuel : Nat} {startNs : Int} {startS : F} {record : ExecutionRecord F} {s' : MissionExecutor F}
    {u : List (Interaction F)}
    (hrun : run config faultDriver b.environment fuel (MissionExecutor.new startNs startS) [] =
      some (.ok record, s', u))
    (hsuccess : record.exitCode = .success) :
  ∃ s₁ u₁, runOnce config faultDriver b.environment fuel (MissionExecutor.new startNs startS) [] =
      some (.ok (), s₁, u₁) ∧ s₁.record.exitCode = .success ∧
    (NamesWaypoints config.waypoints.length (b.delivered u₁ u) →
      s₁.record.feedbackTrace.length + (b.delivered u₁ u).length ≤ FEEDBACK_TRACE_CAPACITY →
        record.Clean) ∧
    (record.Clean → NamesWaypoints config.waypoints.length (b.delivered u₁ u)) ∧
    (b.ClocksAnswer → record.Clean →
      s₁.record.feedbackTrace.length + (b.delivered u₁ u).length ≤ FEEDBACK_TRACE_CAPACITY)
  := by
  rcases eq_bind hrun with ⟨e, he, -⟩ | ⟨_, s₁, u₁, v, hmission, rfl, hrest⟩
  · cases he
  rcases eq_bind hrest with ⟨e, he, -⟩ | ⟨_, s₂, u₂, w, htearDown, rfl, hread⟩
  · cases he
  obtain ⟨rfl, rfl⟩ : record = s₂.record ∧ w = [] := by
    cases hread
    exact ⟨rfl, rfl⟩
  rw [List.append_nil]
  have hconcludes := conclude_runOnce _ _ _ _ _ _ hmission
  have haccounts := @account_onlyIf _ _ _ config.isPhase3 _ _
    (@account_tearDown _ _ _ config faultDriver)
    _ _ _ _ _ _ htearDown
  rw [List.nil_append] at hconcludes haccounts
  have htakes := haccounts.takes
  have hbefore := htakes.sober hsuccess
  have hclean : s₁.record.Clean := by
    rcases hconcludes.success trivial hbefore with hstart | hclean
    · cases hstart
    · exact hclean
  have hevents : s₁.record.eventPotential + 2 < MISSION_EVENT_TRACE_CAPACITY := by
    have hreported := hconcludes.reports.reported
    have hstart : (MissionExecutor.new startNs startS).record.eventPotential = 1 := rfl
    rw [hstart] at hreported
    have hcapacity : MISSION_EVENT_TRACE_CAPACITY = 1024 := rfl
    omega
  have hbound : s₁.record.feedbackTrace.length ≤ FEEDBACK_TRACE_CAPACITY :=
    hconcludes.receives.bounded (Nat.zero_le _)
  exact ⟨s₁, u₁, hmission, hbefore, htakes.clean hclean hevents, htakes.names,
    fun hclocks => htakes.fits hclocks hbound⟩

end Run

/-! ### Late feedback -/

section Sample

def lateConfig : MissionConfig ℚ := { sampleConfig with waypoints := [⟨1, 2, 0⟩] }

/-- The mission succeeds after three spins. The final reset is confirmed after one more spin, which
delivers the feedback. -/
def lateBehaviour (currentWaypoint : Int) : Behaviour ℚ where
  answer history c :=
    match c with
    | .pollResetResponse =>
        let resets := history.countP fun i => match i.1 with
          | .startReset => true
          | _ => false
        if resets = 2 ∧ spinCount history < 4 then .ok none
        else .ok (some { success := true, message := "reset" })
    | c => (sampleEnvironment sampleClock history c).result
  feedback n := if n = 3 then [currentWaypoint] else []

/-- A successful record counts an invalid index that arrived during the final reset. -/
theorem late_feedback_unclean :
  ∃ record s' u, run lateConfig true (lateBehaviour 99).environment 50
      (MissionExecutor.new 1000000000 0) [] = some (.ok record, s', u) ∧
    record.exitCode = .success ∧ ¬ record.Clean
  := by
  have hcode : ((run lateConfig true (lateBehaviour 99).environment 50
      (MissionExecutor.new 1000000000 0) []).map fun w => w.1.map fun record =>
        (record.exitCode, record.invalidFeedbackCount)) = some (.ok (.success, 1)) := by
    decide +kernel
  obtain ⟨⟨r, s', u⟩, hrun, hresult⟩ := Option.map_eq_some_iff.mp hcode
  match r, hresult, hrun with
  | .ok record, hresult, hrun =>
      obtain ⟨hsuccess, hinvalid⟩ := Prod.mk.inj (Except.ok.inj hresult)
      refine ⟨record, s', u, hrun, hsuccess, ?_⟩
      intro hclean
      rw [hclean.invalidFeedbackCount] at hinvalid
      cases hinvalid

/-- The index of a waypoint that arrives there does no harm. -/
theorem evidence_clean_iff_sample :
  ∃ record s' u, run lateConfig true (lateBehaviour 0).environment 50
      (MissionExecutor.new 1000000000 0) [] = some (.ok record, s', u) ∧
    record.exitCode = .success ∧ record.Clean ∧
    ∃ s₁ u₁, runOnce lateConfig true (lateBehaviour 0).environment 50
      (MissionExecutor.new 1000000000 0) [] = some (.ok (), s₁, u₁) ∧
      NamesWaypoints 1 ((lateBehaviour 0).delivered u₁ u)
  := by
  have hcode : ((run lateConfig true (lateBehaviour 0).environment 50
      (MissionExecutor.new 1000000000 0) []).map fun w => w.1.map fun record =>
        (record.exitCode, record.invalidFeedbackCount, record.feedbackTraceOverflow,
          record.eventTraceOverflow)) = some (.ok (.success, 0, false, false)) := by
    decide +kernel
  obtain ⟨⟨r, s', u⟩, hrun, hresult⟩ := Option.map_eq_some_iff.mp hcode
  match r, hresult, hrun with
  | .ok record, hresult, hrun =>
      have hfields := Except.ok.inj hresult
      simp only [Prod.mk.injEq] at hfields
      obtain ⟨hsuccess, hinvalid, hoverflow, hevents⟩ := hfields
      have hclean : record.Clean := ⟨hinvalid, hoverflow, hevents⟩
      obtain ⟨s₁, u₁, hmission, -, -, hnames, -⟩ :=
        evidence_clean_iff lateConfig true (lateBehaviour 0) hrun hsuccess
      exact ⟨record, s', u, hrun, hsuccess, hclean, s₁, u₁, hmission, hnames hclean⟩

end Sample

end Missions

end RobotestLab
