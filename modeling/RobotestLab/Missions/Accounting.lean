import RobotestLab.Missions.Feedback

/-!
# The account of a mission

Every part of the executor but the verdict keeps account of the feedback and reports only a few
events: a loop reports an event at most in its last round.
-/

namespace RobotestLab

namespace Missions

open Program

variable {F : Type} {b : Behaviour F}

/-! ### Evidence -/

section Evidence

variable {waypointCount : Nat}

theorem account_raiseIfFeedbackTraceOverflow :
  KeepsAccount b waypointCount 0 (raiseIfFeedbackTraceOverflow : Mission F Unit)
  := by
  apply account_bind account_getRecord
  intro record
  apply account_onlyIf (account_raise _)

theorem account_collectFaultEvent (event : FaultEventDict) :
  KeepsAccount b waypointCount 0 (collectFaultEvent event : Mission F Unit)
  := by
  unfold collectFaultEvent
  split
  · apply account_raise
  split
  · apply account_raise
  split
  · apply account_raise
  apply account_bind account_getState
  intro executor
  split
  · apply account_raise
  refine account_bind (account_modifyState ?_) ?_
  · exact fun _ => ⟨rfl, rfl, rfl, rfl, rfl, rfl, id⟩
  intro _
  split
  · refine account_modify (fun _ => ⟨rfl, rfl, rfl, rfl, rfl, rfl, id⟩) ?_
    intro _
    apply account_raise
  · exact account_modifyRecord fun _ => ⟨rfl, rfl, rfl, rfl, rfl, rfl, id⟩

theorem account_collectEach (events : List FaultEventDict) :
  KeepsAccount b waypointCount 0 (collectEach events : Mission F Unit)
  := by
  induction events with
  | nil => apply account_pure
  | cons event events ih => apply account_bind (account_collectFaultEvent event) fun _ => ih

theorem account_requireFaultContract (config : MissionConfig F) (faultDriver : Bool) :
  KeepsAccount b waypointCount 0 (requireFaultContract config faultDriver)
  := by
  unfold requireFaultContract
  split
  · apply account_pure
  · apply account_raise

end Evidence

section Waits

variable [PyFloat F] {config : MissionConfig F} {faultDriver : Bool}

theorem account_collectFaultEvents :
  KeepsAccount b config.waypoints.length 0 (collectFaultEvents config faultDriver)
  := by
  cases faultDriver with
  | false => apply account_pure
  | true =>
      apply account_bind (account_perform _)
      intro events
      apply account_bind (account_collectEach _)
      intro _
      apply account_bind (account_perform _)
      intro overflow
      split
      · refine account_modify (fun _ => ⟨rfl, rfl, rfl, rfl, rfl, rfl, id⟩) ?_
        intro _
        apply account_raise
      · apply account_pure

theorem account_findFaultEvent (eventType : Int) (startIndex : Nat) :
  KeepsAccount b config.waypoints.length 0 (findFaultEvent config faultDriver eventType startIndex)
  := by
  apply account_bind account_collectFaultEvents
  intro _
  apply account_bind account_getRecord
  intro record
  apply account_pure

theorem account_deadlineAfter {waypointCount : Nat} (timeoutS : F) :
  KeepsAccount b waypointCount 0 (deadlineAfter timeoutS)
  := account_bind (account_ask rfl) fun _ => account_pure _

theorem account_beforeDeadline {waypointCount : Nat} (deadline : F) :
  KeepsAccount b waypointCount 0 (beforeDeadline deadline)
  := by
  apply account_bind (account_ask rfl)
  intro ok
  cases ok with
  | false => apply account_pure
  | true => apply account_bind (account_ask rfl) fun _ => account_pure _

theorem account_spinBounded (deadline : F) :
  KeepsAccount b config.waypoints.length 0 (spinBounded config deadline)
  := by
  apply account_bind (account_ask rfl)
  intro steady
  apply account_perform

/-- A spin, and then another round. -/
theorem account_again {L α : Type} {k : Nat} (deadline : F) (l : L) :
  KeepsAccount b config.waypoints.length k (do
    spinBounded config deadline
    pure (.inl l) : Mission F (L ⊕ α))
  := account_bind (account_spinBounded deadline) fun _ => account_pure _

theorem paces_again {L α : Type} (deadline : F) (l : L) :
  Paces b.environment Continues (do
    spinBounded config deadline
    pure (.inl l) : Mission F (L ⊕ α)) (Accounts b config.waypoints.length)
  := Paces.of_keeps (account_again deadline l)

/-! ### Waits -/

/-- The body of a wait reports events only when the wait is over. -/
theorem account_waitUntil {α : Type} {k : Nat} {deadline : F} {body : Mission F (Option α)}
    (hbody : KeepsAccount b config.waypoints.length k body)
    (hnone : Paces b.environment (· = none) body (Accounts b config.waypoints.length)) :
  KeepsAccount b config.waypoints.length k (waitUntil config deadline body)
  := by
  have hgraded := accounts_graded b config.waypoints.length
  apply Keeps.loop hgraded
  · intro _
    apply account_bind (account_beforeDeadline deadline)
    intro waiting
    cases waiting with
    | false => apply account_pure
    | true =>
        rw [← Nat.zero_add k]
        apply account_bind hbody
        intro found
        cases found with
        | some value => apply account_pure
        | none => apply account_again
  · intro _
    apply Paces.after hgraded (account_beforeDeadline deadline)
    intro waiting
    cases waiting with
    | false => exact Paces.stop nofun
    | true =>
        apply Paces.bind hgraded hnone
        · rintro _ rfl
          apply paces_again
        · intro found hfound
          cases found with
          | none => exact absurd rfl hfound
          | some value => exact ⟨_, rfl, nofun⟩

theorem account_waitForValue {α : Type} {poll : Mission F (Option α)}
    (hpoll : KeepsAccount b config.waypoints.length 0 poll) (timeoutS : F)
    (failOnFeedbackTraceOverflow : Bool) :
  KeepsAccount b config.waypoints.length 0
    (waitForValue config poll timeoutS failOnFeedbackTraceOverflow)
  := by
  apply account_bind (account_deadlineAfter _)
  intro deadline
  have hbody : KeepsAccount b config.waypoints.length 0 (do
      onlyIf failOnFeedbackTraceOverflow raiseIfFeedbackTraceOverflow
      poll) := by
    apply account_bind (account_onlyIf account_raiseIfFeedbackTraceOverflow)
    intro _
    apply hpoll
  apply account_bind (account_waitUntil hbody (Paces.of_keeps hbody))
  intro found
  cases found with
  | some value => apply account_pure
  | none =>
      apply account_bind (account_onlyIf account_raiseIfFeedbackTraceOverflow)
      intro _
      apply account_bind (account_ask rfl)
      intro ok
      cases ok with
      | true => apply hpoll
      | false => apply account_pure

theorem account_waitForServer :
  KeepsAccount b config.waypoints.length 1 (waitForServer config)
  := by
  apply account_bind (account_deadlineAfter _)
  intro deadline
  have hready : ∀ ready : Bool, KeepsAccount b config.waypoints.length 1 (if ready then do
      event "action_server_ready"
      pure (some ())
    else pure none : Mission F (Option Unit)) := by
    intro ready
    cases ready with
    | true => apply account_bind (account_event _ _ _) fun _ => account_pure _
    | false => apply account_pure
  refine account_bind (j := 1) (k := 0) (account_waitUntil ?_ ?_) fun _ => account_pure _
  · apply account_bind (account_perform _) hready
  · apply Paces.after (accounts_graded b _) (account_perform _)
    intro ready
    cases ready with
    | true => exact Paces.last nofun
    | false => exact Paces.of_keeps (account_pure _)

theorem account_waitForAdvancingPositiveSimTime :
  KeepsAccount b config.waypoints.length 1 (waitForAdvancingPositiveSimTime config)
  := by
  have hgraded := accounts_graded b config.waypoints.length
  apply account_bind (account_deadlineAfter _)
  intro deadline
  apply Keeps.loop hgraded
  · intro firstPositiveNs
    apply account_bind (account_beforeDeadline deadline)
    intro waiting
    cases waiting with
    | false => apply account_pure
    | true =>
        apply account_bind (account_ask rfl)
        intro stampNs
        split
        · cases firstPositiveNs with
          | none => apply account_again
          | some first =>
              simp only
              split
              · apply account_bind (account_event _ _ _) fun _ => account_pure _
              · apply account_again
        · apply account_again
  · intro firstPositiveNs
    apply Paces.after hgraded (account_beforeDeadline deadline)
    intro waiting
    cases waiting with
    | false => exact Paces.stop nofun
    | true =>
        apply Paces.after hgraded (account_ask rfl)
        intro stampNs
        split
        · cases firstPositiveNs with
          | none => apply paces_again
          | some first =>
              simp only
              split
              · exact Paces.last nofun
              · apply paces_again
        · apply paces_again

theorem account_waitForClientClockToReach (acceptedStatusStampNs localAcceptanceObservedNs : Int) :
  KeepsAccount b config.waypoints.length 1
    (waitForClientClockToReach config acceptedStatusStampNs localAcceptanceObservedNs)
  := by
  apply account_bind (account_deadlineAfter _)
  intro deadline
  refine account_bind (j := 1) (k := 0) (account_waitUntil ?_ ?_) fun _ => account_pure _
  · apply account_bind account_raiseIfFeedbackTraceOverflow
    intro _
    apply account_bind (account_ask rfl)
    intro localStampNs
    split
    · apply account_raise
    split
    · apply account_raise
    split
    · apply account_bind (account_event _ _ _) fun _ => account_pure _
    · apply account_pure
  · apply Paces.after (accounts_graded b _) account_raiseIfFeedbackTraceOverflow
    intro _
    apply Paces.after (accounts_graded b _) (account_ask rfl)
    intro localStampNs
    split
    · apply Paces.raise
    split
    · apply Paces.raise
    split
    · exact Paces.last nofun
    · exact Paces.of_keeps (account_pure _)

/-! ### Fault control -/

theorem account_waitForFaultEvent (eventType : Int) :
  KeepsAccount b config.waypoints.length 0 (waitForFaultEvent config faultDriver eventType)
  := by
  apply account_bind (account_deadlineAfter _)
  intro deadline
  apply account_bind account_getRecord
  intro record
  have hfind := @account_findFaultEvent _ b _ config faultDriver eventType record.faultEvents.length
  apply account_bind (account_waitUntil hfind (Paces.of_keeps hfind))
  intro found
  cases found with
  | some event => apply account_pure
  | none =>
      apply account_bind hfind
      intro found
      cases found with
      | some event => apply account_pure
      | none => apply account_raise

theorem account_resetFaults (beforeGoal : Bool) :
  KeepsAccount b config.waypoints.length 1 (resetFaults config faultDriver beforeGoal)
  := by
  cases faultDriver with
  | false => apply account_pure
  | true =>
      apply account_bind (account_perform _)
      intro _
      apply account_bind (account_waitForValue (account_perform _) _ _)
      intro response
      cases response with
      | none => apply account_pure
      | some response =>
          simp only
          split
          · apply account_bind (account_waitForFaultEvent 3)
            intro resetEvent
            split
            · apply account_pure
            · refine account_modify ?_ ?_
              · intro record
                split <;> exact ⟨rfl, rfl, rfl, rfl, rfl, rfl, id⟩
              intro _
              apply account_bind (account_event _ _ _) fun _ => account_pure _
          · apply account_pure

theorem account_prepareFaultSchedule :
  KeepsAccount b config.waypoints.length 2 (prepareFaultSchedule config faultDriver)
  := by
  apply account_bind (account_requireFaultContract config faultDriver)
  intro schedule
  apply account_bind (account_deadlineAfter _)
  intro deadline
  have hready : KeepsAccount b config.waypoints.length 0 (do
      collectFaultEvents config faultDriver
      let ready ← perform config .servicesAreReady
      pure (if ready then some () else none)) := by
    apply account_bind account_collectFaultEvents
    intro _
    apply account_bind (account_perform _) fun _ => account_pure _
  apply account_bind (account_waitUntil hready (Paces.of_keeps hready))
  intro found
  split
  · apply account_raise
  apply account_bind (account_resetFaults true)
  intro confirmed
  split
  · apply account_raise
  apply account_bind (account_perform _)
  intro _
  apply account_bind (account_waitForValue (account_perform _) _ _)
  intro response
  cases response with
  | none => apply account_raise
  | some response =>
      simp only
      split
      · apply account_raise
      apply account_bind (account_waitForFaultEvent 1)
      intro loaded
      split
      · apply account_raise
      refine account_modify (fun _ => ⟨rfl, rfl, rfl, rfl, rfl, rfl, id⟩) ?_
      intro _
      apply account_event

theorem account_armFaultSchedule (goalUuid : String) (acceptedStampNs : Int) :
  KeepsAccount b config.waypoints.length 1
    (armFaultSchedule config faultDriver goalUuid acceptedStampNs)
  := by
  apply account_bind (account_requireFaultContract config faultDriver)
  intro schedule
  apply account_bind account_getRecord
  intro record
  split
  · apply account_raise
  apply account_bind (account_perform _)
  intro _
  apply account_bind (account_waitForValue (account_perform _) _ _)
  intro response
  cases response with
  | none => apply account_raise
  | some response =>
      simp only
      split
      · apply account_raise
      split
      · apply account_raise
      apply account_bind (account_waitForFaultEvent 7)
      intro armed
      split
      · apply account_raise
      refine account_modify (fun _ => ⟨rfl, rfl, rfl, rfl, rfl, rfl, id⟩) ?_
      intro _
      apply account_event

/-! ### The end of a goal -/

omit [PyFloat F] in
/-- A verdict other than success. -/
theorem account_finish {waypointCount k : Nat} {exitCode : ExitCode} (hcode : exitCode ≠ .success)
    (reason : String) :
  KeepsAccount b waypointCount k (finish exitCode reason : Mission F Unit)
  := by
  apply account_mono (account_modifyRecord _) (Nat.zero_le k)
  intro record
  split
  · exact ⟨rfl, rfl, rfl, rfl, rfl, rfl, nofun⟩
  · exact ⟨rfl, rfl, rfl, rfl, rfl, rfl, fun hsuccess => absurd hsuccess hcode⟩

theorem account_captureTerminal {waypointCount : Nat} (terminal : TerminalActionResult) :
  KeepsAccount b waypointCount 1 (captureTerminal terminal : Mission F Unit)
  := by
  refine account_modify (fun _ => ⟨rfl, rfl, rfl, rfl, rfl, rfl, id⟩) ?_
  intro _
  apply account_bind (account_ask rfl)
  intro stamp
  refine account_modify (fun _ => ⟨rfl, rfl, rfl, rfl, rfl, rfl, id⟩) ?_
  intro _
  apply account_bind account_wallOffset
  intro offset
  refine account_modify (fun _ => ⟨rfl, rfl, rfl, rfl, rfl, rfl, id⟩) ?_
  intro _
  apply account_event

theorem account_cancelAndAwaitTerminal {completedExitCode : ExitCode}
    (hcode : completedExitCode ≠ .success) (reason : String) :
  KeepsAccount b config.waypoints.length 3
    (cancelAndAwaitTerminal config completedExitCode reason)
  := by
  refine account_modify (fun _ => ⟨rfl, rfl, rfl, rfl, rfl, rfl, id⟩) ?_
  intro _
  apply account_bind (account_perform _)
  intro _
  apply account_bind (account_event _ _ _)
  intro _
  apply account_bind (account_waitForValue (account_perform _) _ _)
  intro acknowledged
  refine account_modify (fun _ => ⟨rfl, rfl, rfl, rfl, rfl, rfl, id⟩) ?_
  intro _
  split
  · apply account_bind (account_event _ _ _)
    intro _
    exact account_finish (by decide) _
  apply account_bind (account_event _ _ _)
  intro _
  apply account_bind (account_waitForValue (account_perform _) _ _)
  intro terminal
  cases terminal with
  | none => exact account_finish (by decide) _
  | some terminal =>
      apply account_bind (account_captureTerminal terminal)
      intro _
      apply account_finish hcode

theorem account_cancelAfterDeadline (deadlineKind : String) :
  KeepsAccount b config.waypoints.length 4 (cancelAfterDeadline config deadlineKind)
  := by
  refine account_modify (fun _ => ⟨rfl, rfl, rfl, rfl, rfl, rfl, id⟩) ?_
  intro _
  apply account_bind (account_event _ _ _)
  intro _
  exact account_cancelAndAwaitTerminal (by decide) _

theorem account_failClosedAfterAcceptance (reason : String) :
  KeepsAccount b config.waypoints.length 4 (failClosedAfterAcceptance config reason)
  := by
  refine account_exceptException (k := 1) (account_cancelAndAwaitTerminal (by decide) _) ?_
  intro text
  apply account_bind (account_event _ _ _)
  intro _
  exact account_finish (by decide) _

theorem account_closeAfterError (reason : String) :
  KeepsAccount b config.waypoints.length 4 (closeAfterError config reason)
  := by
  have hactive : KeepsAccount b config.waypoints.length 0 (goalMayBeActive config) := by
    apply account_bind account_getState
    intro executor
    split
    · apply account_pure
    · apply account_perform
  apply account_bind hactive
  intro active
  split
  · apply account_failClosedAfterAcceptance
  · exact account_finish (by decide) _

theorem account_handleError (e : Raised) :
  KeepsAccount b config.waypoints.length 5 (handleError config e)
  := by
  cases e with
  | baseException text => apply account_raise
  | feedbackTraceOverflowError text =>
      apply account_bind account_getRecord
      intro record
      apply account_bind (account_event _ _ _)
      intro _
      apply account_closeAfterError
  | faultProtocolError text =>
      apply account_bind (account_event _ _ _)
      intro _
      apply account_closeAfterError
  | actionProtocolError text =>
      apply account_bind (account_event _ _ _)
      intro _
      apply account_closeAfterError
  | exception text =>
      apply account_bind (account_event _ _ _)
      intro _
      apply account_closeAfterError

theorem account_tearDown :
  KeepsAccount b config.waypoints.length 2 (tearDown config faultDriver)
  := by
  refine account_bind (j := 2) (k := 0)
    (account_exceptException (k := 1) (account_resetFaults false)
    fun text => account_bind (account_event _ _ _) fun _ => account_pure _) ?_
  intro confirmed
  refine account_bind (j := 0) (k := 0) (account_onlyIf (account_modifyRecord ?_)) ?_
  · exact fun _ => ⟨rfl, rfl, rfl, rfl, rfl, rfl, nofun⟩
  intro _
  refine account_attempt (k := 0) account_collectFaultEvents ?_
  intro e
  cases e with
  | faultProtocolError text =>
      exact account_modifyRecord fun _ => ⟨rfl, rfl, rfl, rfl, rfl, rfl, nofun⟩
  | baseException text => apply account_raise
  | feedbackTraceOverflowError text => apply account_raise
  | actionProtocolError text => apply account_raise
  | exception text => apply account_raise

end Waits

end Missions

end RobotestLab
