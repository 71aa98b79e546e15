import RobotestLab.Missions.Observation

/-!
# How the executor ends a goal

The parts that end a goal only make the calls that they need (`Quiet`), and write the verdict: a
cancellation is requested before anything else is done (`runs_cancelAndAwaitTerminal`), the handlers
of exceptions never end with success, and they request the cancellation of a goal that was accepted
(`runs_handleError`).
-/

namespace RobotestLab

namespace Missions

open Program

variable {F : Type}

/-! ### Quiet parts -/

/-- Only the allowed calls are made, and the acceptance of the goal is not noted. -/
structure Quiet (K : Call F → Prop) (s : MissionExecutor F) (u : List (Interaction F))
    (s' : MissionExecutor F) : Prop where
  calls : ∀ i ∈ u, K i.1
  active : s'.acceptedGoalActive = s.acceptedGoalActive

/-- The calls that end a goal are allowed. -/
structure AllowsClosing (K : Call F → Prop) : Prop extends AllowsWaiting K where
  acceptedGoalIsActive : K .acceptedGoalIsActive
  requestCancel : K .requestCancel
  pollCancelAcknowledgement : K .pollCancelAcknowledgement
  pollTerminalResult : K .pollTerminalResult

section Quiet

variable {K : Call F → Prop}

theorem quiet_sequential (K : Call F → Prop) :
  Sequential (Quiet K)
  := by
  constructor
  · intro s
    exact ⟨by simp, rfl⟩
  · intro s u s₁ v s₂ h h'
    refine ⟨?_, h'.active.trans h.active⟩
    intro i hi
    rcases List.mem_append.mp hi with hi | hi
    · apply h.calls i hi
    · apply h'.calls i hi

variable {α : Type}

/-- What only observes is quiet. -/
theorem quiet_of_observes {m : Mission F α} (h : Respects m (Observes K)) :
  Respects m (Quiet K)
  := by
  refine Respects.mono h ?_
  intro s u s' hobserves
  exact ⟨hobserves.calls, hobserves.active⟩

theorem quiet_modifyRecord (f : ExecutionRecord F → ExecutionRecord F) :
  Respects (modifyRecord f) (Quiet K)
  := by
  apply Respects.modifyState
  intro s
  exact ⟨by simp, rfl⟩

theorem quiet_bind {α β : Type} {m : Mission F α} {f : α → Mission F β}
    (hm : Respects m (Quiet K)) (hf : ∀ a, Respects (f a) (Quiet K)) :
  Respects (m >>= f) (Quiet K)
  := Respects.bind (quiet_sequential K) hm hf

theorem quiet_pure (a : α) :
  Respects (pure a : Mission F α) (Quiet K)
  := Respects.pure (quiet_sequential K) a

theorem quiet_raise (e : Raised) :
  Respects (raise e : Mission F α) (Quiet K)
  := Respects.raise (quiet_sequential K) e

theorem quiet_onlyIf {condition : Bool} {m : Mission F Unit} (hm : Respects m (Quiet K)) :
  Respects (onlyIf condition m) (Quiet K)
  := by
  cases condition with
  | false => apply quiet_pure
  | true => exact hm

theorem quiet_exceptException {m : Mission F α} {handler : String → Mission F α}
    (hm : Respects m (Quiet K)) (hhandler : ∀ text, Respects (handler text) (Quiet K)) :
  Respects (exceptException m handler) (Quiet K)
  := by
  apply Respects.attempt (quiet_sequential K) hm
  intro e
  cases e with
  | baseException text => apply quiet_raise
  | feedbackTraceOverflowError text => apply hhandler
  | faultProtocolError text => apply hhandler
  | actionProtocolError text => apply hhandler
  | exception text => apply hhandler

theorem quiet_finish (exitCode : ExitCode) (reason : String) :
  Respects (finish exitCode reason : Mission F Unit) (Quiet K)
  := quiet_modifyRecord _

end Quiet

section Closing

variable [PyFloat F] (config : MissionConfig F) {K : Call F → Prop}

theorem quiet_event (hK : AllowsWaiting K) (kind : String) (details : List (String × Json))
    (simStampNs : Option Int) :
  Respects (event kind details simStampNs : Mission F Unit) (Quiet K)
  := quiet_of_observes (observes_event hK kind details simStampNs)

theorem quiet_perform (hK : AllowsWaiting K) {c : Call F} (hc : K c) :
  Respects (perform config c) (Quiet K)
  := quiet_of_observes (observes_perform config hK hc)

theorem quiet_waitForValue (hK : AllowsWaiting K) {α : Type} {poll : Mission F (Option α)}
    (hpoll : Respects poll (Observes K)) (timeoutS : F) (failOnFeedbackTraceOverflow : Bool) :
  Respects (waitForValue config poll timeoutS failOnFeedbackTraceOverflow) (Quiet K)
  := quiet_of_observes (observes_waitForValue config hK hpoll timeoutS _)

theorem quiet_captureTerminal (hK : AllowsWaiting K) (terminal : TerminalActionResult) :
  Respects (captureTerminal terminal : Mission F Unit) (Quiet K)
  := by
  apply quiet_bind (quiet_modifyRecord _)
  intro _
  apply quiet_bind (quiet_of_observes (observes_ask hK.simTimeNs))
  intro stamp
  apply quiet_bind (quiet_modifyRecord _)
  intro _
  apply quiet_bind (quiet_of_observes (observes_wallOffset hK))
  intro offset
  apply quiet_bind (quiet_modifyRecord _)
  intro _
  apply quiet_event hK

theorem quiet_finishFromTerminal (hK : AllowsWaiting K) (terminal : TerminalActionResult) :
  Respects (finishFromTerminal terminal : Mission F Unit) (Quiet K)
  := by
  apply quiet_bind (quiet_captureTerminal hK terminal)
  intro _
  apply quiet_bind (quiet_of_observes observes_getRecord)
  intro record
  apply quiet_finish

theorem quiet_cancelAndAwaitTerminal (hK : AllowsClosing K) (completedExitCode : ExitCode)
    (reason : String) :
  Respects (cancelAndAwaitTerminal config completedExitCode reason) (Quiet K)
  := by
  have hwaiting := hK.toAllowsWaiting
  apply quiet_bind (quiet_modifyRecord _)
  intro _
  apply quiet_bind (quiet_perform config hwaiting hK.requestCancel)
  intro _
  apply quiet_bind (quiet_event hwaiting _ _ _)
  intro _
  apply quiet_bind
  · apply quiet_waitForValue config hwaiting
    apply observes_perform config hwaiting hK.pollCancelAcknowledgement
  · intro acknowledged
    apply quiet_bind (quiet_modifyRecord _)
    intro _
    split
    · apply quiet_bind (quiet_event hwaiting _ _ _)
      intro _
      apply quiet_finish
    · apply quiet_bind (quiet_event hwaiting _ _ _)
      intro _
      apply quiet_bind
      · apply quiet_waitForValue config hwaiting
        apply observes_perform config hwaiting hK.pollTerminalResult
      · intro terminal
        cases terminal with
        | none => apply quiet_finish
        | some terminal =>
            apply quiet_bind (quiet_captureTerminal hwaiting terminal)
            intro _
            apply quiet_finish

theorem quiet_cancelAfterDeadline (hK : AllowsClosing K) (deadlineKind : String) :
  Respects (cancelAfterDeadline config deadlineKind) (Quiet K)
  := by
  apply quiet_bind (quiet_modifyRecord _)
  intro _
  apply quiet_bind (quiet_event hK.toAllowsWaiting _ _ _)
  intro _
  apply quiet_cancelAndAwaitTerminal config hK

theorem quiet_failClosedAfterAcceptance (hK : AllowsClosing K) (reason : String) :
  Respects (failClosedAfterAcceptance config reason) (Quiet K)
  := by
  apply quiet_exceptException (quiet_cancelAndAwaitTerminal config hK _ _)
  intro text
  apply quiet_bind (quiet_event hK.toAllowsWaiting _ _ _)
  intro _
  apply quiet_finish

theorem quiet_goalMayBeActive (hK : AllowsClosing K) :
  Respects (goalMayBeActive config) (Quiet K)
  := by
  apply quiet_bind (quiet_of_observes observes_getState)
  intro executor
  split
  · apply quiet_pure
  · apply quiet_perform config hK.toAllowsWaiting hK.acceptedGoalIsActive

theorem quiet_closeAfterError (hK : AllowsClosing K) (reason : String) :
  Respects (closeAfterError config reason) (Quiet K)
  := by
  apply quiet_bind (quiet_goalMayBeActive config hK)
  intro active
  split
  · apply quiet_failClosedAfterAcceptance config hK
  · apply quiet_finish

theorem quiet_handleError (hK : AllowsClosing K) (e : Raised) :
  Respects (handleError config e) (Quiet K)
  := by
  have hclose : ∀ kind details reason, Respects (do
      event kind details
      closeAfterError config reason) (Quiet K) := by
    intro kind details reason
    apply quiet_bind (quiet_event hK.toAllowsWaiting _ _ _)
    intro _
    apply quiet_closeAfterError config hK
  cases e with
  | feedbackTraceOverflowError text =>
      apply quiet_bind (quiet_of_observes observes_getRecord)
      intro record
      apply hclose
  | faultProtocolError text => apply hclose
  | actionProtocolError text => apply hclose
  | exception text => apply hclose
  | baseException text => apply quiet_raise

/-! ### Verdicts -/

variable {s s' : MissionExecutor F} {u : List (Interaction F)} {r : Except Raised Unit}
  {reason : String}

omit [PyFloat F] in
/-- Finishing writes the verdict or an infrastructure error, and nothing else. -/
theorem runs_finish {exitCode : ExitCode} (h : Runs (finish exitCode reason) s u r s') :
  u = [] ∧ ∃ exitCode' reason', (exitCode' = exitCode ∨ exitCode' = .infrastructureError) ∧
    s' = { s with record := { s.record with exitCode := exitCode', reason := reason' } }
  := by
  obtain ⟨rfl, rfl⟩ := runs_modifyRecord h
  refine ⟨rfl, ?_⟩
  split
  · exact ⟨_, _, Or.inr rfl, rfl⟩
  · exact ⟨_, _, Or.inl rfl, rfl⟩

/-- The cancellation is requested, and the verdict is the given one or an infrastructure error. -/
theorem runs_cancelAndAwaitTerminal {completedExitCode : ExitCode}
    (h : Runs (cancelAndAwaitTerminal config completedExitCode reason) s u r s') :
  (∃ reply, ⟨.requestCancel, reply⟩ ∈ u) ∧
    (r = .ok () → s'.record.exitCode = completedExitCode ∨
      s'.record.exitCode = .infrastructureError)
  := by
  constructor
  · obtain ⟨r₁, s₁, u₁, u₂, rfl, hmodify, hrest, -⟩ := runs_bind h
    obtain ⟨rfl, rfl, rfl⟩ := runs_modifyState hmodify
    obtain ⟨reply, s₂, u₃, u₄, rfl, hcancel, -⟩ := runs_bind (hrest () rfl)
    obtain ⟨v, rfl⟩ := runs_perform config hcancel
    exact ⟨reply, by simp⟩
  · rintro rfl
    have hfinish : ∀ {exitCode reason s u},
        (exitCode = completedExitCode ∨ exitCode = .infrastructureError) →
        Runs (finish exitCode reason) s u (.ok ()) s' →
          s'.record.exitCode = completedExitCode ∨
            s'.record.exitCode = .infrastructureError := by
      intro exitCode reason s u hcode hrun
      obtain ⟨-, exitCode', reason', hcode', rfl⟩ := runs_finish hrun
      rcases hcode' with rfl | rfl
      · exact hcode
      · exact Or.inr rfl
    obtain ⟨_, s₁, u₁, u₂, rfl, -, h₁⟩ := runs_bind_ok h
    obtain ⟨_, s₂, u₃, u₄, rfl, -, h₂⟩ := runs_bind_ok h₁
    obtain ⟨_, s₃, u₅, u₆, rfl, -, h₃⟩ := runs_bind_ok h₂
    obtain ⟨acknowledged, s₄, u₇, u₈, rfl, -, h₄⟩ := runs_bind_ok h₃
    obtain ⟨_, s₅, u₉, u₁₀, rfl, -, h₅⟩ := runs_bind_ok h₄
    split at h₅
    · obtain ⟨_, s₆, u₁₁, u₁₂, rfl, -, h₆⟩ := runs_bind_ok h₅
      apply hfinish (Or.inr rfl) h₆
    · obtain ⟨_, s₆, u₁₁, u₁₂, rfl, -, h₆⟩ := runs_bind_ok h₅
      obtain ⟨terminal, s₇, u₁₃, u₁₄, rfl, -, h₇⟩ := runs_bind_ok h₆
      cases terminal with
      | none => apply hfinish (Or.inr rfl) h₇
      | some terminal =>
          obtain ⟨_, s₈, u₁₅, u₁₆, rfl, -, h₈⟩ := runs_bind_ok h₇
          apply hfinish (Or.inl rfl) h₈

/-- A deadline ends with the request of a cancellation, and never with success. -/
theorem runs_cancelAfterDeadline {deadlineKind : String}
    (h : Runs (cancelAfterDeadline config deadlineKind) s u (.ok ()) s') :
  (∃ reply, ⟨.requestCancel, reply⟩ ∈ u) ∧ s'.record.exitCode ≠ .success
  := by
  obtain ⟨_, s₁, u₁, u₂, rfl, -, h₁⟩ := runs_bind_ok h
  obtain ⟨_, s₂, u₃, u₄, rfl, -, h₂⟩ := runs_bind_ok h₁
  obtain ⟨⟨reply, hreply⟩, hcode⟩ := runs_cancelAndAwaitTerminal config h₂
  refine ⟨⟨reply, by simp [hreply]⟩, ?_⟩
  rcases hcode rfl with hcode | hcode <;> rw [hcode] <;> decide

/-- Failing closed requests the cancellation, and never ends with success. -/
theorem runs_failClosedAfterAcceptance
    (h : Runs (failClosedAfterAcceptance config reason) s u (.ok ()) s') :
  (∃ reply, ⟨.requestCancel, reply⟩ ∈ u) ∧ s'.record.exitCode ≠ .success
  := by
  have hinfrastructure : s'.record.exitCode = .infrastructureError →
      s'.record.exitCode ≠ .success := by
    intro hcode
    rw [hcode]
    decide
  rcases runs_attempt h with ⟨_, -, hcancel⟩ | ⟨e, s₁, u₁, u₂, rfl, hcancel, hhandler⟩
  · obtain ⟨hreply, hcode⟩ := runs_cancelAndAwaitTerminal config hcancel
    refine ⟨hreply, hinfrastructure ?_⟩
    rcases hcode rfl with hcode | hcode
    · exact hcode
    · exact hcode
  · obtain ⟨⟨reply, hreply⟩, -⟩ := runs_cancelAndAwaitTerminal config hcancel
    refine ⟨⟨reply, List.mem_append_left _ hreply⟩, hinfrastructure ?_⟩
    have hreported : ∀ text, Runs (do
        event "fail_closed_cancellation_error" [("message", .str text)]
        finish .infrastructureError (reason ++ ": fail_closed_cancellation_error: " ++ text))
          s₁ u₂ (.ok ()) s' → s'.record.exitCode = .infrastructureError := by
      intro text hrun
      obtain ⟨_, s₂, u₃, u₄, rfl, -, hfinish⟩ := runs_bind_ok hrun
      obtain ⟨-, exitCode', reason', hcode, rfl⟩ := runs_finish hfinish
      rcases hcode with rfl | rfl
      · rfl
      · rfl
    cases e with
    | baseException text => cases (runs_raise hhandler).1
    | feedbackTraceOverflowError text => apply hreported _ hhandler
    | faultProtocolError text => apply hreported _ hhandler
    | actionProtocolError text => apply hreported _ hhandler
    | exception text => apply hreported _ hhandler

/-- The handlers of exceptions request the cancellation of a goal that was accepted, and never end
with success. -/
theorem runs_closeAfterError (h : Runs (closeAfterError config reason) s u (.ok ()) s') :
  (s.acceptedGoalActive = true → ∃ reply, ⟨.requestCancel, reply⟩ ∈ u) ∧
    s'.record.exitCode ≠ .success
  := by
  obtain ⟨active, s₁, u₁, u₂, rfl, hactive, hrest⟩ := runs_bind_ok h
  split at hrest
  · obtain ⟨⟨reply, hreply⟩, hcode⟩ := runs_failClosedAfterAcceptance config hrest
    exact ⟨fun _ => ⟨reply, List.mem_append_right _ hreply⟩, hcode⟩
  · rename_i hinactive
    constructor
    · intro haccepted
      obtain ⟨executor, s₂, u₃, u₄, rfl, hstate, hask⟩ := runs_bind_ok hactive
      obtain ⟨hexecutor, rfl, rfl⟩ := runs_getState hstate
      obtain rfl := Except.ok.inj hexecutor
      rw [if_pos haccepted] at hask
      obtain ⟨htrue, -⟩ := runs_pure hask
      exact absurd (Except.ok.inj htrue) hinactive
    · obtain ⟨-, exitCode', reason', hcode, rfl⟩ := runs_finish hrest
      rcases hcode with rfl | rfl <;> simp

theorem runs_handleError {e : Raised} (h : Runs (handleError config e) s u (.ok ()) s') :
  (s.acceptedGoalActive = true → ∃ reply, ⟨.requestCancel, reply⟩ ∈ u) ∧
    s'.record.exitCode ≠ .success
  := by
  have hclose : ∀ {kind details reason s u}, Runs (do
      event kind details
      closeAfterError config reason) s u (.ok ()) s' →
        (s.acceptedGoalActive = true → ∃ reply, ⟨.requestCancel, reply⟩ ∈ u) ∧
          s'.record.exitCode ≠ .success := by
    intro kind details reason s u hrun
    obtain ⟨_, s₁, u₁, u₂, rfl, hevent, hrest⟩ := runs_bind_ok hrun
    obtain ⟨hcancel, hcode⟩ := runs_closeAfterError config hrest
    refine ⟨?_, hcode⟩
    intro haccepted
    obtain ⟨reply, hreply⟩ := hcancel
      (((quiet_event anyCall_allowsWaiting _ _ _).of_runs hevent).active.trans haccepted)
    exact ⟨reply, List.mem_append_right _ hreply⟩
  cases e with
  | feedbackTraceOverflowError text =>
      obtain ⟨record, s₁, u₁, u₂, rfl, hrecord, hrest⟩ := runs_bind_ok h
      obtain ⟨rfl, rfl, rfl⟩ := runs_getRecord hrecord
      apply hclose hrest
  | faultProtocolError text => apply hclose h
  | actionProtocolError text => apply hclose h
  | exception text => apply hclose h
  | baseException text => cases (runs_raise h).1

end Closing

end Missions

end RobotestLab
