import RobotestLab.Supervisor.Goroutines

/-!
# What the goroutines publish as the readiness

A goroutine publishes the readiness that it read last. It reads whether the children and the manager
are ready, then how many events were dropped, and publishes the conjunction in a third critical
section. Every goroutine obeys this protocol (`refreshes_goroutine`).
-/

namespace RobotestLab

namespace Supervisor

/-- The last answer to the question whether the children and the manager are ready, and what it
amounts to together with the dropped events. -/
structure Refreshing where
  answer : Option Bool := none
  ready : Option Bool := none

namespace Refreshing

def Allows (q : Refreshing) : Action → Prop
  | .swapReady ready => q.ready = some ready
  | _ => True

def next (q : Refreshing) : (a : Action) → a.Answer → Refreshing
  | .readReady, ready => { answer := some ready, ready := none }
  | .counts, counts => { q with ready := q.answer.map (· && counts.2 = 0) }
  | _, _ => q

end Refreshing

/-- The protocol of the readiness. -/
def refreshing : Protocol managerActions where
  State := Refreshing
  Allows := Refreshing.Allows
  Possible _ _ := True
  next := Refreshing.next

def Action.isSwap : Action → Bool
  | .swapReady _ => true
  | _ => false

/-! ### Rules -/

/-- Whatever was read before, the program publishes only what it has read. -/
def Refreshes {α : Type} (t : Proc α) : Prop :=
  ∀ q, Thread.Obeys refreshing t q fun _ _ => True

section Rules

variable {α β L : Type}

theorem Refreshes.pure (x : α) :
  Refreshes (Pure.pure x : Proc α)
  := fun _ => trivial

theorem Refreshes.bind {t : Proc α} {f : α → Proc β} (ht : Refreshes t)
    (hf : ∀ x, Refreshes (f x)) :
  Refreshes (t >>= f)
  := fun q => Thread.Obeys.bind (ht q) fun x q' _ => hf x q'

theorem refreshes_perform {a : Action} (ha : a.isSwap = false) :
  Refreshes (perform a)
  := by
  intro q
  refine ⟨?_, fun _ _ => trivial⟩
  cases a with
  | swapReady ready => cases ha
  | _ => trivial

/-- An action other than a publication, and then the rest. -/
theorem Refreshes.act {a : Action} {f : a.Answer → Proc β} (ha : a.isSwap = false)
    (hf : ∀ x, Refreshes (f x)) :
  Refreshes (perform a >>= f)
  := (refreshes_perform ha).bind hf

theorem Refreshes.ite {c : Prop} [Decidable c] {t e : Proc α} (ht : Refreshes t)
    (he : Refreshes e) :
  Refreshes (if c then t else e)
  := by
  split
  · apply ht
  · apply he

theorem Refreshes.repeatUntil {body : L → Proc (L ⊕ β)} (hbody : ∀ l, Refreshes (body l)) (l : L) :
  Refreshes (Thread.repeatUntil body l)
  := by
  intro q
  apply Thread.Obeys.repeatUntil (P := refreshing) (fun _ _ => True) trivial
  intro l q _
  apply (hbody l q).mono
  intro x q' _
  cases x with
  | inl l' => trivial
  | inr b => trivial

end Rules

/-! ### Events and readiness -/

theorem refreshes_snapshot :
  Refreshes snapshot
  := by
  apply Refreshes.act rfl
  intro view
  apply Refreshes.act rfl
  intro counts
  apply Refreshes.act rfl
  intro now
  apply Refreshes.pure

theorem refreshes_steadyWall (now : Time) :
  Refreshes (steadyWall now)
  := by
  apply Refreshes.act rfl
  intro startedAt
  apply Refreshes.ite
  · apply Refreshes.pure
  · simp only
    apply Refreshes.ite
    · apply Refreshes.act rfl fun _ => Refreshes.pure _
    · apply Refreshes.pure

theorem refreshes_record (event : Event) :
  Refreshes (record event)
  := by
  have hreport : ∀ err, Refreshes (reportAppend err) := by
    intro err
    apply Refreshes.ite
    · apply refreshes_perform rfl
    · apply Refreshes.act rfl
      intro saturated
      apply Refreshes.ite (refreshes_perform rfl) (Refreshes.pure _)
  have hstatus : Refreshes writeStatus := by
    apply refreshes_snapshot.bind
    intro status
    apply Refreshes.act rfl
    intro err
    apply Refreshes.ite (refreshes_perform rfl) (Refreshes.pure _)
  apply Refreshes.act rfl
  intro now
  apply (refreshes_steadyWall now).bind
  intro steadyWallNs
  apply Refreshes.act rfl
  intro appended
  apply (hreport _).bind fun _ => hstatus

theorem refreshes_recordWhen (condition : Bool) (event : Event) :
  Refreshes (recordWhen condition event)
  := Refreshes.ite (refreshes_record event) (Refreshes.pure _)

/-- The readiness is published as it was read. -/
theorem refreshes_refreshReadiness :
  Refreshes refreshReadiness
  := by
  intro q
  refine ⟨trivial, fun answer _ => ⟨trivial, fun counts _ => ⟨?_, fun changed _ => ?_⟩⟩⟩
  · exact rfl
  · apply refreshes_recordWhen

/-! ### Cleanup of a process group -/

theorem refreshes_processGroupEmpty (pgid : Int64) :
  Refreshes (processGroupEmpty pgid)
  := by
  apply Refreshes.act rfl
  intro answer
  apply Refreshes.ite (Refreshes.pure _) (Refreshes.pure _)

theorem refreshes_probeGroup (pgid : Int64) (progress : CleanupProgress) :
  Refreshes (probeGroup pgid progress)
  := (refreshes_processGroupEmpty pgid).bind fun _ => Refreshes.pure _

theorem refreshes_receiveFinal (progress : CleanupProgress) :
  Refreshes (receiveFinal progress)
  := by
  apply Refreshes.ite
  · apply Refreshes.act rfl
    intro r
    cases r with
    | none => apply Refreshes.pure
    | some r => apply Refreshes.pure
  · apply Refreshes.pure

theorem refreshes_settle (progress : CleanupProgress) :
  Refreshes (settle progress)
  := Refreshes.ite (Refreshes.pure _) (Refreshes.pure _)

theorem refreshes_waitEmptyRound (ctx : Context) (pgid : Int64) (timeout : Duration)
    (progress : CleanupProgress) :
  Refreshes (waitEmptyRound ctx pgid timeout progress)
  := by
  apply Refreshes.act rfl
  intro event
  cases event with
  | received r => apply (refreshes_probeGroup pgid _).bind refreshes_settle
  | tick => apply (refreshes_probeGroup pgid _).bind refreshes_settle
  | deadline =>
      apply (refreshes_receiveFinal progress).bind
      intro progress
      apply (refreshes_probeGroup pgid _).bind fun _ => Refreshes.pure _
  | cancelled =>
      apply (refreshes_receiveFinal progress).bind
      intro progress
      apply (refreshes_probeGroup pgid _).bind
      intro progress
      apply Refreshes.act rfl fun _ => Refreshes.pure _

theorem refreshes_waitEmpty (ctx : Context) (pgid : Int64) (wait : Option Nat)
    (result : CleanupResult) (timeout : Duration) :
  Refreshes (waitEmpty ctx pgid wait result timeout)
  := by
  apply (refreshes_probeGroup pgid _).bind
  intro progress
  apply (refreshes_settle progress).bind
  intro settled
  cases settled with
  | inr result => apply Refreshes.pure
  | inl progress => apply Refreshes.repeatUntil (refreshes_waitEmptyRound ctx pgid timeout)

theorem refreshes_signalProcessGroup (pgid : Int64) (signal : Signal) :
  Refreshes (signalProcessGroup pgid signal)
  := by
  apply Refreshes.ite (Refreshes.pure _)
  apply Refreshes.act rfl
  intro err
  cases err with
  | none => apply Refreshes.pure
  | some err => apply Refreshes.ite (Refreshes.pure _) (Refreshes.pure _)

theorem refreshes_cleanupProcessGroup (cfg : Config) (ctx : Context) (child : String) (pgid : Int64)
    (wait : Option Nat) (leaderReaped : Bool) (waitErr : Option WaitErr) (mode : CleanupMode) :
  Refreshes (cleanupProcessGroup cfg ctx child pgid wait leaderReaped waitErr mode)
  := by
  apply (refreshes_processGroupEmpty pgid).bind
  intro probed
  apply Refreshes.ite (Refreshes.pure _)
  apply (refreshes_record _).bind
  intro _
  apply (refreshes_signalProcessGroup pgid _).bind
  intro err
  apply (refreshes_waitEmpty ctx pgid wait _ _).bind
  intro result
  apply Refreshes.ite
  · apply (refreshes_recordWhen _ _).bind fun _ => Refreshes.pure _
  · apply (refreshes_record _).bind
    intro _
    apply (refreshes_signalProcessGroup pgid _).bind
    intro err
    apply (refreshes_waitEmpty ctx pgid wait _ _).bind fun _ => Refreshes.pure _

/-! ### Transitions of a child -/

theorem refreshes_transitionPermitted :
  Refreshes transitionPermitted
  := by
  apply Refreshes.act rfl
  intro err
  apply Refreshes.ite (Refreshes.pure _)
  apply Refreshes.act rfl fun _ => Refreshes.pure _

/-- An event, and then the readiness. -/
theorem refreshes_publish (event : Event) :
  Refreshes (do
    record event
    refreshReadiness)
  := (refreshes_record event).bind fun _ => refreshes_refreshReadiness

theorem refreshes_startChild (spec : Child) (restarted : Bool) :
  Refreshes (startChild spec restarted)
  := by
  have hannounce : ∀ pid committed, Refreshes (announceStart spec pid committed) :=
    fun _ _ => Refreshes.ite (refreshes_publish _) (Refreshes.pure _)
  apply Refreshes.act rfl
  intro startedAt
  apply Refreshes.act rfl
  intro process
  cases process with
  | error err => apply Refreshes.pure
  | ok process =>
      apply Refreshes.act rfl
      intro _
      apply Refreshes.act rfl
      intro committed
      apply (hannounce _ committed).bind
      intro _
      apply Refreshes.act rfl fun _ => Refreshes.pure _

theorem refreshes_markFailure (spec : Child) (kind : String) (code : Option Int64)
    (err : Option String) (processExited : Bool) :
  Refreshes (markFailure spec kind code err processExited)
  := by
  apply Refreshes.act rfl
  intro now
  apply Refreshes.act rfl
  intro _
  apply Refreshes.act rfl
  intro identity
  cases identity with
  | none => apply Refreshes.act rfl fun _ => Refreshes.pure _
  | some identity =>
      apply (refreshes_record _).bind
      intro _
      apply refreshes_refreshReadiness.bind
      intro _
      apply Refreshes.act rfl fun _ => Refreshes.pure _

theorem refreshes_waitForBackoff (delay : Duration) :
  Refreshes (waitForBackoff delay)
  := by
  apply refreshes_transitionPermitted.bind
  intro permitted
  apply Refreshes.ite
  · apply Refreshes.act rfl
    intro event
    cases event with
    | fired => apply refreshes_transitionPermitted.bind fun _ => Refreshes.pure _
    | cancelled => apply Refreshes.pure
  · apply Refreshes.pure

theorem refreshes_waitForRestart (spec : Child) (continuousReady : Duration) :
  Refreshes (waitForRestart spec continuousReady)
  := by
  apply Refreshes.act rfl
  intro err
  apply Refreshes.ite (Refreshes.pure _)
  apply Refreshes.act rfl
  intro now
  apply Refreshes.act rfl
  intro _
  apply Refreshes.act rfl
  intro decision
  cases decision with
  | none => apply Refreshes.act rfl fun _ => Refreshes.pure _
  | some decision =>
      apply Refreshes.ite
      · apply (refreshes_record _).bind
        intro _
        apply refreshes_refreshReadiness.bind
        intro _
        apply Refreshes.act rfl fun _ => Refreshes.pure _
      · apply (refreshes_record _).bind
        intro _
        apply Refreshes.act rfl
        intro _
        apply refreshes_waitForBackoff

theorem refreshes_markCleanupIncomplete (spec : Child) (pgid : Int64) (cleanup : CleanupResult) :
  Refreshes (markCleanupIncomplete spec pgid cleanup)
  := by
  apply Refreshes.act rfl
  intro now
  apply Refreshes.act rfl
  intro identity
  apply refreshes_publish

theorem refreshes_markStopped (spec : Child) (code : Int64) :
  Refreshes (markStopped spec code)
  := Refreshes.act rfl fun _ => refreshes_publish _

theorem refreshes_updateHeartbeat (spec : Child) (fresh : Bool) (age : Option Duration) :
  Refreshes (updateHeartbeat spec fresh age)
  := by
  apply Refreshes.act rfl
  intro changed
  apply Refreshes.ite (refreshes_publish _) (Refreshes.pure _)

theorem refreshes_continuousReadyDuration (spec : Child) (now : Time) :
  Refreshes (continuousReadyDuration spec now)
  := by
  apply Refreshes.act rfl
  intro readySince
  apply Refreshes.ite (Refreshes.pure _) (Refreshes.pure _)

theorem refreshes_heartbeatState (path : String) (startedAt now : Time) (stale : Duration) :
  Refreshes (heartbeatState path startedAt now stale)
  := by
  apply Refreshes.ite (Refreshes.pure _)
  apply Refreshes.act rfl
  intro modTime
  cases modTime with
  | none => apply Refreshes.pure
  | some modTime => apply Refreshes.ite (Refreshes.pure _) (Refreshes.pure _)

/-! ### The goroutine of a child -/

theorem refreshes_finishCleanup (spec : Child) (pgid : Int64) (cleanup : CleanupResult) :
  Refreshes (finishCleanup spec pgid cleanup)
  := by
  apply Refreshes.ite
  · apply (refreshes_markStopped spec _).bind fun _ => Refreshes.pure _
  · apply (refreshes_markCleanupIncomplete spec pgid cleanup).bind fun _ => Refreshes.pure _

theorem refreshes_stopStartedChild (cfg : Config) (spec : Child) (process : StartedProcess) :
  Refreshes (stopStartedChild cfg spec process)
  := by
  apply (refreshes_cleanupProcessGroup _ _ _ _ _ _ _ _).bind
  intro cleanup
  apply (refreshes_finishCleanup spec _ cleanup).bind fun _ => Refreshes.pure _

theorem refreshes_monitorFailed (spec : Child) (pgid : Int64) (cleanup : CleanupResult)
    (committed : Bool) (kind : String) (continuousReady : Duration) :
  Refreshes (monitorFailed spec pgid cleanup committed kind continuousReady)
  := by
  apply (refreshes_finishCleanup spec pgid cleanup).bind
  intro complete
  apply Refreshes.ite
  · apply Refreshes.act rfl
    intro err
    apply Refreshes.ite (Refreshes.pure _) (Refreshes.pure _)
  · apply Refreshes.pure

theorem refreshes_handleExit (cfg : Config) (spec : Child) (process : StartedProcess)
    (r : Received) :
  Refreshes (handleExit cfg spec process r)
  := by
  apply Refreshes.act rfl
  intro now
  apply (refreshes_continuousReadyDuration spec now).bind
  intro continuousReady
  apply Refreshes.act rfl
  intro err
  refine Refreshes.bind (Refreshes.ite (Refreshes.pure _) (refreshes_markFailure _ _ _ _ _)) ?_
  intro failureCommitted
  apply (refreshes_cleanupProcessGroup _ _ _ _ _ _ _ _).bind
  intro cleanup
  apply refreshes_monitorFailed

theorem refreshes_handleStaleHeartbeat (cfg : Config) (spec : Child) (process : StartedProcess)
    (kind : String) (continuousReady : Duration) :
  Refreshes (handleStaleHeartbeat cfg spec process kind continuousReady)
  := by
  apply Refreshes.act rfl
  intro err
  apply Refreshes.ite (refreshes_stopStartedChild cfg spec process)
  apply (refreshes_markFailure _ _ _ _ _).bind
  intro failureCommitted
  apply (refreshes_cleanupProcessGroup _ _ _ _ _ _ _ _).bind
  intro cleanup
  apply refreshes_monitorFailed

theorem refreshes_handleHeartbeat (cfg : Config) (spec : Child) (process : StartedProcess)
    (startedAt : Time) :
  Refreshes (handleHeartbeat cfg spec process startedAt)
  := by
  apply Refreshes.act rfl
  intro now
  apply (refreshes_continuousReadyDuration spec now).bind
  intro continuousReady
  apply Refreshes.act rfl
  intro err
  apply Refreshes.ite
  · apply (refreshes_stopStartedChild cfg spec process).bind fun _ => Refreshes.pure _
  · apply (refreshes_heartbeatState _ _ _ _).bind
    rintro ⟨fresh, age⟩
    apply (refreshes_updateHeartbeat spec fresh age).bind
    intro _
    apply Refreshes.act rfl
    intro observed
    apply Refreshes.ite
    · apply (refreshes_handleStaleHeartbeat cfg spec process _ _).bind fun _ => Refreshes.pure _
    · apply Refreshes.pure

theorem refreshes_monitorStartedChild (cfg : Config) (spec : Child) (startedAt : Time)
    (process : StartedProcess) :
  Refreshes (monitorStartedChild cfg spec startedAt process)
  := by
  apply Refreshes.repeatUntil
  intro _
  apply Refreshes.act rfl
  intro event
  cases event with
  | exited r => apply (refreshes_handleExit cfg spec process r).bind fun _ => Refreshes.pure _
  | heartbeat => apply refreshes_handleHeartbeat
  | cancelled =>
      apply Refreshes.act rfl
      intro now
      apply (refreshes_continuousReadyDuration spec now).bind
      intro _
      apply (refreshes_stopStartedChild cfg spec process).bind fun _ => Refreshes.pure _

theorem refreshes_restartOrReturn (spec : Child) (continuousReady : Duration) :
  Refreshes (restartOrReturn spec continuousReady)
  := by
  apply (refreshes_waitForRestart spec continuousReady).bind
  intro restart
  apply Refreshes.ite (Refreshes.pure _) (Refreshes.pure _)

theorem refreshes_manageRound (cfg : Config) (spec : Child) (firstStart : Bool) :
  Refreshes (manageRound cfg spec firstStart)
  := by
  apply Refreshes.act rfl
  intro err
  apply Refreshes.ite (Refreshes.pure _)
  apply (refreshes_startChild spec _).bind
  intro started
  cases started with
  | error err =>
      apply (refreshes_markFailure _ _ _ _ _).bind
      intro committed
      apply Refreshes.ite (refreshes_restartOrReturn _ _) (Refreshes.pure _)
  | ok started =>
      apply Refreshes.ite
      · apply (refreshes_monitorStartedChild cfg spec _ _).bind
        intro result
        cases result with
        | stop => apply Refreshes.pure
        | failed kind continuousReady => apply refreshes_restartOrReturn
      · refine Refreshes.bind ?_ fun _ => Refreshes.pure _
        apply (refreshes_cleanupProcessGroup _ _ _ _ _ _ _ _).bind
        intro cleanup
        apply Refreshes.ite (Refreshes.pure _) (refreshes_markCleanupIncomplete _ _ _)

/-! ### The run -/

theorem refreshes_spawnChildren (children : List Child) :
  Refreshes (spawnChildren children)
  := by
  induction children with
  | nil => apply Refreshes.pure
  | cons spec specs ih => exact Refreshes.act rfl fun _ => ih

theorem refreshes_run (cfg : Config) :
  Refreshes (run cfg)
  := by
  have hreturn : ∀ f : Err → Err, Refreshes (do
      let err ← perform .terminalError
      perform (.returns (f err))) :=
    fun _ => Refreshes.act rfl fun _ => refreshes_perform rfl
  have hshutdown : Refreshes beginShutdown := by
    apply Refreshes.act rfl
    intro _
    apply Refreshes.act rfl
    intro _
    apply (refreshes_record _).bind fun _ => refreshes_perform rfl
  apply Refreshes.act rfl
  intro err
  apply Refreshes.ite (refreshes_perform rfl)
  apply (refreshes_record _).bind
  intro _
  apply (refreshes_spawnChildren _).bind
  intro _
  apply Refreshes.act rfl
  intro _
  apply hshutdown.bind
  intro _
  apply Refreshes.act rfl
  intro _
  apply Refreshes.act rfl
  intro event
  cases event with
  | done =>
      apply (refreshes_record _).bind
      intro _
      apply Refreshes.act rfl
      intro _
      apply hreturn id
  | timeout =>
      apply (refreshes_record _).bind
      intro _
      apply Refreshes.act rfl
      intro _
      apply hreturn fun err => "supervisor shutdown exceeded configured timeout" :: err

/-- Every goroutine publishes the readiness as it has read it. -/
theorem refreshes_goroutine (cfg : Config) (i : Goroutine) :
  Refreshes (goroutine cfg i)
  := by
  cases i with
  | caller => apply refreshes_perform rfl
  | closer => exact Refreshes.act rfl fun _ => Refreshes.pure _
  | run => apply refreshes_run
  | waiter =>
      apply Refreshes.act rfl
      intro _
      apply Refreshes.act rfl fun _ => refreshes_perform rfl
  | late =>
      apply Refreshes.act rfl
      intro _
      apply Refreshes.act rfl fun _ => refreshes_perform rfl
  | child name =>
      change Refreshes (childGoroutine cfg name)
      unfold childGoroutine
      split
      · apply Refreshes.pure
      · apply Refreshes.act rfl
        intro _
        refine Refreshes.bind (Refreshes.repeatUntil (refreshes_manageRound cfg _) true) ?_
        intro _
        apply refreshes_perform rfl
  | observer n => exact refreshes_snapshot.bind fun _ => refreshes_perform rfl

end Supervisor

end RobotestLab
