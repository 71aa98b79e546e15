import RobotestLab.Supervisor.Manager

/-!
# The goroutines of the manager

The call of `Run`, the goroutine of each child with its monitor, the two stages of the cleanup of a
process group and the restart policy, and what the supervisor records on the way (manager.go).
-/

namespace RobotestLab

namespace Supervisor

abbrev Proc (α : Type) : Type 1 := Thread managerActions α

def perform (a : Action) : Proc a.Answer := Thread.perform (A := managerActions) a

/-! ### Events and readiness -/

/-- A deterministic value for HTTP and for the status file. -/
def snapshot : Proc Snapshot := do
  let view ← perform .readState
  let counts ← perform .counts
  let now ← perform .now
  pure (view.snapshot counts now)

/-- The time since the start of the run. A clock that goes back counts as a failed persistence. -/
def steadyWall (now : Time) : Proc Int64 := do
  let startedAt ← perform .startedAt
  if startedAt.isZero then pure 0
  else
    let elapsed := now.sub startedAt
    if elapsed < 0 then do
      perform .persistenceFailed
      pure 0
    else pure elapsed

/-- The persistence of an event failed, or the event store is saturated. -/
def reportAppend (err : Err) : Proc Unit :=
  if err ≠ [] then perform .persistenceFailed
  else do
    let saturated ← perform .isSaturated
    if saturated then perform .persistenceFailed else pure ()

def writeStatus : Proc Unit := do
  let status ← snapshot
  let err ← perform (.writeSnapshot status)
  if err ≠ [] then perform .persistenceFailed else pure ()

/-- Persist an event and the status. -/
def record (event : Event) : Proc Unit := do
  let now ← perform .now
  let steadyWallNs ← steadyWall now
  let (_, err) ← perform (.append now { event with steadyWallNs := steadyWallNs })
  reportAppend err
  writeStatus

def recordWhen (condition : Bool) (event : Event) : Proc Unit :=
  if condition then record event else pure ()

def isReady : Proc Bool := do
  let ready ← perform .readReady
  let (_, dropped) ← perform .counts
  pure (ready && dropped = 0)

def refreshReadiness : Proc Unit := do
  let ready ← isReady
  let changed ← perform (.swapReady ready)
  recordWhen changed { kind := "readiness_changed", ready := some ready }

/-! ### Cleanup of a process group -/

def signalProcessGroup (pgid : Int64) (signal : Signal) : Proc Err :=
  if pgid ≤ 0 then pure []
  else do
    match ← perform (.signal pgid signal) with
    | none => pure []
    | some err =>
        if err.noSuchProcess then pure []
        else pure (Err.wrap [err.text]
          ("signal process group " ++ toString pgid.toInt ++ " with " ++ signal.text))

def processGroupEmpty (pgid : Int64) : Proc (Bool × Err) := do
  let (present, err) ← perform (.probe pgid)
  if err ≠ [] then pure (false, err.wrap ("probe process group " ++ toString pgid.toInt))
  else pure (!present, [])

/-- What was received from the channel of the process. -/
def CleanupResult.receive (result : CleanupResult) : Received → CleanupResult
  | .status err => { result with leaderReaped := true, waitErr := err }
  | .closed => { result with err := result.err ++ [closedWithoutStatus] }

/-- The result of a cleanup so far, with the channel to receive from. -/
structure CleanupProgress where
  result : CleanupResult
  wait : Option Nat

/-- Take what the channel holds, without waiting for it. -/
def receiveFinal (progress : CleanupProgress) : Proc CleanupProgress :=
  if progress.result.leaderReaped = false ∧ progress.wait ≠ none then do
    match ← perform (.pollWait progress.wait) with
    | some r => pure { result := progress.result.receive r, wait := none }
    | none => pure progress
  else pure progress

def probeGroup (pgid : Int64) (progress : CleanupProgress) : Proc CleanupProgress := do
  let (groupEmpty, err) ← processGroupEmpty pgid
  pure { progress with
    result := { progress.result with
      groupEmpty := groupEmpty
      err := progress.result.err ++ err } }

/-- End the wait when the leader is reaped and the group is empty. -/
def settle (progress : CleanupProgress) : Proc (CleanupProgress ⊕ CleanupResult) :=
  if progress.result.leaderReaped && progress.result.groupEmpty then pure (.inr progress.result)
  else pure (.inl progress)

/-- One round of the wait for an empty group. -/
def waitEmptyRound (ctx : Context) (pgid : Int64) (timeout : Duration)
    (progress : CleanupProgress) : Proc (CleanupProgress ⊕ CleanupResult) := do
  match ← perform (.selectCleanup ctx progress.wait timeout) with
  | .received r =>
      let progress ← probeGroup pgid { result := progress.result.receive r, wait := none }
      settle progress
  | .tick =>
      let progress ← probeGroup pgid progress
      settle progress
  | .deadline =>
      let progress ← receiveFinal progress
      let progress ← probeGroup pgid progress
      pure (.inr progress.result)
  | .cancelled =>
      let progress ← receiveFinal progress
      let progress ← probeGroup pgid progress
      let err ← perform (.contextErr ctx)
      pure (.inr { progress.result with err := progress.result.err ++ err })

/-- Wait until the leader is reaped and the group is empty, or until the time is over. -/
def waitEmpty (ctx : Context) (pgid : Int64) (wait : Option Nat) (result : CleanupResult)
    (timeout : Duration) : Proc CleanupResult := do
  let progress ← probeGroup pgid
    { result := result, wait := if result.leaderReaped then none else wait }
  match ← settle progress with
  | .inr result => pure result
  | .inl progress => Thread.repeatUntil (waitEmptyRound ctx pgid timeout) progress

def detectedKind : CleanupMode → String
  | .requested => "child_stop_requested"
  | .residual => "residual_process_group_detected"

def killKind : CleanupMode → String
  | .requested => "child_kill_escalated"
  | .residual => "residual_process_group_kill_escalated"

/-- Stop a process group, first with SIGTERM and then with SIGKILL. -/
def cleanupProcessGroup (cfg : Config) (ctx : Context) (child : String) (pgid : Int64)
    (wait : Option Nat) (leaderReaped : Bool) (waitErr : Option WaitErr) (mode : CleanupMode) :
    Proc CleanupResult := do
  let (groupEmpty, err) ← processGroupEmpty pgid
  let result : CleanupResult := {
    leaderReaped := leaderReaped, waitErr := waitErr, groupEmpty := groupEmpty, err := err }
  if mode = .residual ∧ result.complete then pure result
  else do
    record { kind := detectedKind mode, child := child, pgid := pgid }
    let err ← signalProcessGroup pgid .sigterm
    let result ← waitEmpty ctx pgid wait { result with err := result.err ++ err }
      cfg.terminationGrace
    if result.complete then do
      recordWhen (mode = .residual)
        { kind := "residual_process_group_stopped", child := child, pgid := pgid }
      pure result
    else do
      record { kind := killKind mode, child := child, pgid := pgid }
      let err ← signalProcessGroup pgid .sigkill
      let result ← waitEmpty ctx pgid wait { result with err := result.err ++ err }
        defaultCleanupKillGrace
      let reapedErr := if result.leaderReaped then []
        else ["child leader was not reaped within the cleanup bound"]
      let emptyErr := if result.groupEmpty then []
        else ["captured process group is not empty after SIGKILL"]
      pure { result with err := result.err ++ reapedErr ++ emptyErr }

/-! ### Transitions of a child -/

def transitionPermitted : Proc Bool := do
  let err ← perform (.contextErr .run)
  if err ≠ [] then pure false
  else do
    let shuttingDown ← perform .isShuttingDown
    pure (!shuttingDown)

/-- A process that was started, and whether its start was committed. -/
structure StartedChild where
  startedAt : Time
  process : StartedProcess
  committed : Bool

/-- Publish a committed start. -/
def announceStart (spec : Child) (pid : Int64) (committed : Bool) : Proc Unit :=
  if committed then do
    record { kind := "child_started", child := spec.name, pid := pid, pgid := pid }
    refreshReadiness
  else pure ()

def startChild (spec : Child) (restarted : Bool) : Proc (Except Err StartedChild) := do
  let startedAt ← perform .now
  match ← perform (.start spec) with
  | .error err => pure (.error err)
  | .ok process => do
      perform .lockTransition
      let committed ← perform (.commitStart spec.name startedAt process.pid restarted)
      announceStart spec process.pid committed
      perform .unlockTransition
      pure (.ok { startedAt := startedAt, process := process, committed := committed })

/-- Commit a failure of a child. -/
def markFailure (spec : Child) (kind : String) (code : Option Int64) (err : Option String)
    (processExited : Bool) : Proc Bool := do
  let now ← perform .now
  perform .lockTransition
  match ← perform (.commitFailure spec.name kind code now processExited) with
  | none => do
      perform .unlockTransition
      pure false
  | some (pid, pgid) => do
      record {
        kind := "failure_detected"
        child := spec.name
        pid := pid
        pgid := pgid
        exitCode := code
        failureKind := kind
        details := match err with
          | none => []
          | some text => [("error", .str text)] }
      refreshReadiness
      perform .unlockTransition
      pure true

/-- Whether the decision was committed, and whether the child is started again. -/
structure RestartWaitResult where
  committed : Bool := false
  restart : Bool := false

/-- Wait for the delay before the next start. -/
def waitForBackoff (delay : Duration) : Proc RestartWaitResult := do
  let permitted ← transitionPermitted
  if permitted then do
    match ← perform (.selectRestart delay) with
    | .fired => do
        let permitted ← transitionPermitted
        pure { committed := true, restart := permitted }
    | .cancelled => pure { committed := true }
  else pure { committed := true }

/-- Decide whether a child is started again, and wait for the delay. -/
def waitForRestart (spec : Child) (continuousReady : Duration) : Proc RestartWaitResult := do
  let err ← perform (.contextErr .run)
  if err ≠ [] then pure {}
  else do
    let now ← perform .now
    perform .lockTransition
    match ← perform (.commitRestart spec.name now continuousReady) with
    | none => do
        perform .unlockTransition
        pure {}
    | some decision =>
        if decision.exhausted then do
          record {
            kind := "restart_exhausted"
            child := spec.name
            restartAttempt := .ofNat decision.attempt }
          refreshReadiness
          perform .unlockTransition
          pure { committed := true }
        else do
          record {
            kind := "restart_scheduled"
            child := spec.name
            restartAttempt := .ofNat decision.attempt
            backoffMs := decision.delay.milliseconds }
          perform .unlockTransition
          waitForBackoff decision.delay

def markCleanupIncomplete (spec : Child) (pgid : Int64) (cleanup : CleanupResult) : Proc Unit := do
  let now ← perform .now
  let (publishedPid, publishedPgid) ← perform (.publishIncomplete spec.name pgid cleanup now)
  record {
    kind := "child_group_cleanup_incomplete"
    child := spec.name
    pid := publishedPid
    pgid := publishedPgid
    failureKind := cleanupFailureKind
    details := [
      ("error", .str cleanup.cause.text),
      ("leader_reaped", .bool cleanup.leaderReaped),
      ("group_empty", .bool cleanup.groupEmpty),
      ("captured_pgid", .int pgid.toInt)] }
  refreshReadiness

def markStopped (spec : Child) (code : Int64) : Proc Unit := do
  perform (.publishStopped spec.name code)
  record { kind := "child_stopped", child := spec.name, exitCode := some code }
  refreshReadiness

def updateHeartbeat (spec : Child) (fresh : Bool) (age : Option Duration) : Proc Unit := do
  let changed ← perform (.publishHeartbeat spec.name fresh age)
  if changed then do
    record { kind := if fresh then "heartbeat_fresh" else "heartbeat_stale", child := spec.name }
    refreshReadiness
  else pure ()

def continuousReadyDuration (spec : Child) (now : Time) : Proc Duration := do
  let readySince ← perform (.readySince spec.name)
  if readySince.isZero || now.before readySince then pure 0 else pure (now.sub readySince)

/-- Whether the heartbeat is fresh, and its age. -/
def heartbeatState (path : String) (startedAt now : Time) (stale : Duration) :
    Proc (Bool × Option Duration) :=
  if path = "" then pure (true, none)
  else do
    match ← perform (.stat path) with
    | none => pure (false, none)
    | some modTime =>
        if modTime.before startedAt || now.before modTime then pure (false, none)
        else
          let age := now.sub modTime
          pure (age ≤ stale, some age)

/-! ### The goroutine of a child -/

/-- What ended the monitor of a started child: nothing more is to be done, or a failure was
committed and the group is gone. -/
inductive MonitorResult where
  | stop
  | failed (kind : String) (continuousReady : Duration)

/-- Publish what a cleanup amounts to. -/
def finishCleanup (spec : Child) (pgid : Int64) (cleanup : CleanupResult) : Proc Bool :=
  if cleanup.complete then do
    markStopped spec (exitCode cleanup.waitErr)
    pure true
  else do
    markCleanupIncomplete spec pgid cleanup
    pure false

def stopStartedChild (cfg : Config) (spec : Child) (process : StartedProcess) :
    Proc MonitorResult := do
  let cleanup ← cleanupProcessGroup cfg .background spec.name process.pid (some process.wait)
    false none .requested
  let _ ← finishCleanup spec process.pid cleanup
  pure .stop

def cleanupUncommittedStartedChild (cfg : Config) (spec : Child) (process : StartedProcess) :
    Proc Unit := do
  let cleanup ← cleanupProcessGroup cfg .background spec.name process.pid (some process.wait)
    false none .requested
  if cleanup.complete then pure () else markCleanupIncomplete spec process.pid cleanup

/-- The end of the monitor after the cleanup of a child that failed. -/
def monitorFailed (spec : Child) (pgid : Int64) (cleanup : CleanupResult) (committed : Bool)
    (kind : String) (continuousReady : Duration) : Proc MonitorResult := do
  let complete ← finishCleanup spec pgid cleanup
  if complete && committed then do
    let err ← perform (.contextErr .run)
    if err ≠ [] then pure .stop else pure (.failed kind continuousReady)
  else pure .stop

/-- Commit that the leader ended on its own, unless the run is stopping. -/
def markExit (spec : Child) (stopping : Bool) (waitErr : Option WaitErr) : Proc Bool :=
  if stopping then pure false
  else markFailure spec "unexpected_exit" (some (exitCode waitErr)) (waitErr.map WaitErr.text) false

/-- The leader ended on its own. -/
def handleExit (cfg : Config) (spec : Child) (process : StartedProcess) (r : Received) :
    Proc MonitorResult := do
  let now ← perform .now
  let continuousReady ← continuousReadyDuration spec now
  let err ← perform (.contextErr .run)
  let stopping := err ≠ []
  let failureCommitted ← markExit spec stopping r.waitErr
  let cleanup ← cleanupProcessGroup cfg .background spec.name process.pid none r.leaderReaped
    r.waitErr .residual
  monitorFailed spec process.pid cleanup (failureCommitted && !stopping) "unexpected_exit"
    continuousReady

/-- Stop a child whose heartbeat failed. -/
def handleStaleHeartbeat (cfg : Config) (spec : Child) (process : StartedProcess) (kind : String)
    (continuousReady : Duration) : Proc MonitorResult := do
  let err ← perform (.contextErr .run)
  if err ≠ [] then stopStartedChild cfg spec process
  else do
    let failureCommitted ← markFailure spec kind none none false
    let cleanup ← cleanupProcessGroup cfg .background spec.name process.pid (some process.wait)
      false none .requested
    monitorFailed spec process.pid cleanup failureCommitted kind continuousReady

/-- A tick of the heartbeat timer: nothing, or the end of the monitor. -/
def handleHeartbeat (cfg : Config) (spec : Child) (process : StartedProcess) (startedAt : Time) :
    Proc (Unit ⊕ MonitorResult) := do
  let now ← perform .now
  let continuousReady ← continuousReadyDuration spec now
  let err ← perform (.contextErr .run)
  if err ≠ [] then do
    let result ← stopStartedChild cfg spec process
    pure (.inr result)
  else do
    let (fresh, age) ← heartbeatState spec.heartbeatFile startedAt now cfg.heartbeatStale
    updateHeartbeat spec fresh age
    let observed ← perform (.heartbeatObserved spec.name)
    let failureAfter := if observed then cfg.heartbeatStale else cfg.heartbeatStartupTimeout
    let kind := if observed then "heartbeat_stale" else "heartbeat_startup_timeout"
    if fresh = false ∧ failureAfter ≤ now.sub startedAt then do
      let result ← handleStaleHeartbeat cfg spec process kind continuousReady
      pure (.inr result)
    else pure (.inl ())

/-- One round of the monitor. -/
def monitorRound (cfg : Config) (spec : Child) (process : StartedProcess) (startedAt : Time) :
    Proc (Unit ⊕ MonitorResult) := do
  match ← perform (.selectMonitor process.wait cfg.heartbeatPoll) with
  | .exited r => do
      let result ← handleExit cfg spec process r
      pure (.inr result)
  | .heartbeat => handleHeartbeat cfg spec process startedAt
  | .cancelled => do
      let now ← perform .now
      let _ ← continuousReadyDuration spec now
      let result ← stopStartedChild cfg spec process
      pure (.inr result)

def monitorStartedChild (cfg : Config) (spec : Child) (startedAt : Time)
    (process : StartedProcess) : Proc MonitorResult :=
  Thread.repeatUntil (fun _ => monitorRound cfg spec process startedAt) ()

/-- Start the child again, or end its goroutine. -/
def restartOrReturn (spec : Child) (continuousReady : Duration) : Proc (Bool ⊕ Unit) := do
  let restart ← waitForRestart spec continuousReady
  if restart.committed && restart.restart then pure (.inl false) else pure (.inr ())

/-- One start of a child. -/
def manageRound (cfg : Config) (spec : Child) (firstStart : Bool) : Proc (Bool ⊕ Unit) := do
  let err ← perform (.contextErr .run)
  if err ≠ [] then pure (.inr ())
  else do
    match ← startChild spec (!firstStart) with
    | .error err => do
        let committed ← markFailure spec "start_failed" none (some err.text) true
        if committed then restartOrReturn spec 0 else pure (.inr ())
    | .ok started =>
        if started.committed then do
          match ← monitorStartedChild cfg spec started.startedAt started.process with
          | .stop => pure (.inr ())
          | .failed _ continuousReady => restartOrReturn spec continuousReady
        else do
          cleanupUncommittedStartedChild cfg spec started.process
          pure (.inr ())

def manageChild (cfg : Config) (spec : Child) : Proc Unit :=
  Thread.repeatUntil (manageRound cfg spec) true

/-! ### The run -/

def beginShutdown : Proc Unit := do
  perform .lockTransition
  perform .setShuttingDown
  record { kind := "shutdown_requested" }
  perform .unlockTransition

def spawnChildren : List Child → Proc Unit
  | [] => pure ()
  | spec :: specs => do
      perform (.spawn (.child spec.name))
      spawnChildren specs

/-- Start all children, and wait for the cancellation and for the cleanup. -/
def run (cfg : Config) : Proc Unit := do
  let err ← perform .beginRun
  if err ≠ [] then perform (.returns err)
  else do
    record { kind := "supervisor_started" }
    spawnChildren cfg.children
    perform .awaitCancel
    beginShutdown
    perform (.spawn .waiter)
    match ← perform (.selectShutdown cfg.shutdownTimeout) with
    | .done => do
        record { kind := "supervisor_stopped" }
        perform .endRun
        let err ← perform .terminalError
        perform (.returns err)
    | .timeout => do
        record { kind := "shutdown_timeout" }
        perform (.spawn .late)
        let err ← perform .terminalError
        perform (.returns ("supervisor shutdown exceeded configured timeout" :: err))

/-- What the goroutine of the child with the given name runs. -/
def childGoroutine (cfg : Config) (name : String) : Proc Unit :=
  match cfg.children.find? fun spec => spec.name = name with
  | none => pure ()
  | some spec => do
      perform .begin
      manageChild cfg spec
      perform .wgDone

/-- What a goroutine runs. -/
def goroutine (cfg : Config) : Goroutine → Proc Unit
  | .caller => perform .cancel
  | .closer => do
      let _ ← perform .close
      pure ()
  | .run => run cfg
  | .waiter => do
      perform .begin
      perform .wgWait
      perform .closeDone
  | .late => do
      perform .begin
      perform .awaitDone
      perform .endRun
  | .child name => childGoroutine cfg name
  | .observer _ => do
      let status ← snapshot
      perform (.serve status)

/-- A manager that was just built, with all its goroutines. -/
def manager (cfg : Config) (store : EventStore) (directory : Directory) :
    Pool managerActions Goroutine World where
  shared := World.new cfg store directory
  threads := goroutine cfg

end Supervisor

end RobotestLab
