import RobotestLab.Library.Threads
import RobotestLab.Supervisor.EventStore
import RobotestLab.Supervisor.Restart

/-!
# The manager of the supervisor

The state that the goroutines of a manager share, and their atomic actions on it (manager.go). An
action is a critical section of one of the mutexes, a call of the clock or of the process system, or
an operation on a channel. The goroutines themselves are in `RobotestLab.Supervisor.Goroutines`.

What the clock, the process system and the channels of the processes answer is not determined, and
neither is the branch of a `select` that is taken when several are ready.
-/

namespace RobotestLab

namespace Supervisor

/-! ### Configuration -/

structure Child where
  name : String
  required : Bool
  heartbeatFile : String := ""
deriving DecidableEq

structure Config where
  heartbeatPollMs : Int64
  heartbeatStaleMs : Int64
  heartbeatStartupTimeoutMs : Int64
  terminationGraceMs : Int64
  shutdownTimeoutMs : Int64
  restart : RestartPolicy
  children : List Child
  names_nodup : (children.map Child.name).Nodup

namespace Config

def heartbeatPoll (cfg : Config) : Duration := cfg.heartbeatPollMs * millisecond

def heartbeatStale (cfg : Config) : Duration := cfg.heartbeatStaleMs * millisecond

def heartbeatStartupTimeout (cfg : Config) : Duration :=
  cfg.heartbeatStartupTimeoutMs * millisecond

def terminationGrace (cfg : Config) : Duration := cfg.terminationGraceMs * millisecond

def shutdownTimeout (cfg : Config) : Duration := cfg.shutdownTimeoutMs * millisecond

end Config

def defaultCleanupKillGrace : Duration := 2000 * millisecond

def cleanupFailureKind : String := "process_group_cleanup_incomplete"

/-! ### Processes -/

/-- A process group with the channel on which the status of its leader arrives. -/
structure StartedProcess where
  pid : Int64
  wait : Nat
deriving DecidableEq

inductive Signal where
  | sigterm
  | sigkill
deriving DecidableEq

def Signal.text : Signal → String
  | .sigterm => "terminated"
  | .sigkill => "killed"

/-- An error of a signal. -/
structure SignalErr where
  noSuchProcess : Bool
  text : String
deriving DecidableEq

/-- The error with which a leader ended: an exit with a code, or another error. -/
inductive WaitErr where
  | exit (code : Int64) (text : String)
  | other (text : String)
deriving DecidableEq

def WaitErr.text : WaitErr → String
  | .exit _ text => text
  | .other text => text

/-- What is received from the channel of a process: the status of the leader, or that the channel
is closed. -/
inductive Received where
  | status (err : Option WaitErr)
  | closed
deriving DecidableEq

def closedWithoutStatus : String := "child wait channel closed without an exit status"

def Received.leaderReaped : Received → Bool
  | .status _ => true
  | .closed => false

def Received.waitErr : Received → Option WaitErr
  | .status err => err
  | .closed => some (.other closedWithoutStatus)

def exitCode : Option WaitErr → Int64
  | none => 0
  | some (.exit code _) => code
  | some (.other _) => -1

structure CleanupResult where
  leaderReaped : Bool
  waitErr : Option WaitErr := none
  groupEmpty : Bool := false
  err : Err := []
deriving DecidableEq

def CleanupResult.complete (result : CleanupResult) : Bool :=
  result.leaderReaped && result.groupEmpty && result.err.isEmpty

inductive CleanupMode where
  | requested
  | residual
deriving DecidableEq

/-! ### Snapshots -/

structure ChildSnapshot where
  name : String
  required : Bool
  running : Bool := false
  heartbeatFresh : Bool
  heartbeatAgeMs : Option Int64 := none
  pid : Int64 := 0
  pgid : Int64 := 0
  restartCount : Int64 := 0
  circuitOpen : Bool := false
  lastFailureKind : String := ""
  lastFailureUtc : String := ""
  lastReadyUtc : String := ""
  startedUtc : String := ""
  lastExitCode : Option Int64 := none
deriving DecidableEq

/-- A required child keeps the supervisor from being ready. -/
def ChildSnapshot.blocks (child : ChildSnapshot) : Bool :=
  child.required && (!child.running || !child.heartbeatFresh || child.circuitOpen)

structure Snapshot where
  schemaVersion : Int64 := 1
  supervisorUtc : String
  healthy : Bool := true
  ready : Bool
  persistenceHealthy : Bool
  shuttingDown : Bool
  eventCount : Nat
  droppedEvents : UInt64
  children : List ChildSnapshot
deriving DecidableEq

/-- The part of a snapshot that is read in one critical section. -/
structure StateView where
  children : List ChildSnapshot
  shuttingDown : Bool
  persistenceHealthy : Bool
deriving DecidableEq

/-- The snapshot of a view, the counts of the event store and the time. -/
def StateView.snapshot (view : StateView) (counts : Nat × UInt64) (now : Time) : Snapshot where
  supervisorUtc := now.format
  ready := view.persistenceHealthy && counts.2 = 0 && !view.shuttingDown &&
    !view.children.any ChildSnapshot.blocks
  persistenceHealthy := view.persistenceHealthy
  shuttingDown := view.shuttingDown
  eventCount := counts.1
  droppedEvents := counts.2
  children := view.children.mergeSort fun left right => left.name ≤ right.name

/-! ### The shared state -/

structure ChildRuntime where
  spec : Child
  state : ChildSnapshot
  tracker : RestartTracker
  heartbeatObservedThisStart : Bool := false
  readySince : Time := .zero
deriving DecidableEq

/-- The goroutines: the caller that cancels the context, a call of `Close`, the call of `Run`, the
goroutines that `Run` starts, and the callers of `Snapshot`. -/
inductive Goroutine where
  | caller
  | closer
  | run
  | waiter
  | late
  | child (name : String)
  | observer (n : Nat)
deriving DecidableEq

/-- The contexts of the calls: the one of `Run`, and the one that is never cancelled. -/
inductive Context where
  | background
  | run
deriving DecidableEq

structure World where
  children : String → ChildRuntime
  names : List String
  shuttingDown : Bool := false
  persistenceHealthy : Bool
  lastReady : Bool := false
  startedAt : Time := .zero
  runStarted : Bool := false
  runActive : Bool := false
  closed : Bool := false
  terminalErr : Err := []
  store : EventStore
  directory : Directory
  cancelled : Bool := false
  transitionMu : Option Goroutine := none
  wg : Nat := 0
  spawned : List Goroutine := []
  done : Bool := false

namespace World

/-- The manager has just been built. -/
def new (cfg : Config) (store : EventStore) (directory : Directory) : World where
  children name :=
    let spec := (cfg.children.find? fun spec => spec.name = name).getD
      { name := name, required := false }
    { spec := spec
      state := {
        name := spec.name
        required := spec.required
        heartbeatFresh := spec.heartbeatFile = "" }
      tracker := { policy := cfg.restart } }
  names := cfg.children.map Child.name
  persistenceHealthy := !store.saturated
  store := store
  directory := directory

/-- Change the runtime of a child. -/
def updateChild (w : World) (name : String) (f : ChildRuntime → ChildRuntime) : World :=
  { w with children := Function.update w.children name (f (w.children name)) }

def contextErr (w : World) : Context → Err
  | .background => []
  | .run => if w.cancelled then ["context canceled"] else []

def transitionPermittedLocked (w : World) : Bool := (w.contextErr .run).isEmpty && !w.shuttingDown

def view (w : World) : StateView where
  children := w.names.map fun name => (w.children name).state
  shuttingDown := w.shuttingDown
  persistenceHealthy := w.persistenceHealthy

/-- Neither the manager nor a child keeps the supervisor from being ready. -/
def ready (w : World) : Bool :=
  !w.shuttingDown && w.persistenceHealthy &&
    !w.names.any fun name =>
      let runtime := w.children name
      runtime.spec.required && (!runtime.state.running || !runtime.state.heartbeatFresh ||
        runtime.state.circuitOpen)

end World

/-! ### Critical sections of a child -/

namespace ChildRuntime

/-- The committed start of a process. -/
def startCommitted (runtime : ChildRuntime) (startedAt : Time) (pid : Int64) (restarted : Bool) :
    ChildRuntime :=
  let supervised := runtime.spec.heartbeatFile ≠ ""
  { runtime with
    state := { runtime.state with
      running := true
      pid := pid
      pgid := pid
      startedUtc := startedAt.format
      heartbeatFresh := !supervised
      heartbeatAgeMs := none
      circuitOpen := false
      lastReadyUtc := if supervised then runtime.state.lastReadyUtc else startedAt.format
      restartCount := if restarted then runtime.state.restartCount + 1
        else runtime.state.restartCount }
    heartbeatObservedThisStart := !supervised
    readySince := if supervised then .zero else startedAt }

/-- The committed failure of a child. -/
def failureCommitted (runtime : ChildRuntime) (kind : String) (code : Option Int64) (now : Time)
    (processExited : Bool) : ChildRuntime :=
  { runtime with
    state := { runtime.state with
      running := false
      heartbeatFresh := false
      lastFailureKind := kind
      lastFailureUtc := now.format
      lastExitCode := code
      pid := if processExited then 0 else runtime.state.pid
      pgid := if processExited then 0 else runtime.state.pgid }
    readySince := .zero }

/-- The recorded failure of a child, which opens the circuit when there are no attempts left. -/
def failureRecorded (runtime : ChildRuntime) (now : Time) (continuousReady : Duration) :
    ChildRuntime × RestartDecision :=
  let (tracker, decision) := runtime.tracker.recordFailure now continuousReady
  ({ runtime with
      tracker := tracker
      state := { runtime.state with
        circuitOpen := decision.exhausted || runtime.state.circuitOpen } },
    decision)

/-- The identity under which an incomplete cleanup is published. -/
def publishedIdentity (runtime : ChildRuntime) (pgid : Int64) : Int64 × Int64 :=
  (if runtime.state.pid = 0 then pgid else runtime.state.pid,
    if runtime.state.pgid = 0 then pgid else runtime.state.pgid)

/-- An incomplete cleanup. The process group is kept as a diagnostic identity. -/
def cleanupIncomplete (runtime : ChildRuntime) (pgid : Int64) (cleanup : CleanupResult)
    (now : Time) : ChildRuntime :=
  let (publishedPid, publishedPgid) := runtime.publishedIdentity pgid
  { runtime with
    state := { runtime.state with
      running := false
      heartbeatFresh := false
      pid := if cleanup.leaderReaped then 0 else publishedPid
      pgid := publishedPgid
      circuitOpen := true
      lastFailureKind := cleanupFailureKind
      lastFailureUtc := now.format
      lastExitCode := if cleanup.leaderReaped then some (exitCode cleanup.waitErr)
        else runtime.state.lastExitCode }
    readySince := .zero }

def stopped (runtime : ChildRuntime) (code : Int64) : ChildRuntime :=
  { runtime with
    state := { runtime.state with
      running := false
      heartbeatFresh := false
      pid := 0
      pgid := 0
      lastExitCode := some code }
    readySince := .zero }

/-- An observation of the heartbeat. The clock is read once for each of the two times. -/
def heartbeatUpdated (runtime : ChildRuntime) (fresh : Bool) (age : Option Duration)
    (sinceNow readyNow : Time) : ChildRuntime :=
  let changed := runtime.state.heartbeatFresh ≠ fresh
  { runtime with
    state := { runtime.state with
      heartbeatFresh := fresh
      heartbeatAgeMs := age.map Duration.milliseconds
      lastReadyUtc := if fresh = true ∧ changed then readyNow.format
        else runtime.state.lastReadyUtc }
    heartbeatObservedThisStart := fresh || runtime.heartbeatObservedThisStart
    readySince := if fresh then
        (if runtime.readySince.isZero then sinceNow else runtime.readySince)
      else .zero }

end ChildRuntime

/-- The cause of an incomplete cleanup. -/
def CleanupResult.cause (cleanup : CleanupResult) : Err :=
  if cleanup.err = [] then ["process group cleanup did not reach a complete state"]
  else cleanup.err

/-- The error of an incomplete cleanup of a child. -/
def cleanupIncompleteErr (name : String) (cleanup : CleanupResult) : Err :=
  [cleanupFailureKind ++ " for child \"" ++ name ++ "\": " ++ cleanup.cause.text]

/-! ### Actions -/

/-- The branches of the `select` that watches a started child. -/
inductive MonitorEvent where
  | exited (r : Received)
  | heartbeat
  | cancelled
deriving DecidableEq

/-- The branches of the `select` that waits for a process group to become empty. -/
inductive CleanupEvent where
  | received (r : Received)
  | tick
  | deadline
  | cancelled
deriving DecidableEq

/-- The branches of the `select` that waits for a restart. -/
inductive RestartEvent where
  | fired
  | cancelled
deriving DecidableEq

/-- The branches of the `select` that waits for the shutdown. -/
inductive ShutdownEvent where
  | done
  | timeout
deriving DecidableEq

inductive Action where
  -- The clock and the context.
  | now
  | contextErr (ctx : Context)
  | cancel
  -- The process system and the file of a heartbeat.
  | start (child : Child)
  | signal (pgid : Int64) (signal : Signal)
  | probe (pgid : Int64)
  | stat (path : String)
  -- Channels.
  | selectMonitor (wait : Nat) (poll : Duration)
  | selectCleanup (ctx : Context) (wait : Option Nat) (timeout : Duration)
  | pollWait (wait : Option Nat)
  | selectRestart (delay : Duration)
  | selectShutdown (timeout : Duration)
  | awaitCancel
  | awaitDone
  | closeDone
  -- Goroutines and their wait group.
  | spawn (g : Goroutine)
  | begin
  | wgDone
  | wgWait
  | returns (err : Err)
  -- Critical sections.
  | lockTransition
  | unlockTransition
  | beginRun
  | endRun
  | close
  | setShuttingDown
  | isShuttingDown
  | commitStart (name : String) (startedAt : Time) (pid : Int64) (restarted : Bool)
  | commitFailure (name kind : String) (code : Option Int64) (now : Time) (processExited : Bool)
  | commitRestart (name : String) (now : Time) (continuousReady : Duration)
  | publishIncomplete (name : String) (pgid : Int64) (cleanup : CleanupResult) (now : Time)
  | publishStopped (name : String) (code : Int64)
  | publishHeartbeat (name : String) (fresh : Bool) (age : Option Duration)
  | heartbeatObserved (name : String)
  | readySince (name : String)
  | terminalError
  | startedAt
  | persistenceFailed
  | readState
  | readReady
  | swapReady (ready : Bool)
  -- The event store and the status file.
  | append (now : Time) (event : Event)
  | isSaturated
  | counts
  | writeSnapshot (snapshot : Snapshot)
  | serve (snapshot : Snapshot)

/-- What an action answers. -/
@[reducible]
def Action.Answer : Action → Type
  | .now | .startedAt | .readySince _ => Time
  | .contextErr _ | .beginRun | .close | .terminalError | .writeSnapshot _ => Err
  | .start _ => Except Err StartedProcess
  | .signal _ _ => Option SignalErr
  | .probe _ => Bool × Err
  | .stat _ => Option Time
  | .selectMonitor _ _ => MonitorEvent
  | .selectCleanup _ _ _ => CleanupEvent
  | .pollWait _ => Option Received
  | .selectRestart _ => RestartEvent
  | .selectShutdown _ => ShutdownEvent
  | .isShuttingDown | .commitStart _ _ _ _ | .publishHeartbeat _ _ _ | .heartbeatObserved _ => Bool
  | .readReady | .swapReady _ | .isSaturated => Bool
  | .commitFailure _ _ _ _ _ => Option (Int64 × Int64)
  | .commitRestart _ _ _ => Option RestartDecision
  | .publishIncomplete _ _ _ _ => Int64 × Int64
  | .readState => StateView
  | .append _ _ => Event × Err
  | .counts => Nat × UInt64
  | _ => Unit

/-- What decides how an action ends, besides the shared state. -/
@[reducible]
def Action.Choice : Action → Type
  | .now | .beginRun => Time
  | .start _ => Except Err StartedProcess
  | .signal _ _ => Option SignalErr
  | .probe _ => Bool × Err
  | .stat _ => Option Time
  | .selectMonitor _ _ => MonitorEvent
  | .selectCleanup _ _ _ => CleanupEvent
  | .pollWait _ => Option Received
  | .selectRestart _ => RestartEvent
  | .selectShutdown _ => ShutdownEvent
  | .publishHeartbeat _ _ _ => Time × Time
  | .append _ _ => ioSignature.Environment
  | .writeSnapshot _ => Err
  | _ => Unit

abbrev managerActions : Actions where
  Action := Action
  Answer := Action.Answer

/-- Perform an action in one step, unless it has to wait. -/
def World.perform (w : World) (i : Goroutine) : (a : Action) → a.Choice → Option (a.Answer × World)
  | .now, now => some (now, w)
  | .contextErr ctx, _ => some (w.contextErr ctx, w)
  | .cancel, _ => some ((), { w with cancelled := true })
  | .start _, process => some (process, w)
  | .signal _ _, err => some (err, w)
  | .probe _, answer => some (answer, w)
  | .stat _, modTime => some (modTime, w)
  | .selectMonitor _ _, event =>
      if event = .cancelled ∧ w.cancelled = false then none else some (event, w)
  | .selectCleanup ctx wait _, event =>
      match event with
      -- A nil channel is never ready.
      | .received r => if wait = none then none else some (.received r, w)
      | .cancelled => if w.contextErr ctx = [] then none else some (.cancelled, w)
      | event => some (event, w)
  | .pollWait wait, r => if wait = none ∧ r ≠ none then none else some (r, w)
  | .selectRestart _, event =>
      if event = .cancelled ∧ w.cancelled = false then none else some (event, w)
  | .selectShutdown _, event =>
      if event = .done ∧ w.done = false then none else some (event, w)
  | .awaitCancel, _ => if w.cancelled then some ((), w) else none
  | .awaitDone, _ => if w.done then some ((), w) else none
  | .closeDone, _ => some ((), { w with done := true })
  | .spawn g, _ =>
      let wg := match g with
        | .child _ => w.wg + 1
        | _ => w.wg
      some ((), { w with spawned := w.spawned ++ [g], wg := wg })
  | .begin, _ => if i ∈ w.spawned then some ((), w) else none
  | .wgDone, _ => if w.wg = 0 then none else some ((), { w with wg := w.wg - 1 })
  | .wgWait, _ => if w.wg = 0 then some ((), w) else none
  | .returns _, _ => some ((), w)
  | .lockTransition, _ =>
      if w.transitionMu = none then some ((), { w with transitionMu := some i }) else none
  | .unlockTransition, _ =>
      if w.transitionMu = none then none else some ((), { w with transitionMu := none })
  | .beginRun, now =>
      if w.closed then some (["supervisor manager is closed"], w)
      else if w.runStarted then some (["supervisor manager Run may be called only once"], w)
      else some ([], { w with runStarted := true, runActive := true, startedAt := now })
  | .endRun, _ => some ((), { w with runActive := false })
  | .close, _ =>
      if w.closed then some ([], w)
      else if w.runActive then
        some (["cannot close supervisor manager while Run is active"], w)
      else some ([], { w with closed := true })
  | .setShuttingDown, _ => some ((), { w with shuttingDown := true })
  | .isShuttingDown, _ => some (w.shuttingDown, w)
  | .commitStart name startedAt pid restarted, _ =>
      if w.transitionPermittedLocked then
        some (true, w.updateChild name fun runtime =>
          runtime.startCommitted startedAt pid restarted)
      else some (false, w)
  | .commitFailure name kind code now processExited, _ =>
      if w.transitionPermittedLocked then
        let state := (w.children name).state
        some (some (state.pid, state.pgid), w.updateChild name fun runtime =>
          runtime.failureCommitted kind code now processExited)
      else some (none, w)
  | .commitRestart name now continuousReady, _ =>
      if w.transitionPermittedLocked then
        some (some ((w.children name).failureRecorded now continuousReady).2,
          w.updateChild name fun runtime => (runtime.failureRecorded now continuousReady).1)
      else some (none, w)
  | .publishIncomplete name pgid cleanup now, _ =>
      some ((w.children name).publishedIdentity pgid,
        { w.updateChild name (fun runtime => runtime.cleanupIncomplete pgid cleanup now) with
          terminalErr := w.terminalErr ++ cleanupIncompleteErr name cleanup })
  | .publishStopped name code, _ =>
      some ((), w.updateChild name fun runtime => runtime.stopped code)
  | .publishHeartbeat name fresh age, (sinceNow, readyNow) =>
      some ((w.children name).state.heartbeatFresh ≠ fresh,
        w.updateChild name fun runtime =>
          runtime.heartbeatUpdated fresh age sinceNow readyNow)
  | .heartbeatObserved name, _ => some ((w.children name).heartbeatObservedThisStart, w)
  | .readySince name, _ => some ((w.children name).readySince, w)
  | .terminalError, _ => some (w.terminalErr, w)
  | .startedAt, _ => some (w.startedAt, w)
  | .persistenceFailed, _ => some ((), { w with persistenceHealthy := false })
  | .readState, _ => some (w.view, w)
  | .readReady, _ => some (w.ready, w)
  | .swapReady ready, _ => some (ready ≠ w.lastReady, { w with lastReady := ready })
  | .append now event, env =>
      match Supervisor.append w.store now.utc event env 0 w.directory [] with
      | some (.ok appended, directory, _) =>
          some ((appended.event, appended.err),
            { w with store := appended.store, directory := directory })
      | _ => none
  | .isSaturated, _ => some (w.store.saturated, w)
  | .counts, _ => some ((w.store.entries, w.store.dropped), w)
  | .writeSnapshot _, err => some (err, w)
  | .serve _, _ => some ((), w)

/-- What the actions of the goroutines may answer and do to the shared state. -/
def managerSemantics : Semantics managerActions Goroutine World :=
  fun i a w r w' => ∃ c, w.perform i a c = some (r, w')

end Supervisor

end RobotestLab
