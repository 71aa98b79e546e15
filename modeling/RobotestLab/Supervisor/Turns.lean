import RobotestLab.Library.Restricted
import RobotestLab.Supervisor.Records

/-!
# Turns of the children

The restarts of a child as its goroutine commits and reports them. A start is committed as a restart
exactly when a restart of the child was scheduled and is still to be started, its event follows
before the next start, and a restart is only scheduled after a failure was recorded. Every goroutine
obeys this protocol (`turns_goroutine`).
-/

namespace RobotestLab

namespace Supervisor

/-! ### Turns -/

/-- A failure of the child was recorded, a restart was scheduled and is still to be started, and a
start was committed, as a restart or not, that is still to be recorded. -/
structure Turn where
  failed : Bool := false
  owed : Bool := false
  committed : Option Bool := none

namespace Turn

/-- The goroutine may record the event. -/
def CanTell (i : Goroutine) (q : Turn) (event : Event) : Prop :=
  match event.mark with
  | .started => i = .child event.child ∧ q.committed.isSome = true
  | .scheduled => i = .child event.child ∧ q.failed = true ∧ q.committed = none
  | _ => True

def tell (q : Turn) : Mark → Turn
  | .started => { q with owed := false, committed := none }
  | .scheduled => { q with owed := true }
  | .failed _ => { q with failed := true }
  | _ => q

def Allows (i : Goroutine) (q : Turn) : Action → Prop
  | .append _ event => q.CanTell i event
  | .commitStart name _ _ restarted => i = .child name ∧ q.committed = none ∧ restarted = q.owed
  | _ => True

def next (q : Turn) : (a : Action) → a.Answer → Turn
  | .append _ event, _ => q.tell event.mark
  | .commitStart _ _ _ restarted, committed =>
      if committed then { q with committed := some restarted } else q
  | _, _ => q

end Turn

/-- The protocol of the turns. -/
def turning (i : Goroutine) : Protocol managerActions where
  State := Turn
  Allows := Turn.Allows i
  Possible _ _ := True
  next := Turn.next

/-- The mark is about the turns of a child. -/
def Mark.isTurn : Mark → Bool
  | .started | .scheduled | .failed _ => true
  | _ => false

/-- The action is about the turns of a child. -/
def Action.isTurn : Action → Bool
  | .append _ event => event.mark.isTurn
  | .commitStart _ _ _ _ => true
  | _ => false

/-! ### Actions about something else -/

/-- The program performs no action about the turns of a child. -/
abbrev Aside {α : Type} (t : Proc α) : Prop :=
  Thread.Only (A := managerActions) (fun a : Action => a.isTurn = false) t

section Aside

open Thread

variable {α β : Type} {i : Goroutine} {q : Turn} {a : Action}

theorem aside_perform (ha : a.isTurn = false) : Aside (perform a)
  := Only.perform ha

/-- An action about something else, and then the rest. -/
theorem aside_act {f : a.Answer → Proc β} (ha : a.isTurn = false) (hf : ∀ x, Aside (f x)) :
  Aside (perform a >>= f)
  := Only.act ha hf

theorem allows_of_aside (ha : a.isTurn = false) :
  q.Allows i a
  := by
  cases a with
  | append now event =>
      change q.CanTell i event
      change event.mark.isTurn = false at ha
      unfold Turn.CanTell
      cases hmark : event.mark with
      | started | scheduled =>
          rw [hmark] at ha
          cases ha
      | _ => trivial
  | commitStart => cases ha
  | _ => trivial

theorem next_of_aside (r : a.Answer) (ha : a.isTurn = false) :
  q.next a r = q
  := by
  cases a with
  | append now event =>
      change q.tell event.mark = q
      change event.mark.isTurn = false at ha
      cases hmark : event.mark with
      | started | scheduled | failed =>
          rw [hmark] at ha
          cases ha
      | _ => rfl
  | commitStart => cases ha
  | _ => rfl

/-- Such a program leaves the turn as it is. -/
theorem turns_of_aside {t : Proc α} (h : Aside t) :
  Obeys (turning i) t q fun _ q' => q' = q
  := h.obeys (P := turning i) (fun _ ha => allows_of_aside ha) fun _ r ha => next_of_aside r ha

/-- Continue after a part that is about something else. -/
theorem turns_keep {t : Proc α} {f : α → Proc β} {post : β → Turn → Prop} (ht : Aside t)
    (hf : ∀ x, Obeys (turning i) (f x) q post) :
  Obeys (turning i) (t >>= f) q post
  := by
  apply Obeys.bind (turns_of_aside ht)
  rintro x q' rfl
  apply hf x

/-- Perform an action about something else, and continue. -/
theorem turns_skip {f : a.Answer → Proc β} {post : β → Turn → Prop}
    (ha : a.isTurn = false) (hf : ∀ x, Obeys (turning i) (f x) q post) :
  Obeys (turning i) (perform a >>= f) q post
  := turns_keep (aside_perform ha) hf

theorem aside_snapshot : Aside snapshot
  := by
  apply aside_act rfl
  intro view
  apply aside_act rfl
  intro counts
  apply aside_act rfl
  intro now
  apply Only.pure

theorem aside_steadyWall (now : Time) : Aside (steadyWall now)
  := by
  apply aside_act rfl
  intro startedAt
  apply Only.ite
  · apply Only.pure
  · simp only
    apply Only.ite
    · apply aside_act rfl fun _ => Only.pure _
    · apply Only.pure

/-- What follows the append of an event. -/
theorem aside_recorded (err : Err) :
  Aside (reportAppend err >>= fun _ => writeStatus)
  := by
  apply Only.bind
  · apply Only.ite
    · apply aside_perform rfl
    · apply aside_act rfl
      intro saturated
      apply Only.ite (aside_perform rfl) (Only.pure _)
  · intro _
    apply aside_snapshot.bind
    intro status
    apply aside_act rfl
    intro err
    apply Only.ite (aside_perform rfl) (Only.pure _)

variable {event : Event}

theorem aside_record (h : event.mark.isTurn = false) : Aside (record event)
  := by
  apply aside_act rfl
  intro now
  apply (aside_steadyWall now).bind
  intro steadyWallNs
  apply aside_act (by exact h)
  intro appended
  apply aside_recorded

theorem aside_recordWhen (h : event.mark.isTurn = false) (condition : Bool) :
  Aside (recordWhen condition event)
  := Only.ite (aside_record h) (Only.pure _)

theorem aside_refreshReadiness : Aside refreshReadiness
  := by
  have hready : Aside isReady := by
    apply aside_act rfl
    intro ready
    apply aside_act rfl fun _ => Only.pure _
  apply hready.bind
  intro ready
  apply aside_act rfl
  intro changed
  apply aside_recordWhen rfl

theorem aside_processGroupEmpty (pgid : Int64) : Aside (processGroupEmpty pgid)
  := by
  apply aside_act rfl
  intro answer
  apply Only.ite (Only.pure _) (Only.pure _)

theorem aside_probeGroup (pgid : Int64) (progress : CleanupProgress) :
    Aside (probeGroup pgid progress)
  := (aside_processGroupEmpty pgid).bind fun _ => Only.pure _

theorem aside_receiveFinal (progress : CleanupProgress) : Aside (receiveFinal progress)
  := by
  apply Only.ite
  · apply aside_act rfl
    intro r
    cases r with
    | none => apply Only.pure
    | some r => apply Only.pure
  · apply Only.pure

theorem aside_settle (progress : CleanupProgress) : Aside (settle progress)
  := Only.ite (Only.pure _) (Only.pure _)

theorem aside_waitEmptyRound (ctx : Context) (pgid : Int64) (timeout : Duration)
    (progress : CleanupProgress) :
  Aside (waitEmptyRound ctx pgid timeout progress)
  := by
  apply aside_act rfl
  intro event
  cases event with
  | received r => apply (aside_probeGroup pgid _).bind aside_settle
  | tick => apply (aside_probeGroup pgid _).bind aside_settle
  | deadline =>
      apply (aside_receiveFinal progress).bind
      intro progress
      apply (aside_probeGroup pgid _).bind fun _ => Only.pure _
  | cancelled =>
      apply (aside_receiveFinal progress).bind
      intro progress
      apply (aside_probeGroup pgid _).bind
      intro progress
      apply aside_act rfl fun _ => Only.pure _

theorem aside_waitEmpty (ctx : Context) (pgid : Int64) (wait : Option Nat) (result : CleanupResult)
    (timeout : Duration) :
  Aside (waitEmpty ctx pgid wait result timeout)
  := by
  apply (aside_probeGroup pgid _).bind
  intro progress
  apply (aside_settle progress).bind
  intro settled
  cases settled with
  | inr result => apply Only.pure
  | inl progress => apply Only.repeatUntil (aside_waitEmptyRound ctx pgid timeout)

theorem aside_signalProcessGroup (pgid : Int64) (signal : Signal) :
  Aside (signalProcessGroup pgid signal)
  := by
  apply Only.ite (Only.pure _)
  apply aside_act rfl
  intro err
  cases err with
  | none => apply Only.pure
  | some err => apply Only.ite (Only.pure _) (Only.pure _)

theorem aside_cleanupProcessGroup (cfg : Config) (ctx : Context) (child : String) (pgid : Int64)
    (wait : Option Nat) (leaderReaped : Bool) (waitErr : Option WaitErr) (mode : CleanupMode) :
  Aside (cleanupProcessGroup cfg ctx child pgid wait leaderReaped waitErr mode)
  := by
  apply (aside_processGroupEmpty pgid).bind
  intro probed
  apply Only.ite (Only.pure _)
  apply Only.bind
  · apply aside_record
    cases mode with
    | requested => rfl
    | residual => rfl
  · intro _
    apply (aside_signalProcessGroup pgid _).bind
    intro err
    apply (aside_waitEmpty ctx pgid wait _ _).bind
    intro result
    apply Only.ite
    · exact (aside_recordWhen rfl _).bind fun _ => Only.pure _
    · apply Only.bind
      · apply aside_record
        cases mode with
        | requested => rfl
        | residual => rfl
      · intro _
        apply (aside_signalProcessGroup pgid _).bind
        intro err
        apply (aside_waitEmpty ctx pgid wait _ _).bind fun _ => Only.pure _

theorem aside_transitionPermitted : Aside transitionPermitted
  := by
  apply aside_act rfl
  intro err
  apply Only.ite (Only.pure _)
  apply aside_act rfl fun _ => Only.pure _

theorem aside_waitForBackoff (delay : Duration) : Aside (waitForBackoff delay)
  := by
  apply aside_transitionPermitted.bind
  intro permitted
  apply Only.ite
  · apply aside_act rfl
    intro event
    cases event with
    | fired => apply aside_transitionPermitted.bind fun _ => Only.pure _
    | cancelled => apply Only.pure
  · apply Only.pure

/-- An event about something else, and then the readiness. -/
theorem aside_publish (h : event.mark.isTurn = false) :
  Aside (do
    record event
    refreshReadiness)
  := (aside_record h).bind fun _ => aside_refreshReadiness

theorem aside_markCleanupIncomplete (spec : Child) (pgid : Int64) (cleanup : CleanupResult) :
  Aside (markCleanupIncomplete spec pgid cleanup)
  := by
  apply aside_act rfl
  intro now
  apply aside_act rfl
  intro identity
  apply aside_publish rfl

theorem aside_finishCleanup (spec : Child) (pgid : Int64) (cleanup : CleanupResult) :
  Aside (finishCleanup spec pgid cleanup)
  := by
  apply Only.ite
  · exact (aside_act rfl fun _ => aside_publish rfl).bind fun _ => Only.pure _
  · apply (aside_markCleanupIncomplete spec pgid cleanup).bind fun _ => Only.pure _

theorem aside_updateHeartbeat (spec : Child) (fresh : Bool) (age : Option Duration) :
  Aside (updateHeartbeat spec fresh age)
  := by
  apply aside_act rfl
  intro changed
  apply Only.ite
  · apply aside_publish
    cases fresh with
    | true => rfl
    | false => rfl
  · apply Only.pure

theorem aside_continuousReadyDuration (spec : Child) (now : Time) :
  Aside (continuousReadyDuration spec now)
  := by
  apply aside_act rfl
  intro readySince
  apply Only.ite (Only.pure _) (Only.pure _)

theorem aside_heartbeatState (path : String) (startedAt now : Time) (stale : Duration) :
  Aside (heartbeatState path startedAt now stale)
  := by
  apply Only.ite (Only.pure _)
  apply aside_act rfl
  intro modTime
  cases modTime with
  | none => apply Only.pure
  | some modTime => apply Only.ite (Only.pure _) (Only.pure _)

end Aside

/-! ### Transitions of a child -/

section Transitions

open Thread

variable {β : Type} {i : Goroutine} {q : Turn} {spec : Child}

/-- Perform an allowed action and continue. -/
theorem turns_act {a : Action} {f : a.Answer → Proc β} {post : β → Turn → Prop} (ha : q.Allows i a)
    (hf : ∀ x, Obeys (turning i) (f x) (q.next a x) post) :
  Obeys (turning i) (perform a >>= f) q post
  := ⟨ha, fun x _ => hf x⟩

theorem turns_ite {c : Prop} [Decidable c] {t e : Proc β} {post : β → Turn → Prop}
    (ht : c → Obeys (turning i) t q post) (he : ¬ c → Obeys (turning i) e q post) :
  Obeys (turning i) (if c then t else e) q post
  := by
  split
  · apply ht ‹_›
  · apply he ‹_›

theorem turns_record {event : Event} (h : q.CanTell i event) :
  Obeys (turning i) (record event) q fun _ q' => q' = q.tell event.mark
  := by
  apply turns_skip rfl
  intro now
  apply turns_keep (aside_steadyWall now)
  intro steadyWallNs
  apply turns_act (by exact h)
  intro appended
  apply turns_of_aside (aside_recorded _)

/-- The turn after a start that was committed, or after one that was not. -/
def Turn.start (q : Turn) (committed : Bool) : Turn :=
  if committed then { q with owed := false, committed := none } else q

theorem turns_announceStart {restarted : Bool} (now : Time) (pid : Int64) (committed : Bool) :
  Obeys (turning (.child spec.name)) (announceStart spec pid committed)
    (q.next (.commitStart spec.name now pid restarted) committed) fun _ q' => q' = q.start committed
  := by
  cases committed with
  | false => exact rfl
  | true =>
      apply Obeys.bind
      · apply turns_record
        exact ⟨rfl, rfl⟩
      · rintro _ q₁ rfl
        apply (turns_of_aside aside_refreshReadiness).mono
        rintro _ q₂ rfl
        rfl

/-- A start is committed as a restart when one was scheduled. -/
theorem turns_startChild (hnone : q.committed = none) {restarted : Bool}
    (hrestarted : restarted = q.owed) :
  Obeys (turning (.child spec.name)) (startChild spec restarted) q fun result q' =>
    match result with
    | .error _ => q' = q
    | .ok started => q' = q.start started.committed
  := by
  apply turns_skip rfl
  intro startedAt
  apply turns_skip rfl
  intro result
  cases result with
  | error err => exact rfl
  | ok process =>
      apply turns_skip rfl
      intro _
      apply turns_act (by exact ⟨rfl, hnone, hrestarted⟩)
      intro committed
      apply Obeys.bind (turns_announceStart startedAt process.pid committed)
      rintro _ q₁ rfl
      apply turns_skip rfl
      intro _
      exact rfl

/-- The turn after a failure that was committed, or after one that was not. -/
def Turn.fail (q : Turn) (committed : Bool) : Turn :=
  if committed then { q with failed := true } else q

theorem turns_markFailure (kind : String) (code : Option Int64) (err : Option String)
    (processExited : Bool) :
  Obeys (turning i) (markFailure spec kind code err processExited) q
    fun committed q' => q' = q.fail committed
  := by
  apply turns_skip rfl
  intro now
  apply turns_skip rfl
  intro _
  apply turns_skip rfl
  intro identity
  cases identity with
  | none =>
      apply turns_skip rfl
      intro _
      exact rfl
  | some identity =>
      apply Obeys.bind
      · apply turns_record
        exact trivial
      · rintro _ q₁ rfl
        apply turns_keep aside_refreshReadiness
        intro _
        apply turns_skip rfl
        intro _
        exact rfl

/-- A child is started again only after its restart was recorded. -/
theorem turns_waitForRestart (hnone : q.committed = none) (hfailed : q.failed = true)
    (continuousReady : Duration) :
  Obeys (turning (.child spec.name)) (waitForRestart spec continuousReady) q fun result q' =>
    result.restart = true → q' = { q with owed := true }
  := by
  apply turns_skip rfl
  intro err
  split
  · exact nofun
  · apply turns_skip rfl
    intro now
    apply turns_skip rfl
    intro _
    apply turns_skip rfl
    intro decision
    cases decision with
    | none =>
        apply turns_skip rfl
        intro _
        exact nofun
    | some decision =>
        dsimp only
        split
        · apply turns_keep (aside_record rfl)
          intro _
          apply turns_keep aside_refreshReadiness
          intro _
          apply turns_skip rfl
          intro _
          exact nofun
        · apply Obeys.bind
          · apply turns_record
            exact ⟨rfl, hfailed, hnone⟩
          · rintro _ q₁ rfl
            apply turns_skip rfl
            intro _
            apply (turns_of_aside (aside_waitForBackoff decision.delay)).mono
            rintro result q₂ rfl _
            rfl

end Transitions

/-! ### The goroutine of a child -/

/-- What the monitor leaves: a child whose failure was recorded, or one that is not started
again. -/
def Turn.Ended : MonitorResult → Turn → Prop
  | .stop, _ => True
  | .failed _ _, q => q.committed = none ∧ q.failed = true

/-- The child is to be started, for the first time or again. -/
def Turn.Waits (firstStart : Bool) (q : Turn) : Prop :=
  q.committed = none ∧ (!firstStart) = q.owed

section Monitor

open Thread

variable {cfg : Config} {i : Goroutine} {q : Turn} {spec : Child} {process : StartedProcess}

theorem turns_stopStartedChild :
  Obeys (turning i) (stopStartedChild cfg spec process) q Turn.Ended
  := by
  apply turns_keep (aside_cleanupProcessGroup _ _ _ _ _ _ _ _)
  intro cleanup
  apply turns_keep (aside_finishCleanup spec _ cleanup)
  intro _
  exact trivial

theorem turns_monitorFailed (hnone : q.committed = none) {committed proceed : Bool}
    (hproceed : proceed = true → committed = true) (pgid : Int64) (cleanup : CleanupResult)
    (kind : String) (continuousReady : Duration) :
  Obeys (turning i) (monitorFailed spec pgid cleanup proceed kind continuousReady)
    (q.fail committed) Turn.Ended
  := by
  apply turns_keep (aside_finishCleanup spec pgid cleanup)
  intro complete
  split
  · rename_i hboth
    rw [Bool.and_eq_true] at hboth
    obtain rfl := hproceed hboth.2
    apply turns_skip rfl
    intro err
    split
    · exact trivial
    · exact ⟨hnone, rfl⟩
  · exact trivial

theorem turns_handleExit (hnone : q.committed = none) (received : Received) :
  Obeys (turning i) (handleExit cfg spec process received) q Turn.Ended
  := by
  apply turns_skip rfl
  intro now
  apply turns_keep (aside_continuousReadyDuration spec now)
  intro continuousReady
  apply turns_skip rfl
  intro err
  have hmark : ∀ stopping, Obeys (turning i) (markExit spec stopping received.waitErr) q
      fun committed q' => q' = q.fail committed := by
    intro stopping
    apply turns_ite
    · intro _
      exact rfl
    · intro _
      apply turns_markFailure
  apply Obeys.bind (hmark _)
  rintro committed _ rfl
  apply turns_keep (aside_cleanupProcessGroup _ _ _ _ _ _ _ _)
  intro cleanup
  apply turns_monitorFailed hnone
  intro hproceed
  rw [Bool.and_eq_true] at hproceed
  exact hproceed.1

theorem turns_handleStaleHeartbeat (hnone : q.committed = none) (kind : String)
    (continuousReady : Duration) :
  Obeys (turning i) (handleStaleHeartbeat cfg spec process kind continuousReady) q Turn.Ended
  := by
  apply turns_skip rfl
  intro err
  split
  · apply turns_stopStartedChild
  · apply Obeys.bind (turns_markFailure kind none none false)
    rintro committed _ rfl
    apply turns_keep (aside_cleanupProcessGroup _ _ _ _ _ _ _ _)
    intro cleanup
    exact turns_monitorFailed hnone id _ _ _ _

theorem turns_handleHeartbeat (hnone : q.committed = none) (startedAt : Time) :
  Obeys (turning i) (handleHeartbeat cfg spec process startedAt) q
    (Round (fun _ q' => q'.committed = none) Turn.Ended)
  := by
  apply turns_skip rfl
  intro now
  apply turns_keep (aside_continuousReadyDuration spec now)
  intro continuousReady
  apply turns_skip rfl
  intro err
  split
  · apply Obeys.bind turns_stopStartedChild
    intro result q' hresult
    exact hresult
  · apply turns_keep (aside_heartbeatState _ _ _ _)
    rintro ⟨fresh, age⟩
    apply turns_keep (aside_updateHeartbeat spec fresh age)
    intro _
    apply turns_skip rfl
    intro observed
    apply turns_ite
    · intro _
      apply Obeys.bind (turns_handleStaleHeartbeat hnone _ _)
      intro result q' hresult
      exact hresult
    · intro _
      exact hnone

theorem turns_monitorStartedChild (hnone : q.committed = none) (startedAt : Time) :
  Obeys (turning i) (monitorStartedChild cfg spec startedAt process) q Turn.Ended
  := by
  apply Obeys.repeatUntil (P := turning i) (fun _ (q' : Turn) => q'.committed = none) hnone
  intro _ q' hnone
  apply turns_skip rfl
  intro event
  cases event with
  | exited received =>
      apply Obeys.bind (turns_handleExit hnone received)
      intro result q₁ hresult
      exact hresult
  | heartbeat => exact turns_handleHeartbeat hnone startedAt
  | cancelled =>
      apply turns_skip rfl
      intro now
      apply turns_keep (aside_continuousReadyDuration spec now)
      intro _
      apply Obeys.bind turns_stopStartedChild
      intro result q₁ hresult
      exact hresult

theorem turns_restartOrReturn (hnone : q.committed = none) (hfailed : q.failed = true)
    (continuousReady : Duration) :
  Obeys (turning (.child spec.name)) (restartOrReturn spec continuousReady) q
    (Round (fun firstStart => Turn.Waits firstStart) fun _ _ => True)
  := by
  apply Obeys.bind (turns_waitForRestart hnone hfailed continuousReady)
  intro restart q₁ hrestart
  split
  · rename_i hboth
    rw [Bool.and_eq_true] at hboth
    obtain rfl := hrestart hboth.2
    exact ⟨hnone, rfl⟩
  · exact trivial

theorem turns_manageRound {firstStart : Bool} (hq : q.Waits firstStart) :
  Obeys (turning (.child spec.name)) (manageRound cfg spec firstStart) q
    (Round (fun firstStart => Turn.Waits firstStart) fun _ _ => True)
  := by
  obtain ⟨hnone, howed⟩ := hq
  apply turns_skip rfl
  intro err
  split
  · exact trivial
  · apply Obeys.bind (turns_startChild hnone howed)
    intro result q₁ hresult
    cases result with
    | error err =>
        obtain rfl : q₁ = q := hresult
        apply Obeys.bind (turns_markFailure "start_failed" none _ true)
        intro committed q₂ hfail
        apply turns_ite
        · rintro rfl
          obtain rfl : q₂ = q₁.fail true := hfail
          exact turns_restartOrReturn (q := q₁.fail true) hnone rfl 0
        · intro _
          exact trivial
    | ok started =>
        apply turns_ite
        · intro hcommitted
          obtain rfl : q₁ = q.start started.committed := hresult
          rw [hcommitted]
          apply Obeys.bind (turns_monitorStartedChild rfl started.startedAt)
          intro result q₂ hresult
          cases result with
          | stop => exact trivial
          | failed kind continuousReady =>
              exact turns_restartOrReturn hresult.1 hresult.2 continuousReady
        · intro _
          have hcleanup : Aside (cleanupUncommittedStartedChild cfg spec started.process) := by
            apply (aside_cleanupProcessGroup _ _ _ _ _ _ _ _).bind
            intro cleanup
            apply Only.ite (Only.pure _) (aside_markCleanupIncomplete _ _ _)
          apply turns_keep hcleanup
          intro _
          exact trivial

end Monitor

/-! ### All goroutines -/

section Goroutines

open Thread

/-- A program that is about something else obeys the protocol. -/
theorem Aside.ends {α : Type} {i : Goroutine} {t : Proc α} (h : Aside t) :
  Obeys (turning i) t ({} : Turn) fun _ _ => True
  := (turns_of_aside h).mono fun _ _ _ => trivial

theorem aside_spawnChildren (children : List Child) : Aside (spawnChildren children)
  := by
  induction children with
  | nil => apply Only.pure
  | cons spec specs ih => exact aside_act rfl fun _ => ih

theorem aside_run (cfg : Config) : Aside (run cfg)
  := by
  have hreturn : ∀ f : Err → Err, Aside (do
      let err ← perform .terminalError
      perform (.returns (f err))) :=
    fun _ => aside_act rfl fun _ => aside_perform rfl
  have hshutdown : Aside beginShutdown := by
    apply aside_act rfl
    intro _
    apply aside_act rfl
    intro _
    exact (aside_record rfl).bind fun _ => aside_perform rfl
  apply aside_act rfl
  intro err
  apply Only.ite (aside_perform rfl)
  apply (aside_record (by rfl)).bind
  intro _
  apply (aside_spawnChildren _).bind
  intro _
  apply aside_act rfl
  intro _
  apply hshutdown.bind
  intro _
  apply aside_act rfl
  intro _
  apply aside_act rfl
  intro event
  cases event with
  | done =>
      apply (aside_record (by rfl)).bind
      intro _
      apply aside_act rfl
      intro _
      apply hreturn id
  | timeout =>
      apply (aside_record (by rfl)).bind
      intro _
      apply aside_act rfl
      intro _
      apply hreturn fun err => "supervisor shutdown exceeded configured timeout" :: err

theorem turns_childGoroutine (cfg : Config) (name : String) :
  Obeys (turning (.child name)) (childGoroutine cfg name) ({} : Turn) fun _ _ => True
  := by
  unfold childGoroutine
  cases hspec : cfg.children.find? fun spec => spec.name = name with
  | none => exact trivial
  | some spec =>
      obtain rfl : spec.name = name := by
        simpa using List.find?_some hspec
      apply turns_skip rfl
      intro _
      have hmanage : Obeys (turning (.child spec.name)) (manageChild cfg spec) ({} : Turn)
          fun _ _ => True := by
        apply Obeys.repeatUntil (P := turning (.child spec.name))
          (fun firstStart (q : Turn) => q.Waits firstStart) ⟨rfl, rfl⟩
        intro firstStart q hq
        apply turns_manageRound hq
      apply Obeys.bind hmanage
      intro _ q _
      exact (turns_of_aside (aside_perform rfl)).mono fun _ _ _ => trivial

/-- Every goroutine obeys the protocol of the turns. -/
theorem turns_goroutine (cfg : Config) (i : Goroutine) :
  Obeys (turning i) (goroutine cfg i) ({} : Turn) fun _ _ => True
  := by
  cases i with
  | caller => exact (aside_perform rfl).ends
  | closer => exact (aside_act rfl fun _ => Only.pure _).ends
  | run => exact (aside_run cfg).ends
  | waiter => exact (aside_act rfl fun _ => aside_act rfl fun _ => aside_perform rfl).ends
  | late => exact (aside_act rfl fun _ => aside_act rfl fun _ => aside_perform rfl).ends
  | child name => exact turns_childGoroutine cfg name
  | observer n => exact Aside.ends (aside_snapshot.bind fun _ => aside_perform rfl)

end Goroutines

end Supervisor

end RobotestLab
