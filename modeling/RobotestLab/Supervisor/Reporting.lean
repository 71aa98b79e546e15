import RobotestLab.Supervisor.Goroutines
import RobotestLab.Supervisor.Outage

/-!
# What the goroutines report

The discipline of the events that the goroutines append. Each event carries the time of the last
reading of the clock by its goroutine. The run opens the log before it starts a child. The events of
a child follow its phases, and a change of the readiness is recorded by the goroutine that made it
before that goroutine does anything else with the child.

Every goroutine obeys this protocol (`reports_goroutine`).
-/

namespace RobotestLab

namespace Supervisor

/-! ### Reports -/

/-- The steady time of a reading of the clock, in a run that started at the given time. -/
def steadyNs (startedAt now : Time) : Int64 :=
  if startedAt.isZero then 0
  else if now.sub startedAt < 0 then 0
  else now.sub startedAt

/-- What a goroutine has reported, whether its child is committed to be running, and a change of the
readiness that is still to be recorded. -/
structure Report where
  begun : Bool := false
  opened : Bool := false
  phase : Phase := .idle
  up : Bool := false
  announced : Option Bool := none

/-- The report of a goroutine, with its last reading of the clock, the start of the run as it read
it after that, and whether it found the supervisor ready since it last changed its child. -/
structure Reporting where
  report : Report := {}
  reading : Option Time := none
  base : Option Time := none
  seen : Bool := false

namespace Report

/-- The report after an event with the given mark. -/
def marked (r : Report) : Mark → Report
  | .opened => { r with opened := true }
  | .ready _ => { r with announced := none }
  | m => { r with phase := (r.phase.next m).getD r.phase }

/-- The goroutine may append an event with the given mark. -/
def CanMark (cfg : Config) (r : Report) (m : Mark) : Goroutine → Prop
  | .run => if r.opened then m = .other else m = .opened
  | .child name => name ∈ cfg.children.map Child.name ∧
      match m with
      | .ready b => r.announced = some b
      | m => r.announced = none ∧ (r.phase.next m).isSome
  | _ => False

end Report

/-- The goroutine may perform the action. -/
def Reporting.Allows (cfg : Config) (i : Goroutine) (q : Reporting) : Action → Prop
  | .beginRun => i = .run
  | .startedAt => q.report.begun = true
  | .append now event => q.reading = some now ∧
      (∃ startedAt, q.base = some startedAt ∧ event.steadyWallNs = steadyNs startedAt now) ∧
      q.report.CanMark cfg event.mark i
  | .spawn _ => i = .run ∧ q.report.opened = true
  | .swapReady ready => (∃ name ∈ cfg.children.map Child.name, i = .child name) ∧
      q.report.announced = none ∧ (ready = true → q.seen = true) ∧
      (q.report.up = true → q.report.phase = .running)
  | .commitStart name _ _ _ => i = .child name ∧ q.report.announced = none
  | .commitFailure name _ _ _ _ => i = .child name ∧ q.report.announced = none
  | .publishIncomplete name _ _ _ => i = .child name ∧ q.report.announced = none
  | .publishStopped name _ => i = .child name ∧ q.report.announced = none
  | _ => True

namespace Reporting

/-- The child is committed to be running, or not to be running any more. -/
def commit (q : Reporting) (up : Bool) : Reporting :=
  { q with report := { q.report with up := up }, seen := false }

def next (q : Reporting) : (a : Action) → a.Answer → Reporting
  | .begin, _ => { q with report := { q.report with begun := true } }
  | .beginRun, err => { q with report := { q.report with begun := err = [] } }
  | .now, now => { q with reading := some now, base := none }
  | .startedAt, startedAt => { q with base := some startedAt }
  | .readReady, ready => { q with seen := ready }
  | .swapReady ready, changed =>
      { q with report := { q.report with announced := if changed then some ready else none } }
  | .append _ event, _ => { q with report := q.report.marked event.mark }
  | .commitStart _ _ _ _, committed => if committed then q.commit true else q
  | .commitFailure _ _ _ _ _, r => if r.isSome then q.commit false else q
  | .publishIncomplete _ _ _ _, _ => q.commit false
  | .publishStopped _ _, _ => q.commit false
  | _, _ => q

end Reporting

/-- The protocol of the events. -/
def reporting (cfg : Config) (i : Goroutine) : Protocol managerActions where
  State := Reporting
  Allows := Reporting.Allows cfg i
  Possible _ _ := True
  next := Reporting.next

/-- The action is always allowed, and it changes nothing of the report. -/
def Action.isSilent : Action → Bool
  | .startedAt | .append _ _ | .spawn _ | .swapReady _ | .begin | .beginRun => false
  | .commitStart _ _ _ _ | .commitFailure _ _ _ _ _ => false
  | .publishIncomplete _ _ _ _ | .publishStopped _ _ => false
  | _ => true

/-! ### Rules -/

/-- From the report, the goroutine performs only allowed actions, and leaves a value and a report
that satisfy the condition. -/
def Reports (cfg : Config) (i : Goroutine) (r : Report) {α : Type} (t : Proc α)
    (post : α → Report → Prop) : Prop :=
  ∀ q : Reporting, q.report = r →
    Thread.Obeys (reporting cfg i) t q fun x q' => post x q'.report

namespace Reports

variable {cfg : Config} {i : Goroutine} {r : Report} {α β L : Type}

theorem pure {x : α} {post : α → Report → Prop} (h : post x r) :
  Reports cfg i r (Pure.pure x : Proc α) post
  := by
  rintro q rfl
  exact h

variable {t : Proc α}

theorem mono {post post' : α → Report → Prop} (h : Reports cfg i r t post)
    (hpost : ∀ x r', post x r' → post' x r') :
  Reports cfg i r t post'
  := by
  intro q hq
  exact (h q hq).mono fun x q' => hpost x q'.report

variable {post : β → Report → Prop}

theorem bind {f : α → Proc β} {m : α → Report → Prop}
    (h : Reports cfg i r t m) (hf : ∀ x r', m x r' → Reports cfg i r' (f x) post) :
  Reports cfg i r (t >>= f) post
  := by
  intro q hq
  apply Thread.Obeys.bind (h q hq)
  intro x q' hmid
  exact hf x q'.report hmid q' rfl

/-- Continue after a part that leaves the report as it is. -/
theorem keep {f : α → Proc β}
    (h : Reports cfg i r t fun _ r' => r' = r) (hf : ∀ x, Reports cfg i r (f x) post) :
  Reports cfg i r (t >>= f) post
  := by
  apply h.bind
  rintro x r' rfl
  apply hf x

theorem ite {c : Prop} [Decidable c] {t e : Proc α} {post : α → Report → Prop}
    (ht : c → Reports cfg i r t post) (he : ¬ c → Reports cfg i r e post) :
  Reports cfg i r (if c then t else e) post
  := by
  split
  · apply ht ‹_›
  · apply he ‹_›

theorem perform {a : Action} {post : a.Answer → Report → Prop}
    (ha : ∀ q : Reporting, q.report = r → q.Allows cfg i a)
    (h : ∀ (q : Reporting) (x : a.Answer), q.report = r → post x (q.next a x).report) :
  Reports cfg i r (perform a) post
  := by
  intro q hq
  exact ⟨ha q hq, fun x _ => h q x hq⟩

theorem repeatUntil {body : L → Proc (L ⊕ β)} {l : L} (inv : L → Report → Prop) (hinv : inv l r)
    (hround : ∀ l r, inv l r → Reports cfg i r (body l) (Thread.Round inv post)) :
  Reports cfg i r (Thread.repeatUntil body l) post
  := by
  rintro q rfl
  apply Thread.Obeys.repeatUntil (P := reporting cfg i)
    (fun l (q : Reporting) => inv l q.report) hinv
  intro l q hl
  apply (hround l q.report hl q rfl).mono
  intro x q' hx
  cases x with
  | inl l' => exact hx
  | inr b => exact hx

/-- Perform a silent action. -/
theorem silent {a : Action} (ha : a.isSilent = true) :
  Reports cfg i r (Supervisor.perform a) fun _ r' => r' = r
  := by
  apply perform
  · intro q _
    cases a with
    | _ => trivial
  · intro q x hq
    cases a with
    | _ => first | exact hq | exact absurd ha Bool.false_ne_true

/-- Perform a silent action and continue. -/
theorem skip {a : Action} {f : a.Answer → Proc β}
    (ha : a.isSilent = true) (hf : ∀ x, Reports cfg i r (f x) post) :
  Reports cfg i r (Supervisor.perform a >>= f) post
  := (silent ha).keep hf

end Reports

/-! ### Events and readiness -/

section Record

variable {cfg : Config} {i : Goroutine} {r : Report}

theorem reports_snapshot :
  Reports cfg i r snapshot fun _ r' => r' = r
  := by
  apply Reports.skip rfl
  intro view
  apply Reports.skip rfl
  intro counts
  apply Reports.skip rfl
  intro now
  exact Reports.pure rfl

theorem reports_reportAppend (err : Err) :
  Reports cfg i r (reportAppend err) fun _ r' => r' = r
  := by
  apply Reports.ite
  · intro _
    apply Reports.silent rfl
  · intro _
    apply Reports.skip rfl
    intro saturated
    apply Reports.ite
    · intro _
      apply Reports.silent rfl
    · intro _
      exact Reports.pure rfl

theorem reports_writeStatus :
  Reports cfg i r writeStatus fun _ r' => r' = r
  := by
  apply Reports.keep reports_snapshot
  intro status
  apply Reports.skip rfl
  intro err
  apply Reports.ite
  · intro _
    apply Reports.silent rfl
  · intro _
    exact Reports.pure rfl

/-- Perform an allowed action and continue. -/
theorem obeys_act {q : Reporting} {a : Action} {β : Type} {f : a.Answer → Proc β}
    {post : β → Reporting → Prop} (ha : q.Allows cfg i a)
    (h : ∀ x, Thread.Obeys (reporting cfg i) (f x) (q.next a x) post) :
  Thread.Obeys (reporting cfg i) (perform a >>= f) q post
  := ⟨ha, fun x _ => h x⟩

/-- The steady time is the one of the reading. -/
theorem obeys_steadyNs {q : Reporting} (hbegun : q.report.begun = true) (now : Time) :
  Thread.Obeys (reporting cfg i) (steadyWall now) q fun ns q' =>
    q'.report = q.report ∧ q'.reading = q.reading ∧
      ∃ startedAt, q'.base = some startedAt ∧ ns = steadyNs startedAt now
  := by
  apply obeys_act (by exact hbegun)
  intro startedAt
  simp only [steadyNs]
  split
  · exact ⟨rfl, rfl, startedAt, rfl, by rw [if_pos ‹_›]⟩
  · rename_i hzero
    split
    · rename_i hback
      apply obeys_act (by exact trivial)
      intro _
      exact ⟨rfl, rfl, startedAt, rfl, by rw [if_neg hzero, if_pos hback]⟩
    · rename_i hback
      exact ⟨rfl, rfl, startedAt, rfl, by rw [if_neg hzero, if_neg hback]⟩

theorem reports_record {event : Event} (hbegun : r.begun = true)
    (hmark : r.CanMark cfg event.mark i) :
  Reports cfg i r (record event) fun _ r' => r' = r.marked event.mark
  := by
  rintro q rfl
  apply obeys_act (by exact trivial)
  intro now
  apply Thread.Obeys.bind (obeys_steadyNs (q := q.next .now now) hbegun now)
  rintro ns q₁ ⟨hreport, hreading, hbase⟩
  apply obeys_act
  · refine ⟨hreading, hbase, ?_⟩
    rw [hreport]
    exact hmark
  · rintro ⟨_, err⟩
    have hrest : Reports cfg i (q.report.marked event.mark)
        (reportAppend err >>= fun _ => writeStatus) fun _ r' => r' = q.report.marked event.mark :=
      (reports_reportAppend err).keep fun _ => reports_writeStatus
    apply hrest
    change q₁.report.marked event.mark = _
    rw [hreport]
    rfl

end Record

/-! ### Children -/

/-- The goroutine of the child has no change of the readiness to record. -/
structure Free (cfg : Config) (name : String) (r : Report) : Prop where
  listed : name ∈ cfg.children.map Child.name
  begun : r.begun = true
  announced : r.announced = none

/-- The child is in the phase of a running child when it is committed to be running. -/
structure Resting (cfg : Config) (name : String) (r : Report) : Prop extends Free cfg name r where
  running : r.up = true → r.phase = .running

/-- The child is down, or it was never started. -/
structure Stopped (cfg : Config) (name : String) (r : Report) : Prop extends Free cfg name r where
  down : r.up = false

section Children

variable {cfg : Config} {name : String} {r : Report}

/-- An event without a meaning for the outage. -/
theorem reports_other (hr : Free cfg name r) {event : Event} (kind : String)
    (hkind : kind ∉ markedKinds) (heq : event.kind = kind) :
  Reports cfg (.child name) r (record event) fun _ r' => r' = r
  := by
  have hevent := mark_of_notMem kind hkind heq
  apply (reports_record hr.begun _).mono
  · rintro _ r' rfl
    rw [hevent]
    rfl
  · rw [hevent]
    exact ⟨hr.listed, hr.announced, rfl⟩

theorem obeys_isReady (i : Goroutine) (q : Reporting) :
  Thread.Obeys (reporting cfg i) isReady q fun ready q' =>
    q'.report = q.report ∧ (ready = true → q'.seen = true)
  := by
  apply obeys_act (by exact trivial)
  intro ready
  apply obeys_act (by exact trivial)
  intro counts
  refine ⟨rfl, ?_⟩
  intro hready
  rw [Bool.and_eq_true] at hready
  exact hready.1

theorem reports_readiness {b : Bool} (hlisted : name ∈ cfg.children.map Child.name)
    (hbegun : r.begun = true) (hannounced : r.announced = some b) :
  Reports cfg (.child name) r (record { kind := "readiness_changed", ready := some b })
    fun _ r' => r' = { r with announced := none }
  := by
  have hmark : ({ kind := "readiness_changed", ready := some b } : Event).mark = .ready b := rfl
  have hcan : r.CanMark cfg (.ready b) (.child name) := ⟨hlisted, hannounced⟩
  rw [← hmark] at hcan
  exact reports_record hbegun hcan

/-- A change of the readiness is recorded at once. -/
theorem reports_refreshReadiness (hr : Resting cfg name r) :
  Reports cfg (.child name) r refreshReadiness fun _ r' => r' = r
  := by
  rintro q rfl
  apply Thread.Obeys.bind (obeys_isReady (.child name) q)
  rintro ready q₁ ⟨hreport, hseen⟩
  rw [← hreport] at hr ⊢
  apply obeys_act
  · exact ⟨⟨name, hr.listed, rfl⟩, hr.announced, hseen, hr.running⟩
  · intro changed
    have hrest : { q₁.report with announced := none } = q₁.report := by
      rw [← hr.announced]
    cases changed with
    | false => exact hrest
    | true =>
        have hrecord := reports_readiness (r := { q₁.report with announced := some ready })
          hr.listed hr.begun rfl
        exact (hrecord.mono fun _ r' hr' => hr'.trans hrest) _ rfl

end Children

/-! ### Cleanup of a process group -/

section Cleanup

variable {cfg : Config} {i : Goroutine} {name : String} {r : Report}

theorem reports_signalProcessGroup (pgid : Int64) (signal : Signal) :
  Reports cfg i r (signalProcessGroup pgid signal) fun _ r' => r' = r
  := by
  apply Reports.ite
  · intro _
    exact Reports.pure rfl
  · intro _
    apply Reports.skip rfl
    intro answer
    cases answer with
    | none => exact Reports.pure rfl
    | some err =>
        apply Reports.ite
        · intro _
          exact Reports.pure rfl
        · intro _
          exact Reports.pure rfl

theorem reports_processGroupEmpty (pgid : Int64) :
  Reports cfg i r (processGroupEmpty pgid) fun _ r' => r' = r
  := by
  apply Reports.skip rfl
  rintro ⟨present, err⟩
  apply Reports.ite
  · intro _
    exact Reports.pure rfl
  · intro _
    exact Reports.pure rfl

theorem reports_probeGroup (pgid : Int64) (progress : CleanupProgress) :
  Reports cfg i r (probeGroup pgid progress) fun _ r' => r' = r
  := by
  apply Reports.keep (reports_processGroupEmpty pgid)
  intro answer
  exact Reports.pure rfl

theorem reports_settle (progress : CleanupProgress) :
  Reports cfg i r (settle progress) fun _ r' => r' = r
  := by
  apply Reports.ite
  · intro _
    exact Reports.pure rfl
  · intro _
    exact Reports.pure rfl

theorem reports_receiveFinal (progress : CleanupProgress) :
  Reports cfg i r (receiveFinal progress) fun _ r' => r' = r
  := by
  apply Reports.ite
  · intro _
    apply Reports.skip rfl
    intro answer
    cases answer with
    | none => exact Reports.pure rfl
    | some received => exact Reports.pure rfl
  · intro _
    exact Reports.pure rfl

theorem reports_waitEmptyRound (ctx : Context) (pgid : Int64) (timeout : Duration)
    (progress : CleanupProgress) :
  Reports cfg i r (waitEmptyRound ctx pgid timeout progress) fun _ r' => r' = r
  := by
  apply Reports.skip rfl
  intro event
  cases event with
  | received received =>
      apply Reports.keep (reports_probeGroup _ _)
      intro _
      apply reports_settle
  | tick =>
      apply Reports.keep (reports_probeGroup _ _)
      intro _
      apply reports_settle
  | deadline =>
      apply Reports.keep (reports_receiveFinal _)
      intro _
      apply Reports.keep (reports_probeGroup _ _)
      intro _
      exact Reports.pure rfl
  | cancelled =>
      apply Reports.keep (reports_receiveFinal _)
      intro _
      apply Reports.keep (reports_probeGroup _ _)
      intro _
      apply Reports.skip rfl
      intro _
      exact Reports.pure rfl

theorem reports_waitEmpty (ctx : Context) (pgid : Int64) (wait : Option Nat)
    (result : CleanupResult) (timeout : Duration) :
  Reports cfg i r (waitEmpty ctx pgid wait result timeout) fun _ r' => r' = r
  := by
  apply Reports.keep (reports_probeGroup _ _)
  intro progress
  apply Reports.keep (reports_settle _)
  intro settled
  cases settled with
  | inr result => exact Reports.pure rfl
  | inl progress =>
      apply Reports.repeatUntil fun _ r' => r' = r
      · rfl
      · rintro progress r' rfl
        apply (reports_waitEmptyRound ctx pgid timeout progress).mono
        rintro round r₁ rfl
        cases round with
        | inl _ => rfl
        | inr _ => rfl

theorem reports_cleanupProcessGroup (hr : Free cfg name r) (ctx : Context) (child : String)
    (pgid : Int64) (wait : Option Nat) (leaderReaped : Bool) (waitErr : Option WaitErr)
    (mode : CleanupMode) :
  Reports cfg (.child name) r
    (cleanupProcessGroup cfg ctx child pgid wait leaderReaped waitErr mode) fun _ r' => r' = r
  := by
  apply Reports.keep (reports_processGroupEmpty pgid)
  intro answer
  apply Reports.ite
  · intro _
    exact Reports.pure rfl
  · intro _
    apply Reports.keep
    · cases mode with
      | requested => exact reports_other hr "child_stop_requested" (by decide) rfl
      | residual => exact reports_other hr "residual_process_group_detected" (by decide) rfl
    · intro _
      apply Reports.keep (reports_signalProcessGroup pgid .sigterm)
      intro err
      apply Reports.keep (reports_waitEmpty _ _ _ _ _)
      intro result
      apply Reports.ite
      · intro _
        apply Reports.keep
        · apply Reports.ite
          · intro _
            exact reports_other hr "residual_process_group_stopped" (by decide) rfl
          · intro _
            exact Reports.pure rfl
        · intro _
          exact Reports.pure rfl
      · intro _
        apply Reports.keep
        · cases mode with
          | requested => exact reports_other hr "child_kill_escalated" (by decide) rfl
          | residual =>
              exact reports_other hr "residual_process_group_kill_escalated" (by decide) rfl
        · intro _
          apply Reports.keep (reports_signalProcessGroup pgid .sigkill)
          intro err
          apply Reports.keep (reports_waitEmpty _ _ _ _ _)
          intro result
          exact Reports.pure rfl

end Cleanup

/-! ### Transitions of a child -/

section Transitions

variable {cfg : Config} {r : Report} {spec : Child}

theorem reports_transitionPermitted {i : Goroutine} :
  Reports cfg i r transitionPermitted fun _ r' => r' = r
  := by
  apply Reports.skip rfl
  intro err
  apply Reports.ite
  · intro _
    exact Reports.pure rfl
  · intro _
    apply Reports.skip rfl
    intro shuttingDown
    exact Reports.pure rfl

/-- An event that ends the phase of the child. -/
theorem reports_transition (hr : Free cfg spec.name r) {event : Event} (m : Mark) {phase : Phase}
    (hmark : event.mark = m) (hm : ∀ b, m ≠ .ready b) (hphase : r.phase.next m = some phase) :
  Reports cfg (.child spec.name) r (record event) fun _ r' => r' = { r with phase := phase }
  := by
  apply (reports_record hr.begun _).mono
  · rintro _ r' rfl
    rw [hmark]
    cases m with
    | opened => cases hphase
    | ready b => exact absurd rfl (hm b)
    | _ => simp only [Report.marked, hphase, Option.getD_some]
  · rw [hmark]
    cases m with
    | ready b => exact absurd rfl (hm b)
    | _ => exact ⟨hr.listed, hr.announced, by rw [hphase, Option.isSome_some]⟩

/-- The report after a start that was committed, or after one that was not. -/
def Report.start (r : Report) (committed : Bool) : Report :=
  if committed then { r with up := true, phase := .running } else r

/-- Announce a start. The child is committed to be running before its event tells it. -/
theorem reports_announceStart (hr : Stopped cfg spec.name r)
    (hphase : r.phase = .idle ∨ r.phase = .scheduled) (pid : Int64) (committed : Bool) :
  Reports cfg (.child spec.name) (if committed then { r with up := true } else r)
    (announceStart spec pid committed) fun _ r' => r' = r.start committed
  := by
  cases committed with
  | false => exact Reports.pure rfl
  | true =>
      rw [if_pos rfl]
      have hup : Free cfg spec.name { r with up := true } := ⟨hr.listed, hr.begun, hr.announced⟩
      apply Reports.bind
      · apply reports_transition hup .started (by rfl) nofun
        exact if_pos hphase
      · rintro _ r₁ rfl
        exact reports_refreshReadiness ⟨⟨hr.listed, hr.begun, hr.announced⟩, fun _ => rfl⟩

theorem reports_startChild (hr : Stopped cfg spec.name r)
    (hphase : r.phase = .idle ∨ r.phase = .scheduled) (restarted : Bool) :
  Reports cfg (.child spec.name) r (startChild spec restarted) fun result r' =>
    match result with
    | .error _ => r' = r
    | .ok started => r' = r.start started.committed
  := by
  apply Reports.skip rfl
  intro startedAt
  apply Reports.skip rfl
  intro result
  cases result with
  | error err => exact Reports.pure rfl
  | ok process =>
      apply Reports.skip rfl
      intro _
      apply Reports.bind (m := fun committed r' =>
        r' = if committed then { r with up := true } else r)
      · apply Reports.perform
        · rintro q rfl
          exact ⟨rfl, hr.announced⟩
        · rintro q committed rfl
          cases committed with
          | _ => rfl
      · rintro committed r₁ rfl
        apply Reports.bind (reports_announceStart hr hphase process.pid committed)
        rintro _ r₂ rfl
        apply Reports.skip rfl
        intro _
        exact Reports.pure rfl

/-- The report after a failure that was committed, or after one that was not. -/
def Report.fail (r : Report) (committed : Bool) : Report :=
  if committed then { r with up := false, phase := .down } else r

theorem reports_markFailure (hr : Free cfg spec.name r) (kind : String)
    (hphase : r.phase.fails (kind = startFailed)) (code : Option Int64) (err : Option String)
    (processExited : Bool) :
  Reports cfg (.child spec.name) r (markFailure spec kind code err processExited)
    fun committed r' => r' = r.fail committed
  := by
  apply Reports.skip rfl
  intro now
  apply Reports.skip rfl
  intro _
  apply Reports.bind (m := fun answer r' =>
    r' = if answer.isSome then { r with up := false } else r)
  · apply Reports.perform
    · rintro q rfl
      exact ⟨rfl, hr.announced⟩
    · rintro q answer rfl
      cases answer with
      | _ => rfl
  · rintro answer r₁ rfl
    cases answer with
    | none =>
        apply Reports.skip rfl
        intro _
        exact Reports.pure rfl
    | some identity =>
        rw [Option.isSome_some, if_pos rfl]
        have hdown : Free cfg spec.name { r with up := false } :=
          ⟨hr.listed, hr.begun, hr.announced⟩
        apply Reports.bind
        · apply reports_transition hdown (.failed (kind = startFailed)) (by rfl) nofun
          exact if_pos hphase
        · rintro _ r₂ rfl
          apply Reports.keep
          · exact reports_refreshReadiness ⟨⟨hr.listed, hr.begun, hr.announced⟩, nofun⟩
          · intro _
            apply Reports.skip rfl
            intro _
            exact Reports.pure rfl

theorem reports_waitForBackoff {i : Goroutine} (delay : Duration) :
  Reports cfg i r (waitForBackoff delay) fun _ r' => r' = r
  := by
  apply Reports.keep reports_transitionPermitted
  intro permitted
  apply Reports.ite
  · intro _
    apply Reports.skip rfl
    intro event
    cases event with
    | fired =>
        apply Reports.keep reports_transitionPermitted
        intro permitted
        exact Reports.pure rfl
    | cancelled => exact Reports.pure rfl
  · intro _
    exact Reports.pure rfl

/-- A child is started again only after its restart was scheduled. -/
theorem reports_waitForRestart (hr : Stopped cfg spec.name r) (hphase : r.phase = .down)
    (continuousReady : Duration) :
  Reports cfg (.child spec.name) r (waitForRestart spec continuousReady) fun result r' =>
    result.restart = true → r' = { r with phase := .scheduled }
  := by
  apply Reports.skip rfl
  intro err
  apply Reports.ite
  · intro _
    exact Reports.pure nofun
  · intro _
    apply Reports.skip rfl
    intro now
    apply Reports.skip rfl
    intro _
    apply Reports.skip rfl
    intro decision
    cases decision with
    | none =>
        apply Reports.skip rfl
        intro _
        exact Reports.pure nofun
    | some decision =>
        apply Reports.ite
        · intro _
          apply Reports.bind
          · apply reports_transition hr.toFree .exhausted (by rfl) nofun
            exact if_pos hphase
          · rintro _ r₁ rfl
            apply Reports.keep
            · apply reports_refreshReadiness
              exact ⟨⟨hr.listed, hr.begun, hr.announced⟩, fun hup => absurd (hr.down ▸ hup) nofun⟩
            · intro _
              apply Reports.skip rfl
              intro _
              exact Reports.pure nofun
        · intro _
          apply Reports.bind
          · apply reports_transition hr.toFree .scheduled (by rfl) nofun
            exact if_pos hphase
          · rintro _ r₁ rfl
            apply Reports.skip rfl
            intro _
            apply (reports_waitForBackoff decision.delay).mono
            intro result r₂ hr₂ _
            exact hr₂

/-- The child is committed not to be running any more. -/
theorem reports_stop (hr : Free cfg spec.name r) {a : Action} {event : a.Answer → Event}
    (ha : ∀ q x, Reporting.next q a x = q.commit false)
    (hallows : ∀ q : Reporting, q.report = r → q.Allows cfg (.child spec.name) a)
    (kind : String) (hkind : kind ∉ markedKinds) (heq : ∀ x, (event x).kind = kind) :
  Reports cfg (.child spec.name) r
    (perform a >>= fun x => record (event x) >>= fun _ => refreshReadiness)
    fun _ r' => r' = { r with up := false }
  := by
  apply Reports.bind (m := fun _ r' => r' = { r with up := false })
  · apply Reports.perform hallows
    rintro q x rfl
    rw [ha]
    rfl
  · rintro x r₁ rfl
    have hfree : Free cfg spec.name { r with up := false } := ⟨hr.listed, hr.begun, hr.announced⟩
    apply Reports.keep (reports_other hfree kind hkind (heq x))
    intro _
    exact reports_refreshReadiness ⟨hfree, nofun⟩

theorem reports_markCleanupIncomplete (hr : Free cfg spec.name r) (pgid : Int64)
    (cleanup : CleanupResult) :
  Reports cfg (.child spec.name) r (markCleanupIncomplete spec pgid cleanup)
    fun _ r' => r' = { r with up := false }
  := by
  apply Reports.skip rfl
  intro now
  apply reports_stop hr
  · intro q x
    rfl
  · rintro q rfl
    exact ⟨rfl, hr.announced⟩
  · exact (by decide : "child_group_cleanup_incomplete" ∉ markedKinds)
  · intro x
    rfl

theorem reports_markStopped (hr : Free cfg spec.name r) (code : Int64) :
  Reports cfg (.child spec.name) r (markStopped spec code) fun _ r' => r' = { r with up := false }
  := by
  apply reports_stop hr
  · intro q x
    rfl
  · rintro q rfl
    exact ⟨rfl, hr.announced⟩
  · exact (by decide : "child_stopped" ∉ markedKinds)
  · intro x
    rfl

theorem reports_updateHeartbeat (hr : Resting cfg spec.name r) (fresh : Bool)
    (age : Option Duration) :
  Reports cfg (.child spec.name) r (updateHeartbeat spec fresh age) fun _ r' => r' = r
  := by
  apply Reports.skip rfl
  intro changed
  apply Reports.ite
  · intro _
    apply Reports.keep
    · cases fresh with
      | true => exact reports_other hr.toFree "heartbeat_fresh" (by decide) rfl
      | false => exact reports_other hr.toFree "heartbeat_stale" (by decide) rfl
    · intro _
      apply reports_refreshReadiness hr
  · intro _
    exact Reports.pure rfl

theorem reports_continuousReadyDuration {i : Goroutine} (now : Time) :
  Reports cfg i r (continuousReadyDuration spec now) fun _ r' => r' = r
  := by
  apply Reports.skip rfl
  intro readySince
  apply Reports.ite
  · intro _
    exact Reports.pure rfl
  · intro _
    exact Reports.pure rfl

theorem reports_heartbeatState {i : Goroutine} (path : String) (startedAt now : Time)
    (stale : Duration) :
  Reports cfg i r (heartbeatState path startedAt now stale) fun _ r' => r' = r
  := by
  apply Reports.ite
  · intro _
    exact Reports.pure rfl
  · intro _
    apply Reports.skip rfl
    intro modTime
    cases modTime with
    | none => exact Reports.pure rfl
    | some modTime =>
        apply Reports.ite
        · intro _
          exact Reports.pure rfl
        · intro _
          exact Reports.pure rfl

end Transitions

/-! ### The goroutine of a child -/

/-- What the monitor leaves: a child that failed and is down, or a child that is not started
again. -/
def Watched (cfg : Config) (name : String) : MonitorResult → Report → Prop
  | .stop, _ => True
  | .failed _ _, r => Stopped cfg name r ∧ r.phase = .down

/-- The child is waiting for its first start or for a restart. -/
def Waits (cfg : Config) (name : String) (r : Report) : Prop :=
  Stopped cfg name r ∧ (r.phase = .idle ∨ r.phase = .scheduled)

section Monitor

variable {cfg : Config} {r : Report} {spec : Child} {process : StartedProcess}

theorem reports_finishCleanup (hr : Free cfg spec.name r) (pgid : Int64) (cleanup : CleanupResult) :
  Reports cfg (.child spec.name) r (finishCleanup spec pgid cleanup)
    fun _ r' => r' = { r with up := false }
  := by
  apply Reports.ite
  · intro _
    apply (reports_markStopped hr _).bind
    intro _ r₁ hr₁
    exact Reports.pure hr₁
  · intro _
    apply (reports_markCleanupIncomplete hr pgid cleanup).bind
    intro _ r₁ hr₁
    exact Reports.pure hr₁

theorem reports_stopStartedChild (hr : Free cfg spec.name r) :
  Reports cfg (.child spec.name) r (stopStartedChild cfg spec process) (Watched cfg spec.name)
  := by
  apply Reports.keep (reports_cleanupProcessGroup hr _ _ _ _ _ _ _)
  intro cleanup
  apply (reports_finishCleanup hr _ _).bind
  intro _ r₁ _
  exact Reports.pure trivial

theorem reports_cleanupUncommitted (hr : Free cfg spec.name r) :
  Reports cfg (.child spec.name) r (cleanupUncommittedStartedChild cfg spec process)
    fun _ _ => True
  := by
  apply Reports.keep (reports_cleanupProcessGroup hr _ _ _ _ _ _ _)
  intro cleanup
  apply Reports.ite
  · intro _
    exact Reports.pure trivial
  · intro _
    apply (reports_markCleanupIncomplete hr _ _).mono
    intro _ r' _
    trivial

theorem Report.free_fail (hr : Free cfg spec.name r) (committed : Bool) :
  Free cfg spec.name (r.fail committed)
  := by
  cases committed with
  | _ => exact ⟨hr.listed, hr.begun, hr.announced⟩

theorem reports_monitorFailed (hr : Free cfg spec.name r) {committed proceed : Bool}
    (hproceed : proceed = true → committed = true) (pgid : Int64) (cleanup : CleanupResult)
    (kind : String) (continuousReady : Duration) :
  Reports cfg (.child spec.name) (r.fail committed)
    (monitorFailed spec pgid cleanup proceed kind continuousReady) (Watched cfg spec.name)
  := by
  have hfree := Report.free_fail hr committed
  apply (reports_finishCleanup hfree pgid cleanup).bind
  rintro complete r₁ rfl
  apply Reports.ite
  · intro hboth
    rw [Bool.and_eq_true] at hboth
    obtain rfl := hproceed hboth.2
    apply Reports.skip rfl
    intro err
    apply Reports.ite
    · intro _
      exact Reports.pure trivial
    · intro _
      exact Reports.pure ⟨⟨⟨hfree.listed, hfree.begun, hfree.announced⟩, rfl⟩, rfl⟩
  · intro _
    exact Reports.pure trivial

theorem reports_handleExit (hr : Free cfg spec.name r) (hphase : r.phase = .running)
    (received : Received) :
  Reports cfg (.child spec.name) r (handleExit cfg spec process received) (Watched cfg spec.name)
  := by
  apply Reports.skip rfl
  intro now
  apply Reports.keep (reports_continuousReadyDuration now)
  intro continuousReady
  apply Reports.skip rfl
  intro err
  apply Reports.bind (m := fun committed r' => r' = r.fail committed)
  · apply Reports.ite
    · intro _
      exact Reports.pure rfl
    · intro _
      exact reports_markFailure hr "unexpected_exit" hphase _ _ _
  · rintro committed r₁ rfl
    apply Reports.keep (reports_cleanupProcessGroup (Report.free_fail hr _) _ _ _ _ _ _ _)
    intro cleanup
    apply reports_monitorFailed hr
    intro hproceed
    rw [Bool.and_eq_true] at hproceed
    exact hproceed.1

theorem reports_handleStaleHeartbeat (hr : Free cfg spec.name r) (kind : String)
    (hkind : r.phase.fails (kind = startFailed)) (continuousReady : Duration) :
  Reports cfg (.child spec.name) r (handleStaleHeartbeat cfg spec process kind continuousReady)
    (Watched cfg spec.name)
  := by
  apply Reports.skip rfl
  intro err
  apply Reports.ite
  · intro _
    exact reports_stopStartedChild hr
  · intro _
    apply (reports_markFailure hr kind hkind none none false).bind
    rintro committed r₁ rfl
    apply Reports.keep (reports_cleanupProcessGroup (Report.free_fail hr _) _ _ _ _ _ _ _)
    intro cleanup
    exact reports_monitorFailed hr id _ _ _ _

theorem reports_handleHeartbeat (hr : Free cfg spec.name r) (hphase : r.phase = .running)
    (startedAt : Time) :
  Reports cfg (.child spec.name) r (handleHeartbeat cfg spec process startedAt)
    (Thread.Round (fun _ r' => r' = r) (Watched cfg spec.name))
  := by
  apply Reports.skip rfl
  intro now
  apply Reports.keep (reports_continuousReadyDuration now)
  intro continuousReady
  apply Reports.skip rfl
  intro err
  apply Reports.ite
  · intro _
    apply (reports_stopStartedChild hr).bind
    intro result r₁ hresult
    exact Reports.pure hresult
  · intro _
    apply Reports.keep (reports_heartbeatState _ _ _ _)
    rintro ⟨fresh, age⟩
    apply Reports.keep (reports_updateHeartbeat ⟨hr, fun _ => hphase⟩ fresh age)
    intro _
    apply Reports.skip rfl
    intro observed
    apply Reports.ite
    · intro _
      apply Reports.bind
      · apply reports_handleStaleHeartbeat hr
        cases observed with
        | _ => exact hphase
      · intro result r₁ hresult
        exact Reports.pure hresult
    · intro _
      exact Reports.pure rfl

theorem reports_monitorRound (hr : Free cfg spec.name r) (hphase : r.phase = .running)
    (startedAt : Time) :
  Reports cfg (.child spec.name) r (monitorRound cfg spec process startedAt)
    (Thread.Round (fun _ r' => r' = r) (Watched cfg spec.name))
  := by
  apply Reports.skip rfl
  intro event
  cases event with
  | exited received =>
      apply (reports_handleExit hr hphase received).bind
      intro result r₁ hresult
      exact Reports.pure hresult
  | heartbeat => exact reports_handleHeartbeat hr hphase startedAt
  | cancelled =>
      apply Reports.skip rfl
      intro now
      apply Reports.keep (reports_continuousReadyDuration now)
      intro _
      apply (reports_stopStartedChild hr).bind
      intro result r₁ hresult
      exact Reports.pure hresult

theorem reports_monitorStartedChild (hr : Free cfg spec.name r) (hphase : r.phase = .running)
    (startedAt : Time) :
  Reports cfg (.child spec.name) r (monitorStartedChild cfg spec startedAt process)
    (Watched cfg spec.name)
  := by
  apply Reports.repeatUntil fun _ r' => r' = r
  · rfl
  · rintro _ r' rfl
    apply reports_monitorRound hr hphase startedAt

theorem reports_restartOrReturn (hr : Stopped cfg spec.name r) (hphase : r.phase = .down)
    (continuousReady : Duration) :
  Reports cfg (.child spec.name) r (restartOrReturn spec continuousReady)
    (Thread.Round (fun _ => Waits cfg spec.name) fun _ _ => True)
  := by
  apply (reports_waitForRestart hr hphase continuousReady).bind
  intro restart r₁ hr₁
  apply Reports.ite
  · intro hboth
    rw [Bool.and_eq_true] at hboth
    obtain rfl := hr₁ hboth.2
    exact Reports.pure ⟨⟨⟨hr.listed, hr.begun, hr.announced⟩, hr.down⟩, Or.inr rfl⟩
  · intro _
    exact Reports.pure trivial

theorem reports_manageRound (hr : Waits cfg spec.name r) (firstStart : Bool) :
  Reports cfg (.child spec.name) r (manageRound cfg spec firstStart)
    (Thread.Round (fun _ => Waits cfg spec.name) fun _ _ => True)
  := by
  obtain ⟨hstopped, hphase⟩ := hr
  apply Reports.skip rfl
  intro err
  apply Reports.ite
  · intro _
    exact Reports.pure trivial
  · intro _
    apply (reports_startChild hstopped hphase _).bind
    intro result r₁ hr₁
    cases result with
    | error err =>
        obtain rfl : r₁ = r := hr₁
        apply (reports_markFailure hstopped.toFree "start_failed" hphase none _ true).bind
        rintro committed r₂ rfl
        apply Reports.ite
        · rintro rfl
          apply reports_restartOrReturn _ rfl
          exact ⟨⟨hstopped.listed, hstopped.begun, hstopped.announced⟩, rfl⟩
        · intro _
          exact Reports.pure trivial
    | ok started =>
        obtain rfl : r₁ = r.start started.committed := hr₁
        apply Reports.ite
        · intro hcommitted
          rw [hcommitted]
          have hfree : Free cfg spec.name (r.start true) :=
            ⟨hstopped.listed, hstopped.begun, hstopped.announced⟩
          apply (reports_monitorStartedChild hfree rfl started.startedAt).bind
          intro result r₂ hresult
          cases result with
          | stop => exact Reports.pure trivial
          | failed kind continuousReady =>
              exact reports_restartOrReturn hresult.1 hresult.2 continuousReady
        · intro hcommitted
          rw [Bool.not_eq_true] at hcommitted
          rw [hcommitted]
          apply (reports_cleanupUncommitted hstopped.toFree).bind
          intro _ r₂ _
          exact Reports.pure trivial

theorem reports_manageChild (hr : Waits cfg spec.name r) :
  Reports cfg (.child spec.name) r (manageChild cfg spec) fun _ _ => True
  := by
  apply Reports.repeatUntil (fun _ => Waits cfg spec.name) hr
  intro firstStart r' hr'
  apply reports_manageRound hr'

end Monitor

/-! ### All goroutines -/

section Run

variable {cfg : Config} {r : Report}

/-- An event of the run after the first one. -/
theorem reports_runOther (hbegun : r.begun = true) (hopened : r.opened = true) {event : Event}
    (kind : String) (hkind : kind ∉ markedKinds) (heq : event.kind = kind) :
  Reports cfg .run r (record event) fun _ r' => r' = r
  := by
  have hmark := mark_of_notMem kind hkind heq
  apply (reports_record hbegun _).mono
  · rintro _ r' rfl
    rw [hmark]
    rfl
  · rw [Report.CanMark, if_pos hopened]
    exact hmark

theorem reports_spawn (hopened : r.opened = true) (g : Goroutine) :
  Reports cfg .run r (perform (.spawn g)) fun _ r' => r' = r
  := by
  apply Reports.perform
  · rintro q rfl
    exact ⟨rfl, hopened⟩
  · rintro q _ rfl
    rfl

theorem reports_spawnChildren (hopened : r.opened = true) (children : List Child) :
  Reports cfg .run r (spawnChildren children) fun _ r' => r' = r
  := by
  induction children with
  | nil => exact Reports.pure rfl
  | cons spec children ih =>
      apply Reports.keep (reports_spawn hopened _)
      intro _
      exact ih

theorem reports_run (cfg : Config) :
  Reports cfg .run {} (run cfg) fun _ _ => True
  := by
  apply Reports.bind (m := fun err r' => r' = { begun := err = [] })
  · apply Reports.perform
    · intro q _
      exact rfl
    · rintro q err hq
      simp only [Reporting.next, hq]
  · rintro err r₁ rfl
    apply Reports.ite
    · intro _
      exact (Reports.silent rfl).mono fun _ _ _ => trivial
    · intro herr
      rw [not_not] at herr
      subst herr
      apply Reports.bind
      · exact reports_record rfl rfl
      · rintro _ r₁ rfl
        apply Reports.keep (reports_spawnChildren rfl cfg.children)
        intro _
        apply Reports.skip rfl
        intro _
        apply Reports.keep
        · apply Reports.skip rfl
          intro _
          apply Reports.skip rfl
          intro _
          apply Reports.keep
          · exact reports_runOther rfl rfl "shutdown_requested" (by decide) rfl
          · intro _
            exact Reports.silent rfl
        · intro _
          apply Reports.keep (reports_spawn rfl _)
          intro _
          apply Reports.skip rfl
          intro event
          cases event with
          | done =>
              apply Reports.keep
              · exact reports_runOther rfl rfl "supervisor_stopped" (by decide) rfl
              · intro _
                apply Reports.skip rfl
                intro _
                apply Reports.skip rfl
                intro _
                exact (Reports.silent rfl).mono fun _ _ _ => trivial
          | timeout =>
              apply Reports.keep
              · exact reports_runOther rfl rfl "shutdown_timeout" (by decide) rfl
              · intro _
                apply Reports.keep (reports_spawn rfl _)
                intro _
                apply Reports.skip rfl
                intro _
                exact (Reports.silent rfl).mono fun _ _ _ => trivial

theorem reports_childGoroutine (cfg : Config) (name : String) :
  Reports cfg (.child name) {} (childGoroutine cfg name) fun _ _ => True
  := by
  unfold childGoroutine
  cases hspec : cfg.children.find? fun spec => spec.name = name with
  | none => exact Reports.pure trivial
  | some spec =>
      obtain rfl : spec.name = name := by
        simpa using List.find?_some hspec
      apply Reports.bind (m := fun _ r' => r' = { begun := true })
      · apply Reports.perform
        · intro q _
          trivial
        · rintro q _ hq
          simp only [Reporting.next, hq]
      · rintro _ r₁ rfl
        have hlisted := List.mem_map_of_mem (f := Child.name) (List.mem_of_find?_eq_some hspec)
        apply Reports.bind (reports_manageChild ⟨⟨⟨hlisted, rfl, rfl⟩, rfl⟩, Or.inl rfl⟩)
        intro _ r₂ _
        exact (Reports.silent rfl).mono fun _ _ _ => trivial

/-- Every goroutine obeys the protocol of the events. -/
theorem reports_goroutine (cfg : Config) (i : Goroutine) :
  Reports cfg i {} (goroutine cfg i) fun _ _ => True
  := by
  cases i with
  | caller => exact (Reports.silent rfl).mono fun _ _ _ => trivial
  | closer =>
      apply Reports.skip rfl
      intro _
      exact Reports.pure trivial
  | run => exact reports_run cfg
  | waiter =>
      apply Reports.bind (m := fun _ _ => True)
      · apply Reports.perform
        · intro q _
          trivial
        · intro q _ _
          trivial
      · intro _ r₁ _
        apply Reports.skip rfl
        intro _
        exact (Reports.silent rfl).mono fun _ _ _ => trivial
  | late =>
      apply Reports.bind (m := fun _ _ => True)
      · apply Reports.perform
        · intro q _
          trivial
        · intro q _ _
          trivial
      · intro _ r₁ _
        apply Reports.skip rfl
        intro _
        exact (Reports.silent rfl).mono fun _ _ _ => trivial
  | child name => exact reports_childGoroutine cfg name
  | observer n =>
      apply Reports.keep reports_snapshot
      intro status
      exact (Reports.silent rfl).mono fun _ _ _ => trivial

end Run

end Supervisor

end RobotestLab
