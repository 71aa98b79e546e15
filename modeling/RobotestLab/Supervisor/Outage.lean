import RobotestLab.Supervisor.Event

/-!
# Outages

What the events of one child amount to: its failures and starts, the restarts that are scheduled for
it, and whether the supervisor is ready. The marks of a log come in an order that an automaton
describes (`Outage.step`). From this order follows when the restarts of an outage can be told from
its marks: each of them has to be started before the next one is scheduled.
-/

namespace RobotestLab

namespace Supervisor

/-! ### Marks -/

/-- What an event says about an outage. -/
inductive Mark where
  | opened
  | ready (b : Bool)
  | failed (atStart : Bool)
  | scheduled
  | started
  | exhausted
  | other
deriving DecidableEq

/-- The kind of the failures of a start. -/
def startFailed : String := "start_failed"

def Event.mark (event : Event) : Mark :=
  if event.kind = "supervisor_started" then .opened
  else if event.kind = "readiness_changed" then
    match event.ready with
    | some b => .ready b
    | none => .other
  else if event.kind = "failure_detected" then .failed (event.failureKind = startFailed)
  else if event.kind = "restart_scheduled" then .scheduled
  else if event.kind = "child_started" then .started
  else if event.kind = "restart_exhausted" then .exhausted
  else .other

section Marks

variable {event : Event}

theorem mark_eq_opened_iff :
  event.mark = .opened ↔ event.kind = "supervisor_started"
  := by
  unfold Event.mark
  grind

theorem mark_eq_ready_iff {b : Bool} :
  event.mark = .ready b ↔ event.kind = "readiness_changed" ∧ event.ready = some b
  := by
  unfold Event.mark
  grind

theorem mark_eq_failed_iff {atStart : Bool} :
  event.mark = .failed atStart ↔
    event.kind = "failure_detected" ∧ decide (event.failureKind = startFailed) = atStart
  := by
  unfold Event.mark
  grind

theorem mark_eq_scheduled_iff :
  event.mark = .scheduled ↔ event.kind = "restart_scheduled"
  := by
  unfold Event.mark
  grind

theorem mark_eq_started_iff :
  event.mark = .started ↔ event.kind = "child_started"
  := by
  unfold Event.mark
  grind

end Marks

/-- The events are the first event of a run, followed by other events. -/
def Opens (events : List Event) : Prop :=
  ∃ event rest, events = event :: rest ∧ event.mark = .opened ∧ ∀ e ∈ rest, e.mark ≠ .opened

/-- The kinds of the events with a meaning for an outage. -/
def markedKinds : List String :=
  ["supervisor_started", "readiness_changed", "failure_detected", "restart_scheduled",
    "child_started", "restart_exhausted"]

theorem mark_of_notMem {event : Event} (kind : String) (h : kind ∉ markedKinds)
    (hkind : event.kind = kind) :
  event.mark = .other
  := by
  simp only [markedKinds, List.mem_cons, List.not_mem_nil, or_false, not_or] at h
  simp only [Event.mark, hkind, h, if_false]

/-! ### The order of the marks -/

/-- What a child is doing, as far as its events tell. -/
inductive Phase where
  | idle
  | running
  | down
  | scheduled
  | ended
deriving DecidableEq

/-- A failure with or without a process ends the phase. -/
def Phase.fails (phase : Phase) (atStart : Bool) : Prop :=
  if atStart then phase = .idle ∨ phase = .scheduled else phase = .running

instance (phase : Phase) (atStart : Bool) : Decidable (phase.fails atStart) := by
  unfold Phase.fails
  infer_instance

/-- The phase after a mark, unless the mark is out of order. -/
def Phase.next (phase : Phase) : Mark → Option Phase
  | .opened => none
  | .ready b => if b = true → phase = .running then some phase else none
  | .failed atStart => if phase.fails atStart then some .down else none
  | .scheduled => if phase = .down then some .scheduled else none
  | .started => if phase = .idle ∨ phase = .scheduled then some .running else none
  | .exhausted => if phase = .down then some .ended else none
  | .other => some phase

/-- The phase of the child, and whether the supervisor was last said to be ready. -/
structure Outage where
  phase : Phase := .idle
  published : Bool := false
deriving DecidableEq

/-- The last word on the readiness after a mark. -/
def Mark.publishes (published : Bool) : Mark → Bool
  | .ready b => b
  | _ => published

def Outage.step (s : Outage) (m : Mark) : Option Outage :=
  if m = .ready s.published then none
  else (s.phase.next m).map fun phase => { phase := phase, published := m.publishes s.published }

/-- The marks lead from one state to the other. -/
def Traced (s : Outage) (marks : List Mark) (s' : Outage) : Prop :=
  marks.foldlM Outage.step s = some s'

/-- The last word on the readiness after the marks. -/
def published (marks : List Mark) : Bool := marks.foldl Mark.publishes false

theorem traced_nil {s s' : Outage} :
  Traced s [] s' ↔ s = s'
  := Option.some_inj

theorem traced_cons {s s' : Outage} {m : Mark} {marks : List Mark} :
  Traced s (m :: marks) s' ↔ ∃ s₁, s.step m = some s₁ ∧ Traced s₁ marks s'
  := by
  unfold Traced
  rw [List.foldlM_cons, Option.bind_eq_bind, Option.bind_eq_some_iff]

theorem traced_append {s s' : Outage} {marks marks' : List Mark} :
  Traced s (marks ++ marks') s' ↔ ∃ s₁, Traced s marks s₁ ∧ Traced s₁ marks' s'
  := by
  unfold Traced
  rw [List.foldlM_append, Option.bind_eq_bind, Option.bind_eq_some_iff]

theorem Outage.step_eq_some_iff {s s' : Outage} {m : Mark} :
  s.step m = some s' ↔
    m ≠ .ready s.published ∧ s.phase.next m = some s'.phase ∧ s'.published = m.publishes s.published
  := by
  unfold Outage.step
  split
  · simp_all
  · rename_i hm
    rw [Option.map_eq_some_iff]
    constructor
    · rintro ⟨phase, hphase, rfl⟩
      exact ⟨hm, hphase, rfl⟩
    · rintro ⟨-, hphase, hpublished⟩
      obtain ⟨phase, published⟩ := s'
      exact ⟨phase, hphase, by rw [← hpublished]⟩

/-- The state keeps the last word on the readiness. -/
theorem Traced.published {s s' : Outage} {marks : List Mark} (h : Traced s marks s') :
  s'.published = marks.foldl Mark.publishes s.published
  := by
  induction marks generalizing s with
  | nil => rw [traced_nil.mp h, List.foldl_nil]
  | cons m marks ih =>
      obtain ⟨s₁, hstep, hrest⟩ := traced_cons.mp h
      rw [ih hrest, (Outage.step_eq_some_iff.mp hstep).2.2, List.foldl_cons]

/-- As long as the supervisor is not said to be ready again, it is said not to be ready at most
once, and only when it was ready. -/
theorem Traced.ready_false_mem {s s' : Outage} {marks : List Mark} (h : Traced s marks s')
    (hready : Mark.ready true ∉ marks) (hend : s'.published = false) :
  Mark.ready false ∈ marks ↔ s.published = true
  := by
  induction marks generalizing s with
  | nil =>
      rw [traced_nil.mp h, hend]
      simp
  | cons m marks ih =>
      obtain ⟨s₁, hstep, hrest⟩ := traced_cons.mp h
      obtain ⟨hm, -, hpublished⟩ := Outage.step_eq_some_iff.mp hstep
      rw [List.mem_cons, not_or] at hready
      rw [List.mem_cons, ih hrest hready.2, hpublished]
      cases m with
      | ready b =>
          cases b with
          | true => exact absurd rfl hready.1
          | false => cases hs : s.published <;> simp_all [Mark.publishes]
      | _ => simp [Mark.publishes]

/-! ### The restarts of an outage -/

/-- The mark belongs to a restart. -/
def Mark.isRestart : Mark → Bool
  | .scheduled | .started => true
  | _ => false

/-- Of a start and the schedule of a restart, the start comes first. -/
def startsNext (marks : List Mark) : Bool := marks.find? Mark.isRestart = some .started

/-- The number of the scheduled restarts that are started before the next one is scheduled. -/
def pairedRestarts : List Mark → Nat
  | [] => 0
  | .scheduled :: marks => pairedRestarts marks + (startsNext marks).toNat
  | _ :: marks => pairedRestarts marks

/-- Count the restarts, given whether one is scheduled. A restart that is scheduled while another
one is cannot be counted. -/
def tally : Bool → List Mark → Option (Nat × Bool)
  | pending, [] => some (0, pending)
  | pending, .scheduled :: marks => if pending then none else tally true marks
  | pending, .started :: marks =>
      (tally false marks).map fun (n, pending') => (n + pending.toNat, pending')
  | pending, _ :: marks => tally pending marks

section Restarts

variable {s s' : Outage} {m : Mark} {marks : List Mark} {pending : Bool}

theorem Mark.isRestart_cases (m : Mark) :
  m = .scheduled ∨ m = .started ∨ m.isRestart = false
  := by
  cases m with
  | _ => simp [isRestart]

theorem startsNext_cons (hm : m.isRestart = false) :
  startsNext (m :: marks) = startsNext marks
  := by
  rw [startsNext, List.find?_cons_of_neg (by simp [hm]), startsNext]

theorem pairedRestarts_cons (hm : m.isRestart = false) :
  pairedRestarts (m :: marks) = pairedRestarts marks
  := by
  cases m with
  | _ => first | rfl | cases hm

theorem startsNext_concat (hm : m.isRestart = false) :
  startsNext (marks ++ [m]) = startsNext marks
  := by
  rw [startsNext, List.find?_append, List.find?_singleton, hm, startsNext]
  simp

theorem pairedRestarts_concat (hm : m.isRestart = false) :
  pairedRestarts (marks ++ [m]) = pairedRestarts marks
  := by
  induction marks with
  | nil => exact pairedRestarts_cons hm
  | cons m' marks ih =>
      cases m' with
      | scheduled =>
          rw [List.cons_append, pairedRestarts, ih, startsNext_concat hm, pairedRestarts]
      | _ => exact ih

theorem tally_cons (hm : m.isRestart = false) :
  tally pending (m :: marks) = tally pending marks
  := by
  cases m with
  | _ => first | rfl | cases hm

theorem scheduled_iff_of_next {phase phase' : Phase} (h : phase.next m = some phase')
    (hm : m.isRestart = false) (hfailed : m ≠ .failed true) :
  phase' = .scheduled ↔ phase = .scheduled
  := by
  cases m with
  | failed atStart =>
      cases atStart with
      | true => exact absurd rfl hfailed
      | false => grind [Phase.next, Phase.fails]
  | _ => grind [Phase.next, Mark.isRestart]

/-- When no start fails, all restarts can be counted. -/
theorem tally_of_traced (h : Traced s marks s') (hfailed : Mark.failed true ∉ marks)
    (hpending : pending = true ↔ s.phase = .scheduled) :
  tally pending marks = some (pairedRestarts marks + (pending && startsNext marks).toNat,
    decide (s'.phase = .scheduled))
  := by
  induction marks generalizing s pending with
  | nil =>
      obtain rfl := traced_nil.mp h
      have hdecide : pending = decide (s.phase = .scheduled) := by
        rw [Bool.eq_iff_iff, hpending, decide_eq_true_iff]
      simp [tally, pairedRestarts, startsNext, ← hdecide]
  | cons m marks ih =>
      obtain ⟨s₁, hstep, hrest⟩ := traced_cons.mp h
      obtain ⟨-, hphase, -⟩ := Outage.step_eq_some_iff.mp hstep
      rw [List.mem_cons, not_or] at hfailed
      rcases m.isRestart_cases with rfl | rfl | hm
      · obtain ⟨hs, hs₁⟩ := Option.ite_none_right_eq_some.mp hphase
        obtain rfl : pending = false := by
          rw [← Bool.not_eq_true, hpending, hs]
          decide
        rw [tally, if_neg Bool.false_ne_true,
          @ih _ true hrest hfailed.2 (by simp [← Option.some.inj hs₁])]
        simp [pairedRestarts]
      · obtain ⟨-, hs₁⟩ := Option.ite_none_right_eq_some.mp hphase
        rw [tally, @ih _ false hrest hfailed.2 (by simp [← Option.some.inj hs₁])]
        cases pending with
        | _ => simp [pairedRestarts, startsNext, Mark.isRestart]
      · rw [tally_cons hm, pairedRestarts_cons hm, startsNext_cons hm]
        apply ih hrest hfailed.2
        rw [hpending, scheduled_iff_of_next hphase hm (Ne.symm hfailed.1)]

/-- Nothing happens to a child after its restarts are exhausted. -/
theorem Traced.ended (h : Traced s marks s') (hs : s.phase = .ended) :
  s'.phase = .ended
  := by
  induction marks generalizing s with
  | nil =>
      rw [← traced_nil.mp h]
      exact hs
  | cons m marks ih =>
      obtain ⟨s₁, hstep, hrest⟩ := traced_cons.mp h
      obtain ⟨-, hphase, -⟩ := Outage.step_eq_some_iff.mp hstep
      apply ih hrest
      rw [hs] at hphase
      cases m with
      | _ => grind [Phase.next, Phase.fails]

/-- A child that is down stays down until a restart is scheduled or its restarts are exhausted. -/
theorem down_of_next {phase : Phase} (h : Phase.down.next m = some phase)
    (hm : m.isRestart = false) :
  phase = .down ∨ phase = .ended
  := by
  cases m with
  | _ => grind [Phase.next, Phase.fails, Mark.isRestart]

/-- A child that is down runs again only after a restart that is scheduled and started. -/
theorem pairedRestarts_pos (h : Traced s marks s') (hfailed : Mark.failed true ∉ marks)
    (hs : s.phase = .down ∨ s.phase = .scheduled) (hend : s'.phase = .running) :
  0 < pairedRestarts marks + (decide (s.phase = .scheduled) && startsNext marks).toNat
  := by
  induction marks generalizing s with
  | nil =>
      obtain rfl := traced_nil.mp h
      simp_all
  | cons m marks ih =>
      obtain ⟨s₁, hstep, hrest⟩ := traced_cons.mp h
      obtain ⟨-, hphase, -⟩ := Outage.step_eq_some_iff.mp hstep
      rw [List.mem_cons, not_or] at hfailed
      rcases m.isRestart_cases with rfl | rfl | hm
      · obtain ⟨hdown, hs₁⟩ := Option.ite_none_right_eq_some.mp hphase
        have hscheduled : s₁.phase = .scheduled := (Option.some.inj hs₁).symm
        simpa [hdown, hscheduled, pairedRestarts] using ih hrest hfailed.2 (Or.inr hscheduled)
      · obtain ⟨hstarts, -⟩ := Option.ite_none_right_eq_some.mp hphase
        have hscheduled : s.phase = .scheduled := by
          grind
        simp [hscheduled, startsNext, Mark.isRestart]
      · have hiff := scheduled_iff_of_next hphase hm (Ne.symm hfailed.1)
        rw [pairedRestarts_cons hm, startsNext_cons hm, ← decide_eq_decide.mpr hiff]
        apply ih hrest hfailed.2
        rcases hs with hdown | hscheduled
        · rw [hdown] at hphase
          rcases down_of_next hphase hm with hs₁ | hs₁
          · exact Or.inl hs₁
          · rw [hrest.ended hs₁] at hend
            cases hend
        · exact Or.inr (hiff.mpr hscheduled)

/-- After a start that failed, the next restart cannot be counted. -/
theorem tally_of_down (h : Traced s marks s') (hs : s.phase = .down) (hend : s'.phase = .running) :
  tally true marks = none
  := by
  induction marks generalizing s with
  | nil =>
      obtain rfl := traced_nil.mp h
      simp_all
  | cons m marks ih =>
      obtain ⟨s₁, hstep, hrest⟩ := traced_cons.mp h
      obtain ⟨-, hphase, -⟩ := Outage.step_eq_some_iff.mp hstep
      rw [hs] at hphase
      rcases m.isRestart_cases with rfl | rfl | hm
      · rfl
      · cases hphase
      · rw [tally_cons hm]
        rcases down_of_next hphase hm with hs₁ | hs₁
        · exact ih hrest hs₁
        · rw [hrest.ended hs₁] at hend
          cases hend

theorem phase_ne_idle {phase phase' : Phase} (h : phase.next m = some phase')
    (hphase : phase ≠ .idle) :
  phase' ≠ .idle
  := by
  cases m with
  | _ => grind [Phase.next]

/-- When a start fails, the restarts cannot be counted. -/
theorem tally_of_failed (h : Traced s marks s') (hfailed : Mark.failed true ∈ marks)
    (hpending : pending = true ↔ s.phase = .scheduled) (hs : s.phase ≠ .idle)
    (hend : s'.phase = .running) :
  tally pending marks = none
  := by
  induction marks generalizing s pending with
  | nil => cases hfailed
  | cons m marks ih =>
      obtain ⟨s₁, hstep, hrest⟩ := traced_cons.mp h
      obtain ⟨-, hphase, -⟩ := Outage.step_eq_some_iff.mp hstep
      have hs₁ := phase_ne_idle hphase hs
      by_cases hm : m = .failed true
      · subst hm
        obtain ⟨hfails, hdown⟩ := Option.ite_none_right_eq_some.mp hphase
        obtain rfl : pending = true := hpending.mpr (hfails.resolve_left hs)
        rw [tally_cons rfl]
        exact tally_of_down hrest (Option.some.inj hdown).symm hend
      · have hfailed : Mark.failed true ∈ marks := by
          simpa [Ne.symm hm] using hfailed
        have hih := fun pending => @ih _ pending hrest hfailed
        rcases m.isRestart_cases with rfl | rfl | hm'
        · obtain ⟨hdown, hscheduled⟩ := Option.ite_none_right_eq_some.mp hphase
          rw [tally, hih true (by simp [← Option.some.inj hscheduled]) hs₁, ite_self]
        · obtain ⟨-, hrunning⟩ := Option.ite_none_right_eq_some.mp hphase
          rw [tally, hih false (by simp [← Option.some.inj hrunning]) hs₁]
          rfl
        · rw [tally_cons hm']
          apply hih pending _ hs₁
          rw [hpending, scheduled_iff_of_next hphase hm' hm]

/-- The restarts from a failure on can be counted when no start fails. -/
theorem tally_outage (h : Traced s marks s') (hs : s.phase = .down) (hend : s'.phase = .running) :
  (Mark.failed true ∈ marks ∧ tally false marks = none) ∨
    (Mark.failed true ∉ marks ∧ tally false marks = some (pairedRestarts marks, false) ∧
      0 < pairedRestarts marks)
  := by
  have hpending : false = true ↔ s.phase = .scheduled := by
    simp [hs]
  by_cases hfailed : Mark.failed true ∈ marks
  · exact Or.inl ⟨hfailed, tally_of_failed h hfailed hpending (by simp [hs]) hend⟩
  · right
    refine ⟨hfailed, ?_, ?_⟩
    · simpa [hend] using tally_of_traced h hfailed hpending
    · simpa [hs] using pairedRestarts_pos h hfailed (Or.inl hs) hend

end Restarts

end Supervisor

end RobotestLab
